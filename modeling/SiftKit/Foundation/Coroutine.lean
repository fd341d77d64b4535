/-! # Coroutines over a shared state

An `async` function runs without interruption up to its next `await`; there it asks a
question of the world and goes on with the answer, in whatever state the shared data are
by then.  A coroutine is what such a function is: from the state of the moment, either its
end or the question it waits with and what it does with the answer.

The program logic is the usual one for rely and guarantee: a contract says what may be
relied on between a question and its answer, and what holds whenever the coroutine stops.
-/

namespace SiftKit.Coroutine

/-- The questions a family of coroutines asks, and the answers they take. -/
structure Interface where
  Question : Type
  Answer : Question → Type

variable {interface : Interface} {State Failure Result Next World : Type}

/-- Where a coroutine stops. -/
inductive Node (interface : Interface) (State Failure Result : Type) where
  | returned (state : State) (result : Result)
  | threw (state : State) (failure : Failure)
  | waits (state : State) (question : interface.Question)
    (resume : interface.Answer question → State → Node interface State Failure Result)

def Coroutine (interface : Interface) (State Failure Result : Type) : Type :=
  State → Node interface State Failure Result

/-! ## Sequences -/

/-- The state a coroutine leaves where it stops. -/
def Node.state : Node interface State Failure Result → State
  | .returned state _ => state
  | .threw state _ => state
  | .waits state _ _ => state

def Node.bind (next : Result → State → Node interface State Failure Next) :
    Node interface State Failure Result → Node interface State Failure Next
  | .returned state result => next result state
  | .threw state failure => .threw state failure
  | .waits state question resume => .waits state question fun answer later => (resume answer later).bind next

instance : Monad (Coroutine interface State Failure) where
  pure result := fun state => .returned state result
  bind first next := fun state => (first state).bind next

/-- `throw failure`. -/
def throw (failure : Failure) : Coroutine interface State Failure Result :=
  fun state => .threw state failure

/-- `await`. -/
def ask (question : interface.Question) : Coroutine interface State Failure (interface.Answer question) :=
  fun state => .waits state question fun answer later => .returned later answer

def read (project : State → Result) : Coroutine interface State Failure Result :=
  fun state => .returned state (project state)

def modify (change : State → State) : Coroutine interface State Failure Unit :=
  fun state => .returned (change state) ()

/-- A computation that may throw. -/
def ofExcept : Except Failure Result → Coroutine interface State Failure Result
  | .ok result => pure result
  | .error failure => throw failure

def Node.catch (handler : Failure → State → Node interface State Failure Result) :
    Node interface State Failure Result → Node interface State Failure Result
  | .returned state result => .returned state result
  | .threw state failure => handler failure state
  | .waits state question resume => .waits state question fun answer later => (resume answer later).catch handler

/-- `try { body } catch (failure) { handler }`. -/
def attempt (body : Coroutine interface State Failure Result)
    (handler : Failure → Coroutine interface State Failure Result) : Coroutine interface State Failure Result :=
  fun state => (body state).catch handler

/-! ## Contracts -/

/-- What a coroutine may rely on, and what it guarantees whenever it stops. -/
structure Contract (interface : Interface) (State Failure : Type) where
  /-- The state of a question, the question, its answer and the state of the answer. -/
  rely : State → (question : interface.Question) → interface.Answer question → State → Prop
  asks : State → Prop
  throws : Failure → State → Prop

section Logic

variable (contract : Contract interface State Failure)

/-- Under the contract, the coroutine that stopped here ends as `returns` says or throws. -/
def Node.Ensures (returns : Result → State → Prop) : Node interface State Failure Result → Prop
  | .returned state result => returns result state
  | .threw state failure => contract.throws failure state
  | .waits state question resume => contract.asks state ∧
      ∀ answer later, contract.rely state question answer later → (resume answer later).Ensures returns

/-- A Hoare triple: started in a state that meets `before`, the coroutine ensures `returns`. -/
def Triple (before : State → Prop) (program : Coroutine interface State Failure Result)
    (returns : Result → State → Prop) : Prop :=
  ∀ state, before state → (program state).Ensures contract returns

variable {contract}

variable {node : Node interface State Failure Result} {returns : Result → State → Prop} {before : State → Prop}

theorem Node.Ensures.mono {strong weak : Result → State → Prop}
    (implies : ∀ result state, strong result state → weak result state) (ensures : node.Ensures contract strong) :
    node.Ensures contract weak := by
  induction node with
  | returned state result => exact implies result state ensures
  | threw state failure => exact ensures
  | waits state question resume ih =>
    exact ⟨ensures.1, fun answer later relied => ih answer later (ensures.2 answer later relied)⟩

theorem Node.Ensures.bind {middle : Result → State → Prop} {returns : Next → State → Prop}
    {next : Result → State → Node interface State Failure Next} (first : node.Ensures contract middle)
    (second : ∀ result state, middle result state → (next result state).Ensures contract returns) :
    (node.bind next).Ensures contract returns := by
  induction node with
  | returned state result => exact second result state first
  | threw state failure => exact first
  | waits state question resume ih =>
    exact ⟨first.1, fun answer later relied => ih answer later (first.2 answer later relied)⟩

theorem Node.Ensures.catch {thrown : Failure → State → Prop}
    {handler : Failure → State → Node interface State Failure Result}
    (body : node.Ensures { contract with throws := thrown } returns)
    (handled : ∀ failure state, thrown failure state → (handler failure state).Ensures contract returns) :
    (node.catch handler).Ensures contract returns := by
  induction node with
  | returned state result => exact body
  | threw state failure => exact handled failure state body
  | waits state question resume ih =>
    exact ⟨body.1, fun answer later relied => ih answer later (body.2 answer later relied)⟩

theorem Triple.attempt (thrown : Failure → State → Prop) {body : Coroutine interface State Failure Result}
    {handler : Failure → Coroutine interface State Failure Result}
    (tried : Triple { contract with throws := thrown } before body returns)
    (handled : ∀ failure, Triple contract (thrown failure) (handler failure) returns) :
    Triple contract before (attempt body handler) returns :=
  fun state holds => (tried state holds).catch handled

theorem Triple.bind {first : Coroutine interface State Failure Result}
    {next : Result → Coroutine interface State Failure Next} (middle : Result → State → Prop)
    {returns : Next → State → Prop} (firstEnsures : Triple contract before first middle)
    (nextEnsures : ∀ result, Triple contract (middle result) (next result) returns) :
    Triple contract before (first >>= next) returns :=
  fun state holds => (firstEnsures state holds).bind fun result later reached => nextEnsures result later reached

theorem Triple.consequence {weak strong : State → Prop} {program : Coroutine interface State Failure Result}
    {wider : Result → State → Prop} (triple : Triple contract weak program returns)
    (before : ∀ state, strong state → weak state) (after : ∀ result state, returns result state → wider result state) :
    Triple contract strong program wider :=
  fun state holds => (triple state (before state holds)).mono after

theorem Triple.throw {failure : Failure} : Triple contract (contract.throws failure) (throw failure) returns :=
  fun _ holds => holds

theorem Triple.ofExcept {computation : Except Failure Result}
    (succeeds : ∀ result, computation = .ok result → ∀ state, before state → returns result state)
    (fails : ∀ failure, computation = .error failure → ∀ state, before state → contract.throws failure state) :
    Triple contract before (ofExcept computation) returns := by
  intro state holds
  cases computation with
  | ok result => exact succeeds result rfl state holds
  | error failure => exact fails failure rfl state holds

theorem Triple.ite {condition : Prop} [Decidable condition]
    {thenBranch elseBranch : Coroutine interface State Failure Result}
    (holds : condition → Triple contract before thenBranch returns)
    (fails : ¬condition → Triple contract before elseBranch returns) :
    Triple contract before (if condition then thenBranch else elseBranch) returns := by
  split
  next isTrue => exact holds isTrue
  next isFalse => exact fails isFalse

end Logic

/-! ## Plays -/

inductive Outcome (Failure Result : Type) where
  | returned (result : Result)
  | threw (failure : Failure)
  deriving DecidableEq, Repr

/-- A world that answers every question, within what may be relied on. -/
structure Environment (interface : Interface) (State World : Type)
    (rely : State → (question : interface.Question) → interface.Answer question → State → Prop) where
  answer : World → State → (question : interface.Question) → World × State × interface.Answer question
  relied : ∀ world state question,
    rely state question (answer world state question).2.2 (answer world state question).2.1

/-- The coroutine and the world take turns until the coroutine ends; a coroutine always does. -/
def Node.play {rely : State → (question : interface.Question) → interface.Answer question → State → Prop}
    (environment : Environment interface State World rely) :
    World → Node interface State Failure Result → Outcome Failure Result × State
  | _, .returned state result => (.returned result, state)
  | _, .threw state failure => (.threw failure, state)
  | world, .waits state question resume =>
    let (nextWorld, later, answer) := environment.answer world state question
    (resume answer later).play environment nextWorld

/-- An end that a contract and a postcondition allow. -/
def Meets (contract : Contract interface State Failure) (returns : Result → State → Prop) :
    Outcome Failure Result × State → Prop
  | (.returned result, state) => returns result state
  | (.threw failure, state) => contract.throws failure state

theorem Node.Ensures.play {contract : Contract interface State Failure}
    (environment : Environment interface State World contract.rely) {returns : Result → State → Prop}
    {node : Node interface State Failure Result} (ensures : node.Ensures contract returns) (world : World) :
    Meets contract returns (node.play environment world) := by
  induction node generalizing world with
  | returned state result => exact ensures
  | threw state failure => exact ensures
  | waits state question resume ih =>
    exact ih _ _ (ensures.2 _ _ (environment.relied world state question)) _

end SiftKit.Coroutine
