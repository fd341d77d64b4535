import SiftKit.Chat.RunFencing

/-! # Servers that share one database

Any number of processes acquire the lease of the database, lose it, and write chat evidence under the
epochs they were given.  A process that stalled goes on with an epoch it held before, so a process
writes under any epoch it ever acquired.
-/

namespace SiftKit.Chat

open SiftKit.Json SiftKit.Failure SiftKit.Runs ChatJournalStore ChatRunRecorder

variable {Process : Type} [DecidableEq Process]

structure ServerSystem (Process : Type) where
  store : ChatJournalStore
  now : Int
  /-- Each owner that was ever acquired, with its process, in their order. -/
  owners : List (Process × ChatRuntimeOwner)

inductive ServerCall (Process : Type) where
  /-- The clock moves. -/
  | tick (now : Int)
  | acquire (process : Process) (ownerId : String)
  | renew (process : Process) (owner : ChatRuntimeOwner)
  | release (process : Process) (owner : ChatRuntimeOwner)
  /-- `ChatRunRecorder.begin`. -/
  | begin (process : Process) (start : Start) (moment : Moment)
  /-- An operation of a recorder, whatever the recorder has in memory. -/
  | record (process : Process) (recorder : ChatRunRecorder) (call : RecorderCall) (moment : Moment)
  | closeOrphanedChatRun (process : Process) (operationId ownerEpoch : String)
      (closing : ChatJournalStore → Except Thrown Closure) (moment : Moment)

namespace ServerSystem

def start (Process : Type) (now : Int) : ServerSystem Process := ⟨empty, now, []⟩

def acquired (system : ServerSystem Process) (process : Process) (ownerEpoch : String) : Bool :=
  system.owners.any fun held => held.1 = process && held.2.ownerEpoch = ownerEpoch

/-- A transaction reads the clock of the system. -/
def clocked (system : ServerSystem Process) (moment : Moment) : Moment := { moment with now := system.now }

def writeOwner (system : ServerSystem Process) (owner : OwnerTable) : ServerSystem Process :=
  { system with store := { system.store with owner := owner } }

def acquire (system : ServerSystem Process) (process : Process) (ownerId : String) : ServerSystem Process :=
  match ChatRuntimeOwner.acquire system.store.owner ownerId system.now with
  | .ok (owner, table) => { system.writeOwner table with owners := system.owners ++ [(process, owner)] }
  | .error _ => system

/-- A process writes the lease row for an owner of its own. -/
def asOwner (system : ServerSystem Process) (process : Process) (owner : ChatRuntimeOwner) (table : Except Thrown OwnerTable) :
    ServerSystem Process :=
  match table with
  | .ok table => if (process, owner) ∈ system.owners then system.writeOwner table else system
  | .error _ => system

def writeAs (system : ServerSystem Process) (process : Process) (ownerEpoch : String) (after : ChatJournalStore) : ServerSystem Process :=
  if system.acquired process ownerEpoch then { system with store := after } else system

def step (format : EventFormat) (system : ServerSystem Process) : ServerCall Process → ServerSystem Process
  | .tick now => { system with now := now }
  | .acquire process ownerId => system.acquire process ownerId
  | .renew process owner => system.asOwner process owner (owner.renew system.store.owner system.now)
  | .release process owner => system.asOwner process owner (.ok (owner.release system.store.owner system.now))
  | .begin process start moment => system.writeAs process start.ownerEpoch
      (committed system.store (ChatRunRecorder.begin format (system.clocked moment) start system.store))
  | .record process recorder call moment => system.writeAs process recorder.ownerEpoch
      (call.perform format (system.clocked moment) recorder system.store).store
  | .closeOrphanedChatRun process operationId ownerEpoch closing moment => system.writeAs process ownerEpoch
      (committed system.store
        (silent (SiftKit.Chat.closeOrphanedChatRun format (system.clocked moment) closing operationId ownerEpoch system.store)))

/-- The process that a call writes for, and the epoch it writes under. -/
def writer : ServerCall Process → Option (Process × String)
  | .begin process start _ => some (process, start.ownerEpoch)
  | .record process recorder _ _ => some (process, recorder.ownerEpoch)
  | .closeOrphanedChatRun process _ ownerEpoch _ _ => some (process, ownerEpoch)
  | _ => none

/-! ## Epochs -/

variable {process : Process} {table : Except Thrown OwnerTable}

section Epochs

variable {format : EventFormat} {system : ServerSystem Process}

/-- The epochs grow, and the lease row has the highest one. -/
structure OwnersKept (system : ServerSystem Process) : Prop where
  grow : (system.owners.map fun held => held.2.epoch).Pairwise (· < ·)
  last : ∀ held ∈ system.owners, ∃ row, system.store.owner = some row ∧ held.2.epoch ≤ row.epoch

omit [DecidableEq Process] in
theorem ownersKept_writeOwner {table : OwnerTable} (kept : OwnersKept system)
    (sameEpoch : table.map OwnerRow.epoch = system.store.owner.map OwnerRow.epoch) : OwnersKept (system.writeOwner table) := by
  refine ⟨kept.grow, fun held member => ?_⟩
  obtain ⟨row, isRow, low⟩ := kept.last held member
  rw [isRow, Option.map_some, Option.map_eq_some_iff] at sameEpoch
  obtain ⟨next, isNext, epoch⟩ := sameEpoch
  exact ⟨next, isNext, by omega⟩

theorem epoch_setLease (owner : ChatRuntimeOwner) (table : OwnerTable) (leaseExpiresAt : Int) :
    (owner.setLease table leaseExpiresAt).map OwnerRow.epoch = table.map OwnerRow.epoch := by
  cases table with
  | none => rfl
  | some row =>
    simp only [ChatRuntimeOwner.setLease, Option.map_some]
    split <;> rfl

omit [DecidableEq Process] in
theorem acquired_grows {ownerId : String} {owner : ChatRuntimeOwner} {table : OwnerTable} (kept : OwnersKept system)
    (acquired : ChatRuntimeOwner.acquire system.store.owner ownerId system.now = .ok (owner, table)) :
    ∀ held ∈ system.owners, held.2.epoch < owner.epoch := by
  intro held member
  obtain ⟨row, isRow, low⟩ := kept.last held member
  have epoch := (ChatRuntimeOwner.acquire_eq_ok acquired).1
  rw [isRow] at epoch
  simp only [Option.map_some, Option.getD_some] at epoch
  omega

omit [DecidableEq Process] in
theorem ownersKept_acquire (kept : OwnersKept system) (process : Process) (ownerId : String) :
    OwnersKept (system.acquire process ownerId) := by
  unfold acquire
  split
  next owner table acquired =>
    have higher := acquired_grows kept acquired
    obtain ⟨_, isTable⟩ := ChatRuntimeOwner.acquire_eq_ok acquired
    constructor
    · simp only [List.map_append, List.map_cons, List.map_nil]
      rw [List.pairwise_append]
      refine ⟨kept.grow, List.pairwise_singleton _ _, fun early earlyMember late lateMember => ?_⟩
      obtain ⟨held, member, rfl⟩ := List.mem_map.mp earlyMember
      rw [List.mem_singleton.mp lateMember]
      exact higher held member
    · intro held member
      refine ⟨_, isTable, ?_⟩
      cases List.mem_append.mp member with
      | inl before => exact Nat.le_of_lt (higher held before)
      | inr isNew => rw [List.mem_singleton.mp isNew]
  · exact kept

theorem ownersKept_asOwner {owner : ChatRuntimeOwner} (kept : OwnersKept system)
    (sameEpoch : ∀ written, table = .ok written → written.map OwnerRow.epoch = system.store.owner.map OwnerRow.epoch) :
    OwnersKept (system.asOwner process owner table) := by
  cases table with
  | error failure => exact kept
  | ok table =>
    simp only [asOwner]
    split
    · exact ownersKept_writeOwner kept (sameEpoch table rfl)
    · exact kept

end Epochs

/-! ## Steps -/

variable {format : EventFormat} {system : ServerSystem Process}

/-- What a step does: it writes a course for one of the owners, or it leaves runs and events alone. -/
inductive Stepped (format : EventFormat) (system after : ServerSystem Process) : ServerCall Process → Prop where
  | wrote {call : ServerCall Process} {process : Process} {ownerEpoch : String} (isWriter : writer call = some (process, ownerEpoch))
      (isAcquired : system.acquired process ownerEpoch = true)
      (course : Course format ownerEpoch system.now system.store after.store) (owners : after.owners = system.owners)
      (now : after.now = system.now) : Stepped format system after call
  | kept {call : ServerCall Process} (runs : after.store.runs = system.store.runs) (events : after.store.events = system.store.events)
      (owners : OwnersKept system → OwnersKept after) : Stepped format system after call

variable {call : ServerCall Process} {ownerEpoch : String} {after store : ChatJournalStore}

theorem stepped_writeAs (isWriter : writer call = some (process, ownerEpoch))
    (course : Course format ownerEpoch system.now system.store after) :
    Stepped format system (system.writeAs process ownerEpoch after) call := by
  unfold writeAs
  split
  next isAcquired => exact .wrote isWriter isAcquired course rfl rfl
  · exact .kept rfl rfl id

theorem stepped_asOwner (call : ServerCall Process) (process : Process) (owner : ChatRuntimeOwner)
    (sameEpoch : ∀ written, table = .ok written → written.map OwnerRow.epoch = system.store.owner.map OwnerRow.epoch) :
    Stepped format system (system.asOwner process owner table) call := by
  have owners : OwnersKept system → OwnersKept (system.asOwner process owner table) := fun kept => ownersKept_asOwner kept sameEpoch
  cases table with
  | error failure => exact .kept rfl rfl owners
  | ok table =>
    simp only [asOwner] at owners ⊢
    split
    next own =>
      rw [if_pos own] at owners
      exact .kept rfl rfl owners
    · exact .kept rfl rfl id

theorem stepped (format : EventFormat) (system : ServerSystem Process) (call : ServerCall Process) :
    Stepped format system (step format system call) call := by
  cases call with
  | tick now => exact .kept rfl rfl fun kept => ⟨kept.grow, kept.last⟩
  | acquire process ownerId =>
    have owners : OwnersKept system → OwnersKept (system.acquire process ownerId) := fun kept => ownersKept_acquire kept process ownerId
    simp only [step]
    unfold acquire at owners ⊢
    cases acquired : ChatRuntimeOwner.acquire system.store.owner ownerId system.now with
    | error failure => exact .kept rfl rfl id
    | ok answer =>
      rw [acquired] at owners
      exact .kept rfl rfl owners
  | renew process owner =>
    refine stepped_asOwner (.renew process owner) process owner fun written renewed => ?_
    simp only [ChatRuntimeOwner.renew, bind_eq_ok, pure_eq_ok] at renewed
    obtain ⟨_, _, rfl⟩ := renewed
    exact epoch_setLease owner system.store.owner _
  | release process owner =>
    have sameEpoch : ∀ written, Except.ok (owner.release system.store.owner system.now) = (.ok written : Except Thrown OwnerTable) →
        written.map OwnerRow.epoch = system.store.owner.map OwnerRow.epoch := by
      intro written released
      cases released
      exact epoch_setLease owner system.store.owner _
    exact stepped_asOwner (.release process owner) process owner sameEpoch
  | begin process start moment =>
    apply stepped_writeAs rfl
    cases began : ChatRunRecorder.begin format (system.clocked moment) start system.store with
    | error failure => exact .refl
    | ok answer => exact begin_course began
  | record process recorder call moment =>
    apply stepped_writeAs rfl
    exact (writes_perform format (system.clocked moment) call recorder system.store).course
  | closeOrphanedChatRun process operationId ownerEpoch closing moment =>
    apply stepped_writeAs rfl
    cases closed : SiftKit.Chat.closeOrphanedChatRun format (system.clocked moment) closing operationId ownerEpoch system.store with
    | error failure => exact .refl
    | ok after => exact (closeOrphanedChatRun_course closed).1

/-! ## What every system keeps -/

structure Consistent (format : EventFormat) (system : ServerSystem Process) : Prop where
  owners : OwnersKept system
  wellFormed : WellFormed format.journal system.store
  concludes : ∀ row ∈ system.store.runs, Concludes format row (system.store.eventsOf row.operationId)

omit [DecidableEq Process] in
theorem wellFormed_of_same (wellFormed : WellFormed format.journal store) (runs : after.runs = store.runs)
    (events : after.events = store.events) : WellFormed format.journal after := by
  have same : after = { store with owner := after.owner } := by
    cases after
    cases runs
    cases events
    rfl
  rw [same]
  exact wellFormed.effect (.ownerWritten after.owner)

theorem course_concludes {now : Int} (wellFormed : WellFormed format.journal store)
    (concludes : ∀ row ∈ store.runs, Concludes format row (store.eventsOf row.operationId))
    (course : Course format ownerEpoch now store after) :
    ∀ row ∈ after.runs, Concludes format row (after.eventsOf row.operationId) := by
  intro row member
  have isRow := (course_wellFormed wellFormed course).isRow member
  cases found : store.runs.find? (isRun row.operationId) with
  | none => exact (course_fresh wellFormed course found isRow).2.1
  | some before =>
    obtain ⟨next, added, isNext, events, isCourse⟩ := course_run course found
    obtain rfl := Option.some_inj.mp (isRow.symm.trans isNext)
    have early := concludes before (List.mem_of_find?_eq_some found)
    rw [IsRow.operationId found] at early
    rw [events]
    exact isCourse.concludes _ early

omit [DecidableEq Process] in
theorem Consistent.course {now : Int} (consistent : Consistent format system)
    (course : Course format ownerEpoch now system.store store) : Consistent format { system with store := store } := by
  refine ⟨⟨consistent.owners.grow, fun held member => ?_⟩, course_wellFormed consistent.wellFormed course,
    course_concludes consistent.wellFormed consistent.concludes course⟩
  rw [course_owner course]
  exact consistent.owners.last held member

theorem Consistent.stepped {after : ServerSystem Process} (consistent : Consistent format system)
    (isStepped : Stepped format system after call) : Consistent format after := by
  cases isStepped with
  | wrote _ _ course owners =>
    obtain ⟨⟨grow, last⟩, wellFormed, concludes⟩ := consistent.course course
    refine ⟨⟨?_, ?_⟩, wellFormed, concludes⟩
    · rw [owners]
      exact grow
    · rw [owners]
      exact last
  | kept runs events owners =>
    refine ⟨owners consistent.owners, wellFormed_of_same consistent.wellFormed runs events, ?_⟩
    unfold eventsOf
    rw [runs, events]
    exact consistent.concludes

theorem consistent_start (format : EventFormat) (Process : Type) (now : Int) : Consistent format (start Process now) := by
  refine ⟨⟨.nil, ?_⟩, wellFormed_empty format.journal, ?_⟩
  · intro held member
    cases member
  · intro row member
    cases member

theorem consistent_run (format : EventFormat) (now : Int) (calls : List (ServerCall Process)) :
    Consistent format (run (step format) (start Process now) calls) :=
  run_invariant (Consistent format) (fun system call consistent => consistent.stepped (stepped format system call))
    (consistent_start format Process now) calls

/-! ## Who writes -/

/-- Whoever is let through by the lease is the owner that holds it. -/
theorem assertOwned_of_lease (consistent : Consistent format system)
    (isAcquired : system.acquired process ownerEpoch = true)
    (leased : system.store.requireLease ownerEpoch system.now = .ok ()) :
    ∃ owner, (process, owner) ∈ system.owners ∧ owner.ownerEpoch = ownerEpoch ∧
      owner.assertOwned system.store.owner system.now = .ok () := by
  unfold acquired at isAcquired
  obtain ⟨⟨holder, owner⟩, member, same⟩ := List.any_eq_true.mp isAcquired
  simp only [Bool.and_eq_true, decide_eq_true_eq] at same
  obtain ⟨rfl, rfl⟩ := same
  obtain ⟨row, isRow, _⟩ := consistent.owners.last _ member
  simp only [requireLease, isRow, bind_eq_ok, throwWhen_eq_ok, Bool.not_eq_false', Bool.or_eq_false_iff,
    bne_eq_false_iff_eq, decide_eq_false_iff_not, Int.not_le] at leased
  obtain ⟨_, accepts, epochs, live⟩ := leased
  obtain ⟨ownerId, epoch⟩ := ownerEpoch_inj epochs
  exact ⟨owner, member, rfl, ChatRuntimeOwner.assertOwned_eq_ok.mpr ⟨row, isRow, accepts, ownerId, epoch, live⟩⟩

section

variable {after : ServerSystem Process} (consistent : Consistent format system)
  (isStepped : Stepped format system after call)

include consistent isStepped

/-- An event of an execution is written by the owner that holds the lease, to a run of its own. -/
theorem written_by_owner {event : EventRow} (member : event ∈ after.store.events)
    (isNew : event ∉ system.store.events) {row : RunRow} (isRow : IsRow after.store event.operationId row)
    (isExecution : row.recordKind = .execution) :
    ∃ process owner, writer call = some (process, owner.ownerEpoch) ∧ (process, owner) ∈ system.owners ∧
      owner.assertOwned system.store.owner system.now = .ok () ∧ row.ownerEpoch = owner.ownerEpoch := by
  cases isStepped with
  | kept runs events =>
    rw [events] at member
    exact absurd member isNew
  | @wrote process ownerEpoch isWriter isAcquired course owners now =>
    have ofRun : event ∈ after.store.eventsOf event.operationId := List.mem_filter.mpr ⟨member, beq_self_eq_true _⟩
    have admitted : row.ownerEpoch = ownerEpoch ∧ system.store.requireLease ownerEpoch system.now = .ok () := by
      cases found : system.store.runs.find? (isRun event.operationId) with
      | none =>
        obtain ⟨owner, _, leased⟩ := course_fresh consistent.wellFormed course found isRow
        exact ⟨owner, leased (List.ne_nil_of_mem ofRun) isExecution⟩
      | some before =>
        obtain ⟨next, added, isNext, events, isCourse⟩ := course_run course found
        obtain rfl := Option.some_inj.mp (isRow.symm.trans isNext)
        have some : added ≠ [] := by
          rintro rfl
          rw [events, List.append_nil] at ofRun
          exact isNew (List.mem_filter.mp ofRun).1
        refine ⟨?_, isCourse.leased some (isCourse.kind.symm.trans isExecution)⟩
        cases isCourse.owner with
        | inl same => exact absurd same.2 some
        | inr own => exact own.1
    obtain ⟨owner, held, rfl, owned⟩ := assertOwned_of_lease consistent isAcquired admitted.2
    exact ⟨process, owner, isWriter, held, owned, admitted.1⟩

/-! ## Closed runs -/

/-- A step leaves an ended run and its events to their owner, and as they are where another one writes. -/
theorem settled_stepped {operationId : String} {row : RunRow}
    (settled : Settled system.store operationId ownerEpoch row) :
    after.store.eventsOf operationId = system.store.eventsOf operationId ∧
      ∃ next, Settled after.store operationId ownerEpoch next ∧ next.terminalCause = row.terminalCause ∧
        ((∀ process, writer call ≠ some (process, ownerEpoch)) → next = row) := by
  cases isStepped with
  | kept runs events =>
    refine ⟨by unfold eventsOf; rw [events], row, ⟨?_, settled.ended, settled.owner⟩, rfl, fun _ => rfl⟩
    rw [IsRow, runs]
    exact settled.isRow
  | @wrote process epoch isWriter _ course =>
    obtain ⟨next, added, isNext, events, isCourse⟩ := course_run course settled.isRow
    have keeps := course_keeps consistent.wellFormed course
    have member := IsRow.mem settled.isRow
    have ownId := IsRow.operationId settled.isRow
    obtain ⟨other, otherMember, follows⟩ := keeps.runs row member
    have sameRow : other = next := by
      apply (course_wellFormed consistent.wellFormed course).row_unique otherMember (IsRow.mem isNext)
      rw [follows.operationId, ownId, IsRow.operationId isNext]
    subst sameRow
    have sameCause := follows.terminalCause settled.ended
    have sameEvents := keeps.ended row member settled.ended
    rw [ownId] at sameEvents
    refine ⟨sameEvents, other, ⟨isNext, by rw [sameCause]; exact settled.ended, ?_⟩, sameCause, fun foreign => ?_⟩
    · cases isCourse.owner with
      | inl same => rw [same.1, settled.owner]
      | inr own =>
        cases own.2 with
        | inl owner => rw [own.1, ← owner, settled.owner]
        | inr unfinished => exact absurd unfinished settled.ended
    · cases isCourse.owner with
      | inl same => exact same.1
      | inr own =>
        cases own.2 with
        | inl owner =>
          rw [settled.owner] at owner
          subst owner
          exact absurd isWriter (foreign process)
        | inr unfinished => exact absurd unfinished settled.ended

end

/-- The run stays closed: its owner, its terminal cause and its events do not change any more. -/
theorem settled_run (consistent : Consistent format system) {operationId : String} {row : RunRow}
    (settled : Settled system.store operationId ownerEpoch row) (later : List (ServerCall Process)) :
    (run (step format) system later).store.eventsOf operationId = system.store.eventsOf operationId ∧
      ∃ next, Settled (run (step format) system later).store operationId ownerEpoch next ∧ next.terminalCause = row.terminalCause := by
  induction later generalizing system row with
  | nil => exact ⟨rfl, row, settled, rfl⟩
  | cons call later ih =>
    have isStepped := stepped format system call
    obtain ⟨events, next, nextSettled, cause, _⟩ := settled_stepped consistent isStepped settled
    obtain ⟨lastEvents, last, lastSettled, lastCause⟩ := ih (consistent.stepped isStepped) nextSettled
    exact ⟨lastEvents.trans events, last, lastSettled, lastCause.trans cause⟩

/-! ## The contract -/

/-- What holds of the servers after any calls. -/
structure FencingContract (format : EventFormat) (system : ServerSystem Process) : Prop where
  /-- Owner epochs strictly grow. -/
  epochs : (system.owners.map fun held => held.2.epoch).Pairwise (· < ·)
  next : ∀ ownerId owner table, ChatRuntimeOwner.acquire system.store.owner ownerId system.now = .ok (owner, table) →
    ∀ held ∈ system.owners, held.2.epoch < owner.epoch
  /-- At most one owner, and so one epoch, passes the check of the lease. -/
  exclusive : ∀ first second : ChatRuntimeOwner, first.assertOwned system.store.owner system.now = .ok () →
    second.assertOwned system.store.owner system.now = .ok () → first = second
  /-- An event of an execution comes from the owner that holds the unexpired lease, and that owns the run. -/
  written : ∀ call event row, event ∈ (step format system call).store.events → event ∉ system.store.events →
    IsRow (step format system call).store event.operationId row → row.recordKind = .execution →
    ∃ process owner, writer call = some (process, owner.ownerEpoch) ∧ (process, owner) ∈ system.owners ∧
      owner.assertOwned system.store.owner system.now = .ok () ∧ row.ownerEpoch = owner.ownerEpoch
  /-- A run that was closed stays closed, its events stay as they are, and no other epoch changes anything of it. -/
  closed : ∀ operationId ownerEpoch closing moment after,
    closeOrphanedChatRun format (system.clocked moment) closing operationId ownerEpoch system.store = .ok after →
    ∀ later, let final := run (step format) { system with store := after } later
      final.store.eventsOf operationId = after.eventsOf operationId ∧
        ∃ row, Settled final.store operationId ownerEpoch row ∧
          ∀ call, (∀ process, writer call ≠ some (process, ownerEpoch)) →
            IsRow (step format final call).store operationId row ∧
              (step format final call).store.eventsOf operationId = final.store.eventsOf operationId
  /-- At most one event of a run ends it: the last one, which agrees with the terminal cause. -/
  concluded : ∀ row ∈ system.store.runs, Concludes format row (system.store.eventsOf row.operationId)

theorem serverFencing_contract (format : EventFormat) (now : Int) (calls : List (ServerCall Process)) :
    FencingContract format (run (step format) (start Process now) calls) := by
  have consistent := consistent_run format now calls
  generalize run (step format) (start Process now) calls = system at consistent
  constructor
  · exact consistent.owners.grow
  · intro ownerId owner table acquired
    exact acquired_grows consistent.owners acquired
  · intro first second isFirst isSecond
    exact ChatRuntimeOwner.assertOwned_unique isFirst isSecond
  · intro call event row member isNew isRow isExecution
    exact written_by_owner consistent (stepped format system call) member isNew isRow isExecution
  · intro operationId ownerEpoch closing moment after closed later
    obtain ⟨course, row, settled⟩ := closeOrphanedChatRun_course closed
    have consistentAfter := consistent.course course
    obtain ⟨events, last, lastSettled, _⟩ := settled_run consistentAfter settled later
    have consistentLast : Consistent format (run (step format) { system with store := after } later) :=
      run_invariant (Consistent format) (fun system call consistent => consistent.stepped (stepped format system call)) consistentAfter later
    refine ⟨events, last, lastSettled, fun call foreign => ?_⟩
    obtain ⟨sameEvents, next, nextSettled, _, same⟩ := settled_stepped consistentLast (stepped format _ call) lastSettled
    obtain rfl := same foreign
    exact ⟨nextSettled.isRow, sameEvents⟩
  · exact consistent.concludes

end ServerSystem

end SiftKit.Chat
