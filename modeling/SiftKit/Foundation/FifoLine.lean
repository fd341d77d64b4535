import Mathlib.Data.List.Basic

/-! # First-in first-out admission

Waiters stand in one line and are admitted from its head for as long as the
head fits beside the present holders.  Nothing here says what "fits" means: the
results hold for any admission test, and an exclusion property of the holders
carries over whenever the test protects it.
-/

namespace SiftKit.FifoLine

variable {Holder Waiter : Type} (admits : Waiter → List Holder → Bool) (hold : Waiter → Holder)

/-- The waiters admitted by one drain, in line order. -/
def admitted : List Holder → List Waiter → List Waiter
  | _, [] => []
  | holders, next :: rest =>
    if admits next holders then next :: admitted (holders ++ [hold next]) rest else []

def drainedHolders : List Holder → List Waiter → List Holder
  | holders, [] => holders
  | holders, next :: rest =>
    if admits next holders then drainedHolders (holders ++ [hold next]) rest else holders

/-- The waiters one drain leaves in line. -/
def drainedWaiters : List Holder → List Waiter → List Waiter
  | _, [] => []
  | holders, next :: rest =>
    if admits next holders then drainedWaiters (holders ++ [hold next]) rest else next :: rest

variable (holders : List Holder) (waiters : List Waiter) {leaves : Waiter → Bool}

theorem admitted_append_drainedWaiters :
    admitted admits hold holders waiters ++ drainedWaiters admits hold holders waiters = waiters := by
  induction waiters generalizing holders with
  | nil => rfl
  | cons next rest ih =>
    simp only [admitted, drainedWaiters]
    split
    · rw [List.cons_append, ih]
    · rfl

theorem drainedHolders_eq :
    drainedHolders admits hold holders waiters =
      holders ++ (admitted admits hold holders waiters).map hold := by
  induction waiters generalizing holders with
  | nil => simp [drainedHolders, admitted]
  | cons next rest ih =>
    simp only [drainedHolders, admitted]
    split
    · rw [ih, List.map_cons, List.append_assoc, List.singleton_append]
    · simp

theorem drainedWaiters_blocked (head : Waiter)
    (atHead : (drainedWaiters admits hold holders waiters).head? = some head) :
    admits head (drainedHolders admits hold holders waiters) = false := by
  induction waiters generalizing holders with
  | nil => simp [drainedWaiters] at atHead
  | cons next rest ih =>
    simp only [drainedWaiters, drainedHolders] at atHead ⊢
    split at atHead
    · next fits => simpa [fits] using ih _ atHead
    · next blocked =>
      obtain rfl : next = head := by simpa using atHead
      simp [blocked]

theorem drained_of_blocked (blocked : ∀ head, waiters.head? = some head → admits head holders = false) :
    drainedWaiters admits hold holders waiters = waiters ∧
      drainedHolders admits hold holders waiters = holders := by
  cases waiters with
  | nil => exact ⟨rfl, rfl⟩
  | cons next rest => simp [drainedWaiters, drainedHolders, blocked next rfl]

/-! ## Withdrawals

Some of the waiters leave, one after another in line order, and the line drains after each.  A leaver
may be admitted before its turn to leave has come.
-/

/-- A whole line is admitted, one after another. -/
def AdmitsAll : List Holder → List Waiter → Prop
  | _, [] => True
  | holders, next :: rest => admits next holders = true ∧ AdmitsAll (holders ++ [hold next]) rest

/-- A leaver that would be admitted if those ahead of it who leave were gone. -/
def SlipsIn (leaves : Waiter → Bool) (holders : List Holder) (waiters : List Waiter) : Prop :=
  ∃ ahead leaver behind, waiters = ahead ++ leaver :: behind ∧ leaves leaver = true ∧
    AdmitsAll admits hold holders (ahead.filter (fun waiter => !leaves waiter) ++ [leaver])

variable {admits hold}

theorem admitsAll_append {holders : List Holder} {early late : List Waiter} :
    AdmitsAll admits hold holders (early ++ late) ↔
      AdmitsAll admits hold holders early ∧ AdmitsAll admits hold (holders ++ early.map hold) late := by
  induction early generalizing holders with
  | nil => simp [AdmitsAll]
  | cons next rest ih =>
    simp only [List.cons_append, AdmitsAll, ih, List.map_cons, List.append_assoc, List.nil_append,
      and_assoc]

theorem admitsAll_admitted : AdmitsAll admits hold holders (admitted admits hold holders waiters) := by
  induction waiters generalizing holders with
  | nil => trivial
  | cons next rest ih =>
    simp only [admitted]
    split
    next fits => exact ⟨fits, ih _⟩
    next => trivial

section

variable {holders : List Holder} {head : Waiter} {rest : List Waiter} (blocked : admits head holders = false)

include blocked

theorem not_slipsIn_of_blocked (stays : leaves head = false) :
    ¬ SlipsIn admits hold leaves holders (head :: rest) := by
  rintro ⟨ahead, leaver, behind, line, isLeaver, admitsLine⟩
  cases ahead with
  | nil =>
    obtain ⟨rfl, rfl⟩ := List.cons.inj line
    simp [stays] at isLeaver
  | cons first others =>
    obtain ⟨rfl, rfl⟩ := List.cons.inj line
    simp only [List.filter_cons, stays, Bool.not_false, if_true, List.cons_append, AdmitsAll, blocked] at admitsLine
    exact absurd admitsLine.1 (by simp)

/-- A blocked head that leaves: someone slips in with the drain that follows, or later. -/
theorem slipsIn_head (isLeaver : leaves head = true) :
    SlipsIn admits hold leaves holders (head :: rest) ↔
      (∃ waiter ∈ admitted admits hold holders rest, leaves waiter = true) ∨
      SlipsIn admits hold leaves (drainedHolders admits hold holders rest) (drainedWaiters admits hold holders rest) := by
  have split := admitted_append_drainedWaiters admits hold holders rest
  rw [drainedHolders_eq]
  set through := admitted admits hold holders rest with throughDef
  set left := drainedWaiters admits hold holders rest
  have admitsThrough : AdmitsAll admits hold holders through := admitsAll_admitted holders rest
  by_cases someone : ∃ waiter ∈ through, leaves waiter = true
  · refine iff_of_true ?_ (Or.inl someone)
    -- the first leaver that the drain admits
    obtain ⟨leaver, isFirst⟩ := Option.isSome_iff_exists.mp (List.find?_isSome.mpr someone)
    obtain ⟨leaves', early, late, throughSplit, stay⟩ := List.find?_eq_some_iff_append.mp isFirst
    refine ⟨head :: early, leaver, late ++ left, ?_, leaves', ?_⟩
    · rw [← split, throughSplit]
      simp
    · have allStay : early.filter (fun waiter => !leaves waiter) = early := List.filter_eq_self.mpr stay
      rw [List.filter_cons_of_neg (by simp [isLeaver]), allStay]
      rw [throughSplit, List.append_cons, admitsAll_append] at admitsThrough
      exact admitsThrough.1
  · have allStay : through.filter (fun waiter => !leaves waiter) = through := by
      apply List.filter_eq_self.mpr
      intro waiter member
      simp only [not_exists, not_and, Bool.not_eq_true] at someone
      simp [someone waiter member]
    rw [or_iff_right someone]
    constructor
    · rintro ⟨ahead, leaver, behind, line, leaves', admitsLine⟩
      cases ahead with
      | nil =>
        obtain ⟨rfl, rfl⟩ := List.cons.inj line
        simp [AdmitsAll, blocked] at admitsLine
      | cons first others =>
        obtain ⟨rfl, isRest⟩ := List.cons.inj line
        rw [List.filter_cons_of_neg (by simp [isLeaver])] at admitsLine
        -- the leaver stands behind all that the drain admits
        rw [← split] at isRest
        obtain ⟨between, rfl, isLeft⟩ | ⟨between, isThrough, isBehind⟩ := List.append_eq_append_iff.mp isRest
        · refine ⟨between, leaver, behind, isLeft, leaves', ?_⟩
          rw [List.filter_append, allStay, List.append_assoc, admitsAll_append] at admitsLine
          exact admitsLine.2
        · cases between with
          | nil =>
            rw [List.append_nil] at isThrough
            rw [← isThrough, allStay, admitsAll_append] at admitsLine
            exact ⟨[], leaver, behind, isBehind.symm, leaves', admitsLine.2⟩
          | cons admittedLeaver more =>
            obtain ⟨rfl, _⟩ := List.cons.inj isBehind
            exact absurd ⟨leaver, by simp [isThrough], leaves'⟩ someone
    · rintro ⟨ahead, leaver, behind, line, leaves', admitsLine⟩
      refine ⟨head :: (through ++ ahead), leaver, behind, ?_, leaves', ?_⟩
      · rw [← split, line]
        simp
      · rw [List.filter_cons_of_neg (by simp [isLeaver]), List.filter_append, allStay, List.append_assoc, admitsAll_append]
        exact ⟨admitsThrough, admitsLine⟩

end

theorem slipsIn_withdraw {holders : List Holder} {ahead behind : List Waiter} {leaver : Waiter}
    (blocked : ∀ head, (ahead ++ leaver :: behind).head? = some head → admits head holders = false)
    (stay : ∀ waiter ∈ ahead, leaves waiter = false) (isLeaver : leaves leaver = true) :
    SlipsIn admits hold leaves holders (ahead ++ leaver :: behind) ↔
      (∃ waiter ∈ admitted admits hold holders (ahead ++ behind), leaves waiter = true) ∨
      SlipsIn admits hold leaves (drainedHolders admits hold holders (ahead ++ behind))
        (drainedWaiters admits hold holders (ahead ++ behind)) := by
  cases ahead with
  | nil => exact slipsIn_head (blocked leaver rfl) isLeaver
  | cons head others =>
    have headBlocked : admits head holders = false := blocked head rfl
    have headStays : leaves head = false := stay head List.mem_cons_self
    have nobody : ∀ rest, ¬ SlipsIn admits hold leaves holders (head :: rest) :=
      fun _ => not_slipsIn_of_blocked headBlocked headStays
    have unchanged := drained_of_blocked admits hold holders (head :: others ++ behind) (by simp [headBlocked])
    rw [unchanged.1, unchanged.2]
    simp only [List.cons_append, admitted, headBlocked, Bool.false_eq_true, if_false, List.not_mem_nil, false_and,
      exists_false, or_self, nobody]

end SiftKit.FifoLine
