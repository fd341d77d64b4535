import SiftKit.RepoSearch.ReadContract

/-! # The next unread lines

The recorded ranges of a file are kept apart from each other and cover what was recorded since the file
was last invalidated.  A read is given the first run of lines that none of them covers, so reads that are
each recorded in full return every line once.
-/

namespace SiftKit.RepoSearch

open SiftKit.Json
open SiftKit.Json.Schema (trim)
open SiftKit.Ranges SiftKit.Runs

/-! ## Recorded ranges -/

/-- What happens to the recorded ranges during a task. -/
inductive WindowEvent where
  | recorded (pathKey : JsString) (returnedRange : ReadRange)
  | invalidated (pathKey : JsString)
  | invalidatedAll

def WindowEvent.apply (states : ReadStates) : WindowEvent → ReadStates
  | .recorded pathKey returnedRange => recordNativeRead states pathKey returnedRange
  | .invalidated pathKey => invalidatePath states pathKey
  | .invalidatedAll => invalidateAll states

/-- `state?.mergedReturnedRanges ?? []`. -/
def rangesOf (states : ReadStates) (pathKey : JsString) : List ReadRange :=
  ((states.get? pathKey).map FileReadState.mergedReturnedRanges).getD []

/-- The ranges of a path that were recorded since it was last invalidated. -/
def recordedSince (pathKey : JsString) (recorded : List ReadRange) : WindowEvent → List ReadRange
  | .recorded key returnedRange => if key = pathKey then recorded ++ [returnedRange] else recorded
  | .invalidated key => if key = pathKey then [] else recorded
  | .invalidatedAll => []

section

variable (states : ReadStates)

include states

theorem rangesOf_getOrCreate (pathKey key : JsString) :
    rangesOf (getOrCreateFileReadState states pathKey).2 key = rangesOf states key := by
  unfold getOrCreateFileReadState rangesOf
  cases found : states.get? pathKey with
  | some state => rfl
  | none =>
    by_cases same : key = pathKey
    · subst same
      simp [found, FileReadState.empty]
    · simp [same]

theorem ranges_getOrCreate (pathKey : JsString) :
    (getOrCreateFileReadState states pathKey).1.mergedReturnedRanges = rangesOf states pathKey := by
  unfold getOrCreateFileReadState rangesOf
  cases states.get? pathKey <;> rfl

@[simp] theorem rangesOf_recordNativeRead (pathKey key : JsString) (returnedRange : ReadRange) :
    rangesOf (recordNativeRead states pathKey returnedRange) key =
      if key = pathKey then mergeRange (rangesOf states key) returnedRange else rangesOf states key := by
  have others := rangesOf_getOrCreate states pathKey key
  have own := ranges_getOrCreate states pathKey
  unfold recordNativeRead
  by_cases same : key = pathKey
  · subst same
    simp [rangesOf, own]
  · simpa [rangesOf, same] using others

@[simp] theorem rangesOf_invalidatePath (pathKey key : JsString) :
    rangesOf (invalidatePath states pathKey) key = if key = pathKey then [] else rangesOf states key := by
  unfold rangesOf invalidatePath
  by_cases same : key = pathKey
  · subst same
    cases found : states.get? key <;> simp [found, FileReadState.invalidate]
  · simp [same]

@[simp] theorem rangesOf_invalidateAll (key : JsString) :
    rangesOf (invalidateAll states) key = [] := by
  unfold rangesOf
  cases found : (invalidateAll states).get? key with
  | none => rfl
  | some state =>
    obtain ⟨entry, _, isState⟩ := List.mem_map.mp (OrderedMap.get?_eq_some.mp found)
    cases isState
    rfl

end

variable {ranges : List ReadRange}

theorem separated_mergeRange (separated : Separated ranges) (next : ReadRange) :
    Separated (mergeRange ranges next) := by
  unfold mergeRange
  split
  · exact separated
  · apply separated_mergeSorted (sorted_orderBy _)
    intro range member
    rw [Tables.mem_orderBy] at member
    simpa using (List.mem_filter.mp member).2

/-- The ranges of a path are apart and cover what was recorded. -/
structure Keeps (recorded : List ReadRange) (ranges : List ReadRange) : Prop where
  separated : Separated ranges
  covers : ∀ line, Covers ranges line ↔ Covers recorded line

theorem Keeps.nothing : Keeps [] [] := ⟨Separated.nil, fun _ => Iff.rfl⟩

theorem Keeps.recorded {recorded : List ReadRange} (keeps : Keeps recorded ranges) (next : ReadRange) :
    Keeps (recorded ++ [next]) (mergeRange ranges next) := by
  constructor
  · exact separated_mergeRange keeps.separated next
  · intro line
    rw [covers_mergeRange, keeps.covers]
    simp [Covers, or_and_right, exists_or]

section

variable {pathKey : JsString} {recorded : List ReadRange} {states : ReadStates}
  (keeps : Keeps recorded (rangesOf states pathKey))

include keeps

theorem Keeps.step (event : WindowEvent) :
    Keeps (recordedSince pathKey recorded event) (rangesOf (event.apply states) pathKey) := by
  cases event with
  | recorded key returnedRange =>
    by_cases same : key = pathKey
    · subst same
      simpa [WindowEvent.apply, recordedSince] using keeps.recorded returnedRange
    · simpa [WindowEvent.apply, recordedSince, same, Ne.symm same] using keeps
  | invalidated key =>
    by_cases same : key = pathKey
    · subst same
      simpa [WindowEvent.apply, recordedSince] using Keeps.nothing
    · simpa [WindowEvent.apply, recordedSince, same, Ne.symm same] using keeps
  | invalidatedAll => simpa [WindowEvent.apply, recordedSince] using Keeps.nothing

theorem Keeps.run (events : List WindowEvent) :
    Keeps (Runs.run (recordedSince pathKey) recorded events) (rangesOf (Runs.run WindowEvent.apply states events) pathKey) := by
  induction events generalizing recorded states with
  | nil => exact keeps
  | cons event events ih => exact ih (keeps.step event)

end

/-! ## The run that a read is given -/

/-- The lines from the first one that is not covered to the end of their run or the bound. -/
structure IsNextUnreadRun (ranges : List ReadRange) (requestedStart bound start stop : Nat) : Prop where
  fromRequested : requestedStart ≤ start
  nonempty : start < stop
  withinBound : stop ≤ bound
  first : ∀ line, requestedStart ≤ line → line < start → Covers ranges line
  unread : ∀ line, start ≤ line → line < stop → ¬ Covers ranges line
  maximal : stop < bound → Covers ranges stop

/-- The ranges as the search goes through them. -/
def sweptRanges (returnedRanges : List ReadRange) : List ReadRange :=
  Tables.orderBy isSortedBefore
    ((returnedRanges.map fun range : ReadRange => (⟨max 1 range.start, max 1 range.stop⟩ : ReadRange)).filter fun range =>
      decide (range.start < range.stop))

theorem covers_sweptRanges {returnedRanges : List ReadRange} {line : Nat} (positive : 1 ≤ line) :
    Covers (sweptRanges returnedRanges) line ↔ Covers returnedRanges line := by
  unfold sweptRanges
  rw [Covers.perm (Tables.perm_orderBy _ _), covers_filter]
  unfold Covers Range.Contains
  simp only [List.mem_map]
  constructor
  · rintro ⟨_, ⟨range, member, rfl⟩, within⟩
    refine ⟨range, member, ?_⟩
    simp only at within
    omega
  · rintro ⟨range, member, within⟩
    refine ⟨_, ⟨range, member, rfl⟩, ?_⟩
    simp only
    omega

section

variable {requestedStart totalEnd : Nat} (returnedRanges : List ReadRange) (positive : 1 ≤ requestedStart)
  (bounded : 1 ≤ totalEnd)

include returnedRanges positive bounded

/-- Where the search stops, none of the ranges is; the run ends at the next range or the bound. -/
theorem findContiguousUnreadRange_next (found : (findContiguousUnreadRange requestedStart totalEnd returnedRanges).hasUnread = true) :
    IsNextUnreadRun returnedRanges requestedStart totalEnd
      (findContiguousUnreadRange requestedStart totalEnd returnedRanges).start
      (findContiguousUnreadRange requestedStart totalEnd returnedRanges).stop := by
  obtain ⟨first, _, unread⟩ := @findContiguousUnreadRange_spec requestedStart totalEnd returnedRanges positive
  obtain ⟨fromRequested, nonempty, withinBound⟩ := unread found
  let ranges := sweptRanges returnedRanges
  have sorted : ranges.Pairwise fun left right => left.start ≤ right.start := sorted_orderBy _
  let start := advance (max 1 requestedStart) ranges
  let next := ranges.find? fun range => decide (start < range.start)
  have isResult : findContiguousUnreadRange requestedStart totalEnd returnedRanges =
      if max 1 totalEnd ≤ start then ⟨false, max 1 totalEnd, max 1 totalEnd⟩
      else
        let stop := min (max 1 totalEnd) ((next.map Range.start).getD (max 1 totalEnd))
        if stop ≤ start then ⟨false, start, start⟩ else ⟨true, start, stop⟩ := rfl
  have isFound : findContiguousUnreadRange requestedStart totalEnd returnedRanges =
      ⟨true, start, min (max 1 totalEnd) ((next.map Range.start).getD (max 1 totalEnd))⟩ := by
    rw [isResult] at found ⊢
    split at found
    · cases found
    next unfinished =>
      simp only [unfinished, if_false] at found ⊢
      split at found
      · cases found
      next later => simp [later]
  rw [isFound] at first fromRequested nonempty withinBound ⊢
  have free : ¬ Covers ranges start := not_covers_advance sorted _
  constructor
  · exact fromRequested
  · exact nonempty
  · simp only at withinBound ⊢
    omega
  · exact first
  · intro line fromStart beforeStop
    rw [← covers_sweptRanges (by omega)]
    apply not_covers_before_next sorted free fromStart
    intro range isNext
    have isFirst : next = some range := isNext
    simp only [isFirst, Option.map_some, Option.getD_some] at beforeStop
    omega
  · intro inner
    -- a run that ends before the bound ends where a range starts
    cases isNext : next with
    | none =>
      simp only [isNext, Option.map_none, Option.getD_none] at inner
      omega
    | some range =>
      simp only [isNext, Option.map_some, Option.getD_some] at inner nonempty ⊢
      have member : range ∈ ranges := List.mem_of_find?_eq_some isNext
      have isStop : min (max 1 totalEnd) range.start = range.start := by omega
      have proper : range.start < range.stop := by
        have kept := (Tables.mem_orderBy.mp member)
        simpa using (List.mem_filter.mp kept).2
      rw [isStop]
      have positiveStart : 1 ≤ range.start := by omega
      exact (covers_sweptRanges positiveStart).mp ⟨range, member, le_refl _, proper⟩

theorem findContiguousUnreadRange_unread :
    (findContiguousUnreadRange requestedStart totalEnd returnedRanges).hasUnread = true ↔
      ∃ line, requestedStart ≤ line ∧ line < totalEnd ∧ ¬ Covers returnedRanges line := by
  constructor
  · intro found
    have isNext := findContiguousUnreadRange_next returnedRanges positive bounded found
    refine ⟨_, isNext.fromRequested, ?_, isNext.unread _ (le_refl _) isNext.nonempty⟩
    exact lt_of_lt_of_le isNext.nonempty isNext.withinBound
  · rintro ⟨line, fromStart, before, unread⟩
    by_contra nothing
    have exhausted := (@findContiguousUnreadRange_spec requestedStart totalEnd returnedRanges positive).2.1 (by simpa using nothing)
    exact unread (exhausted line fromStart before)

end

/-! ## Plans -/

/-- The end that unread lines are looked for before: of the file once something was returned, of the request otherwise. -/
def ReadPlan.endBound (plan : ReadPlan) (expandReads : Bool) (returnedRanges : List ReadRange) : Nat :=
  if expandReads && !returnedRanges.isEmpty then plan.totalEndLineExclusive else plan.requestedEndLine + 1

/-- The end of what the same request is given in the end. -/
def ReadPlan.reach (plan : ReadPlan) (expandReads : Bool) : Nat :=
  if expandReads then plan.totalEndLineExclusive else plan.requestedEndLine + 1

section Plans

variable {buildReadPathKey : JsString → JsString} {commandPath displayPath : JsString} {offset : Nat} {limit : Option Nat}
  {expandReads : Bool} {returnedRanges : List ReadRange} {lines : List JsString}

theorem requested_le_endBound (within : offset ≤ lines.length) :
    let plan := planLines buildReadPathKey commandPath displayPath offset limit expandReads returnedRanges lines
    offset < plan.endBound expandReads returnedRanges ∧
      plan.endBound expandReads returnedRanges ≤ plan.reach expandReads ∧
      (returnedRanges ≠ [] → plan.endBound expandReads returnedRanges = plan.reach expandReads) := by
  cases limit <;> cases expandReads <;> cases returnedRanges <;> simp [planLines, ReadPlan.endBound, ReadPlan.reach] <;> omega

theorem unread_eq :
    let plan := planLines buildReadPathKey commandPath displayPath offset limit expandReads returnedRanges lines
    let unread := findContiguousUnreadRange offset (plan.endBound expandReads returnedRanges) returnedRanges
    plan.hasUnread = unread.hasUnread ∧ plan.effectiveStartLine = unread.start ∧
      plan.effectiveEndLineExclusive = unread.stop := by
  have isBound : (planLines buildReadPathKey commandPath displayPath offset limit expandReads returnedRanges lines).endBound
      expandReads returnedRanges =
      if expandReads && !returnedRanges.isEmpty then lines.length + 1
      else requestedEnd offset limit lines.length := by
    cases limit <;> cases expandReads <;> cases returnedRanges <;> simp [planLines, ReadPlan.endBound, requestedEnd]
  intro plan unread
  simp only [unread, plan, isBound]
  exact ⟨rfl, rfl, rfl⟩

variable (positive : 1 ≤ offset) (within : offset ≤ lines.length)

include positive within

theorem planLines_next
    (unread : (planLines buildReadPathKey commandPath displayPath offset limit expandReads returnedRanges lines).hasUnread = true) :
    let plan := planLines buildReadPathKey commandPath displayPath offset limit expandReads returnedRanges lines
    IsNextUnreadRun returnedRanges offset (plan.endBound expandReads returnedRanges) plan.effectiveStartLine
      plan.effectiveEndLineExclusive := by
  obtain ⟨isUnread, isStart, isStop⟩ := @unread_eq buildReadPathKey commandPath displayPath offset limit expandReads
    returnedRanges lines
  obtain ⟨later, _, _⟩ := @requested_le_endBound buildReadPathKey commandPath displayPath offset limit expandReads
    returnedRanges lines within
  intro plan
  rw [isStart, isStop]
  apply findContiguousUnreadRange_next returnedRanges positive (Nat.one_le_of_lt later)
  rw [← isUnread]
  exact unread

theorem planLines_unread :
    let plan := planLines buildReadPathKey commandPath displayPath offset limit expandReads returnedRanges lines
    plan.hasUnread = true ↔
      ∃ line, offset ≤ line ∧ line < plan.endBound expandReads returnedRanges ∧ ¬ Covers returnedRanges line := by
  obtain ⟨isUnread, _, _⟩ := @unread_eq buildReadPathKey commandPath displayPath offset limit expandReads
    returnedRanges lines
  obtain ⟨later, _, _⟩ := @requested_le_endBound buildReadPathKey commandPath displayPath offset limit expandReads
    returnedRanges lines within
  intro plan
  rw [isUnread]
  exact findContiguousUnreadRange_unread returnedRanges positive (Nat.one_le_of_lt later)

/-- Whether a request finds unread lines does not depend on the bound of its first read. -/
theorem planLines_unread_reach :
    let plan := planLines buildReadPathKey commandPath displayPath offset limit expandReads returnedRanges lines
    plan.hasUnread = true ↔
      ∃ line, offset ≤ line ∧ line < plan.reach expandReads ∧ ¬ Covers returnedRanges line := by
  obtain ⟨later, reaches, same⟩ := @requested_le_endBound buildReadPathKey commandPath displayPath offset limit expandReads
    returnedRanges lines within
  intro plan
  apply (planLines_unread positive within).trans
  cases returnedRanges with
  | nil =>
    -- with nothing returned yet the first line is unread under either bound
    constructor
    · intro _
      exact ⟨offset, le_refl _, lt_of_lt_of_le later reaches, covers_nil _⟩
    · intro _
      exact ⟨offset, le_refl _, later, covers_nil _⟩
  | cons range rest => rw [same (List.cons_ne_nil range rest)]

end Plans

/-! ## Reading again -/

section Reads

variable (buildReadPathKey : JsString → JsString) (surroundings : ReadSurroundings) (args : ReadToolArgs)

/-- A read whose result is recorded in full, and the lines of that result, unless none were unread. -/
def readInFull (states : ReadStates) : Option ReadRange × ReadStates :=
  match planRead buildReadPathKey surroundings args states with
  | (.ok plan, states) =>
    if plan.hasUnread then
      let returnedRange : ReadRange := ⟨plan.effectiveStartLine, plan.effectiveEndLineExclusive⟩
      (some returnedRange, recordNativeRead states plan.pathKey returnedRange)
    else (none, states)
  | (.error _, states) => (none, states)

/-- What so many reads return, one after another. -/
def readsInFull : Nat → ReadStates → List ReadRange × ReadStates
  | 0, states => ([], states)
  | count + 1, states =>
    let first := readInFull buildReadPathKey surroundings args states
    let later := readsInFull count first.2
    (first.1.toList ++ later.1, later.2)

end Reads

/-- The lines of ranges, one after another. -/
def linesOf (ranges : List ReadRange) : List Nat := ranges.flatMap fun range => List.range' range.start (range.stop - range.start)

theorem count_linesOf_cons (range : ReadRange) (rest : List ReadRange) (line : Nat) :
    (linesOf (range :: rest)).count line = (if range.Contains line then 1 else 0) + (linesOf rest).count line := by
  have own : (List.range' range.start (range.stop - range.start)).count line = if range.Contains line then 1 else 0 := by
    rw [(List.nodup_range' ..).count]
    simp only [List.mem_range'_1, Range.Contains]
    congr 1
    apply propext
    omega
  rw [← own]
  simp [linesOf, List.count_append]

def unreadLines (offset bound : Nat) (ranges : List ReadRange) : List Nat :=
  (List.range' offset (bound - offset)).filter fun line => !decide (Covers ranges line)

theorem mem_unreadLines {offset bound line : Nat} :
    line ∈ unreadLines offset bound ranges ↔ (offset ≤ line ∧ line < bound) ∧ ¬ Covers ranges line := by
  simp only [unreadLines, List.mem_filter, List.mem_range'_1, Bool.not_eq_true', decide_eq_false_iff_not]
  apply and_congr_left
  intro _
  omega

theorem length_unreadLines_lt {offset bound : Nat} {next : ReadRange} {line : Nat}
    (unread : line ∈ unreadLines offset bound ranges) (within : next.Contains line) :
    (unreadLines offset bound (mergeRange ranges next)).length < (unreadLines offset bound ranges).length := by
  have distinct : ∀ ranges, (unreadLines offset bound ranges).Nodup := fun _ => (List.nodup_range' ..).filter _
  have fewer : unreadLines offset bound (mergeRange ranges next) ⊆ (unreadLines offset bound ranges).erase line := by
    intro other isOther
    rw [mem_unreadLines, covers_mergeRange, not_or] at isOther
    rw [(distinct ranges).mem_erase_iff, mem_unreadLines]
    refine ⟨?_, isOther.1, isOther.2.1⟩
    rintro rfl
    exact isOther.2.2 within
  have bounded := ((distinct (mergeRange ranges next)).subperm fewer).length_le
  rw [List.length_erase_of_mem unread] at bounded
  have positive := List.length_pos_of_mem unread
  omega

section Request

variable {buildReadPathKey : JsString → JsString} {surroundings : ReadSurroundings} {args : ReadToolArgs}
  {displayPath : JsString} {offset : Nat} {limit : Option Nat} {lines : List JsString}

/-- The plan of a request in a file, as the recorded ranges have it. -/
def planOf (buildReadPathKey : JsString → JsString) (surroundings : ReadSurroundings) (args : ReadToolArgs)
    (displayPath : JsString) (offset : Nat) (limit : Option Nat) (lines : List JsString) (states : ReadStates) : ReadPlan :=
  planLines buildReadPathKey (trim args.path) displayPath offset limit surroundings.expandReads
    (rangesOf states (buildReadPathKey displayPath)) lines

/-- A request that is planned once is planned whatever was recorded. -/
theorem planRead_ok {states : ReadStates} {plan : ReadPlan}
    (planned : (planRead buildReadPathKey surroundings args states).1 = .ok plan) :
    ∃ displayPath offset limit lines, 1 ≤ offset ∧ offset ≤ lines.length ∧
      plan = planOf buildReadPathKey surroundings args displayPath offset limit lines states ∧
      ∀ states, planRead buildReadPathKey surroundings args states =
        (.ok (planOf buildReadPathKey surroundings args displayPath offset limit lines states),
          (getOrCreateFileReadState states (buildReadPathKey displayPath)).2) := by
  unfold planRead at planned ⊢
  cases isOffset : resolvePositiveInteger args.offset 1 (utf16 "offset must be a positive integer") with
  | error reason => simp [isOffset] at planned
  | ok offset =>
    cases isLimit : resolveOptionalPositiveInteger args.limit (utf16 "limit must be a positive integer") with
    | error reason => simp [isOffset, isLimit] at planned
    | ok limit =>
      cases isSource : readSourceLines surroundings args.path with
      | error reason => simp [isOffset, isLimit, isSource] at planned
      | ok source =>
        obtain ⟨displayPath, lines⟩ := source
        simp only [isOffset, isLimit, isSource] at planned ⊢
        split at planned
        · cases planned
        next within =>
          have positive : 1 ≤ offset := by
            unfold resolvePositiveInteger at isOffset
            split at isOffset
            · cases isOffset
              exact le_refl 1
            · split at isOffset
              next isPositive =>
                cases isOffset
                exact isPositive
              · cases isOffset
          refine ⟨displayPath, offset, limit, lines, positive, not_lt.mp within, ?_, ?_⟩
          · cases planned
            rw [planOf, ← ranges_getOrCreate]
          · intro states
            rw [if_neg within, planOf, ← ranges_getOrCreate]

variable (positive : 1 ≤ offset) (within : offset ≤ lines.length)
  (planned : ∀ states, planRead buildReadPathKey surroundings args states =
    (.ok (planOf buildReadPathKey surroundings args displayPath offset limit lines states),
      (getOrCreateFileReadState states (buildReadPathKey displayPath)).2))

include positive within planned

/-- A read returns lines that were unread and marks exactly these, or there are none. -/
theorem readInFull_cases (states : ReadStates) :
    let pathKey := buildReadPathKey displayPath
    let reach := (planOf buildReadPathKey surroundings args displayPath offset limit lines states).reach surroundings.expandReads
    let read := readInFull buildReadPathKey surroundings args states
    (read.1 = none ∧ unreadLines offset reach (rangesOf states pathKey) = [] ∧ rangesOf read.2 pathKey = rangesOf states pathKey) ∨
      ∃ returnedRange, read.1 = some returnedRange ∧ returnedRange.start < returnedRange.stop ∧
        (∀ line, returnedRange.Contains line → line ∈ unreadLines offset reach (rangesOf states pathKey)) ∧
        rangesOf read.2 pathKey = mergeRange (rangesOf states pathKey) returnedRange := by
  intro pathKey reach read
  have isRead : read = readInFull buildReadPathKey surroundings args states := rfl
  unfold readInFull at isRead
  rw [planned states] at isRead
  simp only at isRead
  let plan := planOf buildReadPathKey surroundings args displayPath offset limit lines states
  have isReach : plan.hasUnread = true ↔
      ∃ line, offset ≤ line ∧ line < reach ∧ ¬ Covers (rangesOf states pathKey) line := planLines_unread_reach positive within
  have others := rangesOf_getOrCreate states pathKey pathKey
  split at isRead
  next hasUnread =>
    right
    have isNext := planLines_next positive within hasUnread
    obtain ⟨_, reaches, _⟩ := @requested_le_endBound buildReadPathKey (trim args.path) displayPath offset limit
      surroundings.expandReads (rangesOf states pathKey) lines within
    refine ⟨_, by rw [isRead], isNext.nonempty, ?_, ?_⟩
    · intro line contained
      rw [mem_unreadLines]
      refine ⟨⟨le_trans isNext.fromRequested contained.1, ?_⟩, isNext.unread line contained.1 contained.2⟩
      exact lt_of_lt_of_le contained.2 (le_trans isNext.withinBound reaches)
    · rw [isRead]
      have isKey : (planOf buildReadPathKey surroundings args displayPath offset limit lines states).pathKey = pathKey := rfl
      simp only [rangesOf_recordNativeRead, isKey, if_true]
      exact congrArg (mergeRange · _) others
  next nothing =>
    left
    rw [isRead]
    refine ⟨rfl, ?_, others⟩
    rw [List.eq_nil_iff_forall_not_mem]
    intro line member
    obtain ⟨⟨fromOffset, before⟩, unread⟩ := mem_unreadLines.mp member
    exact nothing (isReach.mpr ⟨line, fromOffset, before, unread⟩)

/-- Enough reads return every unread line once and leave none. -/
theorem readsInFull_spec (count : Nat) (states : ReadStates) :
    let pathKey := buildReadPathKey displayPath
    let reach := (planOf buildReadPathKey surroundings args displayPath offset limit lines states).reach surroundings.expandReads
    let reads := readsInFull buildReadPathKey surroundings args count states
    (unreadLines offset reach (rangesOf states pathKey)).length ≤ count →
      (∀ line, (linesOf reads.1).count line = if line ∈ unreadLines offset reach (rangesOf states pathKey) then 1 else 0) ∧
      unreadLines offset reach (rangesOf reads.2 pathKey) = [] := by
  induction count generalizing states with
  | zero =>
    intro pathKey reach reads enough
    have nothing : unreadLines offset reach (rangesOf states pathKey) = [] := List.length_eq_zero_iff.mp (by omega)
    refine ⟨?_, nothing⟩
    intro line
    rw [nothing]
    rfl
  | succ count ih =>
    intro pathKey reach reads enough
    let after := (readInFull buildReadPathKey surroundings args states).2
    have sameReach : (planOf buildReadPathKey surroundings args displayPath offset limit lines after).reach
        surroundings.expandReads = reach := rfl
    have later := ih after
    simp only [sameReach] at later
    have isReads : reads = ((readInFull buildReadPathKey surroundings args states).1.toList ++
        (readsInFull buildReadPathKey surroundings args count after).1,
        (readsInFull buildReadPathKey surroundings args count after).2) := rfl
    rcases readInFull_cases positive within planned states with
      ⟨nothing, noneUnread, same⟩ | ⟨returnedRange, isReturned, nonempty, unread, marked⟩
    · have isSame : rangesOf after pathKey = rangesOf states pathKey := same
      have left : unreadLines offset reach (rangesOf states pathKey) = [] := noneUnread
      rw [isSame, left] at later
      obtain ⟨counted, exhausted⟩ := later (Nat.zero_le _)
      rw [isReads, nothing, left]
      exact ⟨counted, exhausted⟩
    · have isMarked : rangesOf after pathKey = mergeRange (rangesOf states pathKey) returnedRange := marked
      have first : returnedRange.Contains returnedRange.start := ⟨le_refl _, nonempty⟩
      have fewer : (unreadLines offset reach (mergeRange (rangesOf states pathKey) returnedRange)).length <
          (unreadLines offset reach (rangesOf states pathKey)).length := length_unreadLines_lt (unread _ first) first
      rw [isMarked] at later
      obtain ⟨counted, exhausted⟩ := later (by omega)
      rw [isReads, isReturned]
      refine ⟨?_, exhausted⟩
      intro line
      -- a line is in what this read returns, or it is left to the later ones
      rw [Option.toList_some, List.singleton_append, count_linesOf_cons, counted]
      simp only [mem_unreadLines, covers_mergeRange]
      by_cases contained : returnedRange.Contains line
      · have isUnread := mem_unreadLines.mp (unread line contained)
        simp only [contained, or_true, not_true_eq_false, and_false, if_false, if_true]
        rw [if_pos isUnread]
      · simp [contained]

end Request

/-! ## Runs -/

theorem keeps_run (events : List WindowEvent) (pathKey : JsString) :
    Keeps (run (recordedSince pathKey) [] events) (rangesOf (run WindowEvent.apply OrderedMap.empty events) pathKey) :=
  Keeps.run Keeps.nothing events

/-- A read is planned by what was recorded, and reads of one request go through its unread lines once. -/
theorem reads_return_the_next_lines (buildReadPathKey : JsString → JsString) (events : List WindowEvent)
    {surroundings : ReadSurroundings} {args : ReadToolArgs} {plan : ReadPlan}
    (planned : (planRead buildReadPathKey surroundings args (run WindowEvent.apply OrderedMap.empty events)).1 = .ok plan) :
    let states := run WindowEvent.apply OrderedMap.empty events
    let ranges := rangesOf states plan.pathKey
    let bound := plan.endBound surroundings.expandReads ranges
    (∀ pathKey, Separated (rangesOf states pathKey) ∧
      ∀ line, Covers (rangesOf states pathKey) line ↔ Covers (run (recordedSince pathKey) [] events) line) ∧
    (plan.hasUnread = true ↔ ∃ line, plan.requestedStartLine ≤ line ∧ line < bound ∧ ¬ Covers ranges line) ∧
    (plan.hasUnread = true →
      IsNextUnreadRun ranges plan.requestedStartLine bound plan.effectiveStartLine plan.effectiveEndLineExclusive) ∧
    ∀ count, plan.lines.length ≤ count →
      let reads := readsInFull buildReadPathKey surroundings args count states
      (∀ line, (linesOf reads.1).count line =
        if (plan.requestedStartLine ≤ line ∧ line < plan.reach surroundings.expandReads) ∧ ¬ Covers ranges line then 1 else 0) ∧
      ∃ last, (planRead buildReadPathKey surroundings args reads.2).1 = .ok last ∧ last.hasUnread = false := by
  obtain ⟨displayPath, offset, limit, lines, positive, within, rfl, always⟩ := planRead_ok planned
  intro states ranges bound
  have isKey : ranges = rangesOf states (buildReadPathKey displayPath) := rfl
  refine ⟨?_, planLines_unread positive within, planLines_next positive within, ?_⟩
  · intro pathKey
    have keeps := keeps_run events pathKey
    exact ⟨keeps.separated, keeps.covers⟩
  · intro count enough reads
    let reach := (planOf buildReadPathKey surroundings args displayPath offset limit lines states).reach surroundings.expandReads
    have inFile : reach ≤ lines.length + 1 := by
      cases limit <;> cases isExpanding : surroundings.expandReads <;>
        simp [reach, planOf, planLines, ReadPlan.reach, isExpanding]; omega
    have bounded : (unreadLines offset reach ranges).length ≤ count := by
      have fewer := List.length_filter_le (fun line => !decide (Covers ranges line)) (List.range' offset (reach - offset))
      rw [List.length_range'] at fewer
      have inLines : lines.length ≤ count := enough
      unfold unreadLines
      omega
    obtain ⟨counted, exhausted⟩ := readsInFull_spec positive within always count states bounded
    constructor
    · intro line
      rw [counted]
      simp only [mem_unreadLines]
      rfl
    · refine ⟨_, by rw [always], ?_⟩
      rw [← Bool.not_eq_true]
      intro unread
      obtain ⟨line, fromOffset, before, uncovered⟩ := (planLines_unread_reach positive within).mp unread
      have left := mem_unreadLines.mpr ⟨⟨fromOffset, before⟩, uncovered⟩
      have isReach : line ∈ unreadLines offset reach (rangesOf reads.2 (buildReadPathKey displayPath)) := left
      rw [exhausted] at isReach
      cases isReach

/-- A file of five lines, of which the second was returned. -/
theorem five_lines_are_returned_once :
    let reads := readsInFull id (notesSurroundings "a\nb\nc\nd\ne") ⟨notesPath, some 1, some 3⟩ 5
      (run WindowEvent.apply OrderedMap.empty [.recorded notesPath ⟨2, 3⟩])
    ∀ line, (linesOf reads.1).count line = if (1 ≤ line ∧ line < 6) ∧ ¬ Covers [(⟨2, 3⟩ : ReadRange)] line then 1 else 0 := by
  have isPlan : ∃ plan, (planRead id (notesSurroundings "a\nb\nc\nd\ne") ⟨notesPath, some 1, some 3⟩
      (run WindowEvent.apply OrderedMap.empty [.recorded notesPath ⟨2, 3⟩])).1 = .ok plan ∧ plan.lines.length = 5 ∧
        plan.requestedStartLine = 1 ∧ plan.reach true = 6 ∧
        rangesOf (run WindowEvent.apply OrderedMap.empty [.recorded notesPath ⟨2, 3⟩]) plan.pathKey = [⟨2, 3⟩] := by
    refine ⟨_, rfl, ?_⟩
    decide +kernel
  obtain ⟨plan, planned, five, start, reach, recorded⟩ := isPlan
  obtain ⟨_, _, _, repeated⟩ := reads_return_the_next_lines id [.recorded notesPath ⟨2, 3⟩] planned
  obtain ⟨counted, _⟩ := repeated 5 (by omega)
  intro reads line
  rw [counted, start, recorded]
  have isReach : plan.reach (notesSurroundings "a\nb\nc\nd\ne").expandReads = 6 := reach
  rw [isReach]

end SiftKit.RepoSearch
