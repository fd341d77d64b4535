import SiftKit.Json.Text

/-! # Token-aware chunks

`planTokenAwareInferenceChunks` of `summary/chunking.ts`: the text is cut into chunks whose prompts fit, each found
by a bounded search that grows, halves or shrinks its candidate.  What a prompt counts, and the two scaled lengths
that the source computes in floating point, are functions.
-/

namespace SiftKit.Summary

open SiftKit.Json

def INFERENCE_PROMPT_TOKEN_TARGET_TOLERANCE : Nat := 2000

def MAX_TOKEN_AWARE_CHUNK_ADJUSTMENTS : Nat := 8

/-- The lengths in floating point. -/
structure Scaling where
  /-- `Math.floor(acceptedLength * (effectivePromptLimit / Math.max(promptTokenCount, 1)))`. -/
  grown (acceptedLength effectivePromptLimit promptTokenCount : Nat) : Nat
  /-- `Math.floor(inputLength * (effectivePromptLimit / promptTokenCount) * 0.95)`. -/
  scaled (inputLength effectivePromptLimit promptTokenCount : Nat) : Nat

section

variable (scaling : Scaling)

def reducedThreshold (inputLength promptTokenCount effectivePromptLimit : Nat) : Nat :=
  max 1 (min (inputLength - 1) (scaling.scaled inputLength effectivePromptLimit promptTokenCount))

def getTokenAwareChunkThreshold (inputLength promptTokenCount effectivePromptLimit : Nat) : Option Nat :=
  if inputLength ≤ 1 ∨ promptTokenCount ≤ effectivePromptLimit ∨ effectivePromptLimit = 0 then none
  else
    let reduced := reducedThreshold scaling inputLength promptTokenCount effectivePromptLimit
    if reduced < inputLength then some reduced else none

/-! ## The search of one chunk -/

structure ChunkSearch where
  candidateLength : Nat
  acceptedChunk : Option JsString
  acceptedLength : Nat
  rejectedLength : Option Nat

/-- How a measurement ends: the plan is given up, the search is over, or it goes on. -/
inductive Adjustment where
  | giveUp
  | settled (search : ChunkSearch)
  | again (search : ChunkSearch)

variable (countPromptTokensForChunk : JsString → Option Nat) (effectivePromptLimit : Nat)

/-- The half of the way to the rejected length, and at least one more than what was accepted. -/
def halfway (acceptedLength rejectedLength : Nat) : Nat :=
  max (acceptedLength + 1) ((acceptedLength + rejectedLength) / 2)

/-- A candidate that fits. -/
def acceptCandidate (remaining candidateText : JsString) (promptTokenCount : Nat) (search : ChunkSearch) : Adjustment :=
  let targetSlackTokens := min INFERENCE_PROMPT_TOKEN_TARGET_TOLERANCE effectivePromptLimit
  let acceptedLength := search.candidateLength
  let accepted := { search with acceptedChunk := some candidateText, acceptedLength }
  if effectivePromptLimit - promptTokenCount ≤ targetSlackTokens ∨ remaining.length ≤ search.candidateLength ∨
      search.rejectedLength = some (acceptedLength + 1) then .settled accepted
  else
    match search.rejectedLength with
    | some rejectedLength => .again { accepted with candidateLength := halfway acceptedLength rejectedLength }
    | none =>
      let grownLength := min remaining.length
        (max (acceptedLength + 1) (scaling.grown acceptedLength effectivePromptLimit promptTokenCount))
      if grownLength ≤ acceptedLength then .settled accepted else .again { accepted with candidateLength := grownLength }

/-- A candidate that is too long. -/
def rejectCandidate (promptTokenCount : Nat) (search : ChunkSearch) : Adjustment :=
  let rejected := { search with rejectedLength := some search.candidateLength }
  if 0 < search.acceptedLength then
    .again { rejected with candidateLength := halfway search.acceptedLength search.candidateLength }
  else
    match getTokenAwareChunkThreshold scaling search.candidateLength promptTokenCount effectivePromptLimit with
    | none => .giveUp
    | some reducedLength =>
      if search.candidateLength ≤ reducedLength then .giveUp
      else .again { rejected with candidateLength := reducedLength }

/-- One round of the inner loop, on the text that is left. -/
def adjust (remaining : JsString) (search : ChunkSearch) : Adjustment :=
  let candidateText := remaining.take search.candidateLength
  match countPromptTokensForChunk candidateText with
  | none => .giveUp
  | some promptTokenCount =>
    if promptTokenCount ≤ effectivePromptLimit then
      acceptCandidate scaling effectivePromptLimit remaining candidateText promptTokenCount search
    else rejectCandidate scaling effectivePromptLimit promptTokenCount search

/-- The inner loop: the accepted chunk, if there is one. -/
def searchChunk (remaining : JsString) : Nat → ChunkSearch → Option JsString
  | 0, search => search.acceptedChunk
  | adjustments + 1, search =>
    if search.candidateLength = 0 then search.acceptedChunk
    else
      match adjust scaling countPromptTokensForChunk effectivePromptLimit remaining search with
      | .giveUp => none
      | .settled found => found.acceptedChunk
      | .again next => searchChunk remaining adjustments next

/-! ## The plan -/

variable (chunkThreshold : Nat)

def initialSearch (remaining : JsString) : ChunkSearch :=
  { candidateLength := min chunkThreshold remaining.length
    acceptedChunk := none
    acceptedLength := 0
    rejectedLength := none }

/-- The outer loop from an offset. -/
def chunksFrom (inputText : JsString) (offset : Nat) : Option (List JsString) :=
  if offset < inputText.length then
    let remaining := inputText.drop offset
    match searchChunk scaling countPromptTokensForChunk effectivePromptLimit remaining MAX_TOKEN_AWARE_CHUNK_ADJUSTMENTS
        (initialSearch chunkThreshold remaining) with
    | none => none
    | some [] => none
    | some (unit :: rest) => (chunksFrom inputText (offset + (rest.length + 1))).map ((unit :: rest) :: ·)
  else some []
termination_by inputText.length - offset

def planTokenAwareInferenceChunks (inputText : JsString) : Option (List JsString) :=
  if effectivePromptLimit = 0 then none
  else chunksFrom scaling countPromptTokensForChunk effectivePromptLimit chunkThreshold inputText 0

end

/-! ## What a search accepts -/

section

variable {scaling : Scaling} {countPromptTokensForChunk : JsString → Option Nat} {effectivePromptLimit : Nat}

/-- A chunk that was measured within the limit. -/
def Fits (countPromptTokensForChunk : JsString → Option Nat) (effectivePromptLimit : Nat) (chunk : JsString) : Prop :=
  ∃ promptTokenCount, countPromptTokensForChunk chunk = some promptTokenCount ∧ promptTokenCount ≤ effectivePromptLimit

/-- What a search accepted so far is a start of the text, and fits. -/
structure Accepts (countPromptTokensForChunk : JsString → Option Nat) (effectivePromptLimit : Nat) (remaining : JsString)
    (search : ChunkSearch) : Prop where
  isStart : ∀ chunk, search.acceptedChunk = some chunk →
    chunk = remaining.take search.acceptedLength ∧ Fits countPromptTokensForChunk effectivePromptLimit chunk
  /-- A length was accepted exactly if a chunk was. -/
  lengths : 0 < search.acceptedLength ↔ search.acceptedChunk.isSome = true

/-- The states a round may leave. -/
def Adjustment.states : Adjustment → List ChunkSearch
  | .giveUp => []
  | .settled search => [search]
  | .again search => [search]

variable {remaining : JsString}

theorem acceptCandidate_states {candidateText : JsString} {promptTokenCount : Nat} {search next : ChunkSearch}
    (member : next ∈ (acceptCandidate scaling effectivePromptLimit remaining candidateText promptTokenCount search).states) :
    next.acceptedChunk = some candidateText ∧ next.acceptedLength = search.candidateLength := by
  unfold acceptCandidate at member
  simp only at member
  split at member
  · obtain rfl := List.mem_singleton.mp member
    exact ⟨rfl, rfl⟩
  · split at member
    · obtain rfl := List.mem_singleton.mp member
      exact ⟨rfl, rfl⟩
    · split at member <;>
        · obtain rfl := List.mem_singleton.mp member
          exact ⟨rfl, rfl⟩

theorem rejectCandidate_states {promptTokenCount : Nat} {search next : ChunkSearch}
    (member : next ∈ (rejectCandidate scaling effectivePromptLimit promptTokenCount search).states) :
    next.acceptedChunk = search.acceptedChunk ∧ next.acceptedLength = search.acceptedLength := by
  unfold rejectCandidate at member
  simp only at member
  split at member
  · obtain rfl := List.mem_singleton.mp member
    exact ⟨rfl, rfl⟩
  · split at member
    · cases member
    · split at member
      · cases member
      · obtain rfl := List.mem_singleton.mp member
        exact ⟨rfl, rfl⟩

theorem Accepts.adjust {search next : ChunkSearch}
    (accepts : Accepts countPromptTokensForChunk effectivePromptLimit remaining search) (positive : search.candidateLength ≠ 0)
    (member : next ∈ (adjust scaling countPromptTokensForChunk effectivePromptLimit remaining search).states) :
    Accepts countPromptTokensForChunk effectivePromptLimit remaining next := by
  unfold SiftKit.Summary.adjust at member
  simp only at member
  split at member
  next => cases member
  next promptTokenCount counted =>
    split at member
    next fits =>
      obtain ⟨isChunk, isLength⟩ := acceptCandidate_states member
      constructor
      · intro chunk isAccepted
        obtain rfl : remaining.take search.candidateLength = chunk := by simpa [isChunk] using isAccepted
        exact ⟨by rw [isLength], promptTokenCount, counted, fits⟩
      · simp only [isChunk, isLength, Option.isSome_some, iff_true]
        omega
    next tooLong =>
      obtain ⟨sameChunk, sameLength⟩ := rejectCandidate_states member
      constructor
      · rw [sameChunk, sameLength]
        exact accepts.isStart
      · rw [sameChunk, sameLength]
        exact accepts.lengths

theorem accepts_initialSearch (chunkThreshold : Nat) (remaining : JsString) :
    Accepts countPromptTokensForChunk effectivePromptLimit remaining (initialSearch chunkThreshold remaining) where
  isStart := fun _ accepted => nomatch accepted
  lengths := by simp [initialSearch]

theorem searchChunk_accepts {chunk : JsString} {adjustments : Nat} {search : ChunkSearch}
    (accepts : Accepts countPromptTokensForChunk effectivePromptLimit remaining search)
    (found : searchChunk scaling countPromptTokensForChunk effectivePromptLimit remaining adjustments search = some chunk) :
    chunk <+: remaining ∧ (chunk = [] → remaining = []) ∧ Fits countPromptTokensForChunk effectivePromptLimit chunk := by
  have start : ∀ state : ChunkSearch, Accepts countPromptTokensForChunk effectivePromptLimit remaining state →
      state.acceptedChunk = some chunk →
      chunk <+: remaining ∧ (chunk = [] → remaining = []) ∧ Fits countPromptTokensForChunk effectivePromptLimit chunk := by
    intro state accepts accepted
    obtain ⟨isTake, fits⟩ := accepts.isStart chunk accepted
    have positive := accepts.lengths.mpr (by simp [accepted])
    rw [isTake] at fits ⊢
    refine ⟨List.take_prefix _ _, fun empty => ?_, fits⟩
    exact (List.take_eq_nil_iff.mp empty).resolve_left (by omega)
  induction adjustments generalizing search with
  | zero => exact start search accepts found
  | succ adjustments ih =>
    rw [searchChunk] at found
    split at found
    next => exact start search accepts found
    next positive =>
      have kept := fun next member => @accepts.adjust scaling _ _ _ _ next positive member
      split at found
      next => cases found
      next settled isSettled => exact start settled (kept settled (by simp [isSettled, Adjustment.states])) found
      next next again => exact ih (kept next (by simp [again, Adjustment.states])) found

/-- The chunks of a plan are the rest of the text, cut where each fits. -/
theorem chunksFrom_covers (chunkThreshold : Nat) (inputText : JsString) (offset : Nat) : ∀ chunks,
    chunksFrom scaling countPromptTokensForChunk effectivePromptLimit chunkThreshold inputText offset = some chunks →
      chunks.flatten = inputText.drop offset ∧
        ∀ chunk ∈ chunks, chunk ≠ [] ∧ Fits countPromptTokensForChunk effectivePromptLimit chunk := by
  fun_induction chunksFrom scaling countPromptTokensForChunk effectivePromptLimit chunkThreshold inputText offset with
  | case1 => exact fun _ planned => nomatch planned
  | case2 => exact fun _ planned => nomatch planned
  | case3 offset within remaining unit rest found ih =>
    intro chunks planned
    obtain ⟨others, isRest, rfl⟩ := Option.map_eq_some_iff.mp planned
    obtain ⟨covers, each⟩ := ih others isRest
    obtain ⟨isStart, _, fits⟩ := searchChunk_accepts (accepts_initialSearch chunkThreshold remaining) found
    constructor
    · -- the chunk is the start of what is left, the others are what follows it
      obtain ⟨later, isRemaining⟩ := isStart
      have isLater : inputText.drop (offset + (rest.length + 1)) = later := by
        rw [← List.drop_drop, show inputText.drop offset = remaining from rfl, ← isRemaining]
        exact List.drop_left
      rw [List.flatten_cons, covers, isLater]
      exact isRemaining
    · intro chunk member
      cases List.mem_cons.mp member with
      | inl isChunk =>
        rw [isChunk]
        exact ⟨List.cons_ne_nil _ _, fits⟩
      | inr later => exact each chunk later
  | case4 offset beyond =>
    rintro _ ⟨⟩
    exact ⟨by simp [List.drop_eq_nil_of_le (Nat.not_lt.mp beyond)], by simp⟩

/-! ## When a plan is found -/

/-- The lengths that the reduction tries from the first candidate on. -/
def reducedFrom (scaling : Scaling) (countPromptTokensForChunk : JsString → Option Nat) (effectivePromptLimit chunkThreshold : Nat)
    (remaining : JsString) : Nat → Nat
  | 0 => min chunkThreshold remaining.length
  | reductions + 1 =>
    let inputLength := reducedFrom scaling countPromptTokensForChunk effectivePromptLimit chunkThreshold remaining reductions
    match countPromptTokensForChunk (remaining.take inputLength) with
    | none => inputLength
    | some promptTokenCount => reducedThreshold scaling inputLength promptTokenCount effectivePromptLimit

/-- Every part of the text has a count. -/
def Counts (countPromptTokensForChunk : JsString → Option Nat) (inputText : JsString) : Prop :=
  ∀ chunk, chunk <:+: inputText → chunk ≠ [] → (countPromptTokensForChunk chunk).isSome = true

variable {inputText : JsString}

theorem counts_take (counts : Counts countPromptTokensForChunk inputText)
    (within : remaining <:+: inputText) (present : remaining ≠ []) {length : Nat} (positive : length ≠ 0) :
    ∃ promptTokenCount, countPromptTokensForChunk (remaining.take length) = some promptTokenCount := by
  apply Option.isSome_iff_exists.mp
  apply counts _ ((List.take_prefix _ _).isInfix.trans within)
  simp [positive, present]

theorem acceptCandidate_ne_giveUp {candidateText : JsString} {promptTokenCount : Nat} {search : ChunkSearch} :
    acceptCandidate scaling effectivePromptLimit remaining candidateText promptTokenCount search ≠ .giveUp := by
  unfold acceptCandidate
  simp only
  split
  · simp
  · split
    · simp
    · split <;> simp

theorem adjust_accepted {search : ChunkSearch} {promptTokenCount : Nat}
    (accepts : Accepts countPromptTokensForChunk effectivePromptLimit remaining search)
    (counted : countPromptTokensForChunk (remaining.take search.candidateLength) = some promptTokenCount)
    (accepted : search.acceptedChunk.isSome = true ∨ promptTokenCount ≤ effectivePromptLimit) :
    ∃ next, (adjust scaling countPromptTokensForChunk effectivePromptLimit remaining search = .settled next ∨
        adjust scaling countPromptTokensForChunk effectivePromptLimit remaining search = .again next) ∧
      next.acceptedChunk.isSome = true := by
  have isRound : adjust scaling countPromptTokensForChunk effectivePromptLimit remaining search =
      if promptTokenCount ≤ effectivePromptLimit then acceptCandidate scaling effectivePromptLimit remaining
        (remaining.take search.candidateLength) promptTokenCount search
      else rejectCandidate scaling effectivePromptLimit promptTokenCount search := by
    simp [adjust, counted]
  rw [isRound]
  by_cases fits : promptTokenCount ≤ effectivePromptLimit
  · rw [if_pos fits]
    have states := fun next => @acceptCandidate_states scaling effectivePromptLimit remaining
      (remaining.take search.candidateLength) promptTokenCount search next
    cases round : acceptCandidate scaling effectivePromptLimit remaining (remaining.take search.candidateLength)
        promptTokenCount search with
    | giveUp => exact absurd round acceptCandidate_ne_giveUp
    | settled next => exact ⟨next, .inl rfl, by simp [(states next (by simp [round, Adjustment.states])).1]⟩
    | again next => exact ⟨next, .inr rfl, by simp [(states next (by simp [round, Adjustment.states])).1]⟩
  · -- what was accepted before is kept
    have before := accepted.resolve_right fits
    rw [if_neg fits, rejectCandidate, if_pos (accepts.lengths.mpr before)]
    exact ⟨_, .inr rfl, before⟩

theorem searchChunk_accepted (counts : Counts countPromptTokensForChunk inputText)
    (within : remaining <:+: inputText) (present : remaining ≠ []) {adjustments : Nat} {search : ChunkSearch}
    (accepts : Accepts countPromptTokensForChunk effectivePromptLimit remaining search)
    (accepted : search.acceptedChunk.isSome = true) :
    (searchChunk scaling countPromptTokensForChunk effectivePromptLimit remaining adjustments search).isSome = true := by
  induction adjustments generalizing search with
  | zero => exact accepted
  | succ adjustments ih =>
    rw [searchChunk]
    by_cases positive : search.candidateLength = 0
    · rwa [if_pos positive]
    · rw [if_neg positive]
      obtain ⟨promptTokenCount, counted⟩ := counts_take counts within present positive
      obtain ⟨next, ended | again, acceptedNext⟩ := @adjust_accepted scaling _ _ _ _ _ accepts counted (.inl accepted)
      · rw [ended]
        exact acceptedNext
      · rw [again]
        exact ih (@accepts.adjust scaling _ _ _ _ next positive (by simp [again, Adjustment.states])) acceptedNext

variable {chunkThreshold : Nat}

theorem reducedFrom_pos (positive : 0 < chunkThreshold) (present : remaining ≠ [])
    (reductions : Nat) :
    0 < reducedFrom scaling countPromptTokensForChunk effectivePromptLimit chunkThreshold remaining reductions := by
  induction reductions with
  | zero =>
    have := List.length_pos_iff.mpr present
    simp only [reducedFrom]
    omega
  | succ reductions ih =>
    rw [reducedFrom]
    split
    · exact ih
    · exact Nat.lt_of_lt_of_le Nat.zero_lt_one (Nat.le_max_left _ _)

theorem reducedFrom_one {reductions later : Nat} (before : reductions ≤ later)
    (isOne : reducedFrom scaling countPromptTokensForChunk effectivePromptLimit chunkThreshold remaining reductions = 1) :
    reducedFrom scaling countPromptTokensForChunk effectivePromptLimit chunkThreshold remaining later = 1 := by
  induction before with
  | refl => exact isOne
  | @step later _ ih =>
    rw [reducedFrom]
    simp only [ih]
    split
    · rfl
    · simp [reducedThreshold]

theorem searchChunk_reduces
    (counts : Counts countPromptTokensForChunk inputText) (within : remaining <:+: inputText) (present : remaining ≠ [])
    (positive : 0 < chunkThreshold) (limit : effectivePromptLimit ≠ 0) {adjustments reductions last : Nat} {search : ChunkSearch}
    (accepts : Accepts countPromptTokensForChunk effectivePromptLimit remaining search)
    (isCandidate : search.candidateLength =
      reducedFrom scaling countPromptTokensForChunk effectivePromptLimit chunkThreshold remaining reductions)
    (inTime : reductions ≤ last ∧ last < reductions + adjustments)
    (fits : Fits countPromptTokensForChunk effectivePromptLimit (remaining.take
      (reducedFrom scaling countPromptTokensForChunk effectivePromptLimit chunkThreshold remaining last))) :
    (searchChunk scaling countPromptTokensForChunk effectivePromptLimit remaining adjustments search).isSome = true := by
  induction adjustments generalizing reductions search with
  | zero => omega
  | succ adjustments ih =>
    by_cases accepted : search.acceptedChunk.isSome = true
    · exact searchChunk_accepted counts within present accepts accepted
    · have candidate := @reducedFrom_pos scaling countPromptTokensForChunk effectivePromptLimit _ _ positive present reductions
      have nonzero : search.candidateLength ≠ 0 := by omega
      obtain ⟨promptTokenCount, counted⟩ := counts_take counts within present nonzero
      rw [searchChunk, if_neg nonzero]
      by_cases fitsNow : promptTokenCount ≤ effectivePromptLimit
      · obtain ⟨next, ended | again, acceptedNext⟩ := @adjust_accepted scaling _ _ _ _ _ accepts counted (.inr fitsNow)
        · rw [ended]
          exact acceptedNext
        · rw [again]
          exact searchChunk_accepted counts within present
            (@accepts.adjust scaling _ _ _ _ next nonzero (by simp [again, Adjustment.states])) acceptedNext
      · -- the candidate is reduced, for one unit that does not fit would not come to fit
        have notLast : last ≠ reductions := by
          rintro rfl
          obtain ⟨tokens, isCount, small⟩ := fits
          rw [← isCandidate, counted] at isCount
          cases isCount
          exact fitsNow small
        have longer : 1 < search.candidateLength := by
          by_contra short
          have isOne : search.candidateLength = 1 := by omega
          obtain ⟨tokens, isCount, small⟩ := fits
          rw [reducedFrom_one inTime.1 (isCandidate ▸ isOne), ← isOne, counted] at isCount
          cases isCount
          exact fitsNow small
        have unaccepted : ¬ 0 < search.acceptedLength := fun some => accepted (accepts.lengths.mp some)
        let reducedLength := reducedThreshold scaling search.candidateLength promptTokenCount effectivePromptLimit
        have shorter : reducedLength < search.candidateLength := by
          simp only [reducedLength, reducedThreshold]
          omega
        have reduced : getTokenAwareChunkThreshold scaling search.candidateLength promptTokenCount effectivePromptLimit =
            some reducedLength := by
          rw [getTokenAwareChunkThreshold, if_neg (by omega)]
          exact if_pos shorter
        have again : adjust scaling countPromptTokensForChunk effectivePromptLimit remaining search =
            .again { search with rejectedLength := some search.candidateLength, candidateLength := reducedLength } := by
          simp [adjust, counted, fitsNow, rejectCandidate, unaccepted, reduced, shorter]
        rw [again]
        apply @ih (reductions + 1)
        · exact @accepts.adjust scaling _ _ _ _ _ nonzero (by simp [again, Adjustment.states])
        · rw [reducedFrom, ← isCandidate, counted]
        · omega

theorem chunksFrom_isSome (counts : Counts countPromptTokensForChunk inputText)
    (positive : 0 < chunkThreshold) (limit : effectivePromptLimit ≠ 0)
    (reaches : ∀ offset < inputText.length, ∃ reductions < MAX_TOKEN_AWARE_CHUNK_ADJUSTMENTS,
      Fits countPromptTokensForChunk effectivePromptLimit ((inputText.drop offset).take
        (reducedFrom scaling countPromptTokensForChunk effectivePromptLimit chunkThreshold (inputText.drop offset) reductions)))
    (offset : Nat) :
    (chunksFrom scaling countPromptTokensForChunk effectivePromptLimit chunkThreshold inputText offset).isSome = true := by
  fun_induction chunksFrom scaling countPromptTokensForChunk effectivePromptLimit chunkThreshold inputText offset with
  | case1 offset within remaining noChunk =>
    obtain ⟨reductions, inTime, fits⟩ := reaches offset within
    have found := @searchChunk_reduces scaling _ _ _ _ _ counts (List.drop_suffix _ _).isInfix (by simpa using within) positive
      limit _ 0 reductions _ (accepts_initialSearch chunkThreshold _) rfl ⟨Nat.zero_le _, by simpa using inTime⟩ fits
    rw [noChunk] at found
    cases found
  | case2 offset within remaining emptyChunk =>
    have empty := (searchChunk_accepts (accepts_initialSearch chunkThreshold remaining) emptyChunk).2.1 rfl
    have beyond := List.drop_eq_nil_iff.mp empty
    omega
  | case3 offset within remaining unit rest found ih =>
    simpa using ih
  | case4 offset beyond => rfl

/-- Whatever the counter answers, a plan is given up or cuts the whole text into chunks of which each was measured within
the limit.  It is not given up where every part of the text has a count and the reduction of every first candidate comes
to a fitting length within the allowed measurements. -/
theorem plan_cuts_the_text (scaling : Scaling) (countPromptTokensForChunk : JsString → Option Nat)
    (effectivePromptLimit chunkThreshold : Nat) (isLimit : 0 < effectivePromptLimit) (isThreshold : 0 < chunkThreshold)
    (inputText : JsString) :
    (∀ chunks, planTokenAwareInferenceChunks scaling countPromptTokensForChunk effectivePromptLimit chunkThreshold inputText =
        some chunks →
      chunks.flatten = inputText ∧
        ∀ chunk ∈ chunks, chunk ≠ [] ∧ Fits countPromptTokensForChunk effectivePromptLimit chunk) ∧
    (Counts countPromptTokensForChunk inputText →
      (∀ offset < inputText.length, ∃ reductions < MAX_TOKEN_AWARE_CHUNK_ADJUSTMENTS,
        Fits countPromptTokensForChunk effectivePromptLimit ((inputText.drop offset).take
          (reducedFrom scaling countPromptTokensForChunk effectivePromptLimit chunkThreshold (inputText.drop offset)
            reductions))) →
      planTokenAwareInferenceChunks scaling countPromptTokensForChunk effectivePromptLimit chunkThreshold inputText ≠ none) := by
  have limit : effectivePromptLimit ≠ 0 := Nat.ne_of_gt isLimit
  rw [planTokenAwareInferenceChunks, if_neg limit]
  constructor
  · intro chunks planned
    simpa using chunksFrom_covers chunkThreshold inputText 0 chunks planned
  · intro counts reaches
    exact Option.isSome_iff_ne_none.mp (chunksFrom_isSome counts isThreshold limit reaches 0)

end

/-- The scaled lengths without rounding errors. -/
def exactScaling : Scaling where
  grown acceptedLength effectivePromptLimit promptTokenCount := acceptedLength * effectivePromptLimit / max promptTokenCount 1
  scaled inputLength effectivePromptLimit promptTokenCount :=
    inputLength * effectivePromptLimit * 95 / (promptTokenCount * 100)

/-- Two tokens of instructions and three for every unit. -/
def tripledCount (chunk : JsString) : Option Nat := some (3 * chunk.length + 2)

theorem tripled_plan_cuts_the_text :
    (∃ chunks, planTokenAwareInferenceChunks exactScaling tripledCount 8 5 (utf16 "lines") = some chunks) ∧
      ∀ chunks, planTokenAwareInferenceChunks exactScaling tripledCount 8 5 (utf16 "lines") = some chunks →
        chunks.flatten = utf16 "lines" := by
  obtain ⟨covers, found⟩ := plan_cuts_the_text exactScaling tripledCount 8 5 (by decide) (by decide) (utf16 "lines")
  have reduced : ∀ offset < (utf16 "lines").length, 3 * (((utf16 "lines").drop offset).take
      (reducedFrom exactScaling tripledCount 8 5 ((utf16 "lines").drop offset) 1)).length + 2 ≤ 8 := by
    decide
  constructor
  · apply Option.ne_none_iff_exists'.mp
    apply found
    · intro chunk _ _
      rfl
    · intro offset within
      exact ⟨1, by decide, _, rfl, reduced offset within⟩
  · intro chunks planned
    exact (covers chunks planned).1

end SiftKit.Summary
