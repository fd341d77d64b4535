import SiftKit.Assistant.MemoryContract
import SiftKit.Foundation.Bisection

/-! # Memory that fits its token limit

`projections/token-limit-enforcer.ts` and the selection at the end of `retrieval/memory-retriever.ts`.  Both search
by halving what a plain scan would try one after the other, for a counter that counts no more once lines are
removed.
-/

namespace SiftKit.Assistant.Memory

open SiftKit.Bisection SiftKit.Failure SiftKit.Graph SiftKit.Json

/-! ## Retrieval -/

def RENDER_HEADING : JsString := utf16 "## Relevant personal context"

structure RetrieveResult where
  renderedBlock : JsString
  assertionIds : List String
  projectionIds : List String
  tokenCount : Nat

/-- The block of the first sentences. -/
def prefixBlock (sentences : List JsString) (included : Nat) : JsString :=
  joinLines ([RENDER_HEADING, []] ++ sentences.take included)

section

variable (count : JsString → TokenCount) (sentences : List JsString)

def countPrefix (measured : OrderedMap Nat Nat) (included : Nat) : Nat × OrderedMap Nat Nat :=
  match measured.get? included with
  | some cached => (cached, measured)
  | none =>
    let value := (count (prefixBlock sentences included)).tokenCount
    (value, measured.set included value)

def searchPrefix (maxContextTokens low high : Nat) (measured : OrderedMap Nat Nat) : Nat × OrderedMap Nat Nat :=
  if low < high then
    let mid := (low + high + 1) / 2
    let counted := countPrefix count sentences measured mid
    if counted.1 ≤ maxContextTokens then searchPrefix maxContextTokens mid high counted.2
    else searchPrefix maxContextTokens low (mid - 1) counted.2
  else (low, measured)
termination_by high - low

end

section

variable (count : JsString → TokenCount) (platform : MemoryPlatform)

def emptyRetrieval (projectionIds : List String) : RetrieveResult :=
  { renderedBlock := [], assertionIds := [], projectionIds, tokenCount := 0 }

/-- `retrieve`, once the views are ranked. -/
def selectRanked (maxContextTokens : Nat) (projectionIds : List String) (ranked : List AssertionView) :
    Except Thrown RetrieveResult :=
  if ranked.isEmpty then .ok (emptyRetrieval projectionIds)
  else
    let sentences := ranked.map (renderAssertionSentence platform)
    let heading := countPrefix count sentences OrderedMap.empty 0
    let high := if maxContextTokens < heading.1 then 0 else sentences.length
    let selected := searchPrefix count sentences maxContextTokens 0 high heading.2
    let includedAssertionIds := (ranked.take selected.1).map AssertionView.assertionId
    if includedAssertionIds.isEmpty then .ok (emptyRetrieval projectionIds)
    else
      match selected.2.get? selected.1 with
      | none => .error (.error s!"Retrieval prefix of {selected.1} sentences was selected but never measured.")
      | some tokenCount =>
        .ok
          { renderedBlock := prefixBlock sentences selected.1
            assertionIds := includedAssertionIds
            projectionIds
            tokenCount }

end

/-! ## The plain scan -/

/-- The lines without the last list item, if there is one. -/
def dropLastItem : List JsString → Option (List JsString)
  | [] => none
  | line :: rest =>
    match dropLastItem rest with
    | some kept => some (line :: kept)
    | none => if isListItem line then some rest else none

variable {lines : List JsString}

theorem length_dropLastItem {kept : List JsString} (dropped : dropLastItem lines = some kept) :
    kept.length < lines.length := by
  induction lines generalizing kept with
  | nil => cases dropped
  | cons line rest ih =>
    rw [dropLastItem] at dropped
    cases later : dropLastItem rest with
    | some fewer =>
      obtain rfl : line :: fewer = kept := by simpa [later] using dropped
      simpa using ih later
    | none =>
      have isRest : isListItem line = true ∧ rest = kept := by simpa [later] using dropped
      simp [isRest.2]

/-- The loop that drops one list item after the other until the body fits or none is left. -/
def dropOneByOne (fits : JsString → Bool) (lines : List JsString) (dropped : Nat) : EnforcedBody :=
  if fits (joinLines lines) then { body := joinLines lines, droppedLines := dropped }
  else
    match next : dropLastItem lines with
    | none => { body := joinLines lines, droppedLines := dropped }
    | some kept => dropOneByOne fits kept (dropped + 1)
termination_by lines.length
decreasing_by exact length_dropLastItem next

/-- The lines without their last list items. -/
def withoutLastItems : List JsString → Nat → List JsString
  | [], _ => []
  | line :: rest, dropped =>
    if isListItem line && decide (rest.countP isListItem < dropped) then withoutLastItems rest dropped
    else line :: withoutLastItems rest dropped

/-- A counter that counts no more once lines are removed. -/
def CountsFewer (count : JsString → TokenCount) : Prop :=
  ∀ kept lines : List JsString, kept.Sublist lines →
    (count (joinLines kept)).tokenCount ≤ (count (joinLines lines)).tokenCount

/-! ## Dropped lines -/

theorem withoutLastItems_of_le {dropped : Nat} (all : lines.countP isListItem ≤ dropped) :
    withoutLastItems lines dropped = lines.filter fun line => !isListItem line := by
  induction lines with
  | nil => rfl
  | cons line rest ih =>
    rw [List.countP_cons] at all
    by_cases item : isListItem line = true
    · have later : rest.countP isListItem < dropped := by
        simp only [item, if_true] at all
        omega
      simp [withoutLastItems, item, later, ih (by omega)]
    · simp only [item, Bool.false_eq_true, if_false] at all
      simp [withoutLastItems, item, ih all]

@[simp] theorem withoutLastItems_zero (lines : List JsString) : withoutLastItems lines 0 = lines := by
  induction lines with
  | nil => rfl
  | cons line rest ih => simp [withoutLastItems, ih]

theorem withoutLastItems_sublist (lines : List JsString) {few many : Nat} (fewer : few ≤ many) :
    (withoutLastItems lines many).Sublist (withoutLastItems lines few) := by
  induction lines with
  | nil => exact .slnil
  | cons line rest ih =>
    rw [withoutLastItems, withoutLastItems]
    by_cases item : isListItem line = true
    · simp only [item, Bool.true_and, decide_eq_true_eq]
      by_cases removed : rest.countP isListItem < few
      · rw [if_pos removed, if_pos (Nat.lt_of_lt_of_le removed fewer)]
        exact ih
      · rw [if_neg removed]
        split
        · exact ih.cons line
        · exact ih.cons_cons line
    · simp only [item, Bool.false_and, Bool.false_eq_true, if_false]
      exact ih.cons_cons line

/-- The last item of the lines that are left is the next one to go. -/
theorem dropLastItem_withoutLastItems (lines : List JsString) (dropped : Nat) :
    dropLastItem (withoutLastItems lines dropped) =
      if dropped < lines.countP isListItem then some (withoutLastItems lines (dropped + 1)) else none := by
  induction lines with
  | nil => rfl
  | cons line rest ih =>
    by_cases item : isListItem line = true
    · rw [List.countP_cons_of_pos item]
      by_cases removed : rest.countP isListItem < dropped
      · simp [withoutLastItems, item, removed, ih, Nat.not_lt.mpr (Nat.le_of_lt removed),
          Nat.not_lt.mpr (Nat.succ_le_of_lt removed)]
      · by_cases later : dropped < rest.countP isListItem
        · simp [withoutLastItems, dropLastItem, item, removed, ih, later, Nat.lt_succ_of_lt later,
            Nat.not_lt.mpr (Nat.succ_le_of_lt later)]
        · -- this is the item
          obtain rfl : dropped = rest.countP isListItem := by omega
          rw [if_neg removed] at ih
          rw [if_pos (Nat.lt_succ_self _)]
          simp only [withoutLastItems, dropLastItem, item, ih, Bool.true_and, decide_eq_true_eq, lt_irrefl,
            if_false, if_true, Nat.lt_succ_self]
          rw [withoutLastItems_of_le le_rfl, withoutLastItems_of_le (Nat.le_succ _)]
    · rw [List.countP_cons_of_neg item]
      by_cases later : dropped < rest.countP isListItem <;>
        simp [withoutLastItems, dropLastItem, item, ih, later]

/-- The places of the list items, counted from a place. -/
def citedFrom (place : Nat) (lines : List JsString) : List Nat :=
  ((lines.zipIdx place).filter fun entry => isListItem entry.1).map Prod.snd

theorem citedFrom_cons (place : Nat) (line : JsString) (rest : List JsString) :
    citedFrom place (line :: rest) =
      if isListItem line then place :: citedFrom (place + 1) rest else citedFrom (place + 1) rest := by
  by_cases item : isListItem line = true <;> simp [citedFrom, List.zipIdx_cons, item]

theorem length_citedFrom (place : Nat) (lines : List JsString) :
    (citedFrom place lines).length = lines.countP isListItem := by
  induction lines generalizing place with
  | nil => rfl
  | cons line rest ih =>
    rw [citedFrom_cons, List.countP_cons]
    split <;> simp [ih]

theorem le_of_mem_citedFrom {place cited : Nat} (member : cited ∈ citedFrom place lines) :
    place ≤ cited := by
  obtain ⟨entry, isEntry, rfl⟩ := List.mem_map.mp member
  exact List.le_snd_of_mem_zipIdx (List.mem_of_mem_filter isEntry)

theorem filter_zipIdx_eq_withoutLastItems (lines : List JsString) (place dropped : Nat) :
    ((lines.zipIdx place).filter fun entry =>
        !((citedFrom place lines).drop ((citedFrom place lines).length - dropped)).contains entry.2).map Prod.fst =
      withoutLastItems lines dropped := by
  induction lines generalizing place with
  | nil => rfl
  | cons line rest ih =>
    have head : ∀ fewer, place ∉ (citedFrom (place + 1) rest).drop fewer := by
      intro fewer member
      have := le_of_mem_citedFrom (List.mem_of_mem_drop member)
      omega
    have others : ∀ removed : List Nat, ((rest.zipIdx (place + 1)).filter fun entry => !(place :: removed).contains entry.2) =
        (rest.zipIdx (place + 1)).filter fun entry => !removed.contains entry.2 := by
      intro removed
      apply List.filter_congr
      intro entry member
      have := List.le_snd_of_mem_zipIdx member
      have apart : entry.2 ≠ place := by omega
      simp [apart]
    rw [List.zipIdx_cons, citedFrom_cons]
    specialize ih (place + 1)
    by_cases item : isListItem line = true
    · rw [if_pos item, List.length_cons]
      rw [length_citedFrom] at ih ⊢
      by_cases removed : rest.countP isListItem < dropped
      · -- every item goes, and this one with them
        have all : rest.countP isListItem + 1 - dropped = 0 := by omega
        have allOthers : rest.countP isListItem - dropped = 0 := by omega
        rw [all, List.drop_zero, List.filter_cons_of_neg (by simp), others]
        rw [allOthers, List.drop_zero] at ih
        rw [ih]
        simp [withoutLastItems, item, removed]
      · have later : rest.countP isListItem + 1 - dropped = (rest.countP isListItem - dropped) + 1 := by omega
        rw [later, List.drop_succ_cons, List.filter_cons_of_pos (by simpa using head _), List.map_cons, ih]
        simp [withoutLastItems, removed]
    · rw [if_neg item, List.filter_cons_of_pos (by simpa using head _), List.map_cons, ih]
      simp [withoutLastItems, item]

theorem length_citedIndices (lines : List JsString) : (citedIndices lines).length = lines.countP isListItem :=
  length_citedFrom 0 lines

theorem bodyFor_eq (lines : List JsString) (dropped : Nat) :
    bodyFor lines dropped = joinLines (withoutLastItems lines dropped) := by
  unfold bodyFor
  split
  next none =>
    rw [none, withoutLastItems_zero]
  next => exact congrArg joinLines (filter_zipIdx_eq_withoutLastItems lines 0 dropped)

/-! ## The enforcer -/

section

variable {count : JsString → TokenCount} (fewer : CountsFewer count) (lines : List JsString) (tokenLimit : Nat)

/-- Whether the body without the last items fits. -/
def bodyFits (count : JsString → TokenCount) (lines : List JsString) (tokenLimit dropped : Nat) : Bool :=
  decide ((count (bodyFor lines dropped)).tokenCount ≤ tokenLimit)

include fewer in
theorem monotone_bodyFits : Monotone (bodyFits count lines tokenLimit) := by
  intro few many more
  have counted := fewer _ _ (withoutLastItems_sublist lines more)
  rw [Bool.le_iff_imp]
  simp only [bodyFits, bodyFor_eq, decide_eq_true_eq]
  omega

/-- The search of `enforce` ends at the first number of lines that fits. -/
theorem searchDropped_isFirst {fits : Nat → Bool} (rising : Monotone fits) {bound dropped : Nat} {low high : Int}
    (positive : 1 ≤ low) (natural : 0 ≤ high) (inBound : high ≤ bound)
    (window : FirstWindow fits bound low.toNat high.toNat dropped) :
    IsFirst fits bound (searchDropped fits low high dropped) := by
  fun_induction searchDropped fits low high dropped with
  | case1 low high dropped within mid passes ih =>
    have isMid : mid = (low + high) / 2 := rfl
    apply ih positive (by omega) (by omega)
    have kept := window.keepLow (by omega) (by omega) (by omega) passes
    rwa [show (mid - 1).toNat = mid.toNat - 1 by omega]
  | case2 low high dropped within mid fails ih =>
    have isMid : mid = (low + high) / 2 := rfl
    apply ih (by omega) natural inBound
    have kept := @FirstWindow.keepHigh _ _ rising _ _ _ mid.toNat window (by omega) (by simpa using fails)
    rwa [show (mid + 1).toNat = mid.toNat + 1 by omega]
  | case3 low high dropped empty => exact window.closed (by omega)

include fewer in
theorem enforce_spec :
    ∃ dropped, IsFirst (bodyFits count lines tokenLimit) (lines.countP isListItem) dropped ∧
      enforce count lines tokenLimit = ⟨joinLines (withoutLastItems lines dropped), dropped⟩ := by
  have rising := monotone_bodyFits fewer lines tokenLimit
  by_cases whole : bodyFits count lines tokenLimit 0 = true
  · refine ⟨0, ⟨Nat.zero_le _, .inl whole, by simp⟩, ?_⟩
    rw [← bodyFor_eq, enforce]
    exact if_pos whole
  · by_cases noItem : lines.countP isListItem = 0
    · refine ⟨0, ⟨Nat.zero_le _, .inr noItem.symm, by simp⟩, ?_⟩
      have empty : (citedIndices lines).isEmpty = true := by
        rw [List.isEmpty_iff_length_eq_zero, length_citedIndices, noItem]
      rw [← bodyFor_eq, enforce]
      exact (if_neg whole).trans (if_pos empty)
    · have present : ¬ (citedIndices lines).isEmpty = true := by
        rw [List.isEmpty_iff_length_eq_zero, length_citedIndices]
        exact noItem
      -- nothing below the first window fits, and all items may go
      have window : FirstWindow (bodyFits count lines tokenLimit) (lines.countP isListItem) 1 (lines.countP isListItem)
          (lines.countP isListItem) := by
        constructor
        · intro place before
          obtain rfl : place = 0 := by omega
          simpa using whole
        · omega
        · exact le_rfl
        · exact .inr rfl
        · omega
      have found := searchDropped_isFirst rising le_rfl (Int.natCast_nonneg _) le_rfl window
      refine ⟨_, found, ?_⟩
      rw [← bodyFor_eq, enforce]
      refine (if_neg whole).trans ((if_neg present).trans ?_)
      rw [length_citedIndices]
      rfl

/-- The plain loop ends there too. -/
theorem dropOneByOne_spec {dropped : Nat} (inBound : dropped ≤ lines.countP isListItem)
    (tried : ∀ earlier < dropped, bodyFits count lines tokenLimit earlier = false) :
    ∃ last, IsFirst (bodyFits count lines tokenLimit) (lines.countP isListItem) last ∧
      dropOneByOne (fun body => decide ((count body).tokenCount ≤ tokenLimit)) (withoutLastItems lines dropped) dropped =
        ⟨joinLines (withoutLastItems lines last), last⟩ := by
  induction isLeft : lines.countP isListItem - dropped generalizing dropped with
  | zero =>
    have isLast : dropped = lines.countP isListItem := by omega
    refine ⟨dropped, ⟨inBound, .inr isLast, tried⟩, ?_⟩
    rw [dropOneByOne]
    split
    · rfl
    · split
      next => rfl
      next next =>
        rw [dropLastItem_withoutLastItems, if_neg (by omega)] at next
        cases next
  | succ left ih =>
    by_cases passes : bodyFits count lines tokenLimit dropped = true
    · refine ⟨dropped, ⟨inBound, .inl passes, tried⟩, ?_⟩
      rw [bodyFits, bodyFor_eq] at passes
      rw [dropOneByOne, if_pos passes]
    · have isNext := dropLastItem_withoutLastItems lines dropped
      rw [if_pos (by omega)] at isNext
      have triedMore : ∀ earlier < dropped + 1, bodyFits count lines tokenLimit earlier = false := by
        intro earlier before
        by_cases here : earlier = dropped
        · rw [here]
          simpa using passes
        · exact tried earlier (by omega)
      obtain ⟨last, isFirst, ended⟩ := ih (by omega) triedMore (by omega)
      refine ⟨last, isFirst, ?_⟩
      rw [bodyFits, bodyFor_eq] at passes
      rw [dropOneByOne, if_neg passes]
      split
      next none =>
        rw [isNext] at none
        cases none
      next kept some =>
        rw [isNext] at some
        cases some
        exact ended

end

/-! ## The selection -/

section

variable {count : JsString → TokenCount} (fewer : CountsFewer count) (sentences : List JsString) (maxContextTokens : Nat)

/-- Whether the block of the first sentences fits. -/
def prefixFits (count : JsString → TokenCount) (sentences : List JsString) (maxContextTokens included : Nat) : Bool :=
  decide ((count (prefixBlock sentences included)).tokenCount ≤ maxContextTokens)

include fewer in
theorem antitone_prefixFits : Antitone (prefixFits count sentences maxContextTokens) := by
  intro short long longer
  have within : (sentences.take short).Sublist (sentences.take long) := (List.take_prefix_take_left longer).sublist
  have counted := fewer _ _ (within.append_left [RENDER_HEADING, []])
  rw [Bool.le_iff_imp]
  intro fits
  have longFits := of_decide_eq_true fits
  exact decide_eq_true (Nat.le_trans counted longFits)

/-- What was measured is the count of its block. -/
def Measured (count : JsString → TokenCount) (sentences : List JsString) (measured : OrderedMap Nat Nat) : Prop :=
  ∀ included value, measured.get? included = some value → value = (count (prefixBlock sentences included)).tokenCount

variable {sentences maxContextTokens}

theorem countPrefix_spec {measured : OrderedMap Nat Nat} (faithful : Measured count sentences measured) (included : Nat) :
    let counted := countPrefix count sentences measured included
    counted.1 = (count (prefixBlock sentences included)).tokenCount ∧ Measured count sentences counted.2 ∧
      counted.2.get? included = some counted.1 ∧
      ∀ other, (measured.get? other).isSome = true → (counted.2.get? other).isSome = true := by
  unfold countPrefix
  cases found : measured.get? included with
  | some cached => exact ⟨faithful included cached found, faithful, found, fun _ known => known⟩
  | none =>
    refine ⟨rfl, ?_, by simp, ?_⟩
    · intro other value
      rw [OrderedMap.get?_set]
      split
      next same =>
        rintro ⟨⟩
        rw [same]
      next => exact faithful other value
    · intro other known
      rw [OrderedMap.get?_set]
      split
      · rfl
      · exact known

include fewer in
theorem searchPrefix_spec {bound low high : Nat} {measured : OrderedMap Nat Nat}
    (window : LastWindow (prefixFits count sentences maxContextTokens) bound low high)
    (faithful : Measured count sentences measured) (known : (measured.get? low).isSome = true) :
    let selected := searchPrefix count sentences maxContextTokens low high measured
    IsLast (prefixFits count sentences maxContextTokens) bound selected.1 ∧
      selected.2.get? selected.1 = some (count (prefixBlock sentences selected.1)).tokenCount := by
  have falling := antitone_prefixFits fewer sentences maxContextTokens
  fun_induction searchPrefix count sentences maxContextTokens low high measured with
  | case1 low high measured within mid counted passes ih =>
    obtain ⟨isCount, faithfulNow, knownNow, _⟩ := countPrefix_spec faithful mid
    apply ih _ faithfulNow (by simp [counted, knownNow])
    apply window.keepHigh
    · omega
    · rw [prefixFits, ← isCount]
      exact decide_eq_true passes
  | case2 low high measured within mid counted fails ih =>
    obtain ⟨isCount, faithfulNow, _, stillKnown⟩ := countPrefix_spec faithful mid
    apply ih _ faithfulNow (stillKnown low known)
    apply window.keepLow falling
    · omega
    · rw [prefixFits, ← isCount]
      exact decide_eq_false fails
  | case3 low high measured empty =>
    refine ⟨window.closed (by omega), ?_⟩
    obtain ⟨value, found⟩ := Option.isSome_iff_exists.mp known
    rw [found, faithful low value found]

include fewer in
theorem selectRanked_spec (platform : MemoryPlatform) (projectionIds : List String) (ranked : List AssertionView) :
    let sentences := ranked.map (renderAssertionSentence platform)
    ∃ included, IsLast (prefixFits count sentences maxContextTokens) ranked.length included ∧
      selectRanked count platform maxContextTokens projectionIds ranked = .ok (
        if included = 0 then emptyRetrieval projectionIds
        else
          { renderedBlock := prefixBlock sentences included
            assertionIds := (ranked.take included).map AssertionView.assertionId
            projectionIds
            tokenCount := (count (prefixBlock sentences included)).tokenCount }) := by
  intro sentences
  unfold selectRanked
  have longest : sentences.length = ranked.length := List.length_map _
  by_cases empty : ranked = []
  · subst empty
    exact ⟨0, ⟨le_rfl, .inr rfl, fun later after inBound => absurd after (Nat.not_lt.mpr inBound)⟩, rfl⟩
  · have falling := antitone_prefixFits fewer sentences maxContextTokens
    obtain ⟨isCount, faithful, known, _⟩ :=
      @countPrefix_spec count sentences OrderedMap.empty (fun _ _ found => nomatch found) 0
    rw [if_neg (by simpa using empty)]
    simp only
    generalize countPrefix count sentences OrderedMap.empty 0 = heading at isCount faithful known ⊢
    generalize isHigh : (if maxContextTokens < heading.1 then 0 else sentences.length) = high
    -- no prefix is too long for the first window, and none at all when the heading alone is
    have window : LastWindow (prefixFits count sentences maxContextTokens) ranked.length 0 high := by
      refine ⟨Nat.zero_le _, ?_, .inr rfl, ?_⟩
      · rw [← isHigh]
        split <;> omega
      · intro place after inBound
        split at isHigh
        next tooMuch =>
          apply fails_after falling (Nat.zero_le place)
          rw [prefixFits, ← isCount]
          exact decide_eq_false (Nat.not_le.mpr tooMuch)
        next => omega
    obtain ⟨isLast, isMeasured⟩ := searchPrefix_spec fewer window faithful (by simp [known])
    generalize searchPrefix count sentences maxContextTokens 0 high heading.2 = selected at isLast isMeasured ⊢
    refine ⟨selected.1, isLast, ?_⟩
    by_cases none : selected.1 = 0
    · simp [none]
    · simp only [isMeasured, none, if_false]
      exact if_neg (by simp [none, empty])

end

/-! ## What memory takes -/

/-- For a counter that counts no more once lines are removed: the enforcer drops the fewest of the last list items with which
the body fits, all of them when none suffices, as dropping them one by one does; and a retrieval renders the longest
prefix that fits with the count of its block, which is empty exactly when not even the first sentence fits. -/
theorem memory_takes_what_fits (count : JsString → TokenCount) (fewer : CountsFewer count) (platform : MemoryPlatform)
    (limit : Nat) :
    (∀ lines : List JsString,
      let fits := fun dropped => (count (joinLines (withoutLastItems lines dropped))).tokenCount ≤ limit
      let enforced := enforce count lines limit
      enforced = dropOneByOne (fun body => decide ((count body).tokenCount ≤ limit)) lines 0 ∧
        enforced.body = joinLines (withoutLastItems lines enforced.droppedLines) ∧
        enforced.droppedLines ≤ lines.countP isListItem ∧
        (fits enforced.droppedLines ∨ enforced.droppedLines = lines.countP isListItem) ∧
        ∀ dropped < enforced.droppedLines, ¬ fits dropped) ∧
    (∀ (projectionIds : List String) (ranked : List AssertionView),
      let sentences := ranked.map (renderAssertionSentence platform)
      let fits := fun included => (count (prefixBlock sentences included)).tokenCount ≤ limit
      ∃ result included,
        selectRanked count platform limit projectionIds ranked = .ok result ∧
          result.assertionIds = (ranked.take included).map AssertionView.assertionId ∧
          result.projectionIds = projectionIds ∧ included ≤ ranked.length ∧
          (∀ longer, included < longer → longer ≤ ranked.length → ¬ fits longer) ∧
          (included = 0 ↔ ranked = [] ∨ ¬ fits 1) ∧
          (included = 0 → result.renderedBlock = [] ∧ result.tokenCount = 0) ∧
          (included ≠ 0 → fits included ∧ result.renderedBlock = prefixBlock sentences included ∧
            result.tokenCount = (count result.renderedBlock).tokenCount)) := by
  constructor
  · intro lines fits enforced
    obtain ⟨dropped, isFirst, isEnforced⟩ := enforce_spec fewer lines limit
    obtain ⟨last, isLast, ended⟩ := @dropOneByOne_spec count lines limit 0 (Nat.zero_le _) (by simp)
    rw [withoutLastItems_zero] at ended
    obtain rfl := isLast.unique isFirst
    have same : enforced = ⟨joinLines (withoutLastItems lines last), last⟩ := isEnforced
    have passes : ∀ tried, bodyFits count lines limit tried = true ↔ fits tried := by
      intro tried
      rw [bodyFits, bodyFor_eq, decide_eq_true_eq]
    rw [same]
    refine ⟨ended.symm, rfl, isFirst.bounded, ?_, ?_⟩
    · exact isFirst.passes.imp_left (passes last).mp
    · intro earlier before holds
      simpa [(passes earlier).mpr holds] using isFirst.first earlier before
  · intro projectionIds ranked sentences fits
    obtain ⟨included, isLast, selected⟩ := @selectRanked_spec count fewer limit platform projectionIds ranked
    have falling := antitone_prefixFits fewer sentences limit
    have passes : ∀ tried, prefixFits count sentences limit tried = true ↔ fits tried := by
      intro tried
      rw [prefixFits, decide_eq_true_eq]
    have noLonger : ∀ longer, included < longer → longer ≤ ranked.length → ¬ fits longer := by
      intro longer after inBound holds
      have fails := isLast.last longer after inBound
      rw [(passes longer).mpr holds] at fails
      cases fails
    have bounded := isLast.bounded
    refine ⟨_, included, selected, ?_, ?_, bounded, noLonger, ?_, ?_, ?_⟩
    · split
      next none => simp [emptyRetrieval, none]
      next => rfl
    · split <;> rfl
    · constructor
      · rintro rfl
        cases ranked with
        | nil => exact .inl rfl
        | cons first rest => exact .inr (noLonger 1 Nat.zero_lt_one (by simp))
      · rintro (rfl | small)
        · simpa using bounded
        · -- a longer prefix that fits would contain one that does not
          by_contra some
          have failsOne : prefixFits count sentences limit 1 = false := by
            rw [← Bool.not_eq_true, passes]
            exact small
          have failsAll := fails_after falling (Nat.one_le_iff_ne_zero.mpr some) failsOne
          exact absurd (isLast.passes.resolve_right some) (by simp [sentences] at failsAll; simp [failsAll])
    · rintro rfl
      exact ⟨rfl, rfl⟩
    · intro some
      rw [if_neg some]
      exact ⟨(passes included).mp (isLast.passes.resolve_right some), rfl, rfl⟩

/-! ## The estimate -/

/-- `EstimateTokenCounter.count`, for a whole number of characters per token. -/
def estimateCount (charactersPerToken : Nat) (text : JsString) : TokenCount :=
  { tokenCount := max 1 ((text.length + charactersPerToken - 1) / charactersPerToken), tokenizerId := utf16 "estimate" }

theorem length_joinLines_le {kept : List JsString} (within : kept.Sublist lines) :
    (joinLines kept).length ≤ (joinLines lines).length := by
  -- a line in front of others costs its length and a separator
  have length_cons : ∀ (line second : JsString) (rest : List JsString),
      (joinLines (line :: second :: rest)).length = line.length + 1 + (joinLines (second :: rest)).length := by
    intro line second rest
    simp [joinLines, List.intercalate_cons_cons]
    omega
  induction within with
  | slnil => exact le_rfl
  | @cons kept rest line within ih =>
    cases rest with
    | nil => simp [List.sublist_nil.mp within, joinLines]
    | cons second others =>
      rw [length_cons]
      omega
  | @cons_cons kept rest line within ih =>
    cases rest with
    | nil => rw [List.sublist_nil.mp within]
    | cons second others =>
      rw [length_cons]
      cases kept with
      | nil =>
        simp only [joinLines, List.intercalate_singleton]
        omega
      | cons keptSecond keptOthers =>
        rw [length_cons]
        omega

theorem countsFewer_estimateCount (charactersPerToken : Nat) : CountsFewer (estimateCount charactersPerToken) := by
  intro kept lines within
  have shorter := length_joinLines_le within
  exact max_le_max le_rfl (Nat.div_le_div_right (by omega))

/-- A preference that was stated. -/
def teaView : AssertionView where
  assertionId := "asr_tea"
  subjectText := utf16 "I"
  subjectIsOwner := true
  predicate := .PREFERS
  objectText := utf16 "tea"
  scopeText := []
  status := .active
  basis := .explicit_user_statement
  confidence := 1
  sensitivity := .low
  pinned := false
  userDemoted := false
  lastObservedAtUtc := "2026-03-01T00:00:00.000Z"
  validFromUtc := none
  validToUtc := none
  topicKey := utf16 "drinks"

/-- Where nothing fits the result counts no tokens, although the counter estimates one for the empty block. -/
theorem empty_block_counts_nothing :
    ¬ ∀ count : JsString → TokenCount, CountsFewer count →
      ∀ (platform : MemoryPlatform) (limit : Nat) (projectionIds : List String) (ranked : List AssertionView)
        (result : RetrieveResult), selectRanked count platform limit projectionIds ranked = .ok result →
          result.tokenCount = (count result.renderedBlock).tokenCount := by
  intro counted
  have selected : selectRanked (estimateCount 4) samplePlatform 0 [] [teaView] = .ok (emptyRetrieval []) := by
    have heading : 0 < (countPrefix (estimateCount 4) ([teaView].map (renderAssertionSentence samplePlatform))
        OrderedMap.empty 0).1 := Nat.lt_of_lt_of_le Nat.zero_lt_one (Nat.le_max_left _ _)
    unfold selectRanked
    simp only [heading, if_true]
    rw [searchPrefix]
    rfl
  exact absurd (counted _ (countsFewer_estimateCount 4) samplePlatform 0 [] [teaView] _ selected) (by decide)

/-- With an estimate, as with the plain loop. -/
theorem estimated_body_fits :
    let lines := [utf16 "# Profile", utf16 "- Likes tea.", utf16 "- Lives in Oslo.", utf16 "## Memory topics"]
    enforce (estimateCount 4) lines 10 =
      dropOneByOne (fun body => decide ((estimateCount 4 body).tokenCount ≤ 10)) lines 0 :=
  ((memory_takes_what_fits (estimateCount 4) (countsFewer_estimateCount 4) samplePlatform 10).1 _).1

end SiftKit.Assistant.Memory
