import SiftKit.Chat.ContextDeletion

/-! # Deleting messages keeps the context valid

What deletions leave of a coherent context: the exchanges whose answers are not deleted, and every message that
is not named and still has something.  This holds as long as the scan pairs calls and answers as the check does,
which no tool message with calls of its own may disturb.
-/

namespace SiftKit.Chat.ContextRevision

open SiftKit.Json SiftKit.Failure

/-! ## What is left -/

def named (messageIds : List JsString) (entry : Entry) : Bool := isDeleted messageIds entry.1.chatMessageId

@[simp] theorem named_answer (messageIds : List JsString) (entry : Entry) :
    named messageIds (entry.1.answer, entry.2) = named messageIds entry := rfl

/-- What deletions leave of a context. -/
structure Retained (messageIds : List JsString) (before after : List Entry) : Prop where
  order : (after.map Prod.snd).Sublist (before.map Prod.snd)
  answers : answersOf after = (answersOf before).filter fun entry => !named messageIds entry
  calls : callsOf after = ((exchanges before).filter fun exchange => !named messageIds exchange.2).map Prod.fst
  others : ∀ entry ∈ before, named messageIds entry = false → isDeleted messageIds entry.1.thinkingMessageId = false →
    (saysSomething entry.1 = true ∨ ∃ call ∈ callsOf after, call.1 = entry.2) →
      ∃ toolCalls, ({ entry.1 with toolCalls := toolCalls }, entry.2) ∈ after

/-! ## What the scan must not meet -/

def isPlain (message : ChatMessage) : Bool := message.role ≠ .tool || message.declared.isEmpty

/-- How many calls are declared before the first tool message with calls of its own. -/
def undisturbed (messages : List ChatMessage) : Nat := (declaredIds (messages.takeWhile isPlain)).length

/-- The answers to the other calls have no identity that could be deleted. -/
def ScanUndisturbed (messages : List ChatMessage) : Prop :=
  ∀ message ∈ (messages.filter fun message => message.role = .tool).drop (undisturbed messages), message.chatMessageId = none

/-- Tool messages with lists of calls stand where they disturb no deletion. -/
structure Undisturbed (messages : List ChatMessage) : Prop where
  scan : ScanUndisturbed messages
  plain : ∀ message ∈ messages, message.role = .tool → message.chatMessageId.isSome → message.declared = []
  lasting : ∀ message ∈ messages, message.role = .tool → message.toolCalls = some [] → saysSomething (lastingly message) = true

variable {messageIds : List JsString} {entries : List Entry}

/-- Up to a tool message with calls of its own, the scan opens the calls that are declared. -/
theorem opened_plain (plain : ∀ entry ∈ entries, isPlain entry.1 = true) :
    (opened entries).map OpenCall.key = (callsOf entries).map callKey := by
  simp only [opened, callsOf, List.map_flatMap]
  apply List.flatMap_congr
  intro entry member
  by_cases isTool : entry.1.role = .tool
  · have none : entry.1.declared = [] := by simpa [isPlain, isTool] using plain entry member
    simp [isTool, openedBy, none]
  · simp [isTool, openedBy, OpenCall.key, callKey]

/-- The entries before the first tool message with calls of its own. -/
def plainStart (entries : List Entry) : List Entry := entries.takeWhile fun entry => isPlain entry.1

variable {entry : Entry}

theorem plainStart_plain (member : entry ∈ plainStart entries) : isPlain entry.1 = true :=
  @List.mem_takeWhile_imp _ (fun entry : Entry => isPlain entry.1) _ _ member

/-- They are all entries, or a tool message with calls of its own comes after them. -/
theorem plainStart_split (entries : List Entry) :
    plainStart entries = entries ∨
      ∃ entry late, entries = plainStart entries ++ entry :: late ∧ entry.1.role = .tool ∧ entry.1.declared ≠ [] := by
  have split := @List.takeWhile_append_dropWhile _ (fun entry : Entry => isPlain entry.1) entries
  cases rest : entries.dropWhile fun entry => isPlain entry.1 with
  | nil =>
    rw [rest, List.append_nil] at split
    exact .inl split
  | cons entry late =>
    rw [rest] at split
    have notPlain : isPlain entry.1 = false := by
      have head := @List.head_dropWhile_not _ (fun entry : Entry => isPlain entry.1) entries (by simp [rest])
      simpa [rest] using head
    rw [isPlain, Bool.or_eq_false_iff] at notPlain
    exact .inr ⟨entry, late, split.symm, by simpa using notPlain.1, by simpa using notPlain.2⟩

theorem undisturbed_entries (entries : List Entry) : undisturbed (entries.map Prod.fst) = (callsOf (plainStart entries)).length := by
  have same : (entries.map Prod.fst).takeWhile isPlain = (plainStart entries).map Prod.fst := by
    rw [List.takeWhile_map]
    rfl
  rw [undisturbed, same, ← map_callsOf, List.length_map]

theorem opened_take (entries : List Entry) :
    ((opened entries).map OpenCall.key).take (undisturbed (entries.map Prod.fst)) =
      ((callsOf entries).map callKey).take (undisturbed (entries.map Prod.fst)) := by
  have plain := opened_plain fun entry (member : entry ∈ plainStart entries) => plainStart_plain member
  have length : undisturbed (entries.map Prod.fst) = ((callsOf (plainStart entries)).map callKey).length := by
    rw [List.length_map, undisturbed_entries]
  obtain ⟨rest, split⟩ : ∃ rest, entries = plainStart entries ++ rest := ⟨_, List.takeWhile_append_dropWhile.symm⟩
  have opens : (opened entries).map OpenCall.key = (callsOf (plainStart entries)).map callKey ++ (opened rest).map OpenCall.key := by
    conv_lhs => rw [split, opened, List.flatMap_append, List.map_append]
    rw [← plain]
    rfl
  have calls : (callsOf entries).map callKey = (callsOf (plainStart entries)).map callKey ++ (callsOf rest).map callKey := by
    conv_lhs => rw [split, callsOf_append, List.map_append]
  rw [length, opens, calls, List.take_left, List.take_left]

/-! ## The scan and the exchanges -/

/-- What a deletion reads of a call and of its answer. -/
def pairFacts (key : Nat × JsString) (answer : Entry) : (Nat × JsString) × Option JsString × Option JsString :=
  (key, answer.1.chatMessageId, answer.1.toolCallId)

/-- Where the scan is not disturbed, the answers that are deleted consume their own calls. -/
theorem deletions_eq (scan : ScanUndisturbed (entries.map Prod.fst)) :
    (deletions messageIds [] entries).map (fun pair => pairFacts pair.1.key pair.2) =
      ((exchanges entries).filter fun exchange => named messageIds exchange.2).map fun exchange =>
        pairFacts (callKey exchange.1) exchange.2 := by
  let facts := (entries.filter fun entry => entry.1.role = .tool).map fun entry => (entry.1.chatMessageId, entry.1.toolCallId)
  let deleted : (Nat × JsString) × Option JsString × Option JsString → Bool := fun pair => isDeleted messageIds pair.2.1
  have left : (deletions messageIds [] entries).map (fun pair => pairFacts pair.1.key pair.2) =
      (((opened entries).map OpenCall.key).zip facts).filter deleted := by
    simp only [deletions, consumed, List.nil_append, facts, List.zip_map, List.filter_map]
    rfl
  have right : (((exchanges entries).filter fun exchange => named messageIds exchange.2).map fun exchange =>
      pairFacts (callKey exchange.1) exchange.2) = (((callsOf entries).map callKey).zip facts).filter deleted := by
    have same : facts = (answersOf entries).map fun entry => (entry.1.chatMessageId, entry.1.toolCallId) := by
      simp [facts, answersOf, Function.comp_def, ChatMessage.answer]
    rw [same, exchanges, List.zip_map, List.filter_map]
    rfl
  -- Beyond the calls that are declared undisturbed, no answer is deleted.
  have beyond : ∀ keys : List (Nat × JsString),
      (keys.zip facts).filter deleted =
        ((keys.take (undisturbed (entries.map Prod.fst))).zip (facts.take (undisturbed (entries.map Prod.fst)))).filter deleted := by
    intro keys
    conv_lhs => rw [← List.take_append_drop (undisturbed (entries.map Prod.fst)) (keys.zip facts), List.filter_append]
    rw [List.zip, List.take_zipWith]
    apply List.append_right_eq_self.mpr
    rw [List.filter_eq_nil_iff]
    intro pair member
    rw [List.drop_zipWith] at member
    have isFact := (List.of_mem_zip member).2
    simp only [facts, ← List.map_drop, List.mem_map] at isFact
    obtain ⟨entry, late, same⟩ := isFact
    have unknown : entry.1.chatMessageId = none := by
      apply scan entry.1
      have tools : (entries.map Prod.fst).filter (fun message => message.role = .tool) =
          (entries.filter fun entry => entry.1.role = .tool).map Prod.fst := by
        rw [List.filter_map]
        rfl
      rw [tools, ← List.map_drop]
      exact List.mem_map_of_mem late
    simp [deleted, ← same, unknown, isDeleted]
  rw [left, right, beyond, beyond, opened_take]

/-- The calls whose answers are deleted. -/
def removedBy (messageIds : List JsString) (entries : List Entry) : List (Nat × JsString) :=
  ((exchanges entries).filter fun exchange => named messageIds exchange.2).map fun exchange => callKey exchange.1

theorem deleteEntries_eq (paired : Paired [] (entries.map Prod.fst)) (scan : ScanUndisturbed (entries.map Prod.fst)) :
    deleteEntries messageIds entries = .ok (entries.filterMap (keptEntry messageIds (removedBy messageIds entries))) := by
  have same := @deletions_eq messageIds _ scan
  have answered : ∀ pair ∈ deletions messageIds [] entries, pair.2.1.toolCallId = some pair.1.id := by
    intro pair member
    have isFact := List.mem_map_of_mem (f := fun pair : OpenCall × Entry => pairFacts pair.1.key pair.2) member
    rw [same, List.mem_map] at isFact
    obtain ⟨exchange, isExchange, facts⟩ := isFact
    have ids := exchange_ids paired (List.mem_filter.mp isExchange).1
    simp only [pairFacts, callKey, OpenCall.key, Prod.mk.injEq] at facts
    rw [← facts.2.2, ids, facts.1.2]
  have removes : removedBy messageIds entries = [] ++ (deletions messageIds [] entries).map fun pair => pair.1.key := by
    have keys := congrArg (List.map Prod.fst) same
    rw [List.map_map, List.map_map] at keys
    exact keys.symm
  obtain ⟨openNow, scanned⟩ := (scan_iff paired (Nat.le_refl _)).mpr ⟨answered, removes⟩
  rw [deleteEntries, scanned]
  rfl

section Deletion

variable (paired : Paired [] (entries.map Prod.fst)) (indices : (entries.map Prod.snd).Nodup)

include paired indices

/-- Just the calls of the deleted answers are removed. -/
theorem mem_removedBy {exchange : (Nat × PlannerToolCall) × Entry} (member : exchange ∈ exchanges entries) :
    callKey exchange.1 ∈ removedBy messageIds entries ↔ named messageIds exchange.2 = true := by
  have distinct := callsOf_nodup paired indices
  rw [← (map_exchanges paired).1, List.map_map] at distinct
  constructor
  · intro isIn
    obtain ⟨other, isOther, same⟩ := List.mem_map.mp isIn
    obtain ⟨isExchange, isNamed⟩ := List.mem_filter.mp isOther
    rw [← List.inj_on_of_nodup_map distinct isExchange member same]
    exact isNamed
  · intro isNamed
    exact List.mem_map.mpr ⟨exchange, List.mem_filter.mpr ⟨member, isNamed⟩, rfl⟩

theorem calls_left {part : List ((Nat × PlannerToolCall) × Entry)} (within : ∀ exchange ∈ part, exchange ∈ exchanges entries) :
    ((part.map Prod.fst).filter fun call => !(removedBy messageIds entries).contains (callKey call)) =
      (part.filter fun exchange => !named messageIds exchange.2).map Prod.fst := by
  rw [List.filter_map]
  congr 1
  apply List.filter_congr
  intro exchange member
  have removed := @mem_removedBy messageIds _ paired indices _ (within exchange member)
  cases isNamed : named messageIds exchange.2 <;> simp [isNamed] at removed <;> simp [removed]

omit paired in
theorem entry_of_index {first second : Entry} (isFirst : first ∈ entries) (isSecond : second ∈ entries) (same : first.2 = second.2) :
    first = second :=
  List.inj_on_of_nodup_map indices isFirst isSecond same

theorem own_calls (member : entry ∈ entries) (isTool : entry.1.role = .tool) (id : JsString) :
    (entry.2, id) ∉ removedBy messageIds entries := by
  intro isIn
  obtain ⟨exchange, isExchange, same⟩ := List.mem_map.mp isIn
  have isCall : exchange.1 ∈ callsOf entries := by
    rw [← (map_exchanges paired).1]
    exact List.mem_map_of_mem (List.mem_filter.mp isExchange).1
  obtain ⟨other, isOther, declares⟩ := List.mem_flatMap.mp isCall
  have index : exchange.1.1 = other.2 := by
    split at declares
    · cases declares
    · obtain ⟨call, _, isCall⟩ := List.mem_map.mp declares
      rw [← isCall]
  have one := entry_of_index indices isOther member (index.symm.trans (congrArg Prod.fst same))
  rw [one, if_pos isTool] at declares
  cases declares

end Deletion

/-! ## What a deletion makes of a list -/

theorem callsOf_kept (messageIds : List JsString) (removedCalls : List (Nat × JsString)) (entries : List Entry) :
    callsOf (entries.filterMap (keptEntry messageIds removedCalls)) =
      (callsOf entries).filter fun call => !removedCalls.contains (callKey call) := by
  induction entries with
  | nil => rfl
  | cons entry rest ih =>
    have declared := keptEntry_declared messageIds removedCalls entry
    have own : (entry.1.declared.map fun call => (entry.2, call)).filter (fun call => !removedCalls.contains (callKey call)) =
        (entry.1.declared.filter fun call => !removedCalls.contains (entry.2, call.id)).map fun call => (entry.2, call) := by
      rw [List.filter_map]
      rfl
    rw [callsOf_cons, List.filter_append, ← ih]
    cases left : keptEntry messageIds removedCalls entry with
    | none =>
      rw [left, Option.elim_none] at declared
      rw [List.filterMap_cons_none left]
      by_cases isTool : entry.1.role = .tool
      · simp [isTool]
      · rw [if_neg isTool, own, ← declared]
        rfl
    | some kept =>
      rw [left, Option.elim_some] at declared
      obtain ⟨index, role, _⟩ := keptEntry_shape left
      rw [List.filterMap_cons_some left, callsOf_cons, role, index]
      by_cases isTool : entry.1.role = .tool
      · simp [isTool]
      · rw [if_neg isTool, if_neg isTool, own, declared]

/-- The answers that are deleted are dropped, and the others stay. -/
theorem answersOf_kept {removedCalls : List (Nat × JsString)}
    (dropped : ∀ entry ∈ entries, entry.1.role = .tool → named messageIds entry = true → keptEntry messageIds removedCalls entry = none)
    (stays : ∀ entry ∈ entries, entry.1.role = .tool → named messageIds entry = false →
      ∃ message, keptEntry messageIds removedCalls entry = some (message, entry.2) ∧ message.answer = entry.1.answer) :
    answersOf (entries.filterMap (keptEntry messageIds removedCalls)) = (answersOf entries).filter fun entry => !named messageIds entry := by
  induction entries with
  | nil => rfl
  | cons entry rest ih =>
    have later := ih (fun other member => dropped other (List.mem_cons_of_mem _ member))
      (fun other member => stays other (List.mem_cons_of_mem _ member))
    rw [answersOf_cons]
    by_cases isTool : entry.1.role = .tool
    · have sameName : named messageIds (entry.1.answer, entry.2) = named messageIds entry := rfl
      rw [if_pos isTool, List.filter_cons, sameName, ← later]
      cases isNamed : named messageIds entry with
      | true =>
        rw [List.filterMap_cons_none (dropped entry (List.mem_cons_self ..) isTool isNamed)]
        rfl
      | false =>
        obtain ⟨message, left, answer⟩ := stays entry (List.mem_cons_self ..) isTool isNamed
        have role := (keptEntry_shape left).2.1
        rw [List.filterMap_cons_some left, answersOf_cons, if_pos (role.trans isTool), answer]
        rfl
    · rw [if_neg isTool, ← later]
      cases left : keptEntry messageIds removedCalls entry with
      | none => rw [List.filterMap_cons_none left]
      | some kept =>
        have role := (keptEntry_shape left).2.1
        rw [List.filterMap_cons_some left, answersOf_cons, if_neg (role ▸ isTool)]

theorem takeWhile_filterMap {Item Kept : Type} {keep : Item → Option Kept} {before : Item → Bool} {keptBefore : Kept → Bool} {items : List Item}
    (same : ∀ item ∈ items, ∀ kept, keep item = some kept → keptBefore kept = before item)
    (stays : ∀ item ∈ items, before item = false → keep item ≠ none) :
    (items.filterMap keep).takeWhile keptBefore = (items.takeWhile before).filterMap keep := by
  induction items with
  | nil => rfl
  | cons item rest ih =>
    have later := ih (fun other member => same other (List.mem_cons_of_mem _ member))
      (fun other member => stays other (List.mem_cons_of_mem _ member))
    cases left : keep item with
    | none =>
      have isBefore : before item = true := by
        cases kind : before item with
        | true => rfl
        | false => exact absurd left (stays item (List.mem_cons_self ..) kind)
      rw [List.filterMap_cons_none left, List.takeWhile_cons_of_pos isBefore, List.filterMap_cons_none left, later]
    | some kept =>
      have kind := same item (List.mem_cons_self ..) kept left
      rw [List.filterMap_cons_some left]
      cases isBefore : before item with
      | true => rw [List.takeWhile_cons_of_pos (kind.trans isBefore), List.takeWhile_cons_of_pos isBefore, List.filterMap_cons_some left, later]
      | false => rw [List.takeWhile_cons_of_neg (by simp [kind, isBefore]), List.takeWhile_cons_of_neg (by simp [isBefore]), List.filterMap_nil]

/-! ## One deletion -/

/-- What a deletion leaves of the list. -/
def remaining (messageIds : List JsString) (entries : List Entry) : List Entry :=
  entries.filterMap (keptEntry messageIds (removedBy messageIds entries))

theorem scanUndisturbed_iff (entries : List Entry) :
    ScanUndisturbed (entries.map Prod.fst) ↔
      ∀ answer ∈ (answersOf entries).drop (callsOf (plainStart entries)).length, answer.1.chatMessageId = none := by
  have tools : (entries.map Prod.fst).filter (fun message => message.role = .tool) =
      (entries.filter fun entry => entry.1.role = .tool).map Prod.fst := by
    rw [List.filter_map]
    rfl
  rw [ScanUndisturbed, undisturbed_entries, tools, answersOf, ← List.map_drop, ← List.map_drop]
  simp only [List.forall_mem_map]
  rfl

theorem mem_remaining {kept : Entry} :
    kept ∈ remaining messageIds entries ↔ ∃ entry ∈ entries, keptEntry messageIds (removedBy messageIds entries) entry = some kept :=
  List.mem_filterMap

theorem remaining_order (messageIds : List JsString) (entries : List Entry) :
    ((remaining messageIds entries).map Prod.snd).Sublist (entries.map Prod.snd) := by
  have indices : (remaining messageIds entries).map Prod.snd =
      entries.filterMap fun entry => (keptEntry messageIds (removedBy messageIds entries) entry).map Prod.snd := List.map_filterMap ..
  rw [indices]
  generalize removedBy messageIds entries = removedCalls
  clear indices
  induction entries with
  | nil => exact List.Sublist.refl _
  | cons entry rest ih =>
    cases left : keptEntry messageIds removedCalls entry with
    | none =>
      rw [List.filterMap_cons_none (by rw [left]; rfl)]
      exact ih.cons _
    | some kept =>
      rw [List.filterMap_cons_some (by rw [left]; rfl), List.map_cons, (keptEntry_shape left).1]
      exact ih.cons_cons _

section Step

variable (paired : Paired [] (entries.map Prod.fst)) (indices : (entries.map Prod.snd).Nodup)
  (undisturbed : Undisturbed (entries.map Prod.fst))

include undisturbed

theorem deleted_dropped (member : entry ∈ entries) (isTool : entry.1.role = .tool)
    (isNamed : named messageIds entry = true)
    (removedCalls : List (Nat × JsString)) : keptEntry messageIds removedCalls entry = none := by
  have known : entry.1.chatMessageId.isSome := by
    cases chat : entry.1.chatMessageId with
    | none => simp [named, chat, isDeleted] at isNamed
    | some id => rfl
  exact keptEntry_deleted isNamed (undisturbed.plain entry.1 (List.mem_map_of_mem member) isTool known)

include paired indices

theorem answer_stays (member : entry ∈ entries) (isTool : entry.1.role = .tool)
    (spared : named messageIds entry = false) :
    ∃ message, keptEntry messageIds (removedBy messageIds entries) entry = some (message, entry.2) ∧ message.answer = entry.1.answer :=
  keptEntry_answer spared (fun call _ => own_calls paired indices member isTool call.id)
    (undisturbed.lasting entry.1 (List.mem_map_of_mem member) isTool)

theorem part_left {part : List Entry} (isPrefix : part <+: entries) :
    callsOf (part.filterMap (keptEntry messageIds (removedBy messageIds entries))) =
        (((exchanges entries).take (callsOf part).length).filter fun exchange => !named messageIds exchange.2).map Prod.fst ∧
      answersOf (part.filterMap (keptEntry messageIds (removedBy messageIds entries))) =
        (((exchanges entries).take (answersOf part).length).filter fun exchange => !named messageIds exchange.2).map Prod.snd := by
  obtain ⟨isCalls, isAnswers⟩ := map_exchanges paired
  obtain ⟨rest, whole⟩ := isPrefix
  have calls : callsOf part = ((exchanges entries).take (callsOf part).length).map Prod.fst := by
    rw [List.map_take, isCalls]
    conv_rhs => rw [← whole, callsOf_append, List.take_left]
  have answers : answersOf part = ((exchanges entries).take (answersOf part).length).map Prod.snd := by
    rw [List.map_take, isAnswers]
    conv_rhs => rw [← whole, answersOf_append, List.take_left]
  have within : ∀ entry ∈ part, entry ∈ entries := by
    intro entry member
    rw [← whole]
    exact List.mem_append_left _ member
  constructor
  · rw [callsOf_kept]
    conv_lhs => rw [calls]
    exact calls_left paired indices fun exchange member => List.mem_of_mem_take member
  · rw [answersOf_kept (fun entry member isTool isNamed => deleted_dropped undisturbed (within entry member) isTool isNamed _)
      fun entry member => answer_stays paired indices undisturbed (within entry member)]
    conv_lhs => rw [answers, List.filter_map]
    rfl

theorem remaining_left :
    callsOf (remaining messageIds entries) =
        ((exchanges entries).filter fun exchange => !named messageIds exchange.2).map Prod.fst ∧
      answersOf (remaining messageIds entries) =
        ((exchanges entries).filter fun exchange => !named messageIds exchange.2).map Prod.snd := by
  have all := @part_left messageIds _ paired indices undisturbed _ (List.prefix_refl entries)
  have lengths := length_answersOf paired
  have whole : (exchanges entries).length = (callsOf entries).length := by
    rw [← (map_exchanges paired).1, List.length_map]
  rwa [List.take_of_length_le (by omega), List.take_of_length_le (by omega)] at all

theorem remaining_retained : Retained messageIds entries (remaining messageIds entries) := by
  obtain ⟨calls, answers⟩ := @remaining_left messageIds _ paired indices undisturbed
  refine ⟨remaining_order messageIds entries, ?_, calls, ?_⟩
  · rw [answers, ← (map_exchanges paired).2, List.filter_map]
    rfl
  · intro entry member spared thinking has
    have left : saysSomething entry.1 = true ∨
        (entry.1.declared.filter fun call => !(removedBy messageIds entries).contains (entry.2, call.id)) ≠ [] := by
      refine has.imp id fun ⟨call, isCall, index⟩ => ?_
      obtain ⟨kept, isKept, declares⟩ := List.mem_flatMap.mp isCall
      split at declares
      · cases declares
      · obtain ⟨own, isOwn, rfl⟩ := List.mem_map.mp declares
        obtain ⟨other, isOther, keeps⟩ := mem_remaining.mp isKept
        have one := entry_of_index indices isOther member ((keptEntry_shape keeps).1.symm.trans index)
        subst one
        have declared := keptEntry_declared messageIds (removedBy messageIds entries) other
        rw [keeps, Option.elim_some] at declared
        rw [← declared]
        exact List.ne_nil_of_mem isOwn
    obtain ⟨toolCalls, keeps⟩ := keptEntry_unnamed spared thinking left
    exact ⟨toolCalls, mem_remaining.mpr ⟨entry, member, keeps⟩⟩

/-- The calls and the answers that are left pair up again. -/
theorem remaining_paired : Paired [] ((remaining messageIds entries).map Prod.fst) := by
  obtain ⟨calls, answers⟩ := @remaining_left messageIds _ paired indices undisturbed
  constructor
  · simp only [List.forall_mem_map]
    intro kept isKept
    obtain ⟨entry, member, keeps⟩ := mem_remaining.mp isKept
    obtain ⟨_, role, toolCallId, nonempty, none, _⟩ := keptEntry_shape keeps
    cases paired.shaped entry.1 (List.mem_map_of_mem member) with
    | inl isTool => exact .inl (role.trans isTool)
    | inr declares => exact .inr ⟨toolCallId.trans declares.1, nonempty, declares.2.2.imp role.trans none⟩
  · rw [← map_answersOf, ← map_callsOf, answers, calls, List.nil_append]
    simp only [List.map_map]
    apply List.map_congr_left
    intro exchange member
    exact exchange_ids paired (List.mem_filter.mp member).1
  · intro early isPrefix
    obtain ⟨part, partPrefix, rfl⟩ := List.prefix_map_iff.mp isPrefix
    obtain ⟨before, beforePrefix, rfl⟩ := List.prefix_filterMap_iff.mp partPrefix
    have standing := paired.standing (before.map Prod.fst) (beforePrefix.map Prod.fst)
    rw [standing_iff, ← map_answersOf, ← map_callsOf, List.length_map, List.nil_append, List.length_map] at standing ⊢
    obtain ⟨callsLeft, answersLeft⟩ := @part_left messageIds _ paired indices undisturbed _ beforePrefix
    obtain ⟨bounded, distinct⟩ := standing
    -- The answers are to the first of the calls, and so are those that are left.
    have split : (exchanges entries).take (callsOf before).length =
        (exchanges entries).take (answersOf before).length ++
          ((exchanges entries).take (callsOf before).length).drop (answersOf before).length := by
      conv_lhs => rw [← List.take_append_drop (answersOf before).length ((exchanges entries).take (callsOf before).length)]
      rw [List.take_take, Nat.min_eq_left bounded]
    have own : callsOf before = ((exchanges entries).take (callsOf before).length).map Prod.fst := by
      obtain ⟨rest, whole⟩ := beforePrefix
      rw [List.map_take, (map_exchanges paired).1]
      conv_rhs => rw [← whole, callsOf_append, List.take_left]
    rw [callsLeft, answersLeft, List.length_map, List.length_map]
    constructor
    · rw [split, List.filter_append, List.length_append]
      omega
    · rw [split, List.filter_append, List.map_append, List.map_append, List.drop_left' (by simp)]
      have still : (((exchanges entries).take (callsOf before).length).drop (answersOf before).length).map (fun exchange => exchange.1.2.id) =
          ((callsOf before).map fun call => call.2.id).drop (answersOf before).length := by
        conv_rhs => rw [own]
        simp [Function.comp_def, List.map_drop]
      rw [← still] at distinct
      rw [List.map_map]
      exact distinct.sublist (List.filter_sublist.map _)

theorem remaining_plainStart :
    plainStart (remaining messageIds entries) = (plainStart entries).filterMap (keptEntry messageIds (removedBy messageIds entries)) := by
  apply takeWhile_filterMap
  · intro entry member kept keeps
    obtain ⟨_, role, _⟩ := keptEntry_shape keeps
    have declared := keptEntry_declared messageIds (removedBy messageIds entries) entry
    rw [keeps, Option.elim_some] at declared
    by_cases isTool : entry.1.role = .tool
    · have all : (entry.1.declared.filter fun call => !(removedBy messageIds entries).contains (entry.2, call.id)) = entry.1.declared := by
        rw [List.filter_eq_self]
        intro call _
        simpa using own_calls paired indices member isTool call.id
      rw [isPlain, isPlain, role, declared, all]
    · simp [isPlain, role, isTool]
  · intro entry member disturbs dropped
    obtain ⟨isTool, declares⟩ : entry.1.role = .tool ∧ entry.1.declared ≠ [] := by
      simpa [isPlain] using disturbs
    have spared : named messageIds entry = false := by
      cases chat : entry.1.chatMessageId with
      | none => simp [named, chat, isDeleted]
      | some id => exact absurd (undisturbed.plain entry.1 (List.mem_map_of_mem member) isTool (by simp [chat])) declares
    obtain ⟨message, keeps, _⟩ := answer_stays paired indices undisturbed member isTool spared
    rw [dropped] at keeps
    cases keeps

theorem remaining_undisturbed : Undisturbed ((remaining messageIds entries).map Prod.fst) := by
  constructor
  · rw [scanUndisturbed_iff, remaining_plainStart paired indices undisturbed]
    have scan := (scanUndisturbed_iff entries).mp undisturbed.scan
    have start : plainStart entries <+: entries := List.takeWhile_prefix _
    rw [(part_left paired indices undisturbed start).1, (remaining_retained paired indices undisturbed).answers, List.length_map]
    conv =>
      intro answer
      rw [← List.take_append_drop (callsOf (plainStart entries)).length (answersOf entries), List.filter_append]
    have length : (((exchanges entries).take (callsOf (plainStart entries)).length).filter fun exchange => !named messageIds exchange.2).length =
        (((answersOf entries).take (callsOf (plainStart entries)).length).filter fun entry => !named messageIds entry).length := by
      rw [← (map_exchanges paired).2, ← List.map_take, List.filter_map, List.length_map]
      rfl
    rw [List.drop_left' length.symm]
    intro answer member
    exact scan answer (List.mem_filter.mp member).1
  · simp only [List.forall_mem_map]
    intro kept isKept isTool known
    obtain ⟨entry, member, keeps⟩ := mem_remaining.mp isKept
    obtain ⟨_, role, _, _, _, chat⟩ := keptEntry_shape keeps
    have declared := keptEntry_declared messageIds (removedBy messageIds entries) entry
    rw [keeps, Option.elim_some] at declared
    rw [declared, undisturbed.plain entry.1 (List.mem_map_of_mem member) (role.symm.trans isTool) (by rw [← (chat known).2]; exact known)]
    rfl
  · simp only [List.forall_mem_map]
    intro kept isKept _ empty
    obtain ⟨entry, _, keeps⟩ := mem_remaining.mp isKept
    exact absurd empty (keptEntry_shape keeps).2.2.2.1

end Step

/-! ## Where the scan is disturbed -/

section Disturbed

variable (paired : Paired [] (entries.map Prod.fst)) (indices : (entries.map Prod.snd).Nodup)

/-- The calls that the scan opens, without those of the tool messages, are the declared ones. -/
theorem opened_filter {tools : List Nat} (kinds : ∀ entry ∈ entries, entry.2 ∈ tools ↔ entry.1.role = .tool) :
    ((opened entries).map OpenCall.key).filter (fun key => !tools.contains key.1) = (callsOf entries).map callKey := by
  simp only [opened, callsOf, List.map_flatMap, List.filter_flatMap]
  apply List.flatMap_congr
  intro entry member
  have kind := kinds entry member
  by_cases isTool : entry.1.role = .tool
  · have isIn := kind.mpr isTool
    simp [openedBy, OpenCall.key, isTool, isIn, List.filter_map, Function.comp_def]
  · have isOut : entry.2 ∉ tools := fun isIn => isTool (kind.mp isIn)
    simp [openedBy, OpenCall.key, callKey, isTool, isOut, List.filter_map, Function.comp_def]

/-- The last deleted answer consumes no call of its own, if it answers one that is declared after the scan was disturbed. -/
theorem disturbed_call {position : Nat} {call : Nat × PlannerToolCall} (within : (callsOf entries)[position]? = some call)
    (late : (callsOf (plainStart entries)).length ≤ position) (indices : (entries.map Prod.snd).Nodup)
    (paired : Paired [] (entries.map Prod.fst)) : callKey call ∉ ((opened entries).map OpenCall.key).take (position + 1) := by
  intro isIn
  cases plainStart_split entries with
  | inl all =>
    rw [all] at late
    have := (List.getElem?_eq_some_iff.mp within).1
    omega
  | inr disturbed =>
    obtain ⟨entry, rest, split, isTool, declares⟩ := disturbed
    let tools := (entries.filter fun entry => entry.1.role = .tool).map Prod.snd
    have kinds : ∀ entry ∈ entries, entry.2 ∈ tools ↔ entry.1.role = .tool := by
      intro other member
      constructor
      · intro isTool
        obtain ⟨same, isSame, index⟩ := List.mem_map.mp isTool
        obtain ⟨isEntry, isTool⟩ := List.mem_filter.mp isSame
        rw [← entry_of_index indices isEntry member index]
        simpa using isTool
      · intro isTool
        exact List.mem_map.mpr ⟨other, List.mem_filter.mpr ⟨member, by simpa using isTool⟩, rfl⟩
    have filtered := opened_filter kinds
    have distinct := callsOf_nodup paired indices
    -- So many calls of assistants come before the call that every one up to there is such a call.
    have early : (((opened entries).map OpenCall.key).take (position + 1)).filter (fun key => !tools.contains key.1) <+:
        (callsOf entries).map callKey := by
      rw [← filtered]
      exact (List.take_prefix _ _).filter _
    obtain ⟨later, whole⟩ := early
    have isCall : callKey call ∈ (((opened entries).map OpenCall.key).take (position + 1)).filter fun key => !tools.contains key.1 := by
      refine List.mem_filter.mpr ⟨isIn, ?_⟩
      have known : callKey call ∈ (callsOf entries).map callKey := List.mem_map_of_mem (List.mem_of_getElem? within)
      rw [← filtered] at known
      exact (List.mem_filter.mp known).2
    obtain ⟨place, before, same⟩ := List.mem_iff_getElem.mp isCall
    have atPlace : ((callsOf entries).map callKey)[place]? = some (callKey call) := by
      rw [← whole, List.getElem?_append_left before, List.getElem?_eq_getElem before, same]
    have atPosition : ((callsOf entries).map callKey)[position]? = some (callKey call) := by
      rw [List.getElem?_map, within]
      rfl
    have places : place = position :=
      (List.getElem?_inj (List.getElem?_eq_some_iff.mp atPlace).1 distinct).mp (atPlace.trans atPosition.symm)
    have full : (((opened entries).map OpenCall.key).take (position + 1)).filter (fun key => !tools.contains key.1) =
        ((opened entries).map OpenCall.key).take (position + 1) := by
      apply List.filter_sublist.eq_of_length_le
      rw [List.length_take]
      omega
    -- But the call of the tool message is among them.
    have own : ∃ key ∈ ((opened entries).map OpenCall.key).take (position + 1), tools.contains key.1 = true := by
      obtain ⟨first, others, calls⟩ := List.exists_cons_of_ne_nil declares
      have plain := opened_plain fun entry (member : entry ∈ plainStart entries) => plainStart_plain member
      have opens : (opened entries).map OpenCall.key = (callsOf (plainStart entries)).map callKey ++
          (entry.2, first.id) :: (others.map (fun call => (entry.2, call.id)) ++ (opened rest).map OpenCall.key) := by
        conv_lhs => rw [split, opened, List.flatMap_append, List.map_append, List.flatMap_cons, List.map_append]
        rw [← plain, openedBy, calls]
        simp [OpenCall.key, Function.comp_def, opened]
      refine ⟨(entry.2, first.id), ?_, ?_⟩
      · rw [opens, List.take_append, List.length_map]
        obtain ⟨more, enough⟩ : ∃ more, position + 1 - (callsOf (plainStart entries)).length = more + 1 :=
          ⟨position - (callsOf (plainStart entries)).length, by omega⟩
        rw [enough]
        simp
      · have member : entry ∈ entries := by
          rw [split]
          simp
        simpa using (kinds entry member).mpr isTool
    obtain ⟨key, isKey, isTools⟩ := own
    rw [← full] at isKey
    have spared := (List.mem_filter.mp isKey).2
    rw [isTools] at spared
    cases spared

theorem exists_last {Item : Type} {kind : Item → Bool} {items : List Item} (some : ∃ item ∈ items, kind item = true) :
    ∃ early item late, items = early ++ item :: late ∧ kind item = true ∧ ∀ other ∈ late, kind other = false := by
  induction items with
  | nil =>
    obtain ⟨_, isIn, _⟩ := some
    cases isIn
  | cons first rest ih =>
    by_cases later : ∃ item ∈ rest, kind item = true
    · obtain ⟨early, item, late, rfl, isKind, none⟩ := ih later
      exact ⟨first :: early, item, late, rfl, isKind, none⟩
    · obtain ⟨item, isIn, isKind⟩ := some
      have isFirst : item = first := by
        cases List.mem_cons.mp isIn with
        | inl same => exact same
        | inr isRest => exact absurd ⟨item, isRest, isKind⟩ later
      refine ⟨[], first, rest, rfl, isFirst ▸ isKind, fun other isRest => ?_⟩
      cases none : kind other with
      | false => rfl
      | true => exact absurd ⟨other, isRest, none⟩ later

/-- Every deletion leaves what it should. -/
def DeletesWell (entries : List Entry) : Prop :=
  ∀ messageIds, ∃ after, deleteEntries messageIds entries = .ok after ∧ Retained messageIds entries after

section Necessity

variable (paired : Paired [] (entries.map Prod.fst)) (indices : (entries.map Prod.snd).Nodup) (well : DeletesWell entries)

include paired indices well

theorem removes_own_call {exchange : (Nat × PlannerToolCall) × Entry} (member : exchange ∈ exchanges entries)
    (isNamed : named messageIds exchange.2 = true) :
    callKey exchange.1 ∈ (deletions messageIds [] entries).map fun pair => pair.1.key := by
  obtain ⟨after, deleted, retained⟩ := well messageIds
  rw [deleteEntries] at deleted
  cases scanned : entries.foldlM (scanMessage messageIds) ⟨[], []⟩ with
  | error thrown =>
    rw [scanned] at deleted
    cases deleted
  | ok scan =>
    rw [scanned] at deleted
    cases deleted
    have removed := ((scan_iff paired (Nat.le_refl _)).mp ⟨scan.openCalls, scanned⟩).2
    rw [List.nil_append] at removed
    by_contra stays
    have calls := retained.calls
    rw [callsOf_kept, removed] at calls
    have isCall : exchange.1 ∈ callsOf entries := by
      rw [← (map_exchanges paired).1]
      exact List.mem_map_of_mem member
    have isLeft : exchange.1 ∈ (callsOf entries).filter fun call =>
        !((deletions messageIds [] entries).map fun pair => pair.1.key).contains (callKey call) :=
      List.mem_filter.mpr ⟨isCall, by simpa using stays⟩
    rw [calls] at isLeft
    obtain ⟨other, isOther, same⟩ := List.mem_map.mp isLeft
    obtain ⟨isExchange, spared⟩ := List.mem_filter.mp isOther
    have distinct := callsOf_nodup paired indices
    rw [← (map_exchanges paired).1, List.map_map] at distinct
    rw [List.inj_on_of_nodup_map distinct isExchange member (congrArg callKey same), isNamed] at spared
    cases spared

theorem scanUndisturbed_of_well : ScanUndisturbed (entries.map Prod.fst) := by
  rw [scanUndisturbed_iff]
  intro answer isLate
  by_contra known
  obtain ⟨id, isId⟩ := Option.ne_none_iff_exists'.mp known
  -- The last answer that is deleted with it is late, too.
  have isAnswer : ∃ exchange ∈ (exchanges entries).drop (callsOf (plainStart entries)).length, exchange.2 = answer := by
    rw [← (map_exchanges paired).2, ← List.map_drop] at isLate
    exact List.mem_map.mp isLate
  obtain ⟨exchange, isExchange, rfl⟩ := isAnswer
  have isNamed : named [id] exchange.2 = true := by simp [named, isId, isDeleted]
  obtain ⟨early, last, later, split, lastNamed, unnamed⟩ :=
    @exists_last _ (fun exchange => named [id] exchange.2) _ ⟨exchange, List.mem_of_mem_drop isExchange, isNamed⟩
  have isLateToo : (callsOf (plainStart entries)).length ≤ early.length := by
    by_contra sooner
    obtain ⟨more, further⟩ : ∃ more, (callsOf (plainStart entries)).length = early.length + (more + 1) :=
      ⟨(callsOf (plainStart entries)).length - early.length - 1, by omega⟩
    rw [split, further, List.drop_append, List.drop_of_length_le (by omega), List.nil_append, Nat.add_sub_cancel_left,
      List.drop_succ_cons] at isExchange
    have spared := unnamed exchange (List.mem_of_mem_drop isExchange)
    rw [isNamed] at spared
    cases spared
  have isLast : last ∈ exchanges entries := by
    rw [split]
    simp
  obtain ⟨pair, isPair, key⟩ := List.mem_map.mp (removes_own_call paired indices well isLast lastNamed)
  obtain ⟨isConsumed, pairNamed⟩ := List.mem_filter.mp isPair
  have within : (callsOf entries)[early.length]? = some last.1 := by
    rw [← (map_exchanges paired).1, split]
    simp
  apply disturbed_call within isLateToo indices paired
  rw [← key, ← List.map_take]
  apply List.mem_map_of_mem
  -- The answer that consumes the call is not after the last one that is deleted.
  rw [consumed, List.nil_append, ← List.take_append_drop (early.length + 1) ((opened entries).zip _), List.mem_append] at isConsumed
  cases isConsumed with
  | inl isEarly =>
    rw [List.zip, List.take_zipWith] at isEarly
    exact (List.of_mem_zip isEarly).1
  | inr isLater =>
    rw [List.zip, List.drop_zipWith] at isLater
    have isAnswer : (pair.2.1.answer, pair.2.2) ∈ (answersOf entries).drop (early.length + 1) := by
      rw [answersOf, ← List.map_drop]
      exact List.mem_map_of_mem (f := fun entry : Entry => (entry.1.answer, entry.2)) (List.of_mem_zip isLater).2
    rw [← (map_exchanges paired).2, split, List.map_append, List.drop_append, List.length_map, Nat.add_sub_cancel_left,
      List.drop_of_length_le (by simp), List.nil_append, List.map_cons, List.drop_succ_cons, List.drop_zero] at isAnswer
    obtain ⟨other, isOther, same⟩ := List.mem_map.mp isAnswer
    have spared := unnamed other isOther
    rw [same] at spared
    exact absurd (spared.symm.trans pairNamed) (by simp)

theorem undisturbed_of_well : Undisturbed (entries.map Prod.fst) := by
  have scan := scanUndisturbed_of_well paired indices well
  have retained : ∀ messageIds, Retained messageIds entries (remaining messageIds entries) := by
    intro messageIds
    obtain ⟨after, deleted, retained⟩ := well messageIds
    rw [deleteEntries_eq paired scan] at deleted
    cases deleted
    exact retained
  have index : ∀ {messageIds : List JsString} {entry kept : Entry}, entry ∈ entries → kept ∈ remaining messageIds entries →
      kept.2 = entry.2 → keptEntry messageIds (removedBy messageIds entries) entry = some kept := by
    intro messageIds entry kept member isKept same
    obtain ⟨other, isOther, keeps⟩ := mem_remaining.mp isKept
    rw [← entry_of_index indices isOther member ((keptEntry_shape keeps).1.symm.trans same)]
    exact keeps
  refine ⟨scan, ?_, ?_⟩
  · simp only [List.forall_mem_map]
    intro entry member isTool known
    obtain ⟨id, isId⟩ := Option.isSome_iff_exists.mp known
    have isNamed : named [id] entry = true := by simp [named, isId, isDeleted]
    by_contra declares
    -- The answer would stay for its calls, which are not removed.
    have declared := keptEntry_declared [id] (removedBy [id] entries) entry
    have all : (entry.1.declared.filter fun call => !(removedBy [id] entries).contains (entry.2, call.id)) = entry.1.declared := by
      rw [List.filter_eq_self]
      intro call _
      simpa using own_calls paired indices member isTool call.id
    cases keeps : keptEntry [id] (removedBy [id] entries) entry with
    | none =>
      rw [keeps, all] at declared
      exact declares declared.symm
    | some kept =>
      obtain ⟨sameIndex, role, _⟩ := keptEntry_shape keeps
      have isAnswer : (kept.1.answer, kept.2) ∈ answersOf (remaining [id] entries) :=
        List.mem_map.mpr ⟨kept, List.mem_filter.mpr ⟨mem_remaining.mpr ⟨entry, member, keeps⟩, by simpa using role.trans isTool⟩, rfl⟩
      rw [(retained [id]).answers] at isAnswer
      obtain ⟨isIn, spared⟩ := List.mem_filter.mp isAnswer
      obtain ⟨other, isOther, same⟩ := List.mem_map.mp isIn
      have one := entry_of_index indices (List.mem_filter.mp isOther).1 member ((congrArg Prod.snd same).trans sameIndex)
      subst one
      rw [← same, named_answer, isNamed] at spared
      cases spared
  · simp only [List.forall_mem_map]
    intro entry member isTool empty
    by_contra silent
    obtain ⟨messageIds, spared, dropped⟩ := keptEntry_unlasting empty (by simpa using silent)
    have isAnswer : (entry.1.answer, entry.2) ∈ answersOf (remaining messageIds entries) := by
      rw [(retained messageIds).answers]
      refine List.mem_filter.mpr ⟨List.mem_map.mpr ⟨entry, List.mem_filter.mpr ⟨member, by simpa using isTool⟩, rfl⟩, ?_⟩
      rw [named_answer, named, spared]
      rfl
    obtain ⟨kept, isKept, same⟩ := List.mem_map.mp isAnswer
    have keeps := index member (List.mem_filter.mp isKept).1 (Prod.mk.inj same).2
    rw [dropped] at keeps
    cases keeps

end Necessity

end Disturbed

/-! ## Every list of revisions -/

/-- `applyChatContextRevisions`, with the origin of each message that is left. -/
def applyEntries (revisions : List ChatHistoryRevision) (entries : List Entry) : Except Thrown (List Entry) :=
  revisions.foldlM (fun retained revision =>
    match revision with
    | .message_deleted messageIds => deleteEntries messageIds retained
    | _ => .ok retained) entries

theorem applyEntries_deleted (messageIds : List JsString) (rest : List ChatHistoryRevision) (entries : List Entry) :
    applyEntries (.message_deleted messageIds :: rest) entries = (deleteEntries messageIds entries).bind (applyEntries rest) := rfl

theorem applyChatContextRevisions_deleted (messageIds : List JsString) (rest : List ChatHistoryRevision) (messages : List ChatMessage) :
    applyChatContextRevisions messages (.message_deleted messageIds :: rest) =
      (deleteMessages messageIds messages).bind fun retained => applyChatContextRevisions retained rest := rfl

/-- The messages that revisions delete. -/
def deletedIds (revisions : List ChatHistoryRevision) : List JsString :=
  revisions.flatMap fun revision =>
    match revision with
    | .message_deleted messageIds => messageIds
    | _ => []

/-- The revisions leave a coherent context, with what they should leave of the messages. -/
def KeepsContext (messages : List ChatMessage) (revisions : List ChatHistoryRevision) : Prop :=
  ∃ entries, applyEntries revisions messages.zipIdx = .ok entries ∧
    applyChatContextRevisions messages revisions = .ok (entries.map Prod.fst) ∧
    findPlannerContextViolation (entries.map Prod.fst) = none ∧ Retained (deletedIds revisions) messages.zipIdx entries

theorem isDeleted_append (early late : List JsString) (id : Option JsString) :
    isDeleted (early ++ late) id = (isDeleted early id || isDeleted late id) := by
  cases id <;> simp [isDeleted]

theorem Retained.refl {entries : List Entry} (paired : Paired [] (entries.map Prod.fst)) : Retained [] entries entries := by
  have unnamed : ∀ entry : Entry, named [] entry = false := by
    intro entry
    rw [named]
    cases entry.1.chatMessageId <;> rfl
  constructor
  · exact List.Sublist.refl _
  · simp [unnamed]
  · simp [unnamed, (map_exchanges paired).1]
  · exact fun entry member _ _ _ => ⟨entry.1.toolCalls, member⟩

theorem Retained.trans {early late : List JsString} {before between after : List Entry} (paired : Paired [] (before.map Prod.fst))
    (first : Retained early before between) (second : Retained late between after) : Retained (early ++ late) before after := by
  have left : exchanges between = (exchanges before).filter fun exchange => !named early exchange.2 := by
    have answers : answersOf between = ((exchanges before).filter fun exchange => !named early exchange.2).map Prod.snd := by
      rw [first.answers, ← (map_exchanges paired).2, List.filter_map]
      rfl
    rw [exchanges, first.calls, answers]
    exact (List.zip_of_prod rfl rfl).symm
  have both : ∀ entry, (!named (early ++ late) entry) = (!named early entry && !named late entry) := by
    intro entry
    rw [named, isDeleted_append, Bool.not_or]
    rfl
  refine ⟨second.order.trans first.order, ?_, ?_, ?_⟩
  · rw [second.answers, first.answers, List.filter_filter]
    simp only [both, Bool.and_comm]
  · rw [second.calls, left, List.filter_filter]
    simp only [both, Bool.and_comm]
  · intro entry member spared thinking has
    have spares := both entry
    rw [spared, Bool.not_false] at spares
    obtain ⟨sparedEarly, sparedLate⟩ : named early entry = false ∧ named late entry = false := by simpa using spares
    obtain ⟨thinkingEarly, thinkingLate⟩ : isDeleted early entry.1.thinkingMessageId = false ∧
        isDeleted late entry.1.thinkingMessageId = false := by
      simpa [isDeleted_append] using thinking
    have sooner : ∀ call ∈ callsOf after, call ∈ callsOf between := by
      intro call isCall
      rw [second.calls] at isCall
      obtain ⟨exchange, isExchange, rfl⟩ := List.mem_map.mp isCall
      exact (List.of_mem_zip (List.mem_filter.mp isExchange).1).1
    obtain ⟨toolCalls, isBetween⟩ := first.others entry member sparedEarly thinkingEarly
      (has.imp id fun ⟨call, isCall, index⟩ => ⟨call, sooner call isCall, index⟩)
    exact second.others ({ entry.1 with toolCalls := toolCalls }, entry.2) isBetween sparedLate thinkingLate has

/-- Deletions that nothing disturbs, one after the other. -/
theorem applyEntries_retained {entries : List Entry} (paired : Paired [] (entries.map Prod.fst)) (indices : (entries.map Prod.snd).Nodup)
    (undisturbed : Undisturbed (entries.map Prod.fst)) (revisions : List ChatHistoryRevision) :
    ∃ after, applyEntries revisions entries = .ok after ∧
      applyChatContextRevisions (entries.map Prod.fst) revisions = .ok (after.map Prod.fst) ∧
      Paired [] (after.map Prod.fst) ∧ Retained (deletedIds revisions) entries after := by
  induction revisions generalizing entries with
  | nil => exact ⟨entries, rfl, rfl, paired, Retained.refl paired⟩
  | cons revision rest ih =>
    cases revision with
    | message_deleted messageIds =>
      have retained := @remaining_retained messageIds _ paired indices undisturbed
      have deleted := @deleteEntries_eq messageIds _ paired undisturbed.scan
      have messages : deleteMessages messageIds (entries.map Prod.fst) = .ok ((remaining messageIds entries).map Prod.fst) := by
        rw [deleteEntries_messages indices, deleted]
        rfl
      obtain ⟨after, applied, revised, pairedAfter, retainedAfter⟩ := ih
        (@remaining_paired messageIds _ paired indices undisturbed) (indices.sublist retained.order)
        (@remaining_undisturbed messageIds _ paired indices undisturbed)
      refine ⟨after, ?_, ?_, pairedAfter, retained.trans paired retainedAfter⟩
      · rw [applyEntries_deleted, deleted]
        exact applied
      · rw [applyChatContextRevisions_deleted, messages]
        exact revised
    | image_removed payloadDigest messageId => exact ih paired indices undisturbed
    | other => exact ih paired indices undisturbed

/-- Every list of revisions keeps a coherent context valid exactly if tool messages with lists of calls stand where they
disturb no deletion. -/
theorem revisions_keep_context_iff {messages : List ChatMessage} (coherent : findPlannerContextViolation messages = none) :
    (∀ revisions, KeepsContext messages revisions) ↔ Undisturbed messages := by
  have erased : messages.zipIdx.map Prod.fst = messages := List.zipIdx_map_fst 0 messages
  have paired : Paired [] (messages.zipIdx.map Prod.fst) := by
    rw [erased]
    exact coherent_iff.mp coherent
  have indices : (messages.zipIdx.map Prod.snd).Nodup := by
    rw [List.zipIdx_map_snd]
    exact List.nodup_range'
  constructor
  · intro keeps
    have well : DeletesWell messages.zipIdx := by
      intro messageIds
      obtain ⟨after, applied, _, _, retained⟩ := keeps [.message_deleted messageIds]
      simp only [deletedIds, List.flatMap_cons, List.flatMap_nil, List.append_nil] at retained
      refine ⟨after, ?_, retained⟩
      rw [applyEntries_deleted] at applied
      cases deleted : deleteEntries messageIds messages.zipIdx with
      | error thrown =>
        rw [deleted] at applied
        cases applied
      | ok left =>
        rw [deleted] at applied
        cases applied
        rfl
    have undisturbed := undisturbed_of_well paired indices well
    rwa [erased] at undisturbed
  · intro undisturbed revisions
    rw [← erased] at undisturbed
    obtain ⟨after, applied, revised, pairedAfter, retained⟩ := applyEntries_retained paired indices undisturbed revisions
    rw [erased] at revised
    exact ⟨after, applied, revised, coherent_iff.mpr pairedAfter, retained⟩

/-- A call of the id, under a name that does not matter. -/
def someCall (id : JsString) : PlannerToolCall := ⟨id, utf16 "function", utf16 "read", utf16 "\x7b\x7d"⟩

/-- An assistant that declares calls, and tool messages that answer them under display ids, with calls of their own. -/
def answeredBatch (own : Option (List PlannerToolCall)) : List ChatMessage :=
  [.plain .user (.text (utf16 "look")),
    { ChatMessage.plain .assistant (.text []) with toolCalls := some [someCall (utf16 "c1"), someCall (utf16 "c2")] },
    { buildToolResultMessage (utf16 "c1") (utf16 "first") with chatMessageId := some (utf16 "t1"), toolCalls := own },
    { buildToolResultMessage (utf16 "c2") (utf16 "second") with chatMessageId := some (utf16 "t2") }]

theorem batch_keeps_context :
    KeepsContext (answeredBatch none) [.message_deleted [utf16 "t1"], .other, .message_deleted [utf16 "t2"]] :=
  (revisions_keep_context_iff (by decide +kernel)).mpr
    ⟨by unfold ScanUndisturbed; decide +kernel, by decide +kernel, by decide +kernel⟩ _

/-- A deleted tool message with calls of its own stays, without the call that it answers. -/
theorem tool_message_with_calls_stays :
    findPlannerContextViolation (answeredBatch (some [someCall (utf16 "c9")])) = none ∧
      ¬ KeepsContext (answeredBatch (some [someCall (utf16 "c9")])) [.message_deleted [utf16 "t1"]] := by
  refine ⟨by decide +kernel, ?_⟩
  rintro ⟨entries, _, revised, coherent, _⟩
  have broken : (applyChatContextRevisions (answeredBatch (some [someCall (utf16 "c9")])) [.message_deleted [utf16 "t1"]]).toOption.all
      (fun messages => (findPlannerContextViolation messages).isSome) = true := by decide +kernel
  rw [revised] at broken
  simp only [Except.toOption, Option.all_some, coherent, Option.isSome_none, Bool.false_eq_true] at broken

end SiftKit.Chat.ContextRevision
