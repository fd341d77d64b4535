import SiftKit.Chat.PlannerContext

/-! # Calls and their answers

A list of planner messages is coherent exactly if its calls and its answers pair up in their order, no call is
answered before it was declared, and the calls that are open at one time have different ids.
-/

namespace SiftKit.Chat

open SiftKit.Json

/-! ## Coherence, without a scan -/

/-- A tool message answers; another message declares calls, as an assistant, or has none. -/
def WellShaped (message : ChatMessage) : Prop :=
  message.role = .tool ∨ message.toolCallId = none ∧ message.toolCalls ≠ some [] ∧ (message.role = .assistant ∨ message.toolCalls = none)

/-- No call is answered before it was declared, and the calls that are still open have different ids. -/
@[mk_iff]
structure Standing (openCallIds : List JsString) (messages : List ChatMessage) : Prop where
  bounded : (answeredIds messages).length ≤ (openCallIds ++ declaredIds messages).length
  distinct : ((openCallIds ++ declaredIds messages).drop (answeredIds messages).length).Nodup

/-- What messages need after calls that are open already. -/
structure Paired (openCallIds : List JsString) (messages : List ChatMessage) : Prop where
  shaped : ∀ message ∈ messages, WellShaped message
  answered : answeredIds messages = (openCallIds ++ declaredIds messages).map some
  standing : ∀ early, early <+: messages → Standing openCallIds early

theorem answeredIds_cons (message : ChatMessage) (rest : List ChatMessage) :
    answeredIds (message :: rest) = if message.role = .tool then message.toolCallId :: answeredIds rest else answeredIds rest := by
  by_cases isTool : message.role = .tool <;> simp [answeredIds, isTool]

theorem declaredIds_cons (message : ChatMessage) (rest : List ChatMessage) :
    declaredIds (message :: rest) =
      (if message.role = .tool then [] else message.declared.map PlannerToolCall.id) ++ declaredIds rest := by
  simp [declaredIds]

variable {openCallIds : List JsString} {message : ChatMessage} {messages : List ChatMessage}

theorem openCalls_eq_ok_iff {index : Nat} {openNow : List JsString} {calls : List PlannerToolCall}
    (distinct : openCallIds.Nodup) :
    openCalls index openCallIds calls = .ok openNow ↔ openNow = openCallIds ++ calls.map PlannerToolCall.id ∧ openNow.Nodup := by
  induction calls generalizing openCallIds with
  | nil =>
    simp only [openCalls, Except.ok.injEq, List.map_nil, List.append_nil]
    exact ⟨fun same => ⟨same.symm, same ▸ distinct⟩, fun same => same.1.symm⟩
  | cons call rest ih =>
    rw [openCalls]
    by_cases isOpen : call.id ∈ openCallIds
    · simp only [List.contains_iff_mem, isOpen, if_true, reduceCtorEq, false_iff, List.map_cons]
      rintro ⟨rfl, apart⟩
      rw [List.nodup_append] at apart
      exact apart.2.2 _ isOpen _ (List.mem_cons_self ..) rfl
    · have more : (openCallIds ++ [call.id]).Nodup := by
        simp [List.nodup_append, distinct]
        intro id isIn same
        exact isOpen (same ▸ isIn)
      simp only [List.contains_iff_mem, isOpen, if_false]
      rw [ih more]
      simp

theorem readMessage_eq_ok_iff {index : Nat} {openNow : List JsString} (distinct : openCallIds.Nodup) :
    readMessage index openCallIds message = .ok openNow ↔
      if message.role = .tool then ∃ expected, openCallIds = expected :: openNow ∧ message.toolCallId = some expected
      else WellShaped message ∧ openNow = openCallIds ++ message.declared.map PlannerToolCall.id ∧ openNow.Nodup := by
  unfold readMessage
  by_cases isTool : message.role = .tool
  · simp only [isTool, if_true]
    cases openCallIds with
    | nil => simp
    | cons expected others =>
      by_cases answers : message.toolCallId = some expected
      · simp [answers]
      · simp only [answers, if_false, reduceCtorEq, List.cons.injEq, false_iff, not_exists, not_and]
        rintro id ⟨rfl, rfl⟩
        exact answers
  · simp only [isTool, if_false, WellShaped, false_or]
    cases isId : message.toolCallId with
    | some id => simp
    | none =>
      cases areCalls : message.toolCalls with
      | none =>
        simp only [ChatMessage.declared, areCalls, Option.getD_none, List.map_nil, List.append_nil, Except.ok.injEq, ne_eq,
          reduceCtorEq, not_false_eq_true, or_true, and_true, true_and]
        exact ⟨fun same => ⟨same.symm, same ▸ distinct⟩, fun same => same.1.symm⟩
      | some calls =>
        by_cases isAssistant : message.role = .assistant
        · cases calls with
          | nil => simp [isAssistant]
          | cons call rest => simp [isAssistant, ChatMessage.declared, areCalls, openCalls_eq_ok_iff distinct]
        · simp [isAssistant]

theorem standing_nil : Standing openCallIds [] ↔ openCallIds.Nodup := by
  simp [standing_iff, answeredIds, declaredIds]

theorem standing_answer {expected : JsString} {others : List JsString} (isTool : message.role = .tool)
    (rest : List ChatMessage) : Standing (expected :: others) (message :: rest) ↔ Standing others rest := by
  simp [standing_iff, answeredIds_cons, declaredIds_cons, isTool]

theorem standing_other (notTool : message.role ≠ .tool) (rest : List ChatMessage) :
    Standing openCallIds (message :: rest) ↔ Standing (openCallIds ++ message.declared.map PlannerToolCall.id) rest := by
  simp [standing_iff, answeredIds_cons, declaredIds_cons, notTool]

theorem forall_prefix_cons {Item : Type} {holds : List Item → Prop} {first : Item} {rest : List Item} :
    (∀ early, early <+: first :: rest → holds early) ↔ holds [] ∧ ∀ early, early <+: rest → holds (first :: early) := by
  constructor
  · intro all
    exact ⟨all [] (List.nil_prefix ..), fun early shorter => all _ (List.cons_prefix_cons.mpr ⟨rfl, shorter⟩)⟩
  · rintro ⟨atStart, later⟩ early isPrefix
    cases early with
    | nil => exact atStart
    | cons other early =>
      obtain ⟨rfl, shorter⟩ := List.cons_prefix_cons.mp isPrefix
      exact later early shorter

/-- The pairing after one message: it answers the first open call, or it opens calls of its own. -/
theorem paired_cons {rest : List ChatMessage} :
    Paired openCallIds (message :: rest) ↔ openCallIds.Nodup ∧
      if message.role = .tool then ∃ expected others, openCallIds = expected :: others ∧ message.toolCallId = some expected ∧ Paired others rest
      else WellShaped message ∧ Paired (openCallIds ++ message.declared.map PlannerToolCall.id) rest := by
  by_cases isTool : message.role = .tool
  · simp only [isTool, if_true]
    constructor
    · rintro ⟨shaped, answered, standing⟩
      obtain ⟨atStart, later⟩ := forall_prefix_cons.mp standing
      refine ⟨standing_nil.mp atStart, ?_⟩
      have one := (later [] (List.nil_prefix ..)).bounded
      cases openCallIds with
      | nil => simp [answeredIds, declaredIds, isTool] at one
      | cons expected others =>
        simp only [answeredIds_cons, declaredIds_cons, isTool, if_true, List.nil_append, List.cons_append, List.map_cons,
          List.cons.injEq] at answered
        exact ⟨expected, others, rfl, answered.1, fun other member => shaped other (List.mem_cons_of_mem _ member), answered.2,
          fun early isPrefix => (standing_answer isTool early).mp (later early isPrefix)⟩
    · rintro ⟨atStart, expected, others, rfl, answers, shaped, answered, standing⟩
      constructor
      · exact List.forall_mem_cons.mpr ⟨.inl isTool, shaped⟩
      · simp [answeredIds_cons, declaredIds_cons, isTool, answers, answered]
      · exact forall_prefix_cons.mpr
          ⟨standing_nil.mpr atStart, fun early isPrefix => (standing_answer isTool early).mpr (standing early isPrefix)⟩
  · simp only [isTool, if_false]
    constructor
    · rintro ⟨shaped, answered, standing⟩
      obtain ⟨atStart, later⟩ := forall_prefix_cons.mp standing
      obtain ⟨own, others⟩ := List.forall_mem_cons.mp shaped
      refine ⟨standing_nil.mp atStart, own, others, ?_, fun early isPrefix => (standing_other isTool early).mp (later early isPrefix)⟩
      simpa [answeredIds_cons, declaredIds_cons, isTool] using answered
    · rintro ⟨atStart, own, shaped, answered, standing⟩
      constructor
      · exact List.forall_mem_cons.mpr ⟨own, shaped⟩
      · simpa [answeredIds_cons, declaredIds_cons, isTool] using answered
      · exact forall_prefix_cons.mpr
          ⟨standing_nil.mpr atStart, fun early isPrefix => (standing_other isTool early).mpr (standing early isPrefix)⟩

theorem violationFrom_eq_none_iff {index : Nat} (distinct : openCallIds.Nodup) :
    violationFrom openCallIds index messages = none ↔ Paired openCallIds messages := by
  induction messages generalizing openCallIds index with
  | nil =>
    rw [violationFrom]
    constructor
    · intro coherent
      split at coherent
      next none =>
        rw [List.isEmpty_iff.mp none]
        refine ⟨by simp, rfl, fun early isPrefix => ?_⟩
        rw [List.prefix_nil.mp isPrefix]
        exact standing_nil.mpr List.nodup_nil
      · cases coherent
    · intro paired
      have none := paired.answered
      simp only [answeredIds, declaredIds, List.filter_nil, List.map_nil, List.flatMap_nil, List.append_nil] at none
      simp [List.map_eq_nil_iff.mp none.symm]
  | cons message rest ih =>
    have step : violationFrom openCallIds index (message :: rest) = none ↔
        ∃ openNow, readMessage index openCallIds message = .ok openNow ∧ violationFrom openNow (index + 1) rest = none := by
      rw [violationFrom]
      cases readMessage index openCallIds message <;> simp
    rw [step, paired_cons]
    simp only [readMessage_eq_ok_iff distinct]
    by_cases isTool : message.role = .tool
    · simp only [isTool, if_true]
      constructor
      · rintro ⟨openNow, ⟨expected, rfl, answers⟩, later⟩
        exact ⟨distinct, expected, openNow, rfl, answers, (ih (List.nodup_cons.mp distinct).2).mp later⟩
      · rintro ⟨_, expected, others, rfl, answers, later⟩
        exact ⟨others, ⟨expected, rfl, answers⟩, (ih (List.nodup_cons.mp distinct).2).mpr later⟩
    · simp only [isTool, if_false]
      constructor
      · rintro ⟨openNow, ⟨shaped, rfl, apart⟩, later⟩
        exact ⟨distinct, shaped, (ih apart).mp later⟩
      · rintro ⟨_, shaped, later⟩
        have apart := standing_nil.mp (later.standing [] (List.nil_prefix ..))
        exact ⟨_, ⟨shaped, rfl, apart⟩, (ih apart).mpr later⟩

theorem coherent_iff : findPlannerContextViolation messages = none ↔ Paired [] messages :=
  violationFrom_eq_none_iff List.nodup_nil

theorem Paired.declared_nodup (paired : Paired openCallIds messages) (member : message ∈ messages)
    (notTool : message.role ≠ .tool) : (message.declared.map PlannerToolCall.id).Nodup := by
  induction messages generalizing openCallIds with
  | nil => cases member
  | cons first rest ih =>
    have later := (paired_cons.mp paired).2
    by_cases isTool : first.role = .tool
    · rw [if_pos isTool] at later
      obtain ⟨_, others, _, _, pairedRest⟩ := later
      cases List.mem_cons.mp member with
      | inl same => exact absurd (same ▸ isTool) notTool
      | inr member => exact ih pairedRest member
    · rw [if_neg isTool] at later
      cases List.mem_cons.mp member with
      | inl same =>
        have apart := standing_nil.mp (later.2.standing [] (List.nil_prefix ..))
        rw [same]
        exact (List.nodup_append.mp apart).2.1
      | inr member => exact ih later.2 member

/-! ## Exchanges -/

/-- A message, with its index in the list that it comes from. -/
abbrev Entry := ChatMessage × Nat

/-- The calls of a list, each under the index of its message. -/
def callsOf (entries : List Entry) : List (Nat × PlannerToolCall) :=
  entries.flatMap fun entry => if entry.1.role = .tool then [] else entry.1.declared.map fun call => (entry.2, call)

def callKey (call : Nat × PlannerToolCall) : Nat × JsString := (call.1, call.2.id)

/-- What a tool message answers, whatever became of its thinking; no calls and an empty list of calls are the same. -/
def ChatMessage.answer (message : ChatMessage) : ChatMessage :=
  { message with
    reasoningContent := none
    thinkingMessageId := none
    toolCalls := if message.declared.isEmpty then none else message.toolCalls }

/-- The answers of a list, each under its index. -/
def answersOf (entries : List Entry) : List Entry :=
  (entries.filter fun entry => entry.1.role = .tool).map fun entry => (entry.1.answer, entry.2)

/-- The tool exchanges of a list: its calls and its answers pair up in their order. -/
def exchanges (entries : List Entry) : List ((Nat × PlannerToolCall) × Entry) := (callsOf entries).zip (answersOf entries)

theorem callsOf_cons (entry : Entry) (rest : List Entry) :
    callsOf (entry :: rest) =
      (if entry.1.role = .tool then [] else entry.1.declared.map fun call => (entry.2, call)) ++ callsOf rest := by
  simp [callsOf]

theorem answersOf_cons (entry : Entry) (rest : List Entry) :
    answersOf (entry :: rest) = if entry.1.role = .tool then (entry.1.answer, entry.2) :: answersOf rest else answersOf rest := by
  by_cases isTool : entry.1.role = .tool <;> simp [answersOf, isTool]

theorem callsOf_append (early late : List Entry) : callsOf (early ++ late) = callsOf early ++ callsOf late := by
  simp [callsOf]

theorem answersOf_append (early late : List Entry) : answersOf (early ++ late) = answersOf early ++ answersOf late := by
  simp [answersOf]

theorem map_callsOf (entries : List Entry) : (callsOf entries).map (fun call => call.2.id) = declaredIds (entries.map Prod.fst) := by
  simp only [callsOf, declaredIds, List.map_flatMap, List.flatMap_map]
  congr 1
  funext entry
  by_cases isTool : entry.1.role = .tool <;> simp [isTool, Function.comp_def]

theorem map_answersOf (entries : List Entry) :
    (answersOf entries).map (fun entry => entry.1.toolCallId) = answeredIds (entries.map Prod.fst) := by
  simp [answersOf, answeredIds, List.filter_map, Function.comp_def, ChatMessage.answer]

section Coherent

variable {entries : List Entry} (paired : Paired [] (entries.map Prod.fst))

include paired

theorem length_answersOf : (answersOf entries).length = (callsOf entries).length := by
  have answered := congrArg List.length paired.answered
  rw [← map_answersOf, ← map_callsOf] at answered
  simpa using answered

theorem map_exchanges : (exchanges entries).map Prod.fst = callsOf entries ∧ (exchanges entries).map Prod.snd = answersOf entries := by
  have same := length_answersOf paired
  exact ⟨List.map_fst_zip (by omega), List.map_snd_zip (by omega)⟩

theorem exchange_ids {exchange : (Nat × PlannerToolCall) × Entry} (member : exchange ∈ exchanges entries) :
    exchange.2.1.toolCallId = some exchange.1.2.id := by
  have answered := paired.answered
  rw [← map_answersOf, ← map_callsOf, List.nil_append, ← (map_exchanges paired).1, ← (map_exchanges paired).2] at answered
  simp only [List.map_map] at answered
  exact List.map_inj_left.mp answered exchange member

theorem callsOf_nodup (indices : (entries.map Prod.snd).Nodup) : ((callsOf entries).map callKey).Nodup := by
  rw [callsOf, List.map_flatMap, List.nodup_flatMap]
  constructor
  · intro entry member
    by_cases isTool : entry.1.role = .tool
    · simp [isTool]
    · have apart := paired.declared_nodup (List.mem_map_of_mem member) isTool
      rw [if_neg isTool, List.map_map]
      have keys : callKey ∘ (fun call => (entry.2, call)) = (Prod.mk entry.2) ∘ PlannerToolCall.id := rfl
      rw [keys, ← List.map_map]
      exact apart.map (Prod.mk_right_injective entry.2)
  · refine (List.pairwise_map.mp indices).imp fun {first second} apart => ?_
    rw [Function.onFun, List.disjoint_left]
    intro key inFirst inSecond
    have index : ∀ {entry : Entry}, key ∈ (if entry.1.role = .tool then [] else
        entry.1.declared.map fun call => (entry.2, call)).map callKey → key.1 = entry.2 := by
      intro entry isIn
      split at isIn
      · cases isIn
      · simp only [List.map_map, List.mem_map] at isIn
        obtain ⟨call, _, rfl⟩ := isIn
        rfl
    exact apart ((index inFirst).symm.trans (index inSecond))

end Coherent

end SiftKit.Chat
