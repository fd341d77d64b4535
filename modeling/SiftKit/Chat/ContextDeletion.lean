import SiftKit.Chat.ContextPairing
import Mathlib.Data.List.GetD
import Mathlib.Algebra.Order.BigOperators.Group.List

/-! # Deletions, message by message

`applyChatContextRevisions` with the origin of each retained message, what its scan finds, and what it makes of
one message.
-/

namespace SiftKit.Chat

open SiftKit.Json SiftKit.Failure

namespace ContextRevision

variable (messageIds : List JsString)

/-! ## The scan -/

/-- The calls that the scan opens at a message: it does not ask for the role. -/
def openedBy (entry : Entry) : List OpenCall := entry.1.declared.map fun call => ⟨call.id, entry.2⟩

def opened (entries : List Entry) : List OpenCall := entries.flatMap openedBy

def OpenCall.key (call : OpenCall) : Nat × JsString := (call.assistantIndex, call.id)

/-- The open calls that the answers consume, of those that are open already and those that entries open. -/
def consumed (openCalls : List OpenCall) (entries : List Entry) : List (OpenCall × Entry) :=
  (openCalls ++ opened entries).zip (entries.filter fun entry => entry.1.role = .tool)

/-- The answers that are deleted, with the calls that they consume. -/
def deletions (openCalls : List OpenCall) (entries : List Entry) : List (OpenCall × Entry) :=
  (consumed openCalls entries).filter fun pair => isDeleted messageIds pair.2.1.chatMessageId

variable {messageIds}

theorem consumed_other (openCalls : List OpenCall) {entry : Entry} (notTool : entry.1.role ≠ .tool) (rest : List Entry) :
    consumed openCalls (entry :: rest) = consumed (openCalls ++ openedBy entry) rest := by
  simp [consumed, opened, notTool]

theorem consumed_tool {openCalls others : List OpenCall} {head : OpenCall} {entry : Entry} (isTool : entry.1.role = .tool)
    (opens : openCalls ++ openedBy entry = head :: others) (rest : List Entry) :
    consumed openCalls (entry :: rest) = (head, entry) :: consumed others rest := by
  have all : openCalls ++ opened (entry :: rest) = head :: (others ++ opened rest) := by
    rw [opened, List.flatMap_cons, ← List.append_assoc, opens]
    rfl
  simp [consumed, all, isTool]

variable {entries : List Entry} {message : ChatMessage}

/-- The scan succeeds if each deleted answer consumes a call of its id, and then it removes these calls. -/
theorem scan_iff {openCallIds : List JsString} {openCalls : List OpenCall}
    {removed removedCalls : List (Nat × JsString)} (paired : Paired openCallIds (entries.map Prod.fst))
    (enough : openCallIds.length ≤ openCalls.length) :
    (∃ openNow, entries.foldlM (scanMessage messageIds) ⟨openCalls, removed⟩ = .ok ⟨openNow, removedCalls⟩) ↔
      (∀ pair ∈ deletions messageIds openCalls entries, pair.2.1.toolCallId = some pair.1.id) ∧
        removedCalls = removed ++ (deletions messageIds openCalls entries).map fun pair => pair.1.key := by
  induction entries generalizing openCallIds openCalls removed with
  | nil =>
    simp only [deletions, consumed, opened, List.foldlM_nil, List.filter_nil, List.flatMap_nil, List.zip_nil_right, List.map_nil,
      List.append_nil, List.not_mem_nil, false_implies, implies_true, true_and]
    constructor
    · rintro ⟨_, ⟨⟩⟩
      rfl
    · rintro rfl
      exact ⟨openCalls, rfl⟩
  | cons entry rest ih =>
    have later := (paired_cons.mp paired).2
    rw [List.foldlM_cons]
    by_cases isTool : entry.1.role = .tool
    · rw [if_pos isTool] at later
      obtain ⟨expected, others, rfl, _, pairedRest⟩ := later
      -- The real queue is not longer than the scanned one, so an answer finds a call there.
      cases opens : openCalls ++ openedBy entry with
      | nil =>
        rw [List.append_eq_nil_iff] at opens
        simp [opens.1] at enough
      | cons head tail =>
        have longEnough : others.length ≤ tail.length := by
          have := congrArg List.length opens
          simp only [List.length_append, List.length_cons] at this enough
          omega
        have opening := opens
        rw [openedBy] at opening
        by_cases deleted : isDeleted messageIds entry.1.chatMessageId = true
        · have named : deletions messageIds openCalls (entry :: rest) = (head, entry) :: deletions messageIds tail rest := by
            simp [deletions, consumed_tool isTool opens, deleted]
          rw [named]
          by_cases answers : entry.1.toolCallId = some head.id
          · have scanned : scanMessage messageIds ⟨openCalls, removed⟩ entry = .ok ⟨tail, removed ++ [head.key]⟩ := by
              simp [scanMessage, isTool, deleted, opening, answers, OpenCall.key]
            have further := @ih others tail (removed ++ [head.key]) pairedRest longEnough
            rw [List.append_assoc, List.singleton_append] at further
            rw [scanned, List.forall_mem_cons, List.map_cons]
            simp only [answers, true_and]
            exact further
          · have thrown : scanMessage messageIds ⟨openCalls, removed⟩ entry = .error noDeclaration := by
              simp [scanMessage, isTool, deleted, opening, answers]
            rw [thrown]
            constructor
            · rintro ⟨_, ⟨⟩⟩
            · rintro ⟨all, _⟩
              exact absurd (all _ (List.mem_cons_self ..)) answers
        · have unnamed : deletions messageIds openCalls (entry :: rest) = deletions messageIds tail rest := by
            simp [deletions, consumed_tool isTool opens, deleted]
          have scanned : scanMessage messageIds ⟨openCalls, removed⟩ entry = .ok ⟨tail, removed⟩ := by
            simp [scanMessage, isTool, deleted, opening]
          rw [unnamed, scanned]
          exact ih pairedRest longEnough
    · rw [if_neg isTool] at later
      have scanned : scanMessage messageIds ⟨openCalls, removed⟩ entry =
          .ok ⟨openCalls ++ openedBy entry, removed⟩ := by
        simp [scanMessage, isTool, openedBy]
      rw [scanned, deletions, consumed_other openCalls isTool]
      apply ih later.2
      simp only [List.length_append, List.length_map, openedBy]
      omega

/-! ## One message -/

/-- What is left of a message under its index. -/
def keptEntry (messageIds : List JsString) (removedCalls : List (Nat × JsString)) (entry : Entry) : Option Entry :=
  ((withoutDeleted messageIds entry.1).bind (withoutCalls removedCalls entry.2)).map fun message => (message, entry.2)

variable {removedCalls : List (Nat × JsString)} {entry kept : Entry}

theorem withoutDeleted_eq_some {next : ChatMessage} (left : withoutDeleted messageIds message = some next) :
    next.role = message.role ∧ next.toolCallId = message.toolCallId ∧ next.toolCalls = message.toolCalls ∧
      (next.chatMessageId.isSome → isDeleted messageIds message.chatMessageId = false ∧ next.chatMessageId = message.chatMessageId) := by
  unfold withoutDeleted at left
  simp only at left
  by_cases deleted : isDeleted messageIds message.chatMessageId = true
  · split at left
    · cases left
    · simp only at left
      split at left <;> cases left <;> exact ⟨rfl, rfl, rfl, fun some => by cases some⟩
  · simp only [deleted, Bool.false_and, Bool.false_eq_true, if_false] at left
    split at left <;> cases left <;> exact ⟨rfl, rfl, rfl, fun _ => ⟨by simpa using deleted, rfl⟩⟩

theorem withoutCalls_eq_some {index : Nat} {next : ChatMessage}
    (left : withoutCalls removedCalls index message = some next) :
    next = { message with toolCalls := next.toolCalls } ∧ next.toolCalls ≠ some [] ∧ (message.toolCalls = none → next.toolCalls = none) ∧
      next.declared = message.declared.filter fun call => !removedCalls.contains (index, call.id) := by
  unfold withoutCalls at left
  split at left
  next none =>
    cases left
    exact ⟨rfl, by simp [none], fun _ => none, by simp [ChatMessage.declared, none]⟩
  next calls areCalls =>
    simp only at left
    split at left
    next some =>
      cases left
      refine ⟨rfl, ?_, fun none => ?_, ?_⟩
      · simpa using some
      · rw [areCalls] at none
        cases none
      · simp [ChatMessage.declared, areCalls]
    next none =>
      split at left
      · cases left
        refine ⟨rfl, by simp, fun _ => rfl, ?_⟩
        simpa [ChatMessage.declared, areCalls] using none
      · cases left

theorem keptEntry_eq_some (left : keptEntry messageIds removedCalls entry = some kept) :
    ∃ next, withoutDeleted messageIds entry.1 = some next ∧ withoutCalls removedCalls entry.2 next = some kept.1 ∧ kept.2 = entry.2 := by
  unfold keptEntry at left
  obtain ⟨message, found, rfl⟩ := Option.map_eq_some_iff.mp left
  obtain ⟨next, deleted, calls⟩ := Option.bind_eq_some_iff.mp found
  exact ⟨next, deleted, calls, rfl⟩

theorem keptEntry_shape (left : keptEntry messageIds removedCalls entry = some kept) :
    kept.2 = entry.2 ∧ kept.1.role = entry.1.role ∧ kept.1.toolCallId = entry.1.toolCallId ∧ kept.1.toolCalls ≠ some [] ∧
      (entry.1.toolCalls = none → kept.1.toolCalls = none) ∧
      (kept.1.chatMessageId.isSome → isDeleted messageIds entry.1.chatMessageId = false ∧ kept.1.chatMessageId = entry.1.chatMessageId) := by
  obtain ⟨next, deleted, calls, index⟩ := keptEntry_eq_some left
  obtain ⟨role, toolCallId, toolCalls, chatMessageId⟩ := withoutDeleted_eq_some deleted
  obtain ⟨same, nonempty, none, _⟩ := withoutCalls_eq_some calls
  have fields : kept.1.role = next.role ∧ kept.1.toolCallId = next.toolCallId ∧ kept.1.chatMessageId = next.chatMessageId := by
    rw [same]
    exact ⟨rfl, rfl, rfl⟩
  refine ⟨index, fields.1.trans role, fields.2.1.trans toolCallId, nonempty, fun noCalls => none (toolCalls.trans noCalls), ?_⟩
  rw [fields.2.2]
  exact chatMessageId

theorem keptEntry_declared (messageIds : List JsString) (removedCalls : List (Nat × JsString)) (entry : Entry) :
    (keptEntry messageIds removedCalls entry).elim [] (fun kept => kept.1.declared) =
      entry.1.declared.filter fun call => !removedCalls.contains (entry.2, call.id) := by
  cases left : keptEntry messageIds removedCalls entry with
  | some kept =>
    obtain ⟨next, deleted, calls, _⟩ := keptEntry_eq_some left
    have same : next.declared = entry.1.declared := by
      rw [ChatMessage.declared, (withoutDeleted_eq_some deleted).2.2.1]
      rfl
    rw [Option.elim_some, (withoutCalls_eq_some calls).2.2.2, same]
  | none =>
    simp only [keptEntry, Option.map_eq_none_iff, Option.bind_eq_none_iff] at left
    rw [Option.elim_none]
    cases deleted : withoutDeleted messageIds entry.1 with
    | none =>
      -- A message that is dropped at once declares nothing.
      unfold withoutDeleted at deleted
      simp only at deleted
      split at deleted
      next empty =>
        rw [Bool.and_eq_true, List.isEmpty_iff] at empty
        rw [empty.2, List.filter_nil]
      · cases deleted
    | some next =>
      have dropped := left next deleted
      have toolCalls := (withoutDeleted_eq_some deleted).2.2.1
      unfold withoutCalls at dropped
      split at dropped
      · cases dropped
      next calls areCalls =>
        simp only at dropped
        split at dropped
        · cases dropped
        next none =>
          rw [ChatMessage.declared, ← toolCalls, areCalls]
          simpa using none

theorem keptEntry_deleted (deleted : isDeleted messageIds entry.1.chatMessageId = true) (plain : entry.1.declared = []) :
    keptEntry messageIds removedCalls entry = none := by
  simp [keptEntry, withoutDeleted, deleted, plain]

theorem withoutDeleted_spared (spared : isDeleted messageIds message.chatMessageId = false) :
    withoutDeleted messageIds message =
      some (if isDeleted messageIds message.thinkingMessageId then { message with reasoningContent := none, thinkingMessageId := none }
        else message) := by
  simp [withoutDeleted, spared]

theorem keptEntry_unnamed (spared : isDeleted messageIds entry.1.chatMessageId = false)
    (thinking : isDeleted messageIds entry.1.thinkingMessageId = false)
    (left : saysSomething entry.1 = true ∨ (entry.1.declared.filter fun call => !removedCalls.contains (entry.2, call.id)) ≠ []) :
    ∃ toolCalls, keptEntry messageIds removedCalls entry = some ({ entry.1 with toolCalls := toolCalls }, entry.2) := by
  have survives : ∃ message, withoutCalls removedCalls entry.2 entry.1 = some message := by
    unfold withoutCalls
    split
    · exact ⟨_, rfl⟩
    next calls areCalls =>
      simp only [ChatMessage.declared, areCalls, Option.getD_some] at left
      have same : saysSomething { entry.1 with toolCalls := none } = saysSomething entry.1 := rfl
      simp only [same]
      split
      · exact ⟨_, rfl⟩
      next nothing =>
        have empty : (calls.filter fun call => !removedCalls.contains (entry.2, call.id)) = [] := by simpa using nothing
        rw [if_pos (left.resolve_right (· empty))]
        exact ⟨_, rfl⟩
  obtain ⟨message, calls⟩ := survives
  obtain ⟨same, _⟩ := withoutCalls_eq_some calls
  refine ⟨message.toolCalls, ?_⟩
  simp [keptEntry, withoutDeleted_spared spared, thinking, calls]
  exact same

/-- What a message says apart from thinking that can be deleted alone. -/
def lastingly (message : ChatMessage) : ChatMessage :=
  if message.thinkingMessageId = none ∨ message.thinkingMessageId = message.chatMessageId then message
  else { message with reasoningContent := none }

theorem saysSomething_lastingly (speaks : saysSomething (lastingly message) = true) :
    saysSomething message = true := by
  unfold lastingly at speaks
  split at speaks
  · exact speaks
  · unfold saysSomething at speaks ⊢
    simp only [Option.any_none, Bool.or_false] at speaks
    simp [speaks]

/-- An answer that is not deleted stays, if its own calls do and it says something for as long. -/
theorem keptEntry_answer (spared : isDeleted messageIds entry.1.chatMessageId = false)
    (own : ∀ call ∈ entry.1.declared, (entry.2, call.id) ∉ removedCalls)
    (lasting : entry.1.toolCalls = some [] → saysSomething (lastingly entry.1) = true) :
    ∃ message, keptEntry messageIds removedCalls entry = some (message, entry.2) ∧ message.answer = entry.1.answer := by
  -- The message without its thinking, if that is deleted.
  obtain ⟨next, deleted, answers, toolCalls, speaks⟩ : ∃ next, withoutDeleted messageIds entry.1 = some next ∧ next.answer = entry.1.answer ∧
      next.toolCalls = entry.1.toolCalls ∧ (saysSomething (lastingly entry.1) = true → saysSomething { next with toolCalls := none } = true) := by
    refine ⟨_, withoutDeleted_spared spared, ?_⟩
    split
    next thinking =>
      refine ⟨rfl, rfl, fun speaks => ?_⟩
      have apart : ¬(entry.1.thinkingMessageId = none ∨ entry.1.thinkingMessageId = entry.1.chatMessageId) := by
        rintro (none | same)
        · simp [none, isDeleted] at thinking
        · rw [same, spared] at thinking
          cases thinking
      rw [lastingly, if_neg apart] at speaks
      exact speaks
    · exact ⟨rfl, rfl, saysSomething_lastingly⟩
  rw [keptEntry, deleted, Option.bind_some]
  unfold withoutCalls
  split
  · exact ⟨next, rfl, answers⟩
  next calls areCalls =>
    rw [areCalls] at toolCalls
    have all : (calls.filter fun call => !removedCalls.contains (entry.2, call.id)) = calls := by
      rw [List.filter_eq_self]
      intro call member
      simpa using own call (by simpa [ChatMessage.declared, ← toolCalls] using member)
    simp only [all]
    cases calls with
    | nil =>
      have stays := speaks (lasting toolCalls.symm)
      simp only [List.isEmpty_nil, Bool.not_true, Bool.false_eq_true, if_false, stays, if_true]
      refine ⟨_, rfl, answers ▸ ?_⟩
      simp [ChatMessage.answer, ChatMessage.declared, areCalls]
    | cons call rest =>
      simp only [List.isEmpty_cons, Bool.not_false, if_true]
      refine ⟨_, rfl, answers ▸ ?_⟩
      rw [← areCalls]

/-- An answer with an empty list of calls that says nothing lastingly is dropped by a deletion that spares it. -/
theorem keptEntry_unlasting {entry : Entry} (empty : entry.1.toolCalls = some []) (silent : saysSomething (lastingly entry.1) = false) :
    ∃ messageIds, isDeleted messageIds entry.1.chatMessageId = false ∧ ∀ removedCalls, keptEntry messageIds removedCalls entry = none := by
  by_cases together : entry.1.thinkingMessageId = none ∨ entry.1.thinkingMessageId = entry.1.chatMessageId
  · rw [lastingly, if_pos together] at silent
    have nothing : ∀ id, isDeleted [] id = false := by
      intro id
      cases id <;> rfl
    have same : saysSomething { entry.1 with toolCalls := none } = false := silent
    refine ⟨[], nothing _, fun removedCalls => ?_⟩
    simp [keptEntry, withoutDeleted_spared (nothing _), nothing, withoutCalls, empty, same]
  · rw [lastingly, if_neg together] at silent
    simp only [not_or] at together
    cases thinking : entry.1.thinkingMessageId with
    | none => exact absurd thinking together.1
    | some thinkingId =>
      have spared : isDeleted [thinkingId] entry.1.chatMessageId = false := by
        have apart := together.2
        rw [thinking] at apart
        cases chat : entry.1.chatMessageId with
        | none => rfl
        | some id =>
          rw [chat] at apart
          simpa [isDeleted] using Ne.symm (fun same => apart (congrArg some same))
      have deleted : isDeleted [thinkingId] (some thinkingId) = true := by simp [isDeleted]
      have same : saysSomething { entry.1 with reasoningContent := none, thinkingMessageId := none, toolCalls := none } = false := silent
      refine ⟨[thinkingId], spared, fun removedCalls => ?_⟩
      simp [keptEntry, withoutDeleted_spared spared, thinking, deleted, withoutCalls, empty, same]

/-! ## A deletion, with the origin of each message that is left -/

/-- `deleteMessages`, where each message has an index of its own in place of its position. -/
def deleteEntries (messageIds : List JsString) (entries : List Entry) : Except Thrown (List Entry) := do
  let scan ← entries.foldlM (scanMessage messageIds) ⟨[], []⟩
  return entries.filterMap (keptEntry messageIds scan.removedCalls)

section Renaming

variable (rename : Nat → Nat)

def OpenCall.renamed (call : OpenCall) : OpenCall := ⟨call.id, rename call.assistantIndex⟩

def Scan.renamed (scan : Scan) : Scan :=
  ⟨scan.openCalls.map (OpenCall.renamed rename), scan.removedCalls.map fun call => (rename call.1, call.2)⟩

theorem scanMessage_renamed (scan : Scan) (entry : Entry) :
    scanMessage messageIds (scan.renamed rename) (entry.1, rename entry.2) =
      (scanMessage messageIds scan entry).map (Scan.renamed rename) := by
  have opens : (scan.renamed rename).openCalls ++ entry.1.declared.map (fun call => ⟨call.id, rename entry.2⟩) =
      (scan.openCalls ++ openedBy entry).map (OpenCall.renamed rename) := by
    simp [Scan.renamed, openedBy, OpenCall.renamed]
  unfold scanMessage
  simp only [opens]
  rw [← openedBy]
  split
  · rfl
  · split
    · simp [Except.map, Scan.renamed, List.map_tail]
    · cases scan.openCalls ++ openedBy entry with
      | nil => rfl
      | cons call rest =>
        by_cases answers : entry.1.toolCallId = some call.id <;>
          simp [answers, Except.map, Scan.renamed, OpenCall.renamed]

theorem scan_renamed (scan : Scan) (entries : List Entry) :
    (entries.map fun entry => (entry.1, rename entry.2)).foldlM (scanMessage messageIds) (scan.renamed rename) =
      (entries.foldlM (scanMessage messageIds) scan).map (Scan.renamed rename) := by
  induction entries generalizing scan with
  | nil => rfl
  | cons entry rest ih =>
    rw [List.map_cons, List.foldlM_cons, List.foldlM_cons, scanMessage_renamed]
    cases scanMessage messageIds scan entry with
    | error thrown => rfl
    | ok next => exact ih next

variable {rename}

theorem keptEntry_renamed (injective : rename.Injective) (removedCalls : List (Nat × JsString)) (entry : Entry) :
    keptEntry messageIds (removedCalls.map fun call => (rename call.1, call.2)) (entry.1, rename entry.2) =
      (keptEntry messageIds removedCalls entry).map fun kept => (kept.1, rename kept.2) := by
  have same : ∀ (index : Nat) (id : JsString),
      (removedCalls.map fun call => (rename call.1, call.2)).contains (rename index, id) = removedCalls.contains (index, id) := by
    intro index id
    rw [Bool.eq_iff_iff]
    simp [injective.eq_iff]
  have calls : ∀ message, withoutCalls (removedCalls.map fun call => (rename call.1, call.2)) (rename entry.2) message =
      withoutCalls removedCalls entry.2 message := by
    intro message
    unfold withoutCalls
    simp only [same]
  simp [keptEntry, calls, Function.comp_def]

theorem deleteEntries_renamed (injective : rename.Injective) (entries : List Entry) :
    deleteEntries messageIds (entries.map fun entry => (entry.1, rename entry.2)) =
      (deleteEntries messageIds entries).map (List.map fun entry => (entry.1, rename entry.2)) := by
  have scanned := @scan_renamed messageIds rename ⟨[], []⟩ entries
  have start : (⟨[], []⟩ : Scan).renamed rename = ⟨[], []⟩ := rfl
  rw [start] at scanned
  unfold deleteEntries
  rw [scanned]
  cases entries.foldlM (scanMessage messageIds) ⟨[], []⟩ with
  | error thrown => rfl
  | ok scan =>
    have kept : (entries.map fun entry => (entry.1, rename entry.2)).filterMap (keptEntry messageIds (scan.renamed rename).removedCalls) =
        (entries.filterMap (keptEntry messageIds scan.removedCalls)).map fun entry => (entry.1, rename entry.2) := by
      rw [List.filterMap_map, List.map_filterMap]
      congr 1
      funext entry
      exact keptEntry_renamed injective scan.removedCalls entry
    exact congrArg Except.ok kept

end Renaming

theorem exists_rename (indices : (entries.map Prod.snd).Nodup) :
    ∃ rename : Nat → Nat, rename.Injective ∧ entries = (entries.map Prod.fst).zipIdx.map fun entry => (entry.1, rename entry.2) := by
  refine ⟨fun position => (entries.map Prod.snd).getD position ((entries.map Prod.snd).sum + 1 + position), ?_, ?_⟩
  · have below : ∀ position (within : position < (entries.map Prod.snd).length),
        (entries.map Prod.snd)[position] ≤ (entries.map Prod.snd).sum :=
      fun position within => List.le_sum_of_mem (List.getElem_mem within)
    intro first second same
    simp only at same
    by_cases firstWithin : first < (entries.map Prod.snd).length
    · by_cases secondWithin : second < (entries.map Prod.snd).length
      · rw [List.getD_eq_getElem _ _ firstWithin, List.getD_eq_getElem _ _ secondWithin] at same
        exact (indices.getElem_inj_iff).mp same
      · rw [List.getD_eq_getElem _ _ firstWithin, List.getD_eq_default _ _ (by omega)] at same
        have := below first firstWithin
        omega
    · by_cases secondWithin : second < (entries.map Prod.snd).length
      · rw [List.getD_eq_getElem _ _ secondWithin, List.getD_eq_default _ _ (by omega)] at same
        have := below second secondWithin
        omega
      · rw [List.getD_eq_default _ _ (by omega), List.getD_eq_default _ _ (by omega)] at same
        omega
  · apply List.ext_getElem
    · simp
    · intro position within _
      simp [List.getD_eq_getElem?_getD, within]

/-- Without the origins it is the deletion of the messages. -/
theorem deleteEntries_messages (indices : (entries.map Prod.snd).Nodup) :
    deleteMessages messageIds (entries.map Prod.fst) = (deleteEntries messageIds entries).map (List.map Prod.fst) := by
  have positions : ∀ messages : List ChatMessage,
      deleteMessages messageIds messages = (deleteEntries messageIds messages.zipIdx).map (List.map Prod.fst) := by
    intro messages
    unfold deleteMessages deleteEntries
    cases messages.zipIdx.foldlM (scanMessage messageIds) ⟨[], []⟩ with
    | error thrown => rfl
    | ok scan =>
      have kept : (messages.zipIdx.filterMap fun entry => (withoutDeleted messageIds entry.1).bind (withoutCalls scan.removedCalls entry.2)) =
          (messages.zipIdx.filterMap (keptEntry messageIds scan.removedCalls)).map Prod.fst := by
        rw [List.map_filterMap]
        congr 1
        funext entry
        simp [keptEntry, Function.comp_def]
      exact congrArg Except.ok kept
  obtain ⟨rename, injective, renamed⟩ := exists_rename indices
  rw [positions]
  conv_rhs => rw [renamed, deleteEntries_renamed injective]
  cases deleteEntries messageIds (entries.map Prod.fst).zipIdx with
  | error thrown => rfl
  | ok kept => simp [Except.map, Function.comp_def]

end ContextRevision

end SiftKit.Chat
