import SiftKit.Chat.MessageQueueEffects

/-! # The message queue keeps its messages

Over every run of calls: a message that was enqueued stays in the queue, once, until the user
removes it or it is incorporated; it is handed out at most once, in the order of the queue.
-/

namespace SiftKit.Chat

open SiftKit.Json SiftKit.Failure SiftKit.Tables SiftKit.Runs MessageQueueStore

/-! ## Well-formed stores -/

namespace MessageQueueStore

def sequences (store : MessageQueueStore) : List Nat := store.rows.map QueueRow.sequence

def keys (store : MessageQueueStore) : List (String × String) := store.rows.map fun row => (row.sessionId, row.id)

/-- What every queue keeps that started empty. -/
structure WellFormed (store : MessageQueueStore) : Prop where
  ordered : store.sequences.Pairwise (· < ·)
  bounded : ∀ sequence ∈ store.sequences, 1 ≤ sequence ∧ sequence ≤ store.lastSequence
  once : store.keys.Nodup
  limited : ∀ sessionId, store.countPending sessionId ≤ CHAT_QUEUE_MAX_PENDING

theorem wellFormed_empty : WellFormed empty := by
  constructor
  · exact .nil
  · intro sequence member
    cases member
  · exact .nil
  · intro sessionId
    exact Nat.zero_le _

variable {store : MessageQueueStore}

theorem WellFormed.sequences_nodup (wellFormed : WellFormed store) : store.sequences.Nodup :=
  wellFormed.ordered.imp fun lower => Nat.ne_of_lt lower

variable {row : QueueRow} {after : MessageQueueStore} {call : QueueCall}

theorem mem_sequences (member : row ∈ store.rows) : row.sequence ∈ store.sequences :=
  List.mem_map.mpr ⟨row, member, rfl⟩

theorem WellFormed.row_unique (wellFormed : WellFormed store) {sessionId id : String} {other : QueueRow}
    (member : row ∈ store.rows) (isOwn : isRow sessionId id row = true) (otherMember : other ∈ store.rows)
    (isOther : isRow sessionId id other = true) : row = other := by
  obtain ⟨rfl, rfl⟩ := isRow_iff.mp isOwn
  obtain ⟨sameSession, sameId⟩ := isRow_iff.mp isOther
  apply List.inj_on_of_nodup_map wellFormed.once member otherMember
  rw [sameSession, sameId]

theorem WellFormed.eq_of_sequence (wellFormed : WellFormed store) {other : QueueRow} (member : row ∈ store.rows)
    (otherMember : other ∈ store.rows) (same : row.sequence = other.sequence) : row = other :=
  List.inj_on_of_nodup_map wellFormed.sequences_nodup member otherMember same

/-- A rewriting of a row that leaves its keys alone and does not make it pending. -/
structure KeepsKeys (rewrite : QueueRow → QueueRow) : Prop where
  sequence : ∀ row, (rewrite row).sequence = row.sequence
  sessionId : ∀ row, (rewrite row).sessionId = row.sessionId
  id : ∀ row, (rewrite row).id = row.id
  pending : ∀ row, (rewrite row).state = .pending → row.state = .pending

theorem keepsKeys_editRow (content : JsString) : KeepsKeys (editRow content) :=
  ⟨fun _ => rfl, fun _ => rfl, fun _ => rfl, fun _ pending => pending⟩

theorem keepsKeys_deliver (input : ChatQueueClaimInput) (nowUtc : String) : KeepsKeys (deliver input nowUtc) := by
  refine ⟨fun _ => rfl, fun _ => rfl, fun _ => rfl, fun row pending => ?_⟩
  cases pending

section

variable (wellFormed : WellFormed store)

include wellFormed

theorem WellFormed.rewrite {selects : QueueRow → Bool} {rewrite : QueueRow → QueueRow}
    (keeps : KeepsKeys rewrite) (rows : after.rows = updateWhere selects rewrite store.rows)
    (last : after.lastSequence = store.lastSequence) : WellFormed after := by
  have sequences : after.sequences = store.sequences := by
    rw [MessageQueueStore.sequences, rows]
    exact map_updateWhere fun row _ _ => keeps.sequence row
  have keys : after.keys = store.keys := by
    rw [MessageQueueStore.keys, rows]
    apply map_updateWhere
    intro row _ _
    rw [keeps.sessionId row, keeps.id row]
  constructor
  · rw [sequences]
    exact wellFormed.ordered
  · rw [sequences, last]
    exact wellFormed.bounded
  · rw [keys]
    exact wellFormed.once
  · intro sessionId
    apply Nat.le_trans _ (wellFormed.limited sessionId)
    rw [countPending, rows, updateWhere, List.countP_map]
    apply List.countP_mono_left
    intro row _ pending
    rw [Function.comp_apply] at pending
    split at pending
    · obtain ⟨isSession, isOpen⟩ := isPending_iff.mp pending
      rw [keeps.sessionId] at isSession
      exact isPending_iff.mpr ⟨isSession, keeps.pending row isOpen⟩
    · exact pending

theorem WellFormed.drop (rows : after.rows.Sublist store.rows)
    (last : after.lastSequence = store.lastSequence) : WellFormed after := by
  constructor
  · exact wellFormed.ordered.sublist (rows.map _)
  · intro sequence member
    rw [last]
    exact wellFormed.bounded sequence ((rows.map _).subset member)
  · exact wellFormed.once.sublist (rows.map _)
  · intro sessionId
    exact (rows.countP_le).trans (wellFormed.limited sessionId)

theorem WellFormed.append (rows : after.rows = store.rows ++ [row])
    (last : after.lastSequence = store.lastSequence + 1) (sequence : row.sequence = store.lastSequence + 1)
    (fresh : ∀ other ∈ store.rows, isRow row.sessionId row.id other = false)
    (room : store.countPending row.sessionId < CHAT_QUEUE_MAX_PENDING) : WellFormed after := by
  constructor
  · rw [MessageQueueStore.sequences, rows, List.map_append, List.map_singleton, List.pairwise_append]
    refine ⟨wellFormed.ordered, List.pairwise_singleton _ _, fun early isEarly late isLate => ?_⟩
    have bounded := (wellFormed.bounded early isEarly).2
    rw [List.mem_singleton] at isLate
    omega
  · intro number member
    rw [MessageQueueStore.sequences, rows, List.map_append, List.map_singleton, List.mem_append, List.mem_singleton] at member
    rw [last]
    cases member with
    | inl early =>
      have bounded := wellFormed.bounded number early
      omega
    | inr new => omega
  · rw [MessageQueueStore.keys, rows]
    refine nodup_map_snoc wellFormed.once fun other member same => ?_
    obtain ⟨sameSession, sameId⟩ := Prod.mk.inj same
    have notFresh : isRow row.sessionId row.id other = true := isRow_iff.mpr ⟨sameSession, sameId⟩
    rw [fresh other member] at notFresh
    cases notFresh
  · intro sessionId
    have before := wellFormed.limited sessionId
    rw [countPending, rows, List.countP_append, List.countP_singleton]
    rw [countPending] at before room
    split
    next isOwn =>
      obtain ⟨rfl, _⟩ := isPending_iff.mp isOwn
      omega
    · exact before

theorem WellFormed.effect {changed : Bool}
    (effect : QueueEffect store call changed after) : WellFormed after := by
  cases effect with
  | nothing => exact wellFormed
  | enqueued isNew fresh _ room =>
    apply wellFormed.append rfl rfl isNew.sequence
    · rw [isNew.sessionId, isNew.id]
      exact fresh
    · rw [isNew.sessionId]
      exact room
  | edited => exact wellFormed.rewrite (keepsKeys_editRow _) rfl rfl
  | removed => exact wellFormed.drop List.filter_sublist rfl
  | claimed => exact wellFormed.rewrite (keepsKeys_deliver _ _) rfl rfl
  | incorporated => exact wellFormed.drop List.filter_sublist rfl
  | begun => exact wellFormed.drop (.refl _) rfl
  | updated => exact wellFormed.drop (.refl _) rfl
  | cleared => exact wellFormed.drop (.refl _) rfl
  | noted => exact wellFormed.drop (.refl _) rfl
  | failed => exact wellFormed.drop (.refl _) rfl
  | paused => exact wellFormed.drop (.refl _) rfl

end

theorem wellFormed_run (formats : StringFormats) (calls : List QueueCall) :
    WellFormed (run (performCall formats) empty calls) :=
  run_invariant WellFormed (fun store call wellFormed => wellFormed.effect (queueEffect_of_call formats store call))
    wellFormed_empty calls

/-! ## What becomes of a message -/

/-- A row and what a call makes of it: only an edit changes its text, and only a claim hands it out. -/
inductive RowStep (store : MessageQueueStore) : QueueCall → QueueRow → QueueRow → Prop where
  | same (call : QueueCall) (row : QueueRow) : RowStep store call row row
  | edited {sessionId id : String} {content newContent : JsString} {revision : Nat} {row : QueueRow}
      (editable : isEditable store sessionId id row = true) (current : row.revision = revision) :
      RowStep store (.edit sessionId id content revision) row (editRow newContent row)
  | claimed {sessionId : String} {input : ChatQueueClaimInput} {nowUtc : String} {row : QueueRow}
      (taken : isTaken sessionId input.ids row = true) :
      RowStep store (.claim sessionId input nowUtc) row (deliver input nowUtc row)

/-- The calls that take a message out of the queue: its removal while it is pending and not part of a
force, and its incorporation once the history holds it. -/
inductive Withdraws (store : MessageQueueStore) : QueueCall → QueueRow → Prop where
  | removed {sessionId id : String} {row : QueueRow} (editable : isEditable store sessionId id row = true) :
      Withdraws store (.remove sessionId id) row
  | incorporated {history : SessionHistory} {sessionId requestId : String} {row : QueueRow}
      (isDone : isIncorporated history sessionId requestId row = true) :
      Withdraws store (.deleteIncorporated history sessionId requestId) row

inductive Adds (store : MessageQueueStore) : QueueCall → QueueRow → Prop where
  | enqueued {history : SessionHistory} {sessionId : String} {input : ChatQueueEnqueueInput} {nowUtc : String} {row : QueueRow}
      (isNew : IsNewRow store sessionId input row) : Adds store (.enqueue history sessionId input nowUtc) row

theorem RowStep.sequence {next : QueueRow} (step : RowStep store call row next) : next.sequence = row.sequence := by
  cases step <;> rfl

section

variable {changed : Bool} (wellFormed : WellFormed store) (effect : QueueEffect store call changed after)

include wellFormed effect

theorem row_after (member : row ∈ store.rows) :
    (∃ next ∈ after.rows, RowStep store call row next) ∨ (Withdraws store call row ∧ row.sequence ∉ after.sequences) := by
  cases effect with
  | enqueued => exact .inl ⟨row, List.mem_append_left _ member, .same _ _⟩
  | @edited sessionId id _ newContent _ own ownMember editable current =>
    by_cases isOwn : isRow sessionId id row = true
    · obtain rfl := wellFormed.row_unique member isOwn ownMember (isEditable_iff.mp editable).1
      refine .inl ⟨editRow newContent row, ?_, .edited editable current⟩
      exact mem_updateWhere.mpr ⟨row, member, by rw [if_pos isOwn]⟩
    · refine .inl ⟨row, ?_, .same _ _⟩
      exact mem_updateWhere.mpr ⟨row, member, by rw [if_neg isOwn]⟩
  | @removed sessionId id own ownMember editable =>
    by_cases isOwn : isRow sessionId id row = true
    · obtain rfl := wellFormed.row_unique member isOwn ownMember (isEditable_iff.mp editable).1
      refine .inr ⟨.removed editable, fun present => ?_⟩
      obtain ⟨other, otherMember, same⟩ := List.mem_map.mp present
      obtain ⟨isOther, left⟩ := List.mem_filter.mp otherMember
      obtain rfl := wellFormed.eq_of_sequence isOther member same
      simp [isOwn] at left
    · exact .inl ⟨row, List.mem_filter.mpr ⟨member, by simpa using isOwn⟩, .same _ _⟩
  | @claimed sessionId input nowUtc =>
    by_cases taken : isTaken sessionId input.ids row = true
    · refine .inl ⟨deliver input nowUtc row, ?_, .claimed taken⟩
      exact mem_updateWhere.mpr ⟨row, member, by rw [if_pos taken]⟩
    · refine .inl ⟨row, ?_, .same _ _⟩
      exact mem_updateWhere.mpr ⟨row, member, by rw [if_neg taken]⟩
  | @incorporated history sessionId requestId =>
    by_cases isDone : isIncorporated history sessionId requestId row = true
    · refine .inr ⟨.incorporated isDone, fun present => ?_⟩
      obtain ⟨other, otherMember, same⟩ := List.mem_map.mp present
      obtain ⟨isOther, left⟩ := List.mem_filter.mp otherMember
      obtain rfl := wellFormed.eq_of_sequence isOther member same
      simp [isDone] at left
    · exact .inl ⟨row, List.mem_filter.mpr ⟨member, by simpa using isDone⟩, .same _ _⟩
  | nothing => exact .inl ⟨row, member, .same _ _⟩
  | begun => exact .inl ⟨row, member, .same _ _⟩
  | updated => exact .inl ⟨row, member, .same _ _⟩
  | cleared => exact .inl ⟨row, member, .same _ _⟩
  | noted => exact .inl ⟨row, member, .same _ _⟩
  | failed => exact .inl ⟨row, member, .same _ _⟩
  | paused => exact .inl ⟨row, member, .same _ _⟩

theorem row_before {next : QueueRow} (member : next ∈ after.rows) :
    (∃ row ∈ store.rows, RowStep store call row next) ∨
      (Adds store call next ∧ after.lastSequence = store.lastSequence + 1) := by
  cases effect with
  | enqueued isNew =>
    cases List.mem_append.mp member with
    | inl early => exact .inl ⟨next, early, .same _ _⟩
    | inr new =>
      obtain rfl := List.mem_singleton.mp new
      exact .inr ⟨.enqueued isNew, rfl⟩
  | @edited sessionId id _ newContent _ own ownMember editable current =>
    obtain ⟨row, isRow', rfl⟩ := mem_updateWhere.mp member
    refine .inl ⟨row, isRow', ?_⟩
    split
    next isOwn =>
      obtain rfl := wellFormed.row_unique isRow' isOwn ownMember (isEditable_iff.mp editable).1
      exact .edited editable current
    · exact .same _ _
  | removed => exact .inl ⟨next, (List.mem_filter.mp member).1, .same _ _⟩
  | claimed =>
    obtain ⟨row, isRow', rfl⟩ := mem_updateWhere.mp member
    refine .inl ⟨row, isRow', ?_⟩
    split
    next taken => exact .claimed taken
    · exact .same _ _
  | incorporated => exact .inl ⟨next, (List.mem_filter.mp member).1, .same _ _⟩
  | nothing => exact .inl ⟨next, member, .same _ _⟩
  | begun => exact .inl ⟨next, member, .same _ _⟩
  | updated => exact .inl ⟨next, member, .same _ _⟩
  | cleared => exact .inl ⟨next, member, .same _ _⟩
  | noted => exact .inl ⟨next, member, .same _ _⟩
  | failed => exact .inl ⟨next, member, .same _ _⟩
  | paused => exact .inl ⟨next, member, .same _ _⟩

end

end MessageQueueStore

/-! ## Histories -/

section Histories

variable (formats : StringFormats)

/-- The message that a call added, as it answers it. -/
def enqueuedBy (store : MessageQueueStore) : QueueCall → List ChatQueuedMessage
  | .enqueue history sessionId input nowUtc =>
    match store.enqueue formats history sessionId input nowUtc with
    | .ok (.enqueued message, _) => [message]
    | _ => []
  | _ => []

def handedOutBy (store : MessageQueueStore) : QueueCall → List ChatQueuedMessage
  | .claim sessionId input nowUtc =>
    match store.claim formats sessionId input nowUtc with
    | .ok (messages, _) => messages
    | .error _ => []
  | _ => []

/-- The sequences of the messages that are gone after a call. -/
def withdrawnBy (store : MessageQueueStore) (call : QueueCall) : List Nat :=
  store.sequences.filter fun sequence => !(performCall formats store call).sequences.contains sequence

variable {formats} {store : MessageQueueStore} {call : QueueCall}

def QueueCall.isEnqueue : QueueCall → Bool
  | .enqueue .. => true
  | _ => false

variable {after : MessageQueueStore} {message : ChatQueuedMessage}

theorem lastSequence_kept {changed : Bool} (effect : QueueEffect store call changed after)
    (other : call.isEnqueue = false) : after.lastSequence = store.lastSequence := by
  cases effect with
  | enqueued => cases other
  | _ => rfl

theorem lastSequence_le (formats : StringFormats) (store : MessageQueueStore) (call : QueueCall) :
    store.lastSequence ≤ (performCall formats store call).lastSequence := by
  have effect := queueEffect_of_call formats store call
  generalize performCall formats store call = after at effect
  generalize answersChange formats store call = changed at effect
  cases effect with
  | enqueued => exact Nat.le_succ _
  | _ => exact Nat.le_refl _

theorem enqueued_sequences (formats : StringFormats) (store : MessageQueueStore) (call : QueueCall) :
    (enqueuedBy formats store call).map ChatQueuedMessage.sequence =
      List.range' (store.lastSequence + 1) ((performCall formats store call).lastSequence - store.lastSequence) := by
  cases call with
  | enqueue history sessionId input nowUtc =>
    simp only [enqueuedBy, performCall, committed]
    cases ended : store.enqueue formats history sessionId input nowUtc with
    | error failure => simp
    | ok answer =>
      obtain ⟨result, after⟩ := answer
      obtain ⟨effect, shown⟩ := enqueue_ok ended
      cases result with
      | enqueued message =>
        obtain ⟨row, member, isOwn, shows⟩ := shown
        -- The answer shows the row with the id, and no earlier row had it.
        cases effect with
        | enqueued isNew fresh =>
          cases List.mem_append.mp member with
          | inl early =>
            rw [fresh row early] at isOwn
            cases isOwn
          | inr new =>
            obtain rfl := List.mem_singleton.mp new
            have next := shows.sequence.trans isNew.sequence
            simp [next]
      | alreadyPersisted => cases effect; simp
      | persistedConflict => cases effect; simp
      | duplicate => cases effect; simp
      | conflict => cases effect; simp
      | overflow => cases effect; simp
      | missingSession => cases effect; simp
  | _ =>
    rw [lastSequence_kept (queueEffect_of_call formats store _) rfl, Nat.sub_self]
    rfl

section

variable (wellFormed : store.WellFormed) {sessionId nowUtc : String} {input : ChatQueueClaimInput}
  {messages : List ChatQueuedMessage}
  (ended : store.claim formats sessionId input nowUtc = .ok (messages, after))

include wellFormed ended

theorem claim_messages :
    List.Forall₂ (fun row message => Shows (deliver input nowUtc row) message)
      (store.rows.filter (isTaken sessionId input.ids)) messages := by
  obtain ⟨effect, claimed⟩ := claim_ok ended
  have afterWellFormed := wellFormed.effect effect
  apply List.forall₂_iff_get.mpr
  obtain ⟨sameLength, handedOut⟩ := List.forall₂_iff_get.mp claimed.handedOut
  refine ⟨sameLength, fun index isRowIndex isMessageIndex => ?_⟩
  obtain ⟨delivered, member, isOwn, shows⟩ := handedOut index isRowIndex isMessageIndex
  have takenMember := List.get_mem (store.rows.filter (isTaken sessionId input.ids)) ⟨index, isRowIndex⟩
  generalize (store.rows.filter (isTaken sessionId input.ids)).get ⟨index, isRowIndex⟩ = row at *
  obtain ⟨rowMember, taken⟩ := List.mem_filter.mp takenMember
  -- The row with this id that was read back is the row that was taken.
  have isDelivered : deliver input nowUtc row ∈ after.rows := by
    rw [claimed.rows]
    exact mem_updateWhere.mpr ⟨row, rowMember, by rw [if_pos taken]⟩
  have isOwnDelivered : isRow sessionId row.id (deliver input nowUtc row) = true := by
    simp only [isTaken, Bool.and_eq_true] at taken
    exact isRow_iff.mpr ⟨(isPending_iff.mp taken.1).1, rfl⟩
  rw [← afterWellFormed.row_unique member isOwn isDelivered isOwnDelivered]
  exact shows

theorem claim_sequences :
    messages.map ChatQueuedMessage.sequence = (store.rows.filter (isTaken sessionId input.ids)).map QueueRow.sequence := by
  have shown := claim_messages wellFormed ended
  clear ended
  generalize store.rows.filter (isTaken sessionId input.ids) = taken at shown
  induction shown with
  | nil => rfl
  | cons head _ ih => rw [List.map_cons, List.map_cons, head.sequence, ih,
      (keepsKeys_deliver input nowUtc).sequence]

end

def IsWaiting (store : MessageQueueStore) (message : ChatQueuedMessage) : Prop :=
  ∃ row ∈ store.rows, row.sequence = message.sequence ∧ isPending message.sessionId row = true

theorem IsWaiting.mem_sequences (waiting : IsWaiting store message) : message.sequence ∈ store.sequences := by
  obtain ⟨row, member, same, _⟩ := waiting
  rw [← same]
  exact MessageQueueStore.mem_sequences member

section

variable (wellFormed : store.WellFormed)

include wellFormed

theorem handedOut_waited (member : message ∈ handedOutBy formats store call) :
    IsWaiting store message ∧
      ∀ row ∈ (performCall formats store call).rows, row.sequence = message.sequence → row.state = .delivered := by
  cases call with
  | claim sessionId input nowUtc =>
    simp only [handedOutBy, performCall, committed] at member ⊢
    cases ended : store.claim formats sessionId input nowUtc with
    | error failure =>
      rw [ended] at member
      cases member
    | ok answer =>
      obtain ⟨messages, after⟩ := answer
      rw [ended] at member
      obtain ⟨row, isRow', shows⟩ := exists_of_forall₂ (claim_messages wellFormed ended) member
      obtain ⟨rowMember, taken⟩ := List.mem_filter.mp isRow'
      obtain ⟨effect, claimed⟩ := claim_ok ended
      have pending : isPending sessionId row = true := by
        simp only [isTaken, Bool.and_eq_true] at taken
        exact taken.1
      have sameSession : message.sessionId = sessionId := by
        rw [shows.sessionId]
        exact (isPending_iff.mp pending).1
      constructor
      · refine ⟨row, rowMember, shows.sequence.symm, ?_⟩
        rw [sameSession]
        exact pending
      · intro other otherMember sameSequence
        have isDelivered : deliver input nowUtc row ∈ after.rows := by
          rw [claimed.rows]
          exact mem_updateWhere.mpr ⟨row, rowMember, by rw [if_pos taken]⟩
        have same := (wellFormed.effect effect).eq_of_sequence otherMember isDelivered (sameSequence.trans shows.sequence)
        rw [same]
        rfl
  | _ => cases member

/-- What waits after a call waited before it or was just enqueued. -/
theorem waiting_before (waiting : IsWaiting (performCall formats store call) message) :
    IsWaiting store message ∨ store.lastSequence < message.sequence := by
  obtain ⟨next, member, same, isOpen⟩ := waiting
  cases row_before wellFormed (queueEffect_of_call formats store call) member with
  | inl early =>
    obtain ⟨row, rowMember, step⟩ := early
    refine .inl ⟨row, rowMember, by rw [← same, step.sequence], ?_⟩
    cases step with
    | same => exact isOpen
    | edited editable => exact isOpen
    | claimed taken => cases (isPending_iff.mp isOpen).2
  | inr new =>
    obtain ⟨added, _⟩ := new
    cases added with
    | enqueued isNew =>
      have sequence := isNew.sequence
      exact .inr (by omega)

/-- Whatever a run hands out waited at its start or was enqueued later. -/
theorem observed_handedOut (calls : List QueueCall)
    (member : message ∈ observed (performCall formats) (handedOutBy formats) store calls) :
    IsWaiting store message ∨ store.lastSequence < message.sequence := by
  induction calls generalizing store with
  | nil => cases member
  | cons call later ih =>
    cases List.mem_append.mp member with
    | inl now => exact .inl (handedOut_waited wellFormed now).1
    | inr laterOn =>
      have afterWellFormed := wellFormed.effect (queueEffect_of_call formats store call)
      cases ih afterWellFormed laterOn with
      | inl waiting => exact waiting_before wellFormed waiting
      | inr new => exact .inr (Nat.lt_of_le_of_lt (lastSequence_le formats store call) new)

theorem handedOutBy_nodup (call : QueueCall) :
    ((handedOutBy formats store call).map ChatQueuedMessage.sequence).Pairwise (· < ·) := by
  cases call with
  | claim sessionId input nowUtc =>
    simp only [handedOutBy]
    cases ended : store.claim formats sessionId input nowUtc with
    | error failure => exact .nil
    | ok answer =>
      obtain ⟨messages, after⟩ := answer
      rw [claim_sequences wellFormed ended]
      exact wellFormed.ordered.sublist (List.filter_sublist.map _)
  | _ => exact .nil

theorem observed_handedOut_nodup (calls : List QueueCall) :
    ((observed (performCall formats) (handedOutBy formats) store calls).map ChatQueuedMessage.sequence).Nodup := by
  induction calls generalizing store with
  | nil => exact .nil
  | cons call later ih =>
    have afterWellFormed := wellFormed.effect (queueEffect_of_call formats store call)
    rw [observed, List.map_append, List.nodup_append]
    refine ⟨(handedOutBy_nodup wellFormed call).imp fun lower => Nat.ne_of_lt lower,
      ih afterWellFormed, fun early isEarly late isLate same => ?_⟩
    obtain ⟨now, isNow, rfl⟩ := List.mem_map.mp isEarly
    obtain ⟨laterOn, isLater, rfl⟩ := List.mem_map.mp isLate
    obtain ⟨waited, delivered⟩ := handedOut_waited wellFormed isNow
    have bounded := wellFormed.bounded _ waited.mem_sequences
    have grown := lastSequence_le formats store call
    cases observed_handedOut afterWellFormed later isLater with
    | inl waiting =>
      obtain ⟨row, member, sameSequence, isOpen⟩ := waiting
      have isDelivered := delivered row member (sameSequence.trans same.symm)
      rw [(isPending_iff.mp isOpen).2] at isDelivered
      cases isDelivered
    | inr new => omega

end

/-! ## Accounts -/

theorem added_present {changed : Bool} (effect : QueueEffect store call changed after) {sequence : Nat}
    (new : store.lastSequence < sequence) (bounded : sequence ≤ after.lastSequence) : sequence ∈ after.sequences := by
  cases effect with
  | @enqueued history sessionId input nowUtc row isNew =>
    have givenOut := isNew.sequence
    have same : row.sequence = sequence := by
      change sequence ≤ store.lastSequence + 1 at bounded
      omega
    exact List.mem_map.mpr ⟨row, List.mem_append_right _ List.mem_cons_self, same⟩
  | _ => exact absurd bounded (Nat.not_le_of_lt new)

/-- Nothing appears but what a call enqueues, and nothing is lost but what it withdraws. -/
theorem accounted_call (wellFormed : store.WellFormed) (call : QueueCall) :
    ((performCall formats store call).sequences ++ withdrawnBy formats store call).Perm
      (store.sequences ++ (enqueuedBy formats store call).map ChatQueuedMessage.sequence) := by
  have effect := queueEffect_of_call formats store call
  have afterWellFormed := wellFormed.effect effect
  rw [enqueued_sequences]
  have grown := lastSequence_le formats store call
  apply (List.perm_ext_iff_of_nodup _ _).mpr
  · intro sequence
    simp only [List.mem_append, withdrawnBy, List.mem_filter, Bool.not_eq_true', List.contains_eq_mem, decide_eq_false_iff_not,
      List.mem_range'_1]
    constructor
    · rintro (after | ⟨before, _⟩)
      · have bounded := afterWellFormed.bounded sequence after
        obtain ⟨next, member, rfl⟩ := List.mem_map.mp after
        cases row_before wellFormed effect member with
        | inl early =>
          obtain ⟨row, rowMember, step⟩ := early
          rw [step.sequence]
          exact .inl (mem_sequences rowMember)
        | inr new =>
          obtain ⟨added, _⟩ := new
          cases added with
          | enqueued isNew =>
            have next := isNew.sequence
            exact .inr (by omega)
      · exact .inl before
    · rintro (before | inRange)
      · by_cases after : sequence ∈ (performCall formats store call).sequences
        · exact .inl after
        · exact .inr ⟨before, after⟩
      · exact .inl (added_present effect (by omega) (by omega))
  · apply List.nodup_append.mpr
    refine ⟨afterWellFormed.sequences_nodup, wellFormed.sequences_nodup.filter _, fun early isEarly late isLate same => ?_⟩
    have gone := (List.mem_filter.mp isLate).2
    rw [← same] at gone
    simp [isEarly] at gone
  · apply List.nodup_append.mpr
    refine ⟨wellFormed.sequences_nodup, List.nodup_range', fun early isEarly late isLate same => ?_⟩
    have bounded := wellFormed.bounded early isEarly
    have inRange := List.mem_range'_1.mp isLate
    omega

theorem accounted (wellFormed : store.WellFormed) (calls : List QueueCall) :
    ((run (performCall formats) store calls).sequences ++ observed (performCall formats) (withdrawnBy formats) store calls).Perm
      (store.sequences ++ (observed (performCall formats) (enqueuedBy formats) store calls).map ChatQueuedMessage.sequence) := by
  induction calls generalizing store with
  | nil => simp [observed]
  | cons call later ih =>
    have now := @accounted_call formats store wellFormed call
    have rest := ih (wellFormed.effect (queueEffect_of_call formats store call))
    rw [run_cons, observed, observed, List.map_append]
    -- What is withdrawn now is set aside while the rest of the run is accounted for.
    refine (List.perm_append_comm.append_left _).trans ?_
    rw [← List.append_assoc, ← List.append_assoc]
    refine (rest.append_right _).trans (List.Perm.trans ?_ (now.append_right _))
    rw [List.append_assoc, List.append_assoc]
    exact List.perm_append_comm.append_left _

theorem enqueued_run (store : MessageQueueStore) (calls : List QueueCall) :
    store.lastSequence ≤ (run (performCall formats) store calls).lastSequence ∧
    (observed (performCall formats) (enqueuedBy formats) store calls).map ChatQueuedMessage.sequence =
      List.range' (store.lastSequence + 1) ((run (performCall formats) store calls).lastSequence - store.lastSequence) := by
  induction calls generalizing store with
  | nil => simp [observed]
  | cons call later ih =>
    obtain ⟨laterGrown, rest⟩ := ih (performCall formats store call)
    have grown := lastSequence_le formats store call
    rw [run_cons, observed, List.map_append, rest, enqueued_sequences]
    refine ⟨by omega, ?_⟩
    have middle : (performCall formats store call).lastSequence + 1 =
        store.lastSequence + 1 + ((performCall formats store call).lastSequence - store.lastSequence) := by omega
    rw [middle, List.range'_append_1]
    congr 1
    omega

end Histories

/-! ## Revisions -/

def QueueCall.sessionId : QueueCall → String
  | .enqueue _ sessionId _ _ => sessionId
  | .edit sessionId _ _ _ => sessionId
  | .remove sessionId _ => sessionId
  | .claim sessionId _ _ => sessionId
  | .deleteIncorporated _ sessionId _ => sessionId
  | .beginForce _ sessionId _ _ => sessionId
  | .updateForce sessionId _ _ _ => sessionId
  | .clearForce sessionId _ => sessionId
  | .failForce sessionId _ _ => sessionId
  | .setPaused sessionId _ => sessionId

/-- What the queue of a session shows besides its revision. -/
structure QueueView where
  rows : List QueueRow
  paused : Bool
  force : Option ChatMessageQueueForceState
  deriving DecidableEq

def MessageQueueStore.view (store : MessageQueueStore) (sessionId : String) : QueueView :=
  ⟨store.rows.filter fun row => row.sessionId == sessionId, (store.metadata sessionId).paused, (store.metadata sessionId).force⟩

section Revisions

variable {store after : MessageQueueStore} {call : QueueCall} {changed : Bool} {sessionId : String}

def rowsOf (store : MessageQueueStore) (sessionId : String) : List QueueRow :=
  store.rows.filter fun row => row.sessionId == sessionId

/-- The call wrote the queue of one session, with the next revision. -/
structure QueueWrites (store after : MessageQueueStore) (own : String) : Prop where
  metadata : ∃ state, NextMetadata store own state ∧
    ∀ other, after.metadata other = if other = own then state else store.metadata other
  rows : ∀ other, other ≠ own → rowsOf after other = rowsOf store other

/-- Nothing of any queue was written. -/
structure Leaves (store after : MessageQueueStore) : Prop where
  metadata : ∀ other, after.metadata other = store.metadata other
  rows : after.rows = store.rows

section

variable {own other : String} (different : other ≠ own)

include different

theorem session_other {row : QueueRow} (isOwn : row.sessionId = own) :
    (row.sessionId == other) = false := by
  rw [isOwn]
  exact beq_false_of_ne different.symm

theorem rowsOf_update {selects : QueueRow → Bool}
    {rewrite : QueueRow → QueueRow} (isOwn : ∀ row, selects row = true → row.sessionId = own) (keeps : KeepsKeys rewrite)
    (rows : after.rows = updateWhere selects rewrite store.rows) : rowsOf after other = rowsOf store other := by
  unfold rowsOf
  rw [rows]
  apply filter_updateWhere_of_disjoint
  intro row _ selected
  have outside := session_other different (isOwn row selected)
  rw [keeps.sessionId]
  exact ⟨outside, outside⟩

theorem rowsOf_drop {selects : QueueRow → Bool}
    (isOwn : ∀ row, selects row = true → row.sessionId = own)
    (rows : after.rows = store.rows.filter fun row => !selects row) : rowsOf after other = rowsOf store other := by
  unfold rowsOf
  rw [rows, List.filter_filter]
  apply List.filter_congr
  intro row _
  cases selected : selects row with
  | false => simp
  | true =>
    rw [session_other different (isOwn row selected)]
    rfl

end

theorem isTaken_session {own : String} {ids : Option (List String)} {row : QueueRow} (taken : isTaken own ids row = true) :
    row.sessionId = own := by
  simp only [isTaken, Bool.and_eq_true] at taken
  exact (isPending_iff.mp taken.1).1

theorem isIncorporated_session {history : SessionHistory} {own requestId : String} {row : QueueRow}
    (isDone : isIncorporated history own requestId row = true) : row.sessionId = own := by
  simp only [isIncorporated, isDelivered, Bool.and_eq_true, beq_iff_eq] at isDone
  exact isDone.1.1.1

theorem writes_bump {changedRows : MessageQueueStore} (own : String) (paused : Option Bool)
    (metadata : ∀ other, changedRows.metadata other = store.metadata other)
    (rows : ∀ other, other ≠ own → rowsOf changedRows other = rowsOf store other) :
    QueueWrites store (changedRows.bump own paused) own := by
  refine ⟨⟨⟨(store.metadata own).revision + 1, paused.getD (store.metadata own).paused, (store.metadata own).force⟩, rfl,
    fun other => ?_⟩, rows⟩
  rw [metadata_bump, metadata own, metadata other]

theorem writes_metadata {saved : MessageQueueStore} {own : String} {state : QueueMetadata} (next : NextMetadata store own state)
    (metadata : ∀ other, saved.metadata other = store.metadata other) (rows : saved.rows = store.rows) :
    QueueWrites store (saved.writeMetadata own state) own := by
  refine ⟨⟨state, next, fun other => ?_⟩, fun other _ => ?_⟩
  · rw [metadata_writeMetadata, metadata other]
  · rw [rowsOf, rows_writeMetadata, rows, rowsOf]

section

variable (effect : QueueEffect store call changed after)

include effect

theorem effect_writes :
    (changed = true ∧ QueueWrites store after call.sessionId) ∨ (changed = false ∧ Leaves store after) := by
  cases effect with
  | nothing => exact .inr ⟨rfl, fun _ => rfl, rfl⟩
  | @enqueued history own input nowUtc row isNew =>
    refine .inl ⟨rfl, writes_bump own none (fun _ => rfl) fun other different => ?_⟩
    have outside := session_other different isNew.sessionId
    simp [rowsOf, outside]
  | @edited own id =>
    refine .inl ⟨rfl, writes_bump own none (fun _ => rfl) fun other different => ?_⟩
    exact rowsOf_update different (fun row isOwn => (isRow_iff.mp isOwn).1) (keepsKeys_editRow _) rfl
  | @removed own id =>
    refine .inl ⟨rfl, writes_bump own none (fun _ => rfl) fun other different => ?_⟩
    exact rowsOf_drop different (fun row isOwn => (isRow_iff.mp isOwn).1) rfl
  | @claimed own input =>
    refine .inl ⟨rfl, writes_bump own none (fun _ => rfl) fun other different => ?_⟩
    exact rowsOf_update different (fun row taken => isTaken_session taken) (keepsKeys_deliver _ _) rfl
  | @incorporated history own =>
    refine .inl ⟨rfl, writes_bump own none (fun _ => rfl) fun other different => ?_⟩
    exact rowsOf_drop different (fun row isDone => isIncorporated_session isDone) rfl
  | begun next => exact .inl ⟨rfl, writes_metadata next (fun _ => rfl) rfl⟩
  | updated next => exact .inl ⟨rfl, writes_metadata next (fun _ => rfl) rfl⟩
  | cleared next => exact .inl ⟨rfl, writes_metadata next (fun _ => rfl) rfl⟩
  | noted => exact .inr ⟨rfl, fun _ => rfl, rfl⟩
  | failed next => exact .inl ⟨rfl, writes_metadata next (fun _ => rfl) rfl⟩
  | paused own paused => exact .inl ⟨rfl, writes_bump own (some paused) (fun _ => rfl) fun _ _ => rfl⟩

theorem revision_step (sessionId : String) :
    (after.metadata sessionId).revision =
      (store.metadata sessionId).revision + (if changed = true ∧ call.sessionId = sessionId then 1 else 0) := by
  cases effect_writes effect with
  | inl writes =>
    obtain ⟨rfl, writes⟩ := writes
    obtain ⟨state, next, metadata⟩ := writes.metadata
    rw [metadata sessionId]
    by_cases own : sessionId = call.sessionId
    · rw [if_pos own, if_pos ⟨rfl, own.symm⟩, own]
      exact next
    · rw [if_neg own, if_neg fun both => own both.2.symm, Nat.add_zero]
  | inr leaves =>
    obtain ⟨rfl, leaves⟩ := leaves
    rw [leaves.metadata, if_neg (by simp), Nat.add_zero]

/-- A call shows only in its own session, and only when it tells of a change. -/
theorem view_kept (other : ¬ (changed = true ∧ call.sessionId = sessionId)) :
    after.view sessionId = store.view sessionId := by
  have same : rowsOf after sessionId = rowsOf store sessionId ∧ after.metadata sessionId = store.metadata sessionId := by
    cases effect_writes effect with
    | inl writes =>
      obtain ⟨isChange, writes⟩ := writes
      obtain ⟨state, _, metadata⟩ := writes.metadata
      have different : sessionId ≠ call.sessionId := fun own => other ⟨isChange, own.symm⟩
      rw [metadata sessionId, if_neg different]
      exact ⟨writes.rows sessionId different, rfl⟩
    | inr leaves =>
      obtain ⟨_, leaves⟩ := leaves
      rw [rowsOf, leaves.rows, leaves.metadata]
      exact ⟨rfl, rfl⟩
  unfold rowsOf at same
  rw [MessageQueueStore.view, same.1, same.2, MessageQueueStore.view]

end

end Revisions

/-! ## The contract -/

/-- What a call does to the messages and to the revisions. -/
structure CallContract (formats : StringFormats) (store : MessageQueueStore) (call : QueueCall) : Prop where
  kept : ∀ row ∈ store.rows, (∃ next ∈ (performCall formats store call).rows, RowStep store call row next) ∨
    (Withdraws store call row ∧ row.sequence ∉ (performCall formats store call).sequences)
  origin : ∀ next ∈ (performCall formats store call).rows, (∃ row ∈ store.rows, RowStep store call row next) ∨
    Adds store call next
  revision : ∀ sessionId, ((performCall formats store call).metadata sessionId).revision =
    (store.metadata sessionId).revision +
      (if answersChange formats store call = true ∧ call.sessionId = sessionId then 1 else 0)
  shown : ∀ sessionId, (performCall formats store call).view sessionId ≠ store.view sessionId →
    answersChange formats store call = true ∧ call.sessionId = sessionId

/-- A claim hands out the rows it asks for in the order of the queue; a claim for all of them leaves
nothing behind that a later claim could hand out. -/
structure ClaimContract (formats : StringFormats) (store : MessageQueueStore) (sessionId : String) (input : ChatQueueClaimInput)
    (nowUtc : String) (messages : List ChatQueuedMessage) : Prop where
  handed : List.Forall₂ (fun row message => Shows (deliver input nowUtc row) message)
    (store.rows.filter (isTaken sessionId input.ids)) messages
  ordered : (messages.map ChatQueuedMessage.sequence).Pairwise (· < ·)
  complete : ∀ ids ∈ input.ids, ids.Nodup ∧ messages.length = ids.length
  drained : input.ids = none → ∀ later, ∀ message ∈ observed (performCall formats) (handedOutBy formats)
    (performCall formats store (.claim sessionId input nowUtc)) later,
      message.sessionId = sessionId → store.lastSequence < message.sequence

structure QueueContract (formats : StringFormats) (calls : List QueueCall) (store : MessageQueueStore) : Prop where
  wellFormed : store.WellFormed
  /-- Each message that was enqueued has the next sequence. -/
  enqueued : (observed (performCall formats) (enqueuedBy formats) empty calls).map ChatQueuedMessage.sequence =
    List.range' 1 store.lastSequence
  /-- Each of them is in the queue, once, or was withdrawn, once. -/
  accounted : (store.sequences ++ observed (performCall formats) (withdrawnBy formats) empty calls).Perm
    ((observed (performCall formats) (enqueuedBy formats) empty calls).map ChatQueuedMessage.sequence)
  handedOut : ((observed (performCall formats) (handedOutBy formats) empty calls).map ChatQueuedMessage.sequence).Nodup
  next : ∀ call, CallContract formats store call
  claims : ∀ sessionId input nowUtc messages after, store.claim formats sessionId input nowUtc = .ok (messages, after) →
    ClaimContract formats store sessionId input nowUtc messages
  again : ∀ history sessionId input nowUtc,
    (∃ row ∈ store.rows, isRow sessionId input.id row = true) ∨ (∃ persisted ∈ history.messages, persisted.id = input.id) →
      performCall formats store (.enqueue history sessionId input nowUtc) = store
  pinned : ∀ sessionId id, store.isForceSnapshot sessionId id = true → ∀ content revision,
    performCall formats store (.edit sessionId id content revision) = store ∧
      performCall formats store (.remove sessionId id) = store

section Contract

variable {formats : StringFormats} {store : MessageQueueStore}

theorem callContract (wellFormed : store.WellFormed) (call : QueueCall) : CallContract formats store call := by
  have effect := queueEffect_of_call formats store call
  constructor
  · intro row member
    exact row_after wellFormed effect member
  · intro next member
    exact (row_before wellFormed effect member).imp_right And.left
  · exact revision_step effect
  · intro sessionId different
    by_contra other
    exact different (view_kept effect other)

variable {sessionId : String} {messages : List ChatQueuedMessage} {nowUtc : String}

theorem claimed_all {input : ChatQueueClaimInput} {after : MessageQueueStore}
    (ended : store.claim formats sessionId input nowUtc = .ok (messages, after)) (all : input.ids = none)
    {message : ChatQueuedMessage} (own : message.sessionId = sessionId) : ¬ IsWaiting after message := by
  rintro ⟨row, member, _, isOpen⟩
  obtain ⟨isSession, isPendingState⟩ := isPending_iff.mp isOpen
  rw [(claim_ok ended).2.rows] at member
  obtain ⟨before, beforeMember, rfl⟩ := mem_updateWhere.mp member
  by_cases taken : isTaken sessionId input.ids before = true
  · rw [if_pos taken] at isPendingState
    cases isPendingState
  · rw [if_neg taken] at isPendingState isSession
    apply taken
    rw [own] at isSession
    simp [isTaken, all, isPending_iff, isSession, isPendingState]

theorem claimContract (wellFormed : store.WellFormed) {input : ChatQueueClaimInput} {after : MessageQueueStore}
    (ended : store.claim formats sessionId input nowUtc = .ok (messages, after)) :
    ClaimContract formats store sessionId input nowUtc messages := by
  obtain ⟨effect, claimed⟩ := claim_ok ended
  have isAfter : performCall formats store (.claim sessionId input nowUtc) = after := by
    rw [performCall, ended]
    rfl
  constructor
  · exact claim_messages wellFormed ended
  · rw [claim_sequences wellFormed ended]
    exact wellFormed.ordered.sublist (List.filter_sublist.map _)
  · intro ids given
    obtain ⟨distinct, sameLength⟩ := claimed.complete ids given
    exact ⟨distinct, claimed.handedOut.length_eq.symm.trans sameLength⟩
  · intro all later message member own
    rw [isAfter] at member
    cases observed_handedOut (wellFormed.effect effect) later member with
    | inl waiting => exact absurd waiting (claimed_all ended all own)
    | inr new => rwa [lastSequence_kept effect rfl] at new

theorem enqueue_again {history : SessionHistory} {input : ChatQueueEnqueueInput}
    (known : (∃ row ∈ store.rows, isRow sessionId input.id row = true) ∨ (∃ persisted ∈ history.messages, persisted.id = input.id)) :
    performCall formats store (.enqueue history sessionId input nowUtc) = store := by
  have effect := queueEffect_of_call formats store (.enqueue history sessionId input nowUtc)
  generalize performCall formats store (.enqueue history sessionId input nowUtc) = after at effect
  generalize answersChange formats store (.enqueue history sessionId input nowUtc) = changed at effect
  cases effect with
  | nothing => rfl
  | enqueued _ fresh notPersisted =>
    cases known with
    | inl queued =>
      obtain ⟨row, member, isOwn⟩ := queued
      rw [fresh row member] at isOwn
      cases isOwn
    | inr persisted =>
      obtain ⟨row, member, same⟩ := persisted
      exact absurd same (notPersisted row member)

theorem edit_pinned {id : String} (pinned : store.isForceSnapshot sessionId id = true) (content : JsString)
    (revision : Nat) : performCall formats store (.edit sessionId id content revision) = store := by
  have effect := queueEffect_of_call formats store (.edit sessionId id content revision)
  generalize performCall formats store (.edit sessionId id content revision) = after at effect
  generalize answersChange formats store (.edit sessionId id content revision) = changed at effect
  cases effect with
  | nothing => rfl
  | edited _ editable =>
    rw [(isEditable_iff.mp editable).2.2] at pinned
    cases pinned

theorem remove_pinned {id : String} (pinned : store.isForceSnapshot sessionId id = true) :
    performCall formats store (.remove sessionId id) = store := by
  have effect := queueEffect_of_call formats store (.remove sessionId id)
  generalize performCall formats store (.remove sessionId id) = after at effect
  generalize answersChange formats store (.remove sessionId id) = changed at effect
  cases effect with
  | nothing => rfl
  | removed _ editable =>
    rw [(isEditable_iff.mp editable).2.2] at pinned
    cases pinned

end Contract

/-- The messages of a queue that started empty, over every run. -/
theorem messageQueue_contract (formats : StringFormats) (calls : List QueueCall) :
    QueueContract formats calls (run (performCall formats) empty calls) := by
  have wellFormed := wellFormed_run formats calls
  have sequences := (@enqueued_run formats empty calls).2
  constructor
  · exact wellFormed
  · exact sequences
  · exact accounted wellFormed_empty calls
  · exact observed_handedOut_nodup wellFormed_empty calls
  · exact callContract wellFormed
  · intro sessionId input nowUtc messages after ended
    exact claimContract wellFormed ended
  · intro history sessionId input nowUtc known
    exact enqueue_again known
  · intro sessionId id pinned content revision
    exact ⟨edit_pinned pinned content revision, remove_pinned pinned⟩

/-! ## QueueWrites that show nothing, and a message that comes back

A force may be written again with what it says already, and the id of a removed message is free. -/

def sampleSession : String := "0b0e7c9a-6f3d-4b52-9a34-1c2d3e4f5a6b"

def sampleMessage : ChatQueueEnqueueInput where
  id := "5d3f1f0e-2c4b-4a6d-8e7f-9a0b1c2d3e4f"
  afterOperationId := none
  content := utf16 "go on"
  images := []
  options := .object [(utf16 "operationKind", .string (utf16 "message"))]

def sampleForce : ChatMessageQueueForceState where
  id := "7a6b5c4d-3e2f-4a1b-8c9d-0e1f2a3b4c5d"
  operationId := none
  phase := .stopping
  messageIds := []
  successorOperationId := "9f8e7d6c-5b4a-4392-a1b0-c9d8e7f6a5b4"
  failureDetail := none

def enqueueSample : QueueCall := .enqueue ⟨true, []⟩ sampleSession sampleMessage "2026-01-01T00:00:00.000Z"

def failSample : QueueCall := .failForce sampleSession sampleForce "stopped"

/-- What `failSample` wrote. -/
def updateSample : QueueCall := .updateForce sampleSession sampleForce.id .failed (some "stopped")

/-- The queue of the sample session after some calls: its revision, and what else it shows. -/
def sampleQueue (calls : List QueueCall) : Nat × QueueView :=
  let store := run (performCall sampleFormats) empty calls
  ((store.metadata sampleSession).revision, store.view sampleSession)

theorem messageQueue_writes_again :
    ((sampleQueue [failSample, updateSample]).2 = (sampleQueue [failSample]).2 ∧
      (sampleQueue [failSample, updateSample]).1 ≠ (sampleQueue [failSample]).1) ∧
    (sampleQueue [enqueueSample, .remove sampleSession sampleMessage.id, enqueueSample]).2 ≠
      (sampleQueue [enqueueSample, .remove sampleSession sampleMessage.id]).2 := by
  decide +kernel

end SiftKit.Chat
