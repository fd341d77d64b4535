import SiftKit.Chat.MessageQueue

/-! # What a call does to the queue

One inversion for all calls: a call that takes effect adds a message at the end, rewrites or
drops some rows, or rewrites the metadata of its session; every other call changes nothing.
-/

namespace SiftKit.Chat

open SiftKit.Json SiftKit.Failure SiftKit.Tables MessageQueueStore

inductive QueueCall where
  | enqueue (history : SessionHistory) (sessionId : String) (input : ChatQueueEnqueueInput) (nowUtc : String)
  | edit (sessionId id : String) (content : JsString) (revision : Nat)
  | remove (sessionId id : String)
  | claim (sessionId : String) (input : ChatQueueClaimInput) (nowUtc : String)
  | deleteIncorporated (history : SessionHistory) (sessionId requestId : String)
  | beginForce (history : SessionHistory) (sessionId : String) (request : ChatQueueForceRequest) (successorOperationId : String)
  | updateForce (sessionId forceId : String) (phase : ForcePhase) (failureDetail : Option String)
  | clearForce (sessionId forceId : String)
  | failForce (sessionId : String) (force : ChatMessageQueueForceState) (error : String)
  | setPaused (sessionId : String) (paused : Bool)

def performCall (formats : StringFormats) (store : MessageQueueStore) : QueueCall → MessageQueueStore
  | .enqueue history sessionId input nowUtc => committed store (store.enqueue formats history sessionId input nowUtc)
  | .edit sessionId id content revision => committed store (store.edit formats sessionId id content revision)
  | .remove sessionId id => committed store (store.remove formats sessionId id)
  | .claim sessionId input nowUtc => committed store (store.claim formats sessionId input nowUtc)
  | .deleteIncorporated history sessionId requestId =>
    committed store (store.deleteIncorporated formats history sessionId requestId)
  | .beginForce history sessionId request successorOperationId =>
    committed store (store.beginForce formats history sessionId request successorOperationId)
  | .updateForce sessionId forceId phase failureDetail =>
    committed store (store.updateForce formats sessionId forceId phase failureDetail)
  | .clearForce sessionId forceId => committed store (store.clearForce formats sessionId forceId)
  | .failForce sessionId force error =>
    committed store ((store.failForce formats sessionId force error).map fun after => ((), after))
  | .setPaused sessionId paused => store.setPaused sessionId paused

/-! ## Answers -/

/-- The message was added. -/
def ChatQueueEnqueueResult.changed : ChatQueueEnqueueResult → Bool
  | .enqueued _ => true
  | _ => false

def ChatQueueMutationResult.changed : ChatQueueMutationResult → Bool
  | .applied _ => true
  | _ => false

def ChatQueueForceResult.changed : ChatQueueForceResult → Bool
  | .started _ => true
  | _ => false

def answered {Result : Type} (changed : Result → Bool) : Except Thrown (Result × MessageQueueStore) → Bool
  | .ok answer => changed answer.1
  | .error _ => false

def answersChange (formats : StringFormats) (store : MessageQueueStore) : QueueCall → Bool
  | .enqueue history sessionId input nowUtc =>
    answered ChatQueueEnqueueResult.changed (store.enqueue formats history sessionId input nowUtc)
  | .edit sessionId id content revision => answered ChatQueueMutationResult.changed (store.edit formats sessionId id content revision)
  | .remove sessionId id => answered ChatQueueMutationResult.changed (store.remove formats sessionId id)
  | .claim sessionId input nowUtc => answered (fun messages => !messages.isEmpty) (store.claim formats sessionId input nowUtc)
  | .deleteIncorporated history sessionId requestId =>
    answered (fun count => 0 < count) (store.deleteIncorporated formats history sessionId requestId)
  | .beginForce history sessionId request successorOperationId =>
    answered ChatQueueForceResult.changed (store.beginForce formats history sessionId request successorOperationId)
  | .updateForce sessionId forceId phase failureDetail =>
    answered id (store.updateForce formats sessionId forceId phase failureDetail)
  | .clearForce sessionId forceId => answered id (store.clearForce formats sessionId forceId)
  -- `failForce` answers nothing: it changes the queue unless another force is under way.
  | .failForce sessionId force error =>
    answered (fun _ => (store.metadata sessionId).force.all fun current => current.id == force.id)
      ((store.failForce formats sessionId force error).map fun after => ((), after))
  | .setPaused _ _ => true

/-! ## Reading rows -/

variable {row : QueueRow}

section Rows

variable {formats : StringFormats} {store : MessageQueueStore} {sessionId id : String}

theorem isRow_iff : isRow sessionId id row = true ↔ row.sessionId = sessionId ∧ row.id = id := by
  simp [isRow]

theorem isPending_iff : isPending sessionId row = true ↔ row.sessionId = sessionId ∧ row.state = .pending := by
  simp [isPending]

/-- What a message keeps of its row. -/
structure Shows (row : QueueRow) (message : ChatQueuedMessage) : Prop where
  sequence : message.sequence = row.sequence
  sessionId : message.sessionId = row.sessionId
  id : message.id = row.id
  content : message.content = row.content
  revision : message.revision = row.revision
  state : message.state = row.state
  deliveredRequestId : message.deliveredRequestId = row.deliveredRequestId

variable {message : ChatQueuedMessage}

theorem toMessage_shows (read : toMessage formats row = .ok message) : Shows row message := by
  simp only [toMessage, bind_eq_ok, pure_eq_ok] at read
  obtain ⟨_, _, images, _, options, _, _, _, rfl⟩ := read
  exact ⟨rfl, rfl, rfl, rfl, rfl, rfl, rfl⟩

theorem mapM_shows {rows : List QueueRow} {messages : List ChatQueuedMessage}
    (read : rows.mapM (toMessage formats) = .ok messages) : List.Forall₂ Shows rows messages :=
  (mapM_eq_ok.mp read).imp fun _ _ shown => toMessage_shows shown

theorem readRow_some (read : store.readRow formats sessionId id = .ok (some message)) :
    ∃ row ∈ store.rows, isRow sessionId id row = true ∧ Shows row message := by
  unfold readRow at read
  split at read
  next row found =>
    cases shown : toMessage formats row with
    | error failure => rw [shown] at read; cases read
    | ok other =>
      rw [shown] at read
      cases read
      exact ⟨row, List.mem_of_find?_eq_some found, List.find?_some found, toMessage_shows shown⟩
  · cases read

theorem readRow_none (read : store.readRow formats sessionId id = .ok none) : ∀ row ∈ store.rows, isRow sessionId id row = false := by
  unfold readRow at read
  split at read
  next row found =>
    cases shown : toMessage formats row with
    | error failure => rw [shown] at read; cases read
    | ok other => rw [shown] at read; cases read
  next absent => simpa using List.find?_eq_none.mp absent

theorem requireRow_ok (read : store.requireRow formats sessionId id = .ok message) :
    ∃ row ∈ store.rows, isRow sessionId id row = true ∧ Shows row message := by
  simp only [requireRow, bind_eq_ok] at read
  obtain ⟨found, isFound, read⟩ := read
  cases found with
  | none => cases read
  | some other =>
    cases read
    exact readRow_some isFound

end Rows

/-! ## Metadata -/

section Metadata

variable (store : MessageQueueStore) (sessionId other : String)

variable (state : QueueMetadata) (paused : Option Bool) (force : ChatMessageQueueForceState)

@[simp] theorem metadata_writeMetadata :
    (store.writeMetadata sessionId state).metadata other = if other = sessionId then state else store.metadata other := by
  unfold metadata writeMetadata
  rw [OrderedMap.get?_set]
  split <;> rfl

@[simp] theorem metadata_bump :
    (store.bump sessionId paused).metadata other =
      if other = sessionId then
        ⟨(store.metadata sessionId).revision + 1, paused.getD (store.metadata sessionId).paused, (store.metadata sessionId).force⟩
      else store.metadata other :=
  metadata_writeMetadata store sessionId other _

@[simp] theorem metadata_saveReceipt :
    (store.saveReceipt sessionId force).metadata other = store.metadata other := rfl

@[simp] theorem rows_writeMetadata : (store.writeMetadata sessionId state).rows = store.rows := rfl

@[simp] theorem lastSequence_bump : (store.bump sessionId paused).lastSequence = store.lastSequence := rfl

end Metadata

/-! ## Effects -/

/-- The row of a message that was just enqueued. -/
structure IsNewRow (store : MessageQueueStore) (sessionId : String) (input : ChatQueueEnqueueInput) (row : QueueRow) : Prop where
  sequence : row.sequence = store.lastSequence + 1
  sessionId : row.sessionId = sessionId
  id : row.id = input.id
  content : row.content = input.content
  state : row.state = .pending

/-- The rows that a claim takes. -/
def isTaken (sessionId : String) (ids : Option (List String)) (row : QueueRow) : Bool :=
  isPending sessionId row && ids.all fun ids => ids.contains row.id

/-- A delivered row whose message is in the history. -/
def isIncorporated (history : SessionHistory) (sessionId requestId : String) (row : QueueRow) : Bool :=
  isDelivered sessionId requestId row && history.hasUserMessage row.id

/-- A row that the user may change. -/
def isEditable (store : MessageQueueStore) (sessionId id : String) (row : QueueRow) : Bool :=
  isRow sessionId id row && row.state == .pending && !store.isForceSnapshot sessionId id

theorem isEditable_iff {store : MessageQueueStore} {sessionId id : String} :
    isEditable store sessionId id row = true ↔
      isRow sessionId id row = true ∧ row.state = .pending ∧ store.isForceSnapshot sessionId id = false := by
  simp [isEditable, and_assoc]

/-- The metadata of one session, rewritten with the next revision. -/
def NextMetadata (store : MessageQueueStore) (sessionId : String) (state : QueueMetadata) : Prop :=
  state.revision = (store.metadata sessionId).revision + 1

/-- The effect of a call, and whether its answer tells of a change. -/
inductive QueueEffect (store : MessageQueueStore) : QueueCall → Bool → MessageQueueStore → Prop where
  | nothing (call : QueueCall) : QueueEffect store call false store
  | enqueued {history : SessionHistory} {sessionId : String} {input : ChatQueueEnqueueInput} {nowUtc : String} {row : QueueRow}
      (isNew : IsNewRow store sessionId input row) (fresh : ∀ other ∈ store.rows, isRow sessionId input.id other = false)
      (notPersisted : ∀ persisted ∈ history.messages, persisted.id ≠ input.id)
      (room : store.countPending sessionId < CHAT_QUEUE_MAX_PENDING) :
      QueueEffect store (.enqueue history sessionId input nowUtc) true
        ({ store with rows := store.rows ++ [row], lastSequence := store.lastSequence + 1 }.bump sessionId)
  | edited {sessionId id : String} {content newContent : JsString} {revision : Nat} {row : QueueRow} (member : row ∈ store.rows)
      (editable : isEditable store sessionId id row = true) (current : row.revision = revision) :
      QueueEffect store (.edit sessionId id content revision) true
        ({ store with rows := updateWhere (isRow sessionId id) (editRow newContent) store.rows }.bump sessionId)
  | removed {sessionId id : String} {row : QueueRow} (member : row ∈ store.rows)
      (editable : isEditable store sessionId id row = true) :
      QueueEffect store (.remove sessionId id) true
        ({ store with rows := store.rows.filter fun row => !isRow sessionId id row }.bump sessionId)
  | claimed {sessionId : String} {input : ChatQueueClaimInput} {nowUtc : String}
      (some_taken : store.rows.filter (isTaken sessionId input.ids) ≠ []) :
      QueueEffect store (.claim sessionId input nowUtc) true
        ({ store with rows := updateWhere (isTaken sessionId input.ids) (deliver input nowUtc) store.rows }.bump sessionId)
  | incorporated {history : SessionHistory} {sessionId requestId : String}
      (some_done : store.rows.filter (isIncorporated history sessionId requestId) ≠ []) :
      QueueEffect store (.deleteIncorporated history sessionId requestId) true
        ({ store with rows := store.rows.filter fun row => !isIncorporated history sessionId requestId row }.bump sessionId)
  | begun {history : SessionHistory} {sessionId : String} {request : ChatQueueForceRequest} {successorOperationId : String}
      {state : QueueMetadata} (next : NextMetadata store sessionId state) :
      QueueEffect store (.beginForce history sessionId request successorOperationId) true (store.writeMetadata sessionId state)
  | updated {sessionId forceId : String} {phase : ForcePhase} {failureDetail : Option String} {state : QueueMetadata}
      (next : NextMetadata store sessionId state) :
      QueueEffect store (.updateForce sessionId forceId phase failureDetail) true (store.writeMetadata sessionId state)
  | cleared {sessionId forceId : String} {force : ChatMessageQueueForceState} {state : QueueMetadata}
      (next : NextMetadata store sessionId state) :
      QueueEffect store (.clearForce sessionId forceId) true ((store.saveReceipt sessionId force).writeMetadata sessionId state)
  | noted {sessionId error : String} {force failed : ChatMessageQueueForceState} :
      QueueEffect store (.failForce sessionId force error) false (store.saveReceipt sessionId failed)
  | failed {sessionId error : String} {force failed : ChatMessageQueueForceState} {state : QueueMetadata}
      (next : NextMetadata store sessionId state) :
      QueueEffect store (.failForce sessionId force error) true ((store.saveReceipt sessionId failed).writeMetadata sessionId state)
  | paused (sessionId : String) (paused : Bool) : QueueEffect store (.setPaused sessionId paused) true (store.bump sessionId (some paused))

section Effects

variable {formats : StringFormats} {store after : MessageQueueStore}

variable {input : ChatQueueEnqueueInput} {history : SessionHistory} {result : ChatQueueEnqueueResult}
  {sessionId id : String}

theorem parse_input {parsed : ChatQueueEnqueueInput} (accepted : input.parse formats = some parsed) :
    parsed.id = input.id ∧ parsed.content = input.content := by
  unfold ChatQueueEnqueueInput.parse at accepted
  obtain ⟨options, _, accepted⟩ := Option.bind_eq_some_iff.mp accepted
  rw [Option.ite_none_right_eq_some] at accepted
  cases accepted.2
  exact ⟨rfl, rfl⟩

theorem persisted_none (absent : persisted history input = .ok none) :
    ∀ row ∈ history.messages, row.id ≠ input.id := by
  unfold persisted at absent
  split at absent
  next notFound =>
    intro row member
    simpa using List.find?_eq_none.mp notFound row member
  · simp only [bind_eq_ok, pure_eq_ok] at absent
    obtain ⟨_, _, absent⟩ := absent
    cases absent

theorem persisted_unchanged (found : persisted history input = .ok (some result)) : result.changed = false := by
  unfold persisted at found
  split at found
  · cases found
  · simp only [bind_eq_ok, pure_eq_ok, Option.some.injEq] at found
    obtain ⟨_, _, rfl⟩ := found
    split <;> rfl

/-- The row that the answer to an enqueue shows. -/
def ShowsEnqueued (after : MessageQueueStore) (sessionId id : String) : ChatQueueEnqueueResult → Prop
  | .enqueued message => ∃ row ∈ after.rows, isRow sessionId id row = true ∧ Shows row message
  | _ => True

theorem showsEnqueued_of_unchanged {after : MessageQueueStore} (unchanged : result.changed = false) :
    ShowsEnqueued after sessionId id result := by
  cases result with
  | enqueued message => cases unchanged
  | _ => trivial

theorem enqueue_ok {nowUtc : String}
    (ended : store.enqueue formats history sessionId input nowUtc = .ok (result, after)) :
    QueueEffect store (.enqueue history sessionId input nowUtc) result.changed after ∧
      ShowsEnqueued after sessionId input.id result := by
  simp only [enqueue, bind_eq_ok, orInvalid_eq_ok] at ended
  obtain ⟨parsed, isParsed, ended⟩ := ended
  obtain ⟨sameId, sameContent⟩ := parse_input isParsed
  split at ended
  · cases ended
    exact ⟨.nothing _, trivial⟩
  simp only [bind_eq_ok] at ended
  obtain ⟨answer, isAnswer, ended⟩ := ended
  cases answer with
  | some answer =>
    cases ended
    have unchanged := persisted_unchanged isAnswer
    rw [unchanged]
    exact ⟨.nothing _, showsEnqueued_of_unchanged unchanged⟩
  | none =>
    have notPersisted := persisted_none isAnswer
    simp only [enqueueNew, bind_eq_ok] at ended
    obtain ⟨existing, isExisting, ended⟩ := ended
    cases existing with
    | some existing =>
      simp only [bind_eq_ok, pure_eq_ok, Prod.mk.injEq] at ended
      obtain ⟨options, _, rfl, rfl⟩ := ended
      have unchanged : ChatQueueEnqueueResult.changed
          (if sameBody existing parsed options then .duplicate existing else .conflict existing) = false := by split <;> rfl
      rw [unchanged]
      exact ⟨.nothing _, showsEnqueued_of_unchanged unchanged⟩
    | none =>
      have fresh := readRow_none isExisting
      simp only at ended
      split at ended
      · cases ended
        exact ⟨.nothing _, trivial⟩
      next full =>
        have room : store.countPending sessionId < CHAT_QUEUE_MAX_PENDING := by omega
        simp only [insertMessage, bind_eq_ok, orInvalid_eq_ok, pure_eq_ok, Prod.mk.injEq] at ended
        obtain ⟨options, _, rows, inserted, message, isMessage, rfl, rfl⟩ := ended
        obtain ⟨rfl, _⟩ := insertRow_eq_some inserted
        rw [sameId] at fresh notPersisted
        refine ⟨.enqueued ⟨rfl, rfl, sameId, sameContent, rfl⟩ fresh notPersisted room, ?_⟩
        rw [← sameId]
        exact requireRow_ok isMessage

theorem editable_ok {message : ChatQueuedMessage} (ended : store.editable formats sessionId id = .ok (.ok message)) :
    ∃ row ∈ store.rows, isEditable store sessionId id row = true ∧ Shows row message := by
  simp only [editable, bind_eq_ok] at ended
  obtain ⟨found, isFound, ended⟩ := ended
  cases found with
  | none => cases ended
  | some existing =>
    obtain ⟨row, member, isOwn, shows⟩ := readRow_some isFound
    simp only [pure_eq_ok] at ended
    split at ended
    · cases ended
    next open_ =>
      cases ended
      simp only [Bool.or_eq_true, bne_iff_ne, ne_eq, not_or, not_not, Bool.not_eq_true] at open_
      refine ⟨row, member, ?_, shows⟩
      simp [isEditable, isOwn, open_.2, ← shows.state, open_.1]

theorem editable_error {answer : ChatQueueMutationResult}
    (ended : store.editable formats sessionId id = .ok (.error answer)) : answer.changed = false := by
  simp only [editable, bind_eq_ok] at ended
  obtain ⟨found, _, ended⟩ := ended
  cases found with
  | none =>
    cases ended
    rfl
  | some existing =>
    simp only [pure_eq_ok] at ended
    split at ended
    · cases ended
      rfl
    · cases ended

variable {result : ChatQueueMutationResult}

theorem edit_effect {content : JsString} {revision : Nat}
    (ended : store.edit formats sessionId id content revision = .ok (result, after)) :
    QueueEffect store (.edit sessionId id content revision) result.changed after := by
  simp only [edit, bind_eq_ok, orInvalid_eq_ok] at ended
  obtain ⟨newContent, _, found, isFound, ended⟩ := ended
  cases found with
  | error answer =>
    cases ended
    rw [editable_error isFound]
    exact .nothing _
  | ok existing =>
    obtain ⟨row, member, editable, shows⟩ := editable_ok isFound
    simp only at ended
    split at ended
    · cases ended
      exact .nothing _
    next current =>
      have isCurrent : row.revision = revision := by
        rw [← shows.revision]
        exact not_not.mp current
      simp only [bind_eq_ok, pure_eq_ok, Prod.mk.injEq] at ended
      obtain ⟨message, _, rfl, rfl⟩ := ended
      exact .edited member editable isCurrent

theorem remove_effect
    (ended : store.remove formats sessionId id = .ok (result, after)) :
    QueueEffect store (.remove sessionId id) result.changed after := by
  simp only [remove, bind_eq_ok] at ended
  obtain ⟨found, isFound, ended⟩ := ended
  cases found with
  | error answer =>
    cases ended
    rw [editable_error isFound]
    exact .nothing _
  | ok existing =>
    obtain ⟨row, member, editable, _⟩ := editable_ok isFound
    cases ended
    exact .removed member editable

/-! ### Claims -/

variable {messages : List ChatQueuedMessage}

theorem filter_shows {rows : List QueueRow} (shown : List.Forall₂ Shows rows messages)
    (keep : String → Bool) :
    List.Forall₂ Shows (rows.filter fun row => keep row.id) (messages.filter fun message => keep message.id) := by
  induction shown with
  | nil => exact .nil
  | @cons row message _ _ head _ ih =>
    rw [List.filter_cons, List.filter_cons, head.id]
    split
    · exact .cons head ih
    · exact ih

theorem filter_isTaken (rows : List QueueRow) (sessionId : String) (ids : Option (List String)) :
    rows.filter (isTaken sessionId ids) =
      (rows.filter (isPending sessionId)).filter fun row => ids.all fun ids => ids.contains row.id := by
  rw [List.filter_filter]
  exact List.filter_congr fun row _ => Bool.and_comm _ _

theorem foldl_deliverRow (sessionId : String) (input : ChatQueueClaimInput) (nowUtc : String) (ids : List String)
    (rows : List QueueRow) : ids.foldl (deliverRow sessionId input nowUtc) rows =
      updateWhere (fun row => isPending sessionId row && ids.contains row.id) (deliver input nowUtc) rows := by
  induction ids generalizing rows with
  | nil =>
    rw [List.foldl_nil, updateWhere]
    exact (List.map_id'' (fun row => by simp) rows).symm
  | cons id rest ih =>
    rw [List.foldl_cons, ih, deliverRow]
    refine updateWhere_eq_of_rows fun row _ => ?_
    by_cases pending : isPending sessionId row = true
    · obtain ⟨isSession, isOpen⟩ := isPending_iff.mp pending
      by_cases same : row.id = id
      · simp [isRow, isPending, deliver, isSession, isOpen, same]
      · simp [isRow, isPending, isSession, isOpen, same]
    · have closed : (isRow sessionId id row && row.state == .pending) = false := by
        by_contra selected
        simp only [Bool.not_eq_false, Bool.and_eq_true, isRow_iff, beq_iff_eq] at selected
        exact pending (isPending_iff.mpr ⟨selected.1.1, selected.2⟩)
      simp [closed, pending]

variable {claimed : List ChatQueuedMessage}

theorem claimable_ok {ids : Option (List String)}
    (ended : store.claimable formats sessionId ids = .ok claimed) :
    List.Forall₂ Shows (store.rows.filter (isTaken sessionId ids)) claimed ∧
      ∀ given ∈ ids, given.Nodup ∧ claimed.length = given.length := by
  simp only [claimable, bind_eq_ok, throwWhen_eq_ok, pure_eq_ok] at ended
  obtain ⟨_, distinct, pending, isPending, _, complete, rfl⟩ := ended
  rw [filter_isTaken]
  refine ⟨filter_shows (mapM_shows isPending) fun id => ids.all fun ids => ids.contains id, fun given isGiven => ?_⟩
  obtain rfl := Option.mem_def.mp isGiven
  simp only [Option.any_some, Bool.not_eq_false', decide_eq_true_eq, bne_eq_false_iff_eq] at distinct complete
  exact ⟨distinct, complete⟩

/-- What a claim took, and what it hands out. -/
structure Claimed (store after : MessageQueueStore) (sessionId : String) (input : ChatQueueClaimInput) (nowUtc : String)
    (messages : List ChatQueuedMessage) : Prop where
  rows : after.rows = updateWhere (isTaken sessionId input.ids) (deliver input nowUtc) store.rows
  complete : ∀ ids ∈ input.ids, ids.Nodup ∧ (store.rows.filter (isTaken sessionId input.ids)).length = ids.length
  handedOut : List.Forall₂ (fun row message => ∃ delivered ∈ after.rows, isRow sessionId row.id delivered = true ∧
    Shows delivered message) (store.rows.filter (isTaken sessionId input.ids)) messages

theorem updateWhere_taken (store : MessageQueueStore) (sessionId nowUtc : String) (input : ChatQueueClaimInput)
    (shown : List.Forall₂ Shows (store.rows.filter (isTaken sessionId input.ids)) claimed) :
    updateWhere (fun row => isPending sessionId row && (claimed.map ChatQueuedMessage.id).contains row.id)
      (deliver input nowUtc) store.rows = updateWhere (isTaken sessionId input.ids) (deliver input nowUtc) store.rows := by
  have ids : claimed.map ChatQueuedMessage.id = (store.rows.filter (isTaken sessionId input.ids)).map QueueRow.id := by
    generalize store.rows.filter (isTaken sessionId input.ids) = taken at shown
    induction shown with
    | nil => rfl
    | cons head _ ih => rw [List.map_cons, List.map_cons, head.id, ih]
  refine List.map_congr_left fun row member => ?_
  have selected : (isPending sessionId row && (claimed.map ChatQueuedMessage.id).contains row.id) =
      isTaken sessionId input.ids row := by
    rw [Bool.eq_iff_iff, ids]
    simp only [isTaken, Bool.and_eq_true, List.contains_iff_mem, List.mem_map, List.mem_filter]
    constructor
    · rintro ⟨pending, other, ⟨_, _, chosen⟩, same⟩
      exact ⟨pending, same ▸ chosen⟩
    · rintro ⟨pending, chosen⟩
      exact ⟨pending, row, ⟨member, pending, chosen⟩, rfl⟩
  simp only [selected]

theorem claim_ok {nowUtc : String} {input : ChatQueueClaimInput}
    (ended : store.claim formats sessionId input nowUtc = .ok (messages, after)) :
    QueueEffect store (.claim sessionId input nowUtc) (!messages.isEmpty) after ∧ Claimed store after sessionId input nowUtc messages := by
  simp only [claim, bind_eq_ok, pure_eq_ok, Prod.mk.injEq] at ended
  obtain ⟨_, _, claimed, isClaimed, handed, isHanded, rfl, rfl⟩ := ended
  obtain ⟨shown, complete⟩ := claimable_ok isClaimed
  have rows := foldl_deliverRow sessionId input nowUtc (claimed.map ChatQueuedMessage.id) store.rows
  rw [updateWhere_taken store sessionId nowUtc input shown] at rows
  rw [rows] at isHanded ⊢
  have handedOut := mapM_eq_ok.mp isHanded
  constructor
  · have sameEmpty : handed.isEmpty = claimed.isEmpty := by
      rw [Bool.eq_iff_iff, List.isEmpty_iff_length_eq_zero, List.isEmpty_iff_length_eq_zero, handedOut.length_eq]
    rw [sameEmpty]
    cases claimed with
    | nil =>
      have none := List.forall₂_nil_right_iff.mp shown
      have unchanged : updateWhere (isTaken sessionId input.ids) (deliver input nowUtc) store.rows = store.rows := by
        refine (List.map_congr_left fun row member => ?_).trans (List.map_id' _)
        rw [if_neg (List.filter_eq_nil_iff.mp none row member)]
      rw [List.isEmpty_nil, if_pos rfl, unchanged]
      exact .nothing _
    | cons first rest =>
      rw [List.isEmpty_cons, if_neg (by simp)]
      refine .claimed fun none => ?_
      rw [none] at shown
      cases shown
  · refine ⟨by split <;> rfl, fun ids given => ?_, ?_⟩
    · obtain ⟨distinct, length⟩ := complete ids given
      exact ⟨distinct, shown.length_eq.trans length⟩
    · refine List.forall₂_iff_get.mpr ⟨?_, ?_⟩
      · exact shown.length_eq.trans handedOut.length_eq
      · intro index isRowIndex isMessageIndex
        have isClaimedIndex : index < claimed.length := by rw [← shown.length_eq]; exact isRowIndex
        have shows := (List.forall₂_iff_get.mp shown).2 index isRowIndex isClaimedIndex
        have found := requireRow_ok ((List.forall₂_iff_get.mp handedOut).2 index isClaimedIndex isMessageIndex)
        rw [← shows.id]
        exact found

/-! ### Other calls -/

theorem deleteIncorporated_effect {requestId : String} {count : Nat}
    (ended : store.deleteIncorporated formats history sessionId requestId = .ok (count, after)) :
    QueueEffect store (.deleteIncorporated history sessionId requestId) (decide (0 < count)) after := by
  simp only [deleteIncorporated, bind_eq_ok, pure_eq_ok, Prod.mk.injEq] at ended
  obtain ⟨_, _, _, _, rfl, rfl⟩ := ended
  by_cases some_done : store.rows.filter (isIncorporated history sessionId requestId) = []
  · have none : store.rows.countP (fun row => isDelivered sessionId requestId row && history.hasUserMessage row.id) = 0 := by
      rw [List.countP_eq_length_filter]
      exact List.length_eq_zero_iff.mpr some_done
    have unchanged : store.rows.filter (fun row => !(isDelivered sessionId requestId row && history.hasUserMessage row.id)) =
        store.rows := by
      refine List.filter_eq_self.mpr fun row member => ?_
      have notDone := List.filter_eq_nil_iff.mp some_done row member
      rw [Bool.not_eq_true] at notDone
      rw [Bool.not_eq_true']
      exact notDone
    rw [if_neg (by omega), unchanged, none]
    exact .nothing _
  · have positive : store.rows.countP (fun row => isDelivered sessionId requestId row && history.hasUserMessage row.id) > 0 := by
      rw [List.countP_eq_length_filter]
      exact List.length_pos_iff.mpr some_done
    rw [if_pos positive, decide_eq_true positive]
    exact .incorporated some_done

theorem currentForce_unchanged {request : ChatQueueForceRequest} {result : ChatQueueForceResult}
    (found : store.currentForce sessionId request = some result) : result.changed = false := by
  unfold currentForce at found
  split at found
  · cases found
    split <;> rfl
  split at found
  · split at found
    · cases found
      split <;> rfl
    · cases found
  · cases found

theorem beginForce_effect {successorOperationId : String} {request : ChatQueueForceRequest}
    {result : ChatQueueForceResult}
    (ended : store.beginForce formats history sessionId request successorOperationId = .ok (result, after)) :
    QueueEffect store (.beginForce history sessionId request successorOperationId) result.changed after := by
  simp only [beginForce, bind_eq_ok] at ended
  obtain ⟨_, _, ended⟩ := ended
  split at ended
  · cases ended
    exact .nothing _
  split at ended
  next stands =>
    cases ended
    rw [currentForce_unchanged stands]
    exact .nothing _
  simp only [bind_eq_ok] at ended
  obtain ⟨pending, _, ended⟩ := ended
  split at ended
  · cases ended
    exact .nothing _
  · cases ended
    exact .begun rfl

theorem updateForce_effect {forceId : String} {phase : ForcePhase} {failureDetail : Option String} {found : Bool}
    (ended : store.updateForce formats sessionId forceId phase failureDetail = .ok (found, after)) :
    QueueEffect store (.updateForce sessionId forceId phase failureDetail) found after := by
  simp only [updateForce, bind_eq_ok] at ended
  obtain ⟨_, _, ended⟩ := ended
  split at ended
  · split at ended
    · cases ended
      exact .updated rfl
    · cases ended
      exact .nothing _
  · cases ended
    exact .nothing _

theorem clearForce_effect {forceId : String} {found : Bool}
    (ended : store.clearForce formats sessionId forceId = .ok (found, after)) :
    QueueEffect store (.clearForce sessionId forceId) found after := by
  simp only [clearForce, bind_eq_ok] at ended
  obtain ⟨_, _, ended⟩ := ended
  split at ended
  · split at ended
    · cases ended
      exact .cleared rfl
    · cases ended
      exact .nothing _
  · cases ended
    exact .nothing _

theorem failForce_effect {error : String} {force : ChatMessageQueueForceState}
    (ended : store.failForce formats sessionId force error = .ok after) :
    QueueEffect store (.failForce sessionId force error)
      ((store.metadata sessionId).force.all fun current => current.id == force.id) after := by
  simp only [failForce, bind_eq_ok, pure_eq_ok] at ended
  obtain ⟨_, _, rfl⟩ := ended
  split
  next own =>
    rw [own]
    exact .failed rfl
  next other =>
    rw [Bool.not_eq_true] at other
    rw [other]
    exact .noted

end Effects

/-- Whatever a call does is one of the effects. -/
theorem queueEffect_of_call (formats : StringFormats) (store : MessageQueueStore) (call : QueueCall) :
    QueueEffect store call (answersChange formats store call) (performCall formats store call) := by
  have of_ok : ∀ {Result : Type} {changed : Result → Bool} {body : Except Thrown (Result × MessageQueueStore)},
      (∀ {result after}, body = .ok (result, after) → QueueEffect store call (changed result) after) →
        QueueEffect store call (answered changed body) (committed store body) := by
    intro Result changed body effect
    cases body with
    | error failure => exact .nothing call
    | ok answer => exact effect rfl
  cases call with
  | enqueue history sessionId input nowUtc => exact of_ok fun ended => (enqueue_ok ended).1
  | edit sessionId id content revision => exact of_ok edit_effect
  | remove sessionId id => exact of_ok remove_effect
  | claim sessionId input nowUtc => exact of_ok fun ended => (claim_ok ended).1
  | deleteIncorporated history sessionId requestId => exact of_ok deleteIncorporated_effect
  | beginForce history sessionId request successorOperationId => exact of_ok beginForce_effect
  | updateForce sessionId forceId phase failureDetail => exact of_ok updateForce_effect
  | clearForce sessionId forceId => exact of_ok clearForce_effect
  | failForce sessionId force error =>
    refine @of_ok Unit (fun _ => (store.metadata sessionId).force.all fun current => current.id == force.id) _
      fun {result after} ended => ?_
    cases failed : store.failForce formats sessionId force error with
    | error failure => rw [failed] at ended; cases ended
    | ok other =>
      rw [failed] at ended
      cases ended
      exact failForce_effect failed
  | setPaused sessionId paused => exact .paused sessionId paused

end SiftKit.Chat
