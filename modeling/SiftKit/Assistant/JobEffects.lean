import SiftKit.Assistant.JobStore

/-! # What the calls of the job store do

A call leaves the table alone, appends a queued row, or rewrites the rows that its statement selects.
A rewrite that wakes no row cannot break the pending index.
-/

namespace SiftKit.Assistant

open SiftKit.Tables

/-! ## Consistent tables -/

/-- What the primary key and the pending index keep. -/
structure Consistent (table : JobTable) : Prop where
  ids : (table.map JobRow.id).Nodup
  pending : PendingDistinct table

theorem consistent_nil : Consistent [] := ⟨List.nodup_nil, List.nodup_nil⟩

variable {table : JobTable}

theorem Consistent.of_append {added : JobTable} (consistent : Consistent (table ++ added)) : Consistent table where
  ids := by
    have ids := consistent.ids
    rw [List.map_append] at ids
    exact ids.of_append_left
  pending := by
    have pending := consistent.pending
    unfold PendingDistinct pendingKeys at pending ⊢
    rw [List.filter_append, List.map_append] at pending
    exact pending.of_append_left

/-- A rewrite that keeps the columns that a row is found by. -/
structure KeepsKeys (rewrite : JobRow → JobRow) : Prop where
  id : ∀ row, (rewrite row).id = row.id
  key : ∀ row, ((rewrite row).ownerId, (rewrite row).idempotencyKey) = (row.ownerId, row.idempotencyKey)

theorem keepsKeys_superseded (nowUtc : Int) : KeepsKeys (superseded nowUtc) := ⟨fun _ => rfl, fun _ => rfl⟩

theorem keepsKeys_claimed (input : ClaimJobInput) (nowUtc : Int) : KeepsKeys (claimed input nowUtc) :=
  ⟨fun _ => rfl, fun _ => rfl⟩

theorem keepsKeys_terminal (status : JobStatus) (errorMessage : Option String) (nowUtc : Int) :
    KeepsKeys (terminal status errorMessage nowUtc) := ⟨fun _ => rfl, fun _ => rfl⟩

theorem keepsKeys_requeuedWithBackoff (errorMessage : String) (attempts : Nat) (nowUtc : Int) :
    KeepsKeys (requeuedWithBackoff errorMessage attempts nowUtc) := ⟨fun _ => rfl, fun _ => rfl⟩

theorem keepsKeys_preempted (nowUtc : Int) : KeepsKeys (preempted nowUtc) := ⟨fun _ => rfl, fun _ => rfl⟩

theorem keepsKeys_recovered (nowUtc : Int) : KeepsKeys (recovered nowUtc) := ⟨fun _ => rfl, fun _ => rfl⟩

section

variable {selects : JobRow → Bool} {rewrite : JobRow → JobRow} {table : JobTable}

theorem ids_updateWhere (kept : KeepsKeys rewrite) :
    (updateWhere selects rewrite table).map JobRow.id = table.map JobRow.id :=
  map_updateWhere fun row _ _ => kept.id row

theorem ids_known (kept : KeepsKeys rewrite) {id : String} (known : ∃ row ∈ table, row.id = id) :
    ∃ row ∈ updateWhere selects rewrite table, row.id = id := by
  obtain ⟨row, member, rfl⟩ := known
  have inIds : row.id ∈ (updateWhere selects rewrite table).map JobRow.id := by
    rw [ids_updateWhere kept]
    exact List.mem_map_of_mem member
  obtain ⟨updated, updatedMember, same⟩ := List.mem_map.mp inIds
  exact ⟨updated, updatedMember, same⟩

theorem pendingKeys_updateWhere (kept : KeepsKeys rewrite)
    (wakesNone : ∀ row ∈ table, selects row = true → (rewrite row).status.isLive = true → row.status.isLive = true) :
    (pendingKeys (updateWhere selects rewrite table)).Sublist (pendingKeys table) := by
  induction table with
  | nil => exact List.nil_sublist _
  | cons row rest ih =>
    have restKept := ih fun other member => wakesNone other (List.mem_cons_of_mem _ member)
    have rowWakes := wakesNone row List.mem_cons_self
    simp only [pendingKeys, updateWhere, List.map_cons, List.filter_cons] at restKept ⊢
    by_cases selected : selects row = true
    · simp only [selected, if_true]
      by_cases live : (rewrite row).status.isLive = true
      · simp only [live, rowWakes selected live, if_true, List.map_cons, kept.key row]
        exact restKept.cons_cons _
      · simp only [live, Bool.false_eq_true, if_false]
        split
        · exact restKept.cons _
        · exact restKept
    · simp only [selected, Bool.false_eq_true, if_false]
      split
      · exact restKept.cons_cons _
      · exact restKept

theorem consistent_updateWhere (consistent : Consistent table) (kept : KeepsKeys rewrite)
    (wakesNone : ∀ row ∈ table, selects row = true → (rewrite row).status.isLive = true → row.status.isLive = true) :
    Consistent (updateWhere selects rewrite table) where
  ids := by
    rw [ids_updateWhere kept]
    exact consistent.ids
  pending := consistent.pending.sublist (pendingKeys_updateWhere kept wakesNone)

theorem getJob_updateWhere (kept : KeepsKeys rewrite) (jobId : String) :
    getJob (updateWhere selects rewrite table) jobId =
      (getJob table jobId).map fun row => if selects row then rewrite row else row := by
  apply find?_updateWhere_kept
  intro row
  rw [kept.id]

end

/-! ## Looking up -/

variable {jobId : String} {row : JobRow}

theorem id_of_getJob (found : getJob table jobId = some row) : row.id = jobId := by
  have matching := List.find?_some found
  simpa using matching

theorem mem_of_getJob (found : getJob table jobId = some row) :
    row ∈ table := List.mem_of_find?_eq_some found

section

variable {table : JobTable} (consistent : Consistent table)

include consistent

theorem Consistent.getJob_eq (member : row ∈ table) :
    getJob table row.id = some row := by
  have ids := consistent.ids
  clear consistent
  induction table with
  | nil => cases member
  | cons head rest ih =>
    rw [List.map_cons, List.nodup_cons] at ids
    unfold getJob at ih ⊢
    rw [List.find?_cons]
    cases List.mem_cons.mp member with
    | inl here => simp only [here, beq_self_eq_true]
    | inr later =>
      have different : (head.id == row.id) = false := by
        rw [beq_eq_false_iff_ne]
        intro same
        exact ids.1 (same ▸ List.mem_map_of_mem later)
      simp only [different]
      exact ih later ids.2

theorem Consistent.countP_isQueuedJob (member : row ∈ table)
    (queued : row.status = .queued) : table.countP (isQueuedJob row.id) = 1 := by
  have ids := consistent.ids
  clear consistent
  induction table with
  | nil => cases member
  | cons head rest ih =>
    rw [List.map_cons, List.nodup_cons] at ids
    rw [List.countP_cons]
    cases List.mem_cons.mp member with
    | inl here =>
      have others : rest.countP (isQueuedJob row.id) = 0 := by
        rw [List.countP_eq_zero]
        intro other otherMember selected
        simp only [isQueuedJob, Bool.and_eq_true, beq_iff_eq] at selected
        apply ids.1
        rw [← here, ← selected.1]
        exact List.mem_map_of_mem otherMember
      have selected : isQueuedJob row.id head = true := by
        simp only [isQueuedJob, ← here, queued, beq_self_eq_true, Bool.and_self]
      rw [others, selected, if_pos rfl]
    | inr later =>
      have different : isQueuedJob row.id head = false := by
        simp only [isQueuedJob, Bool.and_eq_false_iff, beq_eq_false_iff_ne]
        left
        intro same
        exact ids.1 (same ▸ List.mem_map_of_mem later)
      rw [ih later ids.2, different]
      simp

/-! ## Enqueue -/

theorem Consistent.snoc (freshId : ∀ stored ∈ table, stored.id ≠ row.id)
    (freshKey : findLiveByIdempotencyKey table row.ownerId row.idempotencyKey = none) :
    Consistent (table ++ [row]) where
  ids := by
    exact nodup_map_snoc consistent.ids freshId
  pending := by
    unfold PendingDistinct pendingKeys
    rw [List.filter_append, List.map_append, List.nodup_append]
    refine ⟨consistent.pending, ?_, ?_⟩
    · rw [List.filter_singleton]
      cases row.status.isLive with
      | true => exact List.nodup_singleton _
      | false => exact List.nodup_nil
    · intro key keyMember other otherMember same
      obtain ⟨stored, storedMember, rfl⟩ := List.mem_map.mp keyMember
      obtain ⟨new, newMember, rfl⟩ := List.mem_map.mp otherMember
      have isRow := List.mem_singleton.mp (List.mem_of_mem_filter newMember)
      rw [isRow] at same
      obtain ⟨sameOwner, sameKey⟩ := Prod.mk.inj same
      have notFound := List.find?_eq_none.mp freshKey stored (List.mem_of_mem_filter storedMember)
      have live := (List.mem_filter.mp storedMember).2
      simp [sameOwner, sameKey, live] at notFound

/-- An enqueue appends its row, or changes nothing; the pending index never refuses it. -/
theorem enqueue_cases (input : EnqueueJobInput) (priority : Rat)
    (id : String) (nowUtc : Int) :
    ((enqueue input priority id nowUtc table).2 = table ∧
        (enqueue input priority id nowUtc table).1 ≠ .error .pendingIdempotency) ∨
      ((∀ stored ∈ table, stored.id ≠ id) ∧ Consistent (table ++ [input.row id priority.num nowUtc]) ∧
        enqueue input priority id nowUtc table =
          (.ok (some (input.row id priority.num nowUtc)), table ++ [input.row id priority.num nowUtc])) := by
  unfold enqueue
  split
  · exact Or.inl ⟨rfl, nofun⟩
  · split
    · exact Or.inl ⟨rfl, nofun⟩
    next absent =>
      unfold insertJob
      split
      · exact Or.inl ⟨rfl, nofun⟩
      next fresh =>
        have freshId : ∀ stored ∈ table, stored.id ≠ id := by simpa [EnqueueJobInput.row] using fresh
        have freshKey : findLiveByIdempotencyKey table input.ownerId input.idempotencyKey = none := by simpa using absent
        have inserted : Consistent (table ++ [input.row id priority.num nowUtc]) := consistent.snoc freshId freshKey
        have found := inserted.getJob_eq (List.mem_append_right _ (List.mem_singleton.mpr rfl))
        refine Or.inr ⟨freshId, inserted, ?_⟩
        simp only [write, inserted.pending, if_true, answerJob, requireJob]
        rw [show getJob (table ++ [input.row id priority.num nowUtc]) id = _ from found]
        rfl

end

theorem write_eq {written : JobTable} (distinct : PendingDistinct written) :
    write table written = (.ok (), written) := by
  rw [write, if_pos distinct]

section

variable {table : JobTable} (consistent : Consistent table)

include consistent

theorem consistent_superseded (input : EnqueueJobInput)
    (nowUtc : Int) : Consistent (updateWhere (isSuperseded input) (superseded nowUtc) table) :=
  consistent_updateWhere consistent (keepsKeys_superseded nowUtc) fun _ _ _ live => by cases live

/-- Superseding is cancelling the queued jobs of the type, then enqueueing. -/
theorem enqueueSuperseding_eq (input : EnqueueJobInput)
    (priority : Rat) (id : String) (nowUtc : Int) :
    enqueueSuperseding input priority id nowUtc table =
      enqueue input priority id nowUtc (updateWhere (isSuperseded input) (superseded nowUtc) table) := by
  rw [enqueueSuperseding, write_eq (consistent_superseded consistent input nowUtc).pending]

/-! ## Claim -/

theorem consistent_claimed (jobId : String) (input : ClaimJobInput)
    (nowUtc : Int) : Consistent (updateWhere (isQueuedJob jobId) (claimed input nowUtc) table) := by
  apply consistent_updateWhere consistent (keepsKeys_claimed input nowUtc)
  intro row _ selected _
  simp only [isQueuedJob, Bool.and_eq_true, beq_iff_eq] at selected
  rw [selected.2]
  rfl

/-- A claim takes a claimable row of the queue, or nothing. -/
theorem claimNext_cases (input : ClaimJobInput) (nowUtc : Int) :
    claimNext input nowUtc table = (.ok none, table) ∨
      ∃ candidate ∈ table, isClaimable input nowUtc candidate = true ∧
        claimNext input nowUtc table =
          (.ok (some (claimed input nowUtc candidate)),
            updateWhere (isQueuedJob candidate.id) (claimed input nowUtc) table) := by
  unfold claimNext
  split
  · exact Or.inl rfl
  next candidate chosen =>
    have offered := List.mem_filter.mp (mem_of_firstBy chosen)
    have queued : candidate.status = .queued := by
      have claimable := offered.2
      simp only [isClaimable, Bool.and_eq_true, beq_iff_eq] at claimable
      exact claimable.1.1.2
    refine Or.inr ⟨candidate, offered.1, offered.2, ?_⟩
    have found : getJob (updateWhere (isQueuedJob candidate.id) (claimed input nowUtc) table) candidate.id =
        some (claimed input nowUtc candidate) := by
      rw [getJob_updateWhere (keepsKeys_claimed input nowUtc), consistent.getJob_eq offered.1, Option.map_some,
        if_pos (by simp [isQueuedJob, queued])]
    simp only [write_eq (consistent_claimed consistent candidate.id input nowUtc).pending,
      consistent.countP_isQueuedJob offered.1 queued, if_true, requireJob, found]
    rfl

end

/-! ## Settle -/

section

variable {table : JobTable}

theorem answerJob_updateJob {rewrite : JobRow → JobRow} (kept : KeepsKeys rewrite)
    (admitted : PendingDistinct (updateWhere (fun row => row.id == jobId) rewrite table)) :
    answerJob jobId (updateJob jobId rewrite table) =
      ((requireJob table jobId).map rewrite, updateWhere (fun row => row.id == jobId) rewrite table) := by
  rw [updateJob, write_eq admitted]
  simp only [answerJob, requireJob, getJob_updateWhere kept]
  cases found : getJob table jobId with
  | none => rfl
  | some row => simp [id_of_getJob found, Except.map]

theorem consistent_terminal (consistent : Consistent table) (jobId : String) {status : JobStatus}
    (notLive : status.isLive = false) (errorMessage : Option String) (nowUtc : Int) :
    Consistent (updateWhere (fun row => row.id == jobId) (terminal status errorMessage nowUtc) table) := by
  apply consistent_updateWhere consistent (keepsKeys_terminal status errorMessage nowUtc)
  intro _ _ _ live
  simp [terminal, notLive] at live

theorem setTerminal_eq (consistent : Consistent table) (jobId : String) {status : JobStatus}
    (notLive : status.isLive = false) (errorMessage : Option String) (nowUtc : Int) :
    setTerminal jobId status errorMessage nowUtc table =
      ((requireJob table jobId).map (terminal status errorMessage nowUtc),
        updateWhere (fun row => row.id == jobId) (terminal status errorMessage nowUtc) table) :=
  answerJob_updateJob (keepsKeys_terminal status errorMessage nowUtc)
    (consistent_terminal consistent jobId notLive errorMessage nowUtc).pending

theorem answerJob_refused {rewrite : JobRow → JobRow}
    (refused : ¬ PendingDistinct (updateWhere (fun row => row.id == jobId) rewrite table)) :
    answerJob jobId (updateJob jobId rewrite table) = (.error .pendingIdempotency, table) := by
  rw [updateJob, write, if_neg refused]
  rfl

theorem fail_eq {job : JobRow} (found : getJob table jobId = some job) (errorMessage : String)
    (nowUtc : Int) :
    fail jobId errorMessage nowUtc table =
      if job.maxAttempts ≤ job.attempts then setTerminal jobId .deadLetter (some errorMessage) nowUtc table
      else answerJob jobId (updateJob jobId (requeuedWithBackoff errorMessage job.attempts nowUtc) table) := by
  simp only [fail, requireJob, found]

theorem fail_unknown (absent : getJob table jobId = none) (errorMessage : String) (nowUtc : Int) :
    fail jobId errorMessage nowUtc table = (.error (.unknownJob jobId), table) := by
  simp only [fail, requireJob, absent]

/-! ## Lease recovery -/

theorem consistent_recovered (consistent : Consistent table) (ownerId : String) (nowUtc : Int) :
    Consistent (updateWhere (isLeaseExpired ownerId nowUtc) (recovered nowUtc) table) := by
  apply consistent_updateWhere consistent (keepsKeys_recovered nowUtc)
  intro row _ selected _
  simp only [isLeaseExpired, Bool.and_eq_true, beq_iff_eq] at selected
  rw [selected.1.2]
  rfl

theorem recoverExpiredLeases_eq (consistent : Consistent table) (ownerId : String) (nowUtc : Int) :
    recoverExpiredLeases ownerId nowUtc table =
      (.ok (table.countP (isLeaseExpired ownerId nowUtc)),
        updateWhere (isLeaseExpired ownerId nowUtc) (recovered nowUtc) table) := by
  rw [recoverExpiredLeases, write_eq (consistent_recovered consistent ownerId nowUtc).pending]

end

end SiftKit.Assistant
