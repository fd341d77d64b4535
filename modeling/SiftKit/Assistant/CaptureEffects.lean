import SiftKit.Assistant.Captures
import SiftKit.Assistant.EvidenceContract

/-! # What happens to captures and their pixels

An evidence record that is not retired holds its blob: no recording and no expiry of another record takes
it away.  A retention pass moves some retirable captures of its owner to a final state, in the order of
their arrival, and touches nothing else.
-/

namespace SiftKit.Assistant.Captures

open SiftKit.Assistant SiftKit.Failure SiftKit.Json SiftKit.Tables

variable {Envelope Digest : Type}

/-! ## Evidence that holds its pixels -/

/-- A record that is not retired, of a blob that is not deleted. -/
def Held (evidence : EvidenceState Envelope Digest) (evidenceId : String) : Prop :=
  ∃ record blobId blob, evidence.getEvidence evidenceId = some record ∧ EvidenceState.isRetired record.status = false ∧
    record.blobId = some blobId ∧ evidence.requireBlob blobId = .ok blob ∧ blob.deletedAtUtc = none

def hasPixels (evidence : EvidenceState Envelope Digest) (evidenceId : String) : Bool :=
  match evidence.getEvidence evidenceId with
  | none => false
  | some record =>
    match hasReadableBlob evidence record with
    | .ok readable => readable
    | .error _ => false

variable {evidence after : EvidenceState Envelope Digest} {evidenceId : String} {record : EvidenceRow Digest}

theorem Held.hasReadableBlob (held : Held evidence evidenceId)
    (found : evidence.getEvidence evidenceId = some record) : hasReadableBlob evidence record = .ok true := by
  obtain ⟨stored, blobId, blob, isStored, -, refers, isBlob, live⟩ := held
  rw [found] at isStored
  cases isStored
  simp [Captures.hasReadableBlob, refers, isBlob, live, Except.map]

theorem Held.hasPixels (held : Held evidence evidenceId) : hasPixels evidence evidenceId = true := by
  have readable := held
  obtain ⟨record, -, -, found, -⟩ := held
  simp [Captures.hasPixels, found, readable.hasReadableBlob found]

theorem held_of_hasPixels (pixels : hasPixels evidence evidenceId = true)
    (active : ∀ record, evidence.getEvidence evidenceId = some record → EvidenceState.isRetired record.status = false) :
    Held evidence evidenceId := by
  unfold Captures.hasPixels at pixels
  split at pixels
  · cases pixels
  next record found =>
    unfold Captures.hasReadableBlob at pixels
    cases refers : record.blobId with
    | none => simp [refers] at pixels
    | some blobId =>
      cases isBlob : evidence.requireBlob blobId with
      | error failure => simp [refers, isBlob, Except.map] at pixels
      | ok blob =>
        have live : blob.deletedAtUtc = none := by simpa [refers, isBlob, Except.map] using pixels
        exact ⟨record, blobId, blob, found, active record found, refers, isBlob, live⟩

theorem find?_append_of_found {Row : Type} {query : Row → Bool} {rows : List Row} {row : Row} (more : List Row)
    (found : rows.find? query = some row) : (rows ++ more).find? query = some row := by
  rw [List.find?_append, found]
  rfl

theorem Held.append {moreRecords : List (EvidenceRow Digest)} {moreBlobs : List (BlobRow Digest)}
    (held : Held evidence evidenceId) (records : after.records = evidence.records ++ moreRecords)
    (blobs : after.blobs = evidence.blobs ++ moreBlobs) : Held after evidenceId := by
  obtain ⟨record, blobId, blob, found, active, refers, isBlob, live⟩ := held
  refine ⟨record, blobId, blob, ?_, active, refers, ?_, live⟩
  · unfold EvidenceState.getEvidence
    rw [records]
    exact find?_append_of_found moreRecords found
  · unfold EvidenceState.requireBlob at isBlob ⊢
    split at isBlob
    next stored isStored =>
      cases isBlob
      rw [blobs, find?_append_of_found moreBlobs isStored]
    · cases isBlob

section

variable [DecidableEq Digest]

theorem Held.recordBlobEvidence {platform : EvidencePlatform Envelope Digest} {ownerId sourceEventId mimeType : String}
    {bytes : Bytes} {draw : EvidenceDraw} (held : Held evidence evidenceId)
    (recorded : evidence.recordBlobEvidence platform ownerId sourceEventId mimeType bytes draw = .ok (record, after)) :
    Held after evidenceId := by
  rcases recordEvidence_cases recorded with ⟨-, same⟩ | ⟨-, blob, stored, persisted, -, isAfter⟩
  · simp only at same
    rw [same]
    exact held
  · simp only at isAfter
    rw [isAfter]
    rcases persistBlob_cases persisted with ⟨-, rfl⟩ | ⟨-, -, -, rfl⟩
    · exact held.append rfl (List.append_nil stored.blobs).symm
    · exact held.append rfl rfl

theorem Held.expireEvidence {otherId nowUtc : String} (held : Held evidence evidenceId)
    (other : otherId ≠ evidenceId) (expired : evidence.expireEvidence otherId nowUtc = .ok (record, after)) :
    Held after evidenceId := by
  obtain ⟨stored, blobId, blob, found, active, refers, isBlob, live⟩ := held
  have kept : (evidence.setStatus otherId .expired).getEvidence evidenceId = some stored := by
    unfold EvidenceState.getEvidence EvidenceState.setStatus
    simp only
    rw [find?_updateWhere_other]
    · exact found
    · intro row _ selected
      simp only [decide_eq_true_eq] at selected
      simp [selected, other]
  obtain ⟨-, -, marked | ⟨purgedId, purged, -, unheld, isPurged, isAfter⟩⟩ := retire_cases expired
  · simp only at marked
    rw [marked]
    exact ⟨stored, blobId, blob, kept, active, refers, isBlob, live⟩
  · simp only at isAfter
    rw [isAfter]
    -- the record itself still holds its blob, so that blob is not the purged one
    have otherBlob : blobId ≠ purgedId := by
      rintro rfl
      have holds := List.countP_eq_zero.mp unheld stored (List.mem_of_find?_eq_some kept)
      simp [refers, active] at holds
    have purgedHasId : purged.id = purgedId := (requireBlob_eq_ok isPurged).2
    refine ⟨stored, blobId, blob, kept, active, refers, ?_, live⟩
    unfold EvidenceState.requireBlob EvidenceState.purge EvidenceState.setStatus
    unfold EvidenceState.requireBlob at isBlob
    simp only
    rw [find?_updateWhere_other]
    · exact isBlob
    · intro row _ selected
      simp only [decide_eq_true_eq, purgedHasId] at selected
      simp [selected, otherBlob.symm]

end

/-! ## Bytes -/

@[simp] theorem sumBytes_nil : sumBytes [] = 0 := rfl

@[simp] theorem sumBytes_cons (row : CaptureRow) (rows : List CaptureRow) :
    sumBytes (row :: rows) = row.byteLength + sumBytes rows := by
  simp [sumBytes]

@[simp] theorem sumBytes_append (first second : List CaptureRow) :
    sumBytes (first ++ second) = sumBytes first + sumBytes second := by
  simp [sumBytes]

theorem sumBytes_perm {first second : List CaptureRow} (same : first.Perm second) : sumBytes first = sumBytes second :=
  (same.map _).sum_nat

theorem sumBytes_filter_add (query condition : CaptureRow → Bool) (rows : List CaptureRow) :
    sumBytes (rows.filter fun row => query row && !condition row) + sumBytes (rows.filter fun row => query row && condition row) =
      sumBytes (rows.filter query) := by
  induction rows with
  | nil => rfl
  | cons row rest ih =>
    simp only [List.filter_cons]
    cases condition row with
    | true =>
      cases query row with
      | true => simp; omega
      | false => simpa using ih
    | false =>
      cases query row with
      | true => simp; omega
      | false => simpa using ih

/-! ## Rows that retention takes -/

/-- The rows with the given ids have gone to a final state; nothing else has changed in the queue. -/
def taken (state : CaptureState Envelope Digest) (kind : CaptureQueueState) (ids : List String) : List CaptureRow :=
  updateWhere (fun row => ids.contains row.evidenceId)
    (fun row => { row with state := kind, updatedAtUtc := state.nowMs }) state.queue

/-- What a part of a retention pass does: it takes the rows with some ids, and the pixels of the others stay. -/
structure Takes (kind : CaptureQueueState) (ids : List String) (before after : CaptureState Envelope Digest) : Prop where
  now : after.nowMs = before.nowMs
  runs : after.runs = before.runs
  queue : after.queue = taken before kind ids
  held : ∀ evidenceId, evidenceId ∉ ids → Held before.evidence evidenceId → Held after.evidence evidenceId

theorem Takes.none (kind : CaptureQueueState) (state : CaptureState Envelope Digest) : Takes kind [] state state where
  now := rfl
  runs := rfl
  queue := (updateWhere_of_none fun _ _ => rfl).symm
  held := fun _ _ held => held

theorem Takes.trans {kind : CaptureQueueState} {first second : List String} {before middle after : CaptureState Envelope Digest}
    (early : Takes kind first before middle) (late : Takes kind second middle after) :
    Takes kind (first ++ second) before after where
  now := late.now.trans early.now
  runs := late.runs.trans early.runs
  queue := by
    rw [late.queue, taken, early.queue, taken, early.now, taken, updateWhere, updateWhere, updateWhere, List.map_map]
    apply List.map_congr_left
    intro row _
    by_cases inFirst : row.evidenceId ∈ first
    · by_cases inSecond : row.evidenceId ∈ second
      · simp [inFirst, inSecond]
      · simp [inFirst, inSecond]
    · by_cases inSecond : row.evidenceId ∈ second
      · simp [inFirst, inSecond]
      · simp [inFirst, inSecond]
  held := fun evidenceId outside held => by
    rw [List.mem_append, not_or] at outside
    exact late.held evidenceId outside.2 (early.held evidenceId outside.1 held)

section

variable [DecidableEq Digest]

theorem takes_retire (toISOString : Int → String) (state : CaptureState Envelope Digest) (row : CaptureRow)
    (kind : CaptureQueueState) (recordFails : String → Bool) :
    Takes kind [row.evidenceId] state (state.retire toISOString row kind recordFails).2 := by
  have queue : (state.setState row.evidenceId kind).queue = taken state kind [row.evidenceId] := by
    simp [CaptureState.setState, taken, updateWhere]
  unfold CaptureState.retire
  simp only
  split
  · exact ⟨rfl, rfl, queue, fun _ _ held => held⟩
  next retired evidence expired =>
    refine ⟨rfl, rfl, queue, fun evidenceId outside held => ?_⟩
    have other : row.evidenceId ≠ evidenceId := by
      rintro rfl
      exact outside List.mem_cons_self
    exact held.expireEvidence other expired

def captureIds (rows : List CaptureRow) : List String := rows.map fun row => row.evidenceId

/-- The first loop takes expired rows only, and all of them if it gets to its end. -/
theorem takes_expireRows (toISOString : Int → String) (cutoff : Int) (recordFails : String → Bool)
    (rows : List CaptureRow) (state : CaptureState Envelope Digest) :
    ∃ ids, Takes .expired ids state (CaptureState.expireRows toISOString cutoff recordFails rows state).2 ∧
      (∀ id ∈ ids, id ∈ captureIds (rows.filter fun row => decide (row.enqueuedAtUtc < cutoff))) ∧
      ∀ count, (CaptureState.expireRows toISOString cutoff recordFails rows state).1 = .ok count →
        ids = captureIds (rows.filter fun row => decide (row.enqueuedAtUtc < cutoff)) := by
  induction rows generalizing state with
  | nil => exact ⟨[], Takes.none _ _, by simp, fun _ _ => rfl⟩
  | cons row rest ih =>
    unfold CaptureState.expireRows
    by_cases old : row.enqueuedAtUtc < cutoff
    · have first := takes_retire toISOString state row .expired recordFails
      rw [if_pos old]
      cases retired : state.retire toISOString row .expired recordFails with
      | mk ended after =>
        rw [retired] at first
        cases ended with
        | error failure =>
          refine ⟨[row.evidenceId], first, ?_, fun _ failed => nomatch failed⟩
          simp [captureIds, old]
        | ok _ =>
          obtain ⟨ids, takes, expired, complete⟩ := ih after
          refine ⟨row.evidenceId :: ids, first.trans takes, ?_, ?_⟩
          · intro id member
            rw [List.filter_cons, if_pos (by simpa using old)]
            rcases List.mem_cons.mp member with rfl | later
            · simp [captureIds]
            · exact List.mem_cons_of_mem _ (expired id later)
          · intro count ended
            obtain ⟨restCount, restEnded, -⟩ := map_eq_ok.mp ended
            rw [List.filter_cons, if_pos (by simpa using old), complete restCount restEnded]
            rfl
    · rw [if_neg old, List.filter_cons, if_neg (by simpa using old)]
      exact ih state

/-- The second loop takes the first rows, each while the total still exceeds the limit, until it does not any more
or no row is left. -/
theorem takes_evictRows (toISOString : Int → String) (limitBytes : Rat) (recordFails : String → Bool)
    (rows : List CaptureRow) (totalBytes : Int) (state : CaptureState Envelope Digest) :
    ∃ early late, rows = early ++ late ∧
      Takes .evicted (captureIds early) state
        (CaptureState.evictRows toISOString limitBytes recordFails totalBytes rows state).2 ∧
      (∀ before row later, early = before ++ row :: later → limitBytes < ((totalBytes - sumBytes before : Int) : Rat)) ∧
      ∀ count, (CaptureState.evictRows toISOString limitBytes recordFails totalBytes rows state).1 = .ok count →
        late = [] ∨ ((totalBytes - sumBytes early : Int) : Rat) ≤ limitBytes := by
  induction rows generalizing totalBytes state with
  | nil => exact ⟨[], [], rfl, Takes.none _ _, by simp, fun _ _ => Or.inl rfl⟩
  | cons row rest ih =>
    unfold CaptureState.evictRows
    by_cases within : (totalBytes : Rat) ≤ limitBytes
    · rw [if_pos within]
      exact ⟨[], row :: rest, rfl, Takes.none _ _, by simp, fun _ _ => Or.inr (by simpa using within)⟩
    · have first := takes_retire toISOString state row .evicted recordFails
      rw [if_neg within]
      cases retired : state.retire toISOString row .evicted recordFails with
      | mk ended after =>
        rw [retired] at first
        have exceeds : limitBytes < (totalBytes : Rat) := not_le.mp within
        cases ended with
        | error failure =>
          refine ⟨[row], rest, rfl, first, ?_, fun _ failed => nomatch failed⟩
          rintro before other later split
          rcases List.append_eq_singleton_iff.mp split.symm with ⟨rfl, -⟩ | ⟨-, impossible⟩
          · simpa using exceeds
          · cases impossible
        | ok _ =>
          obtain ⟨early, late, split, takes, exceeded, complete⟩ := ih (totalBytes - row.byteLength) after
          refine ⟨row :: early, late, by rw [split]; rfl, first.trans takes, ?_, ?_⟩
          · intro before other later isSplit
            cases before with
            | nil => simpa using exceeds
            | cons head before =>
              obtain ⟨rfl, isRest⟩ := List.cons.inj isSplit
              have bound := exceeded before other later isRest
              rwa [show totalBytes - row.byteLength - sumBytes before = totalBytes - sumBytes (row :: before) by
                rw [sumBytes_cons]; omega] at bound
          · intro count ended
            obtain ⟨restCount, restEnded, -⟩ := map_eq_ok.mp ended
            rcases complete restCount restEnded with isEmpty | within
            · exact Or.inl isEmpty
            · right
              rwa [show totalBytes - row.byteLength - sumBytes early = totalBytes - sumBytes (row :: early) by
                rw [sumBytes_cons]; omega] at within

end

end SiftKit.Assistant.Captures
