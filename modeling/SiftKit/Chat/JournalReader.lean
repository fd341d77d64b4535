import SiftKit.Chat.JournalInvariant

/-! # Reading a journal through a captured head

`readThrough` of `state/chat-journal.ts` is a generator: between the pages, and between the two queries
of one page, other writers may change the database.  Each query of a reading therefore has a store of
its own.
-/

namespace SiftKit.Chat.ChatJournalStore

open SiftKit.Json SiftKit.Failure SiftKit.Runs

/-- The events of a run after one sequence and up to another, in the order of their sequences. -/
def eventsBetween (store : ChatJournalStore) (operationId : String) (low high : Nat) : List EventRow :=
  ((store.eventsOf operationId).filter fun row => low < row.sequence && row.sequence ≤ high).mergeSort
    fun early late => early.sequence ≤ late.sequence

/-- The events of a run after a sequence, in the order of their sequences. -/
def eventsAfter (store : ChatJournalStore) (operationId : String) (low : Nat) : List EventRow :=
  ((store.eventsOf operationId).filter fun row => low < row.sequence).mergeSort fun early late => early.sequence ≤ late.sequence

/-- `length(CAST(body_json AS BLOB))`. -/
def bodyBytes (row : EventRow) : Nat := utf8Length row.bodyJson

/-- The last sequence of a page: as many of the next rows as the limit leaves room for. -/
def pageEnd (limit : Nat) (bytes last : Nat) : List EventRow → Nat
  | [] => last
  | row :: rest =>
    if limit < bytes + bodyBytes row then last else pageEnd limit (bytes + bodyBytes row) row.sequence rest

/-- What a generator yielded, and where it stopped: at a cursor, or with a failure. -/
structure Reading where
  yielded : List ChatJournalEnvelope
  outcome : Except Thrown Nat

namespace Reading

def stop (outcome : Except Thrown Nat) : Reading := ⟨[], outcome⟩

def yield (envelope : ChatJournalEnvelope) (rest : Reading) : Reading := ⟨envelope :: rest.yielded, rest.outcome⟩

/-- More of the same generator, unless it failed. -/
def andThen (reading : Reading) (next : Nat → Reading) : Reading :=
  match reading.outcome with
  | .error _ => reading
  | .ok cursor => ⟨reading.yielded ++ (next cursor).yielded, (next cursor).outcome⟩

end Reading

def sequenceGap : Thrown := .error "Chat journal contains a sequence gap."

def missingEvidence : Thrown := .error "Chat journal is missing committed evidence."

def cursorBeyondHead : Thrown := .error "Chat journal cursor exceeds its captured head."

/-- The rows of a page, one after the other. -/
def readRows (format : JournalFormat) (cursor : Nat) : List EventRow → Reading
  | [] => .stop (.ok cursor)
  | row :: rest =>
    if row.sequence ≠ cursor + 1 then .stop (.error sequenceGap)
    else match toEnvelope format row with
      | .ok envelope => .yield envelope (readRows format row.sequence rest)
      | .error failure => .stop (.error failure)

/-- The pages up to the head; each of them takes one row at least. -/
def readPages (format : JournalFormat) (pageSize pageBytes : Nat) (queries : Nat → ChatJournalStore) (operationId : String)
    (head : Nat) : Nat → Nat → Nat → Reading
  | 0, _, cursor => .stop (.ok cursor)
  | fuel + 1, query, cursor =>
    if cursor < head then
      match ((queries query).eventsBetween operationId cursor head).take (min pageSize (head - cursor)) with
      | [] => .stop (.error missingEvidence)
      | first :: rest =>
        let last := pageEnd pageBytes (bodyBytes first) first.sequence rest
        match (queries (query + 1)).eventsBetween operationId cursor last with
        | [] => .stop (.error missingEvidence)
        | row :: rows => (readRows format cursor (row :: rows)).andThen
            (readPages format pageSize pageBytes queries operationId head fuel (query + 2))
    else .stop (.ok cursor)

def readThroughPaged (format : JournalFormat) (pageSize pageBytes : Nat) (queries : Nat → ChatJournalStore)
    (operationId : String) (afterSequence throughSequence : Nat) : Reading :=
  if !format.strings.isUuid operationId then .stop (.error .invalid)
  else if throughSequence < afterSequence then .stop (.error cursorBeyondHead)
  else readPages format pageSize pageBytes queries operationId throughSequence (throughSequence - afterSequence) 0 afterSequence

def readThrough (format : JournalFormat) (queries : Nat → ChatJournalStore) (operationId : String)
    (afterSequence throughSequence : Nat) : Reading :=
  readThroughPaged format CHAT_JOURNAL_READ_PAGE_SIZE CHAT_JOURNAL_READ_PAGE_BYTES queries operationId afterSequence throughSequence

/-! ## Pages of a numbered run -/

section Pages

variable {format : JournalFormat}

def NumberedFrom (start : Nat) (rows : List EventRow) : Prop := rows.map EventRow.sequence = List.range' start rows.length

variable {start : Nat} {rows : List EventRow} {operationId : String} {envelopes : List ChatJournalEnvelope}
  {queries : Nat → ChatJournalStore}

theorem NumberedFrom.tail {row : EventRow} {rest : List EventRow} (numbered : NumberedFrom start (row :: rest)) :
    row.sequence = start ∧ NumberedFrom (start + 1) rest := by
  unfold NumberedFrom at *
  rw [List.map_cons, List.length_cons, List.range'_succ] at numbered
  exact List.cons.inj numbered

theorem NumberedFrom.drop (numbered : NumberedFrom start rows) (count : Nat) :
    NumberedFrom (start + count) (rows.drop count) := by
  unfold NumberedFrom at *
  rw [List.map_drop, numbered, List.drop_range', List.length_drop, Nat.mul_one]

theorem filter_between (numbered : NumberedFrom (start + 1) rows) (low high : Nat) :
    rows.filter (fun row => low < row.sequence && row.sequence ≤ high) = (rows.take (high - start)).drop (low - start) := by
  induction rows generalizing start with
  | nil => simp
  | cons row rest ih =>
    obtain ⟨sequence, restNumbered⟩ := numbered.tail
    rw [List.filter_cons, ih restNumbered, sequence]
    by_cases reached : start + 1 ≤ high
    · have more : high - start = high - (start + 1) + 1 := by omega
      rw [more, List.take_succ_cons]
      by_cases before : low < start + 1
      · have first : low - start = 0 := by omega
        have next : low - (start + 1) = 0 := by omega
        simp [before, reached, first, next]
      · have skipped : low - start = low - (start + 1) + 1 := by omega
        simp [before, skipped]
    · have none : high - start = 0 := by omega
      have still : high - (start + 1) = 0 := by omega
      simp [reached, none, still]

theorem mergeSort_numbered {part : List EventRow} (numbered : NumberedFrom start rows) (sublist : part.Sublist rows) :
    part.mergeSort (fun early late => early.sequence ≤ late.sequence) = part := by
  apply List.mergeSort_of_pairwise
  have sorted : (rows.map EventRow.sequence).Pairwise (· < ·) := by
    rw [numbered]
    exact List.pairwise_lt_range'
  exact ((List.pairwise_map.mp sorted).sublist sublist).imp fun lower => by simpa using Nat.le_of_lt lower

theorem eventsBetween_eq {store : ChatJournalStore} (numbered : NumberedFrom 1 (store.eventsOf operationId))
    (low high : Nat) :
    store.eventsBetween operationId low high = ((store.eventsOf operationId).take high).drop low := by
  unfold eventsBetween
  rw [mergeSort_numbered numbered List.filter_sublist, filter_between numbered, Nat.sub_zero, Nat.sub_zero]

/-- The run of the journal that a reading sees, in every query. -/
structure Sees (queries : Nat → ChatJournalStore) (operationId : String) (rows : List EventRow) : Prop where
  numbered : ∀ query, NumberedFrom 1 ((queries query).eventsOf operationId)
  grown : ∀ query, rows <+: (queries query).eventsOf operationId

theorem pageEnd_between {limit bytes last high : Nat} (numbered : NumberedFrom (last + 1) rows) (low : start < last)
    (fits : last + rows.length ≤ high) :
    start < pageEnd limit bytes last rows ∧ pageEnd limit bytes last rows ≤ high := by
  induction rows generalizing bytes last with
  | nil => exact ⟨low, fits⟩
  | cons row rest ih =>
    obtain ⟨sequence, restNumbered⟩ := numbered.tail
    rw [List.length_cons] at fits
    rw [pageEnd]
    split
    · exact ⟨low, by omega⟩
    · rw [sequence]
      exact ih restNumbered (by omega) (by omega)

theorem readRows_eq {cursor : Nat} (numbered : NumberedFrom (cursor + 1) rows)
    (read : rows.mapM (toEnvelope format) = .ok envelopes) :
    readRows format cursor rows = ⟨envelopes, .ok (cursor + rows.length)⟩ := by
  induction rows generalizing cursor envelopes with
  | nil =>
    cases read
    rfl
  | cons row rest ih =>
    obtain ⟨sequence, restNumbered⟩ := numbered.tail
    simp only [List.mapM_cons, bind_eq_ok, pure_eq_ok] at read
    obtain ⟨envelope, isEnvelope, others, areOthers, rfl⟩ := read
    rw [← sequence] at restNumbered
    have tail := ih restNumbered areOthers
    rw [readRows, if_neg (by simpa using sequence), isEnvelope]
    change Reading.yield envelope (readRows format row.sequence rest) = _
    have counted : row.sequence + rest.length = cursor + (row :: rest).length := by
      rw [sequence, List.length_cons]
      omega
    rw [tail, counted]
    rfl

theorem NumberedFrom.take (numbered : NumberedFrom start rows) (count : Nat) :
    NumberedFrom start (rows.take count) := by
  unfold NumberedFrom at *
  rw [List.map_take, numbered, List.length_take]
  by_cases short : count ≤ rows.length
  · rw [List.take_range'_of_length_ge short, Nat.min_eq_left short]
  · have all : rows.length ≤ count := by omega
    rw [List.take_range'_of_length_le all, Nat.min_eq_right all]

theorem NumberedFrom.stretch (numbered : NumberedFrom 1 rows) (low high : Nat) :
    NumberedFrom (low + 1) ((rows.take high).drop low) := by
  rw [Nat.add_comm]
  exact (numbered.take high).drop low

theorem length_stretch {Item : Type} {items : List Item} {low high : Nat} (committed : high ≤ items.length) :
    ((items.take high).drop low).length = high - low := by
  rw [List.length_drop, List.length_take, Nat.min_eq_left committed]

theorem stretch_append {Item : Type} {items : List Item} {low middle high : Nat} (early : low ≤ middle) (late : middle ≤ high)
    (committed : high ≤ items.length) :
    (items.take middle).drop low ++ (items.take high).drop middle = (items.take high).drop low := by
  have parts : items.take high = items.take middle ++ (items.take high).drop middle := by
    have split := List.take_append_drop middle (items.take high)
    rwa [List.take_take, Nat.min_eq_left late, eq_comm] at split
  have within : low ≤ (items.take middle).length := by
    rw [List.length_take]
    omega
  conv_rhs => rw [parts]
  rw [List.drop_append_of_le_length within]

/-- A stretch of rows is read back as the stretch of what all of them are read back as. -/
theorem mapM_stretch (read : rows.mapM (toEnvelope format) = .ok envelopes) (low high : Nat) :
    ((rows.take high).drop low).mapM (toEnvelope format) = .ok ((envelopes.take high).drop low) :=
  mapM_eq_ok.mpr (List.forall₂_drop low (List.forall₂_take high (mapM_eq_ok.mp read)))

/-- The first query of a page and its second one, in terms of the events that were there when the reading began. -/
theorem Sees.between (sees : Sees queries operationId rows) (query : Nat) {low high : Nat}
    (committed : high ≤ rows.length) :
    (queries query).eventsBetween operationId low high = (rows.take high).drop low := by
  obtain ⟨more, isMore⟩ := sees.grown query
  rw [eventsBetween_eq (sees.numbered query), ← isMore, List.take_append_of_le_length committed]

section

variable {pageSize pageBytes : Nat} (sees : Sees queries operationId rows) (numbered : NumberedFrom 1 rows)
  (read : rows.mapM (toEnvelope format) = .ok envelopes)

include sees numbered read

/-- The pages from a cursor to the head yield what lies between them. -/
theorem readPages_eq {head : Nat} (positive : 0 < pageSize) (committed : head ≤ rows.length)
    (fuel query cursor : Nat) (enough : head - cursor ≤ fuel) (before : cursor ≤ head) :
    readPages format pageSize pageBytes queries operationId head fuel query cursor =
      ⟨(envelopes.take head).drop cursor, .ok head⟩ := by
  have sameLength : envelopes.length = rows.length := (mapM_eq_ok.mp read).length_eq.symm
  have atHead : (envelopes.take head).drop head = [] := by
    rw [List.drop_eq_nil_iff, List.length_take]
    omega
  induction fuel generalizing query cursor with
  | zero =>
    obtain rfl : cursor = head := by omega
    rw [atHead, readPages, Reading.stop]
  | succ fuel ih =>
    rw [readPages]
    split
    next more =>
      rw [sees.between query committed]
      have stretchLength : ((rows.take head).drop cursor).length = head - cursor := length_stretch committed
      have stretchNumbered := numbered.stretch cursor head
      generalize (rows.take head).drop cursor = stretch at stretchLength stretchNumbered
      cases isPage : stretch.take (min pageSize (head - cursor)) with
      | nil =>
        rw [List.take_eq_nil_iff] at isPage
        cases isPage with
        | inl noRoom => omega
        | inr empty =>
          rw [empty] at stretchLength
          simp at stretchLength
          omega
      | cons first rest =>
        have pageNumbered := stretchNumbered.take (min pageSize (head - cursor))
        have pageLength := congrArg List.length isPage
        rw [isPage] at pageNumbered
        rw [List.length_take, List.length_cons] at pageLength
        obtain ⟨sequence, restNumbered⟩ := pageNumbered.tail
        rw [← sequence] at restNumbered
        have ends : cursor < pageEnd pageBytes (bodyBytes first) first.sequence rest ∧
            pageEnd pageBytes (bodyBytes first) first.sequence rest ≤ head :=
          pageEnd_between restNumbered (by omega) (by omega)
        simp only
        generalize pageEnd pageBytes (bodyBytes first) first.sequence rest = last at ends
        obtain ⟨low, high⟩ := ends
        rw [sees.between (query + 1) (by omega)]
        have yielded := readRows_eq (numbered.stretch cursor last) (mapM_stretch read cursor last)
        rw [length_stretch (by omega)] at yielded
        cases isRows : (rows.take last).drop cursor with
        | nil =>
          have pageRows : ((rows.take last).drop cursor).length = last - cursor := length_stretch (by omega)
          rw [isRows] at pageRows
          simp at pageRows
          omega
        | cons row others =>
          rw [isRows] at yielded
          have reached : cursor + (last - cursor) = last := by omega
          simp only [yielded, Reading.andThen, reached]
          rw [ih (query + 2) last (by omega) high, stretch_append (by omega) high (by omega)]
    next done =>
      obtain rfl : cursor = head := by omega
      rw [atHead, Reading.stop]

/-- Whatever happens to the database in between, a reading through a head that was committed when it
began yields the events up to the head, and nothing fails. -/
theorem readThroughPaged_eq (positive : 0 < pageSize) (isUuid : format.strings.isUuid operationId = true)
    {head cursor : Nat} (committed : head ≤ rows.length) (before : cursor ≤ head) :
    readThroughPaged format pageSize pageBytes queries operationId cursor head =
      ⟨(envelopes.take head).drop cursor, .ok head⟩ := by
  rw [readThroughPaged, isUuid, Bool.not_true, if_neg Bool.false_ne_true, if_neg (by omega)]
  exact readPages_eq sees numbered read positive committed _ _ _ (Nat.le_refl _) before

end

end Pages

end SiftKit.Chat.ChatJournalStore
