import SiftKit.Status.FlushQueueEffects

/-! # The flush worker and its batches

What a worker has received and what it has sent agree with the batches that left the buffer: it has in hand
only batches that are not written and did not go back, each after those it wrote, and its answers are true.
-/

namespace SiftKit.Status.Flush

open SiftKit.Tables

section

variable {Letter : Type}

def WorkerEvent.isAnswer : WorkerEvent → Bool
  | .answered _ _ _ => true
  | .error _ => false
  | .exit => false

/-- What a worker has received and sent agrees with the batches. -/
structure WorkerAgrees (nextId : Nat) (batches : List (Batch Letter)) (worker : Worker Letter) : Prop where
  requested : ∀ request ∈ worker.inbox, ∃ batch ∈ batches, batch.id = request.id ∧ batch.runId = request.runId ∧
    batch.entries = request.entries ∧ batch.written = false ∧ batch.fate ≠ .putBack
  /-- Requests are taken in the order of their ids. -/
  ascending : worker.inbox.Pairwise fun early late => early.id < late.id
  later : ∀ request ∈ worker.inbox, ∀ batch ∈ batches, batch.written = true → batch.id < request.id
  numbered : ∀ id ok message, WorkerEvent.answered id ok message ∈ worker.outbox → id < nextId
  accepted : ∀ id message, WorkerEvent.answered id true message ∈ worker.outbox →
    ∃ batch ∈ batches, batch.id = id ∧ batch.written = true
  refused : ∀ id message, WorkerEvent.answered id false message ∈ worker.outbox →
    (∀ batch ∈ batches, batch.id = id → batch.written = false) ∧ ∀ request ∈ worker.inbox, request.id ≠ id
  /-- No answer follows the end of the worker. -/
  answersFirst : worker.outbox.Pairwise fun early late => late.isAnswer = true → early.isAnswer = true
  alive : worker.alive = true → ∀ event ∈ worker.outbox, event.isAnswer = true
  stopped : worker.alive = false → worker.inbox = []

namespace WorkerAgrees

variable {nextId : Nat} {batches : List (Batch Letter)} {worker : Worker Letter} {request : FlushRequest Letter}

theorem lt_nextId (agrees : WorkerAgrees nextId batches worker) (numbered : ∀ batch ∈ batches, batch.id < nextId)
    (member : request ∈ worker.inbox) : request.id < nextId := by
  obtain ⟨batch, isBatch, sameId, _⟩ := agrees.requested request member
  rw [← sameId]
  exact numbered batch isBatch

theorem opened (nextId number : Nat) (batches : List (Batch Letter)) :
    WorkerAgrees nextId batches { number, alive := true, inbox := [], outbox := [] } := by
  constructor <;> simp

variable {batch : Batch Letter}

theorem snoc (agrees : WorkerAgrees nextId batches worker) (unwritten : batch.written = false) :
    WorkerAgrees (nextId + 1) (batches ++ [batch]) worker where
  requested := fun request member => by
    obtain ⟨requested, isBatch, agreed⟩ := agrees.requested request member
    exact ⟨requested, List.mem_append_left _ isBatch, agreed⟩
  ascending := agrees.ascending
  later := fun request member => forall_mem_snoc.mpr ⟨agrees.later request member, by simp [unwritten]⟩
  numbered := fun id ok message sent => Nat.lt_succ_of_lt (agrees.numbered id ok message sent)
  accepted := fun id message sent => by
    obtain ⟨accepted, isBatch, agreed⟩ := agrees.accepted id message sent
    exact ⟨accepted, List.mem_append_left _ isBatch, agreed⟩
  refused := fun id message sent =>
    ⟨forall_mem_snoc.mpr ⟨(agrees.refused id message sent).1, fun _ => unwritten⟩, (agrees.refused id message sent).2⟩
  answersFirst := agrees.answersFirst
  alive := agrees.alive
  stopped := agrees.stopped

theorem post (agrees : WorkerAgrees nextId batches worker) (numbered : ∀ batch ∈ batches, batch.id < nextId)
    (isNext : batch.id = nextId) (unwritten : batch.written = false) (fresh : batch.fate ≠ .putBack) :
    WorkerAgrees (nextId + 1) (batches ++ [batch])
      (FlushState.Worker.post worker { id := nextId, runId := batch.runId, entries := batch.entries }) := by
  have known := agrees.snoc unwritten
  unfold FlushState.Worker.post
  split
  next isAlive =>
    exact {
      requested := forall_mem_snoc.mpr ⟨known.requested, batch, by simp, isNext, rfl, rfl, unwritten, fresh⟩
      ascending := by
        rw [List.pairwise_append]
        refine ⟨agrees.ascending, List.pairwise_singleton _ _, ?_⟩
        intro early isEarly late isLate
        rw [List.mem_singleton.mp isLate]
        exact agrees.lt_nextId numbered isEarly
      later := by
        have newest := forall_mem_snoc.mpr ⟨fun other isBatch (_ : other.written = true) => numbered other isBatch,
          show batch.written = true → batch.id < nextId by simp [unwritten]⟩
        exact forall_mem_snoc.mpr ⟨known.later, newest⟩
      numbered := known.numbered
      accepted := known.accepted
      refused := by
        intro id message sent
        obtain ⟨unknown, apart⟩ := known.refused id message sent
        exact ⟨unknown, forall_mem_snoc.mpr ⟨apart, Nat.ne_of_gt (agrees.numbered id false message sent)⟩⟩
      answersFirst := known.answersFirst
      alive := known.alive
      stopped := fun dead => by simp [isAlive] at dead }
  · exact known

theorem retag {earlier : List (Batch Letter)}
    (agrees : WorkerAgrees nextId (earlier ++ [batch]) worker) {fate : BatchFate}
    (isOut : fate = .putBack → ∀ request ∈ worker.inbox, request.id ≠ batch.id) :
    WorkerAgrees nextId (earlier ++ [{ batch with fate }]) worker where
  requested := fun request member => by
    obtain ⟨requested, isBatch, sameId, agreed⟩ := agrees.requested request member
    rcases List.mem_append.mp isBatch with old | last
    · exact ⟨requested, List.mem_append_left _ old, sameId, agreed⟩
    · rw [List.mem_singleton.mp last] at sameId agreed
      refine ⟨{ batch with fate }, by simp, sameId, agreed.1, agreed.2.1, agreed.2.2.1, fun isPutBack => ?_⟩
      exact isOut isPutBack request member sameId.symm
  ascending := agrees.ascending
  later := fun request member => by
    have known := forall_mem_snoc.mp (agrees.later request member)
    exact forall_mem_snoc.mpr ⟨known.1, known.2⟩
  numbered := agrees.numbered
  accepted := fun id message sent => by
    obtain ⟨accepted, isBatch, sameId, written⟩ := agrees.accepted id message sent
    rcases List.mem_append.mp isBatch with old | last
    · exact ⟨accepted, List.mem_append_left _ old, sameId, written⟩
    · rw [List.mem_singleton.mp last] at sameId written
      exact ⟨{ batch with fate }, by simp, sameId, written⟩
  refused := fun id message sent => by
    obtain ⟨unwritten, apart⟩ := agrees.refused id message sent
    obtain ⟨before, last⟩ := forall_mem_snoc.mp unwritten
    exact ⟨forall_mem_snoc.mpr ⟨before, last⟩, apart⟩
  answersFirst := agrees.answersFirst
  alive := agrees.alive
  stopped := agrees.stopped

section

variable (agrees : WorkerAgrees nextId batches worker) {event : WorkerEvent} {later : List WorkerEvent}
  (sent : worker.outbox = event :: later)

include agrees sent

theorem receive : WorkerAgrees nextId batches { worker with outbox := later } where
  requested := agrees.requested
  ascending := agrees.ascending
  later := agrees.later
  numbered := fun id ok message isLater => agrees.numbered id ok message (by simp [sent, isLater])
  accepted := fun id message isLater => agrees.accepted id message (by simp [sent, isLater])
  refused := fun id message isLater => agrees.refused id message (by simp [sent, isLater])
  answersFirst := by
    have ordered := agrees.answersFirst
    rw [sent, List.pairwise_cons] at ordered
    exact ordered.2
  alive := fun isAlive event isLater => agrees.alive isAlive event (by simp [sent, isLater])
  stopped := agrees.stopped

theorem no_answer (isEnd : event.isAnswer = false) (id : Nat) (ok : Bool) (message : String) :
    WorkerEvent.answered id ok message ∉ worker.outbox := by
  have ordered := agrees.answersFirst
  rw [sent, List.pairwise_cons] at ordered
  intro isSent
  rw [sent, List.mem_cons] at isSent
  rcases isSent with rfl | isLater
  · cases isEnd
  · have answer := ordered.1 _ isLater rfl
    rw [isEnd] at answer
    cases answer

theorem inbox_eq_nil (isEnd : event.isAnswer = false) : worker.inbox = [] := by
  cases isAlive : worker.alive with
  | false => exact agrees.stopped isAlive
  | true =>
    have answer := agrees.alive isAlive event (by simp [sent])
    rw [isEnd] at answer
    cases answer

end

section

variable (agrees : WorkerAgrees nextId batches worker)

include agrees

theorem alive_of_request (member : request ∈ worker.inbox) : worker.alive = true := by
  cases isAlive : worker.alive with
  | true => rfl
  | false =>
    rw [agrees.stopped isAlive] at member
    cases member

theorem answersFirst_snoc (isAlive : worker.alive = true) (event : WorkerEvent) :
    (worker.outbox ++ [event]).Pairwise fun early late => late.isAnswer = true → early.isAnswer = true := by
  rw [List.pairwise_append]
  refine ⟨agrees.answersFirst, List.pairwise_singleton _ _, ?_⟩
  intro early isEarly late _ _
  exact agrees.alive isAlive early isEarly

theorem head
    {later : List (FlushRequest Letter)} (received : worker.inbox = request :: later) :
    (∀ other ∈ later, request.id < other.id) ∧ later.Pairwise fun early late => early.id < late.id := by
  have ordered := agrees.ascending
  rw [received, List.pairwise_cons] at ordered
  exact ordered

theorem unwritten_of_request (member : request ∈ worker.inbox) (isBatch : batch ∈ batches)
    (sameId : batch.id = request.id) : batch.written = false := by
  cases written : batch.written with
  | false => rfl
  | true =>
    have less := agrees.later request member batch isBatch written
    omega

theorem answer (isAlive : worker.alive = true) {answered : Nat}
    (known : answered < nextId) (isOk : Bool) (text : String) :
    (∀ id ok message, WorkerEvent.answered id ok message ∈ worker.outbox ++ [.answered answered isOk text] → id < nextId) ∧
      ∀ event ∈ worker.outbox ++ [.answered answered isOk text], event.isAnswer = true := by
  refine ⟨fun id ok message sent => ?_, forall_mem_snoc.mpr ⟨agrees.alive isAlive, rfl⟩⟩
  rcases List.mem_append.mp sent with old | new
  · exact agrees.numbered id ok message old
  · cases List.mem_singleton.mp new
    exact known

end

section

variable (agrees : WorkerAgrees nextId batches worker) (numbered : ∀ batch ∈ batches, batch.id < nextId)
  {request : FlushRequest Letter} {later : List (FlushRequest Letter)}
  (received : worker.inbox = request :: later)

include agrees numbered received

theorem refuse (errorMessage : String) :
    WorkerAgrees nextId batches
      { worker with inbox := later, outbox := worker.outbox ++ [.answered request.id false errorMessage] } := by
  have first : request ∈ worker.inbox := by simp [received]
  have kept : ∀ other ∈ later, other ∈ worker.inbox := fun other member => by simp [received, member]
  have isAlive := agrees.alive_of_request first
  obtain ⟨behind, ascending⟩ := agrees.head received
  have answer := agrees.answer isAlive (agrees.lt_nextId numbered first)
  exact {
    requested := fun other member => agrees.requested other (kept other member)
    ascending
    later := fun other member => agrees.later other (kept other member)
    numbered := (answer _ _).1
    accepted := by
      intro id message sent
      rcases List.mem_append.mp sent with old | new
      · exact agrees.accepted id message old
      · cases List.mem_singleton.mp new
    refused := by
      intro id message sent
      rcases List.mem_append.mp sent with old | new
      · exact ⟨(agrees.refused id message old).1,
          fun other member => (agrees.refused id message old).2 other (kept other member)⟩
      · cases List.mem_singleton.mp new
        exact ⟨fun batch isBatch sameId => agrees.unwritten_of_request first isBatch sameId,
          fun other member => Nat.ne_of_gt (behind other member)⟩
    answersFirst := agrees.answersFirst_snoc isAlive _
    alive := fun _ => (answer _ _).2
    stopped := fun dead => by simp [isAlive] at dead }

theorem commit :
    WorkerAgrees nextId
      (updateWhere (fun batch => batch.id == request.id) (fun batch => { batch with written := true }) batches)
      { worker with inbox := later, outbox := worker.outbox ++ [.answered request.id true ""] } := by
  have first : request ∈ worker.inbox := by simp [received]
  have kept : ∀ other ∈ later, other ∈ worker.inbox := fun other member => by simp [received, member]
  have isAlive := agrees.alive_of_request first
  obtain ⟨behind, ascending⟩ := agrees.head received
  have answer := agrees.answer isAlive (agrees.lt_nextId numbered first)
  exact {
    requested := by
      intro other member
      obtain ⟨batch, isBatch, sameId, agreed⟩ := agrees.requested other (kept other member)
      refine ⟨batch, mem_updateWhere.mpr ⟨batch, isBatch, ?_⟩, sameId, agreed⟩
      have less := behind other member
      rw [if_neg]
      simp only [beq_iff_eq]
      omega
    ascending
    later := by
      intro other member batch isBatch written
      obtain ⟨before, wasBatch, rfl⟩ := mem_updateWhere.mp isBatch
      split at written
      next selected =>
        rw [if_pos selected]
        simp only [beq_iff_eq] at selected
        have less := behind other member
        simp only
        omega
      next unselected =>
        rw [if_neg unselected]
        exact agrees.later other (kept other member) before wasBatch written
    numbered := (answer _ _).1
    accepted := by
      intro id message sent
      rcases List.mem_append.mp sent with old | new
      · obtain ⟨batch, isBatch, sameId, written⟩ := agrees.accepted id message old
        refine ⟨_, mem_updateWhere.mpr ⟨batch, isBatch, rfl⟩, ?_⟩
        split
        · exact ⟨sameId, rfl⟩
        · exact ⟨sameId, written⟩
      · cases List.mem_singleton.mp new
        obtain ⟨batch, isBatch, sameId, _⟩ := agrees.requested request first
        refine ⟨_, mem_updateWhere.mpr ⟨batch, isBatch, rfl⟩, ?_⟩
        simp [sameId]
    refused := by
      intro id message sent
      rcases List.mem_append.mp sent with old | new
      · have refused := agrees.refused id message old
        refine ⟨fun batch isBatch sameId => ?_, fun other member => refused.2 other (kept other member)⟩
        obtain ⟨before, wasBatch, rfl⟩ := mem_updateWhere.mp isBatch
        -- the batch that is written was not refused
        split at sameId
        next selected =>
          simp only [beq_iff_eq] at selected
          exact absurd (selected.symm.trans sameId) (refused.2 request first)
        next unselected =>
          rw [if_neg unselected]
          exact refused.1 before wasBatch sameId
      · cases List.mem_singleton.mp new
    answersFirst := agrees.answersFirst_snoc isAlive _
    alive := fun _ => (answer _ _).2
    stopped := fun dead => by simp [isAlive] at dead }

end

theorem crash (agrees : WorkerAgrees nextId batches worker) (isAlive : worker.alive = true) (message : String) :
    WorkerAgrees nextId batches
      { worker with alive := false, inbox := [], outbox := worker.outbox ++ [.error message, .exit] } where
  requested := fun _ absent => nomatch absent
  ascending := List.Pairwise.nil
  later := fun _ absent => nomatch absent
  numbered := fun id ok message sent => agrees.numbered id ok message (by simpa using sent)
  accepted := fun id message sent => agrees.accepted id message (by simpa using sent)
  refused := fun id message sent => ⟨(agrees.refused id message (by simpa using sent)).1, fun _ absent => nomatch absent⟩
  answersFirst := by
    rw [List.pairwise_append]
    refine ⟨agrees.answersFirst, by simp [WorkerEvent.isAnswer], ?_⟩
    intro early isEarly late _ _
    exact agrees.alive isAlive early isEarly
  alive := fun dead => by simp at dead
  stopped := fun _ => rfl

end WorkerAgrees

end

end SiftKit.Status.Flush
