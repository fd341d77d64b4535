import SiftKit.Assistant.MemoryPlan

/-! # The overflow of the third tier

`planTier3Archives`: topics are popped until the documents fit, and what was popped stands in one archive a segment.
-/

namespace SiftKit.Assistant.Memory

open SiftKit.Json SiftKit.OrderedMap

variable {Topic : Type} {topicKey : Topic → JsString} {topics popped : List Topic} {limit : Nat}

/-- How many archives some topics make. -/
def archiveCount (topicKey : Topic → JsString) (popped : List Topic) : Nat :=
  (popped.map fun topic => archiveKey (topicKey topic)).dedup.length

/-- Every archive has the popped topics of its segment. -/
structure Grouped (topicKey : Topic → JsString) (popped : List Topic) (archives : OrderedMap JsString (List Topic)) :
    Prop where
  keys : ∀ key, key ∈ archives.keys ↔ key ∈ popped.map fun topic => archiveKey (topicKey topic)
  segments : ∀ {key group}, archives.get? key = some group → ∀ topic ∈ group, archiveKey (topicKey topic) = key

theorem Grouped.size_eq {archives : OrderedMap JsString (List Topic)} (grouped : Grouped topicKey popped archives) :
    archives.size = archiveCount topicKey popped := by
  have same : archives.keys.Perm (popped.map fun topic => archiveKey (topicKey topic)).dedup :=
    (List.perm_ext_iff_of_nodup archives.distinct (List.nodup_dedup _)).mpr fun key => by
      rw [List.mem_dedup, ← grouped.keys]
      rfl
  simpa [archiveCount, OrderedMap.keys, OrderedMap.size] using same.length_eq

theorem Grouped.pop {archives : OrderedMap JsString (List Topic)} (grouped : Grouped topicKey popped archives) (lowest : Topic) :
    Grouped topicKey (lowest :: popped) (archives.set (archiveKey (topicKey lowest))
      ((archives.get? (archiveKey (topicKey lowest))).getD [] ++ [lowest])) := by
  constructor
  · intro key
    rw [keys_set]
    split
    next known =>
      simp only [List.map_cons, List.mem_cons, grouped.keys, iff_or_self]
      rintro rfl
      exact (grouped.keys _).mp known
    · simp [grouped.keys, or_comm]
  · intro key group found topic member
    rw [get?_set] at found
    split at found
    next same =>
      cases found
      rw [same]
      cases List.mem_append.mp member with
      | inl before =>
        cases isGroup : archives.get? (archiveKey (topicKey lowest)) with
        | none => simp [isGroup] at before
        | some old => exact grouped.segments isGroup topic (by simpa [isGroup] using before)
      | inr last => rw [List.mem_singleton.mp last]
    · exact grouped.segments found topic member

/-- The loop stops at the first prefix that fits. -/
theorem popTopics_stops {remaining popped : List Topic} {archives : OrderedMap JsString (List Topic)}
    (whole : topics = remaining.reverse ++ popped) (grouped : Grouped topicKey popped archives) :
    ∃ later, topics = (popTopics topicKey limit remaining archives).1.reverse ++ later ∧
      Grouped topicKey later (popTopics topicKey limit remaining archives).2 ∧
      ((popTopics topicKey limit remaining archives).1 = [] ∨
        (popTopics topicKey limit remaining archives).1.length + archiveCount topicKey later ≤ limit) ∧
      ∀ count, (popTopics topicKey limit remaining archives).1.length < count → count ≤ remaining.length →
        limit < count + archiveCount topicKey (topics.drop count) := by
  induction remaining generalizing popped archives with
  | nil => exact ⟨popped, whole, grouped, .inl rfl, fun count more most => absurd more (Nat.not_lt.mpr most)⟩
  | cons lowest rest ih =>
    have behind : topics.drop (rest.length + 1) = popped := by
      rw [whole]
      exact List.drop_left' (by simp)
    unfold popTopics
    split
    next past =>
      obtain ⟨later, isWhole, isGrouped, stops, above⟩ := ih (by simpa using whole) (grouped.pop lowest)
      refine ⟨later, isWhole, isGrouped, stops, fun count more most => ?_⟩
      cases Nat.eq_or_lt_of_le most with
      | inl last =>
        rw [List.length_cons] at last
        rw [last, behind, ← grouped.size_eq]
        exact past
      | inr fewer => exact above count more (Nat.le_of_lt_succ fewer)
    next fits =>
      refine ⟨popped, whole, grouped, .inr ?_, fun count more most => absurd more (Nat.not_lt.mpr most)⟩
      rw [← grouped.size_eq]
      exact Nat.not_lt.mp fits

/-- What the overflow of a tier leaves. -/
structure MeetsCap (topicKey : Topic → JsString) (topics : List Topic) (limit : Nat) (plan : ArchivePlan Topic) : Prop where
  keeps_first : plan.kept = topics.take plan.kept.length
  archives_rest : plan.archives.values.flatten.Perm (topics.drop plan.kept.length)
  within_cap : plan.kept.length + plan.archives.size ≤ limit
  unchanged : topics.length ≤ limit → plan.kept = topics ∧ plan.archives = OrderedMap.empty
  longest : ∀ count, plan.kept.length < count → count ≤ topics.length →
    limit < count + archiveCount topicKey (topics.drop count)
  /-- Each archive has a segment of its own, unless no topic is kept and the archives of all of them were too many. -/
  own_segment : (∀ {key group}, plan.archives.get? key = some group → ∀ topic ∈ group, archiveKey (topicKey topic) = key) ∨
    plan.kept = [] ∧ limit < archiveCount topicKey topics ∧ plan.archives.keys = [utf16 "archive/misc"]

theorem planTier3Archives_exact (topics : List Topic) (limit : Nat) (positive : 1 ≤ limit) :
    MeetsCap topicKey topics limit (planTier3Archives topicKey topics limit) := by
  have whole := @planTier3Archives_perm Topic topicKey topics limit
  obtain ⟨later, isTopics, grouped, stops, longest⟩ := @popTopics_stops Topic topicKey topics limit topics.reverse []
    OrderedMap.empty (by simp) ⟨by simp [OrderedMap.keys, OrderedMap.empty], by simp⟩
  unfold planTier3Archives at whole ⊢
  generalize popTopics topicKey limit topics.reverse OrderedMap.empty = loop at *
  obtain ⟨kept, archives⟩ := loop
  simp only [grouped.size_eq] at *
  have dropped : topics.drop kept.length = later := by
    rw [isTopics]
    exact List.drop_left' (by simp)
  have above : ∀ count, kept.length < count → count ≤ topics.length → limit < count + archiveCount topicKey (topics.drop count) := by
    simpa using longest
  have unpopped : topics.length ≤ limit → later = [] := by
    intro fits
    by_contra popped
    have more : kept.length < topics.length := by
      simpa [isTopics] using List.length_pos_iff.mpr popped
    have past := above topics.length more le_rfl
    simp [archiveCount] at past
    omega
  have archived : ∀ plan : ArchivePlan Topic, plan.kept = kept.reverse →
      (plan.kept ++ plan.archives.values.flatten).Perm topics →
      plan.kept = topics.take plan.kept.length ∧ plan.archives.values.flatten.Perm (topics.drop plan.kept.length) := by
    intro plan isKept isWhole
    rw [isTopics, isKept] at isWhole
    rw [isKept, List.length_reverse, dropped, isTopics]
    exact ⟨(List.take_left' (by simp)).symm, (List.perm_append_left_iff _).mp isWhole⟩
  split at whole
  next past =>
    -- Nothing is kept, or the loop would have stopped before.
    have none : kept = [] := stops.resolve_right (Nat.not_le.mpr past.1)
    subst none
    obtain ⟨first, rest⟩ := archived _ rfl whole
    have all : later = topics := by simpa using isTopics.symm
    rw [if_pos past]
    refine ⟨first, rest, positive, fun fits => ?_, above, .inr ⟨rfl, ?_, rfl⟩⟩
    · simp [unpopped fits, archiveCount] at past
    · simpa [all] using past.1
  next fits =>
    obtain ⟨first, rest⟩ := archived _ rfl whole
    rw [if_neg fits]
    refine ⟨first, rest, ?_, fun short => ?_, by simpa using above, .inl grouped.segments⟩
    · simp only [List.length_reverse, grouped.size_eq]
      cases stops with
      | inl none =>
        simp only [none, List.length_nil, Nat.zero_add] at fits ⊢
        omega
      | inr within => exact within
    · have noArchives : archives.entries = [] := by
        simpa [OrderedMap.size, unpopped short, archiveCount] using grouped.size_eq
      exact ⟨by simp [isTopics, unpopped short], OrderedMap.ext noArchives⟩

/-- Two of three topics go to one archive. -/
theorem planTier3Archives_exact_of_three :
    MeetsCap id [utf16 "zine", utf16 "garden-beds", utf16 "garden-tools"] 2
      (planTier3Archives id [utf16 "zine", utf16 "garden-beds", utf16 "garden-tools"] 2) :=
  planTier3Archives_exact _ 2 (by decide)

end SiftKit.Assistant.Memory
