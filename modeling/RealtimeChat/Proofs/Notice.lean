import RealtimeChat.Notice
/-!
# Listeners and what they hear

Whoever subscribes to the notices gets each one that is published from then on, once and in order.

* `NoticeHub.Distinct` -- subscribers are told apart by their numbers;
* `NoticeHub.Listens` -- who listens, and what they have to read;
* **`Listens.publishAll`** -- whoever listens gets all notices, in order.
-/

namespace RealtimeChat

namespace NoticeHub

/-- No two subscribers have the same number, and new ones get a new one. -/
structure Distinct (h : NoticeHub) : Prop where
  ids : h.subscribers.Pairwise (fun s s' => s.id ≠ s'.id)
  new : ∀ s ∈ h.subscribers, s.id < h.nextId

/-- Somebody listens under this number and has these notices to read. -/
def Listens (h : NoticeHub) (id : Nat) (box : List Notice) : Prop :=
  ∃ s ∈ h.subscribers, s.id = id ∧ s.listening = true ∧ s.inbox = box

theorem Listens.drain {h : NoticeHub} {id : Nat} {box : List Notice} (hd : h.Distinct)
    (hl : h.Listens id box) : (h.drain id).1 = box := by
  obtain ⟨s, hs, rfl, -, rfl⟩ := hl
  obtain ⟨before, after, hsplit⟩ := List.append_of_mem hs
  have hids := hd.ids
  rw [hsplit] at hids
  have hbefore : before.find? (fun x => x.id = s.id) = none :=
    List.find?_eq_none.mpr fun x hx => by
      simpa using (List.pairwise_append.mp hids).2.2 x hx s List.mem_cons_self
  simp [NoticeHub.drain, hsplit, List.find?_append, hbefore]

theorem Distinct.publish {h : NoticeHub} (hd : h.Distinct) (n : Notice) :
    (h.publish n).Distinct := by
  refine ⟨List.pairwise_map.mpr (hd.ids.filter _), fun s hs => ?_⟩
  obtain ⟨s', hs', rfl⟩ := List.mem_map.mp hs
  exact hd.new s' (List.mem_filter.mp hs').1

theorem Listens.publish {h : NoticeHub} {id : Nat} {box : List Notice} (hl : h.Listens id box)
    (n : Notice) : (h.publish n).Listens id (box ++ [n]) := by
  obtain ⟨s, hs, hid, hlistens, rfl⟩ := hl
  exact ⟨{ s with inbox := s.inbox ++ [n] },
    List.mem_map_of_mem (List.mem_filter.mpr ⟨hs, hlistens⟩), hid, hlistens, rfl⟩

theorem Distinct.publishAll {h : NoticeHub} (hd : h.Distinct) (notices : List Notice) :
    (notices.foldl NoticeHub.publish h).Distinct := by
  induction notices generalizing h with
  | nil => exact hd
  | cons n rest ih => exact ih (hd.publish n)

/-- Whoever listens gets all notices, in order. -/
theorem Listens.publishAll {h : NoticeHub} {id : Nat} {box : List Notice}
    (hl : h.Listens id box) (notices : List Notice) :
    (notices.foldl NoticeHub.publish h).Listens id (box ++ notices) := by
  induction notices generalizing h box with
  | nil =>
      rw [List.append_nil]
      exact hl
  | cons n rest ih =>
      have h := ih (hl.publish n)
      rwa [List.append_assoc] at h

theorem Distinct.subscribe {h : NoticeHub} (hd : h.Distinct) : h.subscribe.2.Distinct := by
  refine ⟨List.pairwise_append.mpr ⟨hd.ids, List.pairwise_singleton _ _, fun s hs s' hs' => ?_⟩,
    fun s hs => ?_⟩
  · rw [List.mem_singleton.mp hs']
    exact Nat.ne_of_lt (hd.new s hs)
  · rcases List.mem_append.mp hs with hs | hs
    · exact Nat.lt_succ_of_lt (hd.new s hs)
    · rw [List.mem_singleton.mp hs]
      exact Nat.lt_succ_self _

theorem Listens.subscribe {h : NoticeHub} {id : Nat} {box : List Notice} (hl : h.Listens id box) :
    h.subscribe.2.Listens id box := by
  obtain ⟨s, hs, hrest⟩ := hl
  exact ⟨s, List.mem_append_left _ hs, hrest⟩

/-- Subscribers that keep their numbers are told apart as before. -/
theorem Distinct.update {h : NoticeHub} (hd : h.Distinct) {f : Subscriber → Subscriber}
    (hf : ∀ s, (f s).id = s.id) : Distinct { h with subscribers := h.subscribers.map f } := by
  refine ⟨List.pairwise_map.mpr (hd.ids.imp fun {s s'} hne => ?_), fun s hs => ?_⟩
  · rwa [hf, hf]
  · obtain ⟨s', hs', rfl⟩ := List.mem_map.mp hs
    rw [hf]
    exact hd.new s' hs'

theorem Distinct.drained {h : NoticeHub} (hd : h.Distinct) (id : Nat) :
    (h.drain id).2.Distinct :=
  hd.update fun s => by split <;> rfl

/-- Reading an inbox empties it and no other. -/
theorem Listens.drained {h : NoticeHub} {id : Nat} {box : List Notice} (hl : h.Listens id box)
    (other : Nat) : (h.drain other).2.Listens id (if other = id then [] else box) := by
  obtain ⟨s, hs, rfl, hlistens, rfl⟩ := hl
  refine ⟨_, List.mem_map_of_mem hs, ?_⟩
  grind

theorem Distinct.leave {h : NoticeHub} (hd : h.Distinct) (id : Nat) : (h.leave id).Distinct :=
  hd.update fun s => by split <;> rfl

/-- Somebody else leaves. -/
theorem Listens.leave {h : NoticeHub} {id : Nat} {box : List Notice} (hl : h.Listens id box)
    {other : Nat} (hother : other ≠ id) : (h.leave other).Listens id box := by
  obtain ⟨s, hs, rfl, hlistens, rfl⟩ := hl
  refine ⟨s, List.mem_map.mpr ⟨s, hs, if_neg hother.symm⟩, rfl, hlistens, rfl⟩

/-- Whoever subscribes listens, with nothing to read. -/
theorem subscribe_listens (h : NoticeHub) : h.subscribe.2.Listens h.subscribe.1 [] :=
  ⟨_, List.mem_append_right _ (List.mem_singleton_self _), rfl, rfl, rfl⟩

end NoticeHub

end RealtimeChat
