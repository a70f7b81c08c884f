import RealtimeChat.Proofs.Timer
/-!
# The order of due keys, and keys that are armed for later

Keys that are due are handled in the order of their deadlines, and keys of one deadline in their
own order. While they are handled other keys are armed; if each of these is armed for later, no key
is due afterwards.

* `Before` -- the order in which keys are handled;
* **`due_rising`** -- the keys that are due stand in it;
* `Later` -- timers in which keys were only disarmed or armed for later;
* **`Later.drained`** -- after that nothing is due of what was drained.
-/

namespace RealtimeChat.Timers

open Timer (Key)

/-! ## 1. The order of due keys -/

/-- Both keys are armed, and the first one is handled first: its deadline is earlier, or it is the
same and the key is smaller. -/
def Before (t : Timers) (key key' : Key) : Prop :=
  ∃ deadline deadline', t.deadline? key = some deadline ∧ t.deadline? key' = some deadline' ∧
    (deadline < deadline' ∨ deadline = deadline' ∧ compare key key' = .lt)

/-- Sorting entries by their deadlines leaves those of one deadline in the order of their keys. -/
theorem mergeSort_rising {entries : List (Key × Instant)}
    (h : entries.Pairwise fun a b => compare a.1 b.1 = .lt) :
    (entries.mergeSort fun a b => a.2 ≤ b.2).Pairwise fun a b =>
      a.2 < b.2 ∨ a.2 = b.2 ∧ compare a.1 b.1 = .lt := by
  have htrans : ∀ a b c : Key × Instant, decide (a.2 ≤ b.2) = true → decide (b.2 ≤ c.2) = true →
      decide (a.2 ≤ c.2) = true := by
    intro a b c hab hbc
    exact decide_eq_true (Nat.le_trans (of_decide_eq_true hab) (of_decide_eq_true hbc))
  have htotal : ∀ a b : Key × Instant, (decide (a.2 ≤ b.2) || decide (b.2 ≤ a.2)) = true := by
    intro a b
    simpa using Nat.le_total a.2 b.2
  induction entries with
  | nil => simp
  | cons e rest ih =>
      obtain ⟨hhead, hrest⟩ := List.pairwise_cons.mp h
      -- the entry goes in behind those of earlier deadlines and in front of all others
      obtain ⟨before, after, hwith, hwithout, hbefore⟩ := List.mergeSort_cons htrans htotal e rest
      have hall := List.pairwise_mergeSort htrans htotal (e :: rest)
      have hsorted := ih hrest
      rw [hwith] at hall ⊢
      rw [hwithout] at hsorted
      obtain ⟨hfront, hback, hcross⟩ := List.pairwise_append.mp hsorted
      have hnotlater := (List.pairwise_cons.mp (List.pairwise_append.mp hall).2.1).1
      refine List.pairwise_append.mpr
        ⟨hfront, List.pairwise_cons.mpr ⟨fun c hc => ?_, hback⟩, fun b hb c hc => ?_⟩
      · have hmem : c ∈ rest := List.mem_mergeSort.mp (hwithout ▸ List.mem_append_right _ hc)
        rcases Nat.lt_or_eq_of_le (of_decide_eq_true (hnotlater c hc)) with hlt | heq
        · exact .inl hlt
        · exact .inr ⟨heq, hhead c hmem⟩
      · rcases List.mem_cons.mp hc with rfl | hc
        · have hearlier := hbefore b hb
          exact .inl (by simpa using hearlier)
        · exact hcross b hb c hc

/-- **The keys that are due stand in the order in which they are to be handled.** -/
theorem due_rising (t : Timers) (now : Instant) : (t.due now).Pairwise t.Before := by
  have hrising : (t.deadlines.entries.filter fun e => decide (e.2 ≤ now)).Pairwise
      fun a b => compare a.1 b.1 = .lt :=
    t.deadlines.rising.sublist List.filter_sublist
  refine List.pairwise_map.mpr ((mergeSort_rising hrising).imp_of_mem fun {a b} ha hb hab => ?_)
  have harmed : ∀ e : Key × Instant,
      e ∈ (t.deadlines.entries.filter fun e => decide (e.2 ≤ now)).mergeSort
        (fun a b => decide (a.2 ≤ b.2)) → t.deadline? e.1 = some e.2 := fun e he =>
    OrderedMap.get?_eq_some_iff.mpr (List.mem_filter.mp (List.mem_mergeSort.mp he)).1
  exact ⟨a.2, b.2, harmed a ha, harmed b hb, hab⟩

/-! ## 2. Armed for later -/

/-- Keys were only disarmed, or armed for later than `now`. -/
def Later (now : Instant) (t t' : Timers) : Prop :=
  ∀ key deadline, t'.deadline? key = some deadline →
    t.deadline? key = some deadline ∨ now < deadline

namespace Later

variable {now : Instant} {t t' t'' : Timers}

theorem refl (now : Instant) (t : Timers) : Later now t t := fun _ _ h => .inl h

theorem trans (h : Later now t t') (h' : Later now t' t'') : Later now t t'' := by
  intro key deadline hd
  rcases h' key deadline hd with hold | hlater
  · exact h key deadline hold
  · exact .inr hlater

theorem schedule (t : Timers) (key : Key) {deadline : Instant} (h : now < deadline) :
    Later now t (t.schedule key deadline) := by
  intro other d hd
  rw [deadline?_schedule] at hd
  split at hd
  · cases hd
    exact .inr h
  · exact .inl hd

theorem cancel (now : Instant) (t : Timers) (key : Key) : Later now t (t.cancel key) := by
  intro other d hd
  rw [deadline?_cancel] at hd
  split at hd
  · cases hd
  · exact .inl hd

theorem foldl_cancel (now : Instant) (f : String → Key) (ids : List String) (t : Timers) :
    Later now t (ids.foldl (fun t id => t.cancel (f id)) t) := by
  induction ids generalizing t with
  | nil => exact refl now t
  | cons id rest ih => exact (cancel now t (f id)).trans (ih _)

/-- **If what was due was taken out before, then nothing is due.** -/
theorem drained (h : Later now (t.drain now).2 t') {key : Key} {deadline : Instant}
    (hd : t'.deadline? key = some deadline) : now < deadline := by
  rcases h key deadline hd with hleft | hlater
  · rw [deadline?_drain] at hleft
    split at hleft
    · cases hleft
    · rename_i hdue
      exact Nat.lt_of_not_le fun hle => hdue (mem_due.mpr ⟨deadline, hleft, hle⟩)
  · exact hlater

end Later

/-! ## 3. Nothing due -/

section Later

variable {now : Instant} {t : Timers}
  (h : ∀ key deadline, t.deadline? key = some deadline → now < deadline)

include h

theorem due_eq_nil : t.due now = [] := by
  refine List.eq_nil_iff_forall_not_mem.mpr fun key hkey => ?_
  obtain ⟨deadline, hd, hle⟩ := mem_due.mp hkey
  exact Nat.not_le_of_lt (h key deadline hd) hle

theorem drain_eq_self : (t.drain now).2 = t := by
  have hnone := due_eq_nil h
  have hsame : (t.drain now).2.deadlines = t.deadlines := OrderedMap.ext_get? fun key => by
    have hkey := t.deadline?_drain now key
    rw [hnone, if_neg List.not_mem_nil] at hkey
    exact hkey
  obtain ⟨deadlines⟩ := t
  exact congrArg Timers.mk hsame

/-- Nobody who waits for the next deadline is woken at once. -/
theorem lt_next? {deadline : Instant} (hnext : t.next? = some deadline) : now < deadline := by
  obtain ⟨hmem, -⟩ := List.min?_eq_some_iff.mp hnext
  obtain ⟨key, hkey⟩ := OrderedMap.mem_values_iff.mp hmem
  exact h key deadline hkey

end Later

end RealtimeChat.Timers
