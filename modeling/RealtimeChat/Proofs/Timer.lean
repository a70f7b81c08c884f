import Mathlib.Data.List.Nodup
import RealtimeChat.Proofs.OrderedMap
import RealtimeChat.Timer
/-!
# Deadlines, key by key

What arming, disarming and taking due keys does to the deadline of each key, and which part of a
client a key belongs to. The parts share one set of timers; each arms and disarms keys of its own
only.

* `isScheduled_eq_true_iff` -- an armed key is one with a deadline;
* **`deadline?_drain`** -- the keys that are due lose their deadlines, and no others;
* `Timer.Owner`, `Timers.SameBut` -- whose a key is, and timers that differ in one part's keys;
* `Timers.PaidBut` -- keys that still have to be handled, but for one part's.
-/

namespace RealtimeChat

open Timer (Key)

namespace Timers

/-! ## 1. One key -/

@[simp] theorem deadline?_empty (key : Key) : Timers.empty.deadline? key = none := rfl

theorem isScheduled_eq_true_iff {t : Timers} {key : Key} :
    t.isScheduled key = true ↔ ∃ deadline, t.deadline? key = some deadline :=
  Option.isSome_iff_exists

theorem isScheduled_schedule (t : Timers) (key key' : Key) (deadline : Instant) :
    (t.schedule key deadline).isScheduled key' = true ↔ key = key' ∨ t.isScheduled key' = true := by
  rw [isScheduled, deadline?_schedule]
  by_cases h : key = key'
  · simp [h]
  · rw [if_neg h]
    simp [h, isScheduled]

theorem isScheduled_cancel (t : Timers) (key key' : Key) :
    (t.cancel key).isScheduled key' = true ↔ t.isScheduled key' = true ∧ key ≠ key' := by
  rw [isScheduled, deadline?_cancel]
  by_cases h : key = key'
  · simp [h]
  · rw [if_neg h]
    simp [h, isScheduled]

theorem deadline?_cancelWhere (t : Timers) (p : Key → Bool) (key : Key) :
    (t.cancelWhere p).deadline? key = if p key then none else t.deadline? key := by
  show (t.deadlines.filter fun k _ => !p k).get? key = _
  rw [OrderedMap.get?_filter]
  have hget : t.deadlines.get? key = t.deadline? key := rfl
  rw [hget]
  cases t.deadline? key with
  | none => simp
  | some deadline => cases hp : p key <;> simp

theorem isScheduled_foldl_cancel (f : String → Key) (ids : List String) (t : Timers) (key : Key) :
    (ids.foldl (fun t id => t.cancel (f id)) t).isScheduled key = true ↔
      t.isScheduled key = true ∧ ∀ id ∈ ids, f id ≠ key := by
  induction ids generalizing t with
  | nil => simp
  | cons id rest ih =>
      rw [List.foldl_cons, ih, isScheduled_cancel, and_assoc, List.forall_mem_cons]

theorem deadline?_foldl_cancel (f : String → Key) {ids : List String} {key : Key}
    (h : ∀ id ∈ ids, f id ≠ key) (t : Timers) :
    (ids.foldl (fun t id => t.cancel (f id)) t).deadline? key = t.deadline? key := by
  induction ids generalizing t with
  | nil => rfl
  | cons id rest ih =>
      obtain ⟨hfirst, hrest⟩ := List.forall_mem_cons.mp h
      rw [List.foldl_cons, ih hrest, deadline?_cancel, if_neg hfirst]

theorem isEmpty_of_deadlines {t : Timers} (h : ∀ key, t.deadline? key = none) :
    t.isEmpty = true := by
  have hempty : t.deadlines = ∅ := OrderedMap.ext_get? h
  rw [isEmpty, hempty]
  rfl

/-! ## 2. Due keys -/

theorem mem_due {t : Timers} {now : Instant} {key : Key} :
    key ∈ t.due now ↔ ∃ deadline, t.deadline? key = some deadline ∧ deadline ≤ now := by
  simp only [due, List.mem_map, List.mem_mergeSort, List.mem_filter, decide_eq_true_eq]
  constructor
  · rintro ⟨e, ⟨he, hnow⟩, rfl⟩
    exact ⟨e.2, OrderedMap.get?_eq_some_iff.mpr he, hnow⟩
  · rintro ⟨deadline, h, hnow⟩
    exact ⟨(key, deadline), ⟨OrderedMap.get?_eq_some_iff.mp h, hnow⟩, rfl⟩

/-- No key is due twice. -/
theorem due_nodup (t : Timers) (now : Instant) : (t.due now).Nodup := by
  have hkeys : (t.deadlines.entries.map (·.1)).Nodup :=
    List.pairwise_map.mpr t.deadlines.distinct_keys
  have hfilter := hkeys.sublist
    ((List.filter_sublist (p := fun e : Key × Instant => decide (e.2 ≤ now))).map (·.1))
  exact ((List.mergeSort_perm _ _).map _).nodup_iff.mpr hfilter

/-- **The keys that are due lose their deadlines, and no others.** -/
theorem deadline?_drain (t : Timers) (now : Instant) (key : Key) :
    (t.drain now).2.deadline? key = if key ∈ t.due now then none else t.deadline? key := by
  show (t.deadlines.filter fun _ deadline => now < deadline).get? key = _
  rw [OrderedMap.get?_filter]
  cases h : t.deadline? key with
  | none =>
      have hget : t.deadlines.get? key = none := h
      rw [hget, ite_self]
      rfl
  | some deadline =>
      have hget : t.deadlines.get? key = some deadline := h
      have hdue : key ∈ t.due now ↔ deadline ≤ now := by
        rw [mem_due, h]
        simp
      rw [hget]
      by_cases hnow : deadline ≤ now
      · rw [if_pos (hdue.mpr hnow)]
        simp [hnow]
      · rw [if_neg (hdue.not.mpr hnow)]
        simp [Nat.lt_of_not_le hnow]

theorem isScheduled_drain (t : Timers) (now : Instant) (key : Key) :
    (t.drain now).2.isScheduled key = true ↔ t.isScheduled key = true ∧ key ∉ t.due now := by
  rw [isScheduled, deadline?_drain]
  by_cases h : key ∈ t.due now
  · simp [h]
  · rw [if_neg h]
    simp [h, isScheduled]

end Timers

/-! ## 3. Whose a key is -/

/-- The parts of a client that wait for deadlines. -/
inductive Timer.Owner where
  | session
  | outbox
  | router
  | user
deriving DecidableEq

/-- The part of a client that arms a key. -/
def Timer.Key.owner : Key → Timer.Owner
  | .handshake => .session
  | .reconnect => .session
  | .heartbeat => .session
  | .liveness => .session
  | .action _ => .outbox
  | .typingSweep => .router
  | .localTyping _ => .user

/-- The keys of all other parts have the same deadlines. -/
def Timers.SameBut (owner : Timer.Owner) (t t' : Timers) : Prop :=
  ∀ key : Key, key.owner ≠ owner → t'.deadline? key = t.deadline? key

namespace Timers.SameBut

variable {owner : Timer.Owner} {t t' t'' : Timers}

theorem refl (owner : Timer.Owner) (t : Timers) : SameBut owner t t := fun _ _ => rfl

theorem trans (h : SameBut owner t t') (h' : SameBut owner t' t'') : SameBut owner t t'' :=
  fun key hkey => (h' key hkey).trans (h key hkey)

theorem schedule (t : Timers) (key : Key) (deadline : Instant) :
    SameBut key.owner t (t.schedule key deadline) := by
  intro other hother
  have hne : key ≠ other := fun h => hother (h ▸ rfl)
  rw [deadline?_schedule, if_neg hne]

theorem cancel (t : Timers) (key : Key) : SameBut key.owner t (t.cancel key) := by
  intro other hother
  have hne : key ≠ other := fun h => hother (h ▸ rfl)
  rw [deadline?_cancel, if_neg hne]

theorem cancelWhere (t : Timers) {p : Key → Bool} (hp : ∀ key, p key = true → key.owner = owner) :
    SameBut owner t (t.cancelWhere p) := by
  intro other hother
  rw [deadline?_cancelWhere, if_neg (fun h => hother (hp other h))]

theorem foldl_cancel (f : String → Key) (hf : ∀ id, (f id).owner = owner) (ids : List String)
    (t : Timers) : SameBut owner t (ids.foldl (fun t id => t.cancel (f id)) t) := by
  induction ids generalizing t with
  | nil => exact refl owner t
  | cons id rest ih => exact (hf id ▸ cancel t (f id)).trans (ih _)

theorem isScheduled (h : SameBut owner t t') (key : Key) (hkey : key.owner ≠ owner) :
    t'.isScheduled key = t.isScheduled key := by
  rw [Timers.isScheduled, Timers.isScheduled, h key hkey]

end Timers.SameBut

/-- To all other parts the same keys are owed. -/
def Timers.PaidBut (owner : Timer.Owner) (owed owed' : List Key) : Prop :=
  ∀ key : Key, key.owner ≠ owner → (key ∈ owed' ↔ key ∈ owed)

namespace Timers.PaidBut

theorem refl (owner : Timer.Owner) (owed : List Key) : PaidBut owner owed owed := fun _ _ => Iff.rfl

theorem head {owner : Timer.Owner} (key : Key) (h : key.owner = owner) (owed : List Key) :
    PaidBut owner (key :: owed) owed := by
  intro other hother
  have hne : other ≠ key := fun heq => hother (heq ▸ h)
  rw [List.mem_cons, or_iff_right hne]

end Timers.PaidBut

end RealtimeChat
