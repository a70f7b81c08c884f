/-!
# Maps whose keys stand in no order

A map from keys to values, held as a list of entries with distinct keys. The entry that was changed
last stands in front, and nothing should depend on it: who reads all entries has to sort them, or to
ask for something that is the same in any order.

* `Table.get?`, `insert`, `erase`, `retain` -- the operations;
* **`get?_insert`**, **`get?_erase`**, **`get?_retain`** -- what each does to the view `get?`;
* **`get?_eq_some_iff`** -- the view answers with a value iff the entry is in the list.
-/

namespace RealtimeChat

universe u v

/-- A map whose entries are listed in any order. -/
structure Table (κ : Type u) (α : Type v) where
  entries : List (κ × α)
  /-- No key has two entries. -/
  distinct : entries.Pairwise (fun a b => a.1 ≠ b.1)

namespace Table

variable {κ : Type u} {α : Type v}

/-! ## 1. The operations -/

instance : EmptyCollection (Table κ α) := ⟨⟨[], .nil⟩⟩

/-- The values. -/
def values (t : Table κ α) : List α := t.entries.map (·.2)

/-- Change the entries or drop them. -/
def retain (t : Table κ α) (f : κ → α → Option α) : Table κ α where
  entries := t.entries.filterMap fun e => (f e.1 e.2).map ((e.1, ·))
  distinct := by
    refine List.Pairwise.filterMap _ (fun a b hab a' ha b' hb => ?_) t.distinct
    obtain ⟨_, -, rfl⟩ := Option.map_eq_some_iff.mp ha
    obtain ⟨_, -, rfl⟩ := Option.map_eq_some_iff.mp hb
    exact hab

variable [DecidableEq κ]

/-- The value stored under `k`. -/
def get? (t : Table κ α) (k : κ) : Option α := (t.entries.find? (fun e => e.1 = k)).map (·.2)

/-- Drop the entry of `k`, if there is one. -/
def erase (t : Table κ α) (k : κ) : Table κ α :=
  ⟨t.entries.filter (fun e => e.1 ≠ k), t.distinct.filter _⟩

/-- Bind `k` to `a`, in place of any older value. -/
def insert (t : Table κ α) (k : κ) (a : α) : Table κ α where
  entries := (k, a) :: (t.erase k).entries
  distinct := by
    refine .cons (fun e he => ?_) (t.erase k).distinct
    exact Ne.symm (of_decide_eq_true (List.mem_filter.mp he).2)

/-! ## 2. What each operation does to the view -/

@[simp] theorem get?_empty (k : κ) : (∅ : Table κ α).get? k = none := rfl

/-- **The view answers with a value iff the entry is in the list.** -/
theorem get?_eq_some_iff {t : Table κ α} {k : κ} {a : α} :
    t.get? k = some a ↔ (k, a) ∈ t.entries := by
  constructor
  · intro h
    obtain ⟨e, he, rfl⟩ := Option.map_eq_some_iff.mp h
    have hk : e.1 = k := by simpa using List.find?_some he
    exact hk ▸ List.mem_of_find?_eq_some he
  · intro h
    obtain ⟨before, after, ht⟩ := List.append_of_mem h
    have hbefore : ∀ e ∈ before, e.1 ≠ k := by
      have hd := t.distinct
      rw [ht] at hd
      exact fun e he => (List.pairwise_append.mp hd).2.2 e he _ List.mem_cons_self
    have hnone : before.find? (fun e => e.1 = k) = none :=
      List.find?_eq_none.mpr fun e he => by simpa using hbefore e he
    rw [get?, ht, List.find?_append, hnone, Option.none_or, List.find?_cons_of_pos (by simp),
      Option.map_some]

/-- **Erasing a key empties the view at that key and nowhere else.** -/
theorem get?_erase (t : Table κ α) (k k' : κ) :
    (t.erase k).get? k' = if k = k' then none else t.get? k' := by
  refine Option.ext fun a => ?_
  rw [get?_eq_some_iff]
  by_cases h : k = k'
  · simp [erase, h]
  · rw [if_neg h, get?_eq_some_iff]
    simp [erase, Ne.symm h]

/-- **Binding a key changes the view at that key and nowhere else.** -/
theorem get?_insert (t : Table κ α) (k k' : κ) (a : α) :
    (t.insert k a).get? k' = if k = k' then some a else t.get? k' := by
  by_cases h : k = k'
  · simp [get?, insert, h]
  · have herase := t.get?_erase k k'
    rw [if_neg h] at herase ⊢
    rw [← herase, get?, insert, List.find?_cons_of_neg (by simpa using h), get?]

/-- **What was changed or dropped everywhere**, at one key. -/
theorem get?_retain (t : Table κ α) (f : κ → α → Option α) (k : κ) :
    (t.retain f).get? k = (t.get? k).bind (f k) := by
  refine Option.ext fun a => ?_
  rw [get?_eq_some_iff, Option.bind_eq_some_iff]
  simp only [retain, List.mem_filterMap, Option.map_eq_some_iff, get?_eq_some_iff]
  constructor
  · rintro ⟨⟨_, b⟩, hb, _, hf, ⟨⟩⟩
    exact ⟨b, hb, hf⟩
  · rintro ⟨b, hb, hf⟩
    exact ⟨(k, b), hb, a, hf, rfl⟩

end Table

end RealtimeChat
