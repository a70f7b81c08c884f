/-!
# Maps whose keys stand in rising order

A map from keys to values, held as the list of its entries in rising key order. The order is
part of the type: `OrderedMap.rising` says that each key is smaller than the ones behind it, so
no key occurs twice and a walk over the entries is a walk in key order.

* `OrderedMap.get?`, `insert`, `erase`, `modify`, `filter` -- the operations;
* **`get?_insert`**, **`get?_erase`**, **`get?_modify`** -- what each operation does to the view
  `get?`: it changes the entry at its own key and no other.
-/

namespace RealtimeChat

universe u v w

/-- A map whose entries are listed by rising key. -/
structure OrderedMap (κ : Type u) (α : Type v) [Ord κ] where
  /-- The entries, smallest key first. -/
  entries : List (κ × α)
  /-- Each key is smaller than every key behind it. -/
  rising : entries.Pairwise (fun a b => compare a.1 b.1 = .lt)

namespace OrderedMap

variable {κ : Type u} {α : Type v} [Ord κ]

/-! ## 1. Reading -/

/-- The map without entries. -/
def empty : OrderedMap κ α := ⟨[], .nil⟩

instance : EmptyCollection (OrderedMap κ α) := ⟨empty⟩

instance : Inhabited (OrderedMap κ α) := ⟨empty⟩

/-- The value stored under `k`. -/
def get? [DecidableEq κ] (m : OrderedMap κ α) (k : κ) : Option α :=
  (m.entries.find? (fun e => e.1 = k)).map (·.2)

/-- Whether `k` has an entry. -/
def contains [DecidableEq κ] (m : OrderedMap κ α) (k : κ) : Bool := (m.get? k).isSome

/-- The keys in rising order. -/
def keys (m : OrderedMap κ α) : List κ := m.entries.map (·.1)

/-- The values in the order of their keys. -/
def values (m : OrderedMap κ α) : List α := m.entries.map (·.2)

/-- The number of entries. -/
def size (m : OrderedMap κ α) : Nat := m.entries.length

/-- Whether there is no entry. -/
def isEmpty (m : OrderedMap κ α) : Bool := m.entries.isEmpty

/-! ## 2. Changing -/

/-- The entries with `k` bound to `a`, in place of an older value or at its place in the order. -/
def insertEntry (k : κ) (a : α) : List (κ × α) → List (κ × α)
  | [] => [(k, a)]
  | e :: rest =>
    match compare k e.1 with
    | .lt => (k, a) :: e :: rest
    | .eq => (k, a) :: rest
    | .gt => e :: insertEntry k a rest

theorem mem_insertEntry {k : κ} {a : α} {l : List (κ × α)} {e : κ × α}
    (h : e ∈ insertEntry k a l) : e = (k, a) ∨ e ∈ l := by
  induction l with
  | nil => simpa [insertEntry] using h
  | cons x rest ih =>
      simp only [insertEntry] at h
      split at h
      · simpa using h
      · rcases List.mem_cons.mp h with h | h
        · exact .inl h
        · exact .inr (List.mem_cons_of_mem _ h)
      · rcases List.mem_cons.mp h with h | h
        · exact .inr (h ▸ List.mem_cons_self)
        · exact (ih h).imp_right (List.mem_cons_of_mem _)

variable [Std.TransOrd κ]

theorem pairwise_insertEntry [Std.LawfulEqOrd κ] {k : κ} {a : α} {l : List (κ × α)}
    (h : l.Pairwise (fun a b => compare a.1 b.1 = .lt)) :
    (insertEntry k a l).Pairwise (fun a b => compare a.1 b.1 = .lt) := by
  induction l with
  | nil => simp [insertEntry]
  | cons x rest ih =>
      obtain ⟨hx, hrest⟩ := List.pairwise_cons.mp h
      simp only [insertEntry]
      split
      · rename_i hlt
        refine List.pairwise_cons.mpr ⟨fun e he => ?_, h⟩
        rcases List.mem_cons.mp he with rfl | he
        · exact hlt
        · exact Std.TransCmp.lt_trans hlt (hx e he)
      · rename_i heq
        have hk : k = x.1 := Std.LawfulEqCmp.eq_of_compare heq
        exact List.pairwise_cons.mpr ⟨fun e he => by subst hk; exact hx e he, hrest⟩
      · rename_i hgt
        refine List.pairwise_cons.mpr ⟨fun e he => ?_, ih hrest⟩
        rcases mem_insertEntry he with rfl | he
        · exact Std.OrientedCmp.lt_of_gt hgt
        · exact hx e he

/-- Bind `k` to `a`, in place of any older value. -/
def insert [Std.LawfulEqOrd κ] (m : OrderedMap κ α) (k : κ) (a : α) : OrderedMap κ α :=
  ⟨insertEntry k a m.entries, pairwise_insertEntry m.rising⟩

omit [Std.TransOrd κ]

/-- Keep the entries that satisfy `p`. -/
def filter (m : OrderedMap κ α) (p : κ → α → Bool) : OrderedMap κ α :=
  ⟨m.entries.filter (fun e => p e.1 e.2), m.rising.filter _⟩

/-- Drop the entry of `k`, if there is one. -/
def erase [DecidableEq κ] (m : OrderedMap κ α) (k : κ) : OrderedMap κ α :=
  m.filter (fun k' _ => k' ≠ k)

/-- Replace each value by a function of its key and itself. -/
def mapEntries (m : OrderedMap κ α) (f : κ → α → α) : OrderedMap κ α :=
  ⟨m.entries.map (fun e => (e.1, f e.1 e.2)), m.rising.map _ (fun _ _ h => h)⟩

/-- Replace the value of `k`, if it has one. -/
def modify [DecidableEq κ] (m : OrderedMap κ α) (k : κ) (f : α → α) : OrderedMap κ α :=
  m.mapEntries (fun k' a => if k' = k then f a else a)

/-- Walk over the entries in key order with a running value: each entry may change its value, and
the running value at the end is returned with the changed entries. -/
def walkEntries {β : Type w} (f : β → κ → α → α × β) : β → List (κ × α) → List (κ × α) × β
  | b, [] => ([], b)
  | b, e :: rest =>
    let (a, b) := f b e.1 e.2
    let (rest, b) := walkEntries f b rest
    ((e.1, a) :: rest, b)

omit [Ord κ] in
theorem keys_walkEntries {β : Type w} (f : β → κ → α → α × β) (b : β) (l : List (κ × α)) :
    (walkEntries f b l).1.map (·.1) = l.map (·.1) := by
  induction l generalizing b with
  | nil => rfl
  | cons e rest ih => simp [walkEntries, ih]

theorem pairwise_of_keys {l l' : List (κ × α)} (h : l'.map (·.1) = l.map (·.1))
    (hl : l.Pairwise (fun a b => compare a.1 b.1 = .lt)) :
    l'.Pairwise (fun a b => compare a.1 b.1 = .lt) := by
  have byKeys : ∀ l : List (κ × α), l.Pairwise (fun a b => compare a.1 b.1 = .lt) ↔
      (l.map (·.1)).Pairwise (fun a b => compare a b = .lt) := by
    intro l; rw [List.pairwise_map]
  rw [byKeys] at hl ⊢
  rwa [h]

/-- Walk over the entries in key order with a running value. -/
def walk {β : Type w} (m : OrderedMap κ α) (f : β → κ → α → α × β) (b : β) : OrderedMap κ α × β :=
  (⟨(walkEntries f b m.entries).1, pairwise_of_keys (keys_walkEntries f b m.entries) m.rising⟩,
    (walkEntries f b m.entries).2)

/-! ## 3. What each operation does to the view -/

theorem ext_entries {m n : OrderedMap κ α} (h : m.entries = n.entries) : m = n := by
  cases m; cases n; simp_all

variable [DecidableEq κ]

@[simp] theorem get?_empty (k : κ) : (∅ : OrderedMap κ α).get? k = none := rfl

theorem find?_insertEntry [Std.TransOrd κ] [Std.LawfulEqOrd κ] {l : List (κ × α)} (k k' : κ)
    (a : α) :
    (insertEntry k a l).find? (fun e => e.1 = k') =
      if k = k' then some (k, a) else l.find? (fun e => e.1 = k') := by
  induction l with
  | nil => by_cases h : k = k' <;> simp [insertEntry, h]
  | cons x rest ih =>
      simp only [insertEntry]
      split
      · by_cases h : k = k' <;> simp [h]
      · rename_i heq
        have hk : k = x.1 := Std.LawfulEqCmp.eq_of_compare heq
        by_cases h : k = k'
        · simp [h]
        · have hx : x.1 ≠ k' := hk ▸ h
          simp [h, hx]
      · rename_i hgt
        rw [List.find?_cons, List.find?_cons, ih]
        by_cases h : k = k'
        · have hx : x.1 ≠ k' := by
            rintro rfl
            subst h
            simp at hgt
          simp [h, hx]
        · simp [h]

/-- **Binding a key changes the view at that key and nowhere else.** -/
theorem get?_insert [Std.TransOrd κ] [Std.LawfulEqOrd κ] (m : OrderedMap κ α) (k k' : κ) (a : α) :
    (m.insert k a).get? k' = if k = k' then some a else m.get? k' := by
  simp only [get?, insert, find?_insertEntry]
  split <;> simp

/-- **Erasing a key empties the view at that key and nowhere else.** -/
theorem get?_erase (m : OrderedMap κ α) (k k' : κ) :
    (m.erase k).get? k' = if k = k' then none else m.get? k' := by
  simp only [get?, erase, filter, List.find?_filter]
  split
  · rename_i h
    subst h
    simp
  · rename_i h
    congr 2
    funext e
    by_cases he : e.1 = k'
    · have hk : e.1 ≠ k := fun hk => h (hk.symm.trans he)
      simp [he, he ▸ hk]
    · simp [he]

/-- **Modifying a key changes the value there, if there is one, and nothing else.** -/
theorem get?_modify (m : OrderedMap κ α) (k k' : κ) (f : α → α) :
    (m.modify k f).get? k' = if k = k' then (m.get? k').map f else m.get? k' := by
  simp only [get?, modify, mapEntries, List.find?_map, Option.map_map, Function.comp_def]
  cases hf : m.entries.find? (fun e => e.1 = k') with
  | none => simp
  | some e =>
      have he : e.1 = k' := by simpa using List.find?_some hf
      by_cases h : k = k'
      · simp [h, he]
      · have hk : ¬ e.1 = k := fun hk => h (hk.symm.trans he)
        simp [h, hk]

end OrderedMap

end RealtimeChat
