import RealtimeChat.OrderedMap
import RealtimeChat.Table
/-!
# Entries, views and contents of ordered maps

The view `get?` and the list of entries say the same about a map. Here the two are tied to each
other, and the operations on whole maps (`filter`, `mapEntries`, `walk`) are read through the view.

* **`get?_eq_some_iff`** -- the view answers with a value iff the entry is in the list;
* **`ext_get?`** -- maps with the same view are the same map;
* `get?_filter`, `get?_mapEntries` -- the operations on whole maps, at one key;
* **`walk_rule`** -- what holds after each single entry of a walk holds after the whole walk;
* **`filter_flatten`** -- in a map of lists the items of one key are the list that stands there.
-/

namespace RealtimeChat.OrderedMap

universe u v w

variable {κ : Type u} {α : Type v} [Ord κ]

/-! ## 1. The view and the entries -/

section View

variable [DecidableEq κ] [Std.LawfulEqOrd κ]

omit [DecidableEq κ] in
theorem distinct_keys (m : OrderedMap κ α) : m.entries.Pairwise (fun x y => x.1 ≠ y.1) :=
  m.rising.imp fun {x y} h e => by
    have hxx : compare y.1 y.1 = .eq := Std.ReflCmp.compare_self
    rw [e, hxx] at h
    cases h

omit [DecidableEq κ] in
/-- The same entries, their order forgotten. -/
def toTable (m : OrderedMap κ α) : Table κ α := ⟨m.entries, m.distinct_keys⟩

/-- **The view answers with a value iff the entry is in the list.** -/
theorem get?_eq_some_iff {m : OrderedMap κ α} {k : κ} {a : α} :
    m.get? k = some a ↔ (k, a) ∈ m.entries := Table.get?_eq_some_iff (t := m.toTable)

/-- What was filtered, at one key. -/
theorem get?_filter (m : OrderedMap κ α) (p : κ → α → Bool) (k : κ) :
    (m.filter p).get? k = (m.get? k).filter (p k) := by
  refine Option.ext fun a => ?_
  rw [get?_eq_some_iff, Option.filter_eq_some_iff, get?_eq_some_iff]
  exact List.mem_filter

omit [Std.LawfulEqOrd κ] in
/-- What was changed everywhere, at one key. -/
theorem get?_mapEntries (m : OrderedMap κ α) (f : κ → α → α) (k : κ) :
    (m.mapEntries f).get? k = (m.get? k).map (f k) := by
  simp only [get?, mapEntries, List.find?_map, Option.map_map, Function.comp_def]
  cases hf : m.entries.find? (fun e => e.1 = k) with
  | none => rfl
  | some e =>
      have hk : e.1 = k := by simpa using List.find?_some hf
      rw [Option.map_some, Option.map_some, hk]

/-- **Maps with the same view are the same map.** -/
theorem ext_get? [Std.TransOrd κ] {m n : OrderedMap κ α} (h : ∀ k, m.get? k = n.get? k) :
    m = n := by
  have nodup : ∀ m : OrderedMap κ α, m.entries.Nodup := fun m =>
    m.distinct_keys.imp fun hk e => hk (congrArg Prod.fst e)
  have hperm : m.entries.Perm n.entries :=
    (List.perm_ext_iff_of_nodup (nodup m) (nodup n)).mpr fun e => by
      rw [← get?_eq_some_iff, ← get?_eq_some_iff, h]
  refine ext_entries (hperm.eq_of_pairwise (fun a b _ _ hab hba => ?_) m.rising n.rising)
  have hgt : compare a.1 b.1 = .gt := Std.OrientedCmp.gt_of_lt hba
  rw [hgt] at hab
  cases hab

theorem erase_eq_self {m : OrderedMap κ α} {k : κ} (h : m.get? k = none) : m.erase k = m := by
  refine ext_entries (List.filter_eq_self.mpr fun e he => ?_)
  have hne : e.1 ≠ k := by
    rintro rfl
    rw [get?_eq_some_iff.mpr he] at h
    cases h
  simpa using hne

theorem mem_values_iff {m : OrderedMap κ α} {a : α} :
    a ∈ m.values ↔ ∃ k, m.get? k = some a := by
  simp [values, get?_eq_some_iff]

theorem mem_keys_iff {m : OrderedMap κ α} {k : κ} : k ∈ m.keys ↔ ∃ a, m.get? k = some a := by
  simp [keys, get?_eq_some_iff]

end View

/-! ## 2. Binding a key that has an entry -/

theorem insertEntry_append [Std.TransOrd κ] [Std.LawfulEqOrd κ] {before after : List (κ × α)}
    {k : κ} {a b : α} (h : ∀ e ∈ before, compare e.1 k = .lt) :
    insertEntry k b (before ++ (k, a) :: after) = before ++ (k, b) :: after := by
  induction before with
  | nil => simp [insertEntry]
  | cons e rest ih =>
      have hgt : compare k e.1 = .gt := Std.OrientedCmp.gt_of_lt (h e List.mem_cons_self)
      simp only [List.cons_append, insertEntry, hgt]
      rw [ih fun x hx => h x (List.mem_cons_of_mem _ hx)]

/-- A key behind all others is put at the end. -/
theorem insertEntry_last [Std.TransOrd κ] {entries : List (κ × α)} {k : κ} {a : α}
    (h : ∀ e ∈ entries, compare e.1 k = .lt) : insertEntry k a entries = entries ++ [(k, a)] := by
  induction entries with
  | nil => rfl
  | cons e rest ih =>
      have hgt : compare k e.1 = .gt := Std.OrientedCmp.gt_of_lt (h e List.mem_cons_self)
      simp only [insertEntry, hgt, List.cons_append]
      rw [ih fun x hx => h x (List.mem_cons_of_mem _ hx)]

/-- **A key that has an entry keeps its place when it is bound again.** -/
theorem entries_insert [Std.TransOrd κ] [Std.LawfulEqOrd κ] {m : OrderedMap κ α}
    {before after : List (κ × α)} {k : κ} {a : α} (b : α)
    (h : m.entries = before ++ (k, a) :: after) :
    (m.insert k b).entries = before ++ (k, b) :: after := by
  have hr := m.rising
  rw [h] at hr
  have hlt : ∀ e ∈ before, compare e.1 k = .lt := fun e he =>
    (List.pairwise_append.mp hr).2.2 e he _ List.mem_cons_self
  show insertEntry k b m.entries = _
  rw [h, insertEntry_append hlt]

theorem insert_self [DecidableEq κ] [Std.TransOrd κ] [Std.LawfulEqOrd κ] {m : OrderedMap κ α}
    {k : κ} {a : α} (h : m.get? k = some a) : m.insert k a = m := by
  obtain ⟨before, after, hm⟩ := List.append_of_mem (get?_eq_some_iff.mp h)
  exact ext_entries ((entries_insert a hm).trans hm.symm)

theorem insert_insert [DecidableEq κ] [Std.TransOrd κ] [Std.LawfulEqOrd κ] {m : OrderedMap κ α}
    {k : κ} {a : α} (b c : α) (h : m.get? k = some a) :
    (m.insert k b).insert k c = m.insert k c := by
  obtain ⟨before, after, hm⟩ := List.append_of_mem (get?_eq_some_iff.mp h)
  exact ext_entries ((entries_insert c (entries_insert b hm)).trans (entries_insert c hm).symm)

/-- **What binding a key anew preserves at each entry of a walk, the whole walk preserves.** -/
theorem walk_rule {β : Type w} [DecidableEq κ] [Std.TransOrd κ] [Std.LawfulEqOrd κ]
    {P : OrderedMap κ α → β → Prop} {f : β → κ → α → α × β}
    (step : ∀ m b k a, m.get? k = some a → P m b → P (m.insert k (f b k a).1) (f b k a).2)
    (m : OrderedMap κ α) (b : β) (start : P m b) : P (m.walk f b).1 (m.walk f b).2 := by
  -- the entries in front are those that were visited; the map is carried along with its order
  have along : ∀ (rest before : List (κ × α)) (m : OrderedMap κ α) (b : β),
      m.entries = before ++ rest → P m b → ∀ n : OrderedMap κ α,
      n.entries = before ++ (walkEntries f b rest).1 → P n (walkEntries f b rest).2 := by
    intro rest
    induction rest with
    | nil =>
        intro before m b hm hP n hn
        rw [ext_entries (hn.trans hm.symm)]
        exact hP
    | cons e rest ih =>
        intro before m b hm hP n hn
        have hk : m.get? e.1 = some e.2 := by
          rw [get?_eq_some_iff, hm]
          exact List.mem_append_right _ List.mem_cons_self
        have hi := entries_insert (f b e.1 e.2).1 hm
        refine ih (before ++ [(e.1, (f b e.1 e.2).1)]) _ _ ?_ (step m b e.1 e.2 hk hP) n ?_
        · rw [hi, List.append_assoc]
          rfl
        · rw [hn, List.append_assoc]
          rfl
  exact along m.entries [] m b rfl start _ rfl

/-! ## 3. Maps of lists -/

section Flatten

variable [DecidableEq κ] [Std.LawfulEqOrd κ]

theorem mem_flatten_iff {m : OrderedMap κ (List α)} {a : α} :
    a ∈ m.values.flatten ↔ ∃ k l, m.get? k = some l ∧ a ∈ l := by
  simp only [List.mem_flatten, mem_values_iff]
  constructor
  · rintro ⟨l, ⟨k, hk⟩, ha⟩
    exact ⟨k, l, hk, ha⟩
  · rintro ⟨k, l, hk, ha⟩
    exact ⟨l, ⟨k, hk⟩, ha⟩

/-- **Where every item stands under the key that it belongs to**, the items of one key are the list
that stands there. -/
theorem filter_flatten {m : OrderedMap κ (List α)} {home : α → κ}
    (h : ∀ k l, m.get? k = some l → ∀ a ∈ l, home a = k) (k : κ) :
    m.values.flatten.filter (fun a => home a = k) = (m.get? k).getD [] := by
  cases hk : m.get? k with
  | none =>
      refine List.filter_eq_nil_iff.mpr fun a ha => ?_
      obtain ⟨k', l, hl, hal⟩ := mem_flatten_iff.mp ha
      have hne : k' ≠ k := by
        rintro rfl
        rw [hk] at hl
        cases hl
      simpa [h k' l hl a hal] using hne
  | some l =>
      obtain ⟨before, after, hm⟩ := List.append_of_mem (get?_eq_some_iff.mp hk)
      have hd := m.distinct_keys
      rw [hm] at hd
      obtain ⟨-, hafter, hcross⟩ := List.pairwise_append.mp hd
      have none_of : ∀ es : List (κ × List α), (∀ e ∈ es, e ∈ m.entries ∧ e.1 ≠ k) →
          (es.map (·.2)).flatten.filter (fun a => home a = k) = [] := by
        intro es hes
        refine List.filter_eq_nil_iff.mpr fun a ha => ?_
        obtain ⟨_, hl, hal⟩ := List.mem_flatten.mp ha
        obtain ⟨e, he, rfl⟩ := List.mem_map.mp hl
        have hhome := h e.1 e.2 (get?_eq_some_iff.mpr (hes e he).1) a hal
        simpa [hhome] using (hes e he).2
      have all_of : l.filter (fun a => home a = k) = l :=
        List.filter_eq_self.mpr fun a ha => by simpa using h k l hk a ha
      have hbefore : ∀ e ∈ before, e ∈ m.entries ∧ e.1 ≠ k := fun e he =>
        ⟨hm ▸ List.mem_append_left _ he, hcross e he (k, l) List.mem_cons_self⟩
      have hbehind : ∀ e ∈ after, e ∈ m.entries ∧ e.1 ≠ k := fun e he =>
        ⟨hm ▸ List.mem_append_right _ (List.mem_cons_of_mem _ he),
          ((List.pairwise_cons.mp hafter).1 e he).symm⟩
      rw [values, hm, List.map_append, List.map_cons, List.flatten_append, List.flatten_cons,
        List.filter_append, List.filter_append, none_of before hbefore, none_of after hbehind,
        all_of, List.nil_append, List.append_nil, Option.getD_some]

end Flatten

end RealtimeChat.OrderedMap
