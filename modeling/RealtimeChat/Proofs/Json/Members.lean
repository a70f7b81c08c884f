import RealtimeChat.Json.Reading
import RealtimeChat.Proofs.OrderedMap
import RealtimeChat.Proofs.Timestamp
/-!
# What a record finds among members

The fields of a record look at the members under their own names, and where they find a value
only one. So neither the order of the members counts nor what stands under other names, and
sorting the objects in a value does not change what is read from it.

* `under` -- the values under some names; **`field_ok_iff`** -- what a field makes of them;
* **`sortedMembers_perm`**, **`sorted_sorted`** -- sorting only moves members whose names are
  distinct, and only once;
* `Restores`, `Fields.Restores` -- values from which something is read back, sorted or not;
* **`restores_record`**, **`restores_tagged`** -- records, and records that name their own case.
-/

namespace RealtimeChat.Json

variable {α β : Type} {names : List String} {ms ms' : List (String × Json)}

/-! ## 1. The values under some names -/

/-- The values of the members under one of the names. -/
def under (names : List String) (ms : List (String × Json)) : List Json :=
  (ms.filter (fun m => m.1 ∈ names)).map (·.2)

@[simp] theorem under_nil (names : List String) : under names [] = [] := rfl

@[simp] theorem under_append (ms ms' : List (String × Json)) :
    under names (ms ++ ms') = under names ms ++ under names ms' := by
  simp [under]

@[simp] theorem under_cons (m : String × Json) (ms : List (String × Json)) :
    under names (m :: ms) = if m.1 ∈ names then m.2 :: under names ms else under names ms := by
  by_cases h : m.1 ∈ names <;> simp [under, h]

@[simp] theorem under_optionalMember (name : String) (f : α → Json) (a : Option α) :
    under names (optionalMember name f a) = if name ∈ names then (a.map f).toList else [] := by
  cases a <;> simp [optionalMember]

theorem under_map (g : Json → Json) :
    under names (ms.map fun m => (m.1, g m.2)) = (under names ms).map g := by
  induction ms with
  | nil => rfl
  | cons m ms ih => by_cases h : m.1 ∈ names <;> simp [h, ih]

theorem perm_under (names : List String) (h : ms.Perm ms') :
    (under names ms).Perm (under names ms') :=
  (h.filter _).map _

/-- An optional member has no name but its own. -/
theorem optionalMember_sublist (name : String) (f : α → Json) (a : Option α) :
    ((optionalMember name f a).map (·.1)).Sublist [name] := by
  cases a with
  | none => exact List.nil_sublist _
  | some a => exact List.Sublist.refl _

/-! ## 2. Fields -/

namespace Fields

theorem map_fst_entries (names : List String) (ms : List (String × Json)) :
    (entries names ms).map (·.1) = under names ms := by
  have hfilter := List.filter_map (f := Prod.fst) (p := fun m : String × Json => m.1 ∈ names)
    (l := ms.zipIdx)
  rw [List.zipIdx_map_fst] at hfilter
  simp only [entries, under, hfilter, List.map_map]
  rfl

/-- **What a field makes of the members**: with one value under its names it reads that, with none
it takes what a missing field counts as. -/
theorem field_ok_iff {name : String} {aliases : List String} {absent : Option α} {read : Reader α}
    {first : Nat} {setting : Setting} {a : α} :
    (field name aliases absent read).read first (.members setting ms) = .ok a ↔
      under (name :: aliases) ms = [] ∧ absent = some a ∨
      ∃ v, under (name :: aliases) ms = [v] ∧ read setting v = .ok a := by
  rw [← map_fst_entries]
  simp only [field]
  cases entries (name :: aliases) ms with
  | nil => cases absent <;> simp
  | cons e rest =>
      cases hread : read setting e.1 <;> cases rest <;> simp [hread]

theorem map_ok_iff {f : α → β} {x : Fields α} {first : Nat} {source : Source} {b : β} :
    (f <$> x).read first source = .ok b ↔ ∃ a, x.read first source = .ok a ∧ f a = b := by
  show (x.read first source).map f = .ok b ↔ _
  cases x.read first source <;> simp [Except.map]

theorem seq_ok_iff {f : Fields (α → β)} {x : Fields α} {first : Nat} {source : Source} {b : β} :
    (f <*> x).read first source = .ok b ↔
      ∃ g a, f.read first source = .ok g ∧ x.read (first + f.count) source = .ok a ∧ g a = b := by
  show both (fun f a => f a) (f.read first source) (x.read (first + f.count) source) = .ok b ↔ _
  cases f.read first source <;> cases x.read (first + f.count) source <;> simp [both]

end Fields

theorem readMembers_ok_iff {fields : Fields α} {setting : Setting} {a : α} :
    readMembers fields setting ms = .ok a ↔ fields.read 0 (.members setting ms) = .ok a := by
  unfold readMembers
  cases fields.read 0 (.members setting ms) <;> simp [Except.mapError]

/-! ## 3. Sorted members -/

@[simp] theorem sorted_bool (b : Bool) : (bool b).sorted = bool b := by simp [sorted]

@[simp] theorem sorted_number (n : Number) : (number n).sorted = number n := by simp [sorted]

@[simp] theorem sorted_string (s : String) : (string s).sorted = string s := by simp [sorted]

@[simp] theorem sorted_object (ms : List (String × Json)) :
    (object ms).sorted = object (sortedMembers [] ms) := by simp [sorted]

theorem insertEntry_perm {name : String} {v : Json} (h : name ∉ ms.map (·.1)) :
    (OrderedMap.insertEntry name v ms).Perm ((name, v) :: ms) := by
  induction ms with
  | nil => exact List.Perm.refl _
  | cons m ms ih =>
      rw [List.map_cons, List.mem_cons, not_or] at h
      simp only [OrderedMap.insertEntry]
      split
      · exact List.Perm.refl _
      · rename_i heq
        exact absurd (Std.LawfulEqCmp.eq_of_compare heq) h.1
      · exact ((ih h.2).cons m).trans (.swap _ _ _)

theorem sortedMembers_done {done : List (String × Json)} (h : ((done ++ ms).map (·.1)).Nodup) :
    (sortedMembers done ms).Perm (done ++ ms.map fun m => (m.1, m.2.sorted)) := by
  induction ms generalizing done with
  | nil =>
      rw [sortedMembers, List.map_nil, List.append_nil]
  | cons m ms ih =>
      have hmiddle : (done ++ m :: ms).Perm (m :: (done ++ ms)) := List.perm_middle
      have hnames := (hmiddle.map (·.1)).nodup_iff.mp h
      have hnew : m.1 ∉ done.map (·.1) := fun hm =>
        (List.nodup_cons.mp hnames).1 (by
          rw [List.map_append]
          exact List.mem_append_left _ hm)
      have hinsert := insertEntry_perm (v := m.2.sorted) hnew
      have hrest := ih (((hinsert.append_right ms).map (·.1)).nodup_iff.mpr hnames)
      rw [sortedMembers, List.map_cons]
      exact (hrest.trans (hinsert.append_right _)).trans List.perm_middle.symm

/-- **Sorting only moves members** whose names are distinct, and sorts what is in them. -/
theorem sortedMembers_perm (h : (ms.map (·.1)).Nodup) :
    (sortedMembers [] ms).Perm (ms.map fun m => (m.1, m.2.sorted)) := sortedMembers_done h

theorem sortedMembers_rising {done : List (String × Json)}
    (h : done.Pairwise fun a b => compare a.1 b.1 = .lt) :
    (sortedMembers done ms).Pairwise fun a b => compare a.1 b.1 = .lt := by
  induction ms generalizing done with
  | nil => rwa [sortedMembers]
  | cons m ms ih =>
      rw [sortedMembers]
      exact ih (OrderedMap.pairwise_insertEntry h)

/-- Members by rising name whose values are sorted stay as they are. -/
theorem sortedMembers_eq_self {done : List (String × Json)}
    (hrising : (done ++ ms).Pairwise fun a b => compare a.1 b.1 = .lt)
    (hfixed : ∀ m ∈ ms, m.2.sorted = m.2) : sortedMembers done ms = done ++ ms := by
  induction ms generalizing done with
  | nil => rw [sortedMembers, List.append_nil]
  | cons m ms ih =>
      have hlast : ∀ e ∈ done, compare e.1 m.1 = .lt := fun e he =>
        (List.pairwise_append.mp hrising).2.2 e he m List.mem_cons_self
      rw [sortedMembers, hfixed m List.mem_cons_self, OrderedMap.insertEntry_last hlast]
      rw [List.append_cons] at hrising
      rw [ih hrising fun x hx => hfixed x (List.mem_cons_of_mem _ hx), ← List.append_cons]

theorem sortedMembers_values {done : List (String × Json)}
    (hdone : ∀ m ∈ done, m.2.sorted = m.2) (h : ∀ m ∈ ms, m.2.sorted.sorted = m.2.sorted) :
    ∀ m ∈ sortedMembers done ms, m.2.sorted = m.2 := by
  induction ms generalizing done with
  | nil => rwa [sortedMembers]
  | cons m ms ih =>
      rw [sortedMembers]
      refine ih (fun x hx => ?_) fun x hx => h x (List.mem_cons_of_mem _ hx)
      rcases OrderedMap.mem_insertEntry hx with rfl | hx
      · exact h m List.mem_cons_self
      · exact hdone x hx

mutual

/-- **Sorting twice is sorting once.** -/
theorem sorted_sorted : ∀ v : Json, v.sorted.sorted = v.sorted
  | .null => by simp [sorted]
  | .bool _ => by simp [sorted]
  | .number _ => by simp [sorted]
  | .string _ => by simp [sorted]
  | .array items => by simp only [sorted, sortedItems_sortedItems items]
  | .object ms => by
      have hvalues := sortedMembers_values (List.forall_mem_nil _) (sorted_sorted_members ms)
      rw [sorted_object, sorted_object,
        sortedMembers_eq_self (sortedMembers_rising List.Pairwise.nil) hvalues, List.nil_append]

theorem sortedItems_sortedItems : ∀ items : List Json,
    sortedItems (sortedItems items) = sortedItems items
  | [] => by simp [sortedItems]
  | v :: rest => by simp only [sortedItems, sorted_sorted v, sortedItems_sortedItems rest]

theorem sorted_sorted_members : ∀ (ms : List (String × Json)),
    ∀ m ∈ ms, m.2.sorted.sorted = m.2.sorted
  | [] => List.forall_mem_nil _
  | (_, v) :: rest =>
      List.forall_mem_cons.mpr ⟨sorted_sorted v, sorted_sorted_members rest⟩

end

/-- The members of a sorted object have distinct names. -/
theorem nodup_of_sorted (h : sortedMembers [] ms = ms) : (ms.map (·.1)).Nodup := by
  have hrising : (sortedMembers [] ms).Pairwise fun a b => compare a.1 b.1 = .lt :=
    sortedMembers_rising List.Pairwise.nil
  rw [h] at hrising
  refine List.pairwise_map.mpr (hrising.imp fun {a b} hlt heq => ?_)
  have hself : compare b.1 b.1 = .eq := Std.ReflCmp.compare_self
  rw [heq, hself] at hlt
  cases hlt

/-- The values in a sorted object are sorted. -/
theorem values_of_sorted (h : sortedMembers [] ms = ms) : ∀ m ∈ ms, m.2.sorted = m.2 := by
  have hvalues := sortedMembers_values (List.forall_mem_nil _) (sorted_sorted_members ms)
  rwa [h] at hvalues

/-! ## 4. What is read back -/

/-- The members in some order, as they are or with what is in them sorted. -/
def Listed (ms ms' : List (String × Json)) : Prop :=
  ms'.Perm ms ∨ ms'.Perm (ms.map fun m => (m.1, m.2.sorted))

/-- What a reader finds in a value, whether sorted or not. -/
def Restores (read : Reader α) (v : Json) (a : α) : Prop :=
  ∀ setting, read setting v = .ok a ∧ read setting v.sorted = .ok a

/-- What fields find in members, in whatever order these are listed. -/
def Fields.Restores (x : Fields α) (ms : List (String × Json)) (a : α) : Prop :=
  ∀ setting first ms', Listed ms ms' → x.read first (.members setting ms') = .ok a

/-- A reader takes what was written, and never the sign of an absent value. -/
structure Inverse (read : Reader α) (write : α → Json) : Prop where
  restores : ∀ a, Restores read (write a) a
  refuses : ∀ setting a, read setting .null ≠ .ok a

theorem Listed.under (h : Listed ms ms') (names : List String) :
    (under names ms').Perm (under names ms) ∨
      (under names ms').Perm ((under names ms).map sorted) := by
  refine h.imp (perm_under names) fun h => ?_
  have hunder := perm_under names h
  rwa [under_map] at hunder

/-! ### Single values -/

theorem restores_of_sorted_eq {read : Reader α} {v : Json} {a : α} (hv : v.sorted = v)
    (h : ∀ setting, read setting v = .ok a) : Restores read v a := by
  intro setting
  rw [hv]
  exact ⟨h setting, h setting⟩

theorem inverse_string : Inverse readString .string :=
  ⟨fun s => restores_of_sorted_eq (sorted_string s) fun _ => rfl, nofun⟩

theorem inverse_bool : Inverse readBool .bool :=
  ⟨fun b => restores_of_sorted_eq (sorted_bool b) fun _ => rfl, nofun⟩

theorem inverse_timestamp : Inverse readTimestamp (.string ·.text) := by
  refine ⟨fun t => restores_of_sorted_eq (sorted_string t.text) fun setting => ?_, ?_⟩
  · simp only [readTimestamp, Timestamp.read_text, Except.mapError]
  · rintro setting t ⟨⟩

/-- Named values are read back if their names stand for them. -/
theorem inverse_choice {variants : List (String × α)} {name : α → String}
    (h : ∀ a, variants.lookup (name a) = some a) :
    Inverse (readChoice variants) (.string <| name ·) := by
  refine ⟨fun a => restores_of_sorted_eq (sorted_string (name a)) fun setting => ?_, nofun⟩
  simp only [readChoice, lookupVariant, h]

theorem restores_nat {bits n : Nat} (h : n < Nat.pow 2 bits) :
    Restores (readNat bits) (ofNat n) n := by
  have hcast : ((Nat.pow 2 bits : Nat) : Int) = Int.pow 2 bits := Int.natCast_pow 2 bits
  have hbound : (0 : Int) ≤ n ∧ (n : Int) < Int.pow 2 bits := by
    rw [← hcast]
    exact ⟨Int.natCast_nonneg n, Int.ofNat_lt.mpr h⟩
  refine restores_of_sorted_eq (sorted_number (.integer n)) fun setting => ?_
  simp only [readNat, ofNat, if_pos hbound, Int.toNat_natCast]

/-! ### Fields -/

section Fields

variable {setting : Setting} {read : Reader α} {write : α → Json} {name : String}
  {aliases : List String}

theorem restores_pure (a : α) : (pure a : Fields α).Restores ms a := fun _ _ _ _ => rfl

theorem restores_map (f : α → β) {x : Fields α} {a : α} (h : x.Restores ms a) :
    (f <$> x).Restores ms (f a) := fun setting first ms' hms =>
  Fields.map_ok_iff.mpr ⟨a, h setting first ms' hms, rfl⟩

theorem Fields.Restores.seq {f : Fields (α → β)} {x : Fields α} {g : α → β} {a : α}
    (hf : f.Restores ms g) (hx : x.Restores ms a) : (f <*> x).Restores ms (g a) :=
  fun setting _ ms' hms =>
    Fields.seq_ok_iff.mpr ⟨g, a, hf setting _ ms' hms, hx setting _ ms' hms, rfl⟩

theorem restores_field {absent : Option α} {v : Json} {a : α}
    (hunder : under (name :: aliases) ms = [v]) (hread : Restores read v a) :
    (Fields.field name aliases absent read).Restores ms a := by
  intro setting first ms' hms
  refine Fields.field_ok_iff.mpr (.inr ?_)
  have hms := hms.under (name :: aliases)
  rw [hunder] at hms
  rcases hms with hms | hms
  · exact ⟨v, List.perm_singleton.mp hms, (hread setting).1⟩
  · exact ⟨v.sorted, List.perm_singleton.mp hms, (hread setting).2⟩

theorem restores_absent {a : α} (hunder : under (name :: aliases) ms = []) :
    (Fields.field name aliases (some a) read).Restores ms a := by
  intro setting first ms' hms
  refine Fields.field_ok_iff.mpr (.inl ⟨?_, rfl⟩)
  have hms := hms.under (name :: aliases)
  rw [hunder] at hms
  rcases hms with hms | hms <;> exact List.perm_nil.mp hms

theorem restores_readOptional {v : Json} {a : α}
    (hrefuses : ∀ setting a, read setting .null ≠ .ok a) (h : Restores read v a) :
    Restores (readOptional read) v (some a) := by
  have hread : ∀ setting v, read setting v = .ok a →
      readOptional read setting v = .ok (some a) := by
    intro setting v hv
    cases v with
    | null => exact absurd hv (hrefuses setting a)
    | _ => simp only [readOptional, hv, Except.map]
  exact fun setting => ⟨hread setting _ (h setting).1, hread setting _ (h setting).2⟩

/-- A value that may be missing is read back from whatever it was written for. -/
theorem restores_optional_of {γ : Type} {write : γ → Json} {value : γ → α}
    (hrefuses : ∀ setting a, read setting .null ≠ .ok a)
    (h : ∀ c, Restores read (write c) (value c)) {c : Option γ}
    (hunder : under (name :: aliases) ms = (c.map write).toList) :
    (Fields.optional name aliases read).Restores ms (c.map value) := by
  cases c with
  | none => exact restores_absent hunder
  | some c => exact restores_field hunder (restores_readOptional hrefuses (h c))

/-- A value that may be missing is read back, as missing if it is left out. -/
theorem restores_optional (h : Inverse read write) {a : Option α}
    (hunder : under (name :: aliases) ms = (a.map write).toList) :
    (Fields.optional name aliases read).Restores ms a := by
  have hread := restores_optional_of h.refuses h.restores hunder
  rwa [Option.map_id'] at hread

/-- A value that is left out is read as the default. -/
theorem restores_withDefault (h : Inverse read write) {a : Option α} {default : α}
    (hunder : under (name :: aliases) ms = (a.map write).toList) :
    (Fields.withDefault name aliases default read).Restores ms (a.getD default) := by
  cases a with
  | none => exact restores_absent hunder
  | some a => exact restores_field hunder (h.restores a)

end Fields

/-! ### Records -/

theorem readMembers_restores {fields : Fields α} {a : α} (h : fields.Restores ms a)
    (setting : Setting) (hms : Listed ms ms') : readMembers fields setting ms' = .ok a :=
  readMembers_ok_iff.mpr (h setting 0 ms' hms)

/-- The members of a sorted object are its members in another order, sorted themselves. -/
theorem listed_sorted (hnames : (ms.map (·.1)).Nodup) : Listed ms (sortedMembers [] ms) :=
  .inr (sortedMembers_perm hnames)

/-- **A record is read back** from members with distinct names if its fields are. -/
theorem restores_record {fields : Fields α} {a : α} (name : String)
    (hnames : (ms.map (·.1)).Nodup) (h : fields.Restores ms a) :
    Restores (record name fields) (.object ms) a := by
  intro setting
  rw [sorted_object]
  exact ⟨readMembers_restores h setting (.inl (.refl _)),
    readMembers_restores h setting (listed_sorted hnames)⟩

/-- Among members with the tag in front the tag is found, and the others are left. -/
theorem Listed.tag {tag name : String} (hnames : (tag :: ms.map (·.1)).Nodup)
    (h : Listed ((tag, .string name) :: ms) ms') :
    ms'.find? (fun m => m.1 = tag) = some (tag, .string name) ∧
      Listed ms (ms'.filter fun m => m.1 ≠ tag) := by
  have hnew : tag ∉ ms.map (·.1) := (List.nodup_cons.mp hnames).1
  -- a list in which the tag stands in front and nowhere else, in whatever order it is listed
  have hfront : ∀ rest : List (String × Json), rest.map (·.1) = ms.map (·.1) →
      ms'.Perm ((tag, .string name) :: rest) →
      ms'.find? (fun m => m.1 = tag) = some (tag, .string name) ∧
        (ms'.filter fun m => m.1 ≠ tag).Perm rest := by
    intro rest hrest hperm
    have hother : ∀ m ∈ rest, m.1 ≠ tag := by
      rintro m hm rfl
      exact hnew (hrest ▸ List.mem_map_of_mem hm)
    constructor
    · have hnone : rest.filter (fun m => m.1 = tag) = [] :=
        List.filter_eq_nil_iff.mpr (by simpa using hother)
      have htags := hperm.filter (fun m => m.1 = tag)
      rw [List.filter_cons_of_pos (by simp), hnone, List.perm_singleton] at htags
      rw [← List.head?_filter, htags]
      rfl
    · have hall : rest.filter (fun m => m.1 ≠ tag) = rest :=
        List.filter_eq_self.mpr (by simpa using hother)
      have hothers := hperm.filter (fun m => m.1 ≠ tag)
      rwa [List.filter_cons_of_neg (by simp), hall] at hothers
  rcases h with h | h
  · obtain ⟨hfind, hfilter⟩ := hfront ms rfl h
    exact ⟨hfind, .inl hfilter⟩
  · rw [List.map_cons, sorted_string] at h
    obtain ⟨hfind, hfilter⟩ := hfront _ (by simp) h
    exact ⟨hfind, .inr hfilter⟩

/-- **A record that names its own case is read back** if the fields of the case are. -/
theorem restores_tagged {cases : List (String × Case α)} {tag name : String} {c : Case α} {a : α}
    (typeName : String) (hnames : (tag :: ms.map (·.1)).Nodup) (hcase : cases.lookup name = some c)
    (h : c.fields.Restores ms a) :
    Restores (tagged typeName tag cases) (.object ((tag, .string name) :: ms)) a := by
  have hread : ∀ setting ms', Listed ((tag, .string name) :: ms) ms' →
      tagged typeName tag cases setting (.object ms') = .ok a := by
    intro setting ms' hms
    obtain ⟨hfind, hrest⟩ := hms.tag hnames
    simp only [tagged, hfind, readTag, lookupVariant, hcase]
    exact readMembers_restores h .cased hrest
  intro setting
  rw [sorted_object]
  exact ⟨hread setting _ (.inl (.refl _)), hread setting _ (listed_sorted hnames)⟩

/-! ## 5. What can be read at all -/

/-- Whatever the fields find has the property. -/
def Fields.Yields (x : Fields α) (P : α → Prop) : Prop :=
  ∀ first source a, x.read first source = .ok a → P a

theorem yields_required {name : String} {aliases : List String} {read : Reader α} {P : α → Prop}
    (h : ∀ setting v a, read setting v = .ok a → P a) :
    (Fields.required name aliases read).Yields P := by
  intro first source a ha
  cases source with
  | members setting list =>
      rcases Fields.field_ok_iff.mp ha with ⟨-, habsent⟩ | ⟨v, -, hv⟩
      · cases habsent
      · exact h setting v a hv
  | items setting list needed =>
      simp only [Fields.required, Fields.field] at ha
      split at ha
      · rename_i v hv
        cases hread : read setting v with
        | error f =>
            rw [hread] at ha
            cases ha
        | ok b =>
            rw [hread] at ha
            exact Except.ok.inj ha ▸ h setting v b hread
      · cases ha

theorem yields_map {P : β → Prop} {Q : α → Prop} {f : α → β} {x : Fields α} (hx : x.Yields Q)
    (h : ∀ a, Q a → P (f a)) : (f <$> x).Yields P := by
  intro first source b hb
  obtain ⟨a, ha, rfl⟩ := Fields.map_ok_iff.mp hb
  exact h a (hx first source a ha)

theorem yields_seq {P : β → Prop} {f : Fields (α → β)} {x : Fields α}
    (h : f.Yields fun g => ∀ a, P (g a)) : (f <*> x).Yields P := by
  intro first source b hb
  obtain ⟨g, a, hg, -, rfl⟩ := Fields.seq_ok_iff.mp hb
  exact h first source g hg a

theorem yields_pure {P : α → Prop} {a : α} (h : P a) : (pure a : Fields α).Yields P := by
  intro first source b hb
  obtain rfl := Except.ok.inj hb
  exact h

theorem lt_of_readNat {bits n : Nat} {setting : Setting} {v : Json}
    (h : readNat bits setting v = .ok n) : n < Nat.pow 2 bits := by
  have hcast : ((Nat.pow 2 bits : Nat) : Int) = Int.pow 2 bits := Int.natCast_pow 2 bits
  simp only [readNat] at h
  split at h
  · rename_i m
    split at h
    · rename_i hm
      obtain rfl := Except.ok.inj h
      omega
    · cases h
  · cases h

theorem readItems_ok {kind : String} {fields : Fields α} {setting : Setting} {items : List Json}
    {a : α} (h : readItems kind fields setting items = .ok a) :
    ∃ source, fields.read 0 source = .ok a := by
  unfold readItems at h
  split at h
  · cases h
  · rename_i b hb
    split at h
    · exact ⟨_, Except.ok.inj h ▸ hb⟩
    · cases h

theorem readTag_ok {cases : List (String × Case α)} {v : Json} {c : Case α}
    (h : readTag cases v = .ok c) : ∃ name, (name, c) ∈ cases := by
  cases v with
  | string name =>
      simp only [readTag, lookupVariant] at h
      split at h
      · rename_i b hb
        obtain rfl := Except.ok.inj h
        obtain ⟨before, after, hcases, -⟩ := List.lookup_eq_some_iff.mp hb
        exact ⟨name, by simp [hcases]⟩
      · cases h
  | _ => cases h

/-- What a record with cases is read as comes from the fields of one of them. -/
theorem tagged_yields {cases : List (String × Case α)} {typeName tag : String} {P : α → Prop}
    (h : ∀ c ∈ cases, c.2.fields.Yields P) {setting : Setting} {v : Json} {a : α}
    (ha : tagged typeName tag cases setting v = .ok a) : P a := by
  have hcase : ∀ t c, readTag cases t = .ok c → ∀ source, c.fields.read 0 source = .ok a → P a := by
    intro t c hc source hsource
    obtain ⟨name, hmem⟩ := readTag_ok hc
    exact h _ hmem 0 source a hsource
  simp only [tagged] at ha
  split at ha
  · split at ha
    · cases ha
    · rename_i t _
      cases hc : readTag cases t with
      | error f =>
          rw [hc] at ha
          cases ha
      | ok c =>
          rw [hc] at ha
          exact hcase t c hc _ (readMembers_ok_iff.mp ha)
  · cases ha
  · rename_i t rest
    cases hc : readTag cases t with
    | error f =>
        rw [hc] at ha
        cases ha
    | ok c =>
        rw [hc] at ha
        obtain ⟨source, hsource⟩ := readItems_ok ha
        exact hcase t c hc source hsource
  · cases ha

end RealtimeChat.Json
