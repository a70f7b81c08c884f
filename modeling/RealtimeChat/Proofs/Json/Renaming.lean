import RealtimeChat.Proofs.Json.Members
/-!
# Members under other names

A field that is written under another of its own names is still found, and what stands under a
name that no field has is not looked at. Objects may be sorted in between: what counts is which
values stand under the names of each field.

* `Varied` -- a member is renamed within its group of names, or members of no group are added;
* `Fields.Carries` -- fields find in other members what they found before;
* **`Same.field`** -- a field does, if the same values stand under its names;
* **`Varied.same`** -- so they do, whether a member was renamed or others were added.
-/

namespace RealtimeChat.Json

variable {α β : Type} {groups : List (List String)} {group names : List String}
  {ms ms' : List (String × Json)}

/-! ## 1. The same values -/

/-- The same values stand under each group of names. -/
def Same (groups : List (List String)) (ms ms' : List (String × Json)) : Prop :=
  ∀ group ∈ groups, (under group ms').Perm (under group ms)

/-- What the fields find in some members they find in others. -/
def Fields.Carries (x : Fields α) (ms ms' : List (String × Json)) : Prop :=
  ∀ first a, x.read first (.members .plain ms) = .ok a →
    x.read first (.members .plain ms') = .ok a

theorem carries_map (f : α → β) {x : Fields α} (h : x.Carries ms ms') :
    (f <$> x).Carries ms ms' := by
  intro first b hb
  obtain ⟨a, ha, rfl⟩ := Fields.map_ok_iff.mp hb
  exact Fields.map_ok_iff.mpr ⟨a, h first a ha, rfl⟩

theorem Fields.Carries.seq {f : Fields (α → β)} {x : Fields α} (hf : f.Carries ms ms')
    (hx : x.Carries ms ms') : (f <*> x).Carries ms ms' := by
  intro first b hb
  obtain ⟨g, a, hg, ha, rfl⟩ := Fields.seq_ok_iff.mp hb
  exact Fields.seq_ok_iff.mpr ⟨g, a, hf _ g hg, hx _ a ha, rfl⟩

/-- **A field finds what it found before** if the same values stand under its names. -/
theorem Same.field (h : Same groups ms ms') {name : String} {aliases : List String}
    {absent : Option α} {read : Reader α} (hgroup : name :: aliases ∈ groups) :
    (Fields.field name aliases absent read).Carries ms ms' := by
  intro first a ha
  have hperm := h _ hgroup
  rcases Fields.field_ok_iff.mp ha with ⟨hnone, habsent⟩ | ⟨v, hv, hread⟩
  · rw [hnone] at hperm
    exact Fields.field_ok_iff.mpr (.inl ⟨List.perm_nil.mp hperm, habsent⟩)
  · rw [hv] at hperm
    exact Fields.field_ok_iff.mpr (.inr ⟨v, List.perm_singleton.mp hperm, hread⟩)

theorem Same.optional (h : Same groups ms ms') {name : String} {aliases : List String}
    {read : Reader α} (hgroup : name :: aliases ∈ groups) :
    (Fields.optional name aliases read).Carries ms ms' := h.field hgroup

theorem Fields.Carries.readMembers {x : Fields α} (h : x.Carries ms ms') {a : α}
    (ha : readMembers x .plain ms = .ok a) : Json.readMembers x .plain ms' = .ok a :=
  readMembers_ok_iff.mpr (h 0 a (readMembers_ok_iff.mp ha))

/-! ## 2. Sorting in between -/

theorem under_sorted (hnames : (ms.map (·.1)).Nodup) (group : List String) :
    (under group (sortedMembers [] ms)).Perm ((under group ms).map sorted) := by
  rw [← under_map]
  exact perm_under group (sortedMembers_perm hnames)

/-- Sorting both sides leaves the same values the same. -/
theorem same_sorted (hnames : (ms.map (·.1)).Nodup) (hnames' : (ms'.map (·.1)).Nodup)
    (h : ∀ group ∈ groups, under group ms' = under group ms) :
    Same groups (sortedMembers [] ms) (sortedMembers [] ms') := by
  intro group hgroup
  have hms' := under_sorted hnames' group
  rw [h group hgroup] at hms'
  exact hms'.trans (under_sorted hnames group).symm

theorem under_eq_nil (h : ∀ m ∈ ms, m.1 ∉ names) : under names ms = [] := by
  rw [under, List.filter_eq_nil_iff.mpr fun m hm => by simpa using h m hm, List.map_nil]

/-- Members with distinct names hold at most one value under one name. -/
theorem length_under_name (hnames : (ms.map (·.1)).Nodup) (name : String) :
    (under [name] ms).length ≤ 1 := by
  induction ms with
  | nil => exact Nat.zero_le 1
  | cons m ms ih =>
      obtain ⟨hnew, hnames⟩ := List.nodup_cons.mp hnames
      rw [under_cons]
      split
      · rename_i hname
        have hnone : under [name] ms = [] := by
          refine under_eq_nil fun m' hm hname' => hnew ?_
          have hsame : m.1 = m'.1 :=
            (List.mem_singleton.mp hname).trans (List.mem_singleton.mp hname').symm
          exact List.mem_map.mpr ⟨m', hm, hsame.symm⟩
        rw [hnone]
        exact Nat.le_refl 1
      · exact ih hnames

theorem under_single {front back : List (String × Json)} {name : String} {v : Json}
    (hnames : ((front ++ (name, v) :: back).map (·.1)).Nodup) :
    under [name] (front ++ (name, v) :: back) = [v] := by
  have hlength := length_under_name hnames name
  rw [under_append, under_cons, if_pos (List.mem_singleton.mpr rfl)] at hlength ⊢
  rw [List.length_append, List.length_cons] at hlength
  have hfront : under [name] front = [] := List.eq_nil_of_length_eq_zero (by omega)
  have hback : under [name] back = [] := List.eq_nil_of_length_eq_zero (by omega)
  rw [hfront, hback, List.nil_append]

theorem under_name_sorted (hnames : (ms.map (·.1)).Nodup) (name : String) :
    under [name] (sortedMembers [] ms) = (under [name] ms).map sorted := by
  have hperm := under_sorted hnames [name]
  match hunder : under [name] ms, length_under_name hnames name with
  | [], _ =>
      rw [hunder] at hperm
      exact List.perm_nil.mp hperm
  | [v], _ =>
      rw [hunder] at hperm
      exact List.perm_singleton.mp hperm

/-! ## 3. Renaming and adding -/

/-- The members of an object after one of them was given another name of its group that was not
present, or after members were added whose names are in no group. -/
inductive Varied (groups : List (List String)) (ms : List (String × Json)) :
    List (String × Json) → Prop where
  | renamed {front back : List (String × Json)} {old new : String} {v : Json}
      {group : List String} (hms : ms = front ++ (old, v) :: back) (hgroup : group ∈ groups)
      (hold : old ∈ group) (hnew : new ∈ group) (habsent : new ∉ ms.map (·.1)) :
      Varied groups ms (front ++ (new, v) :: back)
  | extended {extra : List (String × Json)}
      (hunread : ∀ m ∈ extra, ∀ group ∈ groups, m.1 ∉ group)
      (hdistinct : ((ms ++ extra).map (·.1)).Nodup) : Varied groups ms (ms ++ extra)

section Renamed

variable {front back : List (String × Json)} {old new : String} {v : Json}

theorem names_middle (front back : List (String × Json)) (name : String) (v : Json) :
    ((front ++ (name, v) :: back).map (·.1)).Perm (name :: (front ++ back).map (·.1)) :=
  List.perm_middle.map _

/-- The new name is none of the names that there were. -/
theorem ne_of_absent (habsent : new ∉ (front ++ (old, v) :: back).map (·.1)) :
    old ≠ new ∧ new ∉ (front ++ back).map (·.1) := by
  rw [(names_middle front back old v).mem_iff, List.mem_cons, not_or] at habsent
  exact ⟨Ne.symm habsent.1, habsent.2⟩

theorem nodup_renamed (hnames : ((front ++ (old, v) :: back).map (·.1)).Nodup)
    (habsent : new ∉ (front ++ (old, v) :: back).map (·.1)) :
    ((front ++ (new, v) :: back).map (·.1)).Nodup := by
  rw [(names_middle front back _ v).nodup_iff, List.nodup_cons] at hnames ⊢
  exact ⟨(ne_of_absent habsent).2, hnames.2⟩

end Renamed

theorem Varied.nodup (h : Varied groups ms ms') (hnames : (ms.map (·.1)).Nodup) :
    (ms'.map (·.1)).Nodup := by
  cases h with
  | extended _ hdistinct => exact hdistinct
  | renamed hms _ _ _ habsent =>
      subst hms
      exact nodup_renamed hnames habsent

/-- Groups that share no name. -/
def Apart (groups : List (List String)) : Prop :=
  ∀ group ∈ groups, ∀ other ∈ groups, ∀ name ∈ group, name ∈ other → group = other

instance (groups : List (List String)) : Decidable (Apart groups) := by
  unfold Apart
  infer_instance

/-- Renaming within a group and adding outside of all leave the values under each group. -/
theorem Varied.under_eq (h : Varied groups ms ms') (hapart : Apart groups)
    (hgroup : group ∈ groups) : under group ms' = under group ms := by
  cases h with
  | extended hunread _ =>
      rw [under_append, under_eq_nil fun m hm => hunread m hm group hgroup, List.append_nil]
  | @renamed front back old new v other hms hother hold hnew _ =>
      have hboth : new ∈ group ↔ old ∈ group :=
        ⟨fun hmem => hapart group hgroup other hother new hmem hnew ▸ hold,
          fun hmem => hapart group hgroup other hother old hmem hold ▸ hnew⟩
      rw [hms, under_append, under_append, under_cons, under_cons]
      simp only [hboth]

/-- **The same values stand under each group of names** after a member was renamed or others were
added, and everything was sorted. -/
theorem Varied.same (h : Varied groups ms ms') (hapart : Apart groups)
    (hnames : (ms.map (·.1)).Nodup) :
    Same groups (sortedMembers [] ms) (sortedMembers [] ms') :=
  same_sorted hnames (h.nodup hnames) fun _ => h.under_eq hapart

end RealtimeChat.Json
