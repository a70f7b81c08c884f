import Mathlib
import RealtimeChat.Url
/-!
# What an address tells apart

Texts that are put into an address are encoded, so that nothing in them is taken for a sign that
separates its parts. What was put in can be read off again.

* `Percent.decode_encode`, `Percent.encode_injective` -- what is encoded can be read back;
* `Percent.not_mem_encode` -- a sign that is encoded does not stand in the result;
* `isSingleDot_encode`, `isDoubleDot_encode` -- which texts are taken for one or two dots;
* `formEncode_injective` -- the same for the entries of a query;
* `pathText_injective`, `append_inj_at` -- the parts can be told from the written path, and the path
  from what is behind it.
-/

namespace RealtimeChat.Url.Percent

/-! ## 1. Bytes of characters -/

theorem utf8_injective {cs ds : List Char}
    (h : cs.flatMap String.utf8EncodeChar = ds.flatMap String.utf8EncodeChar) : cs = ds := by
  refine String.ofList_injective (String.toByteArray_inj.mp ?_)
  rw [String.toByteArray_ofList, String.toByteArray_ofList, List.utf8Encode, List.utf8Encode, h]

/-- A byte of the lower half is a character of its own. -/
theorem eq_of_mem_utf8 {c : Char} {b : UInt8} (h : b ∈ String.utf8EncodeChar c) (hb : b < 128) :
    c.toNat = b.toNat := by
  have hlow : b.toNat < 128 := UInt8.lt_iff_toNat_lt.mp hb
  -- the bytes of a longer row all lie in the upper half
  have hhigh : ∀ n, 128 ≤ n → n < 256 → b ≠ UInt8.ofNat n := by
    rintro n hn hn' rfl
    rw [UInt8.toNat_ofNat_of_lt' hn'] at hlow
    omega
  change c.val.toNat = b.toNat
  simp only [String.utf8EncodeChar] at h
  split_ifs at h with hone <;> simp only [List.mem_cons, List.not_mem_nil, or_false] at h
  · rw [h, UInt8.toNat_ofNat_of_lt' (by rw [UInt8.size]; omega)]
  · rcases h with h | h <;> exact absurd h (hhigh _ (by omega) (by omega))
  · rcases h with h | h | h <;> exact absurd h (hhigh _ (by omega) (by omega))
  · rcases h with h | h | h | h <;> exact absurd h (hhigh _ (by omega) (by omega))

theorem percent_not_mem_utf8 {c : Char} (h : c ≠ '%') : 37 ∉ String.utf8EncodeChar c := by
  intro hmem
  exact h (Char.toNat_inj.mp (eq_of_mem_utf8 hmem (by decide)))

/-! ## 2. Reading back -/

theorem decodeBytes_cons {b : UInt8} (h : b ≠ 37) (rest : List UInt8) :
    decodeBytes (b :: rest) = b :: decodeBytes rest := by
  rw [decodeBytes]
  intro _ _ _ heq
  exact absurd heq h

theorem decodeBytes_append {bs : List UInt8} (h : 37 ∉ bs) (rest : List UInt8) :
    decodeBytes (bs ++ rest) = bs ++ decodeBytes rest := by
  induction bs with
  | nil => rfl
  | cons b bs ih =>
      obtain ⟨hb, hbs⟩ := List.ne_and_not_mem_of_not_mem_cons h
      rw [List.cons_append, decodeBytes_cons hb.symm, ih hbs, List.cons_append]

theorem hexDigit_reads : ∀ n : Fin 16, ∃ b, String.utf8EncodeChar (hexDigit n) = [b] ∧
    hexValue? b = some (.ofNat n) := by
  intro n
  refine ⟨.ofNat (hexDigit n).toNat, ?_⟩
  revert n
  decide +kernel

theorem hexDigit_isAlphanum : ∀ n : Fin 16, (hexDigit n).isAlphanum = true := by decide +kernel

theorem decodeBytes_encodeByte (b : UInt8) (rest : List UInt8) :
    decodeBytes ((encodeByte b).flatMap String.utf8EncodeChar ++ rest) = b :: decodeBytes rest := by
  have hb : b.toNat < 256 := b.toNat_lt
  obtain ⟨x, hx, hxval⟩ := hexDigit_reads ⟨b.toNat / 16, by omega⟩
  obtain ⟨y, hy, hyval⟩ := hexDigit_reads ⟨b.toNat % 16, by omega⟩
  have hpercent : String.utf8EncodeChar '%' = [37] := by decide
  have hput : UInt8.ofNat (b.toNat / 16) * 16 + UInt8.ofNat (b.toNat % 16) = b := by
    rw [← UInt8.toNat_inj]
    simp
    omega
  rw [encodeByte, List.flatMap_cons, List.flatMap_cons, List.flatMap_cons, List.flatMap_nil,
    hpercent, hx, hy]
  simp only [List.cons_append, List.nil_append, decodeBytes, hxval, hyval, hput]

theorem decodeBytes_encodeBytes (bs rest : List UInt8) :
    decodeBytes ((bs.flatMap encodeByte).flatMap String.utf8EncodeChar ++ rest) =
      bs ++ decodeBytes rest := by
  induction bs with
  | nil => rfl
  | cons b bs ih =>
      rw [List.flatMap_cons, List.flatMap_append, List.append_assoc, decodeBytes_encodeByte, ih,
        List.cons_append]

variable {set : Char → Bool}

theorem decodeBytes_encodeChar (hset : set '%' = true) (c : Char) (rest : List UInt8) :
    decodeBytes ((encodeChar set c).flatMap String.utf8EncodeChar ++ rest) =
      String.utf8EncodeChar c ++ decodeBytes rest := by
  by_cases hc : set c
  · rw [encodeChar, if_pos hc, decodeBytes_encodeBytes]
  · have hne : c ≠ '%' := fun h => hc (h ▸ hset)
    rw [encodeChar, if_neg hc, List.flatMap_cons, List.flatMap_nil, List.append_nil,
      decodeBytes_append (percent_not_mem_utf8 hne)]

/-- **What was encoded reads back**, if the percent sign is encoded as well. -/
theorem decode_encode (hset : set '%' = true) (cs : List Char) :
    decode (encode set cs) = cs.flatMap String.utf8EncodeChar := by
  rw [decode]
  induction cs with
  | nil => rfl
  | cons c cs ih =>
      rw [encode, List.flatMap_cons, List.flatMap_append, decodeBytes_encodeChar hset,
        List.flatMap_cons]
      exact congrArg _ ih

theorem encode_injective (hset : set '%' = true) : Function.Injective (encode set) := by
  intro cs ds h
  refine utf8_injective ?_
  rw [← decode_encode hset, h, decode_encode hset]

/-! ## 3. What does not stand in an encoded text -/

theorem eq_percent_or_isAlphanum {b : UInt8} {d : Char} (h : d ∈ encodeByte b) :
    d = '%' ∨ d.isAlphanum = true := by
  have hb : b.toNat < 256 := b.toNat_lt
  simp only [encodeByte, List.mem_cons, List.not_mem_nil, or_false] at h
  rcases h with rfl | rfl | rfl
  · exact .inl rfl
  · exact .inr (hexDigit_isAlphanum ⟨b.toNat / 16, by omega⟩)
  · exact .inr (hexDigit_isAlphanum ⟨b.toNat % 16, by omega⟩)

/-- A sign that is encoded, and is not of those that stand for others, is nowhere in the result. -/
theorem not_mem_encode {d : Char} (hd : set d = true) (hpercent : d ≠ '%')
    (hdigit : d.isAlphanum = false) (cs : List Char) : d ∉ encode set cs := by
  intro hmem
  obtain ⟨c, -, hmem⟩ := List.mem_flatMap.mp hmem
  by_cases hc : set c
  · rw [encodeChar, if_pos hc] at hmem
    obtain ⟨b, -, hmem⟩ := List.mem_flatMap.mp hmem
    rcases eq_percent_or_isAlphanum hmem with h | h
    · exact hpercent h
    · rw [hdigit] at h
      cases h
  · rw [encodeChar, if_neg hc, List.mem_singleton] at hmem
    exact hc (hmem ▸ hd)

end RealtimeChat.Url.Percent

namespace RealtimeChat.Url

open Percent (encode encodeByte encodeChar eq_of_mem_utf8 form hexDigit pathSegment)

/-! ## 4. Dots -/

theorem eq_of_toLower {c d : Char} (h : c.toLower = d) (hd : d.isLower = false) : c = d := by
  subst h
  rw [Char.isLower_toLower_eq_isAlpha, Char.isAlpha, Bool.or_eq_false_iff] at hd
  exact (Char.toLower_eq_of_not_isUpper (by simp [hd.1])).symm

theorem encode_cons_of_not {set : Char → Bool} {c : Char} (hc : ¬set c = true) (cs : List Char) :
    encode set (c :: cs) = c :: encode set cs := by
  rw [encode, List.flatMap_cons, encodeChar, if_neg hc]
  rfl

theorem encode_cons_of_set {set : Char → Bool} {c : Char} (hc : set c = true) (cs : List Char) :
    ∃ b ∈ String.utf8EncodeChar c, ∃ rest, encode set (c :: cs) = encodeByte b ++ rest := by
  obtain ⟨b, bs, hbytes⟩ := List.exists_cons_of_ne_nil (String.utf8EncodeChar_ne_nil (c := c))
  refine ⟨b, hbytes ▸ List.mem_cons_self, bs.flatMap encodeByte ++ encode set cs, ?_⟩
  rw [encode, List.flatMap_cons, encodeChar, if_pos hc, hbytes, List.flatMap_cons,
    List.append_assoc]
  rfl

theorem encode_eq_nil {set : Char → Bool} {cs : List Char} (h : encode set cs = []) : cs = [] := by
  cases cs with
  | nil => rfl
  | cons c cs =>
      by_cases hc : set c
      · obtain ⟨b, -, rest, hcons⟩ := encode_cons_of_set hc cs
        rw [h] at hcons
        cases hcons
      · rw [encode_cons_of_not hc] at h
        cases h

/-- A dot in the result was a dot before. -/
theorem dot_encode {cs rest : List Char}
    (h : (encode pathSegment cs).map Char.toLower = '.' :: rest) :
    ∃ ds, cs = '.' :: ds ∧ (encode pathSegment ds).map Char.toLower = rest := by
  cases cs with
  | nil => cases h
  | cons c cs =>
      by_cases hc : pathSegment c
      · obtain ⟨b, -, behind, hcons⟩ := encode_cons_of_set hc cs
        rw [hcons] at h
        exact absurd (List.cons.inj h).1 (by decide)
      · rw [encode_cons_of_not hc, List.map_cons, List.cons.injEq] at h
        exact ⟨cs, by rw [eq_of_toLower h.1 (by decide)], h.2⟩

theorem hexDigit_eq_two_or_e : ∀ n : Fin 16,
    ((hexDigit n).toLower = '2' → n = 2) ∧ ((hexDigit n).toLower = 'e' → n = 14) := by
  decide +kernel

/-- No result begins with an encoded dot, since dots are left as they are. -/
theorem encodedDot_encode {cs rest : List Char} :
    (encode pathSegment cs).map Char.toLower ≠ '%' :: '2' :: 'e' :: rest := by
  intro h
  cases cs with
  | nil => cases h
  | cons c cs =>
      by_cases hc : pathSegment c
      · obtain ⟨b, hb, behind, hcons⟩ := encode_cons_of_set hc cs
        have hlt : b.toNat < 256 := b.toNat_lt
        rw [hcons, encodeByte] at h
        simp only [List.cons_append, List.nil_append, List.map_cons, List.cons.injEq] at h
        have hhigh := (hexDigit_eq_two_or_e ⟨b.toNat / 16, by omega⟩).1 h.2.1
        have hlow := (hexDigit_eq_two_or_e ⟨b.toNat % 16, by omega⟩).2 h.2.2.1
        rw [Fin.ext_iff] at hhigh hlow
        have hdot : b.toNat = 46 := by
          simp only [Fin.isValue] at hhigh hlow
          omega
        have hc' : c = '.' := Char.toNat_inj.mp
          ((eq_of_mem_utf8 hb (UInt8.lt_iff_toNat_lt.mpr (by rw [hdot]; decide))).trans hdot)
        rw [hc'] at hc
        exact absurd hc (by decide)
      · rw [encode_cons_of_not hc, List.map_cons, List.cons.injEq] at h
        exact hc (eq_of_toLower h.1 (by decide) ▸ by decide)

theorem isSingleDot_iff {part : List Char} : isSingleDot part = true ↔
    part.map Char.toLower = ['.'] ∨ part.map Char.toLower = ['%', '2', 'e'] := by
  rw [isSingleDot, decide_eq_true_iff, List.mem_cons, List.mem_singleton, ← String.toList_inj,
    ← String.toList_inj, String.toList_ofList]
  rfl

theorem isDoubleDot_iff {part : List Char} : isDoubleDot part = true ↔
    part.map Char.toLower = ['.', '.'] ∨ part.map Char.toLower = ['%', '2', 'e', '%', '2', 'e'] ∨
      part.map Char.toLower = ['%', '2', 'e', '.'] ∨
      part.map Char.toLower = ['.', '%', '2', 'e'] := by
  rw [isDoubleDot, decide_eq_true_iff, List.mem_cons, List.mem_cons, List.mem_cons,
    List.mem_singleton, ← String.toList_inj, ← String.toList_inj, ← String.toList_inj,
    ← String.toList_inj, String.toList_ofList]
  rfl

/-- A text is taken for a dot only if it is one: an encoded dot in it is encoded once more. -/
theorem isSingleDot_encode {cs : List Char} :
    isSingleDot (encode pathSegment cs) = true ↔ cs = ['.'] := by
  rw [isSingleDot_iff]
  constructor
  · rintro (h | h)
    · obtain ⟨ds, rfl, hds⟩ := dot_encode h
      rw [encode_eq_nil (List.map_eq_nil_iff.mp hds)]
    · exact absurd h encodedDot_encode
  · rintro rfl
    exact .inl (by decide)

/-- A text is taken for two dots only if it is these. -/
theorem isDoubleDot_encode {cs : List Char} :
    isDoubleDot (encode pathSegment cs) = true ↔ cs = ['.', '.'] := by
  rw [isDoubleDot_iff]
  constructor
  · rintro (h | h | h | h)
    · obtain ⟨ds, rfl, hds⟩ := dot_encode h
      obtain ⟨es, rfl, hes⟩ := dot_encode hds
      rw [encode_eq_nil (List.map_eq_nil_iff.mp hes)]
    · exact absurd h encodedDot_encode
    · exact absurd h encodedDot_encode
    · obtain ⟨ds, rfl, hds⟩ := dot_encode h
      exact absurd hds encodedDot_encode
  · rintro rfl
    exact .inl (by decide)

/-! ## 5. Parts put in as a whole -/

/-- What a text comes to that is put in as one part of a path. -/
inductive Landing where
  /-- It is left out. -/
  | nowhere
  /-- It takes the part in front of it away and leaves an empty one. -/
  | above
  /-- It is a part of the path with this name. -/
  | part (name : List Char)
deriving DecidableEq, Repr

/-- A text without what is dropped. -/
def kept (part : String) : List Char := part.toList.filter (fun c => !isDropped c)

/-- What a text comes to: one or two dots are left out, unless they come about only because a tab or
the end of a line is dropped. -/
def landing (part : String) : Landing :=
  if part = "." ∨ part = ".." then .nowhere
  else if kept part = ['.', '.'] then .above
  else if kept part = ['.'] then .part []
  else .part (kept part)

/-- A text that is put in as it is: not one or two dots, and nothing in it is dropped. -/
def Plain (part : String) : Prop :=
  part ≠ "." ∧ part ≠ ".." ∧ ∀ c ∈ part.toList, isDropped c = false

instance (part : String) : Decidable (Plain part) :=
  decidable_of_iff (part ≠ "." ∧ part ≠ ".." ∧ part.toList.all (!isDropped ·) = true) <| by
    simp [Plain]

theorem kept_eq_self {part : String} :
    kept part = part.toList ↔ ∀ c ∈ part.toList, isDropped c = false := by
  simp [kept, List.filter_eq_self]

theorem landing_eq_part_iff {part : String} : landing part = .part part.toList ↔ Plain part := by
  have hdot : part.toList = ".".toList → part = "." := String.toList_inj.mp
  have hdots : part.toList = "..".toList → part = ".." := String.toList_inj.mp
  rw [landing, Plain, ← kept_eq_self]
  split_ifs with hleft habove hsingle
  · refine iff_of_false (by simp) ?_
    rintro ⟨h, h', -⟩
    exact hleft.elim h h'
  · refine iff_of_false (by simp) ?_
    rintro ⟨-, h, h'⟩
    exact h (hdots (h'.symm.trans habove))
  · refine iff_of_false ?_ ?_
    · intro h
      rw [kept, ← Landing.part.inj h] at hsingle
      cases hsingle
    · rintro ⟨h, -, h'⟩
      exact h (hdot (h'.symm.trans hsingle))
  · rw [not_or] at hleft
    rw [Landing.part.injEq, and_iff_right hleft.1, and_iff_right hleft.2]

/-- The path that others are put below: the empty path of the root gives way to them. -/
def unrooted (path : List (List Char)) : List (List Char) := if path = [[]] then [] else path

theorem unrooted_append {path rest : List (List Char)} {part : List Char} (h : part ≠ []) :
    unrooted (path ++ part :: rest) = path ++ part :: rest := by
  refine if_neg fun heq => ?_
  cases path with
  | nil => exact h (List.cons.inj heq).1
  | cons first path => cases path <;> cases (List.cons.inj heq).2

theorem extendPath_eq (path : List (List Char)) (part : String) : extendPath path part =
    match landing part with
    | .nowhere => path
    | .above => parentPath (unrooted path) ++ [[]]
    | .part name => unrooted path ++ [encode pathSegment name] := by
  have hcut : extendPath path part = if part = "." ∨ part = ".." then path
      else addPart (unrooted path) (encode pathSegment (kept part)) true := rfl
  rw [hcut, landing]
  by_cases hleft : part = "." ∨ part = ".."
  · rw [if_pos hleft, if_pos hleft]
  rw [if_neg hleft, if_neg hleft, addPart]
  by_cases habove : kept part = ['.', '.']
  · rw [if_pos habove, if_pos (isDoubleDot_encode.mpr habove)]
    rfl
  rw [if_neg habove, if_neg (mt isDoubleDot_encode.mp habove)]
  by_cases hsingle : kept part = ['.']
  · rw [if_pos hsingle, if_pos (isSingleDot_encode.mpr hsingle)]
    rfl
  · rw [if_neg hsingle, if_neg (mt isSingleDot_encode.mp hsingle)]

/-! ## 6. Entries of a query -/

/-- What is encoded in an entry, but for the space, which becomes a plus sign. -/
def formMarks (c : Char) : Bool := form c && c != ' '

theorem formEncode_spaced (s : String) :
    (formEncode s).map (fun c => if c = '+' then ' ' else c) = encode formMarks s.toList := by
  rw [formEncode, encode, List.map_flatMap]
  refine List.flatMap_congr fun c _ => ?_
  by_cases hspace : c = ' '
  · subst hspace
    decide
  · have hmarks : encodeChar formMarks c = encodeChar form c := by
      rw [encodeChar, encodeChar, formMarks, bne_iff_ne.mpr hspace, Bool.and_true]
    have hplus : '+' ∉ encodeChar form c := by
      have h : '+' ∉ encode form [c] :=
        Percent.not_mem_encode (by decide) (by decide) (by decide) [c]
      rwa [encode, List.flatMap_cons, List.flatMap_nil, List.append_nil] at h
    rw [if_neg hspace, hmarks]
    refine (List.map_congr_left (g := id) fun d hd => ?_).trans (List.map_id _)
    exact if_neg (ne_of_mem_of_not_mem hd hplus)

theorem formEncode_injective {s t : String} (h : formEncode s = formEncode t) : s = t := by
  have hmarks : Function.Injective (encode formMarks) := Percent.encode_injective (by decide)
  refine String.toList_injective (hmarks ?_)
  rw [← formEncode_spaced, h, formEncode_spaced]

/-- A query with another entry at its end. -/
def addEntry (query : Option (List Char)) (entry : List Char) : List Char :=
  match query with
  | none => entry
  | some q => if q.isEmpty then entry else q ++ '&' :: entry

theorem addEntry_injective (query : Option (List Char)) : Function.Injective (addEntry query) := by
  intro entry entry' h
  unfold addEntry at h
  split at h
  · exact h
  · split_ifs at h
    · exact h
    · exact (List.cons.inj (List.append_cancel_left h)).2

/-- A query with another entry is another one, even if it was empty. -/
theorem addEntry_ne {query : Option (List Char)} {entry : List Char} (h : entry ≠ []) :
    some (addEntry query entry) ≠ query := by
  unfold addEntry
  split
  · exact Option.some_ne_none _
  · intro heq
    have hlength := congrArg List.length (Option.some.inj heq)
    split_ifs at hlength with hempty
    · rw [List.isEmpty_iff.mp hempty] at hlength
      exact h (List.length_eq_zero_iff.mp hlength)
    · rw [List.length_append, List.length_cons] at hlength
      omega

/-! ## 7. Parts of the written form -/

/-- A row is split at a sign that it does not have, if what is behind it is empty or begins with the
sign. -/
theorem append_inj_at {α : Type} [DecidableEq α] {sep : α} {x y u v : List α} (hx : sep ∉ x)
    (hy : sep ∉ y) (hu : ∀ d ∈ u.head?, d = sep) (hv : ∀ d ∈ v.head?, d = sep)
    (h : x ++ u = y ++ v) : x = y ∧ u = v := by
  have hcut : ∀ z w : List α, sep ∉ z → (∀ d ∈ w.head?, d = sep) →
      (z ++ w).takeWhile (· ≠ sep) = z := by
    intro z w hz hw
    rw [List.takeWhile_append_of_pos (fun a ha => by simpa using ne_of_mem_of_not_mem ha hz)]
    cases w with
    | nil => simp
    | cons d w => simp [hw d rfl]
  have hxy : x = y := by rw [← hcut x u hx hu, h, hcut y v hy hv]
  exact ⟨hxy, List.append_cancel_left (hxy ▸ h)⟩

theorem pathText_append (a b : List (List Char)) : pathText (a ++ b) = pathText a ++ pathText b :=
  List.flatMap_append

theorem head?_pathText (path : List (List Char)) : ∀ d ∈ (pathText path).head?, d = '/' := by
  cases path with
  | nil => simp [pathText]
  | cons part path => simp [pathText]

/-- **A written path has its parts**, if no slash stands in any of them. -/
theorem pathText_injective {a b : List (List Char)} (ha : ∀ part ∈ a, '/' ∉ part)
    (hb : ∀ part ∈ b, '/' ∉ part) (h : pathText a = pathText b) : a = b := by
  induction a generalizing b with
  | nil =>
      cases b with
      | nil => rfl
      | cons part b => simp [pathText] at h
  | cons part a ih =>
      cases b with
      | nil => simp [pathText] at h
      | cons part' b =>
          rw [List.forall_mem_cons] at ha hb
          simp only [pathText, List.flatMap_cons, List.cons_append, List.cons.injEq, true_and] at h
          obtain ⟨hpart, hrest⟩ := append_inj_at ha.1 hb.1 (head?_pathText a) (head?_pathText b) h
          rw [hpart, ih ha.2 hb.2 hrest]

/-- A query as it is written. -/
def queryText : Option (List Char) → List Char
  | none => []
  | some q => '?' :: q

theorem queryText_injective : Function.Injective queryText := by
  rintro (_ | q) (_ | q') h
  · rfl
  · cases h
  · cases h
  · rw [(List.cons.inj h).2]

theorem head?_queryText (query : Option (List Char)) :
    ∀ d ∈ (queryText query).head?, d = '?' := by
  cases query with
  | none => simp [queryText]
  | some q => simp [queryText]

theorem render_eq (u : Url) : u.render =
    (u.scheme.toList ++ [':', '/', '/'] ++ u.userinfo ++ u.host.text ++
      (match u.portNumber with
        | none => []
        | some p => ':' :: Decimal.digits p)) ++
    ((pathText u.path ++ queryText u.query) ++
      (match u.fragment with
        | none => []
        | some f => '#' :: f)) := by
  simp only [render, List.append_assoc]
  rfl

/-- Two addresses below the same one are told apart by path and query. -/
theorem text_eq_iff {u : Url} {path path' : List (List Char)} {query query' : Option (List Char)} :
    { u with path := path, query := query }.text = { u with path := path', query := query' }.text ↔
      pathText path ++ queryText query = pathText path' ++ queryText query' := by
  rw [text, text, render_eq, render_eq]
  constructor
  · intro h
    exact List.append_cancel_right (List.append_cancel_left (String.ofList_injective h))
  · intro h
    rw [h]

theorem not_mem_pathText {d : Char} (hd : d ≠ '/') {path : List (List Char)}
    (h : ∀ part ∈ path, d ∉ part) : d ∉ pathText path := by
  intro hmem
  obtain ⟨part, hpart, hmem⟩ := List.mem_flatMap.mp hmem
  exact (List.mem_cons.mp hmem).elim hd (h part hpart)

end RealtimeChat.Url
