import Mathlib.Data.List.Basic
import RealtimeChat.Proofs.Codec
import RealtimeChat.Proofs.Timestamp
/-!
# What an event is known by

An event is known by its own id, else by the id of its message, else by what it says: its kind, its
chat, its payload and its time, written one behind the other with NULs in between. A chat may have
NULs in its name, but nothing else that is written there has any, so the text falls apart in one
way only.

* `append_ne`, `dedupKey?_eq_message` -- keys of different sorts are different;
* `split_first`, `split_last` -- a text falls apart at its first NUL, and at its last one;
* `fingerprint_injective` -- chat, payload and time can be told from the fingerprint;
* **`dedupKey?_eq_iff`** -- when two events have the same key.
-/

namespace RealtimeChat

/-! ## 1. Digests in digits -/

namespace Sha256

theorem hexByte_injective {a b : UInt8} (h : hexByte a = hexByte b) : a = b := by
  have hdigit : ∀ m < 16, ∀ n < 16, Nat.digitChar m = Nat.digitChar n → m = n := by decide
  obtain ⟨hhigh, hlow⟩ : Nat.digitChar (a.toNat / 16) = Nat.digitChar (b.toNat / 16) ∧
      Nat.digitChar (a.toNat % 16) = Nat.digitChar (b.toNat % 16) := by simpa [hexByte] using h
  have ha : a.toNat < 256 := a.toNat_lt
  have hb : b.toNat < 256 := b.toNat_lt
  have hquotient := hdigit _ (by omega) _ (by omega) hhigh
  have hremainder := hdigit _ (by omega) _ (by omega) hlow
  exact UInt8.toNat_inj.mp (by omega)

theorem flatMap_hexByte_injective {as bs : List UInt8}
    (h : as.flatMap hexByte = bs.flatMap hexByte) : as = bs := by
  induction as generalizing bs with
  | nil =>
      cases bs with
      | nil => rfl
      | cons b bs => cases h
  | cons a as ih =>
      cases bs with
      | nil => cases h
      | cons b bs =>
          have hboth : hexByte a ++ as.flatMap hexByte = hexByte b ++ bs.flatMap hexByte := h
          obtain ⟨hfirst, hrest⟩ := List.append_inj hboth rfl
          rw [hexByte_injective hfirst, ih hrest]

/-- The digits of a digest tell it. -/
theorem digest_eq_of_hex_eq {m n : List UInt8} (h : hex m = hex n) : digest m = digest n :=
  flatMap_hexByte_injective (String.ofList_injective h)

end Sha256

namespace Event

/-! ## 2. Keys -/

/-- Keys of different sorts are told apart by their first letter. -/
theorem append_ne {p q : String} (h : p.toList.head? ≠ q.toList.head?) (hp : p.toList ≠ [])
    (hq : q.toList ≠ []) (s t : String) : p ++ s ≠ q ++ t := by
  intro heq
  have hhead := congrArg (fun x : String => x.toList.head?) heq
  simp only [String.toList_append, List.head?_append_of_ne_nil _ hp,
    List.head?_append_of_ne_nil _ hq] at hhead
  exact h hhead

/-- An event is remembered under the id of its message if it has no id of its own. -/
theorem dedupKey?_eq_message {e : Event} {id : String} :
    e.dedupKey? = some ("msg:" ++ id) ↔ e.id = none ∧ e.message?.bind (·.id) = some id := by
  unfold dedupKey?
  cases e.id with
  | some own =>
      have hne : "evt:" ++ own ≠ "msg:" ++ id := append_ne (by decide) (by decide) (by decide) _ _
      simp [hne]
  | none =>
      cases e.message?.bind (·.id) with
      | some message => simp
      | none =>
          have hne : ∀ digest, "sha:" ++ digest ≠ "msg:" ++ id := fun digest =>
            append_ne (by decide) (by decide) (by decide) digest id
          simp [hne]

/-- An event without an id of its own and of a message. -/
def Unnamed (e : Event) : Prop := e.id = none ∧ e.message?.bind (·.id) = none

instance (e : Event) : Decidable e.Unnamed := inferInstanceAs (Decidable (_ ∧ _))

/-- The bytes whose digest is the key of an event, if it has such a key. -/
def hashed? (e : Event) : Option (List UInt8) :=
  if e.Unnamed then e.effectiveTime?.map (fun time => bytes (e.fingerprint time)) else none

/-- Which key an event has. -/
inductive Keyed (e : Event) : String → Prop where
  | own (id : String) (hid : e.id = some id) : Keyed e ("evt:" ++ id)
  | message (id : String) (hnone : e.id = none) (hid : e.message?.bind (·.id) = some id) :
      Keyed e ("msg:" ++ id)
  | content (time : Timestamp) (hunnamed : e.Unnamed) (htime : e.effectiveTime? = some time) :
      Keyed e ("sha:" ++ Sha256.hex (bytes (e.fingerprint time)))

theorem keyed_of_dedupKey? {e : Event} {key : String} (h : e.dedupKey? = some key) :
    e.Keyed key := by
  unfold dedupKey? at h
  split at h
  · rename_i hid
    cases h
    exact .own _ hid
  · rename_i hnone hid
    cases h
    exact .message _ hnone hid
  · rename_i hnone hmessage
    obtain ⟨time, htime, rfl⟩ := Option.map_eq_some_iff.mp h
    exact .content time ⟨hnone, hmessage⟩ htime

/-! ## 3. Texts with NULs in between -/

theorem split_first {a a' r r' : List Char} (ha : '\x00' ∉ a) (ha' : '\x00' ∉ a')
    (h : a ++ '\x00' :: r = a' ++ '\x00' :: r') : a = a' ∧ r = r' := by
  induction a generalizing a' with
  | nil =>
      cases a' with
      | nil => exact ⟨rfl, (List.cons.inj h).2⟩
      | cons c a' => exact absurd ((List.cons.inj h).1 ▸ List.mem_cons_self) ha'
  | cons c a ih =>
      cases a' with
      | nil => exact absurd ((List.cons.inj h).1 ▸ List.mem_cons_self) ha
      | cons c' a' =>
          obtain ⟨rfl, hrest⟩ := List.cons.inj h
          obtain ⟨rfl, hr⟩ := ih (fun hmem => ha (List.mem_cons_of_mem _ hmem))
            (fun hmem => ha' (List.mem_cons_of_mem _ hmem)) hrest
          exact ⟨rfl, hr⟩

theorem split_last {a a' r r' : List Char} (hr : '\x00' ∉ r) (hr' : '\x00' ∉ r')
    (h : a ++ '\x00' :: r = a' ++ '\x00' :: r') : a = a' ∧ r = r' := by
  have hreverse := congrArg List.reverse h
  simp only [List.reverse_append, List.reverse_cons, List.append_assoc, List.singleton_append]
    at hreverse
  obtain ⟨hr, ha⟩ := split_first (by simpa using hr) (by simpa using hr') hreverse
  exact ⟨List.reverse_inj.mp ha, List.reverse_inj.mp hr⟩

theorem toList_fingerprint (e : Event) (time : Timestamp) :
    (e.fingerprint time).toList = e.kind.name.toList ++ '\x00' :: ((e.chat.getD "").toList ++
      '\x00' :: e.payload.toJson.render ++
      '\x00' :: time.render ['+', '0', '0', ':', '0', '0']) := by
  have hparts : e.fingerprint time = e.kind.name ++ "\x00" ++ e.chat.getD "" ++ "\x00" ++
      e.payload.toJson.text ++ "\x00" ++ time.offsetText := rfl
  have hnul : "\x00".toList = ['\x00'] := by decide
  simp [hparts, hnul, Json.text, Timestamp.offsetText]

theorem nul_not_mem_name (k : Kind) : '\x00' ∉ k.name.toList := by
  cases k <;> decide

theorem Payload.text_injective {p q : Payload} (h : p.toJson.text = q.toJson.text) : p = q :=
  have reads (p : Payload) : Json.Reads Payload.ofJson p.toJson.text p :=
    Json.reads_text (p.exact 124) (Payload.inverse.restores p)
  (h ▸ reads p).unique (reads q)

/-- **Chat, payload and time can be told from the fingerprint.** The chat may have NULs, so the
payload and the time are found from the end. -/
theorem fingerprint_injective {e e' : Event} {time time' : Timestamp}
    (h : e.fingerprint time = e'.fingerprint time') :
    e.chat.getD "" = e'.chat.getD "" ∧ e.payload = e'.payload ∧ time = time' := by
  have htexts := congrArg String.toList h
  rw [toList_fingerprint, toList_fingerprint] at htexts
  have hpayload (e : Event) : '\x00' ∉ e.payload.toJson.render :=
    Json.nul_not_mem_render (e.payload.exact 0)
  have htime (time : Timestamp) : '\x00' ∉ time.render ['+', '0', '0', ':', '0', '0'] :=
    time.nul_not_mem_render (by decide)
  obtain ⟨-, hbehind⟩ := split_first (nul_not_mem_name _) (nul_not_mem_name _) htexts
  obtain ⟨hfront, hrender⟩ := split_last (htime _) (htime _) hbehind
  obtain ⟨hchat, hjson⟩ := split_last (hpayload _) (hpayload _) hfront
  exact ⟨String.toList_injective hchat, Payload.text_injective (congrArg String.ofList hjson),
    Timestamp.offsetText_injective (congrArg String.ofList hrender)⟩

theorem bytes_injective {s t : String} (h : bytes s = bytes t) : s = t :=
  String.toByteArray_inj.mp (ByteArray.ext (Array.toList_inj.mp h))

/-! ## 4. Events with the same key -/

theorem Unnamed.hashed?_eq {e : Event} (h : e.Unnamed) {time : Timestamp}
    (htime : e.effectiveTime? = some time) :
    e.hashed? = some (bytes (e.fingerprint time)) := by
  rw [hashed?, if_pos h, htime, Option.map_some]

/-- **Events of the same kind, chat, payload and time have the same fingerprint.** -/
theorem fingerprint_congr {e e' : Event} (hchat : e.chat.getD "" = e'.chat.getD "")
    (hpayload : e.payload = e'.payload) (time : Timestamp) :
    e.fingerprint time = e'.fingerprint time := by
  rw [fingerprint, fingerprint, kind, kind, hchat, hpayload]

/-- The keys of two contents are the same iff the contents are, unless their digests collide. -/
theorem sha_eq_iff {e e' : Event} {time time' : Timestamp} (he : e.Unnamed) (he' : e'.Unnamed)
    (htime : e.effectiveTime? = some time) (htime' : e'.effectiveTime? = some time')
    (hsha : ∀ b ∈ e.hashed?, ∀ b' ∈ e'.hashed?, Sha256.digest b = Sha256.digest b' → b = b') :
    "sha:" ++ Sha256.hex (bytes (e.fingerprint time)) =
        "sha:" ++ Sha256.hex (bytes (e'.fingerprint time')) ↔
      e.chat.getD "" = e'.chat.getD "" ∧ e.payload = e'.payload ∧ time = time' := by
  constructor
  · intro h
    have hdigest := Sha256.digest_eq_of_hex_eq (by simpa using h)
    exact fingerprint_injective (bytes_injective
      (hsha _ (he.hashed?_eq htime) _ (he'.hashed?_eq htime') hdigest))
  · rintro ⟨hchat, hpayload, rfl⟩
    rw [fingerprint_congr hchat hpayload]

/-- **Keys identify events.** Two events that have keys have the same one iff they have the same id;
or both have none and bring messages with the same id; or neither of them has an id of one of these
sorts, and they are of the same kind and chat, say the same and are of the same time. An event
without a chat counts as one of the chat without a name. -/
theorem dedupKey?_eq_iff {e e' : Event} (he : e.dedupKey?.isSome) (he' : e'.dedupKey?.isSome)
    (hsha : ∀ b ∈ e.hashed?, ∀ b' ∈ e'.hashed?, Sha256.digest b = Sha256.digest b' → b = b') :
    e.dedupKey? = e'.dedupKey? ↔
      (∃ id, e.id = some id ∧ e'.id = some id) ∨
      (e.id = none ∧ e'.id = none ∧
        ∃ id, e.message?.bind (·.id) = some id ∧ e'.message?.bind (·.id) = some id) ∨
      (e.Unnamed ∧ e'.Unnamed ∧ e.kind = e'.kind ∧ e.chat.getD "" = e'.chat.getD "" ∧
        e.payload = e'.payload ∧ e.effectiveTime? = e'.effectiveTime?) := by
  obtain ⟨key, hkey⟩ := Option.isSome_iff_exists.mp he
  obtain ⟨key', hkey'⟩ := Option.isSome_iff_exists.mp he'
  rw [hkey, hkey', Option.some_inj]
  have hkeyed := keyed_of_dedupKey? hkey
  have hkeyed' := keyed_of_dedupKey? hkey'
  have hown_message : ∀ s t, "evt:" ++ s ≠ "msg:" ++ t :=
    append_ne (by decide) (by decide) (by decide)
  have hown_content : ∀ s t, "evt:" ++ s ≠ "sha:" ++ t :=
    append_ne (by decide) (by decide) (by decide)
  have hmessage_content : ∀ s t, "msg:" ++ s ≠ "sha:" ++ t :=
    append_ne (by decide) (by decide) (by decide)
  cases hkeyed with
  | own id hid =>
      cases hkeyed' with
      | own id' hid' => simp [Unnamed, hid, hid', eq_comm]
      | message id' hnone' hid' => simp [Unnamed, hid, hnone', hown_message]
      | content time' hunnamed' htime' => simp [Unnamed, hid, hunnamed'.1, hown_content]
  | message id hnone hid =>
      cases hkeyed' with
      | own id' hid' => simp [Unnamed, hnone, hid', (hown_message id' id).symm]
      | message id' hnone' hid' => simp [Unnamed, hnone, hid, hnone', hid', eq_comm]
      | content time' hunnamed' htime' =>
          simp [Unnamed, hnone, hid, hunnamed'.1, hunnamed'.2, hmessage_content]
  | content time hunnamed htime =>
      cases hkeyed' with
      | own id' hid' => simp [Unnamed, hunnamed.1, hid', (hown_content id' _).symm]
      | message id' hnone' hid' =>
          simp [Unnamed, hunnamed.1, hunnamed.2, hnone', hid', (hmessage_content id' _).symm]
      | content time' hunnamed' htime' =>
          have hkind : e.payload = e'.payload → e.kind = e'.kind := congrArg Payload.kind
          rw [sha_eq_iff hunnamed hunnamed' htime htime' hsha, htime, htime', Option.some_inj]
          constructor
          · intro h
            exact .inr (.inr ⟨hunnamed, hunnamed', hkind h.2.1, h⟩)
          · rintro (⟨id, hid, -⟩ | ⟨-, -, id, hid, -⟩ | ⟨-, -, -, h⟩)
            · exact absurd (hunnamed.1.symm.trans hid) (by simp)
            · exact absurd (hunnamed.2.symm.trans hid) (by simp)
            · exact h

/-- Somebody typing in a chat at the beginning of 2026. -/
def typingIn (chat : Option String) : Event :=
  ⟨none, chat, .typing "u1" true, Timestamp.ofFields? 2026 1 1 0 0, false⟩

/-- No chat is the chat without a name, and another one if the name is a NUL. -/
theorem dedupKey?_eq_iff_typing :
    (typingIn none).dedupKey? = (typingIn (some "")).dedupKey? ∧
      (typingIn none).dedupKey? ≠ (typingIn (some "\x00")).dedupKey? := by
  have hsame : (typingIn none).hashed? = (typingIn (some "")).hashed? := by decide +kernel
  have hdiffer : ∀ b ∈ (typingIn none).hashed?, ∀ b' ∈ (typingIn (some "\x00")).hashed?,
      Sha256.digest b ≠ Sha256.digest b' := by decide +kernel
  constructor
  · refine (dedupKey?_eq_iff rfl rfl fun b hb b' hb' _ => ?_).mpr (.inr (.inr ?_))
    · exact Option.mem_unique (hsame ▸ hb) hb'
    · decide
  · intro h
    have hcases := (dedupKey?_eq_iff rfl rfl fun b hb b' hb' hdigest =>
      absurd hdigest (hdiffer b hb b' hb')).mp h
    obtain ⟨id, hid, -⟩ | ⟨-, -, id, hid, -⟩ | ⟨-, -, -, hchat, -⟩ := hcases
    · cases hid
    · cases hid
    · exact absurd hchat (by decide)

end Event

end RealtimeChat
