import RealtimeChat.Action
import RealtimeChat.Frame.Incoming
import RealtimeChat.Proofs.Json.Members
import RealtimeChat.Proofs.Json.Text
/-!
# What is written is read back

Messages, events, answers of the server, outcomes and the frames of a client have a written form.
Each field stands in it under a name that the reader looks for, it is left out only where a missing
field counts as what was left out, and no two fields share a name.

* `Json.Reads` -- what a reader finds in a text, by listed and by sorted members;
* `Message.inverse`, `Event.inverse`, `Ack.inverse`, `Outgoing.inverse`, `restores_outcome` -- the
  written forms are read back;
* **`codec_faithful`** -- as texts they are, and frames of different actions are different texts.
-/

namespace RealtimeChat

namespace Json

variable {α : Type} {read : Reader α} {v : Json} {s : String} {a b : α} {depth : Nat}

/-! ## 1. Texts -/

/-- A reader finds `a` in a text, whether the members of objects are kept as they are listed or
by rising name. -/
def Reads (read : Reader α) (s : String) (a : α) : Prop :=
  (∃ v, parseListed s = .ok v ∧ read .plain v = .ok a) ∧
    ∃ v, parse s = .ok v ∧ read .plain v = .ok a

theorem reads_text (hexact : Exact Parser.maxDepth v) (h : Restores read v a) :
    Reads read v.text a :=
  ⟨⟨v, parseListed_text hexact, (h .plain).1⟩, v.sorted, parse_text hexact, (h .plain).2⟩

theorem Reads.unique (ha : Reads read s a) (hb : Reads read s b) : a = b := by
  obtain ⟨-, v, hv, ha⟩ := ha
  obtain ⟨-, w, hw, hb⟩ := hb
  rw [hv] at hw
  obtain rfl := Except.ok.inj hw
  rw [ha] at hb
  exact Except.ok.inj hb

theorem forall_mem_optionalMember {P : String × Json → Prop} {name : String} {f : α → Json}
    {a : Option α} : (∀ m ∈ optionalMember name f a, P m) ↔ ∀ b, a = some b → P (name, f b) := by
  cases a <;> simp [optionalMember]

theorem exact_nat {n : Nat} (h : n ≤ Parser.maxSignificand) : Exact depth (ofNat n) :=
  .integer (by omega) (Int.ofNat_le.mpr h)

end Json

open Json

/-! ## 2. Messages -/

namespace Message

theorem Kind.inverse : Inverse Kind.ofJson (.string <| Kind.name ·) :=
  inverse_choice fun k => by cases k <;> decide

theorem Status.inverse : Inverse Status.ofJson (.string <| Status.name ·) :=
  inverse_choice fun s => by cases s <;> decide

theorem Reply.exact (depth : Nat) (r : Reply) : Exact (depth + 1) r.toJson := by
  refine .object ?_
  simp [Exact.string]

theorem Reply.inverse : Inverse Reply.ofJson Reply.toJson := by
  refine ⟨?_, by rintro setting r ⟨⟩⟩
  rintro ⟨id, content⟩
  refine restores_record _ (by simp) ?_
  refine restores_map _ (restores_field ?_ (inverse_string.restores id))
    |>.seq (restores_field ?_ (inverse_string.restores content)) <;> simp

theorem exact (depth : Nat) (m : Message) : Exact (depth + 2) m.toJson := by
  refine .object ?_
  simp only [List.forall_mem_append, forall_mem_optionalMember, List.forall_mem_singleton]
  simp [Exact.string, Reply.exact]

/-- **A message is read back**, whichever of its parts are absent. -/
theorem inverse : Inverse ofJson toJson := by
  refine ⟨?_, by rintro setting m ⟨⟩⟩
  rintro ⟨id, content, sender, timestamp, kind, media, reply, status, clientId⟩
  refine restores_record _ ?names ?fields
  case names =>
    simp only [List.map_append, List.map_cons, List.map_nil]
    refine List.Nodup.sublist (optionalMember_sublist _ _ _
      |>.append (.refl _)
      |>.append (optionalMember_sublist _ _ _)
      |>.append (optionalMember_sublist _ _ _)
      |>.append (.refl _)
      |>.append (optionalMember_sublist _ _ _)
      |>.append (optionalMember_sublist _ _ _)
      |>.append (optionalMember_sublist _ _ _)
      |>.append (optionalMember_sublist _ _ _)) ?_
    decide
  case fields =>
    refine restores_map _ (restores_optional inverse_string ?_)
      |>.seq (restores_field ?_ (inverse_string.restores content))
      |>.seq (restores_optional inverse_string ?_)
      |>.seq (restores_optional inverse_timestamp ?_)
      |>.seq (restores_field ?_ (Kind.inverse.restores kind))
      |>.seq (restores_optional inverse_string ?_)
      |>.seq (restores_optional Reply.inverse ?_)
      |>.seq (restores_optional Status.inverse ?_)
      |>.seq (restores_optional inverse_string ?_) <;> simp

end Message

/-! ## 3. Events -/

theorem Presence.inverse : Inverse (readChoice Presence.variants) (.string <| Presence.name ·) :=
  inverse_choice fun p => by cases p <;> decide

namespace Event

theorem Payload.exact (depth : Nat) (p : Payload) : Exact (depth + 3) p.toJson := by
  refine .object ?_
  cases p <;> simp [Exact.string, Exact.bool, Message.exact]

theorem Payload.inverse : Inverse Payload.ofJson Payload.toJson := by
  refine ⟨?_, by rintro setting p ⟨⟩⟩
  rintro (m | ⟨user, isTyping⟩ | ⟨id, status⟩ | ⟨user, status⟩)
  case message =>
    refine restores_tagged _ (by simp) rfl ?_
    exact restores_map _ (restores_field (by simp) (Message.inverse.restores m))
  case typing =>
    refine restores_tagged _ (by simp) rfl ?_
    refine restores_map _ (restores_field ?_ (inverse_string.restores user))
      |>.seq (restores_field ?_ (inverse_bool.restores isTyping)) <;> simp
  case statusChange =>
    refine restores_tagged _ (by simp) rfl ?_
    refine restores_map _ (restores_field ?_ (inverse_string.restores id))
      |>.seq (restores_field ?_ (Message.Status.inverse.restores status)) <;> simp
  case presence =>
    refine restores_tagged _ (by simp) rfl ?_
    refine restores_map _ (restores_field ?_ (inverse_string.restores user))
      |>.seq (restores_field ?_ (Presence.inverse.restores status)) <;> simp

theorem exact (depth : Nat) (e : Event) : Exact (depth + 4) e.toJson := by
  refine .object ?_
  simp only [List.forall_mem_append, forall_mem_optionalMember, List.forall_mem_singleton]
  simp [Exact.string, Exact.bool, Payload.exact]

/-- **An event is read back**, with its payload. -/
theorem inverse : Inverse ofJson toJson := by
  refine ⟨?_, by rintro setting e ⟨⟩⟩
  rintro ⟨id, chat, payload, timestamp, synthetic⟩
  refine restores_record _ ?names ?fields
  case names =>
    simp only [List.map_append, List.map_cons, List.map_nil]
    refine List.Nodup.sublist (optionalMember_sublist _ _ _
      |>.append (optionalMember_sublist _ _ _)
      |>.append (.refl _)
      |>.append (optionalMember_sublist _ _ _)
      |>.append (.refl _)) ?_
    decide
  case fields =>
    refine restores_map _ (restores_optional inverse_string ?_)
      |>.seq (restores_optional inverse_string ?_)
      |>.seq (restores_field ?_ (Payload.inverse.restores payload))
      |>.seq (restores_optional inverse_timestamp ?_)
      |>.seq (restores_field ?_ (inverse_bool.restores synthetic)) <;> simp

end Event

/-! ## 4. Answers and outcomes -/

namespace Ack

theorem Result.inverse : Inverse (readChoice Result.variants) (.string <| Result.name ·) :=
  inverse_choice fun r => by cases r <;> decide

theorem exact (depth : Nat) (a : Ack) : Exact (depth + 1) a.toJson := by
  refine .object ?_
  simp only [List.forall_mem_append, forall_mem_optionalMember, List.forall_mem_cons]
  simp [Exact.string]

/-- **An answer of the server is read back.** -/
theorem inverse : Inverse ofJson toJson := by
  refine ⟨?_, by rintro setting a ⟨⟩⟩
  rintro ⟨id, result, reason, messageId⟩
  refine restores_record _ ?names ?fields
  case names =>
    simp only [List.map_append, List.map_cons, List.map_nil]
    refine List.Nodup.sublist ((List.Sublist.refl _).append (optionalMember_sublist _ _ _)
      |>.append (optionalMember_sublist _ _ _)) ?_
    decide
  case fields =>
    refine restores_map _ (restores_field ?_ (inverse_string.restores id))
      |>.seq (restores_field ?_ (Result.inverse.restores result))
      |>.seq (restores_optional inverse_string ?_)
      |>.seq (restores_optional inverse_string ?_) <;> simp

end Ack

namespace Action.Outcome

/-- An outcome whose attempts can be counted with 32 bits. -/
def Counted : Outcome → Prop
  | failed attempts => attempts < Nat.pow 2 32
  | _ => True

theorem exact {o : Outcome} (h : o.Counted) (depth : Nat) : Exact (depth + 1) o.toJson := by
  refine .object ?_
  cases o with
  | delivered messageId duplicate =>
      simp only [List.forall_mem_append, List.forall_mem_cons, forall_mem_optionalMember]
      simp [Exact.string, Exact.bool]
  | failed attempts =>
      have hmax : attempts ≤ Parser.maxSignificand :=
        Nat.le_trans (Nat.le_of_lt h) (by decide : Nat.pow 2 32 ≤ Parser.maxSignificand)
      simp [Exact.string, exact_nat hmax]
  | _ => simp [Exact.string]

/-- **An outcome is read back** if its attempts can be counted. -/
theorem restores_outcome {o : Outcome} (h : o.Counted) : Restores ofJson o.toJson o := by
  cases o with
  | delivered messageId duplicate =>
      refine restores_tagged _ ?names rfl ?fields
      case names =>
        rw [List.map_append]
        refine List.Nodup.sublist (((optionalMember_sublist _ _ _).append (.refl _)).cons_cons _) ?_
        simp
      case fields =>
        refine restores_map _ (restores_optional inverse_string ?_)
          |>.seq (restores_field ?_ (inverse_bool.restores duplicate)) <;> simp
  | rejected reason =>
      refine restores_tagged _ (by simp) rfl ?_
      exact restores_map _ (restores_field (by simp) (inverse_string.restores reason))
  | failed attempts =>
      refine restores_tagged _ (by simp) rfl ?_
      exact restores_map _ (restores_field (by simp) (restores_nat h))
  | _ => exact restores_tagged _ (by simp) rfl (restores_pure _)

/-- Any outcome that can be read at all can be counted. -/
theorem counted_of_read {o : Outcome} {setting : Setting} {v : Json}
    (h : ofJson setting v = .ok o) : o.Counted := by
  refine tagged_yields ?_ h
  simp only [List.forall_mem_cons, List.not_mem_nil, false_implies, implies_true, and_true]
  refine ⟨yields_seq ?_, ?_, ?_, yields_pure trivial, yields_pure trivial, yields_pure trivial⟩
  · exact yields_map (fun _ _ _ _ => trivial) fun _ _ _ => trivial
  · exact yields_map (fun _ _ _ _ => trivial) fun _ _ => trivial
  · exact yields_map (yields_required fun _ _ _ hread => lt_of_readNat hread) fun _ hn => hn

end Action.Outcome

/-! ## 5. Frames of a client -/

namespace Outgoing

theorem exact (depth : Nat) (f : Outgoing) : Exact (depth + 2) f.toJson := by
  refine .object ?_
  cases f with
  | message =>
      simp only [List.forall_mem_append, List.forall_mem_cons, forall_mem_optionalMember]
      simp [Exact.string, Message.Reply.exact]
  | _ => simp [Exact.string, Exact.bool]

/-- **A frame of a client is read back.** -/
theorem restores (f : Outgoing) : Restores ofJson f.toJson f := by
  cases f with
  | auth token user version =>
      refine restores_tagged _ (by simp) rfl ?_
      refine restores_map _ (restores_field ?_ (inverse_string.restores token))
        |>.seq (restores_field ?_ (inverse_string.restores user))
        |>.seq (restores_field ?_ (inverse_string.restores version)) <;> simp
  | ping => exact restores_tagged _ (by simp) rfl (restores_pure _)
  | message id chat content kind media reply =>
      refine restores_tagged _ ?names rfl ?fields
      case names =>
        simp only [List.map_append, List.map_cons, List.map_nil]
        refine List.Nodup.sublist (((List.Sublist.refl _).append (optionalMember_sublist _ _ _)
          |>.append (optionalMember_sublist _ _ _)).cons_cons _) ?_
        decide
      case fields =>
        refine restores_map _ (restores_field ?_ (inverse_string.restores id))
          |>.seq (restores_field ?_ (inverse_string.restores chat))
          |>.seq (restores_field ?_ (inverse_string.restores content))
          |>.seq (restores_field ?_ (Message.Kind.inverse.restores kind))
          |>.seq (restores_optional inverse_string ?_)
          |>.seq (restores_optional Message.Reply.inverse ?_) <;> simp
  | typing id chat isTyping =>
      refine restores_tagged _ (by simp) rfl ?_
      refine restores_map _ (restores_field ?_ (inverse_string.restores id))
        |>.seq (restores_field ?_ (inverse_string.restores chat))
        |>.seq (restores_field ?_ (inverse_bool.restores isTyping)) <;> simp
  | read id chat messageId =>
      refine restores_tagged _ (by simp) rfl ?_
      refine restores_map _ (restores_field ?_ (inverse_string.restores id))
        |>.seq (restores_field ?_ (inverse_string.restores chat))
        |>.seq (restores_field ?_ (inverse_string.restores messageId)) <;> simp

theorem reads (f : Outgoing) : Reads ofJson f.encode f := reads_text (f.exact 125) f.restores

theorem encode_injective {f g : Outgoing} (h : f.encode = g.encode) : f = g :=
  (h ▸ f.reads).unique g.reads

end Outgoing

/-- The frame of an action tells its id and its intent. -/
theorem Intent.eq_of_frame_eq {i j : Intent} {id id' : String} (h : i.frame id = j.frame id') :
    id = id' ∧ i = j := by
  cases i <;> cases j <;> cases h <;> exact ⟨rfl, rfl⟩

/-! ## 6. Everything written -/

/--
**What is written is read back.** Every frame of a client is, and so the texts of two actions that
differ in their ids or intents differ; and so is every message, event and answer of the server,
with its timestamps to the nanosecond and the leap second, and every outcome that can be read at
all.
-/
theorem codec_faithful :
    (∀ f : Outgoing, Reads Outgoing.ofJson f.encode f) ∧
    (∀ a b : Action, a.id ≠ b.id ∨ a.intent ≠ b.intent → a.frame.encode ≠ b.frame.encode) ∧
    (∀ m : Message, Reads Message.ofJson m.toJson.text m) ∧
    (∀ e : Event, Reads Event.ofJson e.toJson.text e) ∧
    (∀ a : Ack, Reads Ack.ofJson a.toJson.text a) ∧
    (∀ (o : Action.Outcome) (setting : Setting) (v : Json),
      Action.Outcome.ofJson setting v = .ok o → Reads Action.Outcome.ofJson o.toJson.text o) := by
  refine ⟨Outgoing.reads, fun a b hne hencode => ?_, fun m => ?_, fun e => ?_, fun a => ?_,
    fun o setting v hread => ?_⟩
  · obtain ⟨hid, hintent⟩ := Intent.eq_of_frame_eq (Outgoing.encode_injective hencode)
    exact hne.elim (absurd hid) (absurd hintent)
  · exact reads_text (m.exact 125) (Message.inverse.restores m)
  · exact reads_text (e.exact 123) (Event.inverse.restores e)
  · exact reads_text (a.exact 126) (Ack.inverse.restores a)
  · have hcounted := Action.Outcome.counted_of_read hread
    exact reads_text (o.exact hcounted 126) (Action.Outcome.restores_outcome hcounted)

/-- Two actions with one intent, and an outcome that was read. -/
theorem codec_faithful_actions :
    (Action.new "a" (.text "c" "x") 0).frame.encode ≠
      (Action.new "b" (.text "c" "x") 0).frame.encode ∧
    Reads Action.Outcome.ofJson (Action.Outcome.failed 3).toJson.text (.failed 3) :=
  ⟨codec_faithful.2.1 _ _ (.inl (by decide)),
    codec_faithful.2.2.2.2.2 (.failed 3) .plain
      (.object [("outcome", .string "failed"), ("attempts", .number (.integer 3))]) rfl⟩

end RealtimeChat
