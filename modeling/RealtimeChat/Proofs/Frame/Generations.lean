import RealtimeChat.Proofs.Codec
import RealtimeChat.Proofs.Json.Renaming
/-!
# Both wire generations decode alike

A frame that a client can read may give any of its fields, or the fields of its message, another
of their names, and it may have any further members. And the frame of the newer generation that
nests a message says the same as the flat frame of the older one.

* `Incoming.names`, `Message.names` -- the names of each field, for each kind of frame;
* **`ofMembers_carries`** -- a frame is read from the values under the names of its fields;
* `Incoming.Reworded`, **`Reworded.carries`** -- a frame with a member renamed or with further
  members is read as before;
* `nestedForm`, `flatForm` -- a message in the forms of the two generations;
* **`generations_alike`** -- a text decodes as the same however its frame is worded.
-/

namespace RealtimeChat

open Json

variable {ms ms' : List (String × Json)}

/-! ## 1. Names -/

/-- The names of each field of a message. -/
def Message.names : List (List String) :=
  [["id"], ["content"], ["senderId", "sender_id"], ["timestamp"], ["type"],
    ["mediaUrl", "media_url"], ["replyTo", "reply_to"], ["status"], ["clientId", "client_id"]]

namespace Incoming

/-- The names under which a frame tells its kind. -/
def kindNames : List String := ["type", "message_type"]

/-- The names of each field that a kind of frames has. -/
def names : String → List (List String)
  | "auth_ok" | "authenticated" => [["userId", "user_id"]]
  | "auth_error" | "unauthorized" => [["reason", "message"]]
  | "ack" => [["actionId", "action_id"], ["result"], ["reason"], ["messageId", "message_id"]]
  | "error" => [["code"], ["message"]]
  | "message" =>
    [["eventId", "event_id"], ["chatId", "chat_id"], ["groupId", "group_id"], ["message"],
      ["senderId", "sender_id"], ["content"], ["messageId", "message_id"], ["timestamp"]]
  | "typing" =>
    [["eventId", "event_id"], ["chatId", "chat_id"], ["groupId", "group_id"],
      ["userId", "user_id"], ["senderId", "sender_id"], ["isTyping", "is_typing"], ["timestamp"]]
  | "message_status" | "status" =>
    [["eventId", "event_id"], ["chatId", "chat_id"], ["messageId", "message_id"], ["status"],
      ["timestamp"]]
  | "user_status" | "presence" =>
    [["eventId", "event_id"], ["chatId", "chat_id"], ["userId", "user_id"],
      ["userStatus", "user_status", "status"], ["timestamp"]]
  | _ => []

theorem apart_names (kind : String) : Apart (kindNames :: names kind) := by
  unfold names
  split <;> decide

end Incoming

theorem Message.apart_names : Apart names := by decide

/-! ## 2. Bodies -/

theorem Message.fields_carries (h : Same names ms ms') : fields.Carries ms ms' :=
  carries_map _ (h.optional (by decide))
    |>.seq (h.field (by decide))
    |>.seq (h.optional (by decide))
    |>.seq (h.optional (by decide))
    |>.seq (h.field (by decide))
    |>.seq (h.optional (by decide))
    |>.seq (h.optional (by decide))
    |>.seq (h.optional (by decide))
    |>.seq (h.optional (by decide))

namespace Incoming

theorem acceptedBody_carries (h : Same (names "auth_ok") ms ms') :
    acceptedBody.Carries ms ms' := carries_map _ (h.optional (by decide))

theorem rejectedBody_carries (h : Same (names "auth_error") ms ms') :
    rejectedBody.Carries ms ms' := carries_map _ (h.optional (by decide))

theorem ackFields_carries (h : Same (names "ack") ms ms') : Ack.fields.Carries ms ms' :=
  carries_map _ (h.field (by decide))
    |>.seq (h.field (by decide))
    |>.seq (h.optional (by decide))
    |>.seq (h.optional (by decide))

theorem errorBody_carries (h : Same (names "error") ms ms') : errorBody.Carries ms ms' :=
  carries_map _ (h.field (by decide))
    |>.seq (h.field (by decide))

/-- The parts of a message frame are found where the values under their own names are the same,
and the nested message where it is found. -/
theorem messageBody_carries (h : Same ((names "message").erase ["message"]) ms ms')
    (hmessage : (Fields.optional "message" [] Message.ofJson).Carries ms ms') :
    messageBody.Carries ms ms' :=
  carries_map _ (h.optional (by decide))
    |>.seq (h.optional (by decide))
    |>.seq (h.optional (by decide))
    |>.seq hmessage
    |>.seq (h.optional (by decide))
    |>.seq (h.optional (by decide))
    |>.seq (h.optional (by decide))
    |>.seq (h.optional (by decide))

theorem typingBody_carries (h : Same (names "typing") ms ms') : typingBody.Carries ms ms' :=
  carries_map _ (h.optional (by decide))
    |>.seq (h.optional (by decide))
    |>.seq (h.optional (by decide))
    |>.seq (h.optional (by decide))
    |>.seq (h.optional (by decide))
    |>.seq (h.field (by decide))
    |>.seq (h.optional (by decide))

theorem statusBody_carries (h : Same (names "status") ms ms') : statusBody.Carries ms ms' :=
  carries_map _ (h.optional (by decide))
    |>.seq (h.optional (by decide))
    |>.seq (h.field (by decide))
    |>.seq (h.field (by decide))
    |>.seq (h.optional (by decide))

theorem presenceBody_carries (h : Same (names "presence") ms ms') :
    presenceBody.Carries ms ms' :=
  carries_map _ (h.optional (by decide))
    |>.seq (h.optional (by decide))
    |>.seq (h.field (by decide))
    |>.seq (h.field (by decide))
    |>.seq (h.optional (by decide))

/-- A body that is read from some members is read from those to which its fields carry over. -/
theorem body_carries {α : Type} {fields : Fields α} (h : fields.Carries ms ms') {kind : String}
    {a : α} (ha : (readMembers fields .plain ms).mapError (Fault.invalidBody kind) = .ok a) :
    (readMembers fields .plain ms').mapError (Fault.invalidBody kind) = .ok a := by
  cases hread : readMembers fields .plain ms with
  | error f =>
      rw [hread] at ha
      cases ha
  | ok b =>
      rw [hread] at ha
      rw [h.readMembers hread]
      exact ha

theorem body_bind_carries {α : Type} {fields : Fields α} (h : fields.Carries ms ms')
    {kind : String} {g : α → Except Fault Incoming} {f : Incoming}
    (hf : ((readMembers fields .plain ms).mapError (Fault.invalidBody kind)).bind g = .ok f) :
    ((readMembers fields .plain ms').mapError (Fault.invalidBody kind)).bind g = .ok f := by
  cases hbody : (readMembers fields .plain ms).mapError (Fault.invalidBody kind) with
  | error fault =>
      rw [hbody] at hf
      cases hf
  | ok a =>
      rw [hbody] at hf
      rw [body_carries h hbody]
      exact hf

/-- **A frame of a kind is read as before** where the values under the names of its fields are the
same. -/
theorem ofMembers_carries {kind : String} {f : Incoming} (h : Same (names kind) ms ms')
    (hf : ofMembers kind ms = .ok f) : ofMembers kind ms' = .ok f := by
  unfold ofMembers at hf ⊢
  split at hf
  · exact body_carries (acceptedBody_carries h) hf
  · exact body_carries (acceptedBody_carries h) hf
  · exact body_carries (rejectedBody_carries h) hf
  · exact body_carries (rejectedBody_carries h) hf
  · exact hf
  · exact body_bind_carries (ackFields_carries h) hf
  · exact body_carries (errorBody_carries h) hf
  · have hothers : Same ((names "message").erase ["message"]) ms ms' := fun group hgroup =>
      h group (List.mem_of_mem_erase hgroup)
    exact body_carries (messageBody_carries hothers (h.optional (by decide))) hf
  · exact body_bind_carries (typingBody_carries h) hf
  · exact body_carries (statusBody_carries h) hf
  · exact body_carries (statusBody_carries h) hf
  · exact body_carries (presenceBody_carries h) hf
  · exact body_carries (presenceBody_carries h) hf
  · simpa only using hf

/-! ## 3. Kinds -/

/-- The values under the names of the kind, `type` first. -/
def tags (ms : List (String × Json)) : List Json := under ["type"] ms ++ under ["message_type"] ms

theorem member?_eq (name : String) (ms : List (String × Json)) :
    (object ms).member? name = (under [name] ms).head? := by
  simp only [member?, under, List.head?_map, List.mem_singleton, List.head?_filter]

theorem kindOf?_eq (ms : List (String × Json)) : kindOf? ms = (tags ms).head?.bind (·.string?) := by
  simp only [kindOf?, tags, member?_eq, List.head?_append]

theorem string?_sorted (v : Json) : v.sorted.string? = v.string? := by
  cases v <;> simp [sorted, string?]

/-- Sorting does not change the kind. -/
theorem kindOf?_sorted (hnames : (ms.map (·.1)).Nodup) :
    kindOf? (sortedMembers [] ms) = kindOf? ms := by
  rw [kindOf?_eq, kindOf?_eq, tags, under_name_sorted hnames, under_name_sorted hnames,
    ← List.map_append, List.head?_map, Option.bind_map]
  exact congrArg _ (funext string?_sorted)

theorem under_single_of_foreign {name : String} (hname : name ∈ kindNames)
    (h : ∀ m ∈ ms, m.1 ∉ kindNames) : under [name] ms = [] :=
  under_eq_nil fun m hm hmem => h m hm (List.mem_singleton.mp hmem ▸ hname)

section Tags

variable {front back : List (String × Json)} {old new : String} {v : Json}

/-- The only member that tells the kind tells it under either name. -/
theorem tags_single {name : String} (hname : name ∈ kindNames)
    (hothers : ∀ m ∈ front ++ back, m.1 ∉ kindNames) :
    tags (front ++ (name, v) :: back) = [v] := by
  have hfront : ∀ n ∈ kindNames, under [n] front = [] := fun n hn =>
    under_single_of_foreign hn fun m hm => hothers m (List.mem_append_left _ hm)
  have hback : ∀ n ∈ kindNames, under [n] back = [] := fun n hn =>
    under_single_of_foreign hn fun m hm => hothers m (List.mem_append_right _ hm)
  simp only [kindNames, List.forall_mem_cons] at hfront hback
  simp only [kindNames, List.mem_cons, List.not_mem_nil, or_false] at hname
  rcases hname with rfl | rfl <;> simp [tags, hfront, hback]

/-- A member that tells no kind may stand under another such name. -/
theorem tags_foreign (hold : old ∉ kindNames) (hnew : new ∉ kindNames) :
    tags (front ++ (new, v) :: back) = tags (front ++ (old, v) :: back) := by
  simp only [kindNames, List.mem_cons, List.not_mem_nil, or_false, not_or] at hold hnew
  simp [tags, hold, hnew]

/-- The member that tells the kind may stand under the other name, if that is not present. -/
theorem tags_renamed (hold : old ∈ kindNames) (hnew : new ∈ kindNames)
    (hnames : ((front ++ (old, v) :: back).map (·.1)).Nodup)
    (habsent : new ∉ (front ++ (old, v) :: back).map (·.1)) :
    tags (front ++ (new, v) :: back) = tags (front ++ (old, v) :: back) := by
  obtain ⟨hne, hnew'⟩ := ne_of_absent habsent
  have hold' : old ∉ (front ++ back).map (·.1) :=
    (List.nodup_cons.mp ((names_middle front back old v).nodup_iff.mp hnames)).1
  -- there are two such names, and the other members have neither of them
  have hboth : ∀ name ∈ kindNames, name = old ∨ name = new := by
    simp only [kindNames, List.mem_cons, List.not_mem_nil, or_false] at hold hnew ⊢
    grind
  have hothers : ∀ m ∈ front ++ back, m.1 ∉ kindNames := by
    intro m hm hmem
    have hm : m.1 ∈ (front ++ back).map (·.1) := List.mem_map_of_mem hm
    rcases hboth m.1 hmem with heq | heq <;> rw [heq] at hm
    · exact hold' hm
    · exact hnew' hm
  rw [tags_single hnew hothers, tags_single hold hothers]

end Tags

/-- Renaming a member, or adding others, does not change the kind. -/
theorem tags_varied {groups : List (List String)} (h : Varied (kindNames :: groups) ms ms')
    (hapart : Apart (kindNames :: groups)) (hnames : (ms.map (·.1)).Nodup) :
    tags ms' = tags ms := by
  cases h with
  | @extended extra hunread _ =>
      have hextra : ∀ m ∈ extra, m.1 ∉ kindNames := fun m hm =>
        hunread m hm kindNames List.mem_cons_self
      simp only [tags, under_append]
      rw [under_single_of_foreign (by decide) hextra, under_single_of_foreign (by decide) hextra,
        List.append_nil, List.append_nil]
  | @renamed front back old new v group hms hgroup hold hnew habsent =>
      subst hms
      by_cases hkind : kindNames = group
      · subst hkind
        exact tags_renamed hold hnew hnames habsent
      · have hforeign : ∀ name ∈ group, name ∉ kindNames := fun name hname hmem =>
          hkind (hapart kindNames List.mem_cons_self group hgroup name hmem hname)
        exact tags_foreign (hforeign old hold) (hforeign new hnew)

/-! ## 4. Frames in other words -/

/-- The members of a frame of a kind after one of them was given another of its field's names, or
one of its message, or after members were added which the kind does not read. -/
inductive Reworded (kind : String) (ms : List (String × Json)) : List (String × Json) → Prop where
  | frame {ms' : List (String × Json)} (h : Varied (kindNames :: names kind) ms ms') :
      Reworded kind ms ms'
  | nested {front back inner inner' : List (String × Json)}
      (hms : ms = front ++ ("message", .object inner) :: back) (hkind : kind = "message")
      (h : Varied Message.names inner inner') :
      Reworded kind ms (front ++ ("message", .object inner') :: back)

/-- A nested message is read as before where the values under the names of its fields are the
same. -/
theorem nested_carries {inner inner' : List (String × Json)} {m : Option Message}
    (h : Same Message.names inner inner')
    (hread : readOptional Message.ofJson .plain (.object inner) = .ok m) :
    readOptional Message.ofJson .plain (.object inner') = .ok m := by
  simp only [readOptional, Message.ofJson, record] at hread ⊢
  cases hinner : readMembers Message.fields .plain inner with
  | error f =>
      rw [hinner] at hread
      cases hread
  | ok b =>
      rw [hinner] at hread
      rw [(Message.fields_carries h).readMembers hinner]
      exact hread

section Nested

variable {front back inner inner' : List (String × Json)}

theorem same_beside_message {v v' : Json}
    (hnames : ((front ++ ("message", v) :: back).map (·.1)).Nodup)
    (hnames' : ((front ++ ("message", v') :: back).map (·.1)).Nodup) :
    Same ((names "message").erase ["message"])
      (sortedMembers [] (front ++ ("message", v) :: back))
      (sortedMembers [] (front ++ ("message", v') :: back)) := by
  have hforeign : ∀ group ∈ (names "message").erase ["message"], "message" ∉ group := by decide
  refine same_sorted hnames hnames' fun group hgroup => ?_
  have hmessage := hforeign group hgroup
  simp [hmessage]

/-- The nested message of a frame is found in what the frame becomes with another one. -/
theorem optional_message_carries (h : Same Message.names inner (sortedMembers [] inner'))
    (hnames : ((front ++ ("message", .object inner) :: back).map (·.1)).Nodup)
    (hnames' : ((front ++ ("message", .object inner') :: back).map (·.1)).Nodup) :
    (Fields.optional "message" [] Message.ofJson).Carries
      (front ++ ("message", .object inner) :: back)
      (sortedMembers [] (front ++ ("message", .object inner') :: back)) := by
  intro first m hm
  have hm : (Fields.field "message" [] (some none) (readOptional Message.ofJson)).read first
    (.members .plain (front ++ ("message", .object inner) :: back)) = .ok m := hm
  refine Fields.field_ok_iff.mpr (.inr ⟨.object (sortedMembers [] inner'), ?_, ?_⟩)
  · rw [under_name_sorted hnames', under_single hnames', List.map_singleton, sorted_object]
  · rcases Fields.field_ok_iff.mp hm with ⟨hnone, -⟩ | ⟨v, hv, hread⟩
    · rw [under_single hnames] at hnone
      cases hnone
    · rw [under_single hnames] at hv
      obtain rfl := List.singleton_inj.mp hv
      exact nested_carries h hread

end Nested

/-- **A reworded frame is read as before**, with its members sorted. -/
theorem Reworded.carries {kind : String} {f : Incoming} (h : Reworded kind ms ms')
    (hsorted : sortedMembers [] ms = ms) (hkind : kindOf? ms = some kind)
    (hf : ofMembers kind ms = .ok f) :
    kindOf? (sortedMembers [] ms') = some kind ∧
      ofMembers kind (sortedMembers [] ms') = .ok f := by
  have hnames := nodup_of_sorted hsorted
  cases h with
  | frame h =>
      have hsame := h.same (apart_names kind) hnames
      rw [hsorted] at hsame
      refine ⟨?_, ofMembers_carries (fun group hgroup => hsame group (.tail _ hgroup)) hf⟩
      rw [kindOf?_sorted (h.nodup hnames), kindOf?_eq, tags_varied h (apart_names kind) hnames,
        ← kindOf?_eq, hkind]
  | @nested front back inner inner' hms hmessage h =>
      subst hmessage hms
      have hnames' : ((front ++ ("message", Json.object inner') :: back).map (·.1)).Nodup := by
        rw [List.map_append, List.map_cons] at hnames ⊢
        exact hnames
      have hinner : sortedMembers [] inner = inner := by
        have hvalue := values_of_sorted hsorted ("message", .object inner) (by simp)
        rw [sorted_object] at hvalue
        exact Json.object.inj hvalue
      have hsame := h.same Message.apart_names (nodup_of_sorted hinner)
      rw [hinner] at hsame
      have hothers := same_beside_message hnames hnames'
      rw [hsorted] at hothers
      have hbody := messageBody_carries hothers (optional_message_carries hsame hnames hnames')
      refine ⟨?_, body_carries hbody hf⟩
      rw [kindOf?_sorted hnames', ← hkind, kindOf?_eq, kindOf?_eq]
      simp [tags]

/-! ## 5. The two forms of a message -/

/-- A text for which a timestamp is read. -/
structure TimeText where
  text : String
  time : Timestamp
  reads : Timestamp.read text = .ok time

theorem restores_timeText (t : TimeText) : Restores readTimestamp (.string t.text) t.time := by
  refine restores_of_sorted_eq (sorted_string t.text) fun setting => ?_
  simp only [readTimestamp, t.reads, Except.mapError]

section Forms

variable (chat id content sender : Option String) (time : Option TimeText)

/-- The members of the message that a frame of the newer generation nests. -/
def nestedMessage : List (String × Json) :=
  optionalMember "id" .string id ++
  optionalMember "content" .string content ++
  optionalMember "senderId" .string sender ++
  optionalMember "timestamp" (.string <| TimeText.text ·) time

/-- The frame of the newer generation. -/
def nestedForm : List (String × Json) :=
  [("type", .string "message")] ++
  optionalMember "chatId" .string chat ++
  [("message", .object (nestedMessage id content sender time))]

/-- The frame of the older generation. -/
def flatForm : List (String × Json) :=
  [("message_type", .string "message")] ++
  optionalMember "chat_id" .string chat ++
  optionalMember "message_id" .string id ++
  optionalMember "content" .string content ++
  optionalMember "sender_id" .string sender ++
  optionalMember "timestamp" (.string <| TimeText.text ·) time

/-- The event that both bring. -/
def formEvent : Event :=
  let when := time.map (·.time)
  ⟨none, chat, .message { Message.plain (content.getD "") with
    id := id, sender := sender, timestamp := when }, when, false⟩

theorem refuses_readTimestamp (setting : Setting) (t : Timestamp) :
    readTimestamp setting .null ≠ .ok t := by
  rintro ⟨⟩

theorem nestedMessage_nodup :
    ((nestedMessage id content sender time).map (·.1)).Nodup := by
  simp only [nestedMessage, List.map_append]
  refine List.Nodup.sublist (optionalMember_sublist _ _ _
    |>.append (optionalMember_sublist _ _ _)
    |>.append (optionalMember_sublist _ _ _)
    |>.append (optionalMember_sublist _ _ _)) ?_
  decide

theorem nestedMessage_restores :
    Message.fields.Restores (nestedMessage id content sender time)
      { Message.plain (content.getD "") with
        id := id, sender := sender, timestamp := time.map (·.time) } := by
  refine restores_map _ (restores_optional inverse_string ?_)
    |>.seq (restores_withDefault inverse_string ?_)
    |>.seq (restores_optional inverse_string ?_)
    |>.seq (restores_optional_of refuses_readTimestamp restores_timeText ?_)
    |>.seq (restores_absent ?_)
    |>.seq (restores_absent ?_)
    |>.seq (restores_absent ?_)
    |>.seq (restores_absent ?_)
    |>.seq (restores_absent ?_) <;> simp [nestedMessage]

theorem nestedForm_restores :
    messageBody.Restores (nestedForm chat id content sender time)
      (.event (formEvent chat id content sender time)) := by
  have hmessage := restores_record "ChatMessage" (nestedMessage_nodup id content sender time)
    (nestedMessage_restores id content sender time)
  have hbody : messageBody.Restores (nestedForm chat id content sender time) _ :=
    restores_map _ (restores_absent (by simp [nestedForm]))
      |>.seq (restores_optional inverse_string (a := chat) (by simp [nestedForm]))
      |>.seq (restores_absent (by simp [nestedForm]))
      |>.seq (restores_field (by simp [nestedForm])
        (restores_readOptional Message.inverse.refuses hmessage))
      |>.seq (restores_absent (by simp [nestedForm]))
      |>.seq (restores_absent (by simp [nestedForm]))
      |>.seq (restores_absent (by simp [nestedForm]))
      |>.seq (restores_optional inverse_timestamp (a := none) (by simp [nestedForm]))
  simpa [formEvent, frameMessage, Message.plain] using hbody

theorem flatForm_restores :
    messageBody.Restores (flatForm chat id content sender time)
      (.event (formEvent chat id content sender time)) := by
  have hbody : messageBody.Restores (flatForm chat id content sender time) _ :=
    restores_map _ (restores_absent (by simp [flatForm]))
      |>.seq (restores_optional inverse_string (a := chat) (by simp [flatForm]))
      |>.seq (restores_absent (by simp [flatForm]))
      |>.seq (restores_absent (by simp [flatForm]))
      |>.seq (restores_optional inverse_string (a := sender) (by simp [flatForm]))
      |>.seq (restores_optional inverse_string (a := content) (by simp [flatForm]))
      |>.seq (restores_optional inverse_string (a := id) (by simp [flatForm]))
      |>.seq (restores_optional_of refuses_readTimestamp restores_timeText (c := time)
        (by simp [flatForm]))
  simpa [formEvent, frameMessage, Message.plain] using hbody

theorem nestedForm_nodup : ((nestedForm chat id content sender time).map (·.1)).Nodup := by
  simp only [nestedForm, List.map_append, List.map_cons, List.map_nil]
  refine List.Nodup.sublist ((List.Sublist.refl _).append (optionalMember_sublist _ _ _)
    |>.append (.refl _)) ?_
  decide

theorem flatForm_nodup : ((flatForm chat id content sender time).map (·.1)).Nodup := by
  simp only [flatForm, List.map_append, List.map_cons, List.map_nil]
  refine List.Nodup.sublist ((List.Sublist.refl _).append (optionalMember_sublist _ _ _)
    |>.append (optionalMember_sublist _ _ _)
    |>.append (optionalMember_sublist _ _ _)
    |>.append (optionalMember_sublist _ _ _)
    |>.append (optionalMember_sublist _ _ _)) ?_
  decide

end Forms

/-! ## 6. Texts -/

/-- The text stands for the value, in whatever order it lists the members of objects. -/
def Writes (s : String) (v : Json) : Prop := Json.parse s = .ok v.sorted

theorem decode_ok_iff {s : String} {f : Incoming} :
    decode s = .ok f ↔ ∃ kind ms, Json.parse s = .ok (.object ms) ∧ kindOf? ms = some kind ∧
      ofMembers kind ms = .ok f := by
  unfold decode
  constructor
  · intro h
    cases hparse : Json.parse s with
    | error fault =>
        rw [hparse] at h
        cases h
    | ok v =>
        rw [hparse] at h
        cases v with
        | object ms =>
            simp only [Incoming.ofJson] at h
            split at h
            · rename_i kind hkind
              exact ⟨kind, ms, rfl, hkind, h⟩
            · cases h
        | _ => cases h
  · rintro ⟨kind, ms, hparse, hkind, hf⟩
    simp only [hparse, Incoming.ofJson, hkind, hf]

/-- What was read from a text is sorted. -/
theorem sorted_of_parse {s : String} {v : Json} (h : Json.parse s = .ok v) : v.sorted = v := by
  unfold Json.parse at h
  cases hlisted : Json.parseListed s with
  | error fault =>
      rw [hlisted] at h
      cases h
  | ok w =>
      rw [hlisted] at h
      obtain rfl := Except.ok.inj h
      exact sorted_sorted w

/-- A text that stands for members from which a message frame is read back decodes as that. -/
theorem decode_form {s : String} {f : Incoming} (hs : Writes s (.object ms))
    (hnames : (ms.map (·.1)).Nodup) (hkind : kindOf? ms = some "message")
    (h : messageBody.Restores ms f) : decode s = .ok f := by
  refine decode_ok_iff.mpr ⟨"message", sortedMembers [] ms, ?_, ?_, ?_⟩
  · rw [hs, sorted_object]
  · rw [kindOf?_sorted hnames, hkind]
  · have hread := readMembers_restores h .plain (listed_sorted hnames)
    show (readMembers messageBody .plain _).mapError _ = _
    rw [hread]
    rfl

/--
**Both wire generations decode alike.** A frame that can be read is read as the same from every
text for its object in other words: with a member under another of its field's names that was not
present, in the frame or in the message that it nests, or with any further members that its kind
does not read. And whichever of its chat, its message's id, content and sender and its time are
present, a message means the same event in the nested form of the one generation and in the flat
form of the other.
-/
theorem generations_alike :
    (∀ (s : String) (f : Incoming), decode s = .ok f →
      ∃ kind ms, Json.parse s = .ok (.object ms) ∧ kindOf? ms = some kind ∧
        ∀ ms' s', Reworded kind ms ms' → Writes s' (.object ms') → decode s' = .ok f) ∧
    (∀ (chat id content sender : Option String) (time : Option TimeText) (s s' : String),
      Writes s (.object (nestedForm chat id content sender time)) →
      Writes s' (.object (flatForm chat id content sender time)) →
      decode s = .ok (.event (formEvent chat id content sender time)) ∧
        decode s' = .ok (.event (formEvent chat id content sender time))) := by
  constructor
  · intro s f hf
    obtain ⟨kind, ms, hparse, hkind, hf⟩ := decode_ok_iff.mp hf
    refine ⟨kind, ms, hparse, hkind, fun ms' s' hreworded hs' => ?_⟩
    have hsorted := sorted_of_parse hparse
    rw [sorted_object] at hsorted
    obtain ⟨hkind', hf'⟩ := hreworded.carries (Json.object.inj hsorted) hkind hf
    exact decode_ok_iff.mpr ⟨kind, _, by rw [hs', sorted_object], hkind', hf'⟩
  · intro chat id content sender time s s' hs hs'
    constructor
    · refine decode_form hs (nestedForm_nodup chat id content sender time) ?_
        (nestedForm_restores chat id content sender time)
      simp [kindOf?_eq, tags, nestedForm, string?]
    · refine decode_form hs' (flatForm_nodup chat id content sender time) ?_
        (flatForm_restores chat id content sender time)
      simp [kindOf?_eq, tags, flatForm, string?]

/-- A message in both forms, and in the flat one with `type` for `message_type`. -/
theorem generations_alike_greeting :
    let e := Incoming.event (formEvent (some "c") none (some "hi") none none)
    decode (object (nestedForm (some "c") none (some "hi") none none)).text = .ok e ∧
    decode (object (flatForm (some "c") none (some "hi") none none)).text = .ok e ∧
    decode (object [("chat_id", .string "c"), ("content", .string "hi"),
      ("type", .string "message")]).text = .ok e := by
  have hwrites : ∀ ms : List (String × Json), (∀ m ∈ ms, Exact 126 m.2) →
      Writes (object ms).text (.object ms) := fun _ h => parse_text (.object h)
  have hnested : Writes (object (nestedForm (some "c") none (some "hi") none none)).text _ :=
    hwrites _ (by simp [nestedForm, nestedMessage, optionalMember, Exact.string, Exact.object])
  have hflat : Writes (object (flatForm (some "c") none (some "hi") none none)).text _ :=
    hwrites _ (by simp [flatForm, optionalMember, Exact.string])
  obtain ⟨hdecode, hdecode'⟩ := generations_alike.2 _ _ _ _ _ _ _ hnested hflat
  obtain ⟨kind, ms, hparse, -, hreworded⟩ := generations_alike.1 _ _ hdecode'
  have hms : ms = [("chat_id", .string "c"), ("content", .string "hi"),
      ("message_type", .string "message")] := by
    have hchat : compare "chat_id" "message_type" = .lt := by decide +kernel
    have hfirst : compare "content" "chat_id" = .gt := by decide +kernel
    have hlast : compare "content" "message_type" = .lt := by decide +kernel
    rw [hflat] at hparse
    simpa [flatForm, optionalMember, sortedMembers, OrderedMap.insertEntry, hchat, hfirst, hlast]
      using hparse.symm
  have hrenamed : Varied (kindNames :: names kind) ms
      ([("chat_id", .string "c"), ("content", .string "hi")] ++ [("type", .string "message")]) :=
    .renamed hms List.mem_cons_self (by decide) (by decide) (by simp [hms])
  exact ⟨hdecode, hdecode', hreworded _ _ (.frame hrenamed) (hwrites _ (by simp [Exact.string]))⟩

end Incoming

end RealtimeChat
