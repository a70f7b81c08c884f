import RealtimeChat.Json.Printer
import RealtimeChat.Message
import RealtimeChat.Sha256
/-!
# Events of a chat

What the server tells a client about a chat: a message, somebody typing, a message's state of
delivery, somebody's presence. Some events are made locally, from history or when a typing
indicator runs out.

* `Event`, `Event.Payload`, `Event.Kind` -- the data;
* `Event.fingerprint?` -- what tells an event without an id from others;
* `Event.dedupKey?` -- the key under which an event is delivered at most once.
-/

namespace RealtimeChat

/-! ## 1. The data -/

/-- Whether somebody is there. -/
inductive Presence where
  | online
  | offline
  | away
deriving DecidableEq, Repr

/-- What an event tells. -/
inductive Event.Payload where
  | message (message : Message)
  | typing (user : String) (isTyping : Bool)
  | statusChange (messageId : String) (status : Message.Status)
  | presence (user : String) (status : Presence)
deriving DecidableEq

/-- What an event is about. -/
inductive Event.Kind where
  | message
  | typing
  | statusChange
  | presence
deriving DecidableEq, Repr

/-- An event. -/
structure Event where
  id : Option String
  chat : Option String
  payload : Event.Payload
  timestamp : Option Timestamp
  /-- Whether the event was made locally. -/
  synthetic : Bool
deriving DecidableEq

namespace Event

/-- The kind of a payload. -/
def Payload.kind : Payload → Kind
  | .message _ => .message
  | .typing .. => .typing
  | .statusChange .. => .statusChange
  | .presence .. => .presence

/-- What an event is about. -/
def kind (e : Event) : Kind := e.payload.kind

/-- The message that an event brings, if it brings one. -/
def message? (e : Event) : Option Message :=
  match e.payload with
  | .message m => some m
  | _ => none

/-! ## 2. Written forms -/

/-- The name of a kind. -/
def Kind.name : Kind → String
  | .message => "message"
  | .typing => "typing"
  | .statusChange => "status_change"
  | .presence => "presence"

/-- All kinds with their names. -/
def Kind.variants : List (String × Kind) :=
  [Kind.message, .typing, .statusChange, .presence].map (fun k => (k.name, k))

end Event

/-- The name of a presence. -/
def Presence.name : Presence → String
  | .online => "online"
  | .offline => "offline"
  | .away => "away"

/-- All presences with their names. -/
def Presence.variants : List (String × Presence) :=
  [Presence.online, .offline, .away].map (fun p => (p.name, p))

namespace Event

/-- The written form of a payload, its kind first. -/
def Payload.toJson (p : Payload) : Json :=
  .object (("kind", .string p.kind.name) :: match p with
    | .message m => [("message", m.toJson)]
    | .typing user isTyping => [("user_id", .string user), ("is_typing", .bool isTyping)]
    | .statusChange id status => [("message_id", .string id), ("status", .string status.name)]
    | .presence user status => [("user_id", .string user), ("status", .string status.name)])

/-- The written form of an event, without its absent parts. -/
def toJson (e : Event) : Json :=
  .object (
    Json.optionalMember "event_id" .string e.id ++
    Json.optionalMember "chat_id" .string e.chat ++
    [("payload", e.payload.toJson)] ++
    Json.optionalMember "server_timestamp" (.string ·.text) e.timestamp ++
    [("synthetic", .bool e.synthetic)])

/-! ## 3. Readers -/

open Json

/-- The reader of a payload. -/
def Payload.ofJson : Reader Payload :=
  tagged "EventPayload" "kind" [
    ("message", ⟨"Message", Payload.message <$> Fields.required "message" [] Message.ofJson⟩),
    ("typing", ⟨"Typing", Payload.typing <$> Fields.required "user_id" [] readString
      <*> Fields.required "is_typing" [] readBool⟩),
    ("status_change", ⟨"StatusChange", Payload.statusChange
      <$> Fields.required "message_id" [] readString
      <*> Fields.required "status" [] Message.Status.ofJson⟩),
    ("presence", ⟨"Presence", Payload.presence <$> Fields.required "user_id" [] readString
      <*> Fields.required "status" [] (readChoice Presence.variants)⟩)]

/-- The reader of an event. -/
def ofJson : Reader Event :=
  record "InboundEvent" (Event.mk <$> Fields.optional "event_id" [] readString
    <*> Fields.optional "chat_id" [] readString
    <*> Fields.required "payload" [] Payload.ofJson
    <*> Fields.optional "server_timestamp" [] readTimestamp
    <*> Fields.withDefault "synthetic" [] false readBool)

/-! ## 4. Identity -/

/-- When the event happened: the server's time, or else the message's own. -/
def effectiveTime? (e : Event) : Option Timestamp :=
  e.timestamp.or (e.message?.bind (·.timestamp))

/-- The text that tells events without an id apart: kind, chat, payload and time. -/
def fingerprint (e : Event) (time : Timestamp) : String :=
  String.intercalate "\x00"
    [e.kind.name, e.chat.getD "", e.payload.toJson.text, time.offsetText]

/-- The bytes of a text. -/
def bytes (s : String) : List UInt8 := s.toUTF8.data.toList

/--
The key under which an event is delivered at most once: its own id, else the id of its message,
else a digest of its fingerprint. An event without an id and a time has none.
-/
def dedupKey? (e : Event) : Option String :=
  match e.id, e.message?.bind (·.id) with
  | some id, _ => some ("evt:" ++ id)
  | none, some id => some ("msg:" ++ id)
  | none, none =>
    e.effectiveTime?.map (fun time => "sha:" ++ Sha256.hex (bytes (e.fingerprint time)))

end Event

end RealtimeChat
