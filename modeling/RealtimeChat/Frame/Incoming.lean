import RealtimeChat.Event
import RealtimeChat.Json.Parser
/-!
# Frames that a client receives

Two generations of servers are understood: one nests the message of a frame and writes names like
`chatId`, the older one lists the parts flat and writes names like `chat_id`. A frame of a kind
that is not known is no error.

* `Incoming` -- the frames, with `Ack`, the server's verdict on an action;
* `Incoming.Fault` -- why a text is no frame;
* `Incoming.decode` -- the frame that a text is written for.
-/

namespace RealtimeChat

/-! ## 1. The data -/

/-- The server's verdict on an action. -/
inductive Ack.Result where
  | applied
  /-- The server had applied the action before. -/
  | duplicate
  | rejected
deriving DecidableEq, Repr

/-- The server's answer to an action. -/
structure Ack where
  actionId : String
  result : Ack.Result
  reason : Option String
  /-- The id that the server gave to the message. -/
  messageId : Option String
deriving DecidableEq, Repr

/-- A frame from the server to the client. -/
inductive Incoming where
  | authAccepted (user : Option String)
  | authRejected (reason : String)
  | pong
  | ack (ack : Ack)
  | event (event : Event)
  | error (code message : String)
  | unknown (kind : String)
deriving DecidableEq

namespace Ack

/-- The name of a verdict. -/
def Result.name : Result → String
  | .applied => "applied"
  | .duplicate => "duplicate"
  | .rejected => "rejected"

/-- All verdicts with their names. -/
def Result.variants : List (String × Result) :=
  [Result.applied, .duplicate, .rejected].map (fun r => (r.name, r))

/-- The written form of an answer, without its absent parts. -/
def toJson (a : Ack) : Json :=
  .object (
    [("actionId", .string a.actionId), ("result", .string a.result.name)] ++
    Json.optionalMember "reason" .string a.reason ++
    Json.optionalMember "messageId" .string a.messageId)

open Json

/-- The fields of an answer. -/
def fields : Fields Ack :=
  Ack.mk <$> Fields.required "actionId" ["action_id"] readString
    <*> Fields.withDefault "result" [] .applied (readChoice Result.variants)
    <*> Fields.optional "reason" [] readString
    <*> Fields.optional "messageId" ["message_id"] readString

/-- The reader of an answer. -/
def ofJson : Reader Ack := record "ActionAck" fields

end Ack

namespace Incoming

/-- Whether the frame is about the connection itself: its handshake or its being alive. -/
def isControl : Incoming → Bool
  | .authAccepted _ => true
  | .authRejected _ => true
  | .pong => true
  | _ => false

/-! ## 2. Faults -/

/-- Why a text is no frame. -/
inductive Fault where
  /-- The text is not JSON. -/
  | syntaxFault (fault : Json.SyntaxFault)
  /-- The text is JSON, but no object. -/
  | notAnObject
  /-- The object does not name its kind. -/
  | missingKind
  /-- A field of the kind cannot be read. -/
  | invalidBody (kind : String) (fault : Json.ReadFault)
  /-- A typing frame that does not say who is typing. -/
  | missingUser (kind : String)
deriving DecidableEq, Repr

/-- The fault in words. -/
def Fault.message : Fault → String
  | .syntaxFault f => "malformed frame: " ++ f.message
  | .notAnObject => "malformed frame: frame is not a JSON object"
  | .missingKind => "frame has no `type` or `message_type` field"
  | .invalidBody kind f => "invalid " ++ Json.ticked kind ++ " frame: " ++ f.message
  | .missingUser kind => "invalid " ++ Json.ticked kind ++ " frame: missing user id"

/-! ## 3. The bodies of the kinds -/

open Json

/-- The parts that most event frames share. -/
def eventId : Fields (Option String) := Fields.optional "eventId" ["event_id"] readString

/-- The chat of a frame. -/
def chatId : Fields (Option String) := Fields.optional "chatId" ["chat_id"] readString

/-- The chat of a frame, under the name that groups have. -/
def groupId : Fields (Option String) := Fields.optional "groupId" ["group_id"] readString

/-- The time of a frame. -/
def time : Fields (Option Timestamp) := Fields.optional "timestamp" [] readTimestamp

/-- The author of a frame. -/
def senderId : Fields (Option String) := Fields.optional "senderId" ["sender_id"] readString

/-- A frame that accepts the credentials. -/
def acceptedBody : Fields Incoming :=
  Incoming.authAccepted <$> Fields.optional "userId" ["user_id"] readString

/-- A frame that rejects the credentials. -/
def rejectedBody : Fields Incoming :=
  (fun reason => .authRejected (reason.getD "authentication rejected")) <$>
    Fields.optional "reason" ["message"] readString

/-- A frame that reports an error. -/
def errorBody : Fields Incoming :=
  Incoming.error <$> Fields.withDefault "code" [] "" readString
    <*> Fields.withDefault "message" [] "" readString

/-- The message of a frame: the nested one, completed with the author and the time of the frame,
or the one that the flat parts make. -/
def frameMessage (nested : Option Message) (sender content messageId : Option String)
    (time : Option Timestamp) : Message :=
  match nested with
  | some m => { m with timestamp := m.timestamp.or time, sender := m.sender.or sender }
  | none =>
    { Message.plain (content.getD "") with
      id := messageId, sender := sender, timestamp := time }

/-- A frame that brings a message. -/
def messageBody : Fields Incoming :=
  (fun eventId chat group nested sender content messageId time =>
    let m := frameMessage nested sender content messageId time
    .event ⟨eventId, chat.or group, .message m, time.or m.timestamp, false⟩)
  <$> eventId <*> chatId <*> groupId
  <*> Fields.optional "message" [] Message.ofJson
  <*> senderId
  <*> Fields.optional "content" [] readString
  <*> Fields.optional "messageId" ["message_id"] readString
  <*> time

/-- A frame that says who is typing, or `none` where it does not say who. -/
def typingBody : Fields (Option Incoming) :=
  (fun eventId chat group user sender isTyping time =>
    (user.or sender).map fun user =>
      .event ⟨eventId, chat.or group, .typing user isTyping, time, false⟩)
  <$> eventId <*> chatId <*> groupId
  <*> Fields.optional "userId" ["user_id"] readString
  <*> senderId
  <*> Fields.withDefault "isTyping" ["is_typing"] true readBool
  <*> time

/-- A frame that tells how far a message got. -/
def statusBody : Fields Incoming :=
  (fun eventId chat messageId status time =>
    .event ⟨eventId, chat, .statusChange messageId status, time, false⟩)
  <$> eventId <*> chatId
  <*> Fields.required "messageId" ["message_id"] readString
  <*> Fields.required "status" [] Message.Status.ofJson
  <*> time

/-- A frame that tells whether somebody is there. -/
def presenceBody : Fields Incoming :=
  (fun eventId chat user status time =>
    .event ⟨eventId, chat, .presence user status, time, false⟩)
  <$> eventId <*> chatId
  <*> Fields.required "userId" ["user_id"] readString
  <*> Fields.required "userStatus" ["user_status", "status"] (readChoice Presence.variants)
  <*> time

/-! ## 4. Decoding -/

/-- The name of the kind: the member `type`, or else `message_type`. -/
def kindOf? (members : List (String × Json)) : Option String :=
  let frame := Json.object members
  ((frame.member? "type").or (frame.member? "message_type")).bind (·.string?)

/-- The frame of a kind with these members. -/
def ofMembers (kind : String) (members : List (String × Json)) : Except Fault Incoming :=
  let body {α : Type} (fields : Fields α) : Except Fault α :=
    (readMembers fields .plain members).mapError (.invalidBody kind)
  match kind with
  | "auth_ok" | "authenticated" => body acceptedBody
  | "auth_error" | "unauthorized" => body rejectedBody
  | "pong" => .ok .pong
  | "ack" => (body Ack.fields).map .ack
  | "error" => body errorBody
  | "message" => body messageBody
  | "typing" => do
    match ← body typingBody with
    | some frame => .ok frame
    | none => .error (.missingUser kind)
  | "message_status" | "status" => body statusBody
  | "user_status" | "presence" => body presenceBody
  | kind => .ok (.unknown kind)

/-- The frame that a JSON value stands for. -/
def ofJson : Json → Except Fault Incoming
  | .object members =>
    match kindOf? members with
    | some kind => ofMembers kind members
    | none => .error .missingKind
  | _ => .error .notAnObject

/-- The frame that a text is written for. -/
def decode (s : String) : Except Fault Incoming :=
  match Json.parse s with
  | .ok v => ofJson v
  | .error f => .error (.syntaxFault f)

end Incoming

end RealtimeChat
