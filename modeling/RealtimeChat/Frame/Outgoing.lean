import RealtimeChat.Json.Printer
import RealtimeChat.Message
/-!
# Frames that a client sends

The client introduces itself with an `auth` frame, proves from time to time that it is alive, and
sends messages, typing states and read receipts. Each of the last three carries the id of the
action that caused it, so that the server can acknowledge it.

* `Outgoing` -- the frames;
* `Outgoing.encode` -- the text on the wire, `Outgoing.ofJson` its reader.
-/

namespace RealtimeChat

/-- A frame from the client to the server. -/
inductive Outgoing where
  | auth (token user version : String)
  | ping
  | message (actionId chat content : String) (kind : Message.Kind) (media : Option String)
      (reply : Option Message.Reply)
  | typing (actionId chat : String) (isTyping : Bool)
  | read (actionId chat messageId : String)
deriving DecidableEq, Repr

namespace Outgoing

/-- The version of the wire protocol that the client speaks. -/
def protocolVersion : String := "courier-chat.v1"

/-- The frame that introduces a user. -/
def login (token user : String) : Outgoing := .auth token user protocolVersion

/-- The name of the frame's type on the wire. -/
def typeName : Outgoing → String
  | .auth .. => "auth"
  | .ping => "ping"
  | .message .. => "message"
  | .typing .. => "typing"
  | .read .. => "read"

/-- The action that caused the frame, if one did. -/
def actionId? : Outgoing → Option String
  | .message id .. => some id
  | .typing id .. => some id
  | .read id .. => some id
  | _ => none

/-- The written form, the type first. -/
def toJson (f : Outgoing) : Json :=
  .object (("type", .string f.typeName) :: match f with
    | .auth token user version =>
      [("token", .string token), ("userId", .string user), ("protocolVersion", .string version)]
    | .ping => []
    | .message id chat content kind media reply =>
      [("actionId", .string id), ("chatId", .string chat), ("content", .string content),
        ("messageType", .string kind.name)] ++
      Json.optionalMember "mediaUrl" .string media ++
      Json.optionalMember "replyTo" Message.Reply.toJson reply
    | .typing id chat isTyping =>
      [("actionId", .string id), ("chatId", .string chat), ("isTyping", .bool isTyping)]
    | .read id chat messageId =>
      [("actionId", .string id), ("chatId", .string chat), ("messageId", .string messageId)])

/-- The text on the wire. -/
def encode (f : Outgoing) : String := f.toJson.text

open Json

/-- The reader of a frame. -/
def ofJson : Reader Outgoing :=
  tagged "ClientFrame" "type" [
    ("auth", ⟨"Auth", Outgoing.auth <$> Fields.required "token" [] readString
      <*> Fields.required "userId" [] readString
      <*> Fields.required "protocolVersion" [] readString⟩),
    ("ping", ⟨"Ping", pure .ping⟩),
    ("message", ⟨"Message", Outgoing.message <$> Fields.required "actionId" [] readString
      <*> Fields.required "chatId" [] readString
      <*> Fields.required "content" [] readString
      <*> Fields.required "messageType" [] Message.Kind.ofJson
      <*> Fields.optional "mediaUrl" [] readString
      <*> Fields.optional "replyTo" [] Message.Reply.ofJson⟩),
    ("typing", ⟨"Typing", Outgoing.typing <$> Fields.required "actionId" [] readString
      <*> Fields.required "chatId" [] readString
      <*> Fields.required "isTyping" [] readBool⟩),
    ("read", ⟨"Read", Outgoing.read <$> Fields.required "actionId" [] readString
      <*> Fields.required "chatId" [] readString
      <*> Fields.required "messageId" [] readString⟩)]

end Outgoing

end RealtimeChat
