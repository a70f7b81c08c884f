import RealtimeChat.Json.Reading
/-!
# Chat messages

What a chat consists of: messages with an author, a kind, a state of delivery and perhaps a
reference to the message they answer.

* `Message`, `Message.Kind`, `Message.Status`, `Message.Reply` -- the data;
* `Message.toJson`, `Message.ofJson` -- the written form and its reader, which also takes the
  names of the older wire generation.
-/

namespace RealtimeChat

/-! ## 1. The data -/

/-- The medium of a message. -/
inductive Message.Kind where
  | text
  | image
  | video
  | audio
deriving DecidableEq, Repr

/-- How far a message got. -/
inductive Message.Status where
  | sent
  | delivered
  | read
  /-- The server never accepted it. -/
  | failed
deriving DecidableEq, Repr

/-- The message that another one answers. -/
structure Message.Reply where
  id : String
  content : String
deriving DecidableEq, Repr

/-- A chat message. -/
structure Message where
  /-- The server's id; absent while the server has not confirmed the message. -/
  id : Option String
  content : String
  sender : Option String
  timestamp : Option Timestamp
  kind : Message.Kind
  media : Option String
  reply : Option Message.Reply
  status : Option Message.Status
  /-- The id of the action that sent the message. -/
  clientId : Option String
deriving DecidableEq

namespace Message

/-- A text message without anything else. -/
def plain (content : String) : Message := ⟨none, content, none, none, .text, none, none, none, none⟩

/-! ## 2. Written forms -/

/-- The name of a medium. -/
def Kind.name : Kind → String
  | .text => "text"
  | .image => "image"
  | .video => "video"
  | .audio => "audio"

/-- All media with their names. -/
def Kind.variants : List (String × Kind) :=
  [Kind.text, .image, .video, .audio].map (fun k => (k.name, k))

/-- The name of a state of delivery. -/
def Status.name : Status → String
  | .sent => "sent"
  | .delivered => "delivered"
  | .read => "read"
  | .failed => "failed"

/-- All states of delivery with their names. -/
def Status.variants : List (String × Status) :=
  [Status.sent, .delivered, .read, .failed].map (fun s => (s.name, s))

/-- The written form of a reference. -/
def Reply.toJson (r : Reply) : Json :=
  .object [("id", .string r.id), ("content", .string r.content)]

/-- The written form of a message, without its absent parts. -/
def toJson (m : Message) : Json :=
  .object (
    Json.optionalMember "id" .string m.id ++
    [("content", .string m.content)] ++
    Json.optionalMember "senderId" .string m.sender ++
    Json.optionalMember "timestamp" (.string ·.text) m.timestamp ++
    [("type", .string m.kind.name)] ++
    Json.optionalMember "mediaUrl" .string m.media ++
    Json.optionalMember "replyTo" Reply.toJson m.reply ++
    Json.optionalMember "status" (.string ·.name) m.status ++
    Json.optionalMember "clientId" .string m.clientId)

/-! ## 3. Readers -/

open Json

/-- The reader of a medium. -/
def Kind.ofJson : Reader Kind := readChoice Kind.variants

/-- The reader of a state of delivery. -/
def Status.ofJson : Reader Status := readChoice Status.variants

/-- The reader of a reference. -/
def Reply.ofJson : Reader Reply :=
  record "ReplyRef" (Reply.mk <$> Fields.required "id" [] readString <*>
    Fields.required "content" [] readString)

/-- The fields of a message. -/
def fields : Fields Message :=
  Message.mk <$> Fields.optional "id" [] readString
    <*> Fields.withDefault "content" [] "" readString
    <*> Fields.optional "senderId" ["sender_id"] readString
    <*> Fields.optional "timestamp" [] readTimestamp
    <*> Fields.withDefault "type" [] .text Kind.ofJson
    <*> Fields.optional "mediaUrl" ["media_url"] readString
    <*> Fields.optional "replyTo" ["reply_to"] Reply.ofJson
    <*> Fields.optional "status" [] Status.ofJson
    <*> Fields.optional "clientId" ["client_id"] readString

/-- The reader of a message. -/
def ofJson : Reader Message := record "ChatMessage" fields

end Message

end RealtimeChat
