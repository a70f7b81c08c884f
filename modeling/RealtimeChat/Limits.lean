import RealtimeChat.Text.Blank
/-!
# Limits of what a user may send

The server refuses chats without an id, ids that are too long, and messages that are empty or too
long; the client does not send them in the first place. Lengths count bytes.

* `LimitFault` -- which limit is broken;
* `checkChat`, `checkId`, `checkContent` -- the limits.
-/

namespace RealtimeChat

/-- The greatest length of a message. -/
def maxMessageBytes : Nat := 4096

/-- The greatest length of an id. -/
def maxIdBytes : Nat := 128

/-- A limit that is broken. -/
inductive LimitFault where
  | emptyChatId
  | idTooLong (field : String) (limit : Nat)
  | emptyContent
  | contentTooLarge (length limit : Nat)
deriving DecidableEq, Repr

/-- The fault in words. -/
def LimitFault.message : LimitFault → String
  | .emptyChatId => "chat id must not be empty"
  | .idTooLong field limit => field ++ " exceeds " ++ toString limit ++ " bytes"
  | .emptyContent => "message content must not be empty"
  | .contentTooLarge length limit =>
    "message content is " ++ toString length ++ " bytes; the limit is " ++ toString limit

/-- The limit of an id; `field` names it in messages. -/
def checkId (field id : String) : Except LimitFault Unit :=
  if maxIdBytes < id.utf8ByteSize then .error (.idTooLong field maxIdBytes) else .ok ()

/-- The limits of the id of a chat. -/
def checkChat (chat : String) : Except LimitFault Unit :=
  if Text.allBlank chat then .error .emptyChatId else checkId "chat id" chat

/-- The limits of the text of a message. -/
def checkContent (content : String) : Except LimitFault Unit :=
  if Text.allBlank content then .error .emptyContent
  else if maxMessageBytes < content.utf8ByteSize then
    .error (.contentTooLarge content.utf8ByteSize maxMessageBytes)
  else .ok ()

end RealtimeChat
