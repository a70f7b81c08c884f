import RealtimeChat.Event
/-!
# The local copy of the chats

Every delivered message goes into the log of its chat, by time, with those that have no time at
the end. What the user sends stands there from the start, as an echo without a server id: it is
completed when the server names it, replaced by the server's own copy, or marked as failed.

* `ChatLog` -- the messages of one chat;
* `ChatLog.put`, `confirm`, `markFailed`, `setStatus` -- what happens to them;
* `ChatStore` -- the logs of all chats, `ChatStore.Operation` -- what can be done with them;
* `Store` -- a store of any kind, `Store.memory` -- the one that keeps such logs.
-/

namespace RealtimeChat

/-! ## 1. One chat -/

/-- The messages of a chat. -/
structure ChatLog where
  /-- The messages by time, those without a time last. -/
  messages : List Message
  /-- The greatest time of all messages that were put here. -/
  lastTimestamp : Option Timestamp
deriving DecidableEq

namespace ChatLog

/-- No messages. -/
def empty : ChatLog := ⟨[], none⟩

/-- Change the first item that satisfies `p`. -/
def changeFirst {α : Type} (p : α → Bool) (f : α → α) : List α → List α
  | [] => []
  | a :: rest => if p a then f a :: rest else a :: changeFirst p f rest

/-- Whether `old` is an earlier copy of `new`, or its echo. -/
def isCopyOf (new old : Message) : Bool :=
  (new.id.isSome && old.id = new.id) || (new.clientId.isSome && old.clientId = new.clientId)

/-- Whether `old` stays in front of a message with this time. -/
def staysBefore (time : Timestamp) (old : Message) : Bool :=
  match old.timestamp with
  | some t => t ≤ time
  | none => false

/-- A message at its place by time, behind those of the same time; at the end without a time. -/
def insertByTime (m : Message) (messages : List Message) : List Message :=
  match m.timestamp with
  | none => messages ++ [m]
  | some time =>
    messages.takeWhile (staysBefore time) ++ m :: messages.dropWhile (staysBefore time)

/-- Put a message into the log, in place of an earlier copy of it or of its echo. -/
def put (log : ChatLog) (m : Message) : ChatLog where
  messages := insertByTime m (log.messages.eraseP (isCopyOf m))
  lastTimestamp := Timestamp.later log.lastTimestamp m.timestamp

/-- Whether a message is the echo of this action, not named by the server yet. -/
def isEcho (clientId : String) (m : Message) : Bool := m.id.isNone && m.clientId = some clientId

/-- The server named the message of an action: its echo gets the id, or goes if the server's own
copy is there. -/
def confirm (log : ChatLog) (clientId messageId : String) : ChatLog :=
  let named (m : Message) : Message :=
    { m with id := some messageId, status := m.status.or (some .sent) }
  { log with messages :=
      if log.messages.any (·.id = some messageId) then log.messages.eraseP (isEcho clientId)
      else changeFirst (isEcho clientId) named log.messages }

/-- The message of an action will never reach the server. -/
def markFailed (log : ChatLog) (clientId : String) : ChatLog :=
  { log with messages :=
      changeFirst (isEcho clientId) (fun m => { m with status := some .failed }) log.messages }

/-- A message got so far. -/
def setStatus (log : ChatLog) (messageId : String) (status : Message.Status) : ChatLog :=
  { log with messages :=
      changeFirst (·.id = some messageId) (fun m => { m with status := some status }) log.messages }

/-- The written form, with the id of the chat. -/
def toJson (chat : String) (log : ChatLog) : Json :=
  .object [("chat_id", .string chat), ("messages", .array (log.messages.map Message.toJson)),
    ("last_timestamp", Json.ofOption (.string ·.text) log.lastTimestamp)]

end ChatLog

/-! ## 2. All chats -/

/-- The logs of all chats. -/
structure ChatStore where
  chats : OrderedMap String ChatLog

namespace ChatStore

/-- No chats. -/
def empty : ChatStore := ⟨∅⟩

/-- The log of a chat. -/
def log? (s : ChatStore) (chat : String) : Option ChatLog := s.chats.get? chat

/-- Take an event into account: a message is put into the log of its chat, a state of delivery is
noted there. -/
def apply (s : ChatStore) (e : Event) : ChatStore :=
  match e.chat, e.payload with
  | some chat, .message m => ⟨s.chats.insert chat (((s.log? chat).getD .empty).put m)⟩
  | some chat, .statusChange id status => ⟨s.chats.modify chat (·.setStatus id status)⟩
  | _, _ => s

/-- The server named the message of an action. -/
def confirm (s : ChatStore) (chat clientId messageId : String) : ChatStore :=
  ⟨s.chats.modify chat (·.confirm clientId messageId)⟩

/-- The message of an action will never reach the server. -/
def markFailed (s : ChatStore) (chat clientId : String) : ChatStore :=
  ⟨s.chats.modify chat (·.markFailed clientId)⟩

/-- One operation on a store. -/
inductive Operation where
  | apply (e : Event)
  | confirm (chat clientId messageId : String)
  | markFailed (chat clientId : String)
deriving DecidableEq

/-- Perform one operation. -/
def perform (s : ChatStore) : Operation → ChatStore
  | .apply e => s.apply e
  | .confirm chat clientId messageId => s.confirm chat clientId messageId
  | .markFailed chat clientId => s.markFailed chat clientId

/-- Perform operations in order. -/
def performAll (s : ChatStore) (ops : List Operation) : ChatStore := ops.foldl perform s

/-- The store after operations. -/
def run (ops : List Operation) : ChatStore := empty.performAll ops

end ChatStore

/-! ## 3. Stores of any kind -/

/-- A store of any kind: what it shows is a matter of what it was told. -/
structure Store where
  /-- The operations that it was told to perform, oldest first. -/
  told : List ChatStore.Operation
  /-- The log of a chat, by what the store was told. -/
  shows : List ChatStore.Operation → String → Option ChatLog

namespace Store

/-- Tell a store to perform an operation. -/
def tell (s : Store) (op : ChatStore.Operation) : Store := { s with told := s.told ++ [op] }

/-- The log of a chat. -/
def log? (s : Store) (chat : String) : Option ChatLog := s.shows s.told chat

/-- The store that keeps the logs of all chats. -/
def memory : Store := ⟨[], fun told => (ChatStore.run told).log?⟩

end Store

end RealtimeChat
