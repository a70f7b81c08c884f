import RealtimeChat.Event
/-!
# Missed messages

After a lost connection the client asks for the messages of each chat that it knows, from the
newest one on that it has seen. The answer goes the way of live events, so that what was seen
already is dropped on the way.

* `History.Request` -- what is asked for;
* `History.replay` -- the answer as events.
-/

namespace RealtimeChat.History

/-- A request for the messages of a chat. -/
structure Request where
  chat : String
  /-- Only newer messages are wanted. -/
  since : Option Timestamp
  token : String
  /-- The login that the request belongs to; an answer to an earlier one is dropped. -/
  generation : Nat
deriving DecidableEq

/-- The request in a message, without the token. -/
def Request.description (r : Request) : String :=
  let since := match r.since with
    | none => "None"
    | some t => "Some(" ++ t.text ++ ")"
  "HistoryRequest \x7b chat_id: " ++ Text.quoted r.chat ++ ", since: " ++ since ++
    ", generation: " ++ toString r.generation ++ ", .. \x7d"

/-- Fetched messages as events of their chat. -/
def replay (chat : String) (messages : List Message) : List Event :=
  messages.map fun m => ⟨none, some chat, .message m, m.timestamp, true⟩

end RealtimeChat.History
