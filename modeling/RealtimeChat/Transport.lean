import RealtimeChat.Frame.Outgoing
import RealtimeChat.Text.Quoted
/-!
# Connections to the server

A transport opens, uses and closes connections, each under a number of its own. Opening only
starts a connection; what becomes of it is reported later as an event.

* `Credentials`, `ConnectionId`, `Transport.Event` -- what goes in and comes out;
* `Transport` -- what a transport can do, for whatever state it keeps;
* `ConnectFault`, `SendFault` -- what can go wrong.
-/

namespace RealtimeChat

/-- Who a connection authenticates as. -/
structure Credentials where
  user : String
  token : String
deriving DecidableEq

/-- The credentials in a message, without the token. -/
def Credentials.description (c : Credentials) : String :=
  "Credentials \x7b user_id: " ++ Text.quoted c.user ++ ", token: \"<redacted>\" \x7d"

/-- The number of a connection. -/
abbrev ConnectionId := Nat

/-- The name of a connection. -/
def ConnectionId.name (id : ConnectionId) : String := "conn-" ++ toString id

/-- Why a connection is not opened. -/
inductive ConnectFault where
  | invalidEndpoint (reason : String)
  | handshake (reason : String)
  | timedOut
deriving DecidableEq, Repr

/-- The fault in words. -/
def ConnectFault.message : ConnectFault → String
  | .invalidEndpoint reason => "invalid endpoint: " ++ reason
  | .handshake reason => "handshake failed: " ++ reason
  | .timedOut => "connect timed out"

/-- Why a frame is not sent. -/
inductive SendFault where
  | notOpen (connection : ConnectionId)
  | noConnection
deriving DecidableEq, Repr

/-- The fault in words. -/
def SendFault.message : SendFault → String
  | .notOpen id => "connection " ++ id.name ++ " is not open"
  | .noConnection => "no active connection"

/-- What happens to a connection. -/
inductive Transport.Event where
  | opened
  | frame (text : String)
  | failed (reason : String)
  | closed
deriving DecidableEq, Repr

/-- A state that keeps connections. Every operation returns the state after it, also where it
fails. -/
class Transport (τ : Type) where
  /-- Start opening a connection. -/
  openConnection : τ → ConnectionId → (endpoint : String) → Credentials →
    Except ConnectFault Unit × τ
  /-- Send a frame on a connection. -/
  send : τ → ConnectionId → Outgoing → Except SendFault Unit × τ
  /-- Give a connection up, whatever became of it. -/
  close : τ → ConnectionId → τ

end RealtimeChat
