import RealtimeChat.Json.Reading
/-!
# States of a session

A session goes from `connecting` over `authenticating` to `active`, back over `reconnecting` when
its connection is lost, and to `failed` when there is no point in trying again.

* `Session.State` -- the states;
* `Session.State.isLive` -- whether the session is on its way to a connection or has one.
-/

namespace RealtimeChat.Session

/-- How far a session is. -/
inductive State where
  /-- There is no session. -/
  | disconnected
  | connecting
  | authenticating
  | active
  /-- The session waits before it connects again. -/
  | reconnecting
  /-- The server rejected the credentials, or could not be reached too often. -/
  | failed
deriving DecidableEq, Repr

namespace State

/-- The name of a state. -/
def name : State → String
  | disconnected => "disconnected"
  | connecting => "connecting"
  | authenticating => "authenticating"
  | active => "active"
  | reconnecting => "reconnecting"
  | failed => "failed"

/-- All states with their names. -/
def variants : List (String × State) :=
  [disconnected, connecting, authenticating, active, reconnecting, failed].map
    (fun s => (s.name, s))

/-- The reader of a state. -/
def ofJson : Json.Reader State := Json.readChoice variants

/-- Whether the session is on its way to a connection or has one. -/
def isLive : State → Bool
  | connecting => true
  | authenticating => true
  | active => true
  | reconnecting => true
  | disconnected => false
  | failed => false

end State

end RealtimeChat.Session
