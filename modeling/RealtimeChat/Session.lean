import RealtimeChat.Frame.Incoming
import RealtimeChat.Session.State
import RealtimeChat.Timer
import RealtimeChat.Transport
import RealtimeChat.Backoff
/-!
# The session of a user

A session keeps one connection at a time: it opens it, introduces the user on it, watches it and
opens another one when it is lost, with growing delays and not for ever. Nothing here waits: what
has to happen later is a deadline in the timers, and what others have to know is a signal.

* `Session` -- the session with its transport;
* `connect`, `logout`, `handleEvent`, `handleTimer`, `sendFrame` -- the operations;
* `Session.Signal` -- what others have to know.
-/

namespace RealtimeChat

/-! ## 1. The data -/

/-- Source of random words; they may be any. -/
structure Entropy where
  words : Nat → UInt64
  /-- How many words were drawn. -/
  drawn : Nat

/-- The next random word. -/
def Entropy.next (e : Entropy) : Nat × Entropy :=
  ((e.words e.drawn).toNat, { e with drawn := e.drawn + 1 })

namespace Session

/-- How far a connection is. -/
inductive Phase where
  | opening
  | «open»
deriving DecidableEq, Repr

/-- A connection of a session. -/
structure Connection where
  id : ConnectionId
  phase : Phase
  created : Instant
  /-- When something was received last. -/
  lastActivity : Instant
deriving DecidableEq, Repr

/-- Somebody being logged in, over all connections. -/
structure Login where
  credentials : Credentials
  /-- All connections of the session, oldest first. -/
  connections : List ConnectionId
deriving DecidableEq

/-- What others have to know about a session. -/
inductive Signal where
  | stateChanged (before after : State)
  /-- A frame that is not about the connection itself, received while active. -/
  | inbound (frame : Incoming)
  | malformed (connection : ConnectionId) (fault : Incoming.Fault)
  | reconnectScheduled (attempt : Nat) (delay : Duration)
  | connectionLost (connection : ConnectionId) (reason : String)
  | authRejected (reason : String)
  | reconnectExhausted (attempts : Nat)
deriving DecidableEq

/-- What a session goes by. -/
structure Plan where
  endpoint : String
  reconnect : Backoff
  heartbeatInterval : Duration
  heartbeatTimeout : Duration
  handshakeTimeout : Duration

end Session

/-- The session of a user. -/
structure Session (τ : Type) where
  plan : Session.Plan
  transport : τ
  state : Session.State
  login : Option Session.Login
  connection : Option Session.Connection
  /-- The number of the next connection. -/
  nextConnection : ConnectionId
  /-- How many attempts failed since the session was active last. -/
  failures : Nat
  /-- How often the session became active. -/
  activations : Nat
  entropy : Entropy
  /-- The signals that nobody has taken yet, oldest first. -/
  signals : List Session.Signal

namespace Session

variable {τ : Type} [Transport τ]

/-- No session. -/
def new (plan : Plan) (transport : τ) (entropy : Entropy) : Session τ where
  plan := plan
  transport := transport
  state := .disconnected
  login := none
  connection := none
  nextConnection := 1
  failures := 0
  activations := 0
  entropy := entropy
  signals := []

/-- The signals since they were taken last, and the session without them. -/
def takeSignals (s : Session τ) : List Signal × Session τ := (s.signals, { s with signals := [] })

/-! ## 2. Parts of the operations -/

/-- Add a signal. -/
def signal (s : Session τ) (x : Signal) : Session τ := { s with signals := s.signals ++ [x] }

/-- Go to a state; a change of the state is signalled. -/
def transition (s : Session τ) (next : State) : Session τ :=
  if s.state = next then s else { s with state := next }.signal (.stateChanged s.state next)

/-- Disarm the deadlines of a connection. -/
def cancelConnectionTimers (timers : Timers) : Timers :=
  ((timers.cancel .handshake).cancel .heartbeat).cancel .liveness

/-- Disarm all deadlines of a session. -/
def cancelTimers (timers : Timers) : Timers := (cancelConnectionTimers timers).cancel .reconnect

/-- Give up the connection, if there is one. -/
def dropConnection (s : Session τ) : Session τ :=
  match s.connection with
  | none => s
  | some c => { s with connection := none, transport := Transport.close s.transport c.id }

/-- Wait before the next attempt to connect, or fail if there were too many. -/
def scheduleReconnect (s : Session τ) (now : Instant) (timers : Timers) : Session τ × Timers :=
  if s.plan.reconnect.exhausted s.failures then
    ((s.signal (.reconnectExhausted s.failures)).transition .failed, timers)
  else
    let (word, entropy) :=
      if s.plan.reconnect.clampedJitter.isZero then (0, s.entropy) else s.entropy.next
    let delay := s.plan.reconnect.jittered s.failures word
    let s := { s with failures := s.failures + 1, entropy }
    ((s.transition .reconnecting).signal (.reconnectScheduled s.failures delay),
      timers.schedule .reconnect (now + delay))

/-- Open a connection for whoever is logged in. -/
def openConnection (s : Session τ) (now : Instant) (timers : Timers) : Session τ × Timers :=
  match s.login with
  | none => (s, timers)
  | some login =>
    let id := s.nextConnection
    let s := { s with
      nextConnection := id + 1
      login := some { login with connections := login.connections ++ [id] } }.transition .connecting
    match Transport.openConnection s.transport id s.plan.endpoint login.credentials with
    | (.ok (), transport) =>
      ({ s with transport, connection := some ⟨id, .opening, now, now⟩ },
        timers.schedule .handshake (now + s.plan.handshakeTimeout))
    | (.error _, transport) => { s with transport }.scheduleReconnect now timers

/-- The connection is lost, or an attempt to make one failed. -/
def connectionFailed (s : Session τ) (reason : String) (now : Instant) (timers : Timers) :
    Session τ × Timers :=
  let lost := match s.connection with
    | some c => if s.state = .active then [.connectionLost c.id reason] else []
    | none => []
  let s := s.dropConnection
  { s with signals := s.signals ++ lost }.scheduleReconnect now (cancelConnectionTimers timers)

/-! ## 3. Frames -/

/-- Send a frame, which only an active session does. -/
def sendFrame (s : Session τ) (frame : Outgoing) : Except SendFault Unit × Session τ :=
  match s.connection with
  | some c =>
    if s.state = .active then
      let (result, transport) := Transport.send s.transport c.id frame
      (result, { s with transport })
    else (.error .noConnection, s)
  | none => (.error .noConnection, s)

/-- The connection is open: introduce the user on it. -/
def opened (s : Session τ) (now : Instant) (timers : Timers) : Session τ × Timers :=
  match s.state, s.connection, s.login with
  | .connecting, some c, some login =>
    let s := { s with connection := some { c with phase := .open, lastActivity := now } }
    let frame := .login login.credentials.token login.credentials.user
    match Transport.send s.transport c.id frame with
    | (.ok (), transport) => ({ s with transport }.transition .authenticating, timers)
    | (.error f, transport) =>
      { s with transport }.connectionFailed ("failed to send auth frame: " ++ f.message) now timers
  | _, _, _ => (s, timers)

/-- The server accepted the user. -/
def activate (s : Session τ) (now : Instant) (timers : Timers) : Session τ × Timers :=
  ({ s with failures := 0, activations := s.activations + 1 }.transition .active,
    ((timers.cancel .handshake).schedule .heartbeat (now + s.plan.heartbeatInterval)).schedule
      .liveness (now + s.plan.heartbeatTimeout))

/-- The server rejected the user; there is no point in trying again. -/
def rejected (s : Session τ) (reason : String) (timers : Timers) : Session τ × Timers :=
  ((s.dropConnection.signal (.authRejected reason)).transition .failed, cancelTimers timers)

/-- A text was received on the connection. -/
def received (s : Session τ) (connection : ConnectionId) (text : String) (now : Instant)
    (timers : Timers) : Session τ × Timers :=
  let s := { s with connection := s.connection.map ({ · with lastActivity := now }) }
  let timers := if s.state = .active then timers.schedule .liveness (now + s.plan.heartbeatTimeout)
    else timers
  match Incoming.decode text with
  | .error f => (s.signal (.malformed connection f), timers)
  | .ok (.authAccepted _) =>
    if s.state = .authenticating then s.activate now timers else (s, timers)
  | .ok (.authRejected reason) => s.rejected reason timers
  | .ok .pong => (s, timers)
  | .ok frame => (if s.state = .active then s.signal (.inbound frame) else s, timers)

/-! ## 4. The operations -/

/-- Log somebody in. While a session is live this is refused, and the state it is in returned. -/
def connect (s : Session τ) (credentials : Credentials) (now : Instant) (timers : Timers) :
    Except State (Session τ × Timers) :=
  if s.state.isLive then .error s.state
  else
    .ok ({ s with login := some ⟨credentials, []⟩, failures := 0, activations := 0 }.openConnection
      now timers)

/-- Log out: give up the connection and disarm all deadlines. -/
def logout (s : Session τ) (timers : Timers) : Session τ × Timers :=
  let s := s.dropConnection
  ({ s with login := none, failures := 0 }.transition .disconnected, cancelTimers timers)

/-- Something happened to a connection. What happens to any other than the current one is of no
interest. -/
def handleEvent (s : Session τ) (connection : ConnectionId) (event : Transport.Event)
    (now : Instant) (timers : Timers) : Session τ × Timers :=
  if s.connection.map (·.id) = some connection then
    match event with
    | .opened => s.opened now timers
    | .frame text => s.received connection text now timers
    | .failed reason => s.connectionFailed reason now timers
    | .closed => s.connectionFailed "connection closed by server" now timers
  else (s, timers)

/-- Prove to be alive, and do so again after the interval. -/
def heartbeat (s : Session τ) (now : Instant) (timers : Timers) : Session τ × Timers :=
  match s.sendFrame .ping with
  | (.ok (), s) => (s, timers.schedule .heartbeat (now + s.plan.heartbeatInterval))
  | (.error f, s) => s.connectionFailed ("heartbeat send failed: " ++ f.message) now timers

/-- A deadline has passed; `none` if it is not one of the session. -/
def handleTimer (s : Session τ) (key : Timer.Key) (now : Instant) (timers : Timers) :
    Option (Session τ × Timers) :=
  match key with
  | .handshake => some <|
    if s.state = .connecting ∨ s.state = .authenticating then
      s.connectionFailed "handshake timed out" now timers
    else (s, timers)
  | .reconnect => some <|
    if s.state = .reconnecting then s.openConnection now timers else (s, timers)
  | .heartbeat => some <| if s.state = .active then s.heartbeat now timers else (s, timers)
  | .liveness => some <|
    if s.state = .active then s.connectionFailed "heartbeat timeout" now timers else (s, timers)
  | _ => none

end Session

end RealtimeChat
