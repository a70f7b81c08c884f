import RealtimeChat.Backoff
/-!
# Settings of the client

Where the server is and how patient the client is with it. All times are milliseconds.

* `Settings` -- the settings, in the sections of the settings file;
* `Settings.Heartbeat.timeout`, `Settings.Reconnect.policy` and so on -- what follows from them.
-/

namespace RealtimeChat

namespace Settings

/-- Where the server is. -/
structure Server where
  /-- The address of the live connection. -/
  wsUrl : Option String := none
  /-- The address from which missed messages are fetched. -/
  apiUrl : Option String := none
  /-- The time in which a connection has to be opened and authenticated. -/
  connectTimeoutMs : Nat := 10000
deriving DecidableEq

/-- How a lost connection is made again. -/
structure Reconnect where
  baseDelayMs : Nat := 1000
  maxDelayMs : Nat := 30000
  maxAttempts : Nat := 5
  /-- The greatest share of a delay that chance may take off. -/
  jitter : Binary64 := .ofLiteral false 2 (-1)
deriving DecidableEq

/-- How a connection is watched. -/
structure Heartbeat where
  intervalMs : Nat := 15000
  /-- After so many silent intervals the connection counts as lost. -/
  timeoutMultiplier : Nat := 2
deriving DecidableEq

/-- How actions are queued and sent again. -/
structure Queue where
  maxPerChat : Nat := 500
  ackTimeoutMs : Nat := 10000
  maxAttempts : Nat := 5
deriving DecidableEq

/-- How events are routed. -/
structure Routing where
  dedupCapacity : Nat := 1024
  dedupTtlMs : Nat := 300000
  typingExpiryMs : Nat := 5000
deriving DecidableEq

/-- How the user's own typing is reported. -/
structure Typing where
  idleMs : Nat := 1000
deriving DecidableEq

/-- The time in which a connection has to be opened and authenticated. -/
def Server.connectTimeout (s : Server) : Duration := .ofMillis s.connectTimeoutMs

/-- The growth of the delays between attempts to connect. -/
def Reconnect.policy (r : Reconnect) : Backoff :=
  ⟨.ofMillis r.baseDelayMs, .ofMillis r.maxDelayMs, r.maxAttempts, r.jitter⟩

/-- The time between two proofs of being alive. -/
def Heartbeat.interval (h : Heartbeat) : Duration := .ofMillis h.intervalMs

/-- The silence after which a connection counts as lost. -/
def Heartbeat.timeout (h : Heartbeat) : Duration := h.interval.times h.timeoutMultiplier

/-- The time in which an action has to be acknowledged. -/
def Queue.ackTimeout (q : Queue) : Duration := .ofMillis q.ackTimeoutMs

/-- The time for which a delivered event is remembered. -/
def Routing.dedupTtl (r : Routing) : Duration := .ofMillis r.dedupTtlMs

/-- The time after which a typing indicator runs out. -/
def Routing.typingExpiry (r : Routing) : Duration := .ofMillis r.typingExpiryMs

/-- The time after the last keystroke at which the user counts as not typing any more. -/
def Typing.idle (t : Typing) : Duration := .ofMillis t.idleMs

end Settings

/-- The settings of the client. -/
structure Settings where
  server : Settings.Server := {}
  reconnect : Settings.Reconnect := {}
  heartbeat : Settings.Heartbeat := {}
  outbox : Settings.Queue := {}
  router : Settings.Routing := {}
  typing : Settings.Typing := {}
deriving DecidableEq

end RealtimeChat
