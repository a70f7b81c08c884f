import RealtimeChat.History
import RealtimeChat.Notice
import RealtimeChat.Outbox
import RealtimeChat.Router
import RealtimeChat.Session
import RealtimeChat.Settings.Check
import RealtimeChat.Store
/-!
# The core of the client

The session, the router, the outbox and the store work on one set of timers and take one input
after the other: what the user wants, what happens to a connection, deadlines that have passed,
fetched messages. Every input comes with the instant at which it happens, so the whole client
runs without a clock.

* `Engine` -- the parts together;
* `connect`, `logout`, `submit`, `keystroke` -- what the user wants;
* `handleEvent`, `handleTimers`, `applyHistory` -- what happens;
* `takeSettled`, `takeHistoryRequests`, `takeDeliveries` -- what comes out of it.
-/

namespace RealtimeChat

/-! ## 1. The data -/

/-- Why the client does not do what it is told. -/
inductive ClientFault where
  | alreadyConnected (state : Session.State)
  | invalidAction (fault : LimitFault)
  | duplicateAction (id : String)
  | missingEndpoint
  /-- The client cannot run with its settings. -/
  | settings (reason : String)
  /-- The client was shut down. -/
  | shutdown
deriving DecidableEq, Repr

/-- The fault in words. -/
def ClientFault.message : ClientFault → String
  | .alreadyConnected state => "a session is already " ++ state.name ++ "; log out first"
  | .invalidAction fault => "invalid action: " ++ fault.message
  | .duplicateAction id => "action " ++ id ++ " was already settled"
  | .missingEndpoint => "no websocket endpoint configured (set server.ws_url)"
  | .settings reason => Settings.invalidText reason
  | .shutdown => "client event loop has shut down"

/-- Source of ids; they may be any. -/
structure IdSource where
  ids : Nat → String
  /-- How many ids were made. -/
  count : Nat

/-- A new id. -/
def IdSource.next (s : IdSource) : String × IdSource :=
  (s.ids s.count, { s with count := s.count + 1 })

/-- The core of the client. -/
structure Engine (τ : Type) where
  session : Session τ
  router : Router
  outbox : Outbox
  timers : Timers
  notices : NoticeHub
  store : Option Store
  /-- Whether missed messages are asked for. -/
  historyEnabled : Bool
  /-- The known chats with the newest time of a message seen there. -/
  cursors : OrderedMap String (Option Timestamp)
  /-- The chats in which the user is typing. -/
  localTyping : List String
  typingIdle : Duration
  /-- The requests that nobody has taken yet, oldest first. -/
  historyRequests : List History.Request
  /-- How often the user logged out. -/
  generation : Nat
  /-- The settlements that nobody has taken yet, oldest first. -/
  settled : List Settlement
  ids : IdSource

namespace Engine

variable {τ : Type} [Transport τ]

/-- What a session goes by under these settings. -/
def plan (settings : Settings) (endpoint : String) : Session.Plan where
  endpoint := endpoint
  reconnect := settings.reconnect.policy
  heartbeatInterval := settings.heartbeat.interval
  heartbeatTimeout := settings.heartbeat.timeout
  handshakeTimeout := settings.server.connectTimeout

/-- A client that nobody is logged in to. -/
def new (settings : Settings) (transport : τ) (entropy : Entropy) (ids : IdSource) :
    Except ClientFault (Engine τ) :=
  match settings.check, settings.server.wsUrl with
  | .error f, _ => .error (.settings f.message)
  | .ok (), none => .error .missingEndpoint
  | .ok (), some endpoint => .ok {
      session := .new (plan settings endpoint) transport entropy
      router := .new settings.router
      outbox := .new settings.outbox { settings.reconnect.policy with jitter := .zero false }
      timers := .empty
      notices := .empty
      store := none
      historyEnabled := false
      cursors := ∅
      localTyping := []
      typingIdle := settings.typing.idle
      historyRequests := []
      generation := 0
      settled := []
      ids := ids }

/-! ## 2. Parts of the operations -/

/-- Publish a notice. -/
def publish (e : Engine τ) (n : Notice) : Engine τ := { e with notices := e.notices.publish n }

/-- Tell the store of an event, if there is one. -/
def toStore (e : Engine τ) (event : Event) : Engine τ :=
  { e with store := e.store.map (·.tell (.apply event)) }

/-- Make the echo of a settled message final: named by the server, or failed. -/
def reconcileEcho (e : Engine τ) (s : Settlement) : Engine τ :=
  if s.kind = .sendMessage then
    match s.outcome with
    | .delivered (some id) _ =>
      { e with store := e.store.map (·.tell (.confirm s.chat s.actionId id)) }
    | .delivered none _ => e
    | _ => { e with store := e.store.map (·.tell (.markFailed s.chat s.actionId)) }
  else e

/-- Publish what the outbox has settled. -/
def publishSettled (e : Engine τ) : Engine τ :=
  let (settled, outbox) := e.outbox.takeSettled
  settled.foldl (fun e s =>
    let e := (e.reconcileEcho s).publish (.actionSettled s)
    { e with settled := e.settled ++ [s] }) { e with outbox }

/-- Send what may be sent, if the session is active. -/
def flush (e : Engine τ) (now : Instant) : Engine τ :=
  if e.session.state = .active then
    let (_, outbox, session, timers) := e.outbox.flush Session.sendFrame e.session now e.timers
    { e with outbox, session, timers }
  else e

/-- Put an action into the outbox. -/
def enqueue (e : Engine τ) (a : Action) : Outbox.Enqueued × Engine τ :=
  let (outcome, outbox, timers) := e.outbox.enqueue e.timers a
  (outcome, { e with outbox, timers })

/-- An id that was not used before. -/
def newId (e : Engine τ) : String × Engine τ :=
  let (id, ids) := e.ids.next
  (id, { e with ids })

/-- Put an intent into the outbox, under a new id. -/
def enqueueNew (e : Engine τ) (intent : Intent) (now : Instant) : Engine τ :=
  let (id, e) := e.newId
  (e.enqueue (.new id intent now)).2

/-- Note that a chat is known, and the time of a message seen there. -/
def noteChat (e : Engine τ) (chat : String) (time : Option Timestamp) : Engine τ :=
  let newest := Timestamp.later ((e.cursors.get? chat).getD none) time
  { e with cursors := e.cursors.insert chat newest }

/-- Route an event; true if it was handed out. -/
def deliver (e : Engine τ) (event : Event) (now : Instant) : Bool × Engine τ :=
  let (outcome, router, timers) := e.router.dispatch event now e.timers
  let e := { e with router, timers }
  match outcome with
  | .delivered .. =>
    let e := match event.chat, event.message? with
      | some chat, some _ => e.noteChat chat event.effectiveTime?
      | _, _ => e
    (true, e.toStore event)
  | _ => (false, e)

/-- Ask for the messages of every known chat. -/
def requestResync (e : Engine τ) : Engine τ :=
  match e.session.login with
  | some login =>
    if e.historyEnabled then
      let requests : List History.Request := e.cursors.entries.map fun (chat, since) =>
        ⟨chat, since, login.credentials.token, e.generation⟩
      { e with historyRequests := e.historyRequests ++ requests }
    else e
  | none => e

/-- Take in a frame of the server. -/
def handleInbound (e : Engine τ) (frame : Incoming) (now : Instant) : Engine τ :=
  match frame with
  | .ack ack =>
    let (known, outbox, timers) := e.outbox.acknowledge e.timers ack
    let e := { e with outbox, timers }
    if known then e.flush now else e
  | .event event => (e.deliver event now).2
  | .error code message => e.publish (.serverError code message)
  | _ => e

/-- The session changed its state. -/
def handleStateChange (e : Engine τ) (before after : Session.State) (now : Instant) : Engine τ :=
  let e := e.publish (.stateChanged before after)
  let e := if before = .active then
      let (outbox, timers) := e.outbox.disconnect e.timers
      { e with outbox, timers }
    else e
  if after = .active then
    (if 1 < e.session.activations then e.requestResync else e).flush now
  else e

/-- Take in a signal of the session. -/
def handleSignal (e : Engine τ) (signal : Session.Signal) (now : Instant) : Engine τ :=
  match signal with
  | .stateChanged before after => e.handleStateChange before after now
  | .inbound frame => e.handleInbound frame now
  | .malformed _ fault => e.publish (.malformedFrame fault.message)
  | .reconnectScheduled attempt delay => e.publish (.reconnectScheduled attempt delay.millis)
  | .connectionLost .. => e
  | .authRejected reason => e.publish (.authFailed reason)
  | .reconnectExhausted attempts => e.publish (.reconnectExhausted attempts)

/-- Take in all signals of the session. -/
def processSignals (e : Engine τ) (now : Instant) : Engine τ :=
  let (signals, session) := e.session.takeSignals
  (signals.foldl (fun e s => handleSignal e s now) { e with session }).publishSettled

/-! ## 3. What the user wants -/

/-- Log somebody in. -/
def connect (e : Engine τ) (credentials : Credentials) (now : Instant) :
    Except ClientFault (Engine τ) :=
  match e.session.connect credentials now e.timers with
  | .error state => .error (.alreadyConnected state)
  | .ok (session, timers) => .ok ({ e with session, timers }.processSignals now)

/-- Nothing of the login is left, and answers to its requests are not wanted any more. -/
def endLogin (e : Engine τ) : Engine τ :=
  let (outbox, timers) := e.outbox.cancelAll e.timers
  let (router, timers) := e.router.clearTyping timers
  let (session, timers) := e.session.logout (timers.cancelWhere (·.isLocalTyping))
  { e with
    outbox, router, session, timers
    localTyping := []
    cursors := ∅
    historyRequests := []
    generation := e.generation + 1 }

/-- Log out. -/
def logout (e : Engine τ) (now : Instant) : Engine τ := e.endLogin.processSignals now

/-- The event that stands for a message of the user's own until the server brings it. -/
def echo? (e : Engine τ) (a : Action) : Option Event :=
  match a.intent with
  | .sendMessage chat content kind media reply =>
    some ⟨none, some chat, .message { Message.plain content with
      sender := e.session.login.map (·.credentials.user)
      kind, media, reply
      clientId := some a.id }, none, true⟩
  | _ => none

/-- The user stops typing in a chat, if they were, since a message is sent there. -/
def stopTyping (e : Engine τ) (chat : String) (now : Instant) : Engine τ :=
  if chat ∈ e.localTyping then
    { e with
      localTyping := e.localTyping.erase chat
      timers := e.timers.cancel (.localTyping chat) }.enqueueNew (.typingStop chat) now
  else e

/-- Queue an action and send what may be sent. -/
def submit (e : Engine τ) (a : Action) (now : Instant) :
    Except ClientFault (Outbox.Enqueued × Engine τ) :=
  match a.intent.check with
  | .error f => .error (.invalidAction f)
  | .ok () =>
    let e := if a.kind = .sendMessage then e.stopTyping a.chat now else e
    let echo := e.echo? a
    let (outcome, e) := (e.noteChat a.chat none).enqueue a
    let e := match outcome, echo with
      | .queued, some event => e.toStore event
      | _, _ => e
    .ok (outcome, (e.flush now).publishSettled)

/-- The user typed something: with the first keystroke they start to type, and some time after
the last one they stop. -/
def keystroke (e : Engine τ) (chat : String) (now : Instant) : Except ClientFault (Engine τ) :=
  match checkChat chat with
  | .error f => .error (.invalidAction f)
  | .ok () =>
    let e := if chat ∈ e.localTyping then e
      else { e with localTyping := chat :: e.localTyping }.enqueueNew (.typingStart chat) now
    let e := { e with timers := e.timers.schedule (.localTyping chat) (now + e.typingIdle) }
    .ok (e.flush now).publishSettled

/-! ## 4. What happens -/

/-- Something happened to a connection. -/
def handleEvent (e : Engine τ) (connection : ConnectionId) (event : Transport.Event)
    (now : Instant) : Engine τ :=
  let (session, timers) := e.session.handleEvent connection event now e.timers
  { e with session, timers }.processSignals now

/-- The user has not typed in a chat for some time. -/
def endLocalTyping (e : Engine τ) (chat : String) (now : Instant) : Engine τ :=
  if chat ∈ e.localTyping then
    ({ e with localTyping := e.localTyping.erase chat }.enqueueNew (.typingStop chat) now).flush now
  else e

/-- Typing indicators have run out. -/
def sweepTyping (e : Engine τ) (now : Instant) : Engine τ :=
  let (stops, router, timers) := e.router.expireTyping now e.timers
  stops.foldl toStore { e with router, timers }

/-- A deadline has passed. -/
def handleTimer (e : Engine τ) (key : Timer.Key) (now : Instant) : Engine τ :=
  match e.session.handleTimer key now e.timers with
  | some (session, timers) => { e with session, timers }.processSignals now
  | none =>
    let e := match key with
      | .action id =>
        let (outbox, timers) := e.outbox.expire e.timers id now
        { e with outbox, timers }.flush now
      | .typingSweep => e.sweepTyping now
      | .localTyping chat => e.endLocalTyping chat now
      | _ => e
    e.publishSettled

/-- Handle every deadline that has passed. -/
def handleTimers (e : Engine τ) (now : Instant) : Engine τ :=
  let (due, timers) := e.timers.drain now
  due.foldl (fun e key => handleTimer e key now) { e with timers }

/-- The messages of a chat were fetched, or could not be; an answer to an earlier login is
dropped. -/
def applyHistory (e : Engine τ) (chat : String) (generation : Nat)
    (result : Except String (List Message)) (now : Instant) : Engine τ :=
  if generation = e.generation then
    match result with
    | .ok messages =>
      (History.replay chat messages).foldl (fun e event => (e.deliver event now).2) e
    | .error reason => e.publish (.historyFailed chat reason)
  else e

/-! ## 5. Views -/

/-- The state of the session. -/
def state (e : Engine τ) : Session.State := e.session.state

/-- The earliest deadline. -/
def nextDeadline? (e : Engine τ) : Option Instant := e.timers.next?

/-- Who is typing in a chat. -/
def typingUsers (e : Engine τ) (chat : String) (now : Instant) : List String :=
  e.router.typingUsers chat now

/-- The log of a chat, if there is a store and the chat is in it. -/
def log? (e : Engine τ) (chat : String) : Option ChatLog := e.store.bind (·.log? chat)

/-- The chats that the client knows. -/
def knownChats (e : Engine τ) : List String := e.cursors.keys

/-- Subscribe to the events of a kind. -/
def subscribe (e : Engine τ) (kind : Event.Kind) : SubscriptionId × Engine τ :=
  let (id, router) := e.router.subscribe kind
  (id, { e with router })

/-- End a subscription. -/
def unsubscribe (e : Engine τ) (id : SubscriptionId) : Bool × Engine τ :=
  let (known, router) := e.router.unsubscribe id
  (known, { e with router })

/-- Subscribe to the notices. -/
def subscribeNotices (e : Engine τ) : Nat × Engine τ :=
  let (id, notices) := e.notices.subscribe
  (id, { e with notices })

/-- Read an inbox of notices and empty it. -/
def drainNotices (e : Engine τ) (inbox : Nat) : List Notice × Engine τ :=
  let (read, notices) := e.notices.drain inbox
  (read, { e with notices })

/-- Change the transport. -/
def modifyTransport (e : Engine τ) (f : τ → τ) : Engine τ :=
  { e with session := { e.session with transport := f e.session.transport } }

/-- The settlements since they were taken last, and the engine without them. -/
def takeSettled (e : Engine τ) : List Settlement × Engine τ := (e.settled, { e with settled := [] })

/-- The requests since they were taken last, and the engine without them. -/
def takeHistoryRequests (e : Engine τ) : List History.Request × Engine τ :=
  (e.historyRequests, { e with historyRequests := [] })

/-- What was handed out since it was taken last, and the engine without it. -/
def takeDeliveries (e : Engine τ) : List Router.Delivery × Engine τ :=
  let (deliveries, router) := e.router.takeDeliveries
  (deliveries, { e with router })

end Engine

end RealtimeChat
