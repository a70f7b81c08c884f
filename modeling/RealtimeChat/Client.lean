import RealtimeChat.Engine
/-!
# The client and those who use it

A client works in turns. Each turn takes one input in: a wish of a user, an event of a connection,
deadlines that have passed, a finished fetch. At its end the new state is shown to everybody, those
who wait for a settled action are told how it ended, and the fetches that were asked for start.

* `Client` -- the engine, who waits for what, and the fetches that are on their way;
* `connect`, `submit`, `shutdown` and so on -- the turns of users;
* `handleEvent`, `handleTimers`, `finishFetch` -- the other turns.
-/

namespace RealtimeChat

/-! ## 1. The data -/

/-- What a source of missed messages answers, and after what time. -/
structure History.Answer where
  delay : Duration := 0
  result : Except String (List Message) := .ok []

/-- A source of missed messages. -/
abbrev History.Source := History.Request → History.Answer

namespace Client

/-- The number of a submission; its owner waits for the outcome of the action. -/
abbrev Ticket := Nat

/-- A fetch of missed messages that is on its way. -/
structure Fetch where
  request : History.Request
  /-- When the result is there. -/
  due : Instant
  result : Except String (List Message)

/-- What the owner of a ticket is told. -/
structure Resolution where
  ticket : Ticket
  actionId : String
  result : Except ClientFault Action.Outcome

end Client

/-- A client and those who use it. -/
structure Client (τ : Type) where
  engine : Engine τ
  /-- Where missed messages are fetched from, if anywhere. -/
  source : Option History.Source
  /-- The time after which a fetch is given up. -/
  fetchTimeout : Duration
  /-- The state that everybody sees: that after the last turn. -/
  state : Session.State
  /-- Whether the client was not shut down yet. -/
  running : Bool
  /-- The tickets for the actions that are not settled yet, by the ids of the actions. -/
  waiting : OrderedMap String (List Client.Ticket)
  nextTicket : Client.Ticket
  /-- The fetches that are on their way, oldest first. -/
  fetches : List Client.Fetch
  /-- The requests that were passed to the source since they were taken last, oldest first. -/
  asked : List History.Request
  /-- The answers to tickets that were not taken yet, oldest first. -/
  resolutions : List Client.Resolution

namespace Client

variable {τ : Type} [Transport τ]

/-- A client that nobody is logged in to. -/
def new (settings : Settings) (transport : τ) (entropy : Entropy) (ids : IdSource)
    (store : Option Store) (source : Option History.Source) : Except ClientFault (Client τ) :=
  match Engine.new settings transport entropy ids with
  | .error f => .error f
  | .ok engine => .ok {
      engine := { engine with store, historyEnabled := source.isSome }
      source := source
      fetchTimeout := settings.server.connectTimeout
      state := engine.state
      running := true
      waiting := ∅
      nextTicket := 0
      fetches := []
      asked := []
      resolutions := [] }

/-! ## 2. The end of a turn -/

/-- Tell those who wait for an action how it ended. -/
def resolve (c : Client τ) (s : Settlement) : Client τ :=
  let tickets := (c.waiting.get? s.actionId).getD []
  { c with
    waiting := c.waiting.erase s.actionId
    resolutions := c.resolutions ++ tickets.map (⟨·, s.actionId, .ok s.outcome⟩) }

/-- Pass a request to a source; the fetch is given up after the timeout. -/
def startFetch (source : History.Source) (timeout : Duration) (now : Instant)
    (request : History.Request) : Fetch :=
  let answer := source request
  if answer.delay ≤ timeout then ⟨request, now + answer.delay, answer.result⟩
  else ⟨request, now + timeout, .error ("history fetch timed out after " ++ timeout.text)⟩

/-- The end of a turn: show the state, tell those who wait, start what is to be fetched. -/
def endTurn (c : Client τ) (now : Instant) : Client τ :=
  let (settled, engine) := c.engine.takeSettled
  let (requests, engine) := engine.takeHistoryRequests
  let c := settled.foldl resolve { c with engine, state := engine.state }
  match c.source with
  | none => c
  | some source => { c with
      asked := c.asked ++ requests
      fetches := c.fetches ++ requests.map (startFetch source c.fetchTimeout now) }

/-! ## 3. Turns of users -/

/-- A turn of a user. A client that was shut down has no turns any more. -/
def turn {α : Type} (c : Client τ) (now : Instant)
    (work : Client τ → Except ClientFault α × Client τ) : Except ClientFault α × Client τ :=
  if c.running then
    let (answer, c) := work c
    (answer, c.endTurn now)
  else (.error .shutdown, c)

/-- Log somebody in. -/
def connect (c : Client τ) (credentials : Credentials) (now : Instant) :
    Except ClientFault Unit × Client τ :=
  c.turn now fun c =>
    match c.engine.connect credentials now with
    | .ok engine => (.ok (), { c with engine })
    | .error f => (.error f, c)

/-- Log out; fetches that are on their way are given up. -/
def logout (c : Client τ) (now : Instant) : Except ClientFault Unit × Client τ :=
  c.turn now fun c => (.ok (), { c with engine := c.engine.logout now, fetches := [] })

/-- Submit an action. The ticket is good for its outcome; there is none for an action that was
settled before. -/
def submit (c : Client τ) (a : Action) (now : Instant) : Except ClientFault Ticket × Client τ :=
  c.turn now fun c =>
    let queued := c.engine.outbox.contains a.id
    match c.engine.submit a now with
    | .error f => (.error f, c)
    | .ok (outcome, engine) =>
      let c := { c with engine }
      if outcome = .duplicateId ∧ !queued then (.error (.duplicateAction a.id), c)
      else
        let tickets := (c.waiting.get? a.id).getD [] ++ [c.nextTicket]
        (.ok c.nextTicket, { c with
          waiting := c.waiting.insert a.id tickets
          nextTicket := c.nextTicket + 1 })

/-- Submit an intent as an action with a new id, which is returned with the ticket. -/
def send (c : Client τ) (intent : Intent) (now : Instant) :
    Except ClientFault (String × Ticket) × Client τ :=
  let (id, engine) := c.engine.newId
  let (answer, c) := { c with engine }.submit (.new id intent now) now
  (answer.map ((id, ·)), c)

/-- The user typed something in a chat. -/
def keystroke (c : Client τ) (chat : String) (now : Instant) :
    Except ClientFault Unit × Client τ :=
  c.turn now fun c =>
    match c.engine.keystroke chat now with
    | .ok engine => (.ok (), { c with engine })
    | .error f => (.error f, c)

/-- Subscribe to the events of a kind. -/
def subscribe (c : Client τ) (kind : Event.Kind) (now : Instant) :
    Except ClientFault SubscriptionId × Client τ :=
  c.turn now fun c =>
    let (id, engine) := c.engine.subscribe kind
    (.ok id, { c with engine })

/-- End a subscription. -/
def unsubscribe (c : Client τ) (id : SubscriptionId) (now : Instant) :
    Except ClientFault Unit × Client τ :=
  c.turn now fun c => (.ok (), { c with engine := (c.engine.unsubscribe id).2 })

/-- Subscribe to the notices from now on. -/
def subscribeNotices (c : Client τ) (now : Instant) : Except ClientFault Nat × Client τ :=
  c.turn now fun c =>
    let (id, engine) := c.engine.subscribeNotices
    (.ok id, { c with engine })

/-- Who is typing in a chat. -/
def typingUsers (c : Client τ) (chat : String) (now : Instant) :
    Except ClientFault (List String) × Client τ :=
  c.turn now fun c => (.ok (c.engine.typingUsers chat now), c)

/-- The log of a chat. -/
def log (c : Client τ) (chat : String) (now : Instant) :
    Except ClientFault (Option ChatLog) × Client τ :=
  c.turn now fun c => (.ok (c.engine.log? chat), c)

/-- Tell those who still wait that the client was shut down. -/
def abandon (c : Client τ) : Client τ :=
  let left := c.waiting.entries.flatMap fun (id, tickets) =>
    tickets.map fun ticket => (⟨ticket, id, .error .shutdown⟩ : Resolution)
  { c with waiting := ∅, resolutions := c.resolutions ++ left }

/-- Log out and have no more turns. -/
def shutdown (c : Client τ) (now : Instant) : Except ClientFault Unit × Client τ :=
  let (answer, c) := c.logout now
  (answer, { c.abandon with running := false, fetches := [] })

/-! ## 4. Other turns -/

/-- Something happened to a connection. -/
def handleEvent (c : Client τ) (connection : ConnectionId) (event : Transport.Event)
    (now : Instant) : Client τ :=
  { c with engine := c.engine.handleEvent connection event now }.endTurn now

/-- Deadlines have passed. -/
def handleTimers (c : Client τ) (now : Instant) : Client τ :=
  { c with engine := c.engine.handleTimers now }.endTurn now

/-- The result of a fetch is there. -/
def finishFetch (c : Client τ) (fetch : Fetch) (now : Instant) : Client τ :=
  let r := fetch.request
  { c with engine := c.engine.applyHistory r.chat r.generation fetch.result now }.endTurn now

/-! ## 5. What comes out -/

/-- The answers to tickets since they were taken last, and the client without them. -/
def takeResolutions (c : Client τ) : List Resolution × Client τ :=
  (c.resolutions, { c with resolutions := [] })

/-- The answer to a ticket, if it is there, and the client without it. -/
def takeResolution (c : Client τ) (ticket : Ticket) : Option Resolution × Client τ :=
  (c.resolutions.find? (·.ticket = ticket),
    { c with resolutions := c.resolutions.filter (·.ticket ≠ ticket) })

/-- The requests passed to the source since they were taken last, and the client without them. -/
def takeAsked (c : Client τ) : List History.Request × Client τ := (c.asked, { c with asked := [] })

/-- What was handed out to subscribers since it was taken last, and the client without it. -/
def takeDeliveries (c : Client τ) : List Router.Delivery × Client τ :=
  let (deliveries, engine) := c.engine.takeDeliveries
  (deliveries, { c with engine })

/-- Change the transport. -/
def modifyTransport (c : Client τ) (f : τ → τ) : Client τ :=
  { c with engine := c.engine.modifyTransport f }

/-- Read an inbox of notices and empty it. -/
def drainNotices (c : Client τ) (inbox : Nat) : List Notice × Client τ :=
  let (notices, engine) := c.engine.drainNotices inbox
  (notices, { c with engine })

/-- Stop reading an inbox of notices. -/
def leaveNotices (c : Client τ) (inbox : Nat) : Client τ :=
  { c with engine := { c.engine with notices := c.engine.notices.leave inbox } }

end Client

end RealtimeChat
