import RealtimeChat.Frame.Incoming
import RealtimeChat.Router.Dedup
import RealtimeChat.Router.Typing
import RealtimeChat.Settings
import RealtimeChat.Timer
/-!
# Routing events to subscribers

An event is dropped if it was delivered before, otherwise it is handed to every subscriber of its
kind, in the order of their subscriptions. Typing events also keep the list of who is typing; when
an entry of it runs out, subscribers are told so by an event made here.

* `Router` -- the subscriptions, the window of delivered events and the typists;
* `Router.Delivery` -- one event handed to one subscriber;
* `dispatch`, `expireTyping`, `clearTyping` -- the operations.
-/

namespace RealtimeChat

/-- The number of a subscription. -/
abbrev SubscriptionId := Nat

namespace Router

/-- A subscription to the events of one kind. -/
structure Subscriber where
  id : SubscriptionId
  kind : Event.Kind
deriving DecidableEq, Repr

/-- One event handed to one subscriber. -/
structure Delivery where
  subscription : SubscriptionId
  event : Event
deriving DecidableEq

/-- What became of an event. -/
inductive Dispatched where
  | delivered (kind : Event.Kind) (subscribers : Nat)
  | duplicate
  /-- There was no event to route. -/
  | ignored
deriving DecidableEq, Repr

end Router

/-- The routing of events. -/
structure Router where
  dedup : DedupWindow
  typing : TypingTracker
  /-- The subscriptions, oldest first. -/
  subscribers : List Router.Subscriber
  nextId : SubscriptionId
  /-- What was handed out since it was taken last, oldest first. -/
  deliveries : List Router.Delivery

namespace Router

/-- A router without subscriptions. -/
def new (settings : Settings.Routing) : Router where
  dedup := .new settings.dedupCapacity settings.dedupTtl
  typing := .new settings.typingExpiry
  subscribers := []
  nextId := 1
  deliveries := []

/-! ## 1. Subscriptions -/

/-- Subscribe to the events of a kind. -/
def subscribe (r : Router) (kind : Event.Kind) : SubscriptionId × Router :=
  (r.nextId, { r with subscribers := r.subscribers ++ [⟨r.nextId, kind⟩], nextId := r.nextId + 1 })

/-- End a subscription; false if there is none of this number. -/
def unsubscribe (r : Router) (id : SubscriptionId) : Bool × Router :=
  (r.subscribers.any (·.id = id), { r with subscribers := r.subscribers.filter (·.id ≠ id) })

/-- What was handed out since it was taken last, and the router without it. -/
def takeDeliveries (r : Router) : List Delivery × Router :=
  (r.deliveries, { r with deliveries := [] })

/-! ## 2. Events -/

/-- Hand an event to the subscribers of its kind. -/
def deliver (r : Router) (e : Event) : Dispatched × Router :=
  let recipients := r.subscribers.filter (·.kind = e.kind)
  (.delivered e.kind recipients.length,
    { r with deliveries := r.deliveries ++ recipients.map (⟨·.id, e⟩) })

/-- Arm the deadline at which the next typing indicator runs out, or disarm it if there is none. -/
def scheduleSweep (r : Router) (timers : Timers) : Timers :=
  match r.typing.next? with
  | some deadline => timers.schedule .typingSweep deadline
  | none => timers.cancel .typingSweep

/-- Note who is typing. -/
def trackTyping (r : Router) (e : Event) (now : Instant) (timers : Timers) : Router × Timers :=
  match e.payload with
  | .typing user isTyping =>
    let who : Typist := ⟨e.chat.getD "", user⟩
    let typing := if isTyping then (r.typing.start who now).2 else (r.typing.stop who).2
    let r := { r with typing }
    (r, r.scheduleSweep timers)
  | _ => (r, timers)

/-- Route one event: drop it if it was delivered before, note who is typing, hand it out. -/
def dispatch (r : Router) (e : Event) (now : Instant) (timers : Timers) :
    Dispatched × Router × Timers :=
  let (new, r) := match e.dedupKey? with
    | none => (true, r)
    | some key =>
      let (new, dedup) := r.dedup.insert key now
      (new, { r with dedup })
  if new then
    let (r, timers) := r.trackTyping e now timers
    let (outcome, r) := r.deliver e
    (outcome, r, timers)
  else (.duplicate, r, timers)

/-- Route the event of a frame, if it is one. -/
def dispatchFrame (r : Router) (f : Incoming) (now : Instant) (timers : Timers) :
    Dispatched × Router × Timers :=
  match f with
  | .event e => r.dispatch e now timers
  | _ => (.ignored, r, timers)

/-- Route the event of a frame's text. -/
def dispatchText (r : Router) (text : String) (now : Instant) (timers : Timers) :
    Except Incoming.Fault (Dispatched × Router × Timers) :=
  (Incoming.decode text).map (r.dispatchFrame · now timers)

/-! ## 3. Typing indicators that run out -/

/-- The event that says that somebody stopped typing. -/
def stopEvent (who : Typist) : Event :=
  ⟨none, if who.chat.isEmpty then none else some who.chat, .typing who.user false, none, true⟩

/-- Hand out one event for each typing indicator that ran out. The events are returned. -/
def expireTyping (r : Router) (now : Instant) (timers : Timers) : List Event × Router × Timers :=
  let (expired, typing) := r.typing.expire now
  let stops := expired.map stopEvent
  let r := stops.foldl (fun r e => (r.deliver e).2) { r with typing }
  (stops, r, r.scheduleSweep timers)

/-- Who is typing in a chat. -/
def typingUsers (r : Router) (chat : String) (now : Instant) : List String :=
  r.typing.users chat now

/-- Forget who is typing. -/
def clearTyping (r : Router) (timers : Timers) : Router × Timers :=
  ({ r with typing := r.typing.clear }, timers.cancel .typingSweep)

end Router

end RealtimeChat
