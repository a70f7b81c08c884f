import RealtimeChat.Router
/-!
# Runs of a router and what they leave on record

A router is worked by its operations, one after the other and in any order. On record is each event
that was routed, with the instant and what became of it; the newest one stands in front.

* `Operation`, `Run.perform` -- one operation, `Run` -- router and record;
* `delivered` -- the keys of the events that were handed out;
* `Routing`, **`dispatch_routing`** -- routing one event, with all that it changes.
-/

namespace RealtimeChat.Router

/-! ## 1. Operations -/

/-- One operation on a router. The timers may be any. -/
inductive Operation where
  | dispatch (e : Event) (now : Instant) (timers : Timers)
  | expireTyping (now : Instant) (timers : Timers)
  | clearTyping (timers : Timers)
  | subscribe (kind : Event.Kind)
  | unsubscribe (id : SubscriptionId)
  | takeDeliveries

/-- The instant at which an event is routed. -/
def Operation.time? : Operation → Option Instant
  | .dispatch _ now _ => some now
  | _ => none

/-- An event that was routed, and what became of it. -/
structure Routed where
  event : Event
  time : Instant
  outcome : Dispatched

/-- The key of an event that was handed out, and when that was. -/
def Routed.delivered? (x : Routed) : Option (Instant × String) :=
  if x.outcome = .duplicate then none else x.event.dedupKey?.map (x.time, ·)

/-- The keys of the events that were handed out. -/
def delivered (log : List Routed) : List (Instant × String) := log.filterMap Routed.delivered?

/-! ## 2. Runs -/

/-- A router in use, with what is on record. -/
structure Run where
  router : Router
  /-- The newest event stands in front. -/
  log : List Routed

namespace Run

/-- Nothing was done yet. -/
def start (r : Router) : Run := ⟨r, []⟩

/-- Perform one operation. -/
def perform (run : Run) : Operation → Run
  | .dispatch e now timers =>
    let (outcome, router, _) := run.router.dispatch e now timers
    ⟨router, ⟨e, now, outcome⟩ :: run.log⟩
  | .expireTyping now timers => { run with router := (run.router.expireTyping now timers).2.1 }
  | .clearTyping timers => { run with router := (run.router.clearTyping timers).1 }
  | .subscribe kind => { run with router := (run.router.subscribe kind).2 }
  | .unsubscribe id => { run with router := (run.router.unsubscribe id).2 }
  | .takeDeliveries => { run with router := run.router.takeDeliveries.2 }

/-- Perform operations in order. -/
def performAll (run : Run) (ops : List Operation) : Run := ops.foldl perform run

theorem performAll_append (run : Run) (ops ops' : List Operation) :
    run.performAll (ops ++ ops') = (run.performAll ops).performAll ops' :=
  List.foldl_append

/-- What is on record already makes no difference. -/
theorem performAll_eq (r : Router) (log : List Routed) (ops : List Operation) :
    (⟨r, log⟩ : Run).performAll ops = ⟨((⟨r, []⟩ : Run).performAll ops).router,
      ((⟨r, []⟩ : Run).performAll ops).log ++ log⟩ := by
  induction ops generalizing r log with
  | nil => rfl
  | cons op rest ih =>
      have hop : (⟨r, log⟩ : Run).perform op = ⟨((⟨r, []⟩ : Run).perform op).router,
          ((⟨r, []⟩ : Run).perform op).log ++ log⟩ := by
        cases op <;> rfl
      show Run.performAll ((⟨r, log⟩ : Run).perform op) rest =
        ⟨(((⟨r, []⟩ : Run).perform op).performAll rest).router,
          (((⟨r, []⟩ : Run).perform op).performAll rest).log ++ log⟩
      rw [hop, ih, ih _ ((⟨r, []⟩ : Run).perform op).log, List.append_assoc]

end Run

/-! ## 3. Routing one event -/

/-- The subscribers of an event's kind. -/
def recipients (r : Router) (e : Event) : List Subscriber := r.subscribers.filter (·.kind = e.kind)

/-- What becomes of an event: it is dropped since the window has its key, or it is handed out. -/
inductive Routing (r : Router) (e : Event) (now : Instant) (timers : Timers) :
    Dispatched × Router × Timers → Prop where
  | repeated (key : String) (dedup : DedupWindow) (hkey : e.dedupKey? = some key)
      (hinsert : r.dedup.insert key now = (false, dedup)) :
      Routing r e now timers (.duplicate, { r with dedup }, timers)
  | handed (dedup : DedupWindow) (typing : TypingTracker) (timers' : Timers)
      (hdedup : (e.dedupKey? = none ∧ dedup = r.dedup) ∨
        ∃ key, e.dedupKey? = some key ∧ r.dedup.insert key now = (true, dedup)) :
      Routing r e now timers (.delivered e.kind (r.recipients e).length,
        { r with
          dedup, typing
          deliveries := r.deliveries ++ (r.recipients e).map (⟨·.id, e⟩) }, timers')

theorem trackTyping_eq (r : Router) (e : Event) (now : Instant) (timers : Timers) :
    ∃ typing, (r.trackTyping e now timers).1 = { r with typing } := by
  unfold trackTyping
  split
  · exact ⟨_, rfl⟩
  · exact ⟨r.typing, rfl⟩

theorem dispatch_routing (r : Router) (e : Event) (now : Instant) (timers : Timers) :
    Routing r e now timers (r.dispatch e now timers) := by
  -- whoever is typing, an event that is new is handed out
  have hnew : ∀ dedup : DedupWindow,
      ((e.dedupKey? = none ∧ dedup = r.dedup) ∨
        ∃ key, e.dedupKey? = some key ∧ r.dedup.insert key now = (true, dedup)) →
      Routing r e now timers
        ((trackTyping { r with dedup } e now timers).1.deliver e |>.1,
          ((trackTyping { r with dedup } e now timers).1.deliver e).2,
          (trackTyping { r with dedup } e now timers).2) := by
    intro dedup hdedup
    obtain ⟨typing, heq⟩ := trackTyping_eq { r with dedup } e now timers
    rw [heq]
    exact .handed dedup typing _ hdedup
  unfold dispatch
  cases hkey : e.dedupKey? with
  | none => exact hnew r.dedup (.inl ⟨hkey, rfl⟩)
  | some key =>
      dsimp only
      cases hinsert : r.dedup.insert key now with
      | mk new dedup =>
          cases new with
          | false => exact .repeated key dedup hkey hinsert
          | true => exact hnew dedup (.inr ⟨key, hkey, hinsert⟩)

end RealtimeChat.Router
