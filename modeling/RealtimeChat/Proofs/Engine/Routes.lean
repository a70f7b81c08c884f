import Mathlib.Data.List.Pairwise
import RealtimeChat.Proofs.Engine.Kept
import RealtimeChat.Proofs.Router.Window
/-!
# What inputs do with the router

Whatever the core of a client is told to do comes down to operations on its router. So all events
of a run can be put on record, those of the server and those from history, and the window of
delivered events can be read off that record.

* `stepRoutes` -- the operations on the router that an input comes down to;
* `routed` -- the events that were routed in a run, the newest one in front;
* `Routes`, **`step_routes`** -- every input does the operations that it comes down to;
* **`run_windowed`** -- in every run the window is in step with the record.
-/

namespace RealtimeChat.Engine

open Router (Operation Routed Run Windowed)

variable {τ : Type}

/-! ## 1. The operations -/

/-- The instant at which an input comes. -/
def Input.time? : Input τ → Option Instant
  | .connect _ now => some now
  | .logout now => some now
  | .submit _ now => some now
  | .keystroke _ now => some now
  | .event _ _ now => some now
  | .timers now => some now
  | .history _ _ _ now => some now
  | _ => none

/-- What events come down to, one after the other. -/
def eventRoutes (now : Instant) : Engine τ → List Event → List Operation
  | _, [] => []
  | e, event :: rest =>
    .dispatch event now e.timers :: eventRoutes now (e.deliver event now).2 rest

/-- What a signal of the session comes down to. -/
def signalRoutes (e : Engine τ) (now : Instant) : Session.Signal → List Operation
  | .inbound (.event event) => [.dispatch event now e.timers]
  | _ => []

variable [Transport τ]

/-- What signals of the session come down to, one after the other. -/
def signalsRoutes (now : Instant) : Engine τ → List Session.Signal → List Operation
  | _, [] => []
  | e, x :: rest => e.signalRoutes now x ++ signalsRoutes now (e.handleSignal x now) rest

/-- What the signals that nobody has taken come down to. -/
def processRoutes (e : Engine τ) (now : Instant) : List Operation :=
  signalsRoutes now { e with session := e.session.takeSignals.2 } e.session.signals

/-- What a deadline that has passed comes down to. -/
def keyRoutes (e : Engine τ) (now : Instant) (key : Timer.Key) : List Operation :=
  match e.session.handleTimer key now e.timers with
  | some (session, timers) => { e with session, timers }.processRoutes now
  | none => if key = .typingSweep then [.expireTyping now e.timers] else []

/-- What deadlines that have passed come down to, one after the other. -/
def keysRoutes (now : Instant) : Engine τ → List Timer.Key → List Operation
  | _, [] => []
  | e, key :: rest => e.keyRoutes now key ++ keysRoutes now (e.handleTimer key now) rest

/-- The operations on the router that an input comes down to. -/
def stepRoutes (e : Engine τ) : Input τ → List Operation
  | .connect credentials now =>
    match e.session.connect credentials now e.timers with
    | .ok (session, timers) => { e with session, timers }.processRoutes now
    | .error _ => []
  | .logout now =>
    .clearTyping (e.outbox.cancelAll e.timers).2 :: e.endLogin.processRoutes now
  | .event connection event now =>
    let (session, timers) := e.session.handleEvent connection event now e.timers
    { e with session, timers }.processRoutes now
  | .timers now => keysRoutes now { e with timers := (e.timers.drain now).2 } (e.timers.due now)
  | .history chat generation (.ok messages) now =>
    if generation = e.generation then eventRoutes now e (History.replay chat messages) else []
  | .takeDeliveries => [.takeDeliveries]
  | .subscribe kind => [.subscribe kind]
  | .unsubscribe id => [.unsubscribe id]
  | _ => []

/-- The events that were routed after more inputs. -/
def routed : Engine τ → List Routed → List (Input τ) → List Routed
  | _, log, [] => log
  | e, log, i :: rest =>
    routed (e.step i) ((⟨e.router, log⟩ : Run).performAll (e.stepRoutes i)).log rest

/-! ## 2. Parts of inputs -/

/-- A part of an input does these operations on the router, whatever is on record. -/
def Routes (e : Engine τ) (ops : List Operation) (e' : Engine τ) : Prop :=
  ∀ log, e'.router = ((⟨e.router, log⟩ : Run).performAll ops).router

namespace Routes

variable {e e' e'' : Engine τ} {ops ops' : List Operation}

omit [Transport τ] in
/-- The router is not touched. -/
theorem still (h : e'.router = e.router) : Routes e [] e' := fun _ => h

omit [Transport τ] in
theorem trans (h : Routes e ops e') (h' : Routes e' ops' e'') : Routes e (ops ++ ops') e'' := by
  intro log
  rw [Run.performAll_append]
  have hrun : (⟨e.router, log⟩ : Run).performAll ops =
      ⟨e'.router, ((⟨e.router, log⟩ : Run).performAll ops).log⟩ := by
    rw [h log]
  rw [hrun]
  exact h' _

omit [Transport τ] in
/-- What comes before does not touch the router. -/
theorem after (h : e'.router = e.router) (h' : Routes e' ops e'') : Routes e ops e'' :=
  (still h).trans h'

omit [Transport τ] in
/-- What comes afterwards does not touch the router. -/
theorem before (h : Routes e ops e') (h' : e''.router = e'.router) : Routes e ops e'' :=
  fun log => h'.trans (h log)

end Routes

section Parts

variable {e : Engine τ}

omit [Transport τ] in
@[simp] theorem publishSettled_router (e : Engine τ) : e.publishSettled.router = e.router := by
  obtain ⟨store, heq⟩ := e.publishSettled_eq
  rw [heq]

@[simp] theorem flush_router (e : Engine τ) (now : Instant) : (e.flush now).router = e.router := by
  unfold flush
  split <;> rfl

omit [Transport τ] in
theorem deliver_routes (event : Event) (now : Instant) :
    Routes e [.dispatch event now e.timers] (e.deliver event now).2 := by
  intro log
  show _ = (e.router.dispatch event now e.timers).2.1
  unfold deliver
  dsimp only
  repeat' split
  all_goals rfl

omit [Transport τ] in
theorem events_routes (events : List Event) (now : Instant) :
    Routes e (eventRoutes now e events)
      (events.foldl (fun e event => (e.deliver event now).2) e) := by
  induction events generalizing e with
  | nil => exact .still rfl
  | cons event rest ih => exact (deliver_routes event now).trans ih

theorem handleStateChange_router (e : Engine τ) (before after : Session.State) (now : Instant) :
    (e.handleStateChange before after now).router = e.router := by
  refine handleStateChange_rule (P := fun e' => e'.router = e.router) rfl (fun _ h => h)
    (fun e h => ?_) fun e h => (flush_router e now).trans h
  obtain ⟨historyRequests, heq⟩ := e.requestResync_eq
  rwa [heq]

theorem handleSignal_routes (x : Session.Signal) (now : Instant) :
    Routes e (e.signalRoutes now x) (e.handleSignal x now) := by
  cases x with
  | stateChanged before after => exact .still (handleStateChange_router e before after now)
  | inbound frame =>
      cases frame with
      | event event => exact deliver_routes event now
      | ack ack =>
          refine .still ?_
          simp only [handleSignal, handleInbound]
          split
          · rw [flush_router]
          · rfl
      | _ => exact .still rfl
  | _ => exact .still rfl

theorem signals_routes (signals : List Session.Signal) (now : Instant) :
    Routes e (signalsRoutes now e signals) (signals.foldl (fun e x => handleSignal e x now) e) := by
  induction signals generalizing e with
  | nil => exact .still rfl
  | cons x rest ih => exact (handleSignal_routes x now).trans ih

theorem processSignals_routes (now : Instant) :
    Routes e (e.processRoutes now) (e.processSignals now) :=
  (Routes.after rfl (signals_routes (e := { e with session := e.session.takeSignals.2 })
    e.session.signals now)).before (publishSettled_router _)

omit [Transport τ] in
theorem sweepTyping_routes (now : Instant) :
    Routes e [.expireTyping now e.timers] (e.sweepTyping now) := by
  obtain ⟨store, hsweep⟩ := e.sweepTyping_eq now
  intro log
  rw [hsweep]
  rfl

theorem handleTimer_routes (key : Timer.Key) (now : Instant) :
    Routes e (e.keyRoutes now key) (e.handleTimer key now) := by
  unfold keyRoutes handleTimer
  rcases e.session.handleTimer key now e.timers with _ | ⟨session, timers⟩
  · dsimp only
    refine Routes.before ?_ (publishSettled_router _)
    cases key with
    | action id => exact .still (flush_router _ now)
    | localTyping chat =>
        refine .still ?_
        simp only [endLocalTyping]
        split
        · rw [flush_router]
          rfl
        · rfl
    | typingSweep => exact sweepTyping_routes now
    | _ => exact .still rfl
  · exact Routes.after rfl (processSignals_routes (e := { e with session, timers }) now)

theorem keys_routes (keys : List Timer.Key) (now : Instant) :
    Routes e (keysRoutes now e keys) (keys.foldl (fun e key => handleTimer e key now) e) := by
  induction keys generalizing e with
  | nil => exact .still rfl
  | cons key rest ih => exact (handleTimer_routes key now).trans ih

/-! ## 3. Inputs -/

theorem submit_router (a : Action) (now : Instant) :
    (e.step (.submit a now)).router = e.router := by
  dsimp only [step, submit]
  cases a.intent.check with
  | error fault => rfl
  | ok _ =>
      have hstop : (if a.kind = .sendMessage then e.stopTyping a.chat now else e).router =
          e.router := by
        obtain ⟨_, _, _, _, heq⟩ := e.stopTyping_eq a now
        rw [heq]
      dsimp only
      rw [publishSettled_router, flush_router]
      split <;> exact hstop

theorem keystroke_router (chat : String) (now : Instant) :
    (e.step (.keystroke chat now)).router = e.router := by
  dsimp only [step, keystroke]
  cases checkChat chat with
  | error fault => rfl
  | ok _ =>
      dsimp only
      rw [publishSettled_router, flush_router]
      split <;> rfl

/-- **Every input does the operations that it comes down to.** -/
theorem step_routes (e : Engine τ) (i : Input τ) : Routes e (e.stepRoutes i) (e.step i) := by
  cases i with
  | connect credentials now =>
      dsimp only [stepRoutes, step, connect]
      rcases e.session.connect credentials now e.timers with state | ⟨session, timers⟩
      · exact .still rfl
      · exact Routes.after rfl (processSignals_routes (e := { e with session, timers }) now)
  | logout now =>
      have hend : Routes e [.clearTyping (e.outbox.cancelAll e.timers).2] e.endLogin := fun _ => rfl
      exact hend.trans (processSignals_routes now)
  | submit a now => exact .still (submit_router a now)
  | keystroke chat now => exact .still (keystroke_router chat now)
  | event connection event now =>
      exact Routes.after rfl (processSignals_routes (e := { e with
        session := (e.session.handleEvent connection event now e.timers).1
        timers := (e.session.handleEvent connection event now e.timers).2 }) now)
  | timers now =>
      exact Routes.after rfl (keys_routes (e := { e with timers := (e.timers.drain now).2 })
        (e.timers.due now) now)
  | history chat generation result now =>
      dsimp only [step, applyHistory]
      cases result with
      | ok messages =>
          dsimp only [stepRoutes]
          split
          · exact events_routes _ now
          · exact .still rfl
      | error reason =>
          split
          · exact .still rfl
          · exact .still rfl
  | takeDeliveries => exact fun _ => rfl
  | subscribe kind => exact fun _ => rfl
  | unsubscribe id => exact fun _ => rfl
  | _ => exact .still rfl

end Parts

/-! ## 4. The window in a run -/

/-- All events among the operations are routed at one instant. -/
def At (now : Instant) (ops : List Operation) : Prop :=
  ∀ op ∈ ops, ∀ t, op.time? = some t → t = now

section Times

variable {e : Engine τ} {now : Instant}

omit [Transport τ] in
theorem at_nil (now : Instant) : At now [] := fun _ hop => absurd hop List.not_mem_nil

omit [Transport τ] in
theorem At.append {ops ops' : List Operation} (h : At now ops) (h' : At now ops') :
    At now (ops ++ ops') := fun op hop => (List.mem_append.mp hop).elim (h op) (h' op)

omit [Transport τ] in
theorem at_singleton {op : Operation} (h : ∀ t, op.time? = some t → t = now) : At now [op] :=
  fun _ hop => List.mem_singleton.mp hop ▸ h

omit [Transport τ] in
theorem at_dispatch (event : Event) (timers : Timers) : At now [.dispatch event now timers] :=
  at_singleton fun _ ht => (Option.some.inj ht).symm

omit [Transport τ] in
theorem eventRoutes_at (events : List Event) : At now (eventRoutes now e events) := by
  induction events generalizing e with
  | nil => exact at_nil now
  | cons event rest ih => exact (at_dispatch event e.timers).append ih

omit [Transport τ] in
theorem signalRoutes_at (x : Session.Signal) : At now (e.signalRoutes now x) := by
  unfold signalRoutes
  split
  · exact at_dispatch _ e.timers
  · exact at_nil now

theorem signalsRoutes_at (signals : List Session.Signal) : At now (signalsRoutes now e signals) := by
  induction signals generalizing e with
  | nil => exact at_nil now
  | cons x rest ih => exact (signalRoutes_at x).append ih

theorem keyRoutes_at (key : Timer.Key) : At now (e.keyRoutes now key) := by
  unfold keyRoutes
  split
  · exact signalsRoutes_at _
  · split
    · exact at_singleton nofun
    · exact at_nil now

theorem keysRoutes_at (keys : List Timer.Key) : At now (keysRoutes now e keys) := by
  induction keys generalizing e with
  | nil => exact at_nil now
  | cons key rest ih => exact (keyRoutes_at key).append ih

/-- The events of an input are routed when the input comes. -/
theorem stepRoutes_at (e : Engine τ) (i : Input τ) (now : Instant) :
    At (i.time?.getD now) (e.stepRoutes i) := by
  cases i with
  | connect credentials t =>
      dsimp only [stepRoutes]
      split
      · exact signalsRoutes_at _
      · exact at_nil _
  | logout t =>
      have hclear : At t [.clearTyping (e.outbox.cancelAll e.timers).2] := at_singleton nofun
      exact hclear.append (signalsRoutes_at _)
  | event connection event t => exact signalsRoutes_at _
  | timers t => exact keysRoutes_at _
  | history chat generation result t =>
      cases result with
      | ok messages =>
          dsimp only [stepRoutes]
          split
          · exact eventRoutes_at _
          · exact at_nil _
      | error reason => exact at_nil _
  | takeDeliveries => exact at_singleton nofun
  | subscribe kind => exact at_singleton nofun
  | unsubscribe id => exact at_singleton nofun
  | _ => exact at_nil _

/-- **Every input keeps the window in step with the record.** -/
theorem step_windowed {capacity : Nat} {ttl : Duration} {log : List Routed}
    (h : Windowed capacity ttl ⟨e.router, log⟩ now) (i : Input τ)
    (hi : ∀ t, i.time? = some t → now ≤ t) :
    Windowed capacity ttl
      ⟨(e.step i).router, ((⟨e.router, log⟩ : Run).performAll (e.stepRoutes i)).log⟩
      (i.time?.getD now) := by
  have hlater : now ≤ i.time?.getD now := by
    cases ht : i.time? with
    | none => exact Nat.le_refl _
    | some t => exact hi t ht
  have hat : ∀ t ∈ (e.stepRoutes i).filterMap Operation.time? ++ [i.time?.getD now],
      t = i.time?.getD now := by
    intro t ht
    rcases List.mem_append.mp ht with ht | ht
    · obtain ⟨op, hop, htime⟩ := List.mem_filterMap.mp ht
      exact stepRoutes_at e i now op hop t htime
    · exact List.mem_singleton.mp ht
  rw [step_routes e i log]
  refine Router.performAll_windowed h _ _ (.cons (fun t ht => hat t ht ▸ hlater) ?_)
  exact List.pairwise_of_forall_mem_list fun t ht t' ht' => by rw [hat t ht, hat t' ht']

/-- **In every run the window is in step with the record**, as long as time does not run
backwards. -/
theorem run_windowed {capacity : Nat} {ttl : Duration} {log : List Routed}
    (h : Windowed capacity ttl ⟨e.router, log⟩ now) (inputs : List (Input τ)) (now' : Instant)
    (hrising : (now :: (inputs.filterMap Input.time? ++ [now'])).Pairwise (· ≤ ·)) :
    Windowed capacity ttl ⟨(e.run inputs).router, e.routed log inputs⟩ now' := by
  induction inputs generalizing e log now with
  | nil => exact h.later (List.rel_of_pairwise_cons hrising List.mem_cons_self)
  | cons i rest ih =>
      have hi := step_windowed h i
      cases ht : i.time? with
      | none =>
          rw [ht] at hi
          rw [List.filterMap_cons_none ht] at hrising
          exact ih (hi nofun) hrising
      | some t =>
          rw [List.filterMap_cons_some ht] at hrising
          rw [ht] at hi
          refine ih (hi ?_) hrising.of_cons
          rintro _ ⟨⟩
          exact List.rel_of_pairwise_cons hrising List.mem_cons_self

omit [Transport τ] in
/-- At first nothing was handed out. -/
theorem Fresh.windowed (h : e.Fresh) :
    Windowed e.router.dedup.capacity e.router.dedup.ttl ⟨e.router, []⟩ 0 := by
  refine h.rule fun settings endpoint transport entropy ids store historyEnabled => ?_
  have hstart := Router.start_windowed (.new settings.router) (max settings.router.dedupCapacity 1)
    settings.router.dedupTtl
  rw [show DedupWindow.new (max settings.router.dedupCapacity 1) settings.router.dedupTtl =
    .new settings.router.dedupCapacity settings.router.dedupTtl by simp [DedupWindow.new]] at hstart
  exact hstart

end Times

end RealtimeChat.Engine
