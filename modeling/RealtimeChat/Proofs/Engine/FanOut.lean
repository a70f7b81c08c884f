import RealtimeChat.Proofs.Engine.Routes
import RealtimeChat.Proofs.Router.FanOut
/-!
# Subscribers and the store get what is delivered

The core of a client hands out events of the server, events from history and the ends of typing
indicators. Subscribers get them from the router and the store is told of them by the core, and also
of the echoes of queued messages. Both can be read off one list of what happened in a run. Nothing
is assumed of the store: what counts is what it is told, and not what it makes of it.

* `stepOccurrences`, `occurrences` -- what happens with an input, and in a run;
* `handovers` -- what is handed to subscribers in a run;
* `Unfolds` -- a part of an input is these occurrences;
* **`step_unfolds`** -- so is an input;
* `run_attends`, `run_handovers` -- who is subscribed after a run, and what was handed out;
* `FansOut`, **`run_fansOut`** -- what each subscription and the store get.
-/

namespace RealtimeChat

/-- What the store is told of a settlement: the echo of a message that was sent is named by the
server, or has failed. -/
def Settlement.operation? (s : Settlement) : Option ChatStore.Operation :=
  if s.kind = .sendMessage then
    match s.outcome with
    | .delivered (some id) _ => some (.confirm s.chat s.actionId id)
    | .delivered none _ => none
    | _ => some (.markFailed s.chat s.actionId)
  else none

/-- What the store is told of an occurrence. -/
def Occurrence.operation? : Occurrence → Option ChatStore.Operation
  | .handed event => some (.apply event)
  | .echoed event => some (.apply event)
  | .settled s => s.operation?
  | .subscribed .. | .unsubscribed _ => none

/-- The event that the store is to take into account. -/
def Occurrence.applied? : Occurrence → Option Event
  | .handed event => some event
  | .echoed event => some event
  | .settled _ | .subscribed .. | .unsubscribed _ => none

/-- The event that a store is told to take into account. -/
def ChatStore.Operation.event? : ChatStore.Operation → Option Event
  | .apply event => some event
  | .confirm .. | .markFailed .. => none

theorem Settlement.operation?_event? (s : Settlement) :
    s.operation?.bind ChatStore.Operation.event? = none := by
  unfold operation?
  split
  · split <;> rfl
  · rfl

/-- The events that a store is told of are those handed out and the echoes, and no others. -/
theorem Occurrence.operation?_event? (x : Occurrence) :
    x.operation?.bind ChatStore.Operation.event? = x.applied? := by
  cases x with
  | settled s => exact s.operation?_event?
  | _ => rfl

/-- A store that was told more. -/
def Store.tellAll (s : Store) (ops : List ChatStore.Operation) : Store :=
  { s with told := s.told ++ ops }

namespace Engine

open Router (Delivery fanOut attend)

variable {τ : Type}

/-! ## 1. What happens in a run -/

/-- The settlements that the list has gained. -/
def settlementsSince (e e' : Engine τ) : List Occurrence :=
  (e'.settled.drop e.settled.length).map .settled

variable [Transport τ]

/-- The echo of a message that is queued. -/
def echoes (e : Engine τ) : Input τ → List Occurrence
  | .submit a now =>
    match e.submit a now with
    | .ok (.queued, _) => (e.echo? a).toList.map .echoed
    | _ => []
  | _ => []

/-- What happens when deadlines have passed, one after the other. -/
def keysOccurrences (now : Instant) : Engine τ → List Timer.Key → List Occurrence
  | _, [] => []
  | e, key :: rest =>
    (e.router.occurrences (e.keyRoutes now key) ++ e.settlementsSince (e.handleTimer key now)) ++
      keysOccurrences now (e.handleTimer key now) rest

/-- What happens with an input. -/
def stepOccurrences (e : Engine τ) : Input τ → List Occurrence
  | .timers now =>
    keysOccurrences now { e with timers := (e.timers.drain now).2 } (e.timers.due now)
  | i => e.router.occurrences (e.stepRoutes i) ++ (e.echoes i ++ e.settlementsSince (e.step i))

/-- What happens in a run, the oldest first. -/
def occurrences : Engine τ → List (Input τ) → List Occurrence
  | _, [] => []
  | e, i :: rest => e.stepOccurrences i ++ occurrences (e.step i) rest

/-- What is handed to subscribers in a run, the oldest first: what is taken on the way, and what
waits to be taken at its end. -/
def handovers : Engine τ → List (Input τ) → List Delivery
  | e, [] => e.router.deliveries
  | e, .takeDeliveries :: rest => e.takeDeliveries.1 ++ handovers e.takeDeliveries.2 rest
  | e, i :: rest => handovers (e.step i) rest

/-! ## 2. Parts of inputs -/

omit [Transport τ] in
/-- A part of an input is these occurrences, and nobody begins or ends a subscription with it. -/
structure Unfolds (e : Engine τ) (marks : List Occurrence) (e' : Engine τ) : Prop where
  router : e.router.Unfolds marks e'.router
  store : e'.store = e.store.map (·.tellAll (marks.filterMap Occurrence.operation?))
  settled : e'.settled = e.settled ++ marks.filterMap Occurrence.settlement?

omit [Transport τ] in
theorem map_tellAll_nil (store : Option Store) : store.map (·.tellAll []) = store := by
  cases store with
  | none => rfl
  | some s => rw [Option.map_some, Store.tellAll, List.append_nil]

omit [Transport τ] in
theorem map_tellAll_append (store : Option Store) (ops ops' : List ChatStore.Operation) :
    store.map (·.tellAll (ops ++ ops')) = (store.map (·.tellAll ops)).map (·.tellAll ops') := by
  cases store with
  | none => rfl
  | some s => simp only [Option.map_some, Store.tellAll, List.append_assoc]

namespace Unfolds

variable {e e' e'' : Engine τ} {marks marks' : List Occurrence}

omit [Transport τ] in
/-- Nothing happens. -/
theorem still (hr : e'.router = e.router) (hstore : e'.store = e.store)
    (hs : e'.settled = e.settled) : Unfolds e [] e' := by
  refine ⟨hr ▸ .still rfl rfl rfl, ?_, hs.trans (List.append_nil _).symm⟩
  rw [hstore]
  exact (map_tellAll_nil _).symm

omit [Transport τ] in
theorem refl (e : Engine τ) : Unfolds e [] e := still rfl rfl rfl

omit [Transport τ] in
theorem trans (h : Unfolds e marks e') (h' : Unfolds e' marks' e'') :
    Unfolds e (marks ++ marks') e'' := by
  refine ⟨h.router.trans h'.router, ?_, ?_⟩
  · rw [h'.store, h.store, List.filterMap_append, map_tellAll_append]
  · rw [h'.settled, h.settled, List.filterMap_append, List.append_assoc]

omit [Transport τ] in
/-- Nothing happens afterwards. -/
theorem before (h : Unfolds e marks e') (h' : Unfolds e' [] e'') : Unfolds e marks e'' := by
  have hboth := h.trans h'
  rwa [List.append_nil] at hboth

omit [Transport τ] in
/-- Nothing happens before. -/
theorem after (h : Unfolds e [] e') (h' : Unfolds e' marks e'') : Unfolds e marks e'' := h.trans h'

omit [Transport τ] in
/-- One operation on the router, of which the store is told. -/
theorem of_perform {op : Router.Operation} (hop : op.Inner)
    (hr : e'.router = ((Router.Run.start e.router).perform op).router)
    (hstore : e'.store = e.store.map
      (·.tellAll ((op.occurrences e.router).filterMap Occurrence.operation?)))
    (hs : e'.settled = e.settled) : Unfolds e (e.router.occurrences [op]) e' := by
  have hone : e.router.occurrences [op] = op.occurrences e.router := List.append_nil _
  rw [hone]
  refine ⟨?_, hstore, ?_⟩
  · rw [hr]
    exact Router.perform_unfolds (.start e.router) hop
  · rw [hs, Router.Operation.occurrences_settlement, List.append_nil]

end Unfolds

omit [Transport τ] in
/-- What happens with operations on the router that follow others. -/
theorem Routes.occurrences_append {e e' : Engine τ} {ops : List Router.Operation}
    (h : Routes e ops e') (ops' : List Router.Operation) :
    e.router.occurrences (ops ++ ops') =
      e.router.occurrences ops ++ e'.router.occurrences ops' := by
  rw [Router.occurrences_append, h []]
  rfl

section Parts

variable {e : Engine τ}

omit [Transport τ] in
theorem deliver_unfolds (e : Engine τ) (event : Event) (now : Instant) :
    Unfolds e (e.router.occurrences [.dispatch event now e.timers]) (e.deliver event now).2 := by
  refine .of_perform trivial (deliver_routes event now []) ?_ ?_
  · dsimp only [Router.Operation.occurrences]
    unfold deliver
    dsimp only
    cases (e.router.dispatch event now e.timers).1 with
    | delivered kind subscribers =>
        dsimp only
        split <;> rfl
    | duplicate => exact (map_tellAll_nil _).symm
    | ignored => exact (map_tellAll_nil _).symm
  · obtain ⟨router, timers, cursors, store, heq⟩ := e.deliver_eq event now
    rw [heq]

omit [Transport τ] in
theorem events_unfolds (events : List Event) (e : Engine τ) (now : Instant) :
    Unfolds e (e.router.occurrences (eventRoutes now e events))
      (events.foldl (fun e event => (e.deliver event now).2) e) := by
  induction events generalizing e with
  | nil => exact .refl e
  | cons event rest ih =>
      show Unfolds e (e.router.occurrences ([_] ++ _)) _
      rw [(deliver_routes event now).occurrences_append]
      exact (deliver_unfolds e event now).trans (ih _)

omit [Transport τ] in
theorem sweepTyping_unfolds (e : Engine τ) (now : Instant) :
    Unfolds e (e.router.occurrences [.expireTyping now e.timers]) (e.sweepTyping now) := by
  have hstore : ∀ (events : List Event) (e : Engine τ), (events.foldl toStore e).store =
      e.store.map (·.tellAll ((events.map Occurrence.handed).filterMap
        Occurrence.operation?)) := by
    intro events
    induction events with
    | nil => exact fun _ => (map_tellAll_nil _).symm
    | cons event rest ih =>
        intro e
        rw [List.foldl_cons, ih]
        exact (map_tellAll_append e.store [.apply event] _).symm
  refine .of_perform trivial (sweepTyping_routes now []) (hstore _ _) ?_
  obtain ⟨store, heq⟩ := e.sweepTyping_eq now
  rw [heq]

omit [Transport τ] in
/-- A settlement concerns the store only. -/
theorem reconcileEcho_eq (e : Engine τ) (s : Settlement) : e.reconcileEcho s =
    { e with store := e.store.map (·.tellAll s.operation?.toList) } := by
  have hsame : ({ e with store := e.store.map (·.tellAll []) } : Engine τ) = e :=
    congrArg (fun store => { e with store }) (map_tellAll_nil _)
  unfold reconcileEcho Settlement.operation?
  by_cases hkind : s.kind = .sendMessage
  · rw [if_pos hkind, if_pos hkind]
    cases s.outcome with
    | delivered messageId duplicate =>
        cases messageId with
        | some id => rfl
        | none => exact hsame.symm
    | _ => rfl
  · rw [if_neg hkind, if_neg hkind]
    exact hsame.symm

omit [Transport τ] in
/-- What is published of settlements goes into the store, one after the other. -/
theorem publishSettled_unfolds (e : Engine τ) :
    Unfolds e (e.outbox.settled.map .settled) e.publishSettled := by
  have along : ∀ (l : List Settlement) (e : Engine τ), Unfolds e (l.map .settled)
      (l.foldl (fun e s =>
        { (e.reconcileEcho s).publish (.actionSettled s) with
          settled := ((e.reconcileEcho s).publish (.actionSettled s)).settled ++ [s] }) e) := by
    intro l
    induction l with
    | nil => exact .refl
    | cons s rest ih =>
        intro e
        have hfirst : Unfolds e [.settled s]
            { (e.reconcileEcho s).publish (.actionSettled s) with
              settled := ((e.reconcileEcho s).publish (.actionSettled s)).settled ++ [s] } := by
          rw [reconcileEcho_eq]
          refine ⟨⟨?_, rfl, rfl, (List.append_nil _).symm⟩, ?_, rfl⟩
          · exact List.forall_mem_singleton.mpr trivial
          · show e.store.map _ = e.store.map _
            cases hop : s.operation? <;> simp [Occurrence.operation?, hop]
        exact hfirst.trans (ih _)
  have htaken : Unfolds e [] { e with outbox := e.outbox.takeSettled.2 } := .still rfl rfl rfl
  exact htaken.after (along e.outbox.settled _)

omit [Transport τ] in
/-- After something of which nothing settles, what settles is what the list gains. -/
theorem Unfolds.published {e e' : Engine τ} {marks : List Occurrence} (h : Unfolds e marks e')
    (hmarks : marks.filterMap Occurrence.settlement? = []) :
    Unfolds e (marks ++ e.settlementsSince e'.publishSettled) e'.publishSettled := by
  have hpublished := publishSettled_unfolds e'
  have hback : (e'.outbox.settled.map Occurrence.settled).filterMap Occurrence.settlement? =
      e'.outbox.settled := by
    rw [List.filterMap_map]
    exact List.filterMap_some
  have hgained : e'.publishSettled.settled = e.settled ++ e'.outbox.settled := by
    rw [hpublished.settled, hback, h.settled, hmarks, List.append_nil]
  have hsince : e.settlementsSince e'.publishSettled = e'.outbox.settled.map .settled := by
    rw [settlementsSince, hgained, List.drop_left]
  rw [hsince]
  exact h.trans hpublished

theorem flush_unfolds (e : Engine τ) (now : Instant) : Unfolds e [] (e.flush now) := by
  unfold flush
  split
  · exact .still rfl rfl rfl
  · exact .refl e

theorem handleSignal_unfolds (e : Engine τ) (x : Session.Signal) (now : Instant) :
    Unfolds e (e.router.occurrences (e.signalRoutes now x)) (e.handleSignal x now) := by
  cases x with
  | stateChanged before after =>
      have hstill : Unfolds e [] (e.publish (.stateChanged before after)) := .still rfl rfl rfl
      refine handleStateChange_rule hstill (fun e' h => h.before (.still rfl rfl rfl))
        (fun e' h => h.before ?_) fun e' h => h.before (flush_unfolds e' now)
      obtain ⟨historyRequests, heq⟩ := e'.requestResync_eq
      rw [heq]
      exact .still rfl rfl rfl
  | inbound frame =>
      cases frame with
      | event event => exact deliver_unfolds e event now
      | ack ack =>
          have hacked : Unfolds e [] { e with
              outbox := (e.outbox.acknowledge e.timers ack).2.1
              timers := (e.outbox.acknowledge e.timers ack).2.2 } := .still rfl rfl rfl
          show Unfolds e [] _
          simp only [handleSignal, handleInbound]
          split
          · exact hacked.before (flush_unfolds _ now)
          · exact hacked
      | error code message => exact .still rfl rfl rfl
      | _ => exact .refl e
  | connectionLost id reason => exact .refl e
  | _ => exact .still rfl rfl rfl

theorem signals_unfolds (signals : List Session.Signal) (e : Engine τ) (now : Instant) :
    Unfolds e (e.router.occurrences (signalsRoutes now e signals))
      (signals.foldl (fun e x => handleSignal e x now) e) := by
  induction signals generalizing e with
  | nil => exact .refl e
  | cons x rest ih =>
      rw [signalsRoutes, (handleSignal_routes x now).occurrences_append]
      exact (handleSignal_unfolds e x now).trans (ih _)

omit [Transport τ] in
theorem occurrences_settlement (r : Router) (ops : List Router.Operation) :
    (r.occurrences ops).filterMap Occurrence.settlement? = [] := by
  induction ops generalizing r with
  | nil => rfl
  | cons op rest ih =>
      rw [Router.occurrences, List.filterMap_append, ih, Router.Operation.occurrences_settlement]
      rfl

theorem processSignals_unfolds (e : Engine τ) (now : Instant) :
    Unfolds e (e.router.occurrences (e.processRoutes now) ++
      e.settlementsSince (e.processSignals now)) (e.processSignals now) := by
  have htaken : Unfolds e [] { e with session := e.session.takeSignals.2 } := .still rfl rfl rfl
  have hsignals := signals_unfolds e.session.signals
    { e with session := e.session.takeSignals.2 } now
  exact (htaken.after hsignals).published (occurrences_settlement _ _)

theorem handleTimer_unfolds (e : Engine τ) (key : Timer.Key) (now : Instant) :
    Unfolds e (e.router.occurrences (e.keyRoutes now key) ++
      e.settlementsSince (e.handleTimer key now)) (e.handleTimer key now) := by
  unfold keyRoutes handleTimer
  cases e.session.handleTimer key now e.timers with
  | some answer =>
      have hturned : Unfolds e [] { e with session := answer.1, timers := answer.2 } :=
        .still rfl rfl rfl
      exact hturned.after (processSignals_unfolds _ now)
  | none =>
      dsimp only
      refine Unfolds.published ?_ (occurrences_settlement _ _)
      cases key with
      | typingSweep => exact sweepTyping_unfolds e now
      | action id =>
          have hexpired : Unfolds e [] { e with
              outbox := (e.outbox.expire e.timers id now).1
              timers := (e.outbox.expire e.timers id now).2 } := .still rfl rfl rfl
          exact hexpired.before (flush_unfolds _ now)
      | localTyping chat =>
          show Unfolds e [] (e.endLocalTyping chat now)
          unfold endLocalTyping
          split
          · have hended : Unfolds e [] ({ e with
                localTyping := e.localTyping.erase chat }.enqueueNew (.typingStop chat) now) :=
              .still rfl rfl rfl
            exact hended.before (flush_unfolds _ now)
          · exact .refl e
      | handshake | reconnect | heartbeat | liveness => exact .refl e

theorem keys_unfolds (keys : List Timer.Key) (e : Engine τ) (now : Instant) :
    Unfolds e (keysOccurrences now e keys)
      (keys.foldl (fun e key => handleTimer e key now) e) := by
  induction keys generalizing e with
  | nil => exact .refl e
  | cons key rest ih => exact (handleTimer_unfolds e key now).trans (ih _)

end Parts

/-! ## 3. Inputs -/

section Inputs

omit [Transport τ] in
theorem settlementsSince_eq_nil {e e' : Engine τ} (h : e'.settled = e.settled) :
    e.settlementsSince e' = [] := by
  rw [settlementsSince, h, List.drop_length]
  rfl

omit [Transport τ] in
/-- Something with which nothing settles. -/
theorem Unfolds.unsettled {e e' : Engine τ} {marks : List Occurrence} (h : Unfolds e marks e')
    (hs : e'.settled = e.settled) : Unfolds e (marks ++ ([] ++ e.settlementsSince e')) e' := by
  rw [settlementsSince_eq_nil hs, List.append_nil, List.append_nil]
  exact h

omit [Transport τ] in
/-- Nothing happens and nothing settles. -/
theorem Unfolds.idle {e e' : Engine τ} (hr : e'.router = e.router) (hstore : e'.store = e.store)
    (hs : e'.settled = e.settled) : Unfolds e ([] ++ ([] ++ e.settlementsSince e')) e' :=
  (still hr hstore hs).unsettled hs

omit [Transport τ] in
theorem toStore_unfolds (e : Engine τ) (event : Event) :
    Unfolds e [.echoed event] (e.toStore event) :=
  ⟨⟨List.forall_mem_singleton.mpr trivial, rfl, rfl, (List.append_nil _).symm⟩, rfl,
    (List.append_nil _).symm⟩

theorem submit_unfolds (e : Engine τ) (a : Action) (now : Instant) :
    Unfolds e (e.stepOccurrences (.submit a now)) (e.step (.submit a now)) := by
  show Unfolds e (e.echoes (.submit a now) ++ e.settlementsSince (e.step (.submit a now))) _
  dsimp only [echoes, step, submit]
  cases a.intent.check with
  | error fault =>
      rw [settlementsSince_eq_nil rfl]
      exact .refl e
  | ok _ =>
      dsimp only
      have hstopped : Unfolds e []
          (if a.kind = .sendMessage then e.stopTyping a.chat now else e) := by
        obtain ⟨_, _, _, _, heq⟩ := e.stopTyping_eq a now
        rw [heq]
        exact .still rfl rfl rfl
      have hecho : (if a.kind = .sendMessage then e.stopTyping a.chat now else e).echo? a =
          e.echo? a := by
        obtain ⟨_, _, _, _, heq⟩ := e.stopTyping_eq a now
        rw [heq]
        rfl
      rw [hecho]
      generalize (if a.kind = .sendMessage then e.stopTyping a.chat now else e) = stopped at *
      have hqueued : Unfolds e [] ((stopped.noteChat a.chat none).enqueue a).2 :=
        hstopped.before (.still rfl rfl rfl)
      generalize (stopped.noteChat a.chat none).enqueue a = answer at *
      obtain ⟨outcome, queued⟩ := answer
      have hdone : ∀ {marks : List Occurrence} {echoed : Engine τ}, Unfolds queued marks echoed →
          marks.filterMap Occurrence.settlement? = [] →
          Unfolds e (marks ++ e.settlementsSince (echoed.flush now).publishSettled)
            (echoed.flush now).publishSettled := fun hechoed hnone =>
        ((hqueued.after hechoed).before (flush_unfolds _ now)).published hnone
      -- the echo goes into the store if the action was queued and has one
      cases outcome with
      | queued =>
          cases e.echo? a with
          | none => exact hdone (.refl queued) rfl
          | some event => exact hdone (toStore_unfolds queued event) rfl
      | _ => exact hdone (.refl queued) rfl

theorem keystroke_unfolds (e : Engine τ) (chat : String) (now : Instant) :
    Unfolds e (e.stepOccurrences (.keystroke chat now)) (e.step (.keystroke chat now)) := by
  show Unfolds e ([] ++ e.settlementsSince (e.step (.keystroke chat now))) _
  dsimp only [step, keystroke]
  cases checkChat chat with
  | error fault =>
      rw [settlementsSince_eq_nil rfl]
      exact .refl e
  | ok _ =>
      dsimp only
      refine Unfolds.published (Unfolds.before ?_ (flush_unfolds _ now)) rfl
      split <;> exact .still rfl rfl rfl

theorem logout_unfolds (e : Engine τ) (now : Instant) :
    Unfolds e (e.stepOccurrences (.logout now)) (e.step (.logout now)) := by
  have hend : Routes e [.clearTyping (e.outbox.cancelAll e.timers).2] e.endLogin := fun _ => rfl
  have hended : Unfolds e (e.router.occurrences [.clearTyping (e.outbox.cancelAll e.timers).2])
      e.endLogin := .of_perform trivial rfl (map_tellAll_nil _).symm rfl
  have hroutes : e.router.occurrences (e.stepRoutes (.logout now)) =
      e.endLogin.router.occurrences (e.endLogin.processRoutes now) :=
    hend.occurrences_append (e.endLogin.processRoutes now)
  show Unfolds e (e.router.occurrences (e.stepRoutes (.logout now)) ++ _) _
  rw [hroutes]
  exact hended.after (processSignals_unfolds e.endLogin now)

theorem history_unfolds (e : Engine τ) (chat : String) (generation : Nat)
    (result : Except String (List Message)) (now : Instant) :
    Unfolds e (e.stepOccurrences (.history chat generation result now))
      (e.step (.history chat generation result now)) := by
  show Unfolds e (e.router.occurrences (e.stepRoutes (.history chat generation result now)) ++ _)
    (e.applyHistory chat generation result now)
  unfold applyHistory
  cases result with
  | ok messages =>
      have hsettled : ∀ events : List Event,
          (events.foldl (fun e event => (e.deliver event now).2) e).settled = e.settled := by
        intro events
        obtain ⟨_, _, _, _, heq⟩ := e.deliverAll_eq events now
        rw [heq]
      dsimp only [stepRoutes, step, applyHistory]
      split
      · exact (events_unfolds _ e now).unsettled (hsettled _)
      · exact (Unfolds.refl e).unsettled rfl
  | error reason =>
      dsimp only [stepRoutes, step, applyHistory]
      split
      · exact .idle rfl rfl rfl
      · exact (Unfolds.refl e).unsettled rfl

/-- The user takes out what waits to be taken, or begins or ends a subscription. -/
def Input.Aside : Input τ → Prop
  | .takeDeliveries | .takeSettled | .subscribe _ | .unsubscribe _ => True
  | _ => False

/-- **An input is its occurrences**, as far as subscribers and the store are concerned. -/
theorem step_unfolds (e : Engine τ) {i : Input τ} (hi : ¬ i.Aside) :
    Unfolds e (e.stepOccurrences i) (e.step i) := by
  cases i with
  | connect credentials now =>
      show Unfolds e (e.router.occurrences (e.stepRoutes (.connect credentials now)) ++ _) _
      dsimp only [stepRoutes, step, connect]
      cases e.session.connect credentials now e.timers with
      | ok answer =>
          have hturned : Unfolds e [] { e with session := answer.1, timers := answer.2 } :=
            .still rfl rfl rfl
          exact hturned.after (processSignals_unfolds _ now)
      | error state => exact (Unfolds.refl e).unsettled rfl
  | logout now => exact logout_unfolds e now
  | submit a now => exact submit_unfolds e a now
  | keystroke chat now => exact keystroke_unfolds e chat now
  | event connection event now =>
      have hheard : Unfolds e [] { e with
          session := (e.session.handleEvent connection event now e.timers).1
          timers := (e.session.handleEvent connection event now e.timers).2 } := .still rfl rfl rfl
      exact hheard.after (processSignals_unfolds _ now)
  | timers now =>
      have hdrained : Unfolds e [] { e with timers := (e.timers.drain now).2 } := .still rfl rfl rfl
      exact hdrained.after (keys_unfolds _ _ now)
  | history chat generation result now => exact history_unfolds e chat generation result now
  | takeSettled | takeDeliveries | subscribe _ | unsubscribe _ => exact absurd trivial hi
  | takeHistoryRequests | listen | hear _ | transport _ => exact .idle rfl rfl rfl

/-- What is done aside is what it comes down to for the router. -/
theorem aside_occurrences (e : Engine τ) {i : Input τ} (hi : i.Aside) :
    e.stepOccurrences i = e.router.occurrences (e.stepRoutes i) := by
  have hnothing : e.echoes i ++ e.settlementsSince (e.step i) = [] := by
    cases i with
    | takeSettled => exact congrArg (List.map _) List.drop_nil
    | takeDeliveries | subscribe _ | unsubscribe _ => exact settlementsSince_eq_nil rfl
    | _ => exact hi.elim
  cases i with
  | takeSettled | takeDeliveries | subscribe _ | unsubscribe _ =>
      show _ ++ (_ ++ _) = _
      rw [hnothing, List.append_nil]
  | _ => exact hi.elim

/-- To take out what waits to be taken is nothing that happens. -/
theorem takeDeliveries_occurrences (e : Engine τ) : e.stepOccurrences .takeDeliveries = [] :=
  aside_occurrences e trivial

theorem subscribe_occurrences (e : Engine τ) (kind : Event.Kind) :
    e.stepOccurrences (.subscribe kind) = [.subscribed (e.subscribe kind).1 kind] :=
  aside_occurrences e trivial

end Inputs

/-! ## 4. Runs -/

section Runs

/-- The number that a subscription gets with an input. -/
def begins? (e : Engine τ) : Input τ → Option SubscriptionId
  | .subscribe kind => some (e.subscribe kind).1
  | _ => none

/-- The numbers that subscriptions get in a run, the oldest first. -/
def subscriptions : Engine τ → List (Input τ) → List SubscriptionId
  | _, [] => []
  | e, i :: rest => (e.begins? i).toList ++ subscriptions (e.step i) rest

/-- Who is subscribed, which numbers were given and what the store was told is known by what
happened in between. -/
structure Attends (e : Engine τ) (ids : List SubscriptionId) (marks : List Occurrence)
    (e' : Engine τ) : Prop where
  subscribers : e'.router.subscribers = marks.foldl attend e.router.subscribers
  given : marks.filterMap Occurrence.subscription? = ids
  numbers : ids = List.range' e.router.nextId ids.length
  nextId : e'.router.nextId = e.router.nextId + ids.length
  store : e'.store = e.store.map (·.tellAll (marks.filterMap Occurrence.operation?))

omit [Transport τ] in
theorem Unfolds.attends {e e' : Engine τ} {marks : List Occurrence} (h : Unfolds e marks e') :
    Attends e [] marks e' where
  subscribers := h.router.subscribers.trans (Router.attends_quiet h.router.quiet _).symm
  given := List.filterMap_eq_nil_iff.mpr fun x hx => (h.router.quiet x hx).subscription?
  numbers := rfl
  nextId := h.router.nextId
  store := h.store

omit [Transport τ] in
theorem Attends.trans {e e' e'' : Engine τ} {ids ids' : List SubscriptionId}
    {marks marks' : List Occurrence} (h : Attends e ids marks e')
    (h' : Attends e' ids' marks' e'') : Attends e (ids ++ ids') (marks ++ marks') e'' where
  subscribers := by rw [h'.subscribers, h.subscribers, List.foldl_append]
  given := by rw [List.filterMap_append, h.given, h'.given]
  numbers := by
    rw [List.length_append, ← List.range'_append_1, ← h.numbers, ← h.nextId, ← h'.numbers]
  nextId := by rw [h'.nextId, h.nextId, List.length_append, Nat.add_assoc]
  store := by rw [h'.store, h.store, List.filterMap_append, map_tellAll_append]

theorem step_attends (e : Engine τ) (i : Input τ) :
    Attends e (e.begins? i).toList (e.stepOccurrences i) (e.step i) := by
  by_cases hi : i.Aside
  · rw [aside_occurrences e hi]
    cases i with
    | takeDeliveries | takeSettled | subscribe _ | unsubscribe _ =>
        exact ⟨rfl, rfl, rfl, rfl, (map_tellAll_nil _).symm⟩
    | _ => exact hi.elim
  · have hnone : e.begins? i = none := by
      cases i with
      | subscribe kind => exact absurd trivial hi
      | _ => rfl
    rw [hnone]
    exact (step_unfolds e hi).attends

/-- **Who is subscribed after a run, and what the store was told**, is known by what happened in
it. -/
theorem run_attends (e : Engine τ) (inputs : List (Input τ)) :
    Attends e (e.subscriptions inputs) (e.occurrences inputs) (e.run inputs) := by
  induction inputs generalizing e with
  | nil => exact (Unfolds.refl e).attends
  | cons i rest ih => exact (step_attends e i).trans (ih (e.step i))

/-- No number is given twice. -/
theorem subscriptions_nodup (e : Engine τ) (inputs : List (Input τ)) :
    (e.subscriptions inputs).Nodup := by
  rw [(run_attends e inputs).numbers]
  exact List.nodup_range'

theorem step_unsubscribed (e : Engine τ) (i : Input τ) (id : SubscriptionId) :
    .unsubscribed id ∈ e.stepOccurrences i ↔ .unsubscribe id = i := by
  by_cases hi : i.Aside
  · rw [aside_occurrences e hi]
    cases i with
    | takeDeliveries | takeSettled | subscribe _ | unsubscribe _ =>
        simp [stepRoutes, Router.occurrences, Router.Operation.occurrences]
    | _ => exact hi.elim
  · refine iff_of_false (fun hmem => (step_unfolds e hi).router.quiet _ hmem) ?_
    rintro rfl
    exact hi trivial

/-- A subscription ends with the input that ends it, and with no other one. -/
theorem unsubscribed_mem_iff (e : Engine τ) (inputs : List (Input τ)) (id : SubscriptionId) :
    .unsubscribed id ∈ e.occurrences inputs ↔ .unsubscribe id ∈ inputs := by
  induction inputs generalizing e with
  | nil => exact iff_of_false List.not_mem_nil List.not_mem_nil
  | cons i rest ih =>
      rw [occurrences, List.mem_append, step_unsubscribed, ih, List.mem_cons]

theorem step_deliveries (e : Engine τ) {i : Input τ} (hi : i ≠ .takeDeliveries) :
    (e.step i).router.deliveries =
      e.router.deliveries ++ fanOut e.router.subscribers (e.stepOccurrences i) := by
  by_cases haside : i.Aside
  · rw [aside_occurrences e haside]
    cases i with
    | takeDeliveries => exact absurd rfl hi
    | takeSettled | subscribe _ | unsubscribe _ => exact (List.append_nil _).symm
    | _ => exact haside.elim
  · exact (step_unfolds e haside).router.deliveries

/-- **So is what was handed to subscribers.** -/
theorem run_handovers (e : Engine τ) (inputs : List (Input τ)) : e.handovers inputs =
    e.router.deliveries ++ fanOut e.router.subscribers (e.occurrences inputs) := by
  induction inputs generalizing e with
  | nil => exact (List.append_nil _).symm
  | cons i rest ih =>
      rw [occurrences, Router.fanOut_append, ← (step_attends e i).subscribers]
      by_cases hi : i = .takeDeliveries
      · subst hi
        rw [handovers, ih, takeDeliveries_occurrences]
        rfl
      · have hstep : e.handovers (i :: rest) = (e.step i).handovers rest := by
          cases i with
          | takeDeliveries => exact absurd rfl hi
          | _ => rfl
        rw [hstep, ih, step_deliveries e hi, List.append_assoc]

theorem occurrences_append (e : Engine τ) (before after : List (Input τ)) :
    e.occurrences (before ++ after) = e.occurrences before ++ (e.run before).occurrences after := by
  induction before generalizing e with
  | nil => rfl
  | cons i rest ih =>
      rw [List.cons_append, occurrences, ih, occurrences, List.append_assoc]
      rfl

/-- What happens in a run in which a subscription begins. -/
theorem occurrences_begun (e : Engine τ) (before : List (Input τ)) (kind : Event.Kind)
    (after : List (Input τ)) : e.occurrences (before ++ .subscribe kind :: after) =
      e.occurrences before ++ .subscribed ((e.run before).subscribe kind).1 kind ::
        ((e.run before).subscribe kind).2.occurrences after := by
  rw [occurrences_append, occurrences, subscribe_occurrences]
  rfl

omit [Transport τ] in
/-- To end a subscription tells whether there is one of this number. -/
theorem unsubscribe_iff (e : Engine τ) (id : SubscriptionId) :
    (e.unsubscribe id).1 = true ↔ e.router.subscribers.filter (·.id = id) ≠ [] := by
  show e.router.subscribers.any (·.id = id) = true ↔ _
  simp [List.filter_eq_nil_iff]

/-- What subscribers and the store get in a run. -/
structure FansOut (e : Engine τ) (inputs : List (Input τ)) : Prop where
  /-- A subscription gets the events of its kind that are handed out from its beginning to its end,
  once each and in order. -/
  heard : ∀ before kind after, inputs = before ++ .subscribe kind :: after →
    (e.handovers inputs).filterMap (Delivery.toward? ((e.run before).subscribe kind).1) =
      Router.heard ((e.run before).subscribe kind).1 kind
        (((e.run before).subscribe kind).2.occurrences after)
  /-- Nobody else gets anything. -/
  nobody : ∀ d ∈ e.handovers inputs, d.subscription ∈ e.subscriptions inputs
  /-- No number is given to two subscriptions. -/
  numbers : (e.subscriptions inputs).Nodup
  /-- To end a subscription is answered with true until it is ended, and never again. -/
  ended : ∀ before kind after, inputs = before ++ .subscribe kind :: after →
    (((e.run inputs).unsubscribe ((e.run before).subscribe kind).1).1 = true ↔
      .unsubscribe ((e.run before).subscribe kind).1 ∉ after)
  /-- For a number that was not given it is answered with false. -/
  unknown : ∀ id ∉ e.subscriptions inputs, ((e.run inputs).unsubscribe id).1 = false
  /-- A store of any kind is told of every event that is handed out, of whatever kind, and of the
  echo of every message that is queued, in the order in which this happens, and in between of what
  has settled; it is told of nothing else, and goes on answering by what it was told. -/
  store : (e.run inputs).store = e.store.map fun s =>
    { s with told := s.told ++ (e.occurrences inputs).filterMap Occurrence.operation? }
  /-- So the events that it is told of are exactly those, once each and in this order. -/
  told : ∀ s s', e.store = some s → (e.run inputs).store = some s' →
    s'.told.filterMap ChatStore.Operation.event? =
      s.told.filterMap ChatStore.Operation.event? ++
        (e.occurrences inputs).filterMap Occurrence.applied?
  /-- The store that keeps the logs of all chats shows what these operations make of them. -/
  kept : e.store = some .memory → ∀ chat, (e.run inputs).log? chat =
    (ChatStore.run ((e.occurrences inputs).filterMap Occurrence.operation?)).log? chat

/-- **Everything that is delivered reaches everybody who waits for it**, and the store. -/
theorem run_fansOut {e : Engine τ} (he : e.Fresh) (inputs : List (Input τ)) :
    e.FansOut inputs := by
  have hattends := run_attends e inputs
  have hhandovers := run_handovers e inputs
  obtain ⟨hsubscribers, hdeliveries⟩ : e.router.subscribers = [] ∧ e.router.deliveries = [] :=
    he.rule fun _ _ _ _ _ _ _ => ⟨rfl, rfl⟩
  rw [hsubscribers, hdeliveries, List.nil_append] at hhandovers
  have hstanding := hattends.subscribers
  rw [hsubscribers] at hstanding
  have hnumbers : ((e.occurrences inputs).filterMap Occurrence.subscription?).Nodup := by
    rw [hattends.given]
    exact subscriptions_nodup e inputs
  refine ⟨?_, ?_, subscriptions_nodup e inputs, ?_, ?_, hattends.store, ?_, fun hmemory chat => ?_⟩
  · rintro before kind after rfl
    rw [occurrences_begun] at hnumbers hhandovers
    rw [hhandovers]
    exact Router.fanOut_begun hnumbers
  · intro d hd
    rw [hhandovers] at hd
    rw [← hattends.given]
    exact Router.mem_fanOut hd
  · rintro before kind after rfl
    rw [occurrences_begun] at hnumbers hstanding
    rw [unsubscribe_iff, hstanding, Router.attends_begun hnumbers,
      ← unsubscribed_mem_iff ((e.run before).subscribe kind).2]
    simp
  · intro id hid
    rw [← Bool.not_eq_true, unsubscribe_iff, not_not, hstanding]
    refine Router.filter_attends (fun x hx heq => hid ?_) rfl
    rw [← hattends.given]
    exact List.mem_filterMap.mpr ⟨x, hx, heq⟩
  · intro s s' hs hs'
    have htold := hattends.store
    rw [hs, hs', Option.map_some, Option.some_inj] at htold
    rw [htold, Store.tellAll, List.filterMap_append, List.filterMap_filterMap]
    exact congrArg _ (List.filterMap_congr fun x _ => x.operation?_event?)
  · rw [log?, hattends.store, hmemory]
    rfl

/-- A message comes live and then again from history, where another one comes too, and somebody is
typing. A subscription ends and a second one begins, and history brings a third message. -/
def resubscribing : List (Input MemoryTransport) :=
  let message := fun id => { Message.plain "text" with id := some id }
  [.subscribe .message, .connect ⟨"u1", "t1"⟩ 0, .event 1 .opened 1,
    .event 1 (.frame "\x7b\"type\": \"auth_ok\"\x7d") 2,
    .submit (.new "a1" (.text "42" "text") 2) 2,
    .event 1 (.frame ("\x7b\"type\": \"message\", \"chatId\": \"42\", " ++
      "\"message\": \x7b\"id\": \"m1\", \"content\": \"text\"\x7d\x7d")) 3,
    .takeDeliveries,
    .event 1 (.frame "\x7b\"type\": \"typing\", \"chatId\": \"42\", \"userId\": \"u2\"\x7d") 3,
    .history "42" 0 (.ok [message "m1", message "m2"]) 4, .unsubscribe 1,
    .subscribe .message, .history "42" 0 (.ok [message "m3"]) 5]

/-- The store is told of the echo and of the typing as well. -/
theorem run_fansOut_resubscribed : ∃ e : Engine MemoryTransport, e.Fresh ∧
    (e.handovers resubscribing).map (fun d => (d.subscription, d.event.message?.bind (·.id))) =
      [(1, some "m1"), (1, some "m2"), (2, some "m3")] ∧
    (e.run resubscribing).store.map (fun s => (s.told.filterMap ChatStore.Operation.event?).map
      fun event => (event.kind, event.message?.bind (·.id))) =
        some [(.message, none), (.message, some "m1"), (.typing, none), (.message, some "m2"),
          (.message, some "m3")] ∧
    e.FansOut resubscribing := by
  have ⟨e, hnew, hhandovers, htold⟩ := exists_new_of
    { server := { wsUrl := some "wss://chat.example" } } ({} : MemoryTransport)
    ⟨UInt64.ofNat, 0⟩ ⟨Nat.repr, 0⟩
    (fun e => (handovers { e with store := some .memory } resubscribing).map
        (fun d => (d.subscription, d.event.message?.bind (·.id))) =
          [(1, some "m1"), (1, some "m2"), (2, some "m3")] ∧
      (run { e with store := some .memory } resubscribing).store.map
        (fun s => (s.told.filterMap ChatStore.Operation.event?).map
          fun event => (event.kind, event.message?.bind (·.id))) =
            some [(.message, none), (.message, some "m1"), (.typing, none), (.message, some "m2"),
              (.message, some "m3")]) (by decide +kernel)
  have hfresh : Fresh { e with store := some .memory } :=
    ⟨_, _, _, _, e, some .memory, e.historyEnabled, hnew, rfl⟩
  exact ⟨_, hfresh, hhandovers, htold, run_fansOut hfresh _⟩

end Runs

end Engine

end RealtimeChat
