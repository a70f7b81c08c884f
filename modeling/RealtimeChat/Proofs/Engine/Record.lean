import RealtimeChat.Proofs.Engine.Run
import RealtimeChat.Proofs.Session.Record
/-!
# The core of a client on record

The core of a client does the same on a transport that keeps a record of what is done with it as on
the transport alone. So the record of any input can be had by taking the input on record.

* `onRecord`, `bare` -- the same core with a record that is empty, and with the record taken off;
* `called` -- what an input does with the transport;
* **`step_bare`** -- keeping a record does not change what an input does;
* `enqueue_mem_stepCalls_bare` -- nor what it queues.
-/

namespace RealtimeChat.Engine

open Transport (Call Recorded)

variable {τ : Type}

/-! ## 1. Keeping a record -/

/-- The same input to a core on record. What happens to the transport otherwise is not written
down. -/
def Input.recorded : Input τ → Input (Recorded τ)
  | .connect credentials now => .connect credentials now
  | .logout now => .logout now
  | .submit a now => .submit a now
  | .keystroke chat now => .keystroke chat now
  | .event connection what now => .event connection what now
  | .timers now => .timers now
  | .history chat generation result now => .history chat generation result now
  | .takeSettled => .takeSettled
  | .takeHistoryRequests => .takeHistoryRequests
  | .takeDeliveries => .takeDeliveries
  | .subscribe kind => .subscribe kind
  | .unsubscribe id => .unsubscribe id
  | .listen => .listen
  | .hear inbox => .hear inbox
  | .transport f => .transport fun t => { t with inner := f t.inner }

/-- The core with a session on another transport. -/
def withSession {σ : Type} (e : Engine σ) (s : Session τ) : Engine τ where
  session := s
  router := e.router
  outbox := e.outbox
  timers := e.timers
  notices := e.notices
  store := e.store
  historyEnabled := e.historyEnabled
  cursors := e.cursors
  localTyping := e.localTyping
  typingIdle := e.typingIdle
  historyRequests := e.historyRequests
  generation := e.generation
  settled := e.settled
  ids := e.ids

/-- The core with the record taken off. -/
def bare (e : Engine (Recorded τ)) : Engine τ := e.withSession e.session.bare

/-- The core on a transport that keeps a record, with nothing on it yet. -/
def onRecord (e : Engine τ) : Engine (Recorded τ) := e.withSession e.session.onRecord

variable [Transport τ]

/-- What an input does with the transport, the newest call in front. -/
def called (e : Engine τ) (i : Input τ) : List Call :=
  (e.onRecord.step i.recorded).session.transport.calls

/-! ## 2. Taking off the record -/

section Bare

variable (e : Engine (Recorded τ)) (now : Instant)

omit [Transport τ] in
theorem toStore_bare (event : Event) : e.bare.toStore event = (e.toStore event).bare := rfl

omit [Transport τ] in
theorem reconcileEcho_bare (s : Settlement) :
    e.bare.reconcileEcho s = (e.reconcileEcho s).bare := by
  unfold reconcileEcho
  repeat' split
  all_goals rfl

omit [Transport τ] in
/-- What is done one by one with the record is done one by one without it. -/
theorem foldl_bare {α : Type} {f : Engine τ → α → Engine τ}
    {g : Engine (Recorded τ) → α → Engine (Recorded τ)} (h : ∀ e x, f e.bare x = (g e x).bare)
    (l : List α) : l.foldl f e.bare = (l.foldl g e).bare :=
  List.foldl_hom bare h

omit [Transport τ] in
theorem publishSettled_bare : e.bare.publishSettled = e.publishSettled.bare := by
  refine foldl_bare (g := fun e s => { (e.reconcileEcho s).publish (.actionSettled s) with
    settled := ((e.reconcileEcho s).publish (.actionSettled s)).settled ++ [s] })
    { e with outbox := e.outbox.takeSettled.2 } (fun e s => ?_) e.outbox.settled
  rw [reconcileEcho_bare]
  rfl

theorem flush_bare : e.bare.flush now = (e.flush now).bare := by
  unfold flush
  split <;> rename_i hactive
  · rw [if_pos (show e.session.state = .active from hactive)]
    have hflush : e.bare.outbox.flush Session.sendFrame e.bare.session now e.bare.timers = _ :=
      Outbox.flush_seen Session.sendFrame_bare e.outbox e.session now e.timers
    rw [hflush]
    rfl
  · rw [if_neg (show ¬ e.session.state = .active from hactive)]

omit [Transport τ] in
theorem deliver_bare (event : Event) :
    e.bare.deliver event now = ((e.deliver event now).1, (e.deliver event now).2.bare) := by
  unfold deliver
  dsimp only [bare, withSession]
  generalize e.router.dispatch event now e.timers = routed
  obtain ⟨outcome, router, timers⟩ := routed
  cases outcome with
  | delivered kind subscribers =>
      dsimp only
      split <;> rfl
  | duplicate => rfl
  | ignored => rfl

omit [Transport τ] in
theorem requestResync_bare : e.bare.requestResync = e.requestResync.bare := by
  unfold requestResync
  have hlogin : e.bare.session.login = e.session.login := rfl
  rw [hlogin]
  cases e.session.login with
  | none => rfl
  | some login =>
      dsimp only
      rw [apply_ite bare]
      rfl

theorem handleInbound_bare (frame : Incoming) :
    e.bare.handleInbound frame now = (e.handleInbound frame now).bare := by
  cases frame with
  | ack ack =>
      dsimp only [handleInbound]
      split <;> rename_i hknown
      · rw [if_pos (show (e.outbox.acknowledge e.timers ack).1 = true from hknown)]
        exact flush_bare { e with
          outbox := (e.outbox.acknowledge e.timers ack).2.1
          timers := (e.outbox.acknowledge e.timers ack).2.2 } now
      · rw [if_neg (show ¬ (e.outbox.acknowledge e.timers ack).1 = true from hknown)]
        rfl
  | event event => exact congrArg Prod.snd (deliver_bare e now event)
  | _ => rfl

theorem handleStateChange_bare (before after : Session.State) :
    e.bare.handleStateChange before after now = (e.handleStateChange before after now).bare := by
  -- whatever the end of a connection did, the new one goes on in the same way
  have hon : ∀ e : Engine (Recorded τ),
      (if after = .active then
        (if 1 < e.bare.session.activations then e.bare.requestResync else e.bare).flush now
      else e.bare) =
      (if after = .active then
        (if 1 < e.session.activations then e.requestResync else e).flush now
      else e).bare := by
    intro e
    have hactivations : e.bare.session.activations = e.session.activations := rfl
    rw [hactivations, requestResync_bare]
    repeat' split
    all_goals first | exact flush_bare _ now | rfl
  unfold handleStateChange
  by_cases hb : before = .active
  · simp only [if_pos hb]
    exact hon { e.publish (.stateChanged before after) with
      outbox := (e.outbox.disconnect e.timers).1, timers := (e.outbox.disconnect e.timers).2 }
  · simp only [if_neg hb]
    exact hon (e.publish (.stateChanged before after))

theorem handleSignal_bare (x : Session.Signal) :
    e.bare.handleSignal x now = (e.handleSignal x now).bare := by
  cases x with
  | stateChanged before after => exact handleStateChange_bare e now before after
  | inbound frame => exact handleInbound_bare e now frame
  | _ => rfl

theorem processSignals_bare : e.bare.processSignals now = (e.processSignals now).bare := by
  unfold processSignals
  rw [← publishSettled_bare]
  exact congrArg publishSettled (foldl_bare { e with session := e.session.takeSignals.2 }
    (fun e x => handleSignal_bare e now x) e.session.signals)

/-- An answer of the session with its record taken off. -/
theorem processSession_bare (r : Session (Recorded τ) × Timers) :
    processSignals { e.bare with
      session := (Session.barePair r).1, timers := (Session.barePair r).2 } now =
    (processSignals { e with session := r.1, timers := r.2 } now).bare :=
  processSignals_bare { e with session := r.1, timers := r.2 } now

theorem connect_bare (credentials : Credentials) :
    e.bare.step (.connect credentials now) = (e.step (.connect credentials now)).bare := by
  have hconnect : e.bare.session.connect credentials now e.bare.timers = _ :=
    Session.connect_bare e.session now e.timers credentials
  dsimp only [step, connect]
  rw [hconnect]
  cases e.session.connect credentials now e.timers with
  | ok answer => exact processSession_bare e now answer
  | error state => rfl

theorem endLogin_bare : e.bare.endLogin = e.endLogin.bare := by
  have hlogout : ∀ timers, e.bare.session.logout timers = _ :=
    fun timers => Session.logout_bare e.session timers
  unfold endLogin
  dsimp only
  rw [hlogout]
  rfl

theorem logout_bare : e.bare.logout now = (e.logout now).bare := by
  unfold logout
  rw [endLogin_bare, processSignals_bare]

omit [Transport τ] in
theorem stopTyping_bare (chat : String) :
    e.bare.stopTyping chat now = (e.stopTyping chat now).bare := by
  unfold stopTyping
  rw [apply_ite bare]
  rfl

omit [Transport τ] in
theorem echo?_bare (a : Action) : e.bare.echo? a = e.echo? a := by
  unfold echo?
  split <;> rfl

theorem submit_bare (a : Action) :
    e.bare.step (.submit a now) = (e.step (.submit a now)).bare := by
  have hstop : (if a.kind = .sendMessage then e.bare.stopTyping a.chat now else e.bare) =
      (if a.kind = .sendMessage then e.stopTyping a.chat now else e).bare := by
    rw [stopTyping_bare]
    split <;> rfl
  dsimp only [step, submit]
  cases a.intent.check with
  | error fault => rfl
  | ok _ =>
      dsimp only
      rw [hstop]
      generalize (if a.kind = .sendMessage then e.stopTyping a.chat now else e) = stopped
      rw [echo?_bare]
      have hqueue : (stopped.bare.noteChat a.chat none).enqueue a =
          (((stopped.noteChat a.chat none).enqueue a).1,
            ((stopped.noteChat a.chat none).enqueue a).2.bare) := rfl
      have hdone : ∀ echoed : Engine (Recorded τ),
          (echoed.bare.flush now).publishSettled = (echoed.flush now).publishSettled.bare :=
        fun echoed => by rw [flush_bare, publishSettled_bare]
      rw [hqueue]
      generalize (stopped.noteChat a.chat none).enqueue a = queued
      obtain ⟨outcome, queued⟩ := queued
      cases outcome with
      | queued =>
          cases stopped.echo? a with
          | none => exact hdone queued
          | some event => exact hdone (queued.toStore event)
      | _ => exact hdone queued

theorem keystroke_bare (chat : String) :
    e.bare.step (.keystroke chat now) = (e.step (.keystroke chat now)).bare := by
  dsimp only [step, keystroke]
  cases checkChat chat with
  | error fault => rfl
  | ok _ =>
      have hstart : (if chat ∈ e.bare.localTyping then e.bare
          else { e.bare with localTyping := chat :: e.bare.localTyping }.enqueueNew
            (.typingStart chat) now) =
          (if chat ∈ e.localTyping then e
            else { e with localTyping := chat :: e.localTyping }.enqueueNew (.typingStart chat)
              now).bare := by
        rw [apply_ite bare]
        rfl
      dsimp only
      rw [hstart]
      generalize (if chat ∈ e.localTyping then e
        else { e with localTyping := chat :: e.localTyping }.enqueueNew (.typingStart chat)
          now) = started
      have hflush := flush_bare { started with
        timers := started.timers.schedule (.localTyping chat) (now + started.typingIdle) } now
      rw [← publishSettled_bare, ← hflush]
      rfl

theorem endLocalTyping_bare (chat : String) :
    e.bare.endLocalTyping chat now = (e.endLocalTyping chat now).bare := by
  unfold endLocalTyping
  rw [apply_ite bare, ← flush_bare]
  rfl

omit [Transport τ] in
theorem sweepTyping_bare : e.bare.sweepTyping now = (e.sweepTyping now).bare :=
  foldl_bare { e with
    router := (e.router.expireTyping now e.timers).2.1
    timers := (e.router.expireTyping now e.timers).2.2 }
    toStore_bare (e.router.expireTyping now e.timers).1

theorem handleTimer_bare (key : Timer.Key) :
    e.bare.handleTimer key now = (e.handleTimer key now).bare := by
  have hsession : e.bare.session.handleTimer key now e.bare.timers = _ :=
    Session.handleTimer_bare e.session now e.timers key
  unfold handleTimer
  rw [hsession]
  cases e.session.handleTimer key now e.timers with
  | some answer => exact processSession_bare e now answer
  | none =>
      dsimp only [Option.map_none]
      rw [← publishSettled_bare]
      cases key with
      | action id =>
          dsimp only
          rw [← flush_bare]
          rfl
      | typingSweep => exact congrArg publishSettled (sweepTyping_bare e now)
      | localTyping chat => exact congrArg publishSettled (endLocalTyping_bare e now chat)
      | _ => rfl

theorem handleTimers_bare : e.bare.handleTimers now = (e.handleTimers now).bare :=
  foldl_bare { e with timers := (e.timers.drain now).2 }
    (fun e key => handleTimer_bare e now key) (e.timers.drain now).1

omit [Transport τ] in
theorem applyHistory_bare (chat : String) (generation : Nat)
    (result : Except String (List Message)) :
    e.bare.applyHistory chat generation result now =
      (e.applyHistory chat generation result now).bare := by
  unfold applyHistory
  rw [apply_ite bare]
  cases result with
  | error reason => rfl
  | ok messages =>
      have hreplay := foldl_bare (f := fun e event => (e.deliver event now).2) e
        (fun e event => congrArg Prod.snd (deliver_bare e now event))
        (History.replay chat messages)
      dsimp only
      rw [← hreplay]
      rfl

end Bare

/-- **Keeping a record does not change what an input does.** -/
theorem step_bare (e : Engine (Recorded τ)) (i : Input τ) :
    e.bare.step i = (e.step i.recorded).bare := by
  cases i with
  | connect credentials now => exact connect_bare e now credentials
  | logout now => exact logout_bare e now
  | submit a now => exact submit_bare e now a
  | keystroke chat now => exact keystroke_bare e now chat
  | event connection event now =>
      have hsession : e.bare.session.handleEvent connection event now e.bare.timers = _ :=
        Session.handleEvent_bare e.session now e.timers connection event
      dsimp only [step, handleEvent]
      rw [hsession]
      exact processSession_bare e now _
  | timers now => exact handleTimers_bare e now
  | history chat generation result now => exact applyHistory_bare e now chat generation result
  | _ => rfl

/-- The state after an input on record is the one after the input. -/
theorem step_onRecord (e : Engine τ) (i : Input τ) :
    (e.onRecord.step i.recorded).bare = e.step i :=
  (step_bare e.onRecord i).symm

/-! ## 3. What is queued, on record or not -/

section Queued

open Outbox (Operation)

theorem enqueue_not_mem_flushCalls {e : Engine τ} {a : Action} {now : Instant} :
    .enqueue a ∉ e.flushCalls now := by
  unfold flushCalls
  split <;> simp

theorem enqueue_not_mem_signalCalls {e : Engine τ} {a : Action} {now : Instant}
    (x : Session.Signal) : .enqueue a ∉ e.signalCalls now x := by
  unfold signalCalls
  split
  · intro hmem
    rcases List.mem_append.mp hmem with hmem | hmem
    · split at hmem <;> simp at hmem
    · split at hmem
      · exact enqueue_not_mem_flushCalls hmem
      · cases hmem
  · intro hmem
    rcases List.mem_cons.mp hmem with heq | hmem
    · cases heq
    · split at hmem
      · exact enqueue_not_mem_flushCalls hmem
      · cases hmem
  · exact List.not_mem_nil

/-- Signals of the session queue nothing. -/
theorem enqueue_not_mem_processCalls {e : Engine τ} {a : Action} {now : Instant} :
    .enqueue a ∉ e.processCalls now := by
  have along : ∀ (signals : List Session.Signal) (e : Engine τ),
      .enqueue a ∉ signalsCalls now e signals := by
    intro signals
    induction signals with
    | nil => exact fun _ => List.not_mem_nil
    | cons x rest ih =>
        intro e hmem
        rcases List.mem_append.mp hmem with hmem | hmem
        · exact enqueue_not_mem_signalCalls x hmem
        · exact ih _ hmem
  intro hmem
  rcases List.mem_append.mp hmem with hmem | hmem
  · exact along _ _ hmem
  · cases List.mem_singleton.mp hmem

/-- A logout queues nothing. -/
theorem enqueue_not_mem_logout {e : Engine τ} {a : Action} {now : Instant} :
    .enqueue a ∉ e.stepCalls (.logout now) := by
  intro hmem
  rcases List.mem_cons.mp hmem with heq | hmem
  · cases heq
  · exact enqueue_not_mem_processCalls hmem

theorem enqueue_mem_keyCalls_bare (e : Engine (Recorded τ)) (now : Instant) (key : Timer.Key) {a : Action}
    (h : .enqueue a ∈ e.keyCalls now key) : .enqueue a ∈ e.bare.keyCalls now key := by
  have hsession : e.bare.session.handleTimer key now e.bare.timers = _ :=
    Session.handleTimer_bare e.session now e.timers key
  unfold keyCalls at h ⊢
  rw [hsession]
  cases hs : e.session.handleTimer key now e.timers with
  | some answer =>
      rw [hs] at h
      exact absurd h enqueue_not_mem_processCalls
  | none =>
      simp only [hs] at h
      dsimp only [Option.map_none]
      rcases List.mem_append.mp h with h | h
      · refine List.mem_append_left _ ?_
        cases key with
        | action id =>
            rcases List.mem_cons.mp h with heq | h
            · cases heq
            · exact absurd h enqueue_not_mem_flushCalls
        | localTyping chat =>
            dsimp only at h ⊢
            split at h
            · rename_i htyping
              rw [if_pos (show chat ∈ e.bare.localTyping from htyping)]
              rcases List.mem_cons.mp h with heq | h
              · exact heq ▸ List.mem_cons_self
              · exact absurd h enqueue_not_mem_flushCalls
            · cases h
        | _ => cases h
      · cases List.mem_singleton.mp h

/-- The same actions are queued on record. -/
theorem enqueue_mem_stepCalls_bare (e : Engine (Recorded τ)) (i : Input τ) {a : Action}
    (h : .enqueue a ∈ e.stepCalls i.recorded) : .enqueue a ∈ e.bare.stepCalls i := by
  have hsent : ∀ {e : Engine (Recorded τ)} {now : Instant},
      .enqueue a ∉ e.flushCalls now ++ [.takeSettled] := by
    intro e now hmem
    rcases List.mem_append.mp hmem with hmem | hmem
    · exact enqueue_not_mem_flushCalls hmem
    · cases List.mem_singleton.mp hmem
  cases i with
  | connect credentials now =>
      dsimp only [Input.recorded, stepCalls] at h
      split at h
      · exact absurd h enqueue_not_mem_processCalls
      · cases h
  | logout now => exact absurd h enqueue_not_mem_logout
  | submit b now =>
      dsimp only [Input.recorded, stepCalls] at h ⊢
      generalize b.intent.check = checked at h ⊢
      cases checked with
      | error fault => cases h
      | ok _ =>
          rcases List.mem_append.mp h with h | h
          · exact List.mem_append_left _ h
          · rcases List.mem_cons.mp h with heq | h
            · exact List.mem_append_right _ (heq ▸ List.mem_cons_self)
            · exact absurd h hsent
  | keystroke chat now =>
      dsimp only [Input.recorded, stepCalls] at h ⊢
      generalize checkChat chat = checked at h ⊢
      cases checked with
      | error fault => cases h
      | ok _ =>
          rcases List.mem_append.mp h with h | h
          · exact List.mem_append_left _ h
          · exact absurd h hsent
  | event connection event now => exact absurd h enqueue_not_mem_processCalls
  | timers now =>
      have along : ∀ (keys : List Timer.Key) (e : Engine (Recorded τ)),
          .enqueue a ∈ keysCalls now e keys → .enqueue a ∈ keysCalls now e.bare keys := by
        intro keys
        induction keys with
        | nil => exact fun _ h => absurd h List.not_mem_nil
        | cons key rest ih =>
            intro e h
            rcases List.mem_append.mp h with h | h
            · exact List.mem_append_left _ (enqueue_mem_keyCalls_bare e now key h)
            · refine List.mem_append_right _ ?_
              rw [handleTimer_bare]
              exact ih _ h
      exact along _ { e with timers := (e.timers.drain now).2 } h
  | _ => cases h

end Queued

end RealtimeChat.Engine
