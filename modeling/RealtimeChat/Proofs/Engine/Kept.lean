import RealtimeChat.Proofs.Engine.Deadlines
import RealtimeChat.Proofs.Session.Record
/-!
# What an input cannot break

An input is first about some parts of the core of a client: somebody is logged in, the session hears
of an event, what is queued is cancelled. All that follows is made of a few things, done in some
order: frames of actions are sent, the outbox is worked, a deadline of the session passes, missed
messages are asked for. So a property of the session, the outbox and the requests that none of these
breaks has to be looked at only where the input enters.

* `entered` -- the core after the input has entered it;
* `Kept` -- a property that nothing of what follows breaks;
* **`step_kept`** -- what is so when an input has entered is so after the input;
* `Kept.ofSession` -- properties of the session alone;
* **`step_told`** -- between two inputs the session has nothing to tell.
-/

namespace RealtimeChat.Engine

open Outbox (Operation)

variable {τ : Type} [Transport τ]

/-! ## 1. Entering -/

/-- The core after an input has entered it and the signals of the session were taken. -/
def entered (e : Engine τ) : Input τ → Engine τ
  | .connect credentials now =>
    match e.session.connect credentials now e.timers with
    | .ok (session, _) => { e with session := session.takeSignals.2 }
    | .error _ => e
  | .logout _ => { e.endLogin with session := e.endLogin.session.takeSignals.2 }
  | .event connection event now =>
    { e with session := (e.session.handleEvent connection event now e.timers).1.takeSignals.2 }
  | .takeHistoryRequests => e.takeHistoryRequests.2
  | .transport f => e.modifyTransport f
  | _ => e

/-- The end of a login is one for the session. -/
theorem endLogin_session (e : Engine τ) :
    ∃ timers, e.endLogin.session = (e.session.logout timers).1 :=
  ⟨(e.router.clearTyping (e.outbox.cancelAll e.timers).2).2.cancelWhere (·.isLocalTyping), rfl⟩

/-- A property of the session, the outbox and the requests that nothing breaks which follows from an
input, as long as only the actions in `S` are queued. -/
structure Kept (S : Action → Prop) (P : Engine τ → Prop) : Prop where
  /-- The property is about these parts only. -/
  about : ∀ {e e' : Engine τ}, P e → e'.session = e.session → e'.outbox = e.outbox →
    e'.historyRequests = e.historyRequests → e'.generation = e.generation → P e'
  operate : ∀ {e : Engine τ} (op : Operation), (∀ a, op = .enqueue a → S a) → P e →
    P { e with outbox := ((Outbox.Run.start e.outbox e.timers).perform op).outbox }
  flush : ∀ {e : Engine τ} (now : Instant), P e → P (e.flush now)
  resync : ∀ {e : Engine τ}, P e → P e.requestResync
  timer : ∀ {e : Engine τ} {key now answer}, P e →
    e.session.handleTimer key now e.timers = some answer →
    P { e with session := answer.1.takeSignals.2 }

/-! ## 2. The parts of an input -/

/-- To hear of a new state is to publish it, to put back what is not acknowledged, to ask for missed
messages and to send what may be sent, or a part of that. -/
theorem handleStateChange_rule {P : Engine τ → Prop} {e : Engine τ} {before after : Session.State}
    {now : Instant} (told : P (e.publish (.stateChanged before after)))
    (lost : ∀ e : Engine τ, P e → P { e with
      outbox := (e.outbox.disconnect e.timers).1, timers := (e.outbox.disconnect e.timers).2 })
    (asked : ∀ e : Engine τ, P e → P e.requestResync)
    (sent : ∀ e : Engine τ, P e → P (e.flush now)) : P (e.handleStateChange before after now) := by
  have resumed : ∀ e : Engine τ, P e → P (if after = .active then
      (if 1 < e.session.activations then e.requestResync else e).flush now else e) := by
    intro e h
    split
    · refine sent _ ?_
      split
      · exact asked e h
      · exact h
    · exact h
  unfold handleStateChange
  by_cases hb : before = .active
  · simp only [if_pos hb]
    exact resumed _ (lost _ told)
  · simp only [if_neg hb]
    exact resumed _ told

section Parts

variable {S : Action → Prop} {P : Engine τ → Prop} (hP : Kept S P) {e : Engine τ}

include hP

theorem publishSettled_kept (h : P e) : P e.publishSettled := by
  obtain ⟨store, heq⟩ := e.publishSettled_eq
  rw [heq]
  exact hP.about (hP.operate .takeSettled nofun h) rfl rfl rfl rfl

theorem deliver_kept (h : P e) (event : Event) (now : Instant) : P (e.deliver event now).2 := by
  obtain ⟨router, timers, cursors, store, heq⟩ := e.deliver_eq event now
  rw [heq]
  exact hP.about h rfl rfl rfl rfl

theorem enqueue_kept (h : P e) {a : Action} (ha : S a) : P (e.enqueue a).2 :=
  hP.about (hP.operate (.enqueue a) (fun _ heq => Operation.enqueue.inj heq ▸ ha) h) rfl rfl rfl rfl

theorem disconnect_kept (h : P e) : P { e with
    outbox := (e.outbox.disconnect e.timers).1, timers := (e.outbox.disconnect e.timers).2 } :=
  hP.about (hP.operate .disconnect nofun h) rfl rfl rfl rfl

theorem handleInbound_kept (h : P e) (frame : Incoming) (now : Instant) :
    P (e.handleInbound frame now) := by
  cases frame with
  | ack ack =>
      have hacked : P { e with
          outbox := (e.outbox.acknowledge e.timers ack).2.1
          timers := (e.outbox.acknowledge e.timers ack).2.2 } :=
        hP.about (hP.operate (.acknowledge ack) nofun h) rfl rfl rfl rfl
      simp only [handleInbound]
      split
      · exact hP.flush now hacked
      · exact hacked
  | event event => exact deliver_kept hP h event now
  | error code message => exact hP.about h rfl rfl rfl rfl
  | _ => exact h

theorem handleSignal_kept (h : P e) (x : Session.Signal) (now : Instant) :
    P (e.handleSignal x now) := by
  cases x with
  | stateChanged before after =>
      exact handleStateChange_rule (hP.about h rfl rfl rfl rfl) (fun _ h => disconnect_kept hP h)
        (fun _ h => hP.resync h) fun _ h => hP.flush now h
  | inbound frame => exact handleInbound_kept hP h frame now
  | connectionLost _ _ => exact h
  | _ => exact hP.about h rfl rfl rfl rfl

theorem processSignals_kept (h : P { e with session := e.session.takeSignals.2 }) (now : Instant) :
    P (e.processSignals now) := by
  have along : ∀ (signals : List Session.Signal) (e : Engine τ), P e →
      P (signals.foldl (fun e x => handleSignal e x now) e) := by
    intro signals
    induction signals with
    | nil => exact fun _ h => h
    | cons x rest ih => exact fun e h => ih _ (handleSignal_kept hP h x now)
  exact publishSettled_kept hP (along _ _ h)

theorem handleTimer_kept (h : P e) (key : Timer.Key) (now : Instant)
    (hS : ∀ a, .enqueue a ∈ e.keyCalls now key → S a) : P (e.handleTimer key now) := by
  unfold handleTimer
  unfold keyCalls at hS
  cases hs : e.session.handleTimer key now e.timers with
  | some answer =>
      exact processSignals_kept hP (e := { e with session := answer.1, timers := answer.2 })
        (hP.about (hP.timer h hs) rfl rfl rfl rfl) now
  | none =>
      simp only [hs] at hS ⊢
      refine publishSettled_kept hP ?_
      cases key with
      | action id =>
          exact hP.flush now (hP.about (hP.operate (.expire id now) nofun h) rfl rfl rfl rfl)
      | localTyping chat =>
          simp only [endLocalTyping]
          split
          · rename_i htyping
            simp only [if_pos htyping] at hS
            have hended : P { e with localTyping := e.localTyping.erase chat, ids := e.newId.2.ids } :=
              hP.about h rfl rfl rfl rfl
            have hstop := hS _ (List.mem_append_left _ List.mem_cons_self)
            exact hP.flush now (enqueue_kept hP hended hstop)
          · exact h
      | typingSweep =>
          obtain ⟨store, hsweep⟩ := e.sweepTyping_eq now
          rw [hsweep]
          exact hP.about h rfl rfl rfl rfl
      | _ => exact h

theorem handleTimers_kept (h : P e) (keys : List Timer.Key) (now : Instant)
    (hS : ∀ a, .enqueue a ∈ keysCalls now e keys → S a) :
    P (keys.foldl (fun e key => handleTimer e key now) e) := by
  induction keys generalizing e with
  | nil => exact h
  | cons key rest ih =>
      refine ih (handleTimer_kept hP h key now fun a ha => hS a ?_) fun a ha => hS a ?_
      · exact List.mem_append_left _ ha
      · exact List.mem_append_right _ ha

theorem applyHistory_kept (h : P e) (chat : String) (generation : Nat)
    (result : Except String (List Message)) (now : Instant) :
    P (e.applyHistory chat generation result now) := by
  have along : ∀ (events : List Event) (e : Engine τ), P e →
      P (events.foldl (fun e event => (e.deliver event now).2) e) := by
    intro events
    induction events with
    | nil => exact fun _ h => h
    | cons event rest ih => exact fun e h => ih _ (deliver_kept hP h event now)
  unfold applyHistory
  split
  · cases result with
    | ok messages => exact along _ e h
    | error reason => exact hP.about h rfl rfl rfl rfl
  · exact h

/-! ## 3. Inputs -/

theorem submit_kept (h : P e) (a : Action) (now : Instant)
    (hS : ∀ b, .enqueue b ∈ e.stepCalls (.submit a now) → S b) : P (e.step (.submit a now)) := by
  dsimp only [stepCalls, step, submit] at hS ⊢
  cases hcheck : a.intent.check with
  | error fault => exact h
  | ok _ =>
      simp only [hcheck] at hS ⊢
      have ha : S a := hS a (List.mem_append_right _ List.mem_cons_self)
      -- the end of typing is queued first
      have hstop : P (if a.kind = .sendMessage then e.stopTyping a.chat now else e) := by
        by_cases hkind : a.kind = .sendMessage
        · rw [if_pos hkind]
          unfold stopTyping
          split
          · rename_i htyping
            have hended : P { e with
                localTyping := e.localTyping.erase a.chat
                timers := e.timers.cancel (.localTyping a.chat)
                ids := e.newId.2.ids } := hP.about h rfl rfl rfl rfl
            refine enqueue_kept hP hended (hS _ (List.mem_append_left _ ?_))
            rw [stopTypingCalls, if_pos ⟨hkind, htyping⟩]
            exact List.mem_singleton_self _
          · exact h
        · rwa [if_neg hkind]
      generalize (if a.kind = .sendMessage then e.stopTyping a.chat now else e) = stopped at hstop
      have hnoted : P (stopped.noteChat a.chat none) := hP.about hstop rfl rfl rfl rfl
      have hqueued := enqueue_kept hP hnoted ha
      refine publishSettled_kept hP (hP.flush now ?_)
      split
      · exact hP.about hqueued rfl rfl rfl rfl
      · exact hqueued

theorem keystroke_kept (h : P e) (chat : String) (now : Instant)
    (hS : ∀ b, .enqueue b ∈ e.stepCalls (.keystroke chat now) → S b) :
    P (e.step (.keystroke chat now)) := by
  dsimp only [stepCalls, step, keystroke] at hS ⊢
  cases hcheck : checkChat chat with
  | error fault => exact h
  | ok _ =>
      simp only [hcheck] at hS ⊢
      have hstarted : P (if chat ∈ e.localTyping then e
          else { e with localTyping := chat :: e.localTyping }.enqueueNew (.typingStart chat) now) := by
        split
        · exact h
        · rename_i htyping
          rw [if_neg htyping] at hS
          have hnoted : P { e with localTyping := chat :: e.localTyping, ids := e.newId.2.ids } :=
            hP.about h rfl rfl rfl rfl
          exact enqueue_kept hP hnoted (hS _ (List.mem_append_left _ (List.mem_singleton_self _)))
      exact publishSettled_kept hP (hP.flush now (hP.about hstarted rfl rfl rfl rfl))

/-- **What is so when an input has entered is so after the input**, if nothing of what follows can
break it. -/
theorem step_kept (i : Input τ) (hS : ∀ a, .enqueue a ∈ e.stepCalls i → S a) (h : P (e.entered i)) :
    P (e.step i) := by
  cases i with
  | connect credentials now =>
      dsimp only [step, connect, entered] at h ⊢
      cases hs : e.session.connect credentials now e.timers with
      | ok answer =>
          rw [hs] at h
          exact processSignals_kept hP (e := { e with session := answer.1, timers := answer.2 })
            (hP.about h rfl rfl rfl rfl) now
      | error state =>
          rw [hs] at h
          exact h
  | logout now => exact processSignals_kept hP (e := e.endLogin) h now
  | submit a now => exact submit_kept hP h a now hS
  | keystroke chat now => exact keystroke_kept hP h chat now hS
  | event connection event now =>
      exact processSignals_kept hP (e := { e with
        session := (e.session.handleEvent connection event now e.timers).1
        timers := (e.session.handleEvent connection event now e.timers).2 })
        (hP.about h rfl rfl rfl rfl) now
  | timers now =>
      have hdrained : P { e with timers := (e.timers.drain now).2 } := hP.about h rfl rfl rfl rfl
      exact handleTimers_kept hP hdrained _ now hS
  | history chat generation result now => exact applyHistory_kept hP h chat generation result now
  | takeHistoryRequests => exact h
  | transport f => exact h
  | _ => exact hP.about h rfl rfl rfl rfl

end Parts

/-! ## 4. The session alone -/

/-- A property of the session that the frames of actions do not break, nor deadlines that have
passed, whatever is queued. -/
theorem Kept.ofSession {P : Session τ → Prop}
    (send : ∀ s (a : Action), P s → P (s.sendFrame a.frame).2)
    (timer : ∀ s key now timers answer, P s → s.handleTimer key now timers = some answer →
      P answer.1.takeSignals.2) :
    Kept (fun _ => True) fun e : Engine τ => P e.session where
  about h hs _ _ _ := hs ▸ h
  operate _ _ h := h
  flush {e} now h := by
    unfold Engine.flush
    split
    · exact Outbox.flush_sink Session.sendFrame send e.outbox h now e.timers
    · exact h
  resync {e} h := by
    obtain ⟨historyRequests, heq⟩ := e.requestResync_eq
    rwa [heq]
  timer h hanswer := timer _ _ _ _ _ h hanswer

theorem told_kept : Kept (fun _ => True) fun e : Engine τ => e.session.signals = [] := by
  refine .ofSession (P := fun s => s.signals = []) (fun s a h => ?_) fun _ _ _ _ _ _ _ => rfl
  obtain ⟨transport, heq⟩ := s.sendFrame_eq a.frame
  rwa [heq]

/-- **Between two inputs the session has nothing to tell.** -/
theorem step_told {e : Engine τ} (h : e.session.signals = []) (i : Input τ) :
    (e.step i).session.signals = [] := by
  refine step_kept told_kept i (fun _ _ => trivial) ?_
  cases i with
  | connect credentials now =>
      dsimp only [entered]
      cases e.session.connect credentials now e.timers with
      | ok answer => rfl
      | error state => exact h
  | logout now => rfl
  | event connection event now => rfl
  | _ => exact h

theorem run_told {e : Engine τ} (h : e.session.signals = [])
    (inputs : List (Input τ)) : (e.run inputs).session.signals = [] := by
  induction inputs generalizing e with
  | nil => exact h
  | cons i rest ih => exact ih (step_told h i)

omit [Transport τ] in
theorem Fresh.told {e : Engine τ} (h : e.Fresh) : e.session.signals = [] := by
  refine h.rule fun settings endpoint transport entropy ids store historyEnabled => ?_
  rfl

end RealtimeChat.Engine
