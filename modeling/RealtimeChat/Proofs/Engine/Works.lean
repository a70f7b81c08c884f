import RealtimeChat.Proofs.Engine.Run
import RealtimeChat.Proofs.Outbox.Conservation
/-!
# What inputs do with the outbox

Whatever the core of a client is told to do comes down to operations on its outbox. Between them
it publishes what the outbox has settled: as notices, and in its list of settlements.

* `Works` -- a part of an input does certain operations and publishes what it takes;
* `publishSettled_eq` -- publishing, in one equation;
* **`step_works`** -- every input does the operations that it comes down to, `stepCalls`.
-/

namespace RealtimeChat.Engine

open Outbox (Operation Run Way settlements)

variable {τ : Type}

/-! ## 1. Parts of inputs -/

/-- A part of an input does these operations on the outbox. The notices that are published tell of
the settlements that the list gains, and of those that were to be taken no one is lost. -/
structure Works (e : Engine τ) (ops : List Operation) (e' : Engine τ) : Prop where
  outbox : e'.outbox = ((Run.start e.outbox e.timers).performAll ops).outbox
  published : ∃ notices : List Notice, e'.notices = notices.foldl NoticeHub.publish e.notices ∧
    e'.settled = e.settled ++ notices.filterMap settlement? ∧
    e.outbox.settled ++ (settlements ((Run.start e.outbox e.timers).performAll ops).log).reverse =
      notices.filterMap settlement? ++ e'.outbox.settled

namespace Works

variable {e e' e'' : Engine τ}

/-- Neither the outbox nor what is published is touched. -/
theorem still (ho : e'.outbox = e.outbox) (hn : e'.notices = e.notices)
    (hs : e'.settled = e.settled) : Works e [] e' :=
  ⟨ho, [], hn, hs.trans (List.append_nil _).symm, by rw [ho]; exact List.append_nil _⟩

theorem refl (e : Engine τ) : Works e [] e := still rfl rfl rfl

/-- A notice that tells of no settlement. -/
theorem publish (e : Engine τ) {n : Notice} (hn : settlement? n = none) :
    Works e [] (e.publish n) := by
  have hnone : [n].filterMap settlement? = [] := by simp [hn]
  refine ⟨rfl, [n], rfl, ?_, ?_⟩
  · rw [hnone, List.append_nil]
    rfl
  · rw [hnone]
    exact List.append_nil _

theorem trans {ops ops' : List Operation} (h : Works e ops e') (h' : Works e' ops' e'') :
    Works e (ops ++ ops') e'' := by
  have halike : ((Run.start e.outbox e.timers).performAll ops).Alike
      (Run.start e'.outbox e'.timers) ((Run.start e.outbox e.timers).performAll ops).log :=
    ⟨h.outbox.symm, rfl⟩
  have hsplice := halike.performAll ops'
  obtain ⟨notices, hn, hs, hp⟩ := h.published
  obtain ⟨notices', hn', hs', hp'⟩ := h'.published
  refine ⟨?_, notices ++ notices', ?_, ?_, ?_⟩
  · rw [Run.performAll_append, hsplice.outbox]
    exact h'.outbox
  · rw [hn', hn, List.foldl_append]
  · rw [hs', hs, List.filterMap_append, List.append_assoc]
  · rw [Run.performAll_append, hsplice.log, settlements, List.filterMap_append,
      List.reverse_append, List.filterMap_append, List.append_assoc, ← hp', ← List.append_assoc,
      ← List.append_assoc]
    exact congrArg (· ++ _) hp

theorem after {ops : List Operation} (h : Works e [] e') (h' : Works e' ops e'') :
    Works e ops e'' :=
  h.trans h'

theorem sound {ops : List Operation} (h : Works e ops e') (hs : e.outbox.Sound) :
    e'.outbox.Sound := by
  rw [h.outbox]
  exact ((Outbox.performAll_path (r := Run.start e.outbox e.timers) hs ops).sound
    (hs.stage [])).outbox

/-- One operation, of which the way is known. -/
theorem of_way {op : Operation} {marks : List Outbox.Mark} {timers : Timers}
    (hop : (Run.start e.outbox e.timers).perform op =
      (Run.start e.outbox e.timers).note e'.outbox timers marks)
    (hway : Way e.outbox marks e'.outbox) (hmarks : settlements marks = [])
    (hn : e'.notices = e.notices) (hs : e'.settled = e.settled) : Works e [op] e' := by
  have hperform : (Run.start e.outbox e.timers).performAll [op] =
      (Run.start e.outbox e.timers).note e'.outbox timers marks := hop
  obtain ⟨l, hl, -⟩ := hway []
  refine ⟨by rw [hperform]; rfl, [], hn, hs.trans (List.append_nil _).symm, ?_⟩
  have hlog : ((Run.start e.outbox e.timers).note e'.outbox timers marks).log =
      (l.map .settled).reverse ++ marks := by
    show ((e'.outbox.settled.drop e.outbox.settled.length).map _).reverse ++ (marks ++ []) = _
    rw [hl, List.drop_left, List.append_nil]
  have hback : ∀ l : List Settlement, settlements (l.map .settled).reverse = l.reverse := by
    intro l
    rw [← List.map_reverse, settlements, List.filterMap_map]
    exact List.filterMap_some
  rw [hperform, hlog, settlements, List.filterMap_append, ← settlements, hmarks, List.append_nil,
    hback, List.reverse_reverse, hl]
  rfl

end Works

/-- What the outbox has settled goes into the notices and into the list. -/
theorem publishSettled_eq (e : Engine τ) : ∃ store, e.publishSettled =
    { e with
      outbox := e.outbox.takeSettled.2
      notices := (e.outbox.settled.map .actionSettled).foldl NoticeHub.publish e.notices
      settled := e.settled ++ e.outbox.settled
      store } := by
  have hecho : ∀ (e : Engine τ) s, ∃ store, e.reconcileEcho s = { e with store } := by
    intro e s
    unfold reconcileEcho
    repeat' split
    all_goals exact ⟨_, rfl⟩
  have along : ∀ (l : List Settlement) (e : Engine τ), ∃ store,
      l.foldl (fun e s =>
        { (e.reconcileEcho s).publish (.actionSettled s) with
          settled := ((e.reconcileEcho s).publish (.actionSettled s)).settled ++ [s] }) e =
      { e with
        notices := (l.map .actionSettled).foldl NoticeHub.publish e.notices
        settled := e.settled ++ l
        store } := by
    intro l
    induction l with
    | nil => exact fun e => ⟨e.store, by simp⟩
    | cons s rest ih =>
        intro e
        obtain ⟨store, hstore⟩ := hecho e s
        obtain ⟨store', hrest⟩ := ih
          { (e.reconcileEcho s).publish (.actionSettled s) with
            settled := ((e.reconcileEcho s).publish (.actionSettled s)).settled ++ [s] }
        refine ⟨store', ?_⟩
        rw [List.foldl_cons, hrest, hstore, List.map_cons, List.foldl_cons]
        simp [Engine.publish]
  exact along e.outbox.settled { e with outbox := e.outbox.takeSettled.2 }

/-- The chats in which the user is typing do not depend on what is published. -/
theorem publishSettled_localTyping (e : Engine τ) :
    e.publishSettled.localTyping = e.localTyping := by
  obtain ⟨store, heq⟩ := e.publishSettled_eq
  rw [heq]

/-- Nor do they depend on what is sent. -/
theorem flush_localTyping [Transport τ] (e : Engine τ) (now : Instant) :
    (e.flush now).localTyping = e.localTyping := by
  unfold flush
  split <;> rfl

theorem foldl_toStore_eq (events : List Event) (e : Engine τ) :
    ∃ store, events.foldl toStore e = { e with store } := by
  induction events generalizing e with
  | nil => exact ⟨e.store, rfl⟩
  | cons event rest ih =>
      obtain ⟨store, hrest⟩ := ih (e.toStore event)
      exact ⟨store, hrest⟩

/-- The typing indicators that have run out go into the store. -/
theorem sweepTyping_eq (e : Engine τ) (now : Instant) : ∃ store, e.sweepTyping now =
    { e with
      router := (e.router.expireTyping now e.timers).2.1
      timers := (e.router.expireTyping now e.timers).2.2
      store } :=
  foldl_toStore_eq _ _

/-- Routing an event concerns the router, what is known of the chats, and the store. -/
theorem deliver_eq (e : Engine τ) (event : Event) (now : Instant) :
    ∃ router timers cursors store,
      (e.deliver event now).2 = { e with router, timers, cursors, store } := by
  unfold deliver
  dsimp only
  repeat' split
  all_goals exact ⟨_, _, _, _, rfl⟩

/-- So does routing one event after the other. -/
theorem deliverAll_eq (e : Engine τ) (events : List Event) (now : Instant) :
    ∃ router timers cursors store,
      events.foldl (fun e event => (e.deliver event now).2) e =
        { e with router, timers, cursors, store } := by
  induction events generalizing e with
  | nil => exact ⟨_, _, _, _, rfl⟩
  | cons event rest ih =>
      obtain ⟨_, _, _, _, hfirst⟩ := e.deliver_eq event now
      obtain ⟨_, _, _, _, hrest⟩ := ih (e.deliver event now).2
      rw [List.foldl_cons, hrest, hfirst]
      exact ⟨_, _, _, _, rfl⟩

/-- The end of typing that goes before a message concerns the outbox, its deadline and its id. -/
theorem stopTyping_eq (e : Engine τ) (a : Action) (now : Instant) :
    ∃ outbox timers localTyping ids,
      (if a.kind = .sendMessage then e.stopTyping a.chat now else e) =
        { e with outbox, timers, localTyping, ids } := by
  unfold stopTyping
  repeat' split
  all_goals exact ⟨_, _, _, _, rfl⟩

theorem publishSettled_works (e : Engine τ) : Works e [.takeSettled] e.publishSettled := by
  obtain ⟨store, heq⟩ := e.publishSettled_eq
  have htold : ∀ l : List Settlement, (l.map Notice.actionSettled).filterMap settlement? = l := by
    intro l
    rw [List.filterMap_map]
    exact List.filterMap_some
  rw [heq]
  exact ⟨rfl, e.outbox.settled.map .actionSettled, rfl, by rw [htold], by rw [htold]; rfl⟩

/-! ## 2. Operations on the outbox -/

section Parts

variable {e : Engine τ}

/-- Routing an event touches neither the outbox nor what is published. -/
theorem deliver_works (event : Event) (now : Instant) : Works e [] (e.deliver event now).2 := by
  obtain ⟨router, timers, cursors, store, heq⟩ := e.deliver_eq event now
  rw [heq]
  exact .still rfl rfl rfl

theorem applyHistory_works (chat : String) (generation : Nat)
    (result : Except String (List Message)) (now : Instant) :
    Works e [] (e.applyHistory chat generation result now) := by
  unfold applyHistory
  split
  · split
    · rename_i messages
      obtain ⟨router, timers, cursors, store, heq⟩ :=
        e.deliverAll_eq (History.replay chat messages) now
      rw [heq]
      exact .still rfl rfl rfl
    · exact .publish e rfl
  · exact .refl e

theorem disconnect_works :
    Works e [.disconnect] { e with
      outbox := (e.outbox.disconnect e.timers).1
      timers := (e.outbox.disconnect e.timers).2 } :=
  .of_way rfl (Outbox.disconnect_way e.outbox e.timers) rfl rfl rfl

variable (hs : e.outbox.Sound)

include hs

theorem acknowledge_works (ack : Ack) :
    Works e [.acknowledge ack] { e with
      outbox := (e.outbox.acknowledge e.timers ack).2.1
      timers := (e.outbox.acknowledge e.timers ack).2.2 } :=
  .of_way rfl (Outbox.acknowledge_way hs e.timers ack) rfl rfl rfl

theorem expire_works (id : String) (now : Instant) :
    Works e [.expire id now] { e with
      outbox := (e.outbox.expire e.timers id now).1
      timers := (e.outbox.expire e.timers id now).2 } :=
  .of_way rfl (Outbox.expire_way hs e.timers id now) rfl rfl rfl

theorem enqueue_works (a : Action) : Works e [.enqueue a] (e.enqueue a).2 :=
  .of_way rfl (Outbox.enqueue_way hs e.timers a) rfl rfl rfl

theorem enqueueNew_works (intent : Intent) (now : Instant) :
    Works e [.enqueue (.new e.newId.1 intent now)] (e.enqueueNew intent now) := by
  have hid : Works e [] e.newId.2 := .still rfl rfl rfl
  exact hid.trans (enqueue_works (e := e.newId.2) hs (.new e.newId.1 intent now))

variable [Transport τ]

theorem flush_works (now : Instant) : Works e (e.flushCalls now) (e.flush now) := by
  have hframes : ∀ frames : List Outgoing, settlements (frames.map .wrote) = [] := fun frames => by
    simp [settlements]
  unfold flushCalls flush
  split
  · exact .of_way rfl (Outbox.flush_way hs e.session now e.timers) (hframes _) rfl rfl
  · exact .refl e

/-! ## 3. Signals of the session -/

omit [Transport τ] hs in
theorem requestResync_eq (e : Engine τ) :
    ∃ historyRequests, e.requestResync = { e with historyRequests } := by
  unfold requestResync
  repeat' split
  all_goals exact ⟨_, rfl⟩

theorem resume_works (now : Instant) :
    Works e (e.flushCalls now)
      ((if 1 < e.session.activations then e.requestResync else e).flush now) := by
  split
  · obtain ⟨historyRequests, heq⟩ := e.requestResync_eq
    rw [heq]
    have hstill : Works e [] { e with historyRequests } := .still rfl rfl rfl
    exact hstill.trans (flush_works (e := { e with historyRequests }) hs now)
  · exact flush_works hs now

theorem handleStateChange_works (before after : Session.State) (now : Instant) :
    Works e (e.signalCalls now (.stateChanged before after))
      (e.handleStateChange before after now) := by
  have hpublish : Works e [] (e.publish (.stateChanged before after)) := .publish e rfl
  unfold signalCalls handleStateChange
  by_cases hb : before = .active
  · have hlost := hpublish.trans (disconnect_works (e := e.publish (.stateChanged before after)))
    simp only [if_pos hb]
    split
    · exact hlost.trans (resume_works (hlost.sound hs) now)
    · exact hlost
  · simp only [if_neg hb]
    split
    · exact hpublish.trans (resume_works (hpublish.sound hs) now)
    · exact hpublish

theorem handleInbound_works (frame : Incoming) (now : Instant) :
    Works e (e.signalCalls now (.inbound frame)) (e.handleInbound frame now) := by
  cases frame with
  | ack ack =>
      have hack := acknowledge_works hs ack
      simp only [signalCalls, handleInbound]
      split
      · exact hack.trans (flush_works (hack.sound hs) now)
      · exact hack
  | event event => exact deliver_works event now
  | error code message => exact .publish e rfl
  | authAccepted user => exact .refl e
  | authRejected reason => exact .refl e
  | pong => exact .refl e
  | unknown kind => exact .refl e

theorem handleSignal_works (x : Session.Signal) (now : Instant) :
    Works e (e.signalCalls now x) (e.handleSignal x now) := by
  cases x with
  | stateChanged before after => exact handleStateChange_works hs before after now
  | inbound frame => exact handleInbound_works hs frame now
  | malformed connection fault => exact .publish e rfl
  | reconnectScheduled attempt delay => exact .publish e rfl
  | connectionLost connection reason => exact .refl e
  | authRejected reason => exact .publish e rfl
  | reconnectExhausted attempts => exact .publish e rfl

theorem signals_works (signals : List Session.Signal) (now : Instant) :
    Works e (signalsCalls now e signals)
      (signals.foldl (fun e x => handleSignal e x now) e) := by
  induction signals generalizing e with
  | nil => exact .refl e
  | cons x rest ih =>
      have hfirst := handleSignal_works hs x now
      exact hfirst.trans (ih (hfirst.sound hs))

theorem processSignals_works (now : Instant) :
    Works e (e.processCalls now) (e.processSignals now) := by
  have htake : Works e [] { e with session := e.session.takeSignals.2 } := .still rfl rfl rfl
  have hsignals := signals_works (htake.sound hs) e.session.signals now
  exact (htake.trans hsignals).trans (publishSettled_works _)

end Parts

/-! ## 4. Inputs -/

/-- The input is about what was published before. -/
def Input.ReadsOut (i : Input τ) : Prop :=
  i = .takeSettled ∨ i = .listen ∨ ∃ inbox, i = .hear inbox

section Inputs

variable {e : Engine τ} (hs : e.outbox.Sound)

include hs

theorem stopTyping_works (a : Action) (now : Instant) :
    Works e (e.stopTypingCalls a now)
      (if a.kind = .sendMessage then e.stopTyping a.chat now else e) := by
  unfold stopTypingCalls stopTyping
  by_cases hk : a.kind = .sendMessage
  · by_cases hc : a.chat ∈ e.localTyping
    · rw [if_pos ⟨hk, hc⟩, if_pos hk, if_pos hc]
      have hstill : Works e [] { e with
          localTyping := e.localTyping.erase a.chat
          timers := e.timers.cancel (.localTyping a.chat) } := .still rfl rfl rfl
      exact hstill.after (enqueueNew_works (hstill.sound hs) (.typingStop a.chat) now)
    · rw [if_neg (fun h => hc h.2), if_pos hk, if_neg hc]
      exact .refl e
  · rw [if_neg (fun h => hk h.1), if_neg hk]
    exact .refl e

variable [Transport τ]

theorem endLogin_works : Works e [.cancelAll] e.endLogin :=
  .of_way rfl (Outbox.cancelAll_way hs e.timers) rfl rfl rfl

theorem handleTimer_works (key : Timer.Key) (now : Instant) :
    Works e (e.keyCalls now key) (e.handleTimer key now) := by
  unfold keyCalls handleTimer
  rcases e.session.handleTimer key now e.timers with _ | ⟨session, timers⟩
  · refine Works.trans ?_ (publishSettled_works _)
    cases key with
    | action id =>
        have hexpire := expire_works hs id now
        exact hexpire.trans (flush_works (hexpire.sound hs) now)
    | localTyping chat =>
        simp only [endLocalTyping]
        split
        · have hstill : Works e [] { e with localTyping := e.localTyping.erase chat } :=
            .still rfl rfl rfl
          have hstop := hstill.trans (enqueueNew_works (hstill.sound hs) (.typingStop chat) now)
          exact hstop.trans (flush_works (hstop.sound hs) now)
        · exact .refl e
    | typingSweep =>
        obtain ⟨store, hsweep⟩ := e.sweepTyping_eq now
        simp only [hsweep]
        exact .still rfl rfl rfl
    | handshake => exact .refl e
    | reconnect => exact .refl e
    | heartbeat => exact .refl e
    | liveness => exact .refl e
  · have hstill : Works e [] { e with session, timers } := .still rfl rfl rfl
    exact hstill.after (processSignals_works (hstill.sound hs) now)

theorem handleKeys_works (keys : List Timer.Key) (now : Instant) :
    Works e (keysCalls now e keys) (keys.foldl (fun e key => handleTimer e key now) e) := by
  induction keys generalizing e with
  | nil => exact .refl e
  | cons key rest ih =>
      have hfirst := handleTimer_works hs key now
      exact hfirst.trans (ih (hfirst.sound hs))

omit hs in
theorem flushCalls_congr {e' : Engine τ} (h : e'.session = e.session) (now : Instant) :
    e'.flushCalls now = e.flushCalls now := by
  rw [flushCalls, flushCalls, h]

theorem submit_works (a : Action) (now : Instant) :
    Works e (e.stepCalls (.submit a now)) (e.step (.submit a now)) := by
  dsimp only [stepCalls, step, submit]
  rcases a.intent.check with fault | ⟨⟩
  · exact .refl e
  · dsimp only
    have hstop := stopTyping_works hs a now
    have hsession : (if a.kind = .sendMessage then e.stopTyping a.chat now else e).session =
        e.session := by
      obtain ⟨_, _, _, _, heq⟩ := e.stopTyping_eq a now
      rw [heq]
    generalize (if a.kind = .sendMessage then e.stopTyping a.chat now else e) = stopped at *
    have hnote : Works stopped [] (stopped.noteChat a.chat none) := .still rfl rfl rfl
    have hqueue := hnote.after (enqueue_works (hnote.sound (hstop.sound hs)) a)
    -- the echo of a message goes into the store and nowhere else
    have hdone : ∀ {echoed : Engine τ},
        Works ((stopped.noteChat a.chat none).enqueue a).2 [] echoed → echoed.session = e.session →
        Works e (e.stopTypingCalls a now ++ .enqueue a :: (e.flushCalls now ++ [.takeSettled]))
          (echoed.flush now).publishSettled := by
      intro echoed hecho hsame
      have hqueued := (hstop.trans hqueue).trans hecho
      have hflushed := (hqueued.trans (flush_works (hqueued.sound hs) now)).trans
        (publishSettled_works _)
      rw [flushCalls_congr hsame, List.append_nil, List.append_assoc, List.append_assoc] at hflushed
      exact hflushed
    split
    · exact hdone (.still rfl rfl rfl) hsession
    · exact hdone (.refl _) hsession

theorem keystroke_works (chat : String) (now : Instant) :
    Works e (e.stepCalls (.keystroke chat now)) (e.step (.keystroke chat now)) := by
  dsimp only [stepCalls, step, keystroke]
  rcases checkChat chat with fault | ⟨⟩
  · exact .refl e
  · dsimp only
    have hstart : Works e
        (if chat ∈ e.localTyping then []
          else [.enqueue (.new e.newId.1 (.typingStart chat) now)])
        (if chat ∈ e.localTyping then e
          else { e with localTyping := chat :: e.localTyping }.enqueueNew (.typingStart chat)
            now) := by
      split
      · exact .refl e
      · have hstill : Works e [] { e with localTyping := chat :: e.localTyping } :=
          .still rfl rfl rfl
        exact hstill.after (enqueueNew_works (hstill.sound hs) (.typingStart chat) now)
    have hsession : (if chat ∈ e.localTyping then e
        else { e with localTyping := chat :: e.localTyping }.enqueueNew (.typingStart chat)
          now).session = e.session := by
      split <;> rfl
    generalize (if chat ∈ e.localTyping then e
      else { e with localTyping := chat :: e.localTyping }.enqueueNew (.typingStart chat)
        now) = started at *
    have harm : Works started [] { started with
        timers := started.timers.schedule (.localTyping chat) (now + started.typingIdle) } :=
      .still rfl rfl rfl
    have hready := hstart.trans harm
    have hdone := (hready.trans (flush_works (hready.sound hs) now)).trans
      (publishSettled_works _)
    have hcalls : { started with
        timers := started.timers.schedule (.localTyping chat)
          (now + started.typingIdle) }.flushCalls now = e.flushCalls now :=
      flushCalls_congr hsession now
    rw [hcalls, List.append_nil, List.append_assoc] at hdone
    exact hdone

/-- **Every input does the operations that it comes down to.** -/
theorem step_works (i : Input τ) (hi : ¬ i.ReadsOut) : Works e (e.stepCalls i) (e.step i) := by
  cases i with
  | connect credentials now =>
      dsimp only [stepCalls, step, connect]
      rcases e.session.connect credentials now e.timers with state | ⟨session, timers⟩
      · exact .refl e
      · have hstill : Works e [] { e with session, timers } := .still rfl rfl rfl
        exact hstill.after (processSignals_works (hstill.sound hs) now)
  | logout now =>
      have hend := endLogin_works hs
      exact hend.trans (processSignals_works (hend.sound hs) now)
  | submit a now => exact submit_works hs a now
  | keystroke chat now => exact keystroke_works hs chat now
  | event connection event now =>
      have hstill : Works e [] { e with
          session := (e.session.handleEvent connection event now e.timers).1
          timers := (e.session.handleEvent connection event now e.timers).2 } := .still rfl rfl rfl
      exact hstill.after (processSignals_works (hstill.sound hs) now)
  | timers now =>
      have hdrain : Works e [] { e with timers := (e.timers.drain now).2 } := .still rfl rfl rfl
      exact hdrain.after (handleKeys_works (hdrain.sound hs) (e.timers.due now) now)
  | history chat generation result now => exact applyHistory_works chat generation result now
  | takeSettled => exact absurd (.inl rfl) hi
  | takeHistoryRequests => exact .still rfl rfl rfl
  | takeDeliveries => exact .still rfl rfl rfl
  | subscribe kind => exact .still rfl rfl rfl
  | unsubscribe id => exact .still rfl rfl rfl
  | listen => exact absurd (.inr (.inl rfl)) hi
  | hear inbox => exact absurd (.inr (.inr ⟨inbox, rfl⟩)) hi
  | transport f => exact .still rfl rfl rfl

end Inputs

end RealtimeChat.Engine
