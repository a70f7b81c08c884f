import RealtimeChat.Proofs.Engine.Course
import RealtimeChat.Proofs.Engine.Routes
import RealtimeChat.Proofs.Outbox.Attempts
/-!
# When an action is sent again

An action that has to be acknowledged is sent again only after its connection was lost, or when it
was not acknowledged in time and has waited for its delay. So it is in every run of the core of a
client, whatever happens to the session meanwhile.

* `Follows` -- a part of an input does certain operations, by which actions keep to the rules;
* **`step_follows`** -- every input does;
* `chronicle` -- what becomes of the actions in a run;
* `Persevering`, **`run_persevering`** -- the property, and that every run has it.
-/

namespace RealtimeChat.Engine

open Outbox (Operation Run Deed Life Moment Watched)
open Timer (Key)
open Timers (SameBut PaidBut)

variable {τ : Type}

/-! ## 1. Parts of inputs -/

/-- The outbox of a client at an instant. -/
def moment (e : Engine τ) (owed : List Key) (now : Instant) : Moment :=
  ⟨e.outbox, e.timers, owed, now⟩

/-- A part of an input that is taken at an instant does these operations, and they leave actions
where their histories lead. -/
structure Follows (now : Instant) (e : Engine τ) (owed : List Key) (ops : List Operation)
    (e' : Engine τ) (owed' : List Key) : Prop where
  outbox : e'.outbox = ((Run.start e.outbox e.timers).performAll ops).outbox
  watched : ∀ {ackTimeout retry log}, Watched ackTimeout retry (e.moment owed now) log →
    Watched ackTimeout retry (e'.moment owed' now)
      ((Run.start e.outbox e.timers).chronicle ops ++ log)

namespace Follows

variable {now : Instant} {e e' e'' : Engine τ} {owed owed' owed'' : List Key}
  {ops ops' : List Operation}

/-- Another part of the client goes on. -/
theorem aside (owner : Timer.Owner) (ho : e'.outbox = e.outbox)
    (hsame : SameBut owner e.timers e'.timers) (hpaid : PaidBut owner owed owed')
    (howner : owner ≠ .outbox) : Follows now e owed [] e' owed' := by
  refine ⟨ho, fun h => ?_⟩
  have hframe := h.frame hsame hpaid howner
  unfold moment
  rw [ho]
  exact hframe

/-- Neither the outbox nor the timers are touched. -/
theorem still (ho : e'.outbox = e.outbox) (ht : e'.timers = e.timers) :
    Follows now e owed [] e' owed :=
  aside .session ho (ht ▸ .refl .session _) (.refl .session _) nofun

theorem refl (e : Engine τ) : Follows now e owed [] e owed := still rfl rfl

/-- One operation. -/
theorem operate {op : Operation}
    (ho : e'.outbox = ((Run.start e.outbox e.timers).perform op).outbox)
    (h : ∀ {ackTimeout retry log}, Watched ackTimeout retry (e.moment owed now) log →
      Watched ackTimeout retry (e'.moment owed' now) (e.outbox.deeds e.timers op ++ log)) :
    Follows now e owed [op] e' owed' := ⟨ho, h⟩

theorem trans (h : Follows now e owed ops e' owed') (h' : Follows now e' owed' ops' e'' owed'') :
    Follows now e owed (ops ++ ops') e'' owed'' := by
  have halike : ((Run.start e.outbox e.timers).performAll ops).Alike
      (Run.start e'.outbox e'.timers) ((Run.start e.outbox e.timers).performAll ops).log :=
    ⟨h.outbox.symm, rfl⟩
  constructor
  · rw [Run.performAll_append, (halike.performAll ops').outbox]
    exact h'.outbox
  · intro ackTimeout retry log hwatched
    rw [Run.chronicle_append, halike.chronicle ops', List.append_assoc]
    exact h'.watched (h.watched hwatched)

theorem after (h : Follows now e owed [] e' owed') (h' : Follows now e' owed' ops e'' owed'') :
    Follows now e owed ops e'' owed'' := h.trans h'

end Follows

section Parts

variable {e : Engine τ} {owed : List Key} {now : Instant}

theorem publishSettled_follows (e : Engine τ) :
    Follows now e owed [.takeSettled] e.publishSettled owed := by
  obtain ⟨store, heq⟩ := e.publishSettled_eq
  rw [heq]
  exact .operate rfl fun h => h.takeSettled

theorem enqueue_follows (hs : e.outbox.Sound) {a : Action} (hstate : a.state = .pending)
    (hretries : a.retries = 0) : Follows now e owed [.enqueue a] (e.enqueue a).2 owed :=
  .operate rfl fun h => h.enqueue hs hstate hretries

theorem enqueueNew_follows (hs : e.outbox.Sound) (intent : Intent) (created : Instant) :
    Follows now e owed [.enqueue (.new e.newId.1 intent created)] (e.enqueueNew intent created)
      owed := by
  have hid : Follows now e owed [] e.newId.2 owed := .still rfl rfl
  exact hid.after (enqueue_follows (e := e.newId.2) hs rfl rfl)

theorem disconnect_follows (hs : e.outbox.Sound) :
    Follows now e owed [.disconnect] { e with
      outbox := (e.outbox.disconnect e.timers).1
      timers := (e.outbox.disconnect e.timers).2 } owed :=
  .operate rfl fun h => h.disconnect hs

theorem deliver_follows (h : e.Clocked owed) (event : Event) (now : Instant) :
    Follows now e owed [] (e.deliver event now).2 owed := by
  obtain ⟨-, hsame⟩ := Router.dispatch_clocked h.router event now
  refine .aside .router ?_ ?_ (.refl _ _) nofun
  · obtain ⟨router, timers, cursors, store, heq⟩ := e.deliver_eq event now
    rw [heq]
  · unfold deliver
    dsimp only
    repeat' split
    all_goals exact hsame

theorem applyHistory_follows (h : e.Clocked owed) (chat : String) (generation : Nat)
    (result : Except String (List Message)) :
    Follows now e owed [] (e.applyHistory chat generation result now) owed := by
  have along : ∀ (events : List Event) (e : Engine τ), e.Clocked owed →
      Follows now e owed [] (events.foldl (fun e event => (e.deliver event now).2) e) owed := by
    intro events
    induction events with
    | nil => exact fun e _ => .refl e
    | cons event rest ih =>
        exact fun e h => (deliver_follows h event now).after (ih _ (deliver_clocked h event now))
  unfold applyHistory
  split
  · cases result with
    | ok messages => exact along _ e h
    | error reason => exact .still rfl rfl
  · exact .refl e

variable [Transport τ]

theorem flush_follows (h : e.Clocked owed) :
    Follows now e owed (e.flushCalls now) (e.flush now) owed := by
  unfold flushCalls flush
  split
  · rename_i hactive
    exact .operate rfl fun hwatched =>
      hwatched.flush Session.sendFrame h.sound (h.steady hactive) e.session
  · exact .refl e

/-! ## 2. Signals of the session -/

theorem resume_follows (h : e.Clocked owed) :
    Follows now e owed (e.flushCalls now)
      ((if 1 < e.session.activations then e.requestResync else e).flush now) owed := by
  split
  · obtain ⟨historyRequests, heq⟩ := e.requestResync_eq
    rw [heq]
    have hasked : Clocked { e with historyRequests } owed := h.of_eq rfl rfl rfl rfl rfl
    have hstill : Follows now e owed [] { e with historyRequests } owed := .still rfl rfl
    exact hstill.after (flush_follows hasked)
  · exact flush_follows h

theorem handleStateChange_follows (h : e.Clocked owed)
    (hidle : e.session.state = .active → owed = []) (before after : Session.State) :
    Follows now e owed (e.signalCalls now (.stateChanged before after))
      (e.handleStateChange before after now) owed := by
  have hpublish : Follows now e owed [] (e.publish (.stateChanged before after)) owed :=
    .still rfl rfl
  have hpublished : (e.publish (.stateChanged before after)).Clocked owed :=
    h.of_eq rfl rfl rfl rfl rfl
  unfold signalCalls handleStateChange
  by_cases hb : before = .active
  · have hlost := hpublish.after (disconnect_follows hpublished.sound)
    simp only [if_pos hb]
    split
    · exact hlost.trans (resume_follows (disconnect_clocked hpublished hidle))
    · exact hlost
  · simp only [if_neg hb]
    split
    · exact hpublish.after (resume_follows hpublished)
    · exact hpublish

theorem handleInbound_follows (h : e.Clocked owed) (frame : Incoming) :
    Follows now e owed (e.signalCalls now (.inbound frame)) (e.handleInbound frame now) owed := by
  cases frame with
  | ack ack =>
      obtain ⟨hclocked, hsame⟩ := Outbox.acknowledge_clocked h.sound h.outbox ack
      have hanswered := h.onOutbox ((acknowledge_works h.sound ack).sound h.sound) hclocked hsame
        (.refl _ _) fun hactive => Outbox.acknowledge_steady h.sound (h.steady hactive) e.timers ack
      have hack : Follows now e owed [.acknowledge ack] { e with
          outbox := (e.outbox.acknowledge e.timers ack).2.1
          timers := (e.outbox.acknowledge e.timers ack).2.2 } owed :=
        .operate rfl fun hwatched => hwatched.acknowledge h.sound ack
      simp only [signalCalls, handleInbound]
      split
      · exact hack.trans (flush_follows hanswered)
      · exact hack
  | event event => exact deliver_follows h event now
  | error code message => exact .still rfl rfl
  | authAccepted user => exact .refl e
  | authRejected reason => exact .refl e
  | pong => exact .refl e
  | unknown kind => exact .refl e

theorem handleSignal_follows (h : e.Clocked owed)
    (hidle : e.session.state = .active → owed = []) (x : Session.Signal) :
    Follows now e owed (e.signalCalls now x) (e.handleSignal x now) owed := by
  cases x with
  | stateChanged before after => exact handleStateChange_follows h hidle before after
  | inbound frame => exact handleInbound_follows h frame
  | malformed connection fault => exact .still rfl rfl
  | reconnectScheduled attempt delay => exact .still rfl rfl
  | connectionLost connection reason => exact .refl e
  | authRejected reason => exact .still rfl rfl
  | reconnectExhausted attempts => exact .still rfl rfl

theorem signals_follows (signals : List Session.Signal) (h : e.Clocked owed)
    (hidle : e.session.state = .active → owed = []) :
    Follows now e owed (signalsCalls now e signals)
      (signals.foldl (fun e x => handleSignal e x now) e) owed := by
  induction signals generalizing e with
  | nil => exact .refl e
  | cons x rest ih =>
      obtain ⟨hfirst, hstate⟩ := handleSignal_clocked h hidle x now
      exact (handleSignal_follows h hidle x).trans (ih hfirst (hstate ▸ hidle))

/-- An active session has nothing to tell while keys are owed. -/
theorem processSignals_follows (h : Clocked { e with session := e.session.takeSignals.2 } owed)
    (hidle : e.session.state = .active → e.session.signals = [] ∨ owed = []) :
    Follows now e owed (e.processCalls now) (e.processSignals now) owed := by
  have htaken : Follows now e owed [] { e with session := e.session.takeSignals.2 } owed :=
    .still rfl rfl
  have hsignals : Follows now { e with session := e.session.takeSignals.2 } owed
      (signalsCalls now { e with session := e.session.takeSignals.2 } e.session.signals)
      (e.session.signals.foldl (fun e x => handleSignal e x now)
        { e with session := e.session.takeSignals.2 }) owed := by
    cases hsignals : e.session.signals with
    | nil => exact .refl _
    | cons x rest =>
        refine signals_follows _ h fun hactive => (hidle hactive).resolve_left ?_
        simp [hsignals]
  exact (htaken.after hsignals).trans (publishSettled_follows _)

/-! ## 3. Deadlines that have passed -/

/-- **A deadline that has passed** is handled. -/
theorem handleTimer_follows {key : Key} (h : e.Clocked (key :: owed)) (hkey : key ∉ owed) :
    Follows now e (key :: owed) (e.keyCalls now key) (e.handleTimer key now) owed := by
  have hsteady : e.session.state = .active → e.outbox.Steady owed :=
    fun hactive => (h.steady hactive).pay
  unfold keyCalls handleTimer
  cases hs : e.session.handleTimer key now e.timers with
  | some answer =>
      obtain ⟨s, t⟩ := answer
      obtain ⟨hclocked, hsame⟩ := Session.handleTimer_clocked h.session hkey now hs
      have hquiet := Session.handleTimer_quiet hs
      have howner : key.owner = .session := by
        cases key <;> first | rfl | cases hs
      have hsession : Follows now e (key :: owed) [] { e with session := s, timers := t } owed :=
        .aside .session rfl hsame (.head key howner owed) nofun
      have htaken := h.onSession (s := s.takeSignals.2) (hclocked.of_eq rfl rfl rfl rfl) hsame
        (.head key howner owed) (fun hactive => hsteady (hquiet hactive).1) rfl
      exact hsession.after (processSignals_follows (e := { e with session := s, timers := t })
        htaken fun hactive => .inl ((hquiet hactive).2.trans h.told))
  | none =>
      refine Follows.trans ?_ (publishSettled_follows _)
      cases key with
      | action id =>
          obtain ⟨hclocked, hsame⟩ := Outbox.expire_clocked h.sound h.outbox hkey now
          have hexpired := h.onOutbox ((expire_works h.sound id now).sound h.sound) hclocked hsame
            (.head (.action id) rfl owed) fun hactive =>
              Outbox.expire_steady h.sound (h.steady hactive) hkey e.timers now
          have hexpire : Follows now e (.action id :: owed) [.expire id now] { e with
              outbox := (e.outbox.expire e.timers id now).1
              timers := (e.outbox.expire e.timers id now).2 } owed :=
            .operate rfl fun hwatched => hwatched.expire h.sound rfl hkey
          exact hexpire.trans (flush_follows hexpired)
      | typingSweep =>
          obtain ⟨-, hsame⟩ := e.router.expireTyping_clocked now e.timers owed
          obtain ⟨store, hsweep⟩ := e.sweepTyping_eq now
          simp only [hsweep]
          exact .aside .router rfl hsame (.head .typingSweep rfl owed) nofun
      | localTyping chat =>
          have hstopped := h.onTyping h.typing.pay (.refl _ _)
            (.head (.localTyping chat) rfl owed) hsteady
          have hpaid : Follows now e (.localTyping chat :: owed) []
              { e with localTyping := e.localTyping.erase chat } owed :=
            .aside .user rfl (.refl _ _) (.head (.localTyping chat) rfl owed) nofun
          simp only [endLocalTyping]
          split
          · have hqueued := enqueueNew_clocked hstopped (.typingStop chat) now (.inr rfl)
            have hqueue := hpaid.after (enqueueNew_follows hstopped.sound (.typingStop chat) now)
            exact hqueue.trans (flush_follows hqueued)
          · exact .aside .user rfl (.refl _ _) (.head (.localTyping chat) rfl owed) nofun
      | handshake | reconnect | heartbeat | liveness => cases hs

/-- **So are all that have passed together.** -/
theorem handleKeys_follows (keys : List Key) (h : e.Clocked keys) (hkeys : keys.Nodup) :
    Follows now e keys (keysCalls now e keys) (keys.foldl (fun e key => handleTimer e key now) e)
      [] := by
  induction keys generalizing e with
  | nil => exact .refl e
  | cons key rest ih =>
      obtain ⟨hkey, hrest⟩ := List.nodup_cons.mp hkeys
      exact (handleTimer_follows h hkey).trans (ih (handleTimer_clocked h hkey now) hrest)

/-! ## 4. Inputs -/

theorem processSession_follows (h : e.Clocked []) {s : Session τ} {t : Timers}
    (hs : s.Clocked t []) (hsame : SameBut .session e.timers t) :
    Follows now e [] ({ e with session := s, timers := t }.processCalls now)
      ({ e with session := s, timers := t }.processSignals now) [] := by
  have hsession : Follows now e [] [] { e with session := s, timers := t } [] :=
    .aside .session rfl hsame (.refl _ _) nofun
  have htaken := h.onSession (s := s.takeSignals.2) (hs.of_eq rfl rfl rfl rfl) hsame (.refl _ _)
    (fun _ => Outbox.steady_nil _) rfl
  exact hsession.after (processSignals_follows (e := { e with session := s, timers := t }) htaken
    fun _ => .inr rfl)

theorem logout_follows (h : e.Clocked []) :
    Follows now e [] (e.stepCalls (.logout now)) (e.logout now) [] := by
  obtain ⟨-, hsameRouter⟩ := e.router.clearTyping_clocked (e.outbox.cancelAll e.timers).2 []
  obtain ⟨-, hsameSession⟩ := e.session.logout_clocked
    ((e.router.clearTyping (e.outbox.cancelAll e.timers).2).2.cancelWhere (·.isLocalTyping))
  let cancelled : Engine τ := { e with
    outbox := (e.outbox.cancelAll e.timers).1
    timers := (e.outbox.cancelAll e.timers).2 }
  let cleared : Engine τ := { cancelled with
    timers := (e.router.clearTyping (e.outbox.cancelAll e.timers).2).2 }
  let stopped : Engine τ := { cleared with
    timers := cleared.timers.cancelWhere (·.isLocalTyping) }
  have hcancelled : Follows now e [] [.cancelAll] cancelled [] :=
    .operate rfl fun hwatched => hwatched.cancelAll h.sound
  have hcleared : Follows now cancelled [] [] cleared [] :=
    .aside .router rfl hsameRouter (.refl _ _) nofun
  have hstopped : Follows now cleared [] [] stopped [] :=
    .aside .user rfl (SameBut.cancelWhere _ fun key hkey => by
      cases key <;> first | rfl | cases hkey) (.refl _ _) nofun
  have hended : Follows now stopped [] [] e.endLogin [] :=
    .aside .session rfl hsameSession (.refl _ _) nofun
  have hquiet := ((hcancelled.trans hcleared).trans hstopped).trans hended
  exact hquiet.trans (processSignals_follows (endLogin_clocked h) fun _ => .inr rfl)

omit [Transport τ] in
theorem stopTyping_follows (hs : e.outbox.Sound) (a : Action) :
    Follows now e [] (e.stopTypingCalls a now)
      (if a.kind = .sendMessage then e.stopTyping a.chat now else e) [] := by
  unfold stopTypingCalls stopTyping
  by_cases hk : a.kind = .sendMessage
  · by_cases hc : a.chat ∈ e.localTyping
    · rw [if_pos ⟨hk, hc⟩, if_pos hk, if_pos hc]
      let ended : Engine τ := { e with
        localTyping := e.localTyping.erase a.chat
        timers := e.timers.cancel (.localTyping a.chat) }
      have hended : Follows now e [] [] ended [] :=
        .aside .user rfl (SameBut.cancel e.timers (.localTyping a.chat)) (.refl _ _) nofun
      exact hended.after (enqueueNew_follows (e := ended) hs (.typingStop a.chat) now)
    · rw [if_neg (fun h => hc h.2), if_pos hk, if_neg hc]
      exact .refl e
  · rw [if_neg (fun h => hk h.1), if_neg hk]
    exact .refl e

theorem submit_follows (h : e.Clocked []) {a : Action} (hstate : a.state = .pending)
    (hretries : a.retries = 0) :
    Follows now e [] (e.stepCalls (.submit a now)) (e.step (.submit a now)) [] := by
  dsimp only [stepCalls, step, submit]
  rcases a.intent.check with fault | ⟨⟩
  · exact .refl e
  · dsimp only
    have hstop : Follows now e [] _ _ [] := stopTyping_follows h.sound a
    have hstopped := stopTyping_clocked h a now
    have hsession : (if a.kind = .sendMessage then e.stopTyping a.chat now else e).session =
        e.session := by
      obtain ⟨_, _, _, _, heq⟩ := e.stopTyping_eq a now
      rw [heq]
    generalize (if a.kind = .sendMessage then e.stopTyping a.chat now else e) = stopped at *
    have hnote : Follows now stopped [] [] (stopped.noteChat a.chat none) [] := .still rfl rfl
    have hnoted : (stopped.noteChat a.chat none).Clocked [] := hstopped.of_eq rfl rfl rfl rfl rfl
    have hqueue := hnote.after (enqueue_follows hnoted.sound hstate hretries)
    have hqueued := enqueue_clocked hnoted hstate (.inl rfl)
    -- the echo of a message goes into the store and nowhere else
    have hdone : ∀ {echoed : Engine τ},
        Follows now ((stopped.noteChat a.chat none).enqueue a).2 [] [] echoed [] →
        echoed.Clocked [] → echoed.session = e.session →
        Follows now e [] (e.stopTypingCalls a now ++ .enqueue a ::
          (e.flushCalls now ++ [.takeSettled])) (echoed.flush now).publishSettled [] := by
      intro echoed hecho hechoed hsame
      have hflushed := (((hstop.trans hqueue).trans hecho).trans (flush_follows hechoed)).trans
        (publishSettled_follows _)
      rw [flushCalls_congr hsame, List.append_nil, List.append_assoc, List.append_assoc] at hflushed
      exact hflushed
    split
    · exact hdone (.still rfl rfl) (hqueued.of_eq rfl rfl rfl rfl rfl) hsession
    · exact hdone (.refl _) hqueued hsession

theorem keystroke_follows (h : e.Clocked []) (chat : String) :
    Follows now e [] (e.stepCalls (.keystroke chat now)) (e.step (.keystroke chat now)) [] := by
  dsimp only [stepCalls, step, keystroke]
  rcases checkChat chat with fault | ⟨⟩
  · exact .refl e
  · dsimp only
    have hready := startTyping_clocked h chat now
    have hstart : Follows now e []
        (if chat ∈ e.localTyping then []
          else [.enqueue (.new e.newId.1 (.typingStart chat) now)])
        (if chat ∈ e.localTyping then e
          else { e with localTyping := chat :: e.localTyping }.enqueueNew (.typingStart chat)
            now) [] := by
      split
      · exact .refl e
      · let noted : Engine τ := { e with localTyping := chat :: e.localTyping }
        have hnoted : Follows now e [] [] noted [] := .still rfl rfl
        exact hnoted.after (enqueueNew_follows (e := noted) h.sound (.typingStart chat) now)
    have hsession : (if chat ∈ e.localTyping then e
        else { e with localTyping := chat :: e.localTyping }.enqueueNew (.typingStart chat)
          now).session = e.session := by
      split <;> rfl
    generalize (if chat ∈ e.localTyping then e
      else { e with localTyping := chat :: e.localTyping }.enqueueNew (.typingStart chat)
        now) = started at *
    have harm : Follows now started [] [] { started with
        timers := started.timers.schedule (.localTyping chat) (now + started.typingIdle) } [] :=
      .aside .user rfl (SameBut.schedule started.timers (.localTyping chat) _) (.refl _ _) nofun
    have hdone := ((hstart.trans harm).trans (flush_follows hready)).trans
      (publishSettled_follows _)
    have hcalls : { started with
        timers := started.timers.schedule (.localTyping chat)
          (now + started.typingIdle) }.flushCalls now = e.flushCalls now :=
      flushCalls_congr hsession now
    rw [hcalls, List.append_nil, List.append_assoc] at hdone
    exact hdone

/-- **Whatever a client is told to do**, its actions keep to the rules. -/
theorem step_follows (h : e.Clocked []) {i : Input τ} (hi : i.Proper) (now : Instant) :
    Follows (i.time?.getD now) e [] (e.stepCalls i) (e.step i) [] := by
  cases i with
  | connect credentials t =>
      dsimp only [stepCalls, step, connect]
      cases hconnect : e.session.connect credentials t e.timers with
      | error state => exact .refl e
      | ok answer =>
          obtain ⟨hs, hsame⟩ := Session.connect_clocked h.session credentials t hconnect
          exact processSession_follows h hs hsame
  | logout t => exact logout_follows h
  | submit a t =>
      obtain ⟨id, intent, created, rfl⟩ := hi
      exact submit_follows h rfl rfl
  | keystroke chat t => exact keystroke_follows h chat
  | event connection event t =>
      obtain ⟨hs, hsame⟩ := Session.handleEvent_clocked h.session connection event t
      exact processSession_follows h hs hsame
  | timers t =>
      have hdrain : Follows t e [] [] { e with timers := (e.timers.drain t).2 }
          (e.timers.due t) := ⟨rfl, fun hwatched => hwatched.drain rfl⟩
      exact hdrain.after (handleKeys_follows _ (h.drain t) (e.timers.due_nodup t))
  | history chat generation result t => exact applyHistory_follows h chat generation result
  | _ => exact .still rfl rfl

end Parts

/-! ## 5. The end of an active session -/

section Lost

/-- The notice tells that the session is not active any more. -/
def leavesActive : Notice → Bool
  | .stateChanged before _ => before = .active
  | _ => false

/-- The operation puts back what is not acknowledged. -/
def putsBack : Operation → Bool
  | .disconnect => true
  | _ => false

theorem count_cutOff_deeds (o : Outbox) (t : Timers) (op : Operation) :
    (o.deeds t op).count .cutOff = if putsBack op then 1 else 0 := by
  have hsettled : ∀ o' : Outbox, (o.settledSince o').count .cutOff = 0 := by
    refine fun o' => List.count_eq_zero.mpr fun hmem => ?_
    obtain ⟨_, -, hs⟩ := List.mem_map.mp (List.mem_reverse.mp hmem)
    cases hs
  cases op with
  | enqueue a =>
      dsimp only [Outbox.deeds]
      rw [List.count_append, hsettled]
      split <;> rfl
  | flush send sink now =>
      dsimp only [Outbox.deeds]
      rw [List.count_append, hsettled]
      simp [Outbox.sentAt, List.count_eq_zero, putsBack]
  | acknowledge ack => exact hsettled _
  | expire id now =>
      dsimp only [Outbox.deeds]
      rw [List.count_append, hsettled]
      split <;> rfl
  | disconnect => rfl
  | cancelAll => exact hsettled _
  | takeSettled => rfl

theorem count_cutOff_chronicle (r : Run) (ops : List Operation) :
    (r.chronicle ops).count .cutOff = ops.countP putsBack := by
  induction ops generalizing r with
  | nil => rfl
  | cons op rest ih =>
      rw [Run.chronicle, List.count_append, ih, count_cutOff_deeds, List.countP_cons]

variable [Transport τ]

theorem flushCalls_putsBack (e : Engine τ) (now : Instant) :
    (e.flushCalls now).countP putsBack = 0 := by
  unfold flushCalls
  split <;> rfl

/-- What is not acknowledged is put back when it is published that the session is not active. -/
theorem signalCalls_putsBack (e : Engine τ) (now : Instant) (x : Session.Signal) :
    (e.signalCalls now x).countP putsBack = x.notice?.toList.countP leavesActive := by
  cases x with
  | stateChanged before after =>
      dsimp only [signalCalls, Session.Signal.notice?]
      rw [List.countP_append]
      have hflush : (if after = .active then e.flushCalls now else []).countP putsBack = 0 := by
        split
        · exact e.flushCalls_putsBack now
        · rfl
      rw [hflush]
      by_cases hb : before = .active <;> simp [hb, leavesActive, putsBack]
  | inbound frame =>
      cases frame with
      | ack ack =>
          dsimp only [signalCalls]
          split <;> simp [flushCalls_putsBack, putsBack, Session.Signal.notice?]
      | _ => rfl
  | _ => rfl

theorem signalsCalls_putsBack (signals : List Session.Signal) (e : Engine τ) (now : Instant) :
    (signalsCalls now e signals).countP putsBack =
      (signals.filterMap Session.Signal.notice?).countP leavesActive := by
  induction signals generalizing e with
  | nil => rfl
  | cons x rest ih =>
      rw [signalsCalls, List.countP_append, ih, signalCalls_putsBack]
      cases hx : x.notice? <;> simp [hx, Nat.add_comm, List.countP_cons]

omit [Transport τ] in
theorem settledSince_leavesActive (e e' : Engine τ) :
    (e.settledSince e').countP leavesActive = 0 := by
  refine List.countP_eq_zero.mpr fun n hn => ?_
  obtain ⟨_, -, rfl⟩ := List.mem_map.mp hn
  exact Bool.false_ne_true

theorem processCalls_putsBack (e : Engine τ) (now : Instant) :
    (e.processCalls now).countP putsBack = (e.processNotices now).countP leavesActive := by
  rw [processCalls, processNotices, List.countP_append, List.countP_append, signalsCalls_putsBack,
    settledSince_leavesActive]
  rfl

theorem keyCalls_putsBack (e : Engine τ) (now : Instant) (key : Key) :
    (e.keyCalls now key).countP putsBack = (e.keyNotices now key).countP leavesActive := by
  unfold keyCalls keyNotices
  cases e.session.handleTimer key now e.timers with
  | some answer => exact processCalls_putsBack _ now
  | none =>
      rw [settledSince_leavesActive, List.countP_append]
      cases key with
      | action id => simp [flushCalls_putsBack, putsBack]
      | localTyping chat =>
          dsimp only
          split <;> simp [flushCalls_putsBack, putsBack]
      | _ => rfl

theorem keysCalls_putsBack (keys : List Key) (e : Engine τ) (now : Instant) :
    (keysCalls now e keys).countP putsBack = (keysNotices now e keys).countP leavesActive := by
  induction keys generalizing e with
  | nil => rfl
  | cons key rest ih =>
      rw [keysCalls, keysNotices, List.countP_append, List.countP_append, ih, keyCalls_putsBack]

/-- **The outbox hears of every end of an active session**, and of no other. -/
theorem stepCalls_putsBack (e : Engine τ) (i : Input τ) :
    (e.stepCalls i).countP putsBack = (e.stepNotices i).countP leavesActive := by
  cases i with
  | connect credentials now =>
      dsimp only [stepCalls, stepNotices]
      cases e.session.connect credentials now e.timers with
      | ok answer => exact processCalls_putsBack _ now
      | error state => rfl
  | logout now =>
      dsimp only [stepCalls, stepNotices]
      rw [List.countP_cons, processCalls_putsBack]
      rfl
  | event connection event now => exact processCalls_putsBack _ now
  | timers now => exact keysCalls_putsBack _ _ now
  | submit a now =>
      dsimp only [stepCalls, stepNotices]
      rw [settledSince_leavesActive]
      cases a.intent.check with
      | ok _ =>
          dsimp only [stopTypingCalls]
          split <;> simp [flushCalls_putsBack, putsBack]
      | error fault => rfl
  | keystroke chat now =>
      dsimp only [stepCalls, stepNotices]
      rw [settledSince_leavesActive]
      cases checkChat chat with
      | ok _ =>
          dsimp only
          split <;> simp [flushCalls_putsBack, putsBack]
      | error fault => rfl
  | history chat generation result now =>
      cases result with
      | ok messages => rfl
      | error reason =>
          dsimp only [stepCalls, stepNotices]
          split <;> rfl
  | _ => rfl

end Lost

/-! ## 6. Runs -/

section Runs

open Outbox (history timeouts acked? attempts attemptLimit Concluded)

variable [Transport τ] {e : Engine τ}

/-- What becomes of the actions in a run. -/
def chronicle (e : Engine τ) (inputs : List (Input τ)) : List Deed :=
  (Run.start e.outbox e.timers).chronicle (e.calls inputs)

theorem chronicle_cons {i : Input τ}
    (h : (e.step i).outbox = ((Run.start e.outbox e.timers).performAll (e.stepCalls i)).outbox)
    (rest : List (Input τ)) : e.chronicle (i :: rest) =
      (e.step i).chronicle rest ++ (Run.start e.outbox e.timers).chronicle (e.stepCalls i) := by
  have halike : ((Run.start e.outbox e.timers).performAll (e.stepCalls i)).Alike
      (Run.start (e.step i).outbox (e.step i).timers)
      ((Run.start e.outbox e.timers).performAll (e.stepCalls i)).log := ⟨h.symm, rfl⟩
  rw [chronicle, calls, Run.chronicle_append, halike.chronicle]
  rfl

/-- In every run actions are where their histories lead, as long as time does not run backwards. -/
theorem run_watched {ackTimeout : Duration} {retry : Backoff} {log : List Deed} {now : Instant}
    (h : e.Clocked []) (hwatched : Watched ackTimeout retry (e.moment [] now) log)
    (inputs : List (Input τ)) (hinputs : ∀ i ∈ inputs, i.Proper)
    (hrising : (now :: inputs.filterMap Input.time?).Pairwise (· ≤ ·)) :
    ∃ now', Watched ackTimeout retry ((e.run inputs).moment [] now')
      (e.chronicle inputs ++ log) := by
  induction inputs generalizing e now log with
  | nil => exact ⟨now, hwatched⟩
  | cons i rest ih =>
      obtain ⟨hi, hrest⟩ := List.forall_mem_cons.mp hinputs
      have hclocked := step_clocked h i hi
      have hfollows := step_follows h hi now
      rw [chronicle_cons hfollows.outbox, List.append_assoc]
      cases ht : i.time? with
      | none =>
          rw [List.filterMap_cons_none ht] at hrising
          rw [ht] at hfollows
          exact ih hclocked (hfollows.watched hwatched) hrest hrising
      | some t =>
          rw [List.filterMap_cons_some ht] at hrising
          rw [ht] at hfollows
          have hlater := List.rel_of_pairwise_cons hrising List.mem_cons_self
          exact ih hclocked (hfollows.watched (hwatched.later hlater)) hrest hrising.of_cons

omit [Transport τ] in
/-- At first no action was ever queued. -/
theorem Fresh.watched (h : e.Fresh) :
    Watched e.outbox.ackTimeout e.outbox.retry (e.moment [] 0) [] := by
  refine ⟨⟨rfl, rfl⟩, fun id => ⟨.away, .unborn, ?_⟩⟩
  refine h.rule fun settings endpoint transport entropy ids store historyEnabled => ?_
  exact fun a ⟨_, c, ha⟩ => absurd ha List.not_mem_nil

/-- Connections are lost when it is published that the session is not active any more. -/
theorem count_cutOff (h : e.Quiet) (inputs : List (Input τ)) :
    (e.chronicle inputs).count .cutOff =
      (e.published (inputs.map .input)).countP leavesActive := by
  induction inputs generalizing e with
  | nil => rfl
  | cons i rest ih =>
      have hworked : (e.step i).outbox =
          ((Run.start e.outbox e.timers).performAll (e.stepCalls i)).outbox := by
        by_cases hi : i.ReadsOut
        · obtain rfl | rfl | ⟨inbox, rfl⟩ := hi <;> rfl
        · exact (step_works h.sound i hi).outbox
      rw [chronicle_cons hworked, List.count_append, ih (step_quiet h i), count_cutOff_chronicle,
        stepCalls_putsBack, Nat.add_comm]
      exact List.countP_append.symm

/-- How a client sends again in a run. -/
structure Persevering (e : Engine τ) (inputs : List (Input τ)) : Prop where
  /-- The history of every action keeps to the rules, and leads nowhere if the action is not
  queued. -/
  lives : ∀ id, ∃ p, Life e.outbox.ackTimeout e.outbox.retry id
    (history id (e.chronicle inputs)) p ∧ (p = .away ↔ (e.run inputs).outbox.get? id = none)
  /-- What counts is how often an action was not acknowledged in time. -/
  counted : ∀ id a, (e.run inputs).outbox.get? id = some a →
    a.retries = timeouts (history id (e.chronicle inputs)) ∧
      acked? (history id (e.chronicle inputs)) = some a.kind.requiresAck
  /-- Whatever is sent twice has to be acknowledged. First of all since the first attempt the
  connection was lost, or the action was overdue and the second attempt waited for the delay. -/
  between : ∀ id newer second mid first older,
    history id (e.chronicle inputs) = newer ++ .sent id second :: (mid ++ .sent id first :: older) →
    (∀ d ∈ mid, (∀ acked, d ≠ .queued id acked) ∧ ∀ now, d ≠ .sent id now) →
    acked? (mid ++ .sent id first :: older) = some true ∧
      ∃ rest d, mid = rest ++ [d] ∧ (d = .cutOff ∨ ∃ now, d = .overdue id now ∧
        first + e.outbox.ackTimeout ≤ now ∧
          now + e.outbox.retry.delay (timeouts (mid ++ .sent id first :: older) - 1) ≤ second)
  /-- What needs no acknowledgement is sent once at the most. -/
  once : ∀ id, acked? (history id (e.chronicle inputs)) = some false →
    attempts (history id (e.chronicle inputs)) ≤ 1
  /-- An action fails when it was overdue as often as may be. -/
  failed : ∀ id newer n older,
    history id (e.chronicle inputs) = newer ++ .settled id (.failed n) :: older →
    n = attemptLimit e.outbox.retry ∧ timeouts older = n ∧
      ∃ now rest, older = .overdue id now :: rest
  /-- It is not overdue more often, and then it fails at once. -/
  overdue : ∀ id newer now older,
    history id (e.chronicle inputs) = newer ++ .overdue id now :: older →
    Concluded e.outbox.retry id newer (.overdue id now :: older)
  /-- Connections are lost when it is published that the session is not active any more. -/
  lost : (e.chronicle inputs).count .cutOff =
    (e.published (inputs.map .input)).countP leavesActive

/-- **In every run an action is sent again only when it may be**, as long as time does not run
backwards. -/
theorem run_persevering (he : e.Fresh) (inputs : List (Input τ))
    (hinputs : ∀ i ∈ inputs, i.Proper)
    (hrising : (inputs.filterMap Input.time?).Pairwise (· ≤ ·)) : e.Persevering inputs := by
  obtain ⟨now, -, hlives⟩ := run_watched he.clocked he.watched inputs hinputs
    (hrising.cons fun _ _ => Nat.zero_le _)
  rw [List.append_nil] at hlives
  have hsound := (run_quiet he.quiet inputs).sound
  have hlife : ∀ id, ∃ p, Life e.outbox.ackTimeout e.outbox.retry id
      (history id (e.chronicle inputs)) p := fun id => ⟨_, (hlives id).choose_spec.1⟩
  refine ⟨fun id => ?_, fun id a ha => ?_, fun id newer second mid first older hhistory hmid => ?_,
    fun id hacked => ?_, fun id newer n older hhistory => ?_,
    fun id newer now older hhistory => ?_, ?_⟩
  · obtain ⟨p, h, hhas⟩ := hlives id
    refine ⟨p, h, ?_⟩
    have hqueued : ∀ {a}, (e.run inputs).outbox.Queues id a →
        (e.run inputs).outbox.get? id ≠ none := fun ha hnone => by
      rw [hsound.get?_eq_some_iff.mpr ha] at hnone
      cases hnone
    cases p with
    | away =>
        refine iff_of_true rfl (Option.eq_none_iff_forall_ne_some.mpr fun a ha => ?_)
        exact hhas a (hsound.get?_eq_some_iff.mp ha)
    | ready acked n earliest => exact iff_of_false nofun (hqueued hhas.choose_spec.1)
    | flying n since => exact iff_of_false nofun (hqueued hhas.choose_spec.1)
  · obtain ⟨earliest, h, -⟩ | ⟨since, h, hacked, -⟩ := (hlives id).of_queues hsound.apart
      (hsound.get?_eq_some_iff.mp ha)
    · exact ⟨(h.counted.1 _ _ _ rfl).1.symm, h.answered.1 _ _ _ rfl⟩
    · exact ⟨(h.counted.2 _ _ rfl).1.symm, hacked ▸ h.answered.2 _ _ rfl⟩
  · obtain ⟨p, h⟩ := hlife id
    rw [hhistory] at h
    exact h.between hmid
  · obtain ⟨p, h⟩ := hlife id
    exact (h.once hacked).1
  · obtain ⟨p, h⟩ := hlife id
    rw [hhistory] at h
    exact h.failed
  · obtain ⟨p, h⟩ := hlife id
    rw [hhistory] at h
    exact h.overdue
  · exact count_cutOff he.quiet inputs

/-- A message is not acknowledged and is sent again after the first delay. -/
theorem run_persevering_resent : ∃ e : Engine MemoryTransport, e.Fresh ∧
    let inputs := [.connect ⟨"u1", "t1"⟩ 0, .event 1 .opened 1,
      .event 1 (.frame "\x7b\"type\": \"auth_ok\"\x7d") 2,
      .submit (.new "a1" (.text "42" "one") 3) 3, .timers 10000000003, .timers 11000000003]
    e.Persevering inputs ∧ history "a1" (e.chronicle inputs) =
      [.sent "a1" 11000000003, .overdue "a1" 10000000003, .sent "a1" 3, .queued "a1" true] := by
  obtain ⟨e, he, hhistory⟩ := exists_fresh_of (fun e => history "a1" (e.chronicle [
      .connect ⟨"u1", "t1"⟩ 0, .event 1 .opened 1,
      .event 1 (.frame "\x7b\"type\": \"auth_ok\"\x7d") 2,
      .submit (.new "a1" (.text "42" "one") 3) 3, .timers 10000000003, .timers 11000000003]) =
        [.sent "a1" 11000000003, .overdue "a1" 10000000003, .sent "a1" 3, .queued "a1" true])
    (by decide +kernel)
  exact ⟨e, he, run_persevering he _ (by simp [Input.Proper]) (by simp [Input.time?]),
    hhistory⟩

end Runs

end RealtimeChat.Engine
