import RealtimeChat.Proofs.Engine.Settling
import RealtimeChat.Proofs.Outbox.Deadlines
import RealtimeChat.Proofs.Outbox.Provenance
import RealtimeChat.Proofs.Router
import RealtimeChat.Proofs.Router.Typing
import RealtimeChat.Proofs.Session.Deadlines
/-!
# The deadlines of a client's core

The session, the outbox, the router and the user's own typing share one set of timers. Each arms
and disarms keys of its own, and an input may take the core through several of them. Deadlines that
have passed are taken out of the timers together; while one of them is handled, the others are owed
and may concern something that is there no more.

* `Clocked` -- the armed keys are those of what waits, apart from what is owed;
* `onSession`, `onOutbox`, `onRouter`, `onTyping` -- one part goes on, the others stay as they are;
* `Punctual` -- the armed keys and their deadlines between two inputs;
* **`timers_mirror_state`** -- in every run, and nothing waits after logging out.
-/

namespace RealtimeChat.Engine

open Timer (Key)
open Timers (SameBut PaidBut)

/-! ## 1. The user's own typing -/

/-- The chats in which the user is typing are those whose keys are armed, apart from what is
owed. -/
structure TypingClocked (chats : List String) (t : Timers) (owed : List Key) : Prop where
  distinct : chats.Nodup
  armed : ∀ chat, t.isScheduled (.localTyping chat) = true ↔
    chat ∈ chats ∧ .localTyping chat ∉ owed

namespace TypingClocked

variable {chats : List String} {t t' : Timers} {owed : List Key} {chat : String}

/-- The keys of another part of a client play no part. -/
theorem frame {owner : Timer.Owner} {owed' : List Key} (h : TypingClocked chats t owed)
    (hsame : SameBut owner t t') (hpaid : PaidBut owner owed owed') (howner : owner ≠ .user) :
    TypingClocked chats t' owed' := by
  refine ⟨h.distinct, fun chat => ?_⟩
  rw [hsame.isScheduled (.localTyping chat) howner.symm,
    hpaid (.localTyping chat) howner.symm]
  exact h.armed chat

theorem drain (h : TypingClocked chats t []) (now : Instant) :
    TypingClocked chats (t.drain now).2 (t.due now) := by
  refine ⟨h.distinct, fun chat => ?_⟩
  rw [Timers.isScheduled_drain, h.armed]
  simp

/-- The user types on, or starts to. -/
theorem type (h : TypingClocked chats t []) (deadline : Instant) {chats' : List String}
    (hchats : chats' = if chat ∈ chats then chats else chat :: chats) :
    TypingClocked chats' (t.schedule (.localTyping chat) deadline) [] := by
  subst hchats
  constructor
  · split
    · exact h.distinct
    · rename_i hnew
      exact List.nodup_cons.mpr ⟨hnew, h.distinct⟩
  · intro other
    rw [Timers.isScheduled_schedule, h.armed]
    split
    · rename_i hold
      by_cases heq : chat = other
      · simp [← heq, hold]
      · simp [heq]
    · by_cases heq : chat = other
      · simp [heq]
      · simp [heq, Ne.symm heq]

/-- The user stops typing before the deadline. -/
theorem stop (h : TypingClocked chats t owed) (chat : String) :
    TypingClocked (chats.erase chat) (t.cancel (.localTyping chat)) owed := by
  refine ⟨h.distinct.erase chat, fun other => ?_⟩
  rw [Timers.isScheduled_cancel, h.armed, h.distinct.mem_erase_iff]
  simp only [ne_eq, Key.localTyping.injEq, eq_comm (a := chat)]
  tauto

/-- The deadline has passed. -/
theorem pay (h : TypingClocked chats t (.localTyping chat :: owed)) :
    TypingClocked (chats.erase chat) t owed := by
  refine ⟨h.distinct.erase chat, fun other => ?_⟩
  rw [h.armed, h.distinct.mem_erase_iff]
  simp only [List.mem_cons, Key.localTyping.injEq, not_or]
  tauto

theorem clear (t : Timers) (owed : List Key) :
    TypingClocked [] (t.cancelWhere (·.isLocalTyping)) owed := by
  refine ⟨.nil, fun chat => ?_⟩
  rw [Timers.isScheduled, Timers.deadline?_cancelWhere]
  simp [Key.isLocalTyping]

end TypingClocked

/-! ## 2. All parts -/

variable {τ : Type}

/-- The armed keys are those of what waits, apart from what is owed. -/
structure Clocked (e : Engine τ) (owed : List Key) : Prop where
  session : e.session.Clocked e.timers owed
  sound : e.outbox.Sound
  outbox : e.outbox.Clocked e.timers owed
  router : e.router.Clocked e.timers owed
  typing : TypingClocked e.localTyping e.timers owed
  /-- What an active session may send is not owed. -/
  steady : e.session.state = .active → e.outbox.Steady owed
  /-- What the session had to tell was taken in. -/
  told : e.session.signals = []

namespace Clocked

variable {e e' : Engine τ} {owed owed' : List Key}

theorem of_eq (h : e.Clocked owed) (hs : e'.session = e.session) (ho : e'.outbox = e.outbox)
    (hr : e'.router.typing = e.router.typing) (hl : e'.localTyping = e.localTyping)
    (ht : e'.timers = e.timers) : e'.Clocked owed := by
  refine ⟨?_, ?_, ?_, ?_, ?_, ?_, ?_⟩
  · rw [hs, ht]
    exact h.session
  · rw [ho]
    exact h.sound
  · rw [ho, ht]
    exact h.outbox
  · rw [ht]
    exact h.router.of_typing hr
  · rw [hl, ht]
    exact h.typing
  · rw [hs, ho]
    exact h.steady
  · rw [hs]
    exact h.told

/-- The session goes on. -/
theorem onSession (h : e.Clocked owed) {s : Session τ} {t : Timers} (hs : s.Clocked t owed')
    (hsame : SameBut .session e.timers t) (hpaid : PaidBut .session owed owed')
    (hsteady : s.state = .active → e.outbox.Steady owed') (htold : s.signals = []) :
    Clocked { e with session := s, timers := t } owed' :=
  ⟨hs, h.sound, h.outbox.frame hsame hpaid (by decide), h.router.frame hsame hpaid (by decide),
    h.typing.frame hsame hpaid (by decide), hsteady, htold⟩

/-- The outbox goes on. -/
theorem onOutbox (h : e.Clocked owed) {o : Outbox} {t : Timers} (hs : o.Sound)
    (ho : o.Clocked t owed') (hsame : SameBut .outbox e.timers t)
    (hpaid : PaidBut .outbox owed owed') (hsteady : e.session.state = .active → o.Steady owed') :
    Clocked { e with outbox := o, timers := t } owed' :=
  ⟨h.session.frame hsame hpaid (by decide), hs, ho, h.router.frame hsame hpaid (by decide),
    h.typing.frame hsame hpaid (by decide), hsteady, h.told⟩

/-- The router goes on. -/
theorem onRouter (h : e.Clocked owed) {r : Router} {t : Timers} (hr : r.Clocked t owed')
    (hsame : SameBut .router e.timers t) (hpaid : PaidBut .router owed owed')
    (hsteady : e.session.state = .active → e.outbox.Steady owed') :
    Clocked { e with router := r, timers := t } owed' :=
  ⟨h.session.frame hsame hpaid (by decide), h.sound, h.outbox.frame hsame hpaid (by decide), hr,
    h.typing.frame hsame hpaid (by decide), hsteady, h.told⟩

/-- The user types or stops typing. -/
theorem onTyping (h : e.Clocked owed) {chats : List String} {t : Timers}
    (ht : TypingClocked chats t owed') (hsame : SameBut .user e.timers t)
    (hpaid : PaidBut .user owed owed')
    (hsteady : e.session.state = .active → e.outbox.Steady owed') :
    Clocked { e with localTyping := chats, timers := t } owed' :=
  ⟨h.session.frame hsame hpaid (by decide), h.sound, h.outbox.frame hsame hpaid (by decide),
    h.router.frame hsame hpaid (by decide), ht, hsteady, h.told⟩

/-- When keys are taken out of the timers, they are owed. -/
theorem drain (h : e.Clocked []) (now : Instant) :
    Clocked { e with timers := (e.timers.drain now).2 } (e.timers.due now) :=
  have ⟨houtbox, hsteady⟩ := h.outbox.drain h.sound now
  ⟨h.session.drain now, h.sound, houtbox, h.router.drain now, h.typing.drain now,
    fun _ => hsteady, h.told⟩

end Clocked

/-! ## 3. Parts of inputs -/

section Parts

variable {e : Engine τ} {owed : List Key}

theorem publishSettled_clocked (h : e.Clocked owed) : e.publishSettled.Clocked owed := by
  obtain ⟨store, heq⟩ := e.publishSettled_eq
  have hsound := (publishSettled_works e).sound h.sound
  rw [heq] at hsound ⊢
  have houtbox := h.onOutbox (o := e.outbox.takeSettled.2) (t := e.timers) hsound
    (h.outbox.of_queue fun _ => rfl) (.refl _ _) (.refl _ _) fun hactive =>
      (h.steady hactive).of_queue fun _ => rfl
  exact houtbox.of_eq rfl rfl rfl rfl rfl

/-- What is queued while keys are owed needs no answer. -/
theorem enqueue_clocked (h : e.Clocked owed) {a : Action} (ha : a.state = .pending)
    (hk : owed = [] ∨ a.kind.requiresAck = false) : (e.enqueue a).2.Clocked owed := by
  obtain ⟨hclocked, hsame⟩ := Outbox.enqueue_clocked h.sound h.outbox ha
  have hsound := (enqueue_works h.sound a).sound h.sound
  refine h.onOutbox hsound hclocked hsame (.refl _ _) fun hactive =>
    Outbox.enqueue_steady h.sound (h.steady hactive) fun howed => hk.resolve_left fun hnil => ?_
  rw [hnil] at howed
  cases howed

theorem enqueueNew_clocked (h : e.Clocked owed) (intent : Intent) (now : Instant)
    (hk : owed = [] ∨ intent.kind.requiresAck = false) :
    (e.enqueueNew intent now).Clocked owed := by
  have hid : e.newId.2.Clocked owed := h.of_eq rfl rfl rfl rfl rfl
  exact enqueue_clocked hid rfl hk

theorem deliver_clocked (h : e.Clocked owed) (event : Event) (now : Instant) :
    (e.deliver event now).2.Clocked owed := by
  obtain ⟨hclocked, hsame⟩ := Router.dispatch_clocked h.router event now
  have hrouted := h.onRouter hclocked hsame (.refl _ _) h.steady
  unfold deliver
  dsimp only
  repeat' split
  all_goals exact hrouted.of_eq rfl rfl rfl rfl rfl

theorem deliver_session (e : Engine τ) (event : Event) (now : Instant) :
    (e.deliver event now).2.session = e.session := by
  obtain ⟨router, timers, cursors, store, heq⟩ := e.deliver_eq event now
  rw [heq]

theorem applyHistory_clocked (h : e.Clocked owed) (chat : String) (generation : Nat)
    (result : Except String (List Message)) (now : Instant) :
    (e.applyHistory chat generation result now).Clocked owed := by
  have along : ∀ (events : List Event) (e : Engine τ), e.Clocked owed →
      (events.foldl (fun e event => (e.deliver event now).2) e).Clocked owed := by
    intro events
    induction events with
    | nil => exact fun _ h => h
    | cons event rest ih => exact fun e h => ih _ (deliver_clocked h event now)
  unfold applyHistory
  split
  · split
    · exact along _ e h
    · exact h.of_eq rfl rfl rfl rfl rfl
  · exact h

variable [Transport τ]

theorem flush_clocked (h : e.Clocked owed) (now : Instant) :
    (e.flush now).Clocked owed ∧ (e.flush now).session.state = e.session.state := by
  unfold flush
  split
  · rename_i hactive
    obtain ⟨hclocked, hsteady, hsame⟩ :=
      Outbox.flush_clocked Session.sendFrame h.outbox (h.steady hactive) e.session now
    obtain ⟨transport, hsession⟩ := Outbox.flush_sink Session.sendFrame
      (Q := fun s : Session τ => ∃ transport, s = { e.session with transport })
      (fun s a ⟨_, hs⟩ => by
        obtain ⟨transport, hsent⟩ := s.sendFrame_eq a.frame
        exact ⟨transport, by rw [hsent, hs]⟩)
      e.outbox ⟨_, rfl⟩ now e.timers
    have hsound : (e.outbox.flush Session.sendFrame e.session now e.timers).2.1.Sound := by
      have hflushed := (flush_works h.sound now).sound h.sound
      rwa [flush, if_pos hactive] at hflushed
    generalize e.outbox.flush Session.sendFrame e.session now e.timers = r at *
    obtain ⟨written, o, s, t⟩ := r
    have houtbox := h.onOutbox hsound hclocked hsame (.refl _ _) fun _ => hsteady
    dsimp only at hsession ⊢
    subst hsession
    exact ⟨houtbox.onSession (houtbox.session.of_eq rfl rfl rfl rfl) (.refl _ _) (.refl _ _)
      houtbox.steady h.told, rfl⟩
  · exact ⟨h, rfl⟩

/-! ## 4. Signals of the session -/

theorem resume_clocked (h : e.Clocked owed) (now : Instant) :
    ((if 1 < e.session.activations then e.requestResync else e).flush now).Clocked owed ∧
      ((if 1 < e.session.activations then e.requestResync else e).flush now).session.state =
        e.session.state := by
  split
  · obtain ⟨historyRequests, heq⟩ := e.requestResync_eq
    rw [heq]
    have hasked : Clocked { e with historyRequests } owed := h.of_eq rfl rfl rfl rfl rfl
    exact flush_clocked hasked now
  · exact flush_clocked h now

omit [Transport τ] in
/-- When the session was active and is no more, what is owed may be sent again. -/
theorem disconnect_clocked (h : e.Clocked owed) (hidle : e.session.state = .active → owed = []) :
    Clocked { e with
      outbox := (e.outbox.disconnect e.timers).1
      timers := (e.outbox.disconnect e.timers).2 } owed := by
  obtain ⟨hclocked, hsame⟩ := Outbox.disconnect_clocked h.sound h.outbox
  refine h.onOutbox (disconnect_works.sound h.sound) hclocked hsame (.refl _ _) fun hactive => ?_
  rw [hidle hactive]
  exact Outbox.steady_nil _

theorem handleStateChange_clocked (h : e.Clocked owed)
    (hidle : e.session.state = .active → owed = []) (before after : Session.State)
    (now : Instant) :
    (e.handleStateChange before after now).Clocked owed ∧
      (e.handleStateChange before after now).session.state = e.session.state := by
  have hpublish : (e.publish (.stateChanged before after)).Clocked owed :=
    h.of_eq rfl rfl rfl rfl rfl
  unfold handleStateChange
  by_cases hb : before = .active
  · have hlost := disconnect_clocked hpublish hidle
    simp only [if_pos hb]
    split
    · exact resume_clocked hlost now
    · exact ⟨hlost, rfl⟩
  · simp only [if_neg hb]
    split
    · exact resume_clocked hpublish now
    · exact ⟨hpublish, rfl⟩

theorem handleInbound_clocked (h : e.Clocked owed) (frame : Incoming) (now : Instant) :
    (e.handleInbound frame now).Clocked owed ∧
      (e.handleInbound frame now).session.state = e.session.state := by
  cases frame with
  | ack ack =>
      obtain ⟨hclocked, hsame⟩ := Outbox.acknowledge_clocked h.sound h.outbox ack
      have hanswered := h.onOutbox ((acknowledge_works h.sound ack).sound h.sound) hclocked hsame
        (.refl _ _) fun hactive => Outbox.acknowledge_steady h.sound (h.steady hactive) e.timers ack
      simp only [handleInbound]
      split
      · exact flush_clocked hanswered now
      · exact ⟨hanswered, rfl⟩
  | event event =>
      exact ⟨deliver_clocked h event now,
        congrArg Session.state (deliver_session e event now)⟩
  | error code message => exact ⟨h.of_eq rfl rfl rfl rfl rfl, rfl⟩
  | authAccepted user => exact ⟨h, rfl⟩
  | authRejected reason => exact ⟨h, rfl⟩
  | pong => exact ⟨h, rfl⟩
  | unknown kind => exact ⟨h, rfl⟩

theorem handleSignal_clocked (h : e.Clocked owed)
    (hidle : e.session.state = .active → owed = []) (x : Session.Signal) (now : Instant) :
    (e.handleSignal x now).Clocked owed ∧
      (e.handleSignal x now).session.state = e.session.state := by
  cases x with
  | stateChanged before after => exact handleStateChange_clocked h hidle before after now
  | inbound frame => exact handleInbound_clocked h frame now
  | connectionLost connection reason => exact ⟨h, rfl⟩
  | _ => exact ⟨h.of_eq rfl rfl rfl rfl rfl, rfl⟩

theorem signals_clocked (signals : List Session.Signal) (h : e.Clocked owed)
    (hidle : e.session.state = .active → owed = []) (now : Instant) :
    (signals.foldl (fun e x => handleSignal e x now) e).Clocked owed := by
  induction signals generalizing e with
  | nil => exact h
  | cons x rest ih =>
      obtain ⟨hfirst, hstate⟩ := handleSignal_clocked h hidle x now
      exact ih hfirst (hstate ▸ hidle)

/-- An active session has nothing to tell while keys are owed. -/
theorem processSignals_clocked (h : Clocked { e with session := e.session.takeSignals.2 } owed)
    (hidle : e.session.state = .active → e.session.signals = [] ∨ owed = []) (now : Instant) :
    (e.processSignals now).Clocked owed := by
  refine publishSettled_clocked ?_
  show (e.session.signals.foldl (fun e x => handleSignal e x now)
    { e with session := e.session.takeSignals.2 }).Clocked owed
  cases hsignals : e.session.signals with
  | nil => exact h
  | cons x rest =>
      refine signals_clocked _ h (fun hactive => (hidle hactive).resolve_left ?_) now
      simp [hsignals]

end Parts

/-! ## 5. Deadlines that have passed -/

section Timers

variable [Transport τ] {e : Engine τ} {owed : List Key} {key : Key}

/-- **A deadline that has passed** is paid, and what waits afterwards is armed. -/
theorem handleTimer_clocked (h : e.Clocked (key :: owed)) (hkey : key ∉ owed) (now : Instant) :
    (e.handleTimer key now).Clocked owed := by
  have hsteady : e.session.state = .active → e.outbox.Steady owed :=
    fun hactive => (h.steady hactive).pay
  unfold handleTimer
  split
  · rename_i s t hs
    obtain ⟨hclocked, hsame⟩ := Session.handleTimer_clocked h.session hkey now hs
    have hquiet := Session.handleTimer_quiet hs
    have howner : key.owner = .session := by
      cases key <;> first | rfl | cases hs
    refine processSignals_clocked (e := { e with session := s, timers := t })
      (h.onSession (s := s.takeSignals.2) (hclocked.of_eq rfl rfl rfl rfl) hsame
        (.head key howner owed) (fun hactive => hsteady (hquiet hactive).1) rfl)
      (fun hactive => ?_) now
    exact .inl ((hquiet hactive).2.trans h.told)
  · rename_i hs
    refine publishSettled_clocked ?_
    cases key with
    | action id =>
        obtain ⟨hclocked, hsame⟩ := Outbox.expire_clocked h.sound h.outbox hkey now
        have hexpired := h.onOutbox ((expire_works h.sound id now).sound h.sound) hclocked hsame
          (.head (.action id) rfl owed) fun hactive =>
            Outbox.expire_steady h.sound (h.steady hactive) hkey e.timers now
        exact (flush_clocked hexpired now).1
    | typingSweep =>
        obtain ⟨hclocked, hsame⟩ := e.router.expireTyping_clocked now e.timers owed
        have hrouted := h.onRouter hclocked hsame (.head .typingSweep rfl owed) hsteady
        obtain ⟨store, hsweep⟩ := e.sweepTyping_eq now
        simp only [hsweep]
        exact hrouted.of_eq rfl rfl rfl rfl rfl
    | localTyping chat =>
        have hstopped := h.onTyping h.typing.pay (.refl _ _) (.head (.localTyping chat) rfl owed)
          hsteady
        simp only [endLocalTyping]
        split
        · have hqueued := enqueueNew_clocked hstopped (.typingStop chat) now (.inr rfl)
          exact (flush_clocked hqueued now).1
        · rename_i hother
          rw [List.erase_of_not_mem hother] at hstopped
          exact hstopped
    | handshake | reconnect | heartbeat | liveness => cases hs

/-- **So are all that have passed together**, though one may make another one pointless. -/
theorem handleKeys_clocked (keys : List Key) (h : e.Clocked keys) (hkeys : keys.Nodup)
    (now : Instant) : (keys.foldl (fun e key => handleTimer e key now) e).Clocked [] := by
  induction keys generalizing e with
  | nil => exact h
  | cons key rest ih =>
      obtain ⟨hkey, hrest⟩ := List.nodup_cons.mp hkeys
      exact ih (handleTimer_clocked h hkey now) hrest

theorem handleTimers_clocked (h : e.Clocked []) (now : Instant) : (e.handleTimers now).Clocked [] :=
  handleKeys_clocked _ (h.drain now) (e.timers.due_nodup now) now

end Timers

/-! ## 6. Inputs -/

/-- Only new actions are submitted. -/
def Input.Proper : Input τ → Prop
  | .submit a _ => ∃ id intent created, a = .new id intent created
  | _ => True

section Inputs

variable [Transport τ] {e : Engine τ}

/-- What the session did is taken in. -/
theorem processSession_clocked (h : e.Clocked []) {s : Session τ} {t : Timers}
    (hs : s.Clocked t []) (hsame : SameBut .session e.timers t) (now : Instant) :
    ({ e with session := s, timers := t }.processSignals now).Clocked [] :=
  processSignals_clocked (e := { e with session := s, timers := t })
    (h.onSession (s := s.takeSignals.2) (hs.of_eq rfl rfl rfl rfl) hsame (.refl _ _)
      (fun _ => Outbox.steady_nil _) rfl)
    (fun _ => .inr rfl) now

theorem endLogin_clocked (h : e.Clocked []) :
    Clocked { e.endLogin with session := e.endLogin.session.takeSignals.2 } [] := by
  obtain ⟨houtbox, hsameOutbox⟩ := e.outbox.cancelAll_clocked e.timers []
  have hcancelled := h.onOutbox ((endLogin_works h.sound).sound h.sound) houtbox hsameOutbox
    (.refl _ _) fun _ => Outbox.steady_nil _
  obtain ⟨hrouter, hsameRouter⟩ := e.router.clearTyping_clocked (e.outbox.cancelAll e.timers).2 []
  have hcleared := hcancelled.onRouter hrouter hsameRouter (.refl _ _) hcancelled.steady
  have hstopped := hcleared.onTyping (TypingClocked.clear _ []) (SameBut.cancelWhere _
    fun key hkey => by cases key <;> first | rfl | cases hkey) (.refl _ _) hcleared.steady
  obtain ⟨hsession, hsameSession⟩ := e.session.logout_clocked
    ((e.router.clearTyping (e.outbox.cancelAll e.timers).2).2.cancelWhere (·.isLocalTyping))
  exact (hstopped.onSession (s := e.endLogin.session.takeSignals.2)
    (hsession.of_eq rfl rfl rfl rfl) hsameSession (.refl _ _) (fun _ => Outbox.steady_nil _)
    rfl).of_eq rfl rfl rfl rfl rfl

theorem logout_clocked (h : e.Clocked []) (now : Instant) : (e.logout now).Clocked [] :=
  processSignals_clocked (endLogin_clocked h) (fun _ => .inr rfl) now

omit [Transport τ] in
/-- Who sends a message stops typing before. -/
theorem stopTyping_clocked (h : e.Clocked []) (a : Action) (now : Instant) :
    (if a.kind = .sendMessage then e.stopTyping a.chat now else e).Clocked [] := by
  unfold stopTyping
  split
  · split
    · exact enqueueNew_clocked (h.onTyping (h.typing.stop a.chat)
        (SameBut.cancel e.timers (.localTyping a.chat)) (.refl _ _) h.steady) _ now (.inl rfl)
    · exact h
  · exact h

theorem submit_clocked (h : e.Clocked []) {a : Action} (ha : a.state = .pending) (now : Instant) :
    (e.step (.submit a now)).Clocked [] := by
  dsimp only [step, submit]
  rcases a.intent.check with fault | ⟨⟩
  · exact h
  · dsimp only
    have hstop := stopTyping_clocked h a now
    generalize (if a.kind = .sendMessage then e.stopTyping a.chat now else e) = stopped at *
    have hnote : (stopped.noteChat a.chat none).Clocked [] := hstop.of_eq rfl rfl rfl rfl rfl
    have hqueued := enqueue_clocked hnote ha (.inl rfl)
    refine publishSettled_clocked (flush_clocked ?_ now).1
    split
    · exact hqueued.of_eq rfl rfl rfl rfl rfl
    · exact hqueued

omit [Transport τ] in
/-- Who starts to type has not typed before, or types on. -/
theorem startTyping_clocked (h : e.Clocked []) (chat : String) (now : Instant) :
    let started := if chat ∈ e.localTyping then e
      else { e with localTyping := chat :: e.localTyping }.enqueueNew (.typingStart chat) now
    Clocked { started with
      timers := started.timers.schedule (.localTyping chat) (now + started.typingIdle) } [] := by
  by_cases hchat : chat ∈ e.localTyping
  · simp only [if_pos hchat]
    exact h.onTyping (h.typing.type (now + e.typingIdle) (if_pos hchat).symm)
      (SameBut.schedule e.timers (.localTyping chat) _) (.refl _ _) h.steady
  · -- queueing does not look at the chats, so that the chat may be noted afterwards
    have hqueued := enqueueNew_clocked h (.typingStart chat) now (.inl rfl)
    simp only [if_neg hchat]
    exact hqueued.onTyping (hqueued.typing.type (now + e.typingIdle) (if_neg hchat).symm)
      (SameBut.schedule _ (.localTyping chat) _) (.refl _ _) hqueued.steady

theorem keystroke_clocked (h : e.Clocked []) (chat : String) (now : Instant) :
    (e.step (.keystroke chat now)).Clocked [] := by
  dsimp only [step, keystroke]
  rcases checkChat chat with fault | ⟨⟩
  · exact h
  · exact publishSettled_clocked (flush_clocked (startTyping_clocked h chat now) now).1

/-- **Whatever a client is told to do**, what waits afterwards is armed and nothing else. -/
theorem step_clocked (h : e.Clocked []) (i : Input τ) (hi : i.Proper) : (e.step i).Clocked [] := by
  cases i with
  | connect credentials now =>
      dsimp only [step, connect]
      cases hconnect : e.session.connect credentials now e.timers with
      | error state => exact h
      | ok r =>
          obtain ⟨hs, hsame⟩ := Session.connect_clocked h.session credentials now hconnect
          exact processSession_clocked h hs hsame now
  | logout now => exact logout_clocked h now
  | submit a now =>
      obtain ⟨id, intent, created, rfl⟩ := hi
      exact submit_clocked h rfl now
  | keystroke chat now => exact keystroke_clocked h chat now
  | event connection event now =>
      obtain ⟨hs, hsame⟩ := Session.handleEvent_clocked h.session connection event now
      exact processSession_clocked h hs hsame now
  | timers now => exact handleTimers_clocked h now
  | history chat generation result now => exact applyHistory_clocked h chat generation result now
  | transport f =>
      exact h.onSession (h.session.of_eq rfl rfl rfl rfl) (.refl _ _) (.refl _ _) h.steady h.told
  | _ => exact h.of_eq rfl rfl rfl rfl rfl

theorem run_clocked (h : e.Clocked []) (inputs : List (Input τ))
    (hinputs : ∀ i ∈ inputs, i.Proper) : (e.run inputs).Clocked [] := by
  induction inputs generalizing e with
  | nil => exact h
  | cons i rest ih =>
      obtain ⟨hi, hrest⟩ := List.forall_mem_cons.mp hinputs
      exact ih (step_clocked h i hi) hrest

end Inputs

/-! ## 7. Between two inputs -/

theorem Fresh.clocked {e : Engine τ} (h : e.Fresh) : e.Clocked [] := by
  refine h.rule fun settings endpoint transport entropy ids store historyEnabled => ?_
  refine ⟨.of_idle rfl rfl (fun _ _ => rfl) Session.not_owed, Outbox.new_sound _ _,
    ⟨fun id => ?_, fun c a ha => absurd ha List.not_mem_nil⟩, fun _ => rfl,
    ⟨.nil, fun chat => ?_⟩, fun _ => Outbox.steady_nil _, rfl⟩
  · refine iff_of_false (by simp [Timers.isScheduled]) ?_
    rintro ⟨⟨c, a, ha, -⟩, -⟩
    exact absurd ha List.not_mem_nil
  · exact iff_of_false (by simp [Timers.isScheduled]) fun hc => absurd hc.1 List.not_mem_nil

/-- The armed keys between two inputs are those of what waits, and their deadlines are those of
what they are about. A live session waits for something that moves it on. -/
structure Punctual (e : Engine τ) [Transport τ] : Prop where
  handshake : e.timers.isScheduled .handshake = true ↔
    e.session.state = .connecting ∨ e.session.state = .authenticating
  handshakeAt : ∀ deadline, e.timers.deadline? .handshake = some deadline →
    ∃ c, e.session.connection = some c ∧ deadline = c.created + e.session.plan.handshakeTimeout
  reconnect : e.timers.isScheduled .reconnect = true ↔ e.session.state = .reconnecting
  heartbeat : e.timers.isScheduled .heartbeat = true ↔ e.session.state = .active
  liveness : e.timers.isScheduled .liveness = true ↔ e.session.state = .active
  livenessAt : ∀ deadline, e.timers.deadline? .liveness = some deadline →
    ∃ c, e.session.connection = some c ∧
      deadline = c.lastActivity + e.session.plan.heartbeatTimeout
  action : ∀ id, e.timers.isScheduled (.action id) = true ↔
    ∃ a, e.outbox.get? id = some a ∧ (a.state = .inFlight ∨ a.state = .waiting)
  typingSweep : e.timers.isScheduled .typingSweep = true ↔
    ∃ who expiry, e.router.typing.deadline? who = some expiry
  typingSweepAt : ∀ deadline, e.timers.deadline? .typingSweep = some deadline →
    (∃ who, e.router.typing.deadline? who = some deadline) ∧
      ∀ who expiry, e.router.typing.deadline? who = some expiry → deadline ≤ expiry
  localTyping : ∀ chat, e.timers.isScheduled (.localTyping chat) = true ↔ chat ∈ e.localTyping
  movesOn : e.session.state.isLive = true →
    ∃ key, e.timers.isScheduled key = true ∧ e.session.MovesOn key

variable [Transport τ]

theorem Clocked.punctual {e : Engine τ} (h : e.Clocked []) : e.Punctual := by
  have harmed : ∀ key : Key, key.owner = .session →
      (e.timers.isScheduled key = true ↔ e.session.state.Awaits key) := fun key hkey => by
    simpa using h.session.armed key hkey
  have hsweep : e.timers.deadline? .typingSweep = e.router.typing.next? :=
    h.router List.not_mem_nil
  refine ⟨harmed .handshake rfl, h.session.handshakeAt, harmed .reconnect rfl,
    harmed .heartbeat rfl, harmed .liveness rfl, h.session.livenessAt, fun id => ?_, ?_,
    fun deadline hd => ?_, fun chat => ?_, h.session.movesOn⟩
  · rw [h.outbox.armed id]
    constructor
    · rintro ⟨⟨c, a, ha, hid, hstate⟩, -⟩
      refine ⟨a, h.sound.get?_eq_some_iff.mpr ⟨hid, c, ha⟩, ?_⟩
      cases hs : a.state with
      | pending => exact absurd hs hstate
      | inFlight => exact .inl rfl
      | waiting => exact .inr rfl
    · rintro ⟨a, ha, hstate⟩
      obtain ⟨hid, c, hmem⟩ := h.sound.get?_eq_some_iff.mp ha
      refine ⟨⟨c, a, hmem, hid, fun hpending => ?_⟩, List.not_mem_nil⟩
      rw [hpending] at hstate
      simp at hstate
  · rw [Timers.isScheduled, hsweep]
    exact TypingTracker.isSome_next?_iff
  · exact TypingTracker.next?_eq_some_iff.mp (hsweep.symm.trans hd)
  · simpa using h.typing.armed chat

/-! ## 8. Logging out -/

theorem endLogin_unarmed (e : Engine τ) (key : Key) : e.endLogin.timers.deadline? key = none := by
  show (Session.cancelTimers (((e.timers.cancelWhere (·.isAction)).cancel .typingSweep).cancelWhere
    (·.isLocalTyping))).deadline? key = none
  rw [Session.deadline?_cancelTimers, Timers.deadline?_cancelWhere, Timers.deadline?_cancel,
    Timers.deadline?_cancelWhere]
  cases key <;> rfl

omit [Transport τ] in
theorem publishSettled_timers (e : Engine τ) : e.publishSettled.timers = e.timers := by
  obtain ⟨store, heq⟩ := e.publishSettled_eq
  rw [heq]

/-- To be told that the session has ended arms nothing. -/
theorem handleStateChange_unarmed {e : Engine τ} (h : ∀ key, e.timers.deadline? key = none)
    (before : Session.State) (now : Instant) (key : Key) :
    (e.handleStateChange before .disconnected now).timers.deadline? key = none := by
  have hunscheduled : ¬ e.timers.isScheduled key = true := by simp [Timers.isScheduled, h key]
  unfold handleStateChange
  by_cases hb : before = .active
  · simp only [if_pos hb, if_neg (show ¬ Session.State.disconnected = .active by simp)]
    have hcancelled : ¬ (e.outbox.disconnect e.timers).2.isScheduled key = true := fun hc =>
      hunscheduled ((Timers.isScheduled_foldl_cancel Key.action _ e.timers key).mp hc).1
    have hnone : (e.outbox.disconnect e.timers).2.deadline? key = none := by
      simpa [Timers.isScheduled] using hcancelled
    exact hnone
  · simp only [if_neg hb, if_neg (show ¬ Session.State.disconnected = .active by simp)]
    exact h key

/-- **After logging out** nothing is armed. -/
theorem logout_unarmed {e : Engine τ} (h : e.Clocked []) (now : Instant) :
    (e.logout now).timers.isEmpty = true := by
  refine Timers.isEmpty_of_deadlines fun key => ?_
  have hended := e.endLogin_unarmed
  have hsignals : e.endLogin.session.signals = [] ∨
      ∃ before, e.endLogin.session.signals = [.stateChanged before .disconnected] :=
    Session.logout_signals h.told
      ((e.router.clearTyping (e.outbox.cancelAll e.timers).2).2.cancelWhere (·.isLocalTyping))
  have htimers : (e.logout now).timers = (e.endLogin.session.signals.foldl
      (fun e x => handleSignal e x now)
      { e.endLogin with session := e.endLogin.session.takeSignals.2 }).timers :=
    publishSettled_timers _
  rw [htimers]
  rcases hsignals with hnone | ⟨before, hone⟩
  · rw [hnone]
    exact hended key
  · rw [hone]
    exact handleStateChange_unarmed
      (e := { e.endLogin with session := e.endLogin.session.takeSignals.2 }) hended before now key

/-- **In every run the armed keys are those of what waits**, and after logging out nothing
waits. -/
theorem timers_mirror_state {e : Engine τ} (he : e.Fresh) (inputs : List (Input τ))
    (hinputs : ∀ i ∈ inputs, i.Proper) :
    (e.run inputs).Punctual ∧ ∀ now, ((e.run inputs).logout now).timers.isEmpty = true :=
  have h := run_clocked he.clocked inputs hinputs
  ⟨h.punctual, logout_unarmed h⟩

theorem timers_mirror_state_typing : ∃ e : Engine MemoryTransport, e.Fresh ∧
    (e.run [.keystroke "chat" 0, .submit (.new "a" (.text "chat" "hello") 0) 1,
      .connect ⟨"user", "token"⟩ 2, .timers 3]).Punctual :=
  have ⟨e, he⟩ := exists_fresh
  ⟨e, he, (timers_mirror_state he _ (by simp [Input.Proper])).1⟩

end RealtimeChat.Engine
