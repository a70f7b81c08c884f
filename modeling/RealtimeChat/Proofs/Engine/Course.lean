import RealtimeChat.Proofs.Engine.Gate
import RealtimeChat.Proofs.Session.Course
/-!
# A client tells the course of its session

Whatever a client is told to do, it publishes each step of its session, in order, and before the
session fails it publishes why. Whoever subscribes to the notices gets every one of them that is
published from then on, until the subscriber leaves.

* `stepNotices` -- the notices that an input publishes;
* `Utters`, **`step_publishes`** -- parts of an input, and inputs, publish them;
* **`step_course`** -- what an input publishes is the way that the session goes;
* `Happening`, `live`, `published`, `hears` -- runs in which subscribers leave;
* `AtRest` -- what is so between two things that happen;
* `Candid`, **`live_candid`** -- the property, and that it holds in every such run.
-/

namespace RealtimeChat

/-! ## 1. What is published -/

/-- The notice that a signal of the session is published as. -/
def Session.Signal.notice? : Session.Signal → Option Notice
  | .stateChanged before after => some (.stateChanged before after)
  | .inbound (.error code message) => some (.serverError code message)
  | .inbound _ => none
  | .malformed _ fault => some (.malformedFrame fault.message)
  | .reconnectScheduled attempt delay => some (.reconnectScheduled attempt delay.millis)
  | .connectionLost .. => none
  | .authRejected reason => some (.authFailed reason)
  | .reconnectExhausted attempts => some (.reconnectExhausted attempts)

/-- Publishing leaves out nothing of the course of the session, and adds nothing. -/
theorem Session.Signal.notice?_news? (x : Session.Signal) :
    x.notice?.bind Notice.news? = x.news? := by
  cases x with
  | inbound frame => cases frame <;> rfl
  | _ => rfl

namespace Engine

open Session (Signal Course Onward Tells)

variable {τ : Type}

section Notices

variable [Transport τ]

omit [Transport τ] in
/-- The notices of the settlements that the list has gained. -/
def settledSince (e e' : Engine τ) : List Notice :=
  (e'.settled.drop e.settled.length).map .actionSettled

/-- What the signals that nobody has taken are published as, and then what was settled. -/
def processNotices (e : Engine τ) (now : Instant) : List Notice :=
  e.session.signals.filterMap Signal.notice? ++ e.settledSince (e.processSignals now)

/-- What a deadline that has passed is the cause of. -/
def keyNotices (e : Engine τ) (now : Instant) (key : Timer.Key) : List Notice :=
  match e.session.handleTimer key now e.timers with
  | some (session, timers) => { e with session, timers }.processNotices now
  | none => e.settledSince (e.handleTimer key now)

/-- What deadlines that have passed are the cause of, one after the other. -/
def keysNotices (now : Instant) : Engine τ → List Timer.Key → List Notice
  | _, [] => []
  | e, key :: rest => e.keyNotices now key ++ keysNotices now (e.handleTimer key now) rest

/-- The notices that an input publishes. -/
def stepNotices (e : Engine τ) : Input τ → List Notice
  | .connect credentials now =>
    match e.session.connect credentials now e.timers with
    | .ok (session, timers) => { e with session, timers }.processNotices now
    | .error _ => []
  | .logout now => e.endLogin.processNotices now
  | .event connection event now =>
    let (session, timers) := e.session.handleEvent connection event now e.timers
    { e with session, timers }.processNotices now
  | .timers now => keysNotices now { e with timers := (e.timers.drain now).2 } (e.timers.due now)
  | .history chat generation (.error reason) _ =>
    if generation = e.generation then [.historyFailed chat reason] else []
  | .submit a now => e.settledSince (e.step (.submit a now))
  | .keystroke chat now => e.settledSince (e.step (.keystroke chat now))
  | _ => []

end Notices

/-! ## 2. What parts of inputs publish -/

/-- A part of an input that is not about the session publishes these notices. -/
structure Utters (e : Engine τ) (ns : List Notice) (e' : Engine τ) : Prop where
  notices : e'.notices = ns.foldl NoticeHub.publish e.notices
  settled : e'.settled = e.settled ++ ns.filterMap settlement?
  state : e'.session.state = e.session.state

namespace Utters

variable {e e' e'' : Engine τ} {ns ns' : List Notice}

theorem still (hn : e'.notices = e.notices) (hs : e'.settled = e.settled)
    (hstate : e'.session.state = e.session.state) : Utters e [] e' :=
  ⟨hn, hs.trans (List.append_nil _).symm, hstate⟩

theorem refl (e : Engine τ) : Utters e [] e := still rfl rfl rfl

theorem trans (h : Utters e ns e') (h' : Utters e' ns' e'') : Utters e (ns ++ ns') e'' :=
  ⟨by rw [h'.notices, h.notices, List.foldl_append],
    by rw [h'.settled, h.settled, List.filterMap_append, List.append_assoc],
    h'.state.trans h.state⟩

/-- A notice that tells of no settlement. -/
theorem publish (e : Engine τ) {n : Notice} (hn : settlement? n = none) :
    Utters e [n] (e.publish n) :=
  ⟨rfl, by simp [hn, Engine.publish], rfl⟩

/-- What the list has gained is what was published of settlements. -/
theorem settledSince_eq {settled : List Settlement}
    (h : Utters e (ns ++ settled.map .actionSettled) e') (hns : ns.filterMap settlement? = []) :
    e.settledSince e' = settled.map .actionSettled := by
  have htold : (settled.map Notice.actionSettled).filterMap settlement? = settled := by
    rw [List.filterMap_map]
    exact List.filterMap_some
  have hgained := h.settled
  rw [List.filterMap_append, hns, htold, List.nil_append] at hgained
  rw [settledSince, hgained, List.drop_left]

end Utters

section Parts

variable {e e' : Engine τ}

theorem publishSettled_utters (e : Engine τ) :
    Utters e (e.outbox.settled.map .actionSettled) e.publishSettled := by
  obtain ⟨store, heq⟩ := e.publishSettled_eq
  rw [heq]
  refine ⟨rfl, ?_, rfl⟩
  rw [List.filterMap_map]
  exact congrArg (e.settled ++ ·) List.filterMap_some.symm

/-- After something silent, all that is published is what the list gains. -/
theorem Utters.published (h : Utters e [] e') :
    Utters e (e.settledSince e'.publishSettled) e'.publishSettled := by
  have hdone := h.trans (publishSettled_utters e')
  rwa [hdone.settledSince_eq rfl]

theorem deliver_utters (e : Engine τ) (event : Event) (now : Instant) :
    Utters e [] (e.deliver event now).2 := by
  obtain ⟨router, timers, cursors, store, heq⟩ := e.deliver_eq event now
  rw [heq]
  exact .still rfl rfl rfl

theorem enqueueNew_utters (e : Engine τ) (intent : Intent) (now : Instant) :
    Utters e [] (e.enqueueNew intent now) := .still rfl rfl rfl

variable [Transport τ]

theorem flush_utters (e : Engine τ) (now : Instant) : Utters e [] (e.flush now) := by
  unfold flush
  split
  · refine .still rfl rfl ?_
    refine Outbox.flush_sink (Q := fun s : Session τ => s.state = e.session.state)
      Session.sendFrame (fun s a h => ?_) e.outbox rfl now e.timers
    obtain ⟨transport, heq⟩ := s.sendFrame_eq a.frame
    rwa [heq]
  · exact .refl e

theorem handleInbound_utters (e : Engine τ) (frame : Incoming) (now : Instant) :
    Utters e (Signal.inbound frame).notice?.toList (e.handleInbound frame now) := by
  cases frame with
  | ack ack =>
      have hacked : Utters e [] { e with
          outbox := (e.outbox.acknowledge e.timers ack).2.1
          timers := (e.outbox.acknowledge e.timers ack).2.2 } := .still rfl rfl rfl
      simp only [handleInbound]
      split
      · exact hacked.trans (flush_utters _ now)
      · exact hacked
  | event event => exact deliver_utters e event now
  | error code message => exact .publish e rfl
  | _ => exact .refl e

theorem handleStateChange_utters (e : Engine τ) (before after : Session.State) (now : Instant) :
    Utters e [.stateChanged before after] (e.handleStateChange before after now) := by
  have step : ∀ e' e'' : Engine τ, Utters e [.stateChanged before after] e' → Utters e' [] e'' →
      Utters e [.stateChanged before after] e'' := fun _ _ h h' => h.trans h'
  refine handleStateChange_rule (.publish e rfl) (fun e' h => step e' _ h (.still rfl rfl rfl))
    (fun e' h => step e' _ h ?_) fun e' h => step e' _ h (flush_utters e' now)
  obtain ⟨historyRequests, heq⟩ := e'.requestResync_eq
  rw [heq]
  exact .still rfl rfl rfl

theorem handleSignal_utters (e : Engine τ) (x : Signal) (now : Instant) :
    Utters e x.notice?.toList (e.handleSignal x now) := by
  cases x with
  | stateChanged before after => exact handleStateChange_utters e before after now
  | inbound frame => exact handleInbound_utters e frame now
  | connectionLost _ _ => exact .refl e
  | _ => exact .publish e rfl

theorem signals_utters (signals : List Signal) (e : Engine τ) (now : Instant) :
    Utters e (signals.filterMap Signal.notice?)
      (signals.foldl (fun e x => handleSignal e x now) e) := by
  induction signals generalizing e with
  | nil => exact .refl e
  | cons x rest ih =>
      have hboth := (handleSignal_utters e x now).trans (ih (e.handleSignal x now))
      cases hx : x.notice? <;> simpa [hx] using hboth

theorem processSignals_utters (e : Engine τ) (now : Instant) :
    Utters e (e.processNotices now) (e.processSignals now) := by
  have htaken : Utters e [] { e with session := e.session.takeSignals.2 } := .still rfl rfl rfl
  have hdone := (htaken.trans (signals_utters e.session.signals _ now)).trans
    (publishSettled_utters _)
  have hnone : (e.session.signals.filterMap Signal.notice?).filterMap settlement? = [] := by
    rw [List.filterMap_filterMap, List.filterMap_eq_nil_iff]
    intro x _
    cases x with
    | inbound frame => cases frame <;> rfl
    | _ => rfl
  have hsince := hdone.settledSince_eq hnone
  unfold processNotices
  rw [show e.settledSince (e.processSignals now) = _ from hsince]
  exact hdone

/-- A deadline that is not one of the session. -/
theorem handleTimer_utters {key : Timer.Key} {now : Instant}
    (hkey : e.session.handleTimer key now e.timers = none) :
    Utters e (e.settledSince (e.handleTimer key now)) (e.handleTimer key now) := by
  unfold handleTimer
  simp only [hkey]
  refine Utters.published ?_
  cases key with
  | action id =>
      have hexpired : Utters e [] { e with
          outbox := (e.outbox.expire e.timers id now).1
          timers := (e.outbox.expire e.timers id now).2 } := .still rfl rfl rfl
      exact hexpired.trans (flush_utters _ now)
  | localTyping chat =>
      simp only [endLocalTyping]
      split
      · have hended : Utters e [] { e with localTyping := e.localTyping.erase chat } :=
          .still rfl rfl rfl
        exact (hended.trans (enqueueNew_utters _ _ now)).trans (flush_utters _ now)
      · exact .refl e
  | typingSweep =>
      obtain ⟨store, hsweep⟩ := e.sweepTyping_eq now
      simp only [hsweep]
      exact .still rfl rfl rfl
  | _ => exact .refl e

theorem applyHistory_utters (e : Engine τ) (chat : String) (generation : Nat)
    (result : Except String (List Message)) (now : Instant) :
    Utters e (e.stepNotices (.history chat generation result now))
      (e.applyHistory chat generation result now) := by
  have along : ∀ (events : List Event) (e : Engine τ),
      Utters e [] (events.foldl (fun e event => (e.deliver event now).2) e) := by
    intro events
    induction events with
    | nil => exact .refl
    | cons event rest ih => exact fun e => (deliver_utters e event now).trans (ih _)
  unfold applyHistory
  cases result with
  | ok messages =>
      split
      · exact along _ e
      · exact .refl e
  | error reason =>
      dsimp only [stepNotices]
      split
      · exact .publish e rfl
      · exact .refl e

theorem submit_utters (e : Engine τ) (a : Action) (now : Instant) :
    Utters e (e.stepNotices (.submit a now)) (e.step (.submit a now)) := by
  dsimp only [stepNotices, step, submit]
  cases a.intent.check with
  | error fault =>
      have hnone : e.settledSince e = [] := by simp [settledSince]
      simpa only [hnone] using Utters.refl e
  | ok _ =>
      dsimp only
      refine Utters.published ?_
      have hstopped : Utters e []
          (if a.kind = .sendMessage then e.stopTyping a.chat now else e) := by
        obtain ⟨_, _, _, _, heq⟩ := e.stopTyping_eq a now
        rw [heq]
        exact .still rfl rfl rfl
      generalize (if a.kind = .sendMessage then e.stopTyping a.chat now else e) = stopped at *
      have hqueued : Utters stopped [] ((stopped.noteChat a.chat none).enqueue a).2 :=
        .still rfl rfl rfl
      refine (hstopped.trans hqueued).trans ?_
      split
      · rename_i event _ _
        have hechoed : Utters ((stopped.noteChat a.chat none).enqueue a).2 []
            (((stopped.noteChat a.chat none).enqueue a).2.toStore event) := .still rfl rfl rfl
        exact hechoed.trans (flush_utters _ now)
      · exact flush_utters _ now

theorem keystroke_utters (e : Engine τ) (chat : String) (now : Instant) :
    Utters e (e.stepNotices (.keystroke chat now)) (e.step (.keystroke chat now)) := by
  dsimp only [stepNotices, step, keystroke]
  cases checkChat chat with
  | error fault =>
      have hnone : e.settledSince e = [] := by simp [settledSince]
      simpa only [hnone] using Utters.refl e
  | ok _ =>
      dsimp only
      have hstarted : Utters e [] (if chat ∈ e.localTyping then e
          else { e with localTyping := chat :: e.localTyping }.enqueueNew (.typingStart chat)
            now) := by
        split <;> exact .still rfl rfl rfl
      generalize (if chat ∈ e.localTyping then e
        else { e with localTyping := chat :: e.localTyping }.enqueueNew (.typingStart chat)
          now) = started at *
      have harmed : Utters started [] { started with
          timers := started.timers.schedule (.localTyping chat) (now + started.typingIdle) } :=
        .still rfl rfl rfl
      exact Utters.published ((hstarted.trans harmed).trans (flush_utters _ now))

theorem handleTimer_notices (e : Engine τ) (key : Timer.Key) (now : Instant) :
    (e.handleTimer key now).notices = (e.keyNotices now key).foldl NoticeHub.publish e.notices := by
  cases hkey : e.session.handleTimer key now e.timers with
  | none =>
      have hutters := handleTimer_utters hkey
      unfold keyNotices
      simp only [hkey]
      exact hutters.notices
  | some answer =>
      have hutters := processSignals_utters { e with session := answer.1, timers := answer.2 } now
      unfold handleTimer keyNotices
      simp only [hkey]
      exact hutters.notices

theorem handleTimers_notices (keys : List Timer.Key) (e : Engine τ) (now : Instant) :
    (keys.foldl (fun e key => handleTimer e key now) e).notices =
      (keysNotices now e keys).foldl NoticeHub.publish e.notices := by
  induction keys generalizing e with
  | nil => rfl
  | cons key rest ih =>
      rw [List.foldl_cons, ih, handleTimer_notices, keysNotices, List.foldl_append]

/-- **What an input publishes**, to everybody who listens. -/
theorem step_publishes (e : Engine τ) {i : Input τ} (hlisten : i ≠ .listen)
    (hhear : ∀ inbox, i ≠ .hear inbox) :
    (e.step i).notices = (e.stepNotices i).foldl NoticeHub.publish e.notices := by
  cases i with
  | connect credentials now =>
      dsimp only [step, connect, stepNotices]
      cases e.session.connect credentials now e.timers with
      | ok answer =>
          exact (processSignals_utters
            { e with session := answer.1, timers := answer.2 } now).notices
      | error state => rfl
  | logout now => exact (processSignals_utters e.endLogin now).notices
  | event connection event now =>
      exact (processSignals_utters { e with
        session := (e.session.handleEvent connection event now e.timers).1
        timers := (e.session.handleEvent connection event now e.timers).2 } now).notices
  | submit a now => exact (submit_utters e a now).notices
  | keystroke chat now => exact (keystroke_utters e chat now).notices
  | timers now =>
      exact handleTimers_notices (e.timers.due now) { e with timers := (e.timers.drain now).2 } now
  | history chat generation result now =>
      exact (applyHistory_utters e chat generation result now).notices
  | listen => exact absurd rfl hlisten
  | hear inbox => exact absurd rfl (hhear inbox)
  | _ => rfl

/-! ## 3. The way of the session -/

omit [Transport τ] in
theorem settledSince_news (e e' : Engine τ) :
    (e.settledSince e').filterMap Notice.news? = [] := by
  rw [settledSince, List.filterMap_map]
  exact List.filterMap_eq_nil_iff.mpr fun _ _ => rfl

/-- The signals are published as what they are. -/
theorem processNotices_news (e : Engine τ) (now : Instant) :
    (e.processNotices now).filterMap Notice.news? = e.session.signals.filterMap Signal.news? := by
  rw [processNotices, List.filterMap_append, settledSince_news, List.append_nil,
    List.filterMap_filterMap]
  exact congrArg (List.filterMap · _) (funext Signal.notice?_news?)

/-- The way of the session is published. -/
theorem processSignals_onward {s : Session τ} (hs : s.signals = []) (h : Tells s e.session)
    (now : Instant) : Onward s.state ((e.processNotices now).filterMap Notice.news?)
      (e.processSignals now).session.state := by
  obtain ⟨told, hsignals, honward⟩ := h
  rw [processNotices_news, (processSignals_utters e now).state, hsignals, hs, List.nil_append]
  exact honward

omit [Transport τ] in
/-- A session that stays where it is has no way to tell of. -/
theorem onward_of_utters {ns : List Notice} (h : Utters e ns e')
    (hnews : ns.filterMap Notice.news? = []) :
    Onward e.session.state (ns.filterMap Notice.news?) e'.session.state := by
  rw [hnews, h.state]
  exact .still _

theorem handleTimer_onward (h : e.session.signals = []) (key : Timer.Key) (now : Instant) :
    Onward e.session.state ((e.keyNotices now key).filterMap Notice.news?)
      (e.handleTimer key now).session.state := by
  cases hkey : e.session.handleTimer key now e.timers with
  | none =>
      have hutters := handleTimer_utters hkey
      unfold keyNotices
      simp only [hkey]
      exact onward_of_utters hutters (settledSince_news _ _)
  | some answer =>
      unfold handleTimer keyNotices
      simp only [hkey]
      exact processSignals_onward h (Session.handleTimer_tells hkey) now

theorem handleTimers_onward (h : e.session.signals = []) (keys : List Timer.Key) (now : Instant) :
    Onward e.session.state ((keysNotices now e keys).filterMap Notice.news?)
      (keys.foldl (fun e key => handleTimer e key now) e).session.state := by
  induction keys generalizing e with
  | nil => exact .still _
  | cons key rest ih =>
      have hfirst := handleTimer_onward h key now
      have htold := handleTimer_kept told_kept h key now fun _ _ => trivial
      rw [keysNotices, List.filterMap_append]
      exact hfirst.trans (ih htold)

/-- **What an input publishes is the way that the session goes**, and only logging out leads to no
session. -/
theorem step_course (h : e.session.signals = [])
    (held : e.session.connection.isSome = true → e.session.state.Connected) (i : Input τ) :
    Course e.session.state ((e.stepNotices i).filterMap Notice.news?) (e.step i).session.state ∧
      ((∀ now, i ≠ .logout now) → ∀ a, .stateChanged a .disconnected ∉ e.stepNotices i) := by
  have onward : Onward e.session.state ((e.stepNotices i).filterMap Notice.news?)
      (e.step i).session.state →
      Course e.session.state ((e.stepNotices i).filterMap Notice.news?) (e.step i).session.state ∧
      ((∀ now, i ≠ .logout now) → ∀ a, .stateChanged a .disconnected ∉ e.stepNotices i) :=
    fun honward => ⟨honward.course, fun _ a hmem =>
      honward.stays a (List.mem_filterMap.mpr ⟨_, hmem, rfl⟩)⟩
  cases i with
  | connect credentials now =>
      refine onward ?_
      dsimp only [step, connect, stepNotices]
      cases hs : e.session.connect credentials now e.timers with
      | ok answer => exact processSignals_onward h (Session.connect_tells credentials now _ hs) now
      | error state => exact .still _
  | logout now =>
      refine ⟨?_, fun hi => absurd rfl (hi now)⟩
      obtain ⟨timers, hsession⟩ := e.endLogin_session
      obtain ⟨told, hsignals, hcourse⟩ := e.session.logout_course timers
      rw [← hsession, h, List.nil_append] at hsignals
      rw [← hsession] at hcourse
      dsimp only [stepNotices, step, logout]
      rw [processNotices_news, (processSignals_utters e.endLogin now).state, hsignals]
      exact hcourse
  | event connection event now =>
      refine onward (processSignals_onward h ?_ now)
      exact Session.handleEvent_tells held connection event now e.timers
  | submit a now =>
      exact onward (onward_of_utters (submit_utters e a now) (settledSince_news _ _))
  | keystroke chat now =>
      exact onward (onward_of_utters (keystroke_utters e chat now) (settledSince_news _ _))
  | timers now =>
      have hdrained : { e with timers := (e.timers.drain now).2 }.session.signals = [] := h
      exact onward (handleTimers_onward hdrained (e.timers.due now) now)
  | history chat generation result now =>
      refine onward (onward_of_utters (applyHistory_utters e chat generation result now) ?_)
      cases result with
      | ok messages => rfl
      | error reason =>
          dsimp only [stepNotices]
          split <;> rfl
  | _ => exact onward (.still _)

end Parts

/-! ## 4. Runs in which subscribers leave -/

section Runs

variable [Transport τ]

/-- What happens to a client: it is told something, or a subscriber to the notices leaves. -/
inductive Happening (τ : Type) where
  | input (i : Input τ)
  | leave (inbox : Nat)

/-- The client after something happened. -/
def happen (e : Engine τ) : Happening τ → Engine τ
  | .input i => e.step i
  | .leave inbox => { e with notices := e.notices.leave inbox }

/-- The client after much happened. -/
def live (e : Engine τ) (course : List (Happening τ)) : Engine τ := course.foldl happen e

/-- The notices that are published meanwhile. -/
def published : Engine τ → List (Happening τ) → List Notice
  | _, [] => []
  | e, .input i :: rest => e.stepNotices i ++ published (e.step i) rest
  | e, .leave inbox :: rest => published (e.happen (.leave inbox)) rest

/-- The notices of one inbox that are read meanwhile. -/
def hears (id : Nat) : Engine τ → List (Happening τ) → List Notice
  | _, [] => []
  | e, .input (.hear inbox) :: rest =>
    (if inbox = id then e.inbox id else []) ++ hears id (e.step (.hear inbox)) rest
  | e, h :: rest => hears id (e.happen h) rest

theorem hears_cons {id : Nat} {e : Engine τ} {h : Happening τ}
    (hh : ∀ inbox, h ≠ .input (.hear inbox)) (rest : List (Happening τ)) :
    e.hears id (h :: rest) = (e.happen h).hears id rest := by
  cases h with
  | input i =>
      cases i with
      | hear inbox => exact absurd rfl (hh inbox)
      | _ => rfl
  | leave inbox => rfl

/-- Whoever listens reads, sooner or later, what is published. -/
theorem listens_hears {e : Engine τ} {id : Nat} {box : List Notice} (hq : e.Quiet)
    (hl : e.notices.Listens id box) {course : List (Happening τ)} (hstays : .leave id ∉ course) :
    box ++ e.published course = e.hears id course ++ (e.live course).inbox id := by
  induction course generalizing e box with
  | nil =>
      show box ++ [] = (e.notices.drain id).1
      rw [hl.drain hq.distinct, List.append_nil]
  | cons h rest ih =>
      have hrest : .leave id ∉ rest := fun hmem => hstays (List.mem_cons_of_mem _ hmem)
      cases h with
      | leave inbox =>
          have hother : inbox ≠ id := by
            rintro rfl
            exact hstays List.mem_cons_self
          exact ih ⟨hq.sound, hq.empty, hq.distinct.leave inbox⟩ (hl.leave hother) hrest
      | input i =>
          have hquiet := step_quiet hq i
          by_cases hhear : ∃ other, i = .hear other
          · obtain ⟨other, rfl⟩ := hhear
            have hnext := ih hquiet (hl.drained other) hrest
            have hbox : e.inbox id = box := hl.drain hq.distinct
            show box ++ (e.step (.hear other)).published rest =
              ((if other = id then e.inbox id else []) ++ (e.step (.hear other)).hears id rest) ++
                ((e.step (.hear other)).live rest).inbox id
            rw [hbox, List.append_assoc, ← hnext, ← List.append_assoc]
            congr 1
            split <;> simp
          · have hcons : e.hears id (.input i :: rest) = (e.step i).hears id rest :=
              hears_cons (fun other heq => hhear ⟨other, Happening.input.inj heq⟩) rest
            show box ++ (e.stepNotices i ++ (e.step i).published rest) =
              e.hears id (.input i :: rest) ++ ((e.step i).live rest).inbox id
            rw [hcons, ← List.append_assoc]
            by_cases hlisten : i = .listen
            · subst hlisten
              rw [show e.stepNotices .listen = [] from rfl, List.append_nil]
              exact ih hquiet hl.subscribe hrest
            · have hpublishes := step_publishes e hlisten fun other heq => hhear ⟨other, heq⟩
              exact ih hquiet (hpublishes ▸ hl.publishAll (e.stepNotices i)) hrest

/-- What is so between two things that happen. -/
structure AtRest (e : Engine τ) : Prop where
  quiet : e.Quiet
  told : e.session.signals = []
  stage : ∃ log, e.session.Stage log

omit [Transport τ] in
theorem Fresh.atRest {e : Engine τ} (h : e.Fresh) : e.AtRest := ⟨h.quiet, h.told, _, h.stage⟩

theorem happen_atRest {e : Engine τ} (h : e.AtRest) : ∀ x, (e.happen x).AtRest
  | .input i =>
    have ⟨_, hstage⟩ := h.stage
    ⟨step_quiet h.quiet i, step_told h.told i, _, step_gate hstage i⟩
  | .leave inbox =>
    ⟨⟨h.quiet.sound, h.quiet.empty, h.quiet.distinct.leave inbox⟩, h.told, h.stage⟩

theorem live_atRest {e : Engine τ} (h : e.AtRest) (course : List (Happening τ)) :
    (e.live course).AtRest := by
  induction course generalizing e with
  | nil => exact h
  | cons x rest ih => exact ih (happen_atRest h x)

theorem live_course {e : Engine τ} (h : e.AtRest) (course : List (Happening τ)) :
    Course e.session.state ((e.published course).filterMap Notice.news?)
      (e.live course).session.state := by
  induction course generalizing e with
  | nil => exact .still _
  | cons x rest ih =>
      have hrest := ih (happen_atRest h x)
      cases x with
      | leave inbox => exact hrest
      | input i =>
          obtain ⟨log, hstage⟩ := h.stage
          have hstep := (step_course h.told hstage.held i).1
          have hboth := hstep.trans hrest
          rwa [← List.filterMap_append] at hboth

omit [Transport τ] in
theorem Fresh.disconnected {e : Engine τ} (h : e.Fresh) : e.session.state = .disconnected := by
  refine h.rule fun settings endpoint transport entropy ids store historyEnabled => ?_
  rfl

/-- After whatever happened to it, a client has told the true course of its session, and tells it to
everybody who subscribes. -/
structure Candid (e : Engine τ) (past : List (Happening τ)) : Prop where
  /-- What was published is one way from no session to the state that the session is in now: step by
  step, and with one reason right before each failure and none elsewhere. -/
  course : Course .disconnected ((e.published past).filterMap Notice.news?)
    (e.live past).session.state
  /-- No step leads from a state to itself. -/
  moves : ∀ a b, .stateChanged a b ∈ e.published past → a ≠ b
  /-- Only logging out leads to no session. -/
  leaves : ∀ i a, .stateChanged a .disconnected ∈ (e.live past).stepNotices i →
    ∃ now, i = .logout now
  /-- What an input publishes goes to everybody who listens. -/
  publishes : ∀ i, i ≠ .listen → (∀ inbox, i ≠ .hear inbox) → ((e.live past).step i).notices =
    ((e.live past).stepNotices i).foldl NoticeHub.publish (e.live past).notices
  /-- Whoever subscribes now reads, as long as the subscriber stays, all that is published from now
  on, once and in order. -/
  heard : ∀ future, let (id, e') := (e.live past).subscribeNotices
    .leave id ∉ future → e'.hears id future ++ (e'.live future).inbox id = e'.published future

/-- **Whatever happens to a client, it tells the true course of its session.** -/
theorem live_candid {e : Engine τ} (he : e.Fresh) (past : List (Happening τ)) : e.Candid past := by
  have hstate : e.session.state = .disconnected := he.disconnected
  have hcourse := live_course he.atRest past
  obtain ⟨hquiet, htold, log, hstage⟩ := live_atRest he.atRest past
  rw [hstate] at hcourse
  refine ⟨hcourse, fun a b hmem => ?_, fun i a hmem => ?_, fun i => step_publishes _,
    fun future hstays => ?_⟩
  · exact (hcourse.leads a b (List.mem_filterMap.mpr ⟨_, hmem, rfl⟩)).ne
  · by_contra hlogout
    exact (step_course htold hstage.held i).2 (fun now hi => hlogout ⟨now, hi⟩) a hmem
  · exact (listens_hears (step_quiet hquiet .listen) (NoticeHub.subscribe_listens _) hstays).symm

/-- A user logs in, the connection opens, and the user logs out again. -/
theorem live_candid_logout : ∃ e : Engine MemoryTransport, e.Fresh ∧
    let past := [.input (.connect ⟨"u1", "t1"⟩ 0), .input (.event 1 .opened 1), .leave 0,
      .input (.logout 2)]
    e.Candid past ∧ e.published past = [.stateChanged .disconnected .connecting,
      .stateChanged .connecting .authenticating, .stateChanged .authenticating .disconnected] :=
  have ⟨e, he, hpublished⟩ := exists_fresh_of (fun e => e.published [
      .input (.connect ⟨"u1", "t1"⟩ 0), .input (.event 1 .opened 1), .leave 0,
      .input (.logout 2)] = [.stateChanged .disconnected .connecting,
      .stateChanged .connecting .authenticating, .stateChanged .authenticating .disconnected])
    (by decide +kernel)
  ⟨e, he, live_candid he _, hpublished⟩

end Runs

end Engine

end RealtimeChat
