import RealtimeChat.Proofs.Engine.Course
import RealtimeChat.Proofs.Outbox.Sending
import RealtimeChat.Proofs.Session.Transport
/-!
# Nothing that may be sent is left unsent

Whatever lets an active session send something, the core of a client sends it in the same input: an
answer, a deadline that has passed, a new action, the end of a wait. So between two inputs of an
active session whatever stands in front of a queue was sent and waits for its answer, or waits for
its next attempt, and its deadline is armed; unless the transport refused the frame of an action.

* `Refused` -- the transport refused the frame of an action;
* `Diligent` -- the outbox, as far as the state of the session was heard of;
* **`step_diligent`** -- every input that starts with nothing left unsent ends so;
* **`run_underway`** -- in every run.
-/

namespace RealtimeChat

open Transport (Call Recorded)

/-- The transport refused the frame of an action. -/
def Transport.Refused (calls : List Call) : Prop :=
  ∃ id frame, .sent id frame false ∈ calls ∧ frame.actionId?.isSome = true

/-- The mark tells that the frame of an action was refused. -/
def Session.Mark.refuses : Session.Mark → Bool
  | .did (.sent _ frame false) => frame.actionId?.isSome
  | _ => false

theorem Transport.Refused.cons {calls : List Call} (h : Refused calls) (call : Call) :
    Refused (call :: calls) :=
  have ⟨id, frame, hmem, hframe⟩ := h
  ⟨id, frame, List.mem_cons_of_mem call hmem, hframe⟩

namespace Session

open Transport (Refused)

variable {τ : Type} [Transport τ]

/-- What a session says by itself makes no refusal undone. -/
theorem refused_spoken : Spoken fun t : Recorded τ => Refused t.calls where
  opened _ _ _ h := h.cons _
  closed _ h := h.cons _
  introduced _ _ _ h := h.cons _
  alive _ h := h.cons _

/-- The frame of an action was refused, or there was no session to send it in. -/
def Unsent (s : Session (Recorded τ)) : Prop :=
  Refused s.transport.calls ∨ ¬ (s.state = .active ∧ s.connection.isSome = true)

theorem sendFrame_unsent {s s' : Session (Recorded τ)} {a : Action} {fault : SendFault}
    (h : s.sendFrame a.frame = (.error fault, s')) : s'.Unsent := by
  unfold sendFrame at h
  split at h
  · rename_i c _
    split at h
    · cases hsend : Transport.send s.transport c.id a.frame with
      | mk result transport =>
          rw [hsend] at h
          obtain ⟨rfl, rfl⟩ := Prod.mk.inj h
          have hcalls := Transport.calls_send hsend
          refine .inl ⟨c.id, a.frame, ?_, ?_⟩
          · rw [hcalls]
            exact List.mem_cons_self
          · unfold Action.frame
            cases a.intent <;> rfl
    · rename_i hstate
      obtain ⟨-, rfl⟩ := Prod.mk.inj h
      exact .inr fun hs => hstate hs.1
  · rename_i hnone
    obtain ⟨-, rfl⟩ := Prod.mk.inj h
    exact .inr fun hs => by simp [hnone] at hs

theorem sendFrame_keeps_refused {s : Session (Recorded τ)} (h : Refused s.transport.calls)
    (frame : Outgoing) : Refused (s.sendFrame frame).2.transport.calls := by
  unfold sendFrame
  split
  · split
    · exact h.cons _
    · exact h
  · exact h

end Session

namespace Engine

open Session (State Signal Tells)
open Transport (Refused)

variable {τ : Type} {e : Engine (Recorded τ)}

/-! ## 1. Flushing -/

/-- Nothing that may be sent is left unsent, as far as the state of the session was heard of. -/
structure Diligent (x : State) (e : Engine (Recorded τ)) : Prop where
  held : e.session.state = .active → e.session.connection.isSome = true
  sent : Refused e.session.transport.calls ∨
    (x = .active → e.session.state = .active → e.outbox.Underway)

/-- The outbox plays no other part than by its queues, and nothing but the session is looked at. -/
theorem Diligent.of_eq {x : State} {e' : Engine (Recorded τ)} (h : e.Diligent x)
    (hs : e'.session = e.session) (hq : ∀ c, e'.outbox.queue c = e.outbox.queue c) :
    e'.Diligent x :=
  ⟨hs ▸ h.held, hs ▸ h.sent.imp_right fun hsent hx hactive => (hsent hx hactive).of_queue hq⟩

/-- Nothing has to be sent in a session that was not heard to be active. -/
theorem Diligent.idle {x : State} (held : e.session.state = .active →
    e.session.connection.isSome = true) (hx : x ≠ .active) : e.Diligent x :=
  ⟨held, .inr fun hactive => absurd hactive hx⟩

theorem publishSettled_diligent {x : State} (h : e.Diligent x) : e.publishSettled.Diligent x := by
  obtain ⟨store, heq⟩ := e.publishSettled_eq
  rw [heq]
  exact h.of_eq rfl fun _ => rfl

/-- Nothing that may be sent is left unsent. -/
def UpToDate (e : Engine (Recorded τ)) : Prop := e.Diligent e.session.state

theorem UpToDate.of_eq {e' : Engine (Recorded τ)} (h : e.UpToDate)
    (hs : e'.session = e.session) (hq : ∀ c, e'.outbox.queue c = e.outbox.queue c) :
    e'.UpToDate := by
  unfold UpToDate
  rw [hs]
  exact Diligent.of_eq h hs hq

theorem publishSettled_upToDate (h : e.UpToDate) : e.publishSettled.UpToDate := by
  obtain ⟨store, heq⟩ := e.publishSettled_eq
  rw [heq]
  exact h.of_eq rfl fun _ => rfl

theorem deliver_diligent {x : State} (h : e.Diligent x) (event : Event) (now : Instant) :
    (e.deliver event now).2.Diligent x := by
  obtain ⟨router, timers, cursors, store, heq⟩ := e.deliver_eq event now
  rw [heq]
  exact h.of_eq rfl fun _ => rfl

variable [Transport τ]

theorem flush_session (e : Engine (Recorded τ)) (now : Instant) :
    (∃ transport, (e.flush now).session = { e.session with transport }) ∧
      (Refused e.session.transport.calls → Refused (e.flush now).session.transport.calls) := by
  unfold flush
  split
  · constructor
    · exact Outbox.flush_sink Session.sendFrame
        (Q := fun s : Session (Recorded τ) => ∃ transport, s = { e.session with transport })
        (fun s a ⟨_, hs⟩ => by
          obtain ⟨transport, hsent⟩ := s.sendFrame_eq a.frame
          exact ⟨transport, by rw [hsent, hs]⟩)
        e.outbox ⟨_, rfl⟩ now e.timers
    · exact fun h => Outbox.flush_sink Session.sendFrame
        (Q := fun s : Session (Recorded τ) => Refused s.transport.calls)
        (fun s a hs => Session.sendFrame_keeps_refused hs a.frame) e.outbox h now e.timers
  · exact ⟨⟨_, rfl⟩, id⟩

/-- **After a flush** nothing is left unsent, whatever was before. -/
theorem flush_diligent (held : e.session.state = .active → e.session.connection.isSome = true)
    (x : State) (now : Instant) : (e.flush now).Diligent x := by
  obtain ⟨⟨transport, hsession⟩, -⟩ := flush_session e now
  have hheld : (e.flush now).session.state = .active →
      (e.flush now).session.connection.isSome = true := by
    rw [hsession]
    exact held
  refine ⟨hheld, ?_⟩
  by_cases hactive : e.session.state = .active
  · have hflush := Outbox.flush_underway (R := Session.Unsent) Session.sendFrame
      (fun h => Session.sendFrame_unsent h) ?_ e.outbox e.session now e.timers
    · unfold flush at hheld ⊢
      rw [if_pos hactive] at hheld ⊢
      rcases hflush with (hrefused | hidle) | hunderway
      · exact .inl hrefused
      · exact .inr fun _ hstill => absurd ⟨hstill, hheld hstill⟩ hidle
      · exact .inr fun _ _ => hunderway
    · rintro s a (hrefused | hidle)
      · exact .inl (Session.sendFrame_keeps_refused hrefused a.frame)
      · obtain ⟨transport, hsent⟩ := s.sendFrame_eq a.frame
        rw [hsent]
        exact .inr hidle
  · refine .inr fun _ hstill => absurd ?_ hactive
    rw [hsession] at hstill
    exact hstill

/-! ## 2. Parts of inputs -/

/-- Whoever is answered gives way to the next one. -/
theorem handleInbound_diligent {x : State} (h : e.Diligent x) (frame : Incoming) (now : Instant) :
    (e.handleInbound frame now).Diligent x := by
  cases frame with
  | ack ack =>
      simp only [handleInbound]
      split
      · have held : Engine.session { e with
            outbox := (e.outbox.acknowledge e.timers ack).2.1
            timers := (e.outbox.acknowledge e.timers ack).2.2 } = e.session := rfl
        exact flush_diligent (held ▸ h.held) x now
      · rename_i hunknown
        refine h.of_eq rfl fun c => ?_
        -- an answer that is about no queued action changes nothing
        cases htake : e.outbox.take? ack.actionId with
        | none => simp [Outbox.acknowledge, htake]
        | some taken => simp [Outbox.acknowledge, htake] at hunknown
  | event event => exact deliver_diligent h event now
  | error code message => exact h.of_eq rfl fun _ => rfl
  | _ => exact h

/-- Whoever hears that the session is active sends what may be sent. -/
theorem handleStateChange_diligent {x : State} (h : e.Diligent x) (before after : State)
    (now : Instant) : (e.handleStateChange before after now).Diligent after := by
  have resumed : ∀ e' : Engine (Recorded τ), e'.session = e.session → Diligent after
      (if after = .active then
        (if 1 < e'.session.activations then e'.requestResync else e').flush now else e') := by
    intro e' hsession
    have held : e'.session.state = .active → e'.session.connection.isSome = true :=
      hsession ▸ h.held
    split
    · refine flush_diligent ?_ after now
      split
      · obtain ⟨historyRequests, heq⟩ := e'.requestResync_eq
        rw [heq]
        exact held
      · exact held
    · rename_i hafter
      exact .idle held hafter
  unfold handleStateChange
  split
  · exact resumed _ rfl
  · exact resumed _ rfl

/-- What was heard of a session, and how the outbox is afterwards. -/
theorem handleSignal_diligent {x : State} (h : e.Diligent x) (s : Signal) (now : Instant) :
    (e.handleSignal s now).Diligent (s.news?.toList.foldl State.after x) := by
  cases s with
  | stateChanged before after => exact handleStateChange_diligent h before after now
  | inbound frame => exact handleInbound_diligent h frame now
  | connectionLost _ _ => exact h
  | _ => exact h.of_eq rfl fun _ => rfl

theorem signals_diligent (signals : List Signal) {x : State} (h : e.Diligent x) (now : Instant) :
    Diligent ((signals.filterMap Signal.news?).foldl State.after x)
      (signals.foldl (fun e s => handleSignal e s now) e) := by
  induction signals generalizing e x with
  | nil => exact h
  | cons s rest ih =>
      have hrest := ih (handleSignal_diligent h s now)
      rw [← List.foldl_append] at hrest
      cases hnews : s.news? <;> simpa [hnews] using hrest

/-- What a session did is heard of, and the outbox is left as the session is. -/
theorem processSignals_upToDate {s : Session (Recorded τ)} (hs : s.signals = [])
    (htells : Tells s e.session)
    (h : Diligent s.state { e with session := e.session.takeSignals.2 }) (now : Instant) :
    (e.processSignals now).UpToDate := by
  obtain ⟨told, hsignals, honward⟩ := htells
  rw [hs, List.nil_append] at hsignals
  have hstate : (e.processSignals now).session.state = e.session.state :=
    (processSignals_utters e now).state
  have hheard := signals_diligent e.session.signals h now
  rw [hsignals, honward.course.ends, ← hsignals] at hheard
  unfold UpToDate
  rw [hstate]
  exact publishSettled_diligent hheard

/-- A session that has gone on is heard of, whatever it did. -/
theorem processSession_upToDate (h : e.UpToDate) (htold : e.session.signals = [])
    {s : Session (Recorded τ)} {t : Timers} {owed : List Timer.Key} (htells : Tells e.session s)
    (hkept : Refused e.session.transport.calls → Refused s.transport.calls)
    (hclocked : s.Clocked t owed) (now : Instant) :
    ({ e with session := s, timers := t }.processSignals now).UpToDate := by
  refine processSignals_upToDate htold htells ⟨fun hactive => ?_, ?_⟩ now
  · exact hclocked.held.mpr (.inr (.inr hactive))
  · refine h.sent.imp hkept fun hsent hactive _ => hsent hactive hactive

/-! ## 3. Inputs -/

/-- **A deadline that has passed** lets the outbox send what may be sent now. -/
theorem handleTimer_upToDate (h : e.UpToDate) {key : Timer.Key}
    {owed : List Timer.Key} (hclocked : e.Clocked (key :: owed)) (hkey : key ∉ owed)
    (now : Instant) : (e.handleTimer key now).UpToDate := by
  unfold handleTimer
  cases hs : e.session.handleTimer key now e.timers with
  | some answer =>
      exact processSession_upToDate h hclocked.told (Session.handleTimer_tells hs)
        (fun h => Session.handleTimer_spoken Session.refused_spoken h key now e.timers hs)
        (Session.handleTimer_clocked hclocked.session hkey now hs).1 now
  | none =>
      refine publishSettled_upToDate ?_
      cases key with
      | action id =>
          have held : Engine.session { e with
              outbox := (e.outbox.expire e.timers id now).1
              timers := (e.outbox.expire e.timers id now).2 } = e.session := rfl
          exact flush_diligent (held ▸ h.held) _ now
      | localTyping chat =>
          simp only [endLocalTyping]
          split
          · have held : ({ e with localTyping := e.localTyping.erase chat }.enqueueNew
                (.typingStop chat) now).session = e.session := rfl
            exact flush_diligent (held ▸ h.held) _ now
          · exact h
      | typingSweep =>
          obtain ⟨store, hsweep⟩ := e.sweepTyping_eq now
          simp only [hsweep]
          exact h.of_eq rfl fun _ => rfl
      | _ => exact h

theorem handleTimers_upToDate (keys : List Timer.Key) (h : e.UpToDate) (hclocked : e.Clocked keys)
    (hkeys : keys.Nodup) (now : Instant) :
    (keys.foldl (fun e key => handleTimer e key now) e).UpToDate := by
  induction keys generalizing e with
  | nil => exact h
  | cons key rest ih =>
      obtain ⟨hkey, hrest⟩ := List.nodup_cons.mp hkeys
      exact ih (handleTimer_upToDate h hclocked hkey now) (handleTimer_clocked hclocked hkey now)
        hrest

/-- What was queued is sent, whatever else was done to the outbox before. -/
theorem flush_upToDate {e' : Engine (Recorded τ)} (h : e.UpToDate)
    (hsession : e'.session = e.session) (now : Instant) :
    (e'.flush now).publishSettled.UpToDate := by
  have held : e'.session.state = .active → e'.session.connection.isSome = true := by
    rw [hsession]
    exact h.held
  exact publishSettled_upToDate (flush_diligent held _ now)

theorem submit_upToDate (h : e.UpToDate) (a : Action) (now : Instant) :
    (e.step (.submit a now)).UpToDate := by
  dsimp only [step, submit]
  cases a.intent.check with
  | error fault => exact h
  | ok _ =>
      dsimp only
      refine flush_upToDate h ?_ now
      have hstopped : (if a.kind = .sendMessage then e.stopTyping a.chat now else e).session =
          e.session := by
        obtain ⟨_, _, _, _, heq⟩ := e.stopTyping_eq a now
        rw [heq]
      generalize (if a.kind = .sendMessage then e.stopTyping a.chat now else e) = stopped at *
      split <;> exact hstopped

theorem keystroke_upToDate (h : e.UpToDate) (chat : String) (now : Instant) :
    (e.step (.keystroke chat now)).UpToDate := by
  dsimp only [step, keystroke]
  cases checkChat chat with
  | error fault => exact h
  | ok _ =>
      refine flush_upToDate h ?_ now
      dsimp only
      split <;> rfl

omit [Transport τ] in
theorem applyHistory_upToDate (h : e.UpToDate) (chat : String) (generation : Nat)
    (result : Except String (List Message)) (now : Instant) :
    (e.applyHistory chat generation result now).UpToDate := by
  have along : ∀ (events : List Event) (e : Engine (Recorded τ)), e.UpToDate →
      (events.foldl (fun e event => (e.deliver event now).2) e).UpToDate := by
    intro events
    induction events with
    | nil => exact fun _ h => h
    | cons event rest ih =>
        intro e h
        have hfirst : (e.deliver event now).2.UpToDate := by
          unfold UpToDate
          rw [deliver_session]
          exact deliver_diligent h event now
        exact ih _ hfirst
  unfold applyHistory
  split
  · cases result with
    | ok messages => exact along _ e h
    | error reason => exact h.of_eq rfl fun _ => rfl
  · exact h

theorem logout_upToDate (e : Engine (Recorded τ)) (now : Instant) : (e.logout now).UpToDate := by
  obtain ⟨timers, hsession⟩ := e.endLogin_session
  have hstate : (e.logout now).session.state = .disconnected := by
    have hsame : (e.logout now).session.state = e.endLogin.session.state :=
      (processSignals_utters e.endLogin now).state
    rw [hsame, hsession]
    exact Session.transition_state _ _
  refine .idle (fun hactive => ?_) ?_
  · rw [hstate] at hactive
    cases hactive
  · rw [hstate]
    exact nofun

/-- **Every input that starts with nothing left unsent ends so**, on record. -/
theorem step_upToDate (h : e.UpToDate) (hclocked : e.Clocked []) (i : Input τ) :
    (e.step i.recorded).UpToDate := by
  cases i with
  | connect credentials now =>
      dsimp only [step, connect, Input.recorded]
      cases hs : e.session.connect credentials now e.timers with
      | ok answer =>
          exact processSession_upToDate h hclocked.told (Session.connect_tells credentials now _ hs)
            (fun h => Session.connect_spoken Session.refused_spoken h credentials now e.timers hs)
            (Session.connect_clocked hclocked.session credentials now hs).1 now
      | error state => exact h
  | logout now => exact logout_upToDate e now
  | submit a now => exact submit_upToDate h a now
  | keystroke chat now => exact keystroke_upToDate h chat now
  | event connection event now =>
      exact processSession_upToDate h hclocked.told
        (Session.handleEvent_tells hclocked.session.held.mp connection event now e.timers)
        (fun h => Session.handleEvent_spoken Session.refused_spoken h connection event now e.timers)
        (Session.handleEvent_clocked hclocked.session connection event now).1 now
  | timers now =>
      have hdrained : UpToDate { e with timers := (e.timers.drain now).2 } :=
        h.of_eq rfl fun _ => rfl
      exact handleTimers_upToDate _ hdrained (hclocked.drain now) (e.timers.due_nodup now) now
  | history chat generation result now => exact applyHistory_upToDate h chat generation result now
  | transport f => exact ⟨h.held, h.sent⟩
  | _ => exact h.of_eq rfl fun _ => rfl

end Engine

/-! ## 4. Runs -/

namespace Engine

open Timer (Key)

variable {τ : Type}

theorem clocked_onRecord {e : Engine τ} {owed : List Key} (h : e.Clocked owed) :
    e.onRecord.Clocked owed :=
  ⟨⟨h.session.held, h.session.login, h.session.armed, h.session.handshakeAt, h.session.livenessAt,
    h.session.ending⟩, h.sound, h.outbox, h.router, h.typing, h.steady, h.told⟩

variable [Transport τ]

/-- An input leaves nothing unsent, or the frame of an action is refused meanwhile. -/
theorem step_underway {e : Engine τ} (hclocked : e.Clocked [])
    (h : e.session.state = .active → e.outbox.Underway) (i : Input τ) :
    Transport.Refused (e.called i) ∨
      ((e.step i).session.state = .active → (e.step i).outbox.Underway) := by
  have hstart : e.onRecord.UpToDate :=
    ⟨fun hactive => hclocked.session.held.mpr (.inr (.inr hactive)),
      .inr fun hactive _ => h hactive⟩
  have hdone := step_upToDate hstart (clocked_onRecord hclocked) i
  rw [← step_onRecord e i]
  exact hdone.sent.imp_right fun hsent hactive => hsent hactive hactive

theorem refuses_of_refused {e : Engine τ} {i : Input τ} (h : Transport.Refused (e.called i))
    (rest : List (Input τ)) : ∃ mark ∈ e.journal [] (i :: rest), mark.refuses = true := by
  obtain ⟨id, frame, hmem, hframe⟩ := h
  refine ⟨.did (.sent id frame false), ?_, hframe⟩
  rw [journal_cons]
  exact List.mem_append_right _ (mem_marks_sent.mpr hmem)

/-- In a run in which no frame of an action is refused nothing is left unsent. -/
theorem run_sends {e : Engine τ} (hclocked : e.Clocked [])
    (h : e.session.state = .active → e.outbox.Underway) (inputs : List (Input τ))
    (hinputs : ∀ i ∈ inputs, i.Proper)
    (hwrites : ∀ mark ∈ e.journal [] inputs, mark.refuses = false) :
    (e.run inputs).session.state = .active → (e.run inputs).outbox.Underway := by
  induction inputs generalizing e with
  | nil => exact h
  | cons i rest ih =>
      obtain ⟨hi, hrest⟩ := List.forall_mem_cons.mp hinputs
      have hstep := (step_underway hclocked h i).resolve_left fun hrefused => by
        obtain ⟨mark, hmem, hrefuses⟩ := refuses_of_refused hrefused rest
        rw [hwrites mark hmem] at hrefuses
        cases hrefuses
      refine ih (step_clocked hclocked i hi) hstep hrest fun mark hmem => hwrites mark ?_
      rw [journal_cons]
      exact List.mem_append_left _ hmem

/-- **In every run in which no frame of an action is refused**, whatever stands in front of a queue
while the session is active was sent or waits for its next attempt, and its deadline is armed. -/
theorem run_underway {e : Engine τ} (he : e.Fresh) (inputs : List (Input τ))
    (hinputs : ∀ i ∈ inputs, i.Proper)
    (hwrites : ∀ mark ∈ e.journal [] inputs, mark.refuses = false)
    (hactive : (e.run inputs).session.state = .active) {chat : String} {a : Action}
    {rest : List Action} (hqueue : (e.run inputs).outbox.queue chat = a :: rest) :
    (a.state = .inFlight ∨ a.state = .waiting) ∧
      (e.run inputs).timers.isScheduled (.action a.id) = true := by
  have hunderway := run_sends he.clocked (fun h => by simp [he.disconnected] at h) inputs hinputs
    hwrites hactive
  have hstate : a.state ≠ .pending := hunderway chat a rest hqueue
  have hmem : a ∈ (e.run inputs).outbox.queue chat := hqueue ▸ List.mem_cons_self
  have hclocked := run_clocked he.clocked inputs hinputs
  refine ⟨?_, (hclocked.outbox.armed a.id).mpr ⟨⟨chat, a, hmem, rfl, hstate⟩, List.not_mem_nil⟩⟩
  cases hs : a.state with
  | pending => exact absurd hs hstate
  | inFlight => exact .inl rfl
  | waiting => exact .inr rfl

/-- Of two messages in one chat the first one is in flight. -/
theorem run_underway_first : ∃ e : Engine MemoryTransport, e.Fresh ∧
    let inputs := [.connect ⟨"u1", "t1"⟩ 0, .event 1 .opened 1,
      .event 1 (.frame "\x7b\"type\": \"auth_ok\"\x7d") 2,
      .submit (.new "a1" (.text "42" "one") 3) 3, .submit (.new "a2" (.text "42" "two") 4) 4]
    ∃ a rest, (e.run inputs).outbox.queue "42" = a :: rest ∧
      (a.state = .inFlight ∨ a.state = .waiting) ∧
        (e.run inputs).timers.isScheduled (.action a.id) = true := by
  let inputs : List (Input MemoryTransport) := [.connect ⟨"u1", "t1"⟩ 0, .event 1 .opened 1,
    .event 1 (.frame "\x7b\"type\": \"auth_ok\"\x7d") 2,
    .submit (.new "a1" (.text "42" "one") 3) 3, .submit (.new "a2" (.text "42" "two") 4) 4]
  obtain ⟨e, he, hwrites, hactive, hqueue⟩ := exists_fresh_of (fun e =>
    (∀ mark ∈ e.journal [] inputs, mark.refuses = false) ∧
      (e.run inputs).session.state = .active ∧
      (e.run inputs).outbox.queue "42" =
        [⟨"a1", .text "42" "one", 3, 0, .inFlight⟩, .new "a2" (.text "42" "two") 4])
    (by decide +kernel)
  exact ⟨e, he, _, _, hqueue,
    run_underway he inputs (by simp [inputs, Input.Proper]) hwrites hactive hqueue⟩

end Engine

end RealtimeChat
