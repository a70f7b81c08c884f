import RealtimeChat.Proofs.Engine.Kept
import RealtimeChat.Proofs.Engine.Record
import RealtimeChat.Proofs.Session.Gate
/-!
# A client trusts nobody who has not accepted its user

Whatever a client is told to do, on each connection it introduces its user first, and it says
anything else, and listens to anything, only after the server has accepted the user there. This is
read off a journal of the run: what was told to the session, and what the session did with its
transport.

* `announced`, `journal` -- the journal of a run, the newest mark in front;
* **`step_gate`** -- every input keeps the session as far as the journal says;
* `Unmoved` -- nothing of what the user sees or has queued was touched;
* `Gatekept`, **`run_gatekept`** -- the property, and that it holds in every run.
-/

namespace RealtimeChat

/-- The frame of an action introduces nobody. -/
@[simp] theorem Action.frame_introduces (a : Action) : a.frame.introduces = false := by
  unfold Action.frame
  cases a.intent <;> rfl

namespace Engine

open Session (Mark current Introduced Admitted written Stage Signal)
open Transport (Recorded)

variable {τ : Type}

/-! ## 1. The journal of a run -/

section Journal

variable [Transport τ]

/-- What an input is noted as. A login that is refused is not noted. -/
def announced (e : Engine τ) : Input τ → List Mark
  | .connect credentials now =>
    match e.session.connect credentials now e.timers with
    | .ok _ => [.began credentials]
    | .error _ => []
  | .logout _ => [.ended]
  | .event connection event _ => [.heard connection event]
  | _ => []

/-- The journal after more inputs: each one is noted, and then what the session did. -/
def journal : Engine τ → List Mark → List (Input τ) → List Mark
  | _, log, [] => log
  | e, log, i :: rest =>
    journal (e.step i) ((e.called i).map .did ++ (e.announced i ++ log)) rest

theorem journal_eq_append (e : Engine τ) (log : List Mark) (inputs : List (Input τ)) :
    e.journal log inputs = e.journal [] inputs ++ log := by
  induction inputs generalizing e log with
  | nil => rfl
  | cons i rest ih =>
      unfold journal
      rw [ih, ih _ (_ ++ (_ ++ []))]
      simp only [List.append_assoc, List.append_nil]

theorem journal_cons (e : Engine τ) (i : Input τ) (rest : List (Input τ)) :
    e.journal [] (i :: rest) =
      (e.step i).journal [] rest ++ ((e.called i).map .did ++ e.announced i) := by
  rw [journal, journal_eq_append, List.append_nil]

theorem journal_append (e : Engine τ) (before after : List (Input τ)) :
    e.journal [] (before ++ after) = (e.run before).journal [] after ++ e.journal [] before := by
  induction before generalizing e with
  | nil => exact (List.append_nil _).symm
  | cons i rest ih =>
      rw [List.cons_append, journal_cons, ih, journal_cons, List.append_assoc]
      rfl

/-- Only what is done with the transport is sent. -/
theorem mem_marks_sent {e : Engine τ} {i : Input τ} {id : ConnectionId} {frame : Outgoing}
    {ok : Bool} : .did (.sent id frame ok) ∈ (e.called i).map Mark.did ++ e.announced i ↔
      .sent id frame ok ∈ e.called i := by
  have hannounced : .did (.sent id frame ok) ∉ e.announced i := by
    unfold announced
    repeat' split
    all_goals simp
  simp [hannounced]

/-- A logout is noted as the end of a login, and nothing else is. -/
theorem mem_marks_ended {e : Engine τ} {i : Input τ} :
    .ended ∈ (e.called i).map Mark.did ++ e.announced i ↔ ∃ now, i = .logout now := by
  cases i with
  | connect credentials now =>
      dsimp only [announced]
      split <;> simp
  | _ => simp [announced]

end Journal

section Steps

variable {e : Engine τ} {log : List Mark}

theorem stage_onRecord (h : e.session.Stage log) : e.onRecord.session.Stage log :=
  ⟨⟨h.gated, h.below, h.login⟩, h.numbered, h.held, h.connecting, h.authenticating, h.active⟩

theorem stage_bare {s : Session (Recorded τ)} (h : s.Stage log) : s.bare.Stage log :=
  ⟨⟨h.gated, h.below, h.login⟩, h.numbered, h.held, h.connecting, h.authenticating, h.active⟩

variable [Transport τ]

theorem kept_stage (base : List Mark) : Kept (fun _ => True)
    fun e : Engine (Recorded τ) => e.session.Stage (e.session.journal base) :=
  .ofSession (P := fun s => s.Stage (s.journal base))
    (fun _ a h => Session.sendFrame_gate h a.frame_introduces)
    fun _ key now timers _ h hanswer =>
      (Session.handleTimer_gate h key now timers hanswer).of_eq rfl rfl rfl rfl

/-- **Every input keeps the session as far as the journal says.** -/
theorem step_gate (h : e.session.Stage log) (i : Input τ) :
    (e.step i).session.Stage ((e.called i).map .did ++ (e.announced i ++ log)) := by
  have hon := stage_onRecord h
  have hcalls : e.onRecord.session.transport.calls = [] := rfl
  have hentered : (e.onRecord.entered i.recorded).session.Stage
      ((e.onRecord.entered i.recorded).session.journal (e.announced i ++ log)) := by
    cases i with
    | connect credentials now =>
        have hbare := Session.connect_bare e.onRecord.session now e.timers credentials
        have hannounced : e.announced (.connect credentials now) =
            match e.onRecord.session.connect credentials now e.timers with
            | .ok _ => [.began credentials]
            | .error _ => [] := by
          show (match e.onRecord.session.bare.connect credentials now e.timers with
            | .ok _ => _
            | .error _ => _) = _
          rw [hbare]
          cases e.onRecord.session.connect credentials now e.timers <;> rfl
        have htimers : e.onRecord.timers = e.timers := rfl
        rw [hannounced]
        dsimp only [entered, Input.recorded]
        rw [htimers]
        cases hs : e.onRecord.session.connect credentials now e.timers with
        | ok answer =>
            exact (Session.connect_gate hon hcalls credentials now _ hs).of_eq rfl rfl rfl rfl
        | error state => exact hon
    | logout now =>
        obtain ⟨timers, hsession⟩ := e.onRecord.endLogin_session
        have hlogout := Session.logout_gate hon hcalls timers
        rw [← hsession] at hlogout
        exact hlogout.of_eq rfl rfl rfl rfl
    | event connection event now =>
        exact (Session.handleEvent_gate hon hcalls connection event now _).of_eq rfl rfl rfl rfl
    | transport f => exact hon.of_eq rfl rfl rfl rfl
    | _ => exact hon
  have hstep := stage_bare
    (step_kept (kept_stage (e.announced i ++ log)) i.recorded (fun _ _ => trivial) hentered)
  rw [← step_onRecord]
  exact hstep

theorem run_gate (h : e.session.Stage log) (inputs : List (Input τ)) :
    (e.run inputs).session.Stage (e.journal log inputs) := by
  induction inputs generalizing e log with
  | nil => exact h
  | cons i rest ih => exact ih (step_gate h i)

omit [Transport τ] in
theorem Fresh.stage (h : e.Fresh) : e.session.Stage [] := by
  refine h.rule fun settings endpoint transport entropy ids store historyEnabled => ?_
  exact Session.Agrees.stage ⟨.nil, fun _ _ _ _ hmem => absurd hmem List.not_mem_nil, rfl⟩ rfl

end Steps

/-! ## 2. Frames that are not listened to -/

/-- Nothing of what the user sees or has queued was touched. -/
structure Unmoved (e e' : Engine τ) : Prop where
  outbox : e'.outbox = e.outbox
  router : e'.router = e.router
  store : e'.store = e.store
  cursors : e'.cursors = e.cursors

theorem Unmoved.refl (e : Engine τ) : Unmoved e e := ⟨rfl, rfl, rfl, rfl⟩

theorem Unmoved.trans {e e' e'' : Engine τ} (h : Unmoved e e') (h' : Unmoved e' e'') :
    Unmoved e e'' :=
  ⟨h'.outbox.trans h.outbox, h'.router.trans h.router, h'.store.trans h.store,
    h'.cursors.trans h.cursors⟩

section Signals

variable {e : Engine τ}

theorem publishSettled_quiet (h : e.outbox.settled = []) : e.publishSettled = e := by
  obtain ⟨session, router, ⟨capacity, timeout, retry, chats, index, ids, order, settled⟩⟩ := e
  cases h
  rfl

variable [Transport τ]

theorem handleSignal_unmoved {x : Signal} (hx : x.Idle) (now : Instant) :
    Unmoved e (e.handleSignal x now) := by
  cases x with
  | stateChanged before after =>
      obtain ⟨hb, ha⟩ := hx
      dsimp only [handleSignal, handleStateChange]
      rw [if_neg hb, if_neg ha]
      exact ⟨rfl, rfl, rfl, rfl⟩
  | inbound frame => exact hx.elim
  | _ => exact ⟨rfl, rfl, rfl, rfl⟩

theorem processSignals_unmoved (hempty : e.outbox.settled = [])
    (hidle : ∀ x ∈ e.session.signals, x.Idle) (now : Instant) :
    Unmoved e (e.processSignals now) := by
  have along : ∀ (signals : List Signal) (e : Engine τ), (∀ x ∈ signals, x.Idle) →
      Unmoved e (signals.foldl (fun e x => handleSignal e x now) e) := by
    intro signals
    induction signals with
    | nil => exact fun e _ => .refl e
    | cons x rest ih =>
        intro e hidle
        exact (handleSignal_unmoved (hidle x List.mem_cons_self) now).trans
          (ih _ fun x hx => hidle x (List.mem_cons_of_mem _ hx))
  have htaken : Unmoved e { e with session := e.session.takeSignals.2 } := ⟨rfl, rfl, rfl, rfl⟩
  have hsignals := htaken.trans (along e.session.signals _ hidle)
  rw [← publishSettled_quiet ((congrArg Outbox.settled hsignals.outbox).trans hempty)] at hsignals
  exact hsignals

/-- A session that has nothing to tell changes nothing. -/
theorem processSignals_quiet (hempty : e.outbox.settled = []) (htold : e.session.signals = [])
    (now : Instant) : e.processSignals now = e := by
  unfold processSignals
  rw [Session.takeSignals_quiet htold]
  exact publishSettled_quiet hempty

/-- What happens to another connection than the current one changes nothing. -/
theorem handleEvent_foreign (hempty : e.outbox.settled = []) (htold : e.session.signals = [])
    {id : ConnectionId} (hid : e.session.connection.map (·.id) ≠ some id) (event : Transport.Event)
    (now : Instant) : e.handleEvent id event now = e := by
  have hsession : e.session.handleEvent id event now e.timers = (e.session, e.timers) := if_neg hid
  unfold handleEvent
  rw [hsession]
  exact processSignals_quiet hempty htold now

/-- A text is listened to only while the user is admitted, or if it admits the user. -/
theorem handleEvent_unmoved {log : List Mark} (hempty : e.outbox.settled = [])
    (htold : e.session.signals = []) (h : e.session.Stage log) (id : ConnectionId) (text : String)
    (now : Instant) :
    Unmoved e (e.handleEvent id (.frame text) now) ∨
      e.session.connection.map (·.id) = some id ∧ ∃ c, current log = some c ∧
        (Admitted id c log ∨
          Introduced id c log ∧ ∃ user, Incoming.decode text = .ok (.authAccepted user)) := by
  by_cases hid : e.session.connection.map (·.id) = some id
  · obtain ⟨connection, hc, rfl⟩ := Option.map_eq_some_iff.mp hid
    by_cases hactive : e.session.state = .active
    · obtain ⟨c, huser, hadmitted⟩ := h.active hactive connection hc
      exact .inr ⟨hid, c, h.login.symm.trans huser, .inl hadmitted⟩
    · by_cases haccepted : e.session.state = .authenticating ∧
          ∃ user, Incoming.decode text = .ok (.authAccepted user)
      · obtain ⟨c, huser, hintroduced⟩ := h.authenticating haccepted.1 connection hc
        exact .inr ⟨hid, c, h.login.symm.trans huser, .inr ⟨hintroduced, haccepted.2⟩⟩
      · have hidle := Session.received_idle htold hactive
          (fun hs user hdecode => haccepted ⟨hs, user, hdecode⟩) connection.id now e.timers
        have hsession : e.session.handleEvent connection.id (.frame text) now e.timers =
          e.session.received connection.id text now e.timers := if_pos hid
        unfold handleEvent
        rw [hsession]
        have hreceived : Unmoved e { e with
            session := (e.session.received connection.id text now e.timers).1
            timers := (e.session.received connection.id text now e.timers).2 } :=
          ⟨rfl, rfl, rfl, rfl⟩
        refine .inl (hreceived.trans (processSignals_unmoved ?_ ?_ now))
        · exact hempty
        · exact hidle
  · rw [handleEvent_foreign hempty htold hid]
    exact .inl (.refl e)

end Signals

/-! ## 3. Every run -/

/-- A client in a state that a journal leads to trusts nobody who has not accepted its user. -/
structure Gatekept [Transport τ] (e : Engine τ) (log : List Mark) : Prop where
  /-- Nothing was sent on a connection, or an introduction once and first. -/
  first : ∀ id, written id log = [] ∨ ∃ c rest, written id log = Credentials.introduction c :: rest ∧
    ∀ frame ∈ rest, frame.introduces = false
  /-- Whoever is introduced is the one who is logged in. -/
  introduced : ∀ newer id frame ok older, log = newer ++ .did (.sent id frame ok) :: older →
    frame.introduces = true → ∃ c, current older = some c ∧ frame = c.introduction
  /-- All else is sent where the one who is logged in is admitted. -/
  admitted : ∀ newer id frame ok older, log = newer ++ .did (.sent id frame ok) :: older →
    frame.introduces = false → ∃ c, current older = some c ∧ Admitted id c older
  /-- A text has an effect only on the current connection, where the user is admitted or is admitted
  by this text. -/
  listens : ∀ id text now, Unmoved e (e.step (.event id (.frame text) now)) ∨
    e.session.connection.map (·.id) = some id ∧ ∃ c, current log = some c ∧
      (Admitted id c log ∨
        Introduced id c log ∧ ∃ user, Incoming.decode text = .ok (.authAccepted user))
  /-- What happens to any other connection has no effect at all. -/
  foreign : ∀ id event now, e.session.connection.map (·.id) ≠ some id →
    e.step (.event id event now) = e

/-- **Whatever a client is told to do**, it talks and listens only where its user was introduced and
accepted; and what the journal says it did with the transport is what it does on any. -/
theorem run_gatekept [Transport τ] {e : Engine τ} (he : e.Fresh) (inputs : List (Input τ)) :
    (e.run inputs).Gatekept (e.journal [] inputs) ∧
      ∀ (e : Engine τ) (i : Input τ), (e.onRecord.step i.recorded).bare = e.step i := by
  have hstage := run_gate he.stage inputs
  have hempty := (run_quiet he.quiet inputs).empty
  have htold := run_told he.told inputs
  generalize e.run inputs = e' at *
  generalize e.journal [] inputs = log at *
  refine ⟨⟨fun id => hstage.gated.written_eq id, ?_, ?_, ?_, ?_⟩, step_onRecord⟩
  · rintro newer id frame ok older rfl hframe
    have hbehind := hstage.gated.behind
    cases hbehind with
    | mute hx => exact hx.elim
    | introduction hfirst hc => exact ⟨_, hc, rfl⟩
    | other hframe' => rw [hframe] at hframe'; cases hframe'
  · rintro newer id frame ok older rfl hframe
    have hbehind := hstage.gated.behind
    cases hbehind with
    | mute hx => exact hx.elim
    | introduction hfirst hc => cases hframe
    | other hframe hc hadmitted => exact ⟨_, hc, hadmitted⟩
  · exact fun id text now => handleEvent_unmoved hempty htold hstage id text now
  · exact fun id event now hid => handleEvent_foreign hempty htold hid event now

/-- A user logs in, the connection opens, and the server accepts the user. -/
theorem run_gatekept_login : ∃ e : Engine MemoryTransport, e.Fresh ∧
    let inputs := [.connect ⟨"u1", "t1"⟩ 0, .event 1 .opened 1,
      .event 1 (.frame "\x7b\"type\": \"auth_ok\"\x7d") 2]
    (e.run inputs).Gatekept (e.journal [] inputs) :=
  have ⟨e, he⟩ := exists_fresh
  ⟨e, he, (run_gatekept he _).1⟩

end Engine

end RealtimeChat
