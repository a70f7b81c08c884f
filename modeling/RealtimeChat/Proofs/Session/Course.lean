import RealtimeChat.Notice
import RealtimeChat.Proofs.Session.Deadlines
/-!
# The course of a session

A session goes from state to state by certain steps only, and it tells of each one. Before it fails
it tells that it gives up: the server rejected the user, or it could not be reached too often.

* `State.Leads` -- the steps;
* `News`, `Course` -- what is told of a way from state to state, and which ways there are;
* `Onward` -- a way on which nobody logged out;
* `Tells` -- what an operation tells is the way that the session went;
* **`handleEvent_tells`**, **`handleTimer_tells`** and the others -- operations tell the truth.
-/

namespace RealtimeChat

namespace Session

/-! ## 1. Ways from state to state -/

/-- The steps from state to state; none leads from a state to itself. -/
def State.Leads (x : State) : State → Prop
  | .connecting => x = .disconnected ∨ x = .failed ∨ x = .reconnecting
  | .authenticating => x = .connecting
  | .active => x = .authenticating
  | .reconnecting | .failed => x.Connected
  | .disconnected => x ≠ .disconnected

theorem State.Leads.ne {x y : State} (h : x.Leads y) : x ≠ y := by
  rintro rfl
  cases x <;> simp [State.Leads, State.Connected] at h

/-- What is told about the course of a session. -/
inductive News where
  | step (before after : State)
  /-- There is no point in trying again. -/
  | gaveUp
deriving DecidableEq

/-- The news tell of a way from one state to another, step by step. Whoever fails gave up just
before, once, and nobody else gives up. -/
inductive Course : State → List News → State → Prop where
  | still (x : State) : Course x [] x
  | step {x y z : State} {rest : List News} (h : x.Leads y) (hy : y ≠ .failed)
      (hrest : Course y rest z) : Course x (.step x y :: rest) z
  | fail {x z : State} {rest : List News} (h : x.Leads .failed) (hrest : Course .failed rest z) :
      Course x (.gaveUp :: .step x .failed :: rest) z

theorem Course.leads {x z : State} {news : List News} (h : Course x news z) :
    ∀ a b, .step a b ∈ news → a.Leads b := by
  intro a b hmem
  induction h with
  | still => cases hmem
  | step hstep _ _ ih =>
      obtain heq | hrest := List.mem_cons.mp hmem
      · cases heq
        exact hstep
      · exact ih hrest
  | fail hfail _ ih =>
      obtain heq | hrest := List.mem_cons.mp hmem
      · cases heq
      · obtain heq | hrest := List.mem_cons.mp hrest
        · cases heq
          exact hfail
        · exact ih hrest

theorem Course.trans {x y z : State} {news news' : List News} (h : Course x news y)
    (h' : Course y news' z) : Course x (news ++ news') z := by
  induction h with
  | still => exact h'
  | step hstep hy _ ih => exact .step hstep hy (ih h')
  | fail hfail _ ih => exact .fail hfail (ih h')

/-- The state of somebody of whom one has heard this. -/
def State.after (x : State) : News → State
  | .step _ y => y
  | .gaveUp => x

theorem Course.ends {x z : State} {news : List News} (h : Course x news z) :
    news.foldl State.after x = z := by
  induction h with
  | still => rfl
  | step _ _ _ ih => exact ih
  | fail _ _ ih => exact ih

/-- What a signal tells about the course of the session. -/
def Signal.news? : Signal → Option News
  | .stateChanged before after => some (.step before after)
  | .authRejected _ | .reconnectExhausted _ => some .gaveUp
  | _ => none

end Session

/-- What a notice tells about the course of the session. -/
def Notice.news? : Notice → Option Session.News
  | .stateChanged before after => some (.step before after)
  | .authFailed _ | .reconnectExhausted _ => some .gaveUp
  | _ => none

namespace Session

variable {τ : Type}

/-! ## 2. What operations tell -/

/-- A way on which nobody logged out. -/
structure Onward (x : State) (news : List News) (z : State) : Prop where
  course : Course x news z
  stays : ∀ a, .step a .disconnected ∉ news

theorem Onward.still (x : State) : Onward x [] x := ⟨.still x, fun _ => List.not_mem_nil⟩

theorem Onward.trans {x y z : State} {news news' : List News} (h : Onward x news y)
    (h' : Onward y news' z) : Onward x (news ++ news') z :=
  ⟨h.course.trans h'.course, fun a hmem =>
    (List.mem_append.mp hmem).elim (h.stays a) (h'.stays a)⟩

/-- What is told on the way from one session to another is the way that was gone, and nobody logged
out. -/
def Tells (s s' : Session τ) : Prop :=
  ∃ told : List Signal, s'.signals = s.signals ++ told ∧
    Onward s.state (told.filterMap Signal.news?) s'.state

section Parts

variable {s s' s'' : Session τ}

/-- Nothing is told of a session that stays in its state. -/
theorem Tells.aside (hstate : s'.state = s.state) {told : List Signal}
    (hsignals : s'.signals = s.signals ++ told) (hnews : ∀ x ∈ told, x.news? = none) :
    Tells s s' := by
  refine ⟨told, hsignals, ?_⟩
  rw [List.filterMap_eq_nil_iff.mpr hnews, hstate]
  exact .still _

theorem Tells.still (hstate : s'.state = s.state) (hsignals : s'.signals = s.signals) :
    Tells s s' :=
  .aside hstate (hsignals.trans (List.append_nil _).symm) (by simp)

theorem Tells.trans (h : Tells s s') (h' : Tells s' s'') : Tells s s'' := by
  obtain ⟨told, hsignals, honward⟩ := h
  obtain ⟨told', hsignals', honward'⟩ := h'
  refine ⟨told ++ told', by rw [hsignals', hsignals, List.append_assoc], ?_⟩
  rw [List.filterMap_append]
  exact honward.trans honward'

theorem transition_of_leads {next : State} (h : s.state.Leads next) :
    s.transition next = { s with
      state := next, signals := s.signals ++ [.stateChanged s.state next] } :=
  if_neg h.ne

theorem transition_state (s : Session τ) (next : State) : (s.transition next).state = next := by
  obtain ⟨signals, heq⟩ := s.transition_eq next
  rw [heq]

theorem transition_tells {next : State} (h : s.state.Leads next) (hf : next ≠ .failed)
    (hd : next ≠ .disconnected) : Tells s (s.transition next) := by
  rw [transition_of_leads h]
  refine ⟨[.stateChanged s.state next], rfl, .step h hf (.still next), fun a hmem => hd ?_⟩
  cases List.mem_singleton.mp hmem
  rfl

/-- To fail is to say why first. -/
theorem fail_tells (h : s.state.Connected) {why : Signal} (hwhy : why.news? = some .gaveUp) :
    Tells s ((s.signal why).transition .failed) := by
  have hleads : s.state.Leads .failed := h
  rw [transition_of_leads (s := s.signal why) hleads]
  refine ⟨[why, .stateChanged s.state .failed], List.append_assoc .., ?_⟩
  rw [List.filterMap_cons_some hwhy]
  exact ⟨.fail hleads (.still _), fun a hmem => by simp [Signal.news?] at hmem⟩

theorem scheduleReconnect_tells (h : s.state.Connected) (now : Instant) (timers : Timers) :
    Tells s (s.scheduleReconnect now timers).1 := by
  unfold scheduleReconnect
  split
  · exact fail_tells h rfl
  · dsimp only
    generalize (if s.plan.reconnect.clampedJitter.isZero then (0, s.entropy) else s.entropy.next) =
      drawn
    have hcounted : Tells s { s with failures := s.failures + 1, entropy := drawn.2 } :=
      .still rfl rfl
    have hleads : s.state.Leads .reconnecting := h
    have hwaits := hcounted.trans (transition_tells hleads nofun nofun)
    exact hwaits.trans (.aside rfl rfl (by simp [Signal.news?]))

variable [Transport τ]

theorem dropConnection_tells (s : Session τ) : Tells s s.dropConnection := by
  rw [dropConnection_eq]
  exact .still rfl rfl

theorem connectionFailed_tells (h : s.state.Connected) (reason : String) (now : Instant)
    (timers : Timers) : Tells s (s.connectionFailed reason now timers).1 := by
  obtain ⟨lost, hfailed, hlost⟩ : ∃ lost, s.connectionFailed reason now timers =
        { s.dropConnection with signals := s.dropConnection.signals ++ lost }.scheduleReconnect
          now (cancelConnectionTimers timers) ∧
      ∀ x ∈ lost, x.news? = none := by
    refine ⟨_, rfl, fun x hx => ?_⟩
    repeat' split at hx
    all_goals simp_all [Signal.news?]
  have hsignals : s.dropConnection.signals = s.signals := by rw [dropConnection_eq]
  have hstate : s.dropConnection.state = s.state := by rw [dropConnection_eq]
  have hdropped : Tells s { s.dropConnection with signals := s.dropConnection.signals ++ lost } :=
    .aside hstate (by rw [hsignals]) hlost
  rw [hfailed]
  refine hdropped.trans (scheduleReconnect_tells ?_ now _)
  rw [← hstate] at h
  exact h

theorem openConnection_tells (h : s.state.Leads .connecting) (now : Instant) (timers : Timers) :
    Tells s (s.openConnection now timers).1 := by
  unfold openConnection
  split
  · exact .still rfl rfl
  · rename_i login _
    dsimp only
    have hnumbered : Tells s { s with
        nextConnection := s.nextConnection + 1
        login := some { login with connections := login.connections ++ [s.nextConnection] } } :=
      .still rfl rfl
    have hdials := hnumbered.trans (transition_tells h nofun nofun)
    have hstate := transition_state ({ s with
        nextConnection := s.nextConnection + 1
        login := some { login with connections := login.connections ++ [s.nextConnection] } } :
        Session τ) .connecting
    generalize (({ s with
        nextConnection := s.nextConnection + 1
        login := some { login with connections := login.connections ++ [s.nextConnection] } } :
        Session τ).transition .connecting) = dialled at *
    split
    · exact hdials.trans (.still rfl rfl)
    · rename_i fault transport _
      have hrefused : Tells dialled { dialled with transport } := .still rfl rfl
      refine (hdials.trans hrefused).trans (scheduleReconnect_tells ?_ now timers)
      exact .inl hstate

end Parts

/-! ## 3. Operations -/

section Operations

variable [Transport τ] {s : Session τ}

theorem sendFrame_tells (s : Session τ) (frame : Outgoing) : Tells s (s.sendFrame frame).2 := by
  obtain ⟨transport, heq⟩ := s.sendFrame_eq frame
  rw [heq]
  exact .still rfl rfl

theorem opened_tells (s : Session τ) (now : Instant) (timers : Timers) :
    Tells s (s.opened now timers).1 := by
  unfold opened
  split
  · rename_i c login hstate _ _
    dsimp only
    split
    · rename_i transport _
      have hopen : Tells s { s with
          connection := some { c with phase := .open, lastActivity := now }, transport } :=
        .still rfl rfl
      exact hopen.trans (transition_tells hstate nofun nofun)
    · rename_i fault transport _
      have hopen : Tells s { s with
          connection := some { c with phase := .open, lastActivity := now }, transport } :=
        .still rfl rfl
      refine hopen.trans (connectionFailed_tells ?_ _ now timers)
      exact .inl hstate
  · exact .still rfl rfl

omit [Transport τ] in
theorem activate_tells (h : s.state = .authenticating) (now : Instant) (timers : Timers) :
    Tells s (s.activate now timers).1 := by
  have hcounted : Tells s { s with failures := 0, activations := s.activations + 1 } :=
    .still rfl rfl
  have hleads : s.state.Leads .active := h
  exact hcounted.trans (transition_tells hleads nofun nofun)

theorem rejected_tells (h : s.state.Connected) (reason : String) (timers : Timers) :
    Tells s (s.rejected reason timers).1 := by
  have hstate : s.dropConnection.state = s.state := by rw [dropConnection_eq]
  rw [← hstate] at h
  exact (dropConnection_tells s).trans (fail_tells h rfl)

theorem received_tells (h : s.state.Connected) (connection : ConnectionId) (text : String)
    (now : Instant) (timers : Timers) :
    Tells s (s.received connection text now timers).1 := by
  have hheard : Tells s { s with
      connection := s.connection.map ({ · with lastActivity := now }) } := .still rfl rfl
  unfold received
  dsimp only
  refine hheard.trans ?_
  split
  · exact .aside rfl rfl (by simp [Signal.news?])
  · split
    · exact activate_tells ‹_› now _
    · exact .still rfl rfl
  · refine rejected_tells ?_ _ _
    exact h
  · exact .still rfl rfl
  · dsimp only
    split
    · exact .aside rfl rfl (by simp [Signal.news?])
    · exact .still rfl rfl

theorem connect_tells (credentials : Credentials) (now : Instant) (timers : Timers)
    {answer : Session τ × Timers} (hanswer : s.connect credentials now timers = .ok answer) :
    Tells s answer.1 := by
  unfold connect at hanswer
  split at hanswer
  · cases hanswer
  · rename_i hlive
    cases hanswer
    have hleads : s.state.Leads .connecting := by
      cases hstate : s.state <;> simp_all [State.Leads, State.isLive]
    have hbegun : Tells s { s with
        login := some ⟨credentials, []⟩, failures := 0, activations := 0 } := .still rfl rfl
    refine hbegun.trans (openConnection_tells ?_ now timers)
    exact hleads

/-- Where there is a connection the session is connected, so it can be lost. -/
theorem handleEvent_tells (held : s.connection.isSome = true → s.state.Connected)
    (connection : ConnectionId) (event : Transport.Event) (now : Instant) (timers : Timers) :
    Tells s (s.handleEvent connection event now timers).1 := by
  unfold handleEvent
  split
  · rename_i hid
    have hconnected : s.state.Connected :=
      held (by obtain ⟨c, hc, -⟩ := Option.map_eq_some_iff.mp hid; rw [hc]; rfl)
    cases event with
    | opened => exact opened_tells s now timers
    | frame text => exact received_tells hconnected connection text now timers
    | failed reason => exact connectionFailed_tells hconnected reason now timers
    | closed => exact connectionFailed_tells hconnected _ now timers
  · exact .still rfl rfl

theorem heartbeat_tells (h : s.state = .active) (now : Instant) (timers : Timers) :
    Tells s (s.heartbeat now timers).1 := by
  have hsent := sendFrame_tells s .ping
  have hstate : (s.sendFrame .ping).2.state = s.state := by
    obtain ⟨transport, heq⟩ := s.sendFrame_eq .ping
    rw [heq]
  unfold heartbeat
  split
  · rename_i hsend
    rw [hsend] at hsent
    exact hsent
  · rename_i hsend
    rw [hsend] at hsent hstate
    exact hsent.trans (connectionFailed_tells (.inr (.inr (hstate.trans h))) _ now timers)

theorem handleTimer_tells {key : Timer.Key} {now : Instant} {timers : Timers}
    {answer : Session τ × Timers} (hanswer : s.handleTimer key now timers = some answer) :
    Tells s answer.1 := by
  cases key with
  | handshake =>
      cases hanswer
      split
      · rename_i hstate
        exact connectionFailed_tells (hstate.imp_right .inl) _ now timers
      · exact .still rfl rfl
  | reconnect =>
      cases hanswer
      split
      · rename_i hstate
        exact openConnection_tells (.inr (.inr hstate)) now timers
      · exact .still rfl rfl
  | heartbeat =>
      cases hanswer
      split
      · rename_i hstate
        exact heartbeat_tells hstate now timers
      · exact .still rfl rfl
  | liveness =>
      cases hanswer
      split
      · rename_i hstate
        exact connectionFailed_tells (.inr (.inr hstate)) _ now timers
      · exact .still rfl rfl
  | action _ | typingSweep | localTyping _ => cases hanswer

/-- Only logging out leads to no session. -/
theorem logout_course (s : Session τ) (timers : Timers) : ∃ told : List Signal,
    (s.logout timers).1.signals = s.signals ++ told ∧
      Course s.state (told.filterMap Signal.news?) (s.logout timers).1.state := by
  unfold logout
  rw [dropConnection_eq]
  by_cases hstate : s.state = .disconnected
  · refine ⟨[], ?_, ?_⟩
    · simp [transition, hstate]
    · rw [transition_state, hstate]
      exact .still _
  · refine ⟨[.stateChanged s.state .disconnected], ?_, ?_⟩
    · simp [transition, hstate, signal]
    · rw [transition_state]
      exact .step hstate (by decide) (.still _)

end Operations

end Session

end RealtimeChat
