import RealtimeChat.Session
/-!
# Sessions on record

What a session does with its transport is written down by a transport that does the same and keeps
a record. Nothing that happens to a session depends on the record.

* `Transport.Recorded`, `Transport.Call` -- a transport that keeps a record of what is done with it;
* `Input`, `step`, `run` -- what may happen to a session, in any order;
* `bare` -- the session with the record taken off;
* **`run_bare`** -- writing down the calls does not change what a session does.
-/

namespace RealtimeChat

/-! ## 1. The record of a transport -/

/-- What may be done with a transport, and whether it worked. -/
inductive Transport.Call where
  | opened (id : ConnectionId) (ok : Bool)
  | sent (id : ConnectionId) (frame : Outgoing) (ok : Bool)
  | closed (id : ConnectionId)

/-- A transport of any kind that keeps a record of what is done with it. -/
structure Transport.Recorded (τ : Type) where
  inner : τ
  /-- The newest call stands in front. -/
  calls : List Transport.Call

namespace Transport

instance {τ : Type} [Transport τ] : Transport (Recorded τ) where
  openConnection t id endpoint credentials :=
    let (result, inner) := Transport.openConnection t.inner id endpoint credentials
    (result, ⟨inner, .opened id result.isOk :: t.calls⟩)
  send t id frame :=
    let (result, inner) := Transport.send t.inner id frame
    (result, ⟨inner, .sent id frame result.isOk :: t.calls⟩)
  close t id := ⟨Transport.close t.inner id, .closed id :: t.calls⟩

theorem calls_openConnection {τ : Type} [Transport τ] {t t' : Recorded τ} {id : ConnectionId}
    {endpoint : String} {credentials : Credentials} {result : Except ConnectFault Unit}
    (h : Transport.openConnection t id endpoint credentials = (result, t')) :
    t'.calls = .opened id result.isOk :: t.calls := by
  have hresult := congrArg Prod.fst h
  have ht := congrArg Prod.snd h
  dsimp only at hresult ht
  rw [← hresult, ← ht]
  rfl

theorem calls_send {τ : Type} [Transport τ] {t t' : Recorded τ} {id : ConnectionId}
    {frame : Outgoing} {result : Except SendFault Unit}
    (h : Transport.send t id frame = (result, t')) :
    t'.calls = .sent id frame result.isOk :: t.calls := by
  have hresult := congrArg Prod.fst h
  have ht := congrArg Prod.snd h
  dsimp only at hresult ht
  rw [← hresult, ← ht]
  rfl

end Transport

namespace Session

open Transport (Recorded)

/-! ## 2. Runs -/

/-- What may happen to a session. The timers may be any. -/
inductive Input (τ : Type) where
  | connect (credentials : Credentials) (now : Instant) (timers : Timers)
  | logout (timers : Timers)
  | event (connection : ConnectionId) (event : Transport.Event) (now : Instant) (timers : Timers)
  | timer (key : Timer.Key) (now : Instant) (timers : Timers)
  | send (frame : Outgoing)
  | takeSignals
  /-- Something happens to the transport that is not done by the session. -/
  | transport (f : τ → τ)

variable {τ : Type}

/-- The same input to a session that is on record. What happens to the transport otherwise is not
written down. -/
def Input.recorded : Input τ → Input (Recorded τ)
  | .connect credentials now timers => .connect credentials now timers
  | .logout timers => .logout timers
  | .event connection what now timers => .event connection what now timers
  | .timer key now timers => .timer key now timers
  | .send frame => .send frame
  | .takeSignals => .takeSignals
  | .transport f => .transport fun t => { t with inner := f t.inner }

/-- The session with the record taken off. -/
def bare (s : Session (Recorded τ)) : Session τ where
  plan := s.plan
  transport := s.transport.inner
  state := s.state
  login := s.login
  connection := s.connection
  nextConnection := s.nextConnection
  failures := s.failures
  activations := s.activations
  entropy := s.entropy
  signals := s.signals

/-- The session on a transport that keeps a record, with nothing on it yet. -/
def onRecord (s : Session τ) : Session (Recorded τ) where
  plan := s.plan
  transport := ⟨s.transport, []⟩
  state := s.state
  login := s.login
  connection := s.connection
  nextConnection := s.nextConnection
  failures := s.failures
  activations := s.activations
  entropy := s.entropy
  signals := s.signals

/-- The session and its timers with the record taken off. -/
def barePair (r : Session (Recorded τ) × Timers) : Session τ × Timers := (r.1.bare, r.2)

variable [Transport τ]

/-- Take one input. A refused login leaves the session as it was. -/
def step (s : Session τ) : Input τ → Session τ
  | .connect credentials now timers =>
    match s.connect credentials now timers with
    | .ok (s, _) => s
    | .error _ => s
  | .logout timers => (s.logout timers).1
  | .event connection event now timers => (s.handleEvent connection event now timers).1
  | .timer key now timers => ((s.handleTimer key now timers).getD (s, timers)).1
  | .send frame => (s.sendFrame frame).2
  | .takeSignals => s.takeSignals.2
  | .transport f => { s with transport := f s.transport }

/-- Take inputs in order. -/
def run (s : Session τ) (inputs : List (Input τ)) : Session τ := inputs.foldl step s

/-! ## 3. Taking off the record -/

section Bare

variable (s : Session (Recorded τ)) (now : Instant) (t : Timers)

omit [Transport τ] in
theorem transition_bare (next : State) : s.bare.transition next = (s.transition next).bare := by
  unfold transition
  split <;> rename_i h
  · rw [if_pos (show s.state = next from h)]
  · rw [if_neg (show ¬ s.state = next from h)]
    rfl

theorem dropConnection_bare : s.bare.dropConnection = s.dropConnection.bare := by
  obtain ⟨plan, transport, state, login, connection⟩ := s
  cases connection <;> rfl

omit [Transport τ] in
theorem signal_bare (x : Signal) : s.bare.signal x = (s.signal x).bare := rfl

omit [Transport τ] in
theorem scheduleReconnect_bare :
    s.bare.scheduleReconnect now t = barePair (s.scheduleReconnect now t) := by
  unfold scheduleReconnect
  split <;> rename_i h
  · rw [if_pos (show s.plan.reconnect.exhausted s.failures = true from h)]
    exact congrArg (·, t) (transition_bare (s.signal _) .failed)
  · rw [if_neg (show ¬ s.plan.reconnect.exhausted s.failures = true from h)]
    simp only [barePair, ← signal_bare, ← transition_bare]
    rfl

theorem openConnection_bare :
    s.bare.openConnection now t = barePair (s.openConnection now t) := by
  unfold openConnection
  cases hl : s.login with
  | none =>
      rw [show s.bare.login = none from hl]
      rfl
  | some login =>
      rw [show s.bare.login = some login from hl]
      have hconnecting := transition_bare { s with
        nextConnection := s.nextConnection + 1
        login := some { login with connections := login.connections ++ [s.nextConnection] } }
        .connecting
      dsimp only [bare] at hconnecting ⊢
      rw [hconnecting]
      generalize transition _ .connecting = dialled
      dsimp only [Transport.openConnection]
      generalize Transport.openConnection dialled.transport.inner s.nextConnection _ _ = answer
      obtain ⟨_ | ⟨⟩, transport⟩ := answer
      · exact scheduleReconnect_bare { dialled with transport := ⟨transport, _⟩ } now t
      · rfl

theorem connectionFailed_bare (reason : String) :
    s.bare.connectionFailed reason now t = barePair (s.connectionFailed reason now t) := by
  have hretry : ∀ lost t, scheduleReconnect { s.bare.dropConnection with
      signals := s.bare.dropConnection.signals ++ lost } now t =
      barePair (scheduleReconnect { s.dropConnection with
        signals := s.dropConnection.signals ++ lost } now t) := by
    intro lost t
    rw [dropConnection_bare]
    exact scheduleReconnect_bare { s.dropConnection with
      signals := s.dropConnection.signals ++ lost } now t
  exact hretry _ _

theorem sendFrame_bare (frame : Outgoing) :
    s.bare.sendFrame frame = ((s.sendFrame frame).1, (s.sendFrame frame).2.bare) := by
  obtain ⟨plan, transport, state, login, connection⟩ := s
  cases connection with
  | none => rfl
  | some c =>
      dsimp only [sendFrame, bare]
      split <;> rfl

theorem opened_bare : s.bare.opened now t = barePair (s.opened now t) := by
  unfold opened
  dsimp only [bare]
  split
  · rename_i c login _ _ _
    let met (transport : Recorded τ) : Session (Recorded τ) :=
      { s with connection := some { c with phase := .open, lastActivity := now }, transport }
    dsimp only [Transport.send]
    generalize Transport.send s.transport.inner c.id _ = answer
    obtain ⟨_ | ⟨⟩, inner⟩ := answer
    · exact connectionFailed_bare (met ⟨inner, _⟩) now t _
    · exact congrArg (·, t) (transition_bare (met ⟨inner, _⟩) .authenticating)
  · rfl

omit [Transport τ] in
theorem activate_bare : s.bare.activate now t = barePair (s.activate now t) := by
  unfold activate
  exact congrArg (·, _) (transition_bare { s with
    failures := 0, activations := s.activations + 1 } .active)

theorem rejected_bare (reason : String) :
    s.bare.rejected reason t = barePair (s.rejected reason t) := by
  unfold rejected
  rw [dropConnection_bare]
  exact congrArg (·, _) (transition_bare (s.dropConnection.signal _) .failed)

theorem received_bare (connection : ConnectionId) (text : String) :
    s.bare.received connection text now t = barePair (s.received connection text now t) := by
  let met : Session (Recorded τ) :=
    { s with connection := s.connection.map ({ · with lastActivity := now }) }
  unfold received
  dsimp only [bare]
  split
  · rfl
  · split
    · exact activate_bare met now _
    · rfl
  · exact rejected_bare met _ _
  · rfl
  · split <;> rfl

theorem handleEvent_bare (connection : ConnectionId) (event : Transport.Event) :
    s.bare.handleEvent connection event now t =
      barePair (s.handleEvent connection event now t) := by
  unfold handleEvent
  split <;> rename_i h
  · rw [if_pos (show s.connection.map (·.id) = some connection from h)]
    cases event with
    | opened => exact opened_bare s now t
    | frame text => exact received_bare s now t connection text
    | failed reason => exact connectionFailed_bare s now t reason
    | closed => exact connectionFailed_bare s now t _
  · rw [if_neg (show ¬ s.connection.map (·.id) = some connection from h)]
    rfl

theorem heartbeat_bare : s.bare.heartbeat now t = barePair (s.heartbeat now t) := by
  unfold heartbeat
  rw [sendFrame_bare]
  generalize s.sendFrame .ping = answer
  obtain ⟨_ | ⟨⟩, sent⟩ := answer
  · exact connectionFailed_bare sent now t _
  · rfl

theorem handleTimer_bare (key : Timer.Key) :
    s.bare.handleTimer key now t = (s.handleTimer key now t).map barePair := by
  cases key with
  | handshake =>
      dsimp only [handleTimer, bare, Option.map_some]
      split
      · exact congrArg some (connectionFailed_bare s now t _)
      · rfl
  | reconnect =>
      dsimp only [handleTimer, bare, Option.map_some]
      split
      · exact congrArg some (openConnection_bare s now t)
      · rfl
  | heartbeat =>
      dsimp only [handleTimer, bare, Option.map_some]
      split
      · exact congrArg some (heartbeat_bare s now t)
      · rfl
  | liveness =>
      dsimp only [handleTimer, bare, Option.map_some]
      split
      · exact congrArg some (connectionFailed_bare s now t _)
      · rfl
  | action id => rfl
  | typingSweep => rfl
  | localTyping chat => rfl

theorem connect_bare (credentials : Credentials) :
    s.bare.connect credentials now t = (s.connect credentials now t).map barePair := by
  unfold connect
  split <;> rename_i h
  · rw [if_pos (show s.state.isLive = true from h)]
    rfl
  · rw [if_neg (show ¬ s.state.isLive = true from h)]
    exact congrArg Except.ok (openConnection_bare { s with
      login := some ⟨credentials, []⟩, failures := 0, activations := 0 } now t)

theorem logout_bare : s.bare.logout t = barePair (s.logout t) := by
  unfold logout
  rw [dropConnection_bare]
  exact congrArg (·, _) (transition_bare { s.dropConnection with
    login := none, failures := 0 } .disconnected)

theorem step_bare (i : Input τ) : s.bare.step i = (s.step i.recorded).bare := by
  cases i with
  | connect credentials now timers =>
      dsimp only [step, Input.recorded]
      rw [connect_bare]
      cases s.connect credentials now timers <;> rfl
  | logout timers => exact congrArg Prod.fst (logout_bare s timers)
  | event connection what now timers =>
      exact congrArg Prod.fst (handleEvent_bare s now timers connection what)
  | timer key now timers =>
      dsimp only [step, Input.recorded]
      rw [handleTimer_bare]
      cases s.handleTimer key now timers <;> rfl
  | send frame => exact congrArg Prod.snd (sendFrame_bare s frame)
  | takeSignals => rfl
  | transport f => rfl

end Bare

/-- **Writing down the calls does not change what a session does.** -/
theorem run_bare (s : Session (Recorded τ)) (inputs : List (Input τ)) :
    (run s (inputs.map Input.recorded)).bare = run s.bare inputs := by
  induction inputs generalizing s with
  | nil => rfl
  | cons i rest ih =>
      have hrest := ih (s.step i.recorded)
      rw [← step_bare] at hrest
      exact hrest

end Session

end RealtimeChat
