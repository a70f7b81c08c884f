import RealtimeChat.Session
/-!
# What the parts of a session's operations do

Losing a connection, waiting for the next attempt and opening a connection are parts of several
operations. Here each of them is described once, with all that it changes.

* `State.Connected` -- the states in which a session has a connection;
* `Retry` -- what comes after a failure: another attempt later, or none;
* **`scheduleReconnect_retry`**, **`connectionFailed_retry`** -- failures end in a `Retry`;
* `Dialled`, **`openConnection_dialled`** -- what comes of opening a connection.
-/

namespace RealtimeChat.Session

/-- The states in which a session has a connection. -/
def State.Connected (x : State) : Prop := x = .connecting ∨ x = .authenticating ∨ x = .active

variable {τ : Type}

theorem transition_eq (s : Session τ) (next : State) :
    ∃ signals, s.transition next = { s with state := next, signals } := by
  unfold transition
  split
  · rename_i h
    exact ⟨s.signals, by rw [← h]⟩
  · exact ⟨_, rfl⟩

/-! ## 1. Failures -/

/-- What comes after a failure: another attempt later, or none. -/
inductive Retry (s : Session τ) (timers : Timers) : Session τ → Timers → Prop where
  | later (entropy : Entropy) (signals : List Signal) (deadline : Instant) :
      Retry s timers
        { s with state := .reconnecting, failures := s.failures + 1, entropy, signals }
        (timers.schedule .reconnect deadline)
  | never (signals : List Signal) : Retry s timers { s with state := .failed, signals } timers

theorem scheduleReconnect_retry (s : Session τ) (now : Instant) (timers : Timers) :
    Retry s timers (s.scheduleReconnect now timers).1 (s.scheduleReconnect now timers).2 := by
  unfold scheduleReconnect
  split
  · obtain ⟨signals, h⟩ := (s.signal (.reconnectExhausted s.failures)).transition_eq .failed
    rw [h]
    exact .never signals
  · dsimp only
    generalize (if s.plan.reconnect.clampedJitter.isZero then (0, s.entropy) else s.entropy.next) =
      drawn
    obtain ⟨signals, h⟩ :=
      ({ s with failures := s.failures + 1, entropy := drawn.2 } : Session τ).transition_eq
        .reconnecting
    rw [h]
    exact .later drawn.2 _ _

variable [Transport τ]

/-- The session without its connection, which is given up. -/
theorem dropConnection_eq (s : Session τ) : s.dropConnection =
    { s with
      connection := none
      transport := match s.connection with
        | none => s.transport
        | some c => Transport.close s.transport c.id } := by
  obtain ⟨plan, transport, state, login, connection, nextConnection⟩ := s
  cases connection <;> rfl

theorem connectionFailed_retry (s : Session τ) (reason : String) (now : Instant)
    (timers : Timers) :
    ∃ signals, Retry { s.dropConnection with signals } (cancelConnectionTimers timers)
      (s.connectionFailed reason now timers).1 (s.connectionFailed reason now timers).2 :=
  ⟨_, scheduleReconnect_retry _ now _⟩

/-! ## 2. Opening -/

/-- What comes of opening a connection: it is opened and has some time for that, or another attempt
follows. -/
inductive Dialled (s : Session τ) (login : Login) (now : Instant) (timers : Timers) :
    Session τ → Timers → Prop where
  | opening (transport : τ) (signals : List Signal)
      (h : Transport.openConnection s.transport s.nextConnection s.plan.endpoint
        login.credentials = (.ok (), transport)) :
      Dialled s login now timers
        { s with
          transport, signals
          state := .connecting
          nextConnection := s.nextConnection + 1
          login := some { login with connections := login.connections ++ [s.nextConnection] }
          connection := some ⟨s.nextConnection, .opening, now, now⟩ }
        (timers.schedule .handshake (now + s.plan.handshakeTimeout))
  | refused (transport : τ) (fault : ConnectFault) (signals : List Signal) (s' : Session τ)
      (timers' : Timers)
      (h : Transport.openConnection s.transport s.nextConnection s.plan.endpoint
        login.credentials = (.error fault, transport))
      (hretry : Retry
        { s with
          transport, signals
          state := .connecting
          nextConnection := s.nextConnection + 1
          login := some { login with connections := login.connections ++ [s.nextConnection] } }
        timers s' timers') :
      Dialled s login now timers s' timers'

theorem openConnection_dialled {s : Session τ} {login : Login} (h : s.login = some login)
    (now : Instant) (timers : Timers) :
    Dialled s login now timers (s.openConnection now timers).1 (s.openConnection now timers).2 := by
  unfold openConnection
  rw [h]
  dsimp only
  obtain ⟨signals, ht⟩ := ({ s with
    nextConnection := s.nextConnection + 1
    login := some { login with connections := login.connections ++ [s.nextConnection] } } :
      Session τ).transition_eq .connecting
  rw [ht]
  dsimp only
  split
  · rename_i transport hopen
    exact .opening transport signals hopen
  · rename_i fault transport hopen
    exact .refused transport fault signals _ _ hopen (scheduleReconnect_retry _ now timers)

end RealtimeChat.Session
