import RealtimeChat.Proofs.Session.Course
import RealtimeChat.Proofs.Session.Gate
/-!
# When a session becomes active

A session becomes active when the server accepts its user, and in no other way. It counts how often
that was so since somebody was logged in. All else that happens to it neither tells that it became
active nor touches the count.

* `Calm` -- from one session to another it is not told that the session became active;
* `Awakes` -- exactly this is told;
* **`handleEvent_wakes`** -- what happens to a connection does one or the other;
* `handleTimer_calm`, `connect_calm`, `logout_calm` -- all else is calm.
-/

namespace RealtimeChat.Session

variable {τ : Type}

/-- The signal tells that the session became active. -/
def Signal.activates : Signal → Bool
  | .stateChanged _ .active => true
  | _ => false

/-- It is not told that the session became active, and the same user is logged in. -/
structure Calm (s s' : Session τ) : Prop where
  told : ∃ told, s'.signals = s.signals ++ told ∧ ∀ x ∈ told, x.activates = false
  activations : s'.activations = s.activations
  user : s'.user? = s.user?

/-- It is told that the session became active, it is counted, and the same user is logged in. -/
structure Awakes (s s' : Session τ) : Prop where
  accepted : s.state = .authenticating
  active : s'.state = .active
  told : s'.signals = s.signals ++ [.stateChanged .authenticating .active]
  activations : s'.activations = s.activations + 1
  user : s'.user? = s.user?

/-- Whoever gets to be active has heard of it. -/
theorem Course.activates {x z : State} {news : List News} (h : Course x news z) (hx : x ≠ .active)
    (hz : z = .active) : ∃ a, .step a .active ∈ news := by
  induction h with
  | still => exact absurd hz hx
  | @step x y _ _ _ _ _ ih =>
      by_cases hy : y = .active
      · exact ⟨x, hy ▸ List.mem_cons_self⟩
      · obtain ⟨a, ha⟩ := ih hy hz
        exact ⟨a, List.mem_cons_of_mem _ ha⟩
  | fail _ _ ih =>
      obtain ⟨a, ha⟩ := ih nofun hz
      exact ⟨a, List.mem_cons_of_mem _ (List.mem_cons_of_mem _ ha)⟩

/-! ## 1. The parts of operations -/

section Parts

variable {s s' s'' : Session τ}

theorem Calm.still (hsignals : s'.signals = s.signals) (hcount : s'.activations = s.activations)
    (huser : s'.user? = s.user?) : Calm s s' :=
  ⟨⟨[], hsignals.trans (List.append_nil _).symm, fun _ hx => absurd hx List.not_mem_nil⟩, hcount,
    huser⟩

theorem Calm.trans (h : Calm s s') (h' : Calm s' s'') : Calm s s'' := by
  obtain ⟨told, hsignals, hcalm⟩ := h.told
  obtain ⟨told', hsignals', hcalm'⟩ := h'.told
  refine ⟨⟨told ++ told', by rw [hsignals', hsignals, List.append_assoc], fun x hx => ?_⟩,
    h'.activations.trans h.activations, h'.user.trans h.user⟩
  exact (List.mem_append.mp hx).elim (hcalm x) (hcalm' x)

/-- A session that had nothing to tell does not tell that it became active. -/
theorem Calm.quiet (h : Calm s s') (htold : s.signals = []) :
    ∀ x ∈ s'.signals, x.activates = false := by
  obtain ⟨told, hsignals, hcalm⟩ := h.told
  rwa [hsignals, htold, List.nil_append]

theorem signal_calm {x : Signal} (hx : x.activates = false) : Calm s (s.signal x) :=
  ⟨⟨[x], rfl, fun _ hmem => List.mem_singleton.mp hmem ▸ hx⟩, rfl, rfl⟩

theorem transition_calm {next : State} (h : next ≠ .active) : Calm s (s.transition next) := by
  unfold transition
  split
  · exact .still rfl rfl rfl
  · have hmoved : Calm s { s with state := next } := .still rfl rfl rfl
    refine hmoved.trans (signal_calm ?_)
    cases next with
    | active => exact absurd rfl h
    | _ => rfl

theorem scheduleReconnect_calm (s : Session τ) (now : Instant) (timers : Timers) :
    Calm s (s.scheduleReconnect now timers).1 := by
  unfold scheduleReconnect
  split
  · exact (signal_calm rfl).trans (transition_calm (by decide))
  · dsimp only
    generalize (if s.plan.reconnect.clampedJitter.isZero then (0, s.entropy) else s.entropy.next) =
      drawn
    have hcounted : Calm s { s with failures := s.failures + 1, entropy := drawn.2 } :=
      .still rfl rfl rfl
    exact (hcounted.trans (transition_calm (by decide))).trans (signal_calm rfl)

variable [Transport τ]

theorem dropConnection_calm (s : Session τ) : Calm s s.dropConnection := by
  rw [dropConnection_eq]
  exact .still rfl rfl rfl

theorem connectionFailed_calm (s : Session τ) (reason : String) (now : Instant) (timers : Timers) :
    Calm s (s.connectionFailed reason now timers).1 := by
  unfold connectionFailed
  dsimp only
  refine (dropConnection_calm s).trans (Calm.trans ?_ (scheduleReconnect_calm _ now _))
  refine ⟨⟨_, rfl, fun x hx => ?_⟩, rfl, rfl⟩
  repeat' split at hx
  all_goals simp_all [Signal.activates]

theorem openConnection_calm (s : Session τ) (now : Instant) (timers : Timers) :
    Calm s (s.openConnection now timers).1 := by
  unfold openConnection
  split
  · exact .still rfl rfl rfl
  · rename_i login hlogin
    dsimp only
    have hnumbered : Calm s { s with
        nextConnection := s.nextConnection + 1
        login := some { login with connections := login.connections ++ [s.nextConnection] } } :=
      .still rfl rfl (by rw [user?, user?, hlogin]; rfl)
    have hdials := hnumbered.trans (transition_calm (by decide : State.connecting ≠ .active))
    split
    · exact hdials.trans (.still rfl rfl rfl)
    · refine Calm.trans ?_ (scheduleReconnect_calm _ now timers)
      exact hdials.trans (.still rfl rfl rfl)

end Parts

/-! ## 2. The operations -/

section Operations

variable [Transport τ] (s : Session τ)

theorem sendFrame_calm (frame : Outgoing) : Calm s (s.sendFrame frame).2 := by
  obtain ⟨transport, heq⟩ := s.sendFrame_eq frame
  rw [heq]
  exact .still rfl rfl rfl

theorem opened_calm (now : Instant) (timers : Timers) : Calm s (s.opened now timers).1 := by
  unfold opened
  split
  · rename_i c login _ _ _
    have hopen : ∀ transport : τ, Calm s { s with
        connection := some { c with phase := .open, lastActivity := now }, transport } :=
      fun _ => .still rfl rfl rfl
    dsimp only
    split
    · exact (hopen _).trans (transition_calm (by decide))
    · exact (hopen _).trans (connectionFailed_calm _ _ now timers)
  · exact .still rfl rfl rfl

omit [Transport τ] in
theorem activate_awakes {s : Session τ} (h : s.state = .authenticating) (now : Instant)
    (timers : Timers) : Awakes s (s.activate now timers).1 := by
  have hleads : s.state.Leads .active := h
  unfold activate
  rw [transition_of_leads (s := { s with failures := 0, activations := s.activations + 1 }) hleads]
  exact ⟨h, rfl, by rw [h], rfl, rfl⟩

theorem rejected_calm (reason : String) (timers : Timers) :
    Calm s (s.rejected reason timers).1 :=
  ((dropConnection_calm s).trans (signal_calm rfl)).trans (transition_calm (by decide))

theorem received_wakes (id : ConnectionId) (text : String) (now : Instant) (timers : Timers) :
    Calm s (s.received id text now timers).1 ∨ Awakes s (s.received id text now timers).1 := by
  have hheard : Calm s { s with
      connection := s.connection.map ({ · with lastActivity := now }) } := .still rfl rfl rfl
  unfold received
  dsimp only
  split
  · exact .inl (hheard.trans (signal_calm rfl))
  · split
    · rename_i hstate
      obtain ⟨hstate, hactive, htold, hcount, huser⟩ := activate_awakes (s := { s with
        connection := s.connection.map ({ · with lastActivity := now }) }) hstate now _
      exact .inr ⟨hstate, hactive, htold, hcount, huser⟩
    · exact .inl hheard
  · exact .inl (hheard.trans (rejected_calm _ _ _))
  · exact .inl hheard
  · dsimp only
    split
    · exact .inl (hheard.trans (signal_calm rfl))
    · exact .inl hheard

/-- **What happens to a connection** does not make the session active, or it is the current one and
makes the session active once. -/
theorem handleEvent_wakes (id : ConnectionId) (event : Transport.Event) (now : Instant)
    (timers : Timers) : Calm s (s.handleEvent id event now timers).1 ∨
      s.connection.map (·.id) = some id ∧ Awakes s (s.handleEvent id event now timers).1 := by
  unfold handleEvent
  split
  · rename_i hid
    cases event with
    | opened => exact .inl (opened_calm s now timers)
    | frame text => exact (received_wakes s id text now timers).imp_right fun h => ⟨hid, h⟩
    | failed reason => exact .inl (connectionFailed_calm s reason now timers)
    | closed => exact .inl (connectionFailed_calm s _ now timers)
  · exact .inl (.still rfl rfl rfl)

theorem heartbeat_calm (now : Instant) (timers : Timers) : Calm s (s.heartbeat now timers).1 := by
  have hsent := sendFrame_calm s .ping
  unfold heartbeat
  split
  · rename_i hsend
    rw [hsend] at hsent
    exact hsent
  · rename_i hsend
    rw [hsend] at hsent
    exact hsent.trans (connectionFailed_calm _ _ now timers)

variable {s}

theorem handleTimer_calm {key : Timer.Key} {now : Instant} {timers : Timers}
    {answer : Session τ × Timers} (hanswer : s.handleTimer key now timers = some answer) :
    Calm s answer.1 := by
  cases key with
  | handshake =>
      cases hanswer
      split
      · exact connectionFailed_calm s _ now timers
      · exact .still rfl rfl rfl
  | reconnect =>
      cases hanswer
      split
      · exact openConnection_calm s now timers
      · exact .still rfl rfl rfl
  | heartbeat =>
      cases hanswer
      split
      · exact heartbeat_calm s now timers
      · exact .still rfl rfl rfl
  | liveness =>
      cases hanswer
      split
      · exact connectionFailed_calm s _ now timers
      · exact .still rfl rfl rfl
  | action _ | typingSweep | localTyping _ => cases hanswer

/-- Whoever logs in makes a clean start. -/
theorem connect_calm {credentials : Credentials} {now : Instant} {timers : Timers}
    {answer : Session τ × Timers} (hanswer : s.connect credentials now timers = .ok answer) :
    Calm { s with login := some ⟨credentials, []⟩, failures := 0, activations := 0 } answer.1 := by
  unfold connect at hanswer
  split at hanswer
  · cases hanswer
  · cases hanswer
    exact openConnection_calm _ now timers

theorem logout_calm (s : Session τ) (timers : Timers) :
    Calm { s with login := none } (s.logout timers).1 := by
  unfold logout
  rw [dropConnection_eq]
  refine Calm.trans ?_ (transition_calm (by decide))
  exact .still rfl rfl rfl

end Operations

end RealtimeChat.Session
