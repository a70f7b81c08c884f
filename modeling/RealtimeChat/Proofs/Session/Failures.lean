import RealtimeChat.Proofs.Session.Course
import RealtimeChat.Proofs.Session.OneConnection
/-!
# Failures of a session and what comes of them

A connection may be refused, break, be closed or stay silent, and a login or a sign of life may not
be sent. What concerns a connection of the past, or a deadline that is not waited for, is no
failure. A session without jitter answers each failure in the same way: it waits for the delay of
its policy, or it gives up.

* `failure?` -- the failure that an input brings, if it brings one;
* `Setback` -- what a session without jitter does about a failure;
* `dials`, `spent` -- the connections opened, with the one that a waiting session is going to open;
* `Passes` -- what comes of an input: nothing is announced, or there is a setback;
* **`opened_passes`**, **`handleTimer_passes`** and the others -- this comes of each operation.
-/

namespace RealtimeChat.Session

open Transport (Recorded opens)

variable {τ : Type}

/-! ## 1. Failures -/

section Failures

variable [Transport τ]

/-- Whether the transport does not open the next connection for somebody. -/
def refuses (s : Session τ) (credentials : Credentials) : Bool :=
  !(Transport.openConnection s.transport s.nextConnection s.plan.endpoint credentials).1.isOk

/-- Whether the transport does not send a frame on the current connection. -/
def loses (s : Session τ) (frame : Outgoing) : Bool :=
  s.connection.any fun c => !(Transport.send s.transport c.id frame).1.isOk

/-- Whether it is a failure that the connection has opened: the login cannot be sent on it. -/
def failsOpened (s : Session τ) : Bool :=
  s.state = .connecting &&
    s.login.any fun login => s.loses (.login login.credentials.token login.credentials.user)

/-- Whether it is a failure that a deadline has passed. -/
def failsAt (s : Session τ) : Timer.Key → Bool
  | .handshake => s.state = .connecting ∨ s.state = .authenticating
  | .reconnect => s.state = .reconnecting && s.login.any (s.refuses ·.credentials)
  | .heartbeat => s.state = .active && s.loses .ping
  | .liveness => s.state = .active
  | _ => false

/-- The instant of the transient failure that an input brings: a connection is not opened, breaks or
is closed, a deadline of it passes, or the login or a sign of life cannot be sent. -/
def failure? (s : Session τ) : Input τ → Option Instant
  | .connect credentials now _ =>
    if !s.state.isLive && s.refuses credentials then some now else none
  | .event connection what now _ =>
    if s.connection.map (·.id) = some connection then
      match what with
      | .opened => if s.failsOpened then some now else none
      | .frame _ => none
      | .failed _ | .closed => some now
    else none
  | .timer key now _ => if s.failsAt key then some now else none
  | .logout _ | .send _ | .takeSignals | .transport _ => none

/-- The timers after an input, for the inputs that come with timers. -/
def timersAfter (s : Session τ) : Input τ → Option Timers
  | .connect credentials now timers => (s.connect credentials now timers).toOption.map (·.2)
  | .logout timers => some (s.logout timers).2
  | .event connection what now timers => some (s.handleEvent connection what now timers).2
  | .timer key now timers => (s.handleTimer key now timers).map (·.2)
  | .send _ | .takeSignals | .transport _ => none

end Failures

/-! ## 2. What a session does about a failure -/

/-- The signal announces another attempt, or that there is none any more. -/
def Signal.announces : Signal → Bool
  | .reconnectScheduled .. | .reconnectExhausted _ => true
  | _ => false

/-- On the way from one session to another exactly this is announced. -/
def Announces (s s' : Session τ) (news : List Signal) : Prop :=
  ∃ told, s'.signals = s.signals ++ told ∧ told.filter Signal.announces = news

theorem Announces.trans {s s' s'' : Session τ} {news news' : List Signal} (h : Announces s s' news)
    (h' : Announces s' s'' news') : Announces s s'' (news ++ news') := by
  obtain ⟨told, hsignals, rfl⟩ := h
  obtain ⟨told', hsignals', rfl⟩ := h'
  exact ⟨told ++ told', by rw [hsignals', hsignals, List.append_assoc], List.filter_append ..⟩

/-- Nothing is announced, and the session goes by the same plan and count of failures. -/
structure Steady (s s' : Session τ) : Prop where
  plan : s'.plan = s.plan
  failures : s'.failures = s.failures
  hushed : Announces s s' []

section Parts

variable {s s' s'' : Session τ}

theorem Steady.of_signals {told : List Signal} (hplan : s'.plan = s.plan)
    (hfailures : s'.failures = s.failures) (hsignals : s'.signals = s.signals ++ told)
    (hhushed : told.filter Signal.announces = []) : Steady s s' :=
  ⟨hplan, hfailures, told, hsignals, hhushed⟩

theorem Steady.same (hplan : s'.plan = s.plan) (hfailures : s'.failures = s.failures)
    (hsignals : s'.signals = s.signals) : Steady s s' :=
  .of_signals hplan hfailures (hsignals.trans (List.append_nil _).symm) rfl

theorem Steady.trans (h : Steady s s') (h' : Steady s' s'') : Steady s s'' :=
  ⟨h'.plan.trans h.plan, h'.failures.trans h.failures, h.hushed.trans h'.hushed⟩

theorem Steady.quiet (h : Steady s s') (x : Signal) (hx : x ∈ s'.signals)
    (hannounces : x.announces = true) : x ∈ s.signals := by
  obtain ⟨told, hsignals, hhushed⟩ := h.hushed
  rw [hsignals] at hx
  refine (List.mem_append.mp hx).resolve_right fun htold => ?_
  exact absurd hannounces (List.filter_eq_nil_iff.mp hhushed x htold)

theorem transition_steady (s : Session τ) (next : State) : Steady s (s.transition next) := by
  unfold transition
  split
  · exact .same rfl rfl rfl
  · exact .of_signals rfl rfl rfl rfl

/-- What a session without jitter does about a failure, if there were `n` before: it waits for the
delay of its policy and says so, or it says that it gives up. -/
inductive Setback (n : Nat) (s : Session τ) (now : Instant) (s' : Session τ) (timers : Timers) :
    Prop where
  | later (h : n < s.plan.reconnect.maxAttempts) (state : s'.state = .reconnecting)
      (failures : s'.failures = n + 1)
      (news : Announces s s' [.reconnectScheduled (n + 1) (s.plan.reconnect.delay n)])
      (deadline : timers.deadline? .reconnect = some (now + s.plan.reconnect.delay n))
  | never (h : s.plan.reconnect.maxAttempts ≤ n) (state : s'.state = .failed)
      (failures : s'.failures = n) (news : Announces s s' [.reconnectExhausted n])

theorem Setback.after {n : Nat} {now : Instant} {timers : Timers} (h : Setback n s' now s'' timers)
    (hplan : s'.plan = s.plan) (hhushed : Announces s s' []) : Setback n s now s'' timers := by
  cases h with
  | later h state failures news deadline =>
      rw [hplan] at h news deadline
      exact .later h state failures (hhushed.trans news) deadline
  | never h state failures news =>
      rw [hplan] at h
      exact .never h state failures (hhushed.trans news)

/-- **A failure is a setback**: another attempt with the delay of the policy, or none. -/
theorem scheduleReconnect_setback (hjitter : s.plan.reconnect.clampedJitter.isZero = true)
    (now : Instant) (timers : Timers) :
    (s.scheduleReconnect now timers).1.plan = s.plan ∧
      Setback s.failures s now (s.scheduleReconnect now timers).1
        (s.scheduleReconnect now timers).2 := by
  have hdelay : ∀ word, s.plan.reconnect.jittered s.failures word =
      s.plan.reconnect.delay s.failures := fun _ => if_pos hjitter
  unfold scheduleReconnect
  rw [if_pos hjitter]
  split
  · rename_i hmax
    have hgave : Announces s (s.signal (.reconnectExhausted s.failures))
        [.reconnectExhausted s.failures] := ⟨_, rfl, rfl⟩
    have hfailed := transition_steady (s.signal (.reconnectExhausted s.failures)) .failed
    exact ⟨hfailed.plan, .never (of_decide_eq_true hmax) (transition_state _ _) hfailed.failures
      (hgave.trans hfailed.hushed)⟩
  · rename_i hmax
    dsimp only
    rw [hdelay]
    generalize hcounted : ({ s with failures := s.failures + 1 } : Session τ) = counted
    have hwaits := transition_steady counted .reconnecting
    have hstate := transition_state counted .reconnecting
    subst hcounted
    refine ⟨hwaits.plan, .later (Nat.lt_of_not_le fun h => hmax (decide_eq_true h)) hstate
      hwaits.failures ?_ (by rw [Timers.deadline?_schedule, if_pos rfl])⟩
    exact hwaits.hushed.trans ⟨_, rfl, rfl⟩

variable [Transport τ]

theorem dropConnection_steady (s : Session τ) : Steady s s.dropConnection := by
  rw [dropConnection_eq]
  exact .same rfl rfl rfl

theorem connectionFailed_setback (hjitter : s.plan.reconnect.clampedJitter.isZero = true)
    (reason : String) (now : Instant) (timers : Timers) :
    (s.connectionFailed reason now timers).1.plan = s.plan ∧
      Setback s.failures s now (s.connectionFailed reason now timers).1
        (s.connectionFailed reason now timers).2 := by
  obtain ⟨lost, hfailed, hlost⟩ : ∃ lost, s.connectionFailed reason now timers =
        { s.dropConnection with signals := s.dropConnection.signals ++ lost }.scheduleReconnect
          now (cancelConnectionTimers timers) ∧
      lost.filter Signal.announces = [] := by
    refine ⟨_, rfl, ?_⟩
    repeat' split
    all_goals rfl
  have hdropped : Steady s { s.dropConnection with
      signals := s.dropConnection.signals ++ lost } :=
    (dropConnection_steady s).trans (.of_signals rfl rfl rfl hlost)
  rw [hfailed]
  generalize ({ s.dropConnection with signals := s.dropConnection.signals ++ lost } :
    Session τ) = dropped at hdropped ⊢
  rw [← hdropped.plan] at hjitter
  obtain ⟨hplan, hset⟩ := scheduleReconnect_setback hjitter now (cancelConnectionTimers timers)
  rw [hdropped.failures] at hset
  exact ⟨hplan.trans hdropped.plan, hset.after hdropped.plan hdropped.hushed⟩

end Parts

/-! ## 3. What connections cost -/

/-- How many connections were opened, or were to be. -/
def dials (s : Session (Recorded τ)) : Nat := (opens s.transport.calls).length

/-- The connections opened so far, with the one that a waiting session is going to open. -/
def spent (s : Session (Recorded τ)) : Nat := s.dials + if s.state = .reconnecting then 1 else 0

section Costs

variable {s s' : Session (Recorded τ)}

theorem transition_dials (s : Session (Recorded τ)) (next : State) :
    (s.transition next).dials = s.dials := by
  obtain ⟨signals, heq⟩ := s.transition_eq next
  rw [heq]
  rfl

theorem spent_of_ne (h : s.state ≠ .reconnecting) : s.spent = s.dials := by
  rw [spent, if_neg h, Nat.add_zero]

theorem spent_of_eq (hstate : s'.state = s.state) (hdials : s'.dials = s.dials) :
    s'.spent = s.spent := by
  rw [spent, spent, hstate, hdials]

/-- Waiting for another attempt costs a connection and counts a failure; giving up costs nothing. -/
theorem Retry.spent {timers timers' : Timers} (h : Retry s timers s' timers') :
    s'.spent + s.failures ≤ s.dials + s'.failures := by
  cases h with
  | later entropy signals deadline => exact Nat.le_of_eq (Nat.add_right_comm ..)
  | never signals => exact Nat.le_refl _

variable [Transport τ]

theorem dropConnection_dials (s : Session (Recorded τ)) : s.dropConnection.dials = s.dials := by
  rw [dropConnection_eq]
  cases s.connection <;> rfl

theorem connectionFailed_spent (s : Session (Recorded τ)) (reason : String) (now : Instant)
    (timers : Timers) : (s.connectionFailed reason now timers).1.spent + s.failures ≤
      s.dials + (s.connectionFailed reason now timers).1.failures := by
  obtain ⟨signals, hretry⟩ := s.connectionFailed_retry reason now timers
  have hspent := hretry.spent
  rw [← dropConnection_dials s]
  rw [dropConnection_eq] at hspent ⊢
  exact hspent

theorem sendFrame_dials (s : Session (Recorded τ)) (frame : Outgoing) :
    (s.sendFrame frame).2.dials = s.dials := by
  unfold sendFrame
  cases s.connection with
  | none => rfl
  | some c =>
      dsimp only
      split <;> rfl

/-- What comes of an input when there were `n` failures before: nothing is announced and the count
stays, or there is a setback. A connection more than was allowed for is the one of another
attempt, which is counted as a failure. -/
inductive Passes (n allowed : Nat) (s : Session (Recorded τ)) :
    Option Instant → Session (Recorded τ) → Option Timers → Prop where
  | calm {s' : Session (Recorded τ)} {timers : Option Timers} (plan : s'.plan = s.plan)
      (failures : s'.failures = n)
      (quiet : ∀ x ∈ s'.signals, x.announces = true → x ∈ s.signals)
      (spent : s'.spent ≤ allowed) : Passes n allowed s none s' timers
  | setback {now : Instant} {s' : Session (Recorded τ)} {timers : Timers}
      (plan : s'.plan = s.plan) (set : Setback n s now s' timers)
      (spent : s'.spent + n ≤ allowed + s'.failures) :
      Passes n allowed s (some now) s' (some timers)

omit [Transport τ] in
theorem Steady.passes {allowed : Nat} {timers : Option Timers} (h : Steady s s')
    (hspent : s'.spent ≤ allowed) : Passes s.failures allowed s none s' timers :=
  .calm h.plan h.failures h.quiet hspent

omit [Transport τ] in
theorem Passes.after {n allowed : Nat} {now : Option Instant} {s'' : Session (Recorded τ)}
    {timers : Option Timers} (h : Passes n allowed s' now s'' timers) (hplan : s'.plan = s.plan)
    (hhushed : Announces s s' []) : Passes n allowed s now s'' timers := by
  cases h with
  | calm plan failures quiet spent =>
      refine .calm (plan.trans hplan) failures (fun x hx hannounces => ?_) spent
      have hsteady : Steady s { s with signals := s'.signals } := ⟨rfl, rfl, hhushed⟩
      exact hsteady.quiet x (quiet x hx hannounces) hannounces
  | setback plan set spent =>
      exact .setback (plan.trans hplan) (set.after hplan hhushed) spent

theorem connectionFailed_passes (hjitter : s.plan.reconnect.clampedJitter.isZero = true)
    (reason : String) (now : Instant) (timers : Timers) :
    Passes s.failures s.spent s (some now) (s.connectionFailed reason now timers).1
      (some (s.connectionFailed reason now timers).2) := by
  obtain ⟨hplan, hset⟩ := connectionFailed_setback hjitter reason now timers
  have hspent := s.connectionFailed_spent reason now timers
  have hdials : s.dials ≤ s.spent := Nat.le_add_right ..
  exact .setback hplan hset (by omega)

/-- **Opening a connection** costs one, whether it is refused or not. -/
theorem openConnection_passes (hjitter : s.plan.reconnect.clampedJitter.isZero = true)
    {login : Login} (hl : s.login = some login) (now : Instant) (timers : Timers) :
    Passes s.failures (s.dials + 1) s (if s.refuses login.credentials then some now else none)
      (s.openConnection now timers).1 (some (s.openConnection now timers).2) := by
  unfold openConnection refuses
  rw [hl]
  dsimp only
  generalize hnumbered : ({ s with
    nextConnection := s.nextConnection + 1
    login := some { login with connections := login.connections ++ [s.nextConnection] } } :
      Session (Recorded τ)) = numbered
  obtain ⟨signals, heq⟩ := numbered.transition_eq .connecting
  have hdialled := (transition_steady numbered .connecting).hushed
  rw [heq] at hdialled ⊢
  subst hnumbered
  obtain ⟨told, hsignals, hhushed⟩ := hdialled
  dsimp only at hsignals ⊢
  generalize hopen : Transport.openConnection s.transport s.nextConnection s.plan.endpoint
    login.credentials = opened
  obtain ⟨answer, transport⟩ := opened
  have hcalls := Transport.calls_openConnection hopen
  cases answer with
  | ok _ =>
      refine Steady.passes (.of_signals rfl rfl hsignals hhushed) ?_
      rw [spent_of_ne (by simp), dials, hcalls]
      exact Nat.le_refl _
  | error fault =>
      dsimp only
      generalize hrefused : ({ s with
        state := .connecting
        nextConnection := s.nextConnection + 1
        login := some { login with connections := login.connections ++ [s.nextConnection] }
        transport, signals } : Session (Recorded τ)) = refused
      have hsteady : Steady s refused := hrefused ▸ .of_signals rfl rfl hsignals hhushed
      have hdials : refused.dials = s.dials + 1 := by
        rw [← hrefused, dials, hcalls]
        rfl
      rw [← hsteady.plan] at hjitter
      obtain ⟨hplan, hset⟩ := scheduleReconnect_setback hjitter now timers
      have hspent := (refused.scheduleReconnect_retry now timers).spent
      rw [hsteady.failures] at hset hspent
      rw [hdials] at hspent
      exact .setback (hplan.trans hsteady.plan) (hset.after hsteady.plan hsteady.hushed) hspent

end Costs

/-! ## 4. Operations -/

section Inputs

variable [Transport τ] {s : Session (Recorded τ)}

theorem opened_passes (hjitter : s.plan.reconnect.clampedJitter.isZero = true) (now : Instant)
    (timers : Timers) :
    Passes s.failures s.spent s (if s.failsOpened then some now else none)
      (s.opened now timers).1 (some (s.opened now timers).2) := by
  generalize hfails : s.failsOpened = fails
  unfold opened
  generalize hfailure : (if fails = true then some now else none) = failure
  split
  · rename_i c login hstate hc hl
    simp only [failsOpened, hstate, loses, hc, hl, Option.any_some, decide_true,
      Bool.true_and] at hfails
    subst hfails hfailure
    dsimp only
    generalize hsend : Transport.send s.transport c.id _ = sent
    obtain ⟨answer, transport⟩ := sent
    have hcalls := Transport.calls_send hsend
    obtain ⟨met, hmet⟩ : ∃ met : Session (Recorded τ), met = { s with
      connection := some { c with phase := .open, lastActivity := now }, transport } := ⟨_, rfl⟩
    have hsteady : Steady s met := hmet ▸ .same rfl rfl rfl
    have hdials : met.dials = s.dials := by
      rw [hmet, dials, hcalls]
      rfl
    cases answer with
    | ok _ =>
        dsimp only
        rw [← hmet]
        obtain ⟨signals, heq⟩ := met.transition_eq .authenticating
        have htransition := transition_steady met .authenticating
        refine Steady.passes (hsteady.trans htransition) ?_
        rw [heq, spent_of_ne (by simp)]
        exact Nat.le_trans (Nat.le_of_eq hdials) (Nat.le_add_right ..)
    | error fault =>
        dsimp only
        rw [← hmet]
        have hmetState : met.state = s.state := by rw [hmet]
        have hspent := spent_of_eq hmetState hdials
        rw [← hsteady.plan] at hjitter
        have hfailed := connectionFailed_passes hjitter
          ("failed to send auth frame: " ++ fault.message) now timers
        rw [hsteady.failures, hspent] at hfailed
        exact hfailed.after hsteady.plan hsteady.hushed
  · rename_i hother
    have hfine : fails = false := by
      refine Bool.eq_false_iff.mpr fun htrue => ?_
      simp only [← hfails, failsOpened, loses, Bool.and_eq_true, decide_eq_true_eq,
        Option.any_eq_true] at htrue
      obtain ⟨hstate, login, hl, c, hc, -⟩ := htrue
      exact hother c login hstate hc hl
    subst hfine hfailure
    exact Steady.passes (.same rfl rfl rfl) (Nat.le_refl _)

theorem received_passes {connection : ConnectionId} {text : String} {now : Instant}
    {timers : Timers} (hrejects : ∀ reason, Incoming.decode text ≠ .ok (.authRejected reason))
    (hactive : s.state ≠ .active → (s.received connection text now timers).1.state ≠ .active) :
    Passes s.failures s.spent s none (s.received connection text now timers).1
      (some (s.received connection text now timers).2) := by
  unfold received at *
  dsimp only at *
  split
  · exact Steady.passes (.of_signals rfl rfl rfl rfl) (Nat.le_refl _)
  · rename_i hdecode
    rw [hdecode] at hactive
    split
    · rename_i hstate
      rw [if_pos hstate] at hactive
      exact absurd (transition_state _ _) (hactive (by rw [hstate]; simp))
    · exact Steady.passes (.same rfl rfl rfl) (Nat.le_refl _)
  · rename_i reason hdecode
    exact absurd hdecode (hrejects reason)
  · exact Steady.passes (.same rfl rfl rfl) (Nat.le_refl _)
  · dsimp only
    split
    · exact Steady.passes (.of_signals rfl rfl rfl rfl) (Nat.le_refl _)
    · exact Steady.passes (.same rfl rfl rfl) (Nat.le_refl _)

theorem heartbeat_passes (hjitter : s.plan.reconnect.clampedJitter.isZero = true)
    (hsome : s.connection.isSome = true) (hactive : s.state = .active) (now : Instant)
    (timers : Timers) :
    Passes s.failures s.spent s (if s.loses .ping then some now else none)
      (s.heartbeat now timers).1 (some (s.heartbeat now timers).2) := by
  obtain ⟨c, hc⟩ := Option.isSome_iff_exists.mp hsome
  obtain ⟨transport, heq⟩ := s.sendFrame_eq .ping
  have hanswer : (s.sendFrame .ping).1 = (Transport.send s.transport c.id .ping).1 := by
    simp [sendFrame, hc, hactive]
  have hspent : (s.sendFrame .ping).2.spent = s.spent :=
    spent_of_eq (by rw [heq]) (s.sendFrame_dials .ping)
  have hsteady : Steady s (s.sendFrame .ping).2 := by
    rw [heq]
    exact .same rfl rfl rfl
  unfold heartbeat loses
  rw [hc, Option.any_some, ← hanswer]
  generalize s.sendFrame .ping = sent at *
  obtain ⟨answer, sent⟩ := sent
  cases answer with
  | ok _ => exact Steady.passes hsteady (Nat.le_of_eq hspent)
  | error fault =>
      rw [← hsteady.plan] at hjitter
      have hfailed := connectionFailed_passes hjitter
        ("heartbeat send failed: " ++ fault.message) now timers
      rw [hsteady.failures, hspent] at hfailed
      exact hfailed.after hsteady.plan hsteady.hushed

theorem handleTimer_passes (hjitter : s.plan.reconnect.clampedJitter.isZero = true)
    (hheld : s.Held) (key : Timer.Key) (now : Instant) (timers : Timers) :
    Passes s.failures s.spent s (s.failure? (.timer key now timers))
      ((s.handleTimer key now timers).getD (s, timers)).1
      ((s.handleTimer key now timers).map (·.2)) := by
  have hnothing : ∀ timers, Passes s.failures s.spent s none s timers := fun _ =>
    Steady.passes (.same rfl rfl rfl) (Nat.le_refl _)
  cases key with
  | handshake =>
      by_cases hstate : s.state = .connecting ∨ s.state = .authenticating
      · simpa [failure?, failsAt, handleTimer, hstate] using
          connectionFailed_passes hjitter "handshake timed out" now timers
      · simpa [failure?, failsAt, handleTimer, hstate] using hnothing (some timers)
  | reconnect =>
      by_cases hstate : s.state = .reconnecting
      · have hspent : s.spent = s.dials + 1 := by rw [spent, if_pos hstate]
        cases hl : s.login with
        | none =>
            simpa [failure?, failsAt, handleTimer, hstate, hl, openConnection] using
              hnothing (some timers)
        | some login =>
            simpa [failure?, failsAt, handleTimer, hstate, hl, hspent] using
              openConnection_passes hjitter hl now timers
      · simpa [failure?, failsAt, handleTimer, hstate] using hnothing (some timers)
  | heartbeat =>
      by_cases hstate : s.state = .active
      · have hsome : s.connection.isSome = true := hheld.mpr (.inr (.inr hstate))
        simpa [failure?, failsAt, handleTimer, hstate] using
          heartbeat_passes hjitter hsome hstate now timers
      · simpa [failure?, failsAt, handleTimer, hstate] using hnothing (some timers)
  | liveness =>
      by_cases hstate : s.state = .active
      · simpa [failure?, failsAt, handleTimer, hstate] using
          connectionFailed_passes hjitter "heartbeat timeout" now timers
      · simpa [failure?, failsAt, handleTimer, hstate] using hnothing (some timers)
  | action _ | typingSweep | localTyping _ => exact hnothing none

omit [Transport τ] in
theorem activate_passes (s : Session (Recorded τ)) (now : Instant) (timers : Timers) :
    Passes 0 (s.dials + 1) s none (s.activate now timers).1
      (some (s.activate now timers).2) := by
  unfold activate
  dsimp only
  generalize hcounted : ({ s with failures := 0, activations := s.activations + 1 } :
    Session (Recorded τ)) = counted
  obtain ⟨signals, heq⟩ := counted.transition_eq .active
  have hsteady := transition_steady counted .active
  subst hcounted
  refine .calm hsteady.plan hsteady.failures hsteady.quiet ?_
  rw [heq, spent_of_ne (by simp)]
  exact Nat.le_succ _

theorem received_begins {connection : ConnectionId} {text : String} {now : Instant}
    {timers : Timers} (hother : s.state ≠ .active)
    (hactive : (s.received connection text now timers).1.state = .active) :
    Passes 0 (s.dials + 1) s none (s.received connection text now timers).1
      (some (s.received connection text now timers).2) := by
  unfold received at *
  dsimp only at *
  split at hactive
  · exact absurd hactive hother
  · split at hactive
    · rename_i hstate
      rw [if_pos hstate]
      have hheard := activate_passes { s with
        connection := s.connection.map ({ · with lastActivity := now }) } now
        (if s.state = .active then timers.schedule .liveness (now + s.plan.heartbeatTimeout)
          else timers)
      exact hheard.after rfl ⟨[], (List.append_nil _).symm, rfl⟩
    · exact absurd hactive hother
  · cases hactive.symm.trans (transition_state _ _)
  · exact absurd hactive hother
  · rw [if_neg hother] at hactive
    exact absurd hactive hother

theorem opened_inactive (h : s.state ≠ .active) (now : Instant) (timers : Timers) :
    (s.opened now timers).1.state ≠ .active := by
  unfold opened
  split
  · dsimp only
    split
    · rw [transition_state]
      simp
    · exact connectionFailed_inactive _ _ now timers
  · exact h

end Inputs

end RealtimeChat.Session
