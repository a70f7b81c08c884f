import RealtimeChat.Proofs.Session.Failures
import RealtimeChat.Transport.Memory
/-!
# When a session tries again

A session that loses its connection, or gets none, tries again after a delay that grows, and after
too many failures in a row not any more. The row begins anew whenever somebody logs in or the
session becomes active.

* `Stretch` -- inputs from a login or an activation on, up to the next one;
* **`step_passes`**, **`begins_passes`** -- what comes of the inputs of a stretch;
* `Along`, **`Along.step`** -- the failures so far, the counter and the connections opened are in
  step;
* `Schedule`, **`reconnect_schedule`** -- the schedule of a stretch.
-/

namespace RealtimeChat.Session

open Transport (Recorded)

variable {τ : Type}

/-! ## 1. Stretches -/

section Stretches

variable [Transport τ]

/-- A login that is not refused, or the session becomes active. -/
def Begins (s : Session τ) (i : Input τ) : Prop :=
  (s.state.isLive = false ∧ ∃ credentials now timers, i = .connect credentials now timers) ∨
    s.state ≠ .active ∧ (s.step i).state = .active

/-- The server rejects the user. -/
def Rejects (s : Session τ) (i : Input τ) : Prop :=
  ∃ connection text now timers reason, i = .event connection (.frame text) now timers ∧
    s.connection.map (·.id) = some connection ∧
    Incoming.decode text = .ok (.authRejected reason)

/-- An input with which another stretch begins, or after which there is none. -/
def Ends (s : Session τ) (i : Input τ) : Prop :=
  s.Begins i ∨ s.Rejects i ∨ ∃ timers, i = .logout timers

/-- No input ends the stretch. -/
def Unbroken (s : Session τ) : List (Input τ) → Prop
  | [] => True
  | i :: rest => ¬ s.Ends i ∧ (s.step i).Unbroken rest

/-- A stretch of a run: it begins with the first input and goes on with the others. -/
def Stretch (s : Session τ) : List (Input τ) → Prop
  | [] => False
  | i :: rest => s.Begins i ∧ (s.step i).Unbroken rest

/-- The number of failures that inputs bring. -/
def failuresIn (s : Session τ) : List (Input τ) → Nat
  | [] => 0
  | i :: rest => (if (s.failure? i).isSome then 1 else 0) + (s.step i).failuresIn rest

theorem Unbroken.split {s : Session τ} {past rest : List (Input τ)}
    (h : s.Unbroken (past ++ rest)) : s.Unbroken past ∧ (run s past).Unbroken rest := by
  induction past generalizing s with
  | nil => exact ⟨trivial, h⟩
  | cons i past ih =>
      obtain ⟨hpast, hrest⟩ := ih h.2
      exact ⟨⟨h.1, hpast⟩, hrest⟩

end Stretches

/-! ## 2. Inputs of a stretch -/

section Inputs

variable [Transport τ] {s : Session (Recorded τ)}

/-- **Whatever happens in the middle of a stretch** is a failure and a setback, or the schedule goes
on as before. -/
theorem step_passes (hjitter : s.plan.reconnect.clampedJitter.isZero = true) (hheld : s.Held)
    {i : Input τ} (hends : ¬ s.Ends i.recorded) :
    Passes s.failures s.spent s (s.failure? i.recorded) (s.step i.recorded)
      (s.timersAfter i.recorded) := by
  have hnothing : ∀ timers, Passes s.failures s.spent s none s timers := fun _ =>
    Steady.passes (.same rfl rfl rfl) (Nat.le_refl _)
  cases i with
  | connect credentials now timers =>
      have hlive : s.state.isLive = true := by
        refine Bool.of_not_eq_false fun hlive => hends (.inl (.inl ⟨hlive, ?_⟩))
        exact ⟨credentials, now, timers, rfl⟩
      simpa [Input.recorded, failure?, step, timersAfter, connect, hlive, Except.toOption] using
        hnothing none
  | logout timers => exact absurd (.inr (.inr ⟨timers, rfl⟩)) hends
  | event connection what now timers =>
      have hbegins : s.state ≠ .active →
          (s.handleEvent connection what now timers).1.state ≠ .active := fun hother hactive =>
        hends (.inl (.inr ⟨hother, hactive⟩))
      dsimp only [Input.recorded, step, timersAfter]
      unfold handleEvent at hbegins ⊢
      by_cases hid : s.connection.map (·.id) = some connection
      · rw [if_pos hid] at hbegins ⊢
        cases what with
        | opened =>
            rw [show s.failure? (.event connection .opened now timers) =
              if s.failsOpened then some now else none from if_pos hid]
            exact opened_passes hjitter now timers
        | frame text =>
            rw [show s.failure? (.event connection (.frame text) now timers) = none from if_pos hid]
            exact received_passes (fun reason hdecode => hends (.inr (.inl
              ⟨connection, text, now, timers, reason, rfl, hid, hdecode⟩))) hbegins
        | failed reason =>
            rw [show s.failure? (.event connection (.failed reason) now timers) = some now from
              if_pos hid]
            exact connectionFailed_passes hjitter reason now timers
        | closed =>
            rw [show s.failure? (.event connection .closed now timers) = some now from if_pos hid]
            exact connectionFailed_passes hjitter _ now timers
      · rw [if_neg hid, show s.failure? (.event connection what now timers) = none from if_neg hid]
        exact hnothing _
  | timer key now timers => exact handleTimer_passes hjitter hheld key now timers
  | send frame =>
      obtain ⟨transport, heq⟩ := s.sendFrame_eq frame
      have hspent : (s.sendFrame frame).2.spent = s.spent :=
        spent_of_eq (by rw [heq]) (s.sendFrame_dials frame)
      refine Steady.passes ?_ (Nat.le_of_eq hspent)
      show Steady s (s.sendFrame frame).2
      rw [heq]
      exact .same rfl rfl rfl
  | takeSignals =>
      refine .calm rfl rfl (fun x hx => ?_) (Nat.le_refl _)
      cases hx
  | transport f => exact Steady.passes (.same rfl rfl rfl) (Nat.le_refl _)

/-- **What begins a stretch** starts the count anew, and allows for one connection. -/
theorem begins_passes (hjitter : s.plan.reconnect.clampedJitter.isZero = true)
    {i : Input τ} (hbegins : s.Begins i.recorded) :
    Passes 0 (s.dials + 1) s (s.failure? i.recorded) (s.step i.recorded)
      (s.timersAfter i.recorded) := by
  rcases hbegins with ⟨hlive, credentials, now, timers, hi⟩ | ⟨hother, hactive⟩
  · rw [hi]
    simp only [failure?, step, timersAfter, connect, hlive, Bool.false_eq_true, if_false,
      Bool.not_false, Bool.true_and, Except.toOption, Option.map_some]
    have hopen := openConnection_passes (s := { s with
      login := some ⟨credentials, []⟩, failures := 0, activations := 0 }) hjitter rfl now timers
    exact hopen.after rfl ⟨[], (List.append_nil _).symm, rfl⟩
  · cases i with
    | connect credentials now timers =>
        dsimp only [step, Input.recorded] at hactive
        cases hanswer : s.connect credentials now timers with
        | error _ =>
            rw [hanswer] at hactive
            exact absurd hactive hother
        | ok answer =>
            rw [hanswer] at hactive
            unfold connect at hanswer
            split at hanswer
            · cases hanswer
            · rw [← Except.ok.inj hanswer] at hactive
              exact absurd hactive (openConnection_inactive (s := { s with
                login := some ⟨credentials, []⟩, failures := 0, activations := 0 }) hother now
                timers)
    | logout timers => cases hactive.symm.trans (transition_state _ _)
    | event connection what now timers =>
        dsimp only [Input.recorded, step, timersAfter] at hactive ⊢
        unfold handleEvent at hactive ⊢
        by_cases hid : s.connection.map (·.id) = some connection
        · rw [if_pos hid] at hactive ⊢
          cases what with
          | opened => exact absurd hactive (opened_inactive hother now timers)
          | frame text =>
              rw [show s.failure? (.event connection (.frame text) now timers) = none from
                if_pos hid]
              exact received_begins hother hactive
          | failed reason => exact absurd hactive (connectionFailed_inactive s _ now timers)
          | closed => exact absurd hactive (connectionFailed_inactive s _ now timers)
        · rw [if_neg hid] at hactive
          exact absurd hactive hother
    | timer key now timers =>
        dsimp only [Input.recorded, step] at hactive
        cases hanswer : s.handleTimer key now timers with
        | none =>
            rw [hanswer] at hactive
            exact absurd hactive hother
        | some answer =>
            rw [hanswer] at hactive
            exact absurd (handleTimer_quiet hanswer hactive).1 hother
    | send frame =>
        obtain ⟨transport, heq⟩ := s.sendFrame_eq frame
        dsimp only [Input.recorded, step] at hactive
        rw [heq] at hactive
        exact absurd hactive hother
    | takeSignals => exact absurd hactive hother
    | transport f => exact absurd hactive hother

/-! ## 3. Sessions that are not live -/

/-- **Without a login nothing happens** to a session that is not live: it stays as it is or somebody
logs out. -/
theorem step_idle (hheld : s.Held) (hlive : s.state.isLive = false) {i : Input τ}
    (hconnect : ∀ credentials now timers, i ≠ .connect credentials now timers) :
    s.failure? i.recorded = none ∧ (s.step i.recorded).dials = s.dials ∧
      (s.step i.recorded).state.isLive = false ∧
      ((s.step i.recorded).state = s.state ∨ ∃ timers, i.recorded = .logout timers) := by
  have hnone : s.connection = none := by
    rw [← Option.not_isSome_iff_eq_none]
    intro hsome
    rw [(hheld.mp hsome).isLive] at hlive
    cases hlive
  cases i with
  | connect credentials now timers => exact absurd rfl (hconnect credentials now timers)
  | logout timers =>
      have hstate : (s.logout timers).1.state = .disconnected := transition_state _ _
      have hdials : (s.logout timers).1.dials = s.dials :=
        (transition_dials _ _).trans (dropConnection_dials s)
      exact ⟨rfl, hdials, (congrArg State.isLive hstate).trans rfl, .inr ⟨timers, rfl⟩⟩
  | event connection what now timers =>
      have hid : ¬ s.connection.map (·.id) = some connection := by simp [hnone]
      have hstep : s.step (.event connection what now timers) = s :=
        congrArg Prod.fst (if_neg hid : s.handleEvent connection what now timers = (s, timers))
      rw [Input.recorded, hstep]
      exact ⟨if_neg hid, rfl, hlive, .inl rfl⟩
  | timer key now timers =>
      have hidle : s.failsAt key = false ∧ s.step (.timer key now timers) = s := by
        unfold step
        cases hstate : s.state <;> simp only [hstate, State.isLive, Bool.true_eq_false] at hlive <;>
          cases key <;> simp [failsAt, handleTimer, hstate]
      rw [Input.recorded, hidle.2]
      exact ⟨if_neg (by simp [hidle.1]), rfl, hlive, .inl rfl⟩
  | send frame =>
      have hstep : s.step (.send frame) = s := by simp [step, sendFrame, hnone]
      rw [Input.recorded, hstep]
      exact ⟨rfl, rfl, hlive, .inl rfl⟩
  | takeSignals => exact ⟨rfl, rfl, hlive, .inl rfl⟩
  | transport f => exact ⟨rfl, rfl, hlive, .inl rfl⟩

theorem run_idle (htidy : s.Tidy) (hheld : s.Held) (hlive : s.state.isLive = false)
    {inputs : List (Input τ)}
    (hconnect : ∀ i ∈ inputs, ∀ credentials now timers, i ≠ .connect credentials now timers) :
    (run s (inputs.map .recorded)).dials = s.dials := by
  induction inputs generalizing s with
  | nil => rfl
  | cons i rest ih =>
      obtain ⟨-, hdials, hidle, -⟩ := step_idle hheld hlive (hconnect i List.mem_cons_self)
      obtain ⟨htidy, hheld⟩ := step_single htidy hheld i
      have hrest := ih htidy hheld hidle fun i hi => hconnect i (List.mem_cons_of_mem _ hi)
      exact hrest.trans hdials

end Inputs

/-! ## 4. Along a stretch -/

section Schedules

variable [Transport τ] {plan : Plan} {limit n : Nat} {s s' : Session (Recorded τ)}

/-- In a stretch with `n` failures so far the counter says so, unless the session gave up with the
last one; and each failure has cost one connection. -/
structure Along (plan : Plan) (limit n : Nat) (s : Session (Recorded τ)) : Prop where
  tidy : s.Tidy
  held : s.Held
  goesBy : s.plan = plan
  count : n ≤ plan.reconnect.maxAttempts ∧ s.failures = n ∨
    n = plan.reconnect.maxAttempts + 1 ∧ s.failures = plan.reconnect.maxAttempts ∧
      s.state = .failed
  spent : s.spent ≤ limit + s.failures

/-- The session after inputs that are on record. -/
def after (s : Session (Recorded τ)) (inputs : List (Input τ)) : Session (Recorded τ) :=
  run s (inputs.map .recorded)

/-- The number of failures that inputs bring which are on record. -/
def failed (s : Session (Recorded τ)) (inputs : List (Input τ)) : Nat :=
  s.failuresIn (inputs.map .recorded)

theorem after_concat (s : Session (Recorded τ)) (past : List (Input τ)) (i : Input τ) :
    s.after (past ++ [i]) = (s.after past).step i.recorded := by
  rw [after, List.map_append, run, List.foldl_append]
  rfl

theorem after_append (s : Session (Recorded τ)) (past rest : List (Input τ)) :
    s.after (past ++ rest) = (s.after past).after rest := by
  rw [after, List.map_append, run, List.foldl_append]
  rfl

omit [Transport τ] in
theorem Passes.along {allowed : Nat} {now : Option Instant} {timers : Option Timers}
    (h : Passes n allowed s now s' timers) (hplan : s.plan = plan)
    (hn : n ≤ plan.reconnect.maxAttempts) (hallowed : allowed ≤ limit + n) (htidy : s'.Tidy)
    (hheld : s'.Held) : Along plan limit (n + if now.isSome then 1 else 0) s' := by
  cases h with
  | calm plan failures quiet spent =>
      refine ⟨htidy, hheld, plan.trans hplan, .inl ⟨hn, failures⟩, ?_⟩
      rw [failures]
      exact Nat.le_trans spent hallowed
  | setback plan set spent =>
      refine ⟨htidy, hheld, plan.trans hplan, ?_, by omega⟩
      subst hplan
      cases set with
      | later h state failures news deadline => exact .inl ⟨h, failures⟩
      | never h state failures news =>
          obtain rfl := Nat.le_antisymm hn h
          exact .inr ⟨rfl, failures, state⟩

/-- What goes on in a stretch is no login, for nobody is refused. -/
theorem connect_ends (hlive : s.state.isLive = false) {i : Input τ} (hends : ¬ s.Ends i.recorded)
    (credentials : Credentials) (now : Instant) (timers : Timers) :
    i ≠ .connect credentials now timers := by
  rintro rfl
  exact hends (.inl (.inl ⟨hlive, credentials, now, timers, rfl⟩))

/-- **Every input keeps the failures, the counter and the connections in step.** -/
theorem Along.step (hjitter : plan.reconnect.clampedJitter.isZero = true)
    (h : Along plan limit n s) {i : Input τ} (hends : ¬ s.Ends i.recorded) :
    Along plan limit (n + if (s.failure? i.recorded).isSome then 1 else 0)
      (s.step i.recorded) := by
  obtain ⟨htidy, hheld⟩ := step_single h.tidy h.held i
  have hpasses := step_passes (h.goesBy ▸ hjitter) h.held hends
  rcases h.count with ⟨hn, hcount⟩ | ⟨hn, hcount, hfailed⟩
  · rw [hcount] at hpasses
    exact hpasses.along h.goesBy hn (hcount ▸ h.spent) htidy hheld
  · -- there is no failure any more in a session that gave up
    have hlive : s.state.isLive = false := by rw [hfailed]; rfl
    obtain ⟨hnone, -, -, hstate⟩ := step_idle h.held hlive (connect_ends hlive hends)
    have hstate := hstate.resolve_right fun hlogout => hends (.inr (.inr hlogout))
    rw [hnone] at hpasses ⊢
    cases hpasses with
    | calm plan failures quiet spent =>
        refine ⟨htidy, hheld, plan.trans h.goesBy,
          .inr ⟨hn, failures.trans hcount, hstate.trans hfailed⟩, ?_⟩
        rw [failures]
        exact Nat.le_trans spent h.spent

theorem Along.run (hjitter : plan.reconnect.clampedJitter.isZero = true)
    (h : Along plan limit n s) {inputs : List (Input τ)}
    (hunbroken : s.Unbroken (inputs.map .recorded)) :
    Along plan limit (n + s.failed inputs) (s.after inputs) := by
  induction inputs generalizing n s with
  | nil => exact h
  | cons i rest ih =>
      have hrest := ih (h.step hjitter hunbroken.1) hunbroken.2
      rwa [Nat.add_assoc] at hrest

theorem Stretch.along (hjitter : plan.reconnect.clampedJitter.isZero = true) (htidy : s.Tidy)
    (hheld : s.Held) (hplan : s.plan = plan) {inputs : List (Input τ)}
    (h : s.Stretch (inputs.map .recorded)) :
    Along plan (s.dials + 1) (s.failed inputs) (s.after inputs) := by
  cases inputs with
  | nil => exact h.elim
  | cons i rest =>
      obtain ⟨hbegins, hrest⟩ := h
      obtain ⟨htidy', hheld'⟩ := step_single htidy hheld i
      have hdials : s.dials + 1 ≤ s.dials + 1 + 0 := Nat.le_refl _
      have hbegun := (begins_passes (hplan ▸ hjitter) hbegins).along hplan (Nat.zero_le _) hdials
        htidy' hheld'
      have hrun := hbegun.run hjitter hrest
      rwa [Nat.zero_add] at hrun

/-- An input of a stretch, with the number of failures before it, if it brings one itself. -/
theorem Stretch.passes (hjitter : plan.reconnect.clampedJitter.isZero = true) (htidy : s.Tidy)
    (hheld : s.Held) (hplan : s.plan = plan) {past future : List (Input τ)} {i : Input τ}
    (h : s.Stretch ((past ++ i :: future).map .recorded)) :
    (s.after past).plan = plan ∧ ∃ count allowed,
      Passes count allowed (s.after past) ((s.after past).failure? i.recorded)
        (s.after (past ++ [i])) ((s.after past).timersAfter i.recorded) ∧
      ((s.after past).failure? i.recorded ≠ none → count = s.failed past) := by
  rw [after_concat]
  cases past with
  | nil => exact ⟨hplan, 0, _, begins_passes (hplan ▸ hjitter) h.1, fun _ => rfl⟩
  | cons start past =>
      rw [List.map_append] at h
      obtain ⟨hpast, hi, -⟩ := h.2.split
      have halong : Along plan (s.dials + 1) (s.failed (start :: past)) (s.after (start :: past)) :=
        Stretch.along hjitter htidy hheld hplan ⟨h.1, hpast⟩
      have hpasses := step_passes (halong.goesBy ▸ hjitter) halong.held hi
      refine ⟨halong.goesBy, _, _, hpasses, fun hfailure => ?_⟩
      rcases halong.count with ⟨-, hcount⟩ | ⟨-, -, hfailed⟩
      · exact hcount
      · have hlive : (s.after (start :: past)).state.isLive = false := by rw [hfailed]; rfl
        exact absurd (step_idle halong.held hlive (connect_ends hlive hi)).1 hfailure

/-! ## 5. The counter in all states -/

omit [Transport τ] in
theorem Passes.bounded {allowed : Nat} {now : Option Instant} {timers : Option Timers}
    (h : Passes n allowed s now s' timers) (hn : n ≤ s.plan.reconnect.maxAttempts) :
    s'.plan = s.plan ∧ s'.failures ≤ s.plan.reconnect.maxAttempts := by
  cases h with
  | calm plan failures quiet spent => exact ⟨plan, failures ▸ hn⟩
  | setback plan set spent =>
      refine ⟨plan, ?_⟩
      cases set with
      | later h state failures news deadline => exact failures ▸ h
      | never h state failures news => exact failures ▸ hn

theorem rejected_counts (s : Session (Recorded τ)) (reason : String) (timers : Timers) :
    (s.rejected reason timers).1.plan = s.plan ∧
      (s.rejected reason timers).1.failures = s.failures := by
  have htold : Steady s.dropConnection (s.dropConnection.signal (.authRejected reason)) :=
    .of_signals rfl rfl rfl rfl
  have hrejected := (dropConnection_steady s).trans (htold.trans (transition_steady _ .failed))
  exact ⟨hrejected.plan, hrejected.failures⟩

theorem step_bounded (hjitter : s.plan.reconnect.clampedJitter.isZero = true) (hheld : s.Held)
    (h : s.failures ≤ s.plan.reconnect.maxAttempts) (i : Input τ) :
    (s.step i.recorded).plan = s.plan ∧
      (s.step i.recorded).failures ≤ s.plan.reconnect.maxAttempts := by
  by_cases hends : s.Ends i.recorded
  · rcases hends with hbegins | hrejects | ⟨timers, hi⟩
    · exact (begins_passes hjitter hbegins).bounded (Nat.zero_le _)
    · obtain ⟨connection, text, now, timers, reason, hi, hid, hdecode⟩ := hrejects
      have hstep : s.step i.recorded = (s.received connection text now timers).1 := by
        rw [hi]
        exact congrArg Prod.fst (if_pos hid)
      rw [hstep, received, hdecode]
      obtain ⟨hplan, hfailures⟩ := rejected_counts { s with
        connection := s.connection.map ({ · with lastActivity := now }) } reason
        (if s.state = .active then timers.schedule .liveness (now + s.plan.heartbeatTimeout)
          else timers)
      exact ⟨hplan, Nat.le_trans (Nat.le_of_eq hfailures) h⟩
    · rw [hi]
      have hlogout := transition_steady { s.dropConnection with login := none, failures := 0 }
        .disconnected
      exact ⟨hlogout.plan.trans (dropConnection_steady s).plan,
        Nat.le_trans (Nat.le_of_eq hlogout.failures) (Nat.zero_le _)⟩
  · exact (step_passes hjitter hheld hends).bounded h

/-- What holds of every session in use that goes by a plan without jitter. -/
structure Bounded (plan : Plan) (s : Session (Recorded τ)) : Prop where
  tidy : s.Tidy
  held : s.Held
  goesBy : s.plan = plan
  failures : s.failures ≤ plan.reconnect.maxAttempts

theorem after_bounded (hjitter : plan.reconnect.clampedJitter.isZero = true)
    (h : Bounded plan s) (inputs : List (Input τ)) : Bounded plan (s.after inputs) := by
  induction inputs generalizing s with
  | nil => exact h
  | cons i rest ih =>
      obtain ⟨htidy, hheld, rfl, hfailures⟩ := h
      obtain ⟨htidy', hheld'⟩ := step_single htidy hheld i
      obtain ⟨hplan, hfailures⟩ := step_bounded hjitter hheld hfailures i
      exact ih ⟨htidy', hheld', hplan, hfailures⟩

omit [Transport τ] in
theorem new_bounded (plan : Plan) (transport : τ) (entropy : Entropy) :
    Bounded plan (.new plan (⟨transport, []⟩ : Recorded τ) entropy) where
  tidy := ⟨.nil, fun id hid => absurd hid List.not_mem_nil, rfl, (fun id hid => nomatch hid),
    (fun login hl => nomatch hl)⟩
  held := by simp [Held, State.Connected, Session.new]
  goesBy := rfl
  failures := Nat.zero_le _

/-! ## 6. The schedule -/

/-- The schedule of a stretch of inputs to a session. -/
structure Schedule (policy : Backoff) (s : Session (Recorded τ)) (stretch : List (Input τ)) :
    Prop where
  /-- As long as attempts are left, each failure makes the session wait for the next one. -/
  retried : ∀ past i future now, stretch = past ++ i :: future →
    (s.after past).failure? i.recorded = some now → s.failed past < policy.maxAttempts →
    (s.after (past ++ [i])).state = .reconnecting ∧
    Announces (s.after past) (s.after (past ++ [i]))
      [.reconnectScheduled (s.failed past + 1) (policy.delay (s.failed past))] ∧
    ∃ timers, (s.after past).timersAfter i.recorded = some timers ∧
      timers.deadline? .reconnect = some (now + policy.delay (s.failed past))
  /-- With the failure after the last attempt the session gives up, and opens no connection until
  somebody logs in. -/
  gaveUp : ∀ past i future now, stretch = past ++ i :: future →
    (s.after past).failure? i.recorded = some now → s.failed past = policy.maxAttempts →
    (s.after (past ++ [i])).state = .failed ∧
    Announces (s.after past) (s.after (past ++ [i])) [.reconnectExhausted policy.maxAttempts] ∧
    ∀ later : List (Input τ),
      (∀ i ∈ later, ∀ credentials now timers, i ≠ .connect credentials now timers) →
      (s.after (past ++ [i] ++ later)).dials = (s.after (past ++ [i])).dials
  /-- Whatever is no failure announces nothing. -/
  quiet : ∀ past i future, stretch = past ++ i :: future →
    (s.after past).failure? i.recorded = none →
    ∀ x ∈ (s.after (past ++ [i])).signals, x.announces = true → x ∈ (s.after past).signals
  failures : s.failed stretch ≤ policy.maxAttempts + 1
  /-- The counter counts the failures up to the last attempt. -/
  counter : (s.after stretch).failures = min (s.failed stretch) policy.maxAttempts
  dials : (s.after stretch).dials ≤ s.dials + policy.maxAttempts + 1

theorem Bounded.schedule (hjitter : plan.reconnect.clampedJitter.isZero = true)
    (h : Bounded plan s) {stretch : List (Input τ)}
    (hstretch : s.Stretch (stretch.map .recorded)) : Schedule plan.reconnect s stretch := by
  have halong := hstretch.along hjitter h.tidy h.held h.goesBy
  refine ⟨fun past i future now hsplit hfailure hleft => ?_,
    fun past i future now hsplit hfailure hnone => ?_, fun past i future hsplit hnone => ?_,
    ?_, ?_, ?_⟩
  · subst hsplit
    obtain ⟨hplan, n, allowed, hpasses, hcount⟩ :=
      Stretch.passes hjitter h.tidy h.held h.goesBy hstretch
    obtain rfl := hcount (by rw [hfailure]; simp)
    rw [hfailure] at hpasses
    generalize htimers : (s.after past).timersAfter i.recorded = timers at hpasses
    cases hpasses with
    | setback plan set spent =>
        cases set with
        | later h state failures news deadline =>
            rw [hplan] at news deadline
            exact ⟨state, news, _, rfl, deadline⟩
        | never h state failures news =>
            rw [hplan] at h
            exact absurd hleft (Nat.not_lt_of_le h)
  · subst hsplit
    obtain ⟨hplan, n, allowed, hpasses, hcount⟩ :=
      Stretch.passes hjitter h.tidy h.held h.goesBy hstretch
    obtain rfl := hcount (by rw [hfailure]; simp)
    rw [hfailure] at hpasses
    generalize htimers : (s.after past).timersAfter i.recorded = timers at hpasses
    cases hpasses with
    | setback plan set spent =>
        cases set with
        | later h state failures news deadline =>
            rw [hplan, hnone] at h
            exact absurd h (Nat.lt_irrefl _)
        | never _ state failures news =>
            rw [hnone] at news
            have hend := after_bounded hjitter h (past ++ [i])
            refine ⟨state, news, fun later hlater => ?_⟩
            rw [after_append _ (past ++ [i])]
            exact run_idle hend.tidy hend.held (by rw [state]; rfl) hlater
  · subst hsplit
    obtain ⟨hplan, n, allowed, hpasses, hcount⟩ :=
      Stretch.passes hjitter h.tidy h.held h.goesBy hstretch
    rw [hnone] at hpasses
    generalize (s.after past).timersAfter i.recorded = timers at hpasses
    cases hpasses with
    | calm plan failures quiet spent => exact quiet
  · rcases halong.count with ⟨hn, -⟩ | ⟨hn, -⟩
    · exact Nat.le_succ_of_le hn
    · exact Nat.le_of_eq hn
  · rcases halong.count with ⟨hn, hcount⟩ | ⟨hn, hcount, -⟩
    · rw [hcount, Nat.min_eq_left hn]
    · rw [hcount, hn, Nat.min_eq_right (Nat.le_succ _)]
  · have hbound := (after_bounded hjitter h stretch).failures
    have hspent := halong.spent
    have hdials : (s.after stretch).dials ≤ (s.after stretch).spent := Nat.le_add_right ..
    omega

/-- **The schedule of new attempts**: in every run and every stretch of it each failure up to the
last attempt is followed by the next attempt after the delay of the policy, one more failure ends
the attempts, and nothing else counts as a failure. -/
theorem reconnect_schedule (plan : Plan)
    (hjitter : plan.reconnect.clampedJitter.isZero = true) (transport : τ) (entropy : Entropy)
    (before stretch : List (Input τ))
    (hstretch : Stretch (after (.new plan ⟨transport, []⟩ entropy) before)
      (stretch.map .recorded)) :
    Schedule plan.reconnect (after (.new plan ⟨transport, []⟩ entropy) before) stretch ∧
      ∀ inputs : List (Input τ),
        (after (.new plan ⟨transport, []⟩ entropy) inputs).failures ≤
          plan.reconnect.maxAttempts ∧
        (after (.new plan ⟨transport, []⟩ entropy) inputs).bare =
          run (.new plan transport entropy) inputs := by
  have hnew := new_bounded plan transport entropy
  exact ⟨(after_bounded hjitter hnew before).schedule hjitter hstretch, fun inputs =>
    ⟨(after_bounded hjitter hnew inputs).failures, run_bare _ inputs⟩⟩

end Schedules

/-- A server that cannot be reached: the session tries once more and gives up. -/
theorem reconnect_schedule_unreachable :
    let plan : Plan := ⟨"ws://localhost", ⟨1000, 5000, 1, .zero false⟩, 30000, 60000, 10000⟩
    let s : Session (Recorded MemoryTransport) :=
      .new plan ⟨{ openFault := some .timedOut }, []⟩ ⟨UInt64.ofNat, 0⟩
    let stretch : List (Input MemoryTransport) :=
      [.connect ⟨"ann", "secret"⟩ 0 .empty, .timer .reconnect 1000 .empty]
    s.failed stretch = 2 ∧ (s.after stretch).state = .failed ∧ (s.after stretch).dials = 2 ∧
      Schedule plan.reconnect s stretch := by
  intro plan s stretch
  have hstretch : s.Stretch (stretch.map .recorded) := by
    refine ⟨.inl ⟨rfl, _, _, _, rfl⟩, fun hends => ?_, trivial⟩
    rcases hends with (⟨hlive, -⟩ | ⟨-, hactive⟩) | ⟨_, _, _, _, _, hevent, -⟩ | ⟨_, hlogout⟩
    · revert hlive
      decide +kernel
    · revert hactive
      decide +kernel
    · cases hevent
    · cases hlogout
  exact ⟨by decide +kernel, by decide +kernel, by decide +kernel,
    (reconnect_schedule plan (by decide +kernel) _ ⟨UInt64.ofNat, 0⟩ [] stretch hstretch).1⟩

end RealtimeChat.Session
