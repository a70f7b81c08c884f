import RealtimeChat.Proofs.Client.Turns
/-!
# Every accepted action gets its outcome

The client tells the owner of a ticket how the action ended, in the turn in which it is settled for
the first time since the ticket was given, and never again. It does not matter whether the action
was settled in the turn that accepted it, nor how many wait for it; and when the client is shut down
nobody is left waiting.

* `Served` -- the owner of a ticket is told what they are to be told in a run;
* `served_of_waits`, `heard_of_told` -- what is told to who waits, and to who was told;
* `Reliable` -- what those who submit actions can rely on;
* **`run_reliable`** -- whatever a client has been told to do, it is reliable from then on.
-/

namespace RealtimeChat.Client

variable {τ : Type}

/-! ## 1. Runs -/

section Runs

variable [Transport τ] {c : Client τ} {i : Input τ} {t : Ticket} {id : String}

theorem heard_cons (hi : ¬ i.Reads) (t : Ticket) (c : Client τ) (rest : List (Input τ)) :
    heard t c (i :: rest) = heard t (c.step i) rest := by
  cases i with
  | takeResolutions => exact absurd (.inl rfl) hi
  | takeResolution u => exact absurd (.inr ⟨u, rfl⟩) hi
  | _ => rfl

/-- To read is to take some answers away and to change nothing else. -/
theorem step_reads (hi : i.Reads) (c : Client τ) : ∃ resolutions,
    c.step i = { c with resolutions } ∧ ∀ r ∈ resolutions, r ∈ c.resolutions := by
  obtain rfl | ⟨u, rfl⟩ := hi
  · exact ⟨[], rfl, fun _ hr => absurd hr List.not_mem_nil⟩
  · exact ⟨_, rfl, fun _ hr => List.mem_of_mem_filter hr⟩

/-- Either the owner of a ticket reads the answer, or it stays there. -/
theorem heard_reads (hi : i.Reads) (hone : (c.answers t).length ≤ 1) (rest : List (Input τ)) :
    heard t c (i :: rest) = c.answers t ++ heard t (c.step i) rest ∧ (c.step i).answers t = [] ∨
      heard t c (i :: rest) = heard t (c.step i) rest ∧
        (c.step i).answers t = c.answers t := by
  obtain rfl | ⟨u, rfl⟩ := hi
  · exact .inl ⟨rfl, rfl⟩
  · have hstep : (c.step (.takeResolution u)).answers t =
        c.resolutions.filter fun r => decide (r.ticket = t) && decide (r.ticket ≠ u) :=
      List.filter_filter
    by_cases hu : u = t
    · subst hu
      have hread : (c.takeResolution u).1.toList.filter (·.ticket = u) = c.answers u := by
        have hall : (c.answers u).filter (·.ticket = u) = c.answers u := by simp [answers]
        have hfirst : (c.takeResolution u).1 = (c.answers u).head? := List.head?_filter.symm
        rw [hfirst]
        generalize c.answers u = l at *
        rcases l with _ | ⟨r, _ | ⟨x, rest⟩⟩
        · rfl
        · exact hall
        · exact absurd hone (by simp)
      refine .inl ⟨congrArg (· ++ heard u (c.takeResolution u).2 rest) hread, ?_⟩
      rw [hstep]
      exact List.filter_eq_nil_iff.mpr fun r _ => by simp
    · have hread : (c.takeResolution u).1.toList.filter (·.ticket = t) = [] := by
        cases hfirst : (c.takeResolution u).1 with
        | none => rfl
        | some r =>
            have hticket : r.ticket = u := by simpa using List.find?_some hfirst
            exact List.filter_eq_nil_iff.mpr fun x hx => by
              rw [List.mem_singleton.mp hx, hticket]
              simpa using hu
      refine .inr ⟨congrArg (· ++ heard t (c.takeResolution u).2 rest) hread, ?_⟩
      rw [hstep]
      refine List.filter_congr fun r _ => ?_
      by_cases ht : r.ticket = t
      · simp [ht, Ne.symm hu]
      · simp [ht]

theorem step_inOrder (h : c.InOrder) (i : Input τ) :
    (c.step i).InOrder ∧ c.nextTicket ≤ (c.step i).nextTicket := by
  by_cases hi : i.Reads
  · obtain ⟨resolutions, heq, hsub⟩ := step_reads hi c
    rw [heq]
    exact ⟨⟨h.ledger.of_eq rfl rfl hsub, h.quiet, h.taken, h.queued, h.stopped⟩, Nat.le_refl _⟩
  · have hkeeps := step_keeps h hi
    exact ⟨hkeeps.inOrder, hkeeps.rising⟩

theorem run_inOrder (h : c.InOrder) (inputs : List (Input τ)) :
    (c.run inputs).InOrder ∧ c.nextTicket ≤ (c.run inputs).nextTicket := by
  induction inputs generalizing c with
  | nil => exact ⟨h, Nat.le_refl _⟩
  | cons i rest ih =>
      obtain ⟨hfirst, hle⟩ := step_inOrder h i
      obtain ⟨hrest, hle'⟩ := ih hfirst
      exact ⟨hrest, Nat.le_trans hle hle'⟩

/-- Whoever was told hears no more than that. -/
theorem heard_of_told {answers : List Resolution} (h : c.InOrder) (ht : Told t answers c)
    (hone : answers.length ≤ 1) (inputs : List (Input τ)) : heard t c inputs = answers := by
  induction inputs generalizing c answers with
  | nil => exact ht.told
  | cons i rest ih =>
      have hnext := (step_inOrder h i).1
      by_cases hi : i.Reads
      · obtain ⟨resolutions, heq, -⟩ := step_reads hi c
        rcases heard_reads hi (ht.told ▸ hone) rest with ⟨hread, hleft⟩ | ⟨hread, hleft⟩
        · have hnone : Told t [] (c.step i) := by
            rw [heq] at hleft ⊢
            exact ⟨ht.given, ht.gone, hleft⟩
          rw [hread, ih hnext hnone (Nat.zero_le _), List.append_nil]
          exact ht.told
        · have hstill : Told t answers (c.step i) := by
            rw [heq] at hleft ⊢
            exact ⟨ht.given, ht.gone, hleft.trans ht.told⟩
          exact hread.trans (ih hnext hstill hone)
      · exact (heard_cons hi t c rest).trans (ih hnext ((step_keeps h hi).told ht) hone)

/-- What the owner of a ticket for an action is told: how it was settled, if it was. -/
def verdict (t : Ticket) (id : String) (found : Option Settlement) : List Resolution :=
  found.toList.map fun s => ⟨t, id, .ok s.outcome⟩

/-- In a run the owner of this ticket is told of the first settlement of the action and of nothing
else, and waits until then. -/
structure Served (t : Ticket) (id : String) (c : Client τ) (inputs : List (Input τ)) : Prop where
  told : heard t c inputs = verdict t id ((c.settled inputs).find? (·.actionId = id))
  waits : (c.settled inputs).find? (·.actionId = id) = none → Waits t id (c.run inputs)

/-- After the first turn the owner was told, or waits for the others. -/
theorem Served.cons (h : (c.step i).InOrder) (hi : ¬ i.Reads)
    (hfares : Fares t id ((c.settles i).find? (·.actionId = id)) (c.step i))
    {rest : List (Input τ)} (hrest : Waits t id (c.step i) → Served t id (c.step i) rest) :
    Served t id c (i :: rest) := by
  have hsettled : (c.settled (i :: rest)).find? (·.actionId = id) =
      ((c.settles i).find? (·.actionId = id)).or
        (((c.step i).settled rest).find? (·.actionId = id)) := List.find?_append
  cases hfound : (c.settles i).find? (·.actionId = id) with
  | none =>
      rw [hfound] at hsettled hfares
      have hserved := hrest hfares
      refine ⟨?_, fun hnone => hserved.waits (hsettled.symm.trans hnone)⟩
      rw [heard_cons hi, hsettled]
      exact hserved.told
  | some s =>
      rw [hfound] at hsettled hfares
      refine ⟨?_, fun hnone => nomatch hsettled.symm.trans hnone⟩
      rw [heard_cons hi, hsettled]
      exact heard_of_told h hfares (Nat.le_refl _) rest

/-- Whoever reads while there is nothing to be read is served as before. -/
theorem Served.reads (hi : i.Reads) (hw : Waits t id c) {rest : List (Input τ)}
    (hrest : Waits t id (c.step i) → Served t id (c.step i) rest) :
    Served t id c (i :: rest) := by
  have hsettled : c.settled (i :: rest) = (c.step i).settled rest := by
    have hnone : c.settles i = [] := by
      obtain rfl | ⟨u, rfl⟩ := hi <;> exact settles_of_none rfl
    rw [settled, hnone, List.nil_append]
  obtain ⟨hheard, huntold⟩ : heard t c (i :: rest) = heard t (c.step i) rest ∧
      (c.step i).answers t = [] := by
    rcases heard_reads hi (by rw [hw.untold]; exact Nat.zero_le _) rest with
      ⟨hread, hleft⟩ | ⟨hread, hleft⟩
    · exact ⟨by rw [hread, hw.untold, List.nil_append], hleft⟩
    · exact ⟨hread, hleft.trans hw.untold⟩
  have hwaits : t ∈ (c.step i).tickets id := by
    obtain ⟨resolutions, heq, -⟩ := step_reads hi c
    rw [heq]
    exact hw.waits
  have hserved := hrest ⟨hwaits, huntold⟩
  exact ⟨by rw [hheard, hsettled]; exact hserved.told, by rw [hsettled]; exact hserved.waits⟩

/-- **Whoever waits is served.** -/
theorem served_of_waits (h : c.InOrder) (hw : Waits t id c) (inputs : List (Input τ)) :
    Served t id c inputs := by
  induction inputs generalizing c with
  | nil => exact ⟨hw.untold, fun _ => hw⟩
  | cons i rest ih =>
      have hnext := (step_inOrder h i).1
      by_cases hi : i.Reads
      · exact .reads hi hw (ih hnext)
      · exact .cons hnext hi ((step_keeps h hi).fares hw) (ih hnext)

end Runs

/-! ## 2. Every accepted action gets its outcome -/

/-- What those who submit actions can rely on from here on. -/
structure Reliable [Transport τ] (c : Client τ) : Prop where
  /-- Whoever is given a ticket is told nothing until the action is settled for the first time, in
  the turn that accepted it or later; from that turn on they are told how it was settled, once. -/
  honoured : ∀ a now t, (c.submit a now).1 = .ok t → ∀ rest,
    heard t c (.submit a now :: rest) =
      verdict t a.id ((c.settled (.submit a now :: rest)).find? (·.actionId = a.id))
  /-- No ticket is given out twice. -/
  distinct : ∀ a now t, (c.submit a now).1 = .ok t → ∀ rest b later u,
    ((c.run (.submit a now :: rest)).submit b later).1 = .ok u → t ≠ u
  /-- An action that somebody waits for is queued. -/
  queued : ∀ id, c.waiting.contains id = true → c.engine.outbox.contains id = true
  /-- An action is turned away only if none of its id is queued and one was settled that is still
  remembered, or else its id is the next one that is made up for an action of the client's own. In
  any case nobody waits for it. -/
  refused : ∀ a now id, (c.submit a now).1 = .error (.duplicateAction id) →
    id = a.id ∧ c.engine.outbox.contains id = false ∧
      (c.engine.newId.1 ≠ id → c.engine.outbox.settledIds.contains id = true) ∧
      (c.submit a now).2.waiting.contains id = false
  /-- When the client is shut down, nobody is left who waits. -/
  closed : ∀ now, (c.shutdown now).2.running = false ∧ (c.shutdown now).2.waiting = ∅
  /-- Whoever was given a ticket was told how the action ended when the client is shut down. -/
  resolved : ∀ a now t, (c.submit a now).1 = .ok t → ∀ rest,
    (c.run (.submit a now :: rest)).running = false →
    ∃ outcome, heard t c (.submit a now :: rest) = [⟨t, a.id, .ok outcome⟩]

section Reliable

variable [Transport τ] {c : Client τ} {a : Action} {now : Instant} {t : Ticket} {id : String}

/-- Nobody submits to a client that was shut down. -/
theorem running_of_submit {answer : Except ClientFault Ticket} (h : (c.submit a now).1 = answer)
    (hanswer : answer ≠ .error .shutdown) : c.running = true := by
  cases hrun : c.running with
  | true => rfl
  | false =>
      refine absurd (h.symm.trans ?_) hanswer
      rw [submit, turn_of_stopped hrun]

/-- Whoever is given a ticket fares at the end of the turn as if they had waited before it. -/
theorem submit_fares (h : c.InOrder) (hs : (c.submit a now).1 = .ok t) :
    t = c.nextTicket ∧ t < (c.submit a now).2.nextTicket ∧
      Fares t a.id ((c.settles (.submit a now)).find? (·.actionId = a.id)) (c.submit a now).2 := by
  obtain ⟨m, hbegun, heq, hanswer⟩ := submit_begun h (running_of_submit hs nofun) a now
  rcases hanswer with ⟨f, hf, -⟩ | ⟨ht, hwaits, hnext⟩
  · cases hf.symm.trans hs
  · obtain rfl := Except.ok.inj (ht.symm.trans hs)
    obtain ⟨asked, fetches, hend⟩ := m.endTurn_eq now
    have hn := (foldl_resolve_parts m.engine.settled m m.engine m.state).2.1
    refine ⟨rfl, ?_, heq ▸ hbegun.fares hwaits now⟩
    rw [heq, hend]
    exact Nat.lt_of_lt_of_eq (Nat.lt_succ_self _) (hnext.symm.trans hn.symm)

/-- **Whoever is given a ticket is served.** -/
theorem served_of_submit (h : c.InOrder) (hs : (c.submit a now).1 = .ok t)
    (rest : List (Input τ)) : Served t a.id c (.submit a now :: rest) :=
  have hnext := (step_inOrder h (.submit a now)).1
  .cons hnext nofun (submit_fares h hs).2.2 fun hw => served_of_waits hnext hw rest

/-- Whoever is turned away is not queued but known, and nobody waits for the action. -/
theorem submit_turnedAway (h : c.InOrder)
    (hs : (c.submit a now).1 = .error (.duplicateAction id)) :
    id = a.id ∧ c.engine.outbox.contains id = false ∧
      (c.engine.newId.1 ≠ id → c.engine.outbox.settledIds.contains id = true) ∧
      (c.submit a now).2.waiting.contains id = false := by
  have hrun := running_of_submit hs nofun
  obtain ⟨rfl, hfree, engine, hengine⟩ : id = a.id ∧ c.engine.outbox.contains a.id = false ∧
      ∃ engine, c.engine.submit a now = .ok (.duplicateId, engine) := by
    rw [submit, turn_of_running hrun] at hs
    dsimp only at hs
    cases hsubmit : c.engine.submit a now with
    | error f =>
        rw [hsubmit] at hs
        unfold Engine.submit at hsubmit
        split at hsubmit
        · cases hsubmit
          cases hs
        · cases hsubmit
    | ok done =>
        obtain ⟨outcome, engine⟩ := done
        rw [hsubmit] at hs
        dsimp only at hs
        split at hs
        · rename_i hrefused
          cases hs
          exact ⟨rfl, by simpa using hrefused.2, engine, by rw [hrefused.1]⟩
        · cases hs
  refine ⟨rfl, hfree, fun hnew => ?_, ?_⟩
  · refine (Engine.submit_refused h.quiet.sound hengine hnew).resolve_left fun hqueued => ?_
    cases hfree.symm.trans hqueued
  · obtain ⟨m, -, heq, ⟨f, -, hm⟩ | ⟨ht, -⟩⟩ := submit_begun h hrun a now
    · obtain ⟨asked, fetches, hend⟩ := m.endTurn_eq now
      refine Bool.eq_false_iff.mpr fun hcontains => ?_
      rw [heq, hend] at hcontains
      have hwaiting := (contains_foldl hcontains).1
      rw [hm] at hwaiting
      cases hfree.symm.trans (h.queued _ hwaiting)
    · cases hs.symm.trans ht

theorem InOrder.reliable (h : c.InOrder) : c.Reliable where
  honoured a now t hs rest := (served_of_submit h hs rest).told
  distinct a now t hs rest b later u hu := by
    have hlt : t < (c.step (.submit a now)).nextTicket := (submit_fares h hs).2.1
    have hfirst := (step_inOrder h (.submit a now)).1
    obtain ⟨hrest, hle⟩ := run_inOrder hfirst rest
    obtain ⟨rfl, -⟩ := submit_fares hrest hu
    exact Nat.ne_of_lt (Nat.lt_of_lt_of_le hlt hle)
  queued := h.queued
  refused a now id hs := submit_turnedAway h hs
  closed now := ⟨rfl, (shutdown_keeps h now).inOrder.stopped rfl⟩
  resolved a now t hs rest hstopped := by
    obtain ⟨hheard, hwaits⟩ := served_of_submit h hs rest
    have hnobody := (run_inOrder h (.submit a now :: rest)).1.stopped hstopped
    cases hfound : (c.settled (.submit a now :: rest)).find? (·.actionId = a.id) with
    | none =>
        have hcontains := contains_of_mem_tickets (hwaits hfound).waits
        rw [hnobody] at hcontains
        cases hcontains
    | some s =>
        rw [hfound] at hheard
        exact ⟨s.outcome, hheard⟩

omit [Transport τ] in
theorem Fresh.inOrder (h : c.Fresh) : c.InOrder := by
  have hquiet := h.engine.quiet
  have htaken : c.engine.settled = [] :=
    h.engine.rule fun settings endpoint transport entropy ids store historyEnabled => rfl
  obtain ⟨settings, transport, entropy, ids, store, source, hnew⟩ := h
  unfold Client.new at hnew
  split at hnew
  · cases hnew
  · cases hnew
    refine ⟨⟨fun _ => .nil, fun _ _ _ ht => ?_, fun _ _ ht => ?_, fun _ hr => ?_⟩, hquiet, htaken,
      fun _ hid => ?_, nofun⟩
    · cases ht
    · cases ht
    · cases hr
    · cases hid

/-- **Whatever a client has been told to do and whatever has happened to it, every action that it
accepts gets its outcome**: once, in the turn in which it is settled for the first time, and at the
latest when the client is shut down. -/
theorem run_reliable (h : c.Fresh) (before : List (Input τ)) : (c.run before).Reliable :=
  (run_inOrder h.inOrder before).1.reliable

end Reliable

/-- An action that is submitted to a client without a connection gets its outcome when that
is shut down. -/
theorem run_reliable_shutdown :
    let a := Action.new "a1" (.readReceipt "chat" "m1") 0
    ∃ c : Client MemoryTransport, c.Fresh ∧ (c.run []).Reliable ∧ (c.submit a 0).1 = .ok 0 ∧
      ∃ outcome, heard 0 c [.submit a 0, .shutdown 1, .takeResolutions] =
        [⟨0, a.id, .ok outcome⟩] := by
  intro a
  obtain ⟨c, hfresh, hsubmit⟩ := exists_fresh_of (fun c => (c.submit a 0).1.toOption = some 0)
    (by decide +kernel)
  have hreliable := run_reliable hfresh []
  have haccepted : (c.submit a 0).1 = .ok 0 := by
    cases hanswer : (c.submit a 0).1 with
    | error f => simp [hanswer, Except.toOption] at hsubmit
    | ok t => simpa [hanswer, Except.toOption] using hsubmit
  exact ⟨c, hfresh, hreliable, haccepted,
    hreliable.resolved a 0 0 haccepted [.shutdown 1, .takeResolutions] rfl⟩

end RealtimeChat.Client
