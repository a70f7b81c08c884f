import RealtimeChat.Proofs.Client.Tickets
/-!
# What a turn does to those who wait

In a turn the core takes an input, at most one more enters among those who wait, and at the end all
that was settled is told. An action that somebody waits for is queued before the turn, so after it
it is queued or was settled.

* `InOrder` -- what is so between two turns;
* `Begun` -- what is so at the end of a turn, before the settlements are told;
* `Keeps` -- from one client to another, when these settlements are told on the way;
* `submit_begun` -- who is given a ticket waits at the end of the turn, with the others;
* **`step_keeps`** -- every input keeps the tickets in order and tells of its settlements.
-/

namespace RealtimeChat.Client

variable {τ : Type}

/-! ## 1. The end of a turn -/

section EndTurn

variable {c m : Client τ} {t : Ticket} {id : String}

/-- What is so between two turns. -/
structure InOrder (c : Client τ) : Prop where
  ledger : c.Ledger
  quiet : c.engine.Quiet
  taken : c.engine.settled = []
  queued : ∀ id, c.waiting.contains id = true → c.engine.outbox.contains id = true
  stopped : c.running = false → c.waiting = ∅

/-- From one client to another, when these settlements are told on the way. -/
structure Keeps (c : Client τ) (settled : List Settlement) (c' : Client τ) : Prop where
  inOrder : c'.InOrder
  fares : ∀ {t id}, Waits t id c → Fares t id (settled.find? (·.actionId = id)) c'
  told : ∀ {t answers}, Told t answers c → Told t answers c'
  rising : c.nextTicket ≤ c'.nextTicket

theorem Fares.of_eq {c' : Client τ} {found : Option Settlement} (h : Fares t id found c)
    (hw : c'.waiting = c.waiting) (hn : c'.nextTicket = c.nextTicket)
    (hr : c'.resolutions = c.resolutions) : Fares t id found c' := by
  cases found with
  | none => exact Waits.of_eq h hw hr
  | some s => exact Told.of_eq h hw hn hr

theorem Keeps.refl (h : c.InOrder) : Keeps c [] c := ⟨h, fun hw => hw, fun ht => ht, Nat.le_refl _⟩

/-- Nothing happens to the tickets. -/
theorem Keeps.aside {c' c'' : Client τ} {settled : List Settlement} (h : Keeps c settled c')
    (hw : c''.waiting = c'.waiting) (hn : c''.nextTicket = c'.nextTicket)
    (hr : c''.resolutions = c'.resolutions) (hquiet : c''.engine.Quiet)
    (htaken : c''.engine.settled = []) (ho : c''.engine.outbox = c'.engine.outbox)
    (hstopped : c''.running = c'.running ∨ c'.waiting = ∅) : Keeps c settled c'' where
  inOrder :=
    { ledger := h.inOrder.ledger.of_eq hw hn fun _ hmem => hr ▸ hmem
      quiet := hquiet
      taken := htaken
      queued := fun id hid => ho ▸ h.inOrder.queued id (hw ▸ hid)
      stopped := fun hrun => hw.trans (hstopped.elim
        (fun heq => h.inOrder.stopped (heq.symm.trans hrun)) fun hnone => hnone) }
  fares hwaits := (h.fares hwaits).of_eq hw hn hr
  told htold := (h.told htold).of_eq hw hn hr
  rising := hn ▸ h.rising

/-- A client at the end of a turn, before the settlements of the input are told. -/
structure Begun [Transport τ] (c : Client τ) (i : Input τ) (m : Client τ) : Prop where
  ledger : m.Ledger
  quiet : m.engine.Quiet
  settled : m.engine.settled = c.settles i
  queued : ∀ id, m.waiting.contains id = true →
    m.engine.outbox.contains id = true ∨ ∃ s ∈ c.settles i, s.actionId = id
  running : m.running = true
  waits : ∀ {t id}, Waits t id c → Waits t id m
  told : ∀ {t answers}, Told t answers c → Told t answers m
  rising : c.nextTicket ≤ m.nextTicket

theorem foldl_resolve_parts (l : List Settlement) (c : Client τ) (engine : Engine τ)
    (state : Session.State) : l.foldl resolve { c with engine, state } =
      { l.foldl resolve c with engine, state } ∧
    (l.foldl resolve c).nextTicket = c.nextTicket ∧ (l.foldl resolve c).running = c.running := by
  induction l generalizing c with
  | nil => exact ⟨rfl, rfl, rfl⟩
  | cons s rest ih =>
      obtain ⟨heq, hn, hr⟩ := ih (c.resolve s)
      exact ⟨heq, hn, hr⟩

/-- At the end of a turn the settlements are told, and the lists of the core are empty. -/
theorem endTurn_eq (m : Client τ) (now : Instant) : ∃ asked fetches, m.endTurn now =
    { m.engine.settled.foldl resolve m with
      engine := m.engine.takeSettled.2.takeHistoryRequests.2
      state := m.engine.state
      asked, fetches } := by
  let rested := m.engine.takeSettled.2.takeHistoryRequests.2
  obtain ⟨asked, fetches, hend⟩ : ∃ asked fetches, m.endTurn now =
      { m.engine.settled.foldl resolve { m with engine := rested, state := rested.state } with
        asked, fetches } := by
    unfold endTurn
    dsimp only
    split
    · exact ⟨_, _, rfl⟩
    · exact ⟨_, _, rfl⟩
  rw [(foldl_resolve_parts m.engine.settled m rested rested.state).1] at hend
  exact ⟨asked, fetches, hend⟩

theorem contains_foldl {l : List Settlement}
    (h : (l.foldl resolve c).waiting.contains id = true) :
    c.waiting.contains id = true ∧ ∀ s ∈ l, s.actionId ≠ id := by
  induction l generalizing c with
  | nil => exact ⟨h, fun _ hs => absurd hs List.not_mem_nil⟩
  | cons s rest ih =>
      obtain ⟨hfirst, hrest⟩ := ih h
      have herase : (c.resolve s).waiting.get? id = if s.actionId = id then none
          else c.waiting.get? id := OrderedMap.get?_erase _ _ _
      unfold OrderedMap.contains at hfirst ⊢
      rw [herase] at hfirst
      split at hfirst
      · cases hfirst
      · rename_i hne
        refine ⟨hfirst, fun x hx => ?_⟩
        rcases List.mem_cons.mp hx with rfl | hx
        · exact hne
        · exact hrest x hx

section Begun

variable [Transport τ] {i : Input τ}

/-- Whoever waits at the end of a turn is told of the first settlement in it. -/
theorem Begun.fares (h : Begun c i m) (hw : Waits t id m) (now : Instant) :
    Fares t id ((c.settles i).find? (·.actionId = id)) (m.endTurn now) := by
  obtain ⟨asked, fetches, heq⟩ := m.endTurn_eq now
  have hfares := fares_foldl hw h.ledger m.engine.settled
  rw [heq]
  rw [h.settled] at hfares ⊢
  exact hfares.of_eq rfl rfl rfl

/-- **At the end of a turn its settlements are told.** -/
theorem Begun.keeps (h : Begun c i m) (now : Instant) :
    Keeps c (c.settles i) (m.endTurn now) := by
  obtain ⟨asked, fetches, heq⟩ := m.endTurn_eq now
  obtain ⟨-, hn, hr⟩ := foldl_resolve_parts m.engine.settled m m.engine m.state
  refine ⟨?_, fun hw => h.fares (h.waits hw) now, fun ht => ?_, ?_⟩
  all_goals rw [heq]
  · refine ⟨?_, ⟨h.quiet.sound, h.quiet.empty, h.quiet.distinct⟩, rfl, fun id hid => ?_,
      fun hrun => ?_⟩
    · exact (ledger_foldl h.ledger m.engine.settled).of_eq rfl rfl fun _ hmem => hmem
    · obtain ⟨hwaiting, hnone⟩ := contains_foldl hid
      refine (h.queued id hwaiting).resolve_right fun ⟨s, hs, hsid⟩ => ?_
      exact hnone s (h.settled ▸ hs) hsid
    · cases (hr.trans h.running).symm.trans hrun
  · exact (told_foldl (h.told ht) h.ledger m.engine.settled).of_eq rfl rfl rfl
  · exact Nat.le_trans h.rising (Nat.le_of_eq hn.symm)

end Begun

end EndTurn

/-! ## 2. Inputs -/

/-- Somebody reads what was told. -/
def Input.Reads (i : Input τ) : Prop := i = .takeResolutions ∨ ∃ t, i = .takeResolution t

section Turns

variable [Transport τ] {c : Client τ} {i : Input τ}

theorem settles_of_stopped (h : c.running = false) (i : Input τ) : c.settles i = [] := by
  rw [settles, if_neg (by simp [h])]

theorem settles_of_core {j : Engine.Input τ} (h : c.running = true) (hj : i.core? = some j) :
    c.settles i = c.engine.settles j := by
  rw [settles, if_pos h, hj]
  rfl

theorem settles_of_none (h : i.core? = none) : c.settles i = [] := by
  rw [settles, h]
  exact ite_self _

/-- A turn in which the core takes an input, and nobody enters. -/
theorem InOrder.begun (h : c.InOrder) (hrun : c.running = true) (j : Engine.Input τ)
    (hj : i.core? = some j) (htake : j ≠ .takeSettled) (fetches : List Fetch) :
    Begun c i { c with engine := c.engine.step j, fetches } where
  ledger := h.ledger.of_eq rfl rfl fun _ hmem => hmem
  quiet := Engine.step_quiet h.quiet j
  settled := by
    rw [settles_of_core hrun hj]
    exact (Engine.step_settled h.quiet htake).trans (by rw [h.taken, List.nil_append])
  queued id hid := by
    rw [settles_of_core hrun hj]
    exact Engine.step_accounts h.quiet j (h.queued id hid)
  running := hrun
  waits hw := hw.of_eq rfl rfl
  told ht := ht.of_eq rfl rfl rfl
  rising := Nat.le_refl _

/-- A turn in which the core takes no input. -/
theorem InOrder.idle (h : c.InOrder) (hrun : c.running = true) (hi : i.core? = none) :
    Begun c i c where
  ledger := h.ledger
  quiet := h.quiet
  settled := h.taken.trans (settles_of_none hi).symm
  queued id hid := .inl (h.queued id hid)
  running := hrun
  waits hw := hw
  told ht := ht
  rising := Nat.le_refl _

/-- One more may enter as long as the action is queued or was settled in the same turn. -/
theorem Begun.enter {m : Client τ} (h : Begun c i m) {id : String}
    (hid : m.engine.outbox.contains id = true ∨ ∃ s ∈ c.settles i, s.actionId = id) :
    Begun c i (m.enter id) where
  ledger := h.ledger.enter id
  quiet := h.quiet
  settled := h.settled
  queued id' hid' := by
    have hget : (m.enter id).waiting.get? id' =
        if id = id' then some (m.tickets id ++ [m.nextTicket]) else m.waiting.get? id' :=
      OrderedMap.get?_insert _ _ _ _
    by_cases heq : id = id'
    · exact heq ▸ hid
    · refine h.queued id' ?_
      rwa [OrderedMap.contains, hget, if_neg heq] at hid'
  running := h.running
  waits hw := ⟨mem_tickets_enter.mpr (.inl (h.waits hw).waits), (h.waits hw).untold⟩
  told ht := by
    have htold := h.told ht
    refine ⟨Nat.lt_succ_of_lt htold.given, fun id' hmem => ?_, htold.told⟩
    rcases mem_tickets_enter.mp hmem with hmem | ⟨-, heq⟩
    · exact htold.gone id' hmem
    · exact Nat.lt_irrefl _ (heq ▸ htold.given)
  rising := Nat.le_succ_of_le h.rising

section Turn

variable {α : Type} {now : Instant} {work : Client τ → Except ClientFault α × Client τ}

omit [Transport τ] in
theorem turn_of_running (h : c.running = true) :
    c.turn now work = ((work c).1, (work c).2.endTurn now) := if_pos h

omit [Transport τ] in
theorem turn_of_stopped (h : c.running = false) : c.turn now work = (.error .shutdown, c) :=
  if_neg (by simp [h])

/-- A turn of the loop. -/
theorem loop_keeps (h : c.InOrder) {m : Client τ} (hwork : c.running = true → Begun c i m) :
    Keeps c (c.settles i) (if c.running then m.endTurn now else c) := by
  split
  · rename_i hrun
    exact (hwork hrun).keeps now
  · rename_i hrun
    rw [settles_of_stopped (by simpa using hrun)]
    exact .refl h

/-- The turn of a user. -/
theorem turn_keeps (h : c.InOrder) (hwork : c.running = true → Begun c i (work c).2) :
    Keeps c (c.settles i) (c.turn now work).2 := by
  have hturn : (c.turn now work).2 = if c.running then (work c).2.endTurn now else c := by
    cases hrun : c.running with
    | false => rw [turn_of_stopped hrun, if_neg (by simp)]
    | true => rw [turn_of_running hrun, if_pos rfl]
  rw [hturn]
  exact loop_keeps h hwork

end Turn

/-- **To submit an action is a turn**; at its end whoever gets a ticket waits with the others. -/
theorem submit_begun (h : c.InOrder) (hrun : c.running = true) (a : Action) (now : Instant) :
    ∃ m, Begun c (.submit a now) m ∧ (c.submit a now).2 = m.endTurn now ∧
      ((∃ f, (c.submit a now).1 = .error f ∧ m.waiting = c.waiting) ∨
        (c.submit a now).1 = .ok c.nextTicket ∧ Waits c.nextTicket a.id m ∧
          m.nextTicket = c.nextTicket + 1) := by
  have hbegun : Begun c (.submit a now) _ := h.begun hrun (.submit a now) rfl nofun c.fetches
  rw [submit, turn_of_running hrun]
  dsimp only [Engine.step] at hbegun ⊢
  cases hsubmit : c.engine.submit a now with
  | error f =>
      rw [hsubmit] at hbegun
      exact ⟨_, hbegun, rfl, .inl ⟨f, rfl, rfl⟩⟩
  | ok done =>
      obtain ⟨outcome, engine⟩ := done
      rw [hsubmit] at hbegun
      dsimp only at hbegun ⊢
      split
      · exact ⟨_, hbegun, rfl, .inl ⟨_, rfl, rfl⟩⟩
      · rename_i haccepted
        have hid : engine.outbox.contains a.id = true ∨
            ∃ s ∈ c.settles (.submit a now), s.actionId = a.id := by
          rw [settles_of_core hrun rfl]
          refine Engine.submit_accounts h.quiet hsubmit fun hd => ?_
          simpa [hd] using haccepted
        exact ⟨_, hbegun.enter hid, rfl, .inr ⟨rfl, hbegun.ledger.waits a.id, rfl⟩⟩

theorem logout_keeps (h : c.InOrder) (now : Instant) :
    Keeps c (c.settles (.logout now)) (c.logout now).2 :=
  turn_keeps h fun hrun => h.begun hrun (.logout now) rfl nofun []

/-- After a logout nobody waits: no action is queued any more. -/
theorem logout_waiting (h : c.InOrder) (hrun : c.running = true) (now : Instant) :
    (c.logout now).2.waiting = ∅ := by
  have hinOrder := (logout_keeps h now).inOrder
  obtain ⟨asked, fetches, heq⟩ :=
    { c with engine := c.engine.logout now, fetches := [] }.endTurn_eq now
  have hlogout : (c.logout now).2 =
      { c with engine := c.engine.logout now, fetches := [] }.endTurn now := by
    rw [logout, turn_of_running hrun]
  refine OrderedMap.ext_get? fun id => ?_
  cases hget : (c.logout now).2.waiting.get? id with
  | none => rfl
  | some l =>
      have hqueued := hinOrder.queued id (by rw [OrderedMap.contains, hget]; rfl)
      rw [hlogout, heq] at hqueued
      cases (Engine.logout_empties h.quiet now id).symm.trans hqueued

/-- **After a shutdown nobody waits**, and whoever waited was told how the action ended. -/
theorem shutdown_keeps (h : c.InOrder) (now : Instant) :
    Keeps c (c.settles (.shutdown now)) (c.shutdown now).2 := by
  have hkeeps := logout_keeps h now
  have hnone : (c.logout now).2.waiting = ∅ := by
    cases hrun : c.running with
    | true => exact logout_waiting h hrun now
    | false =>
        rw [logout, turn_of_stopped hrun]
        exact h.stopped hrun
  have hleft : (c.logout now).2.waiting.entries = [] := congrArg OrderedMap.entries hnone
  refine hkeeps.aside hnone.symm rfl ?_ hkeeps.inOrder.quiet hkeeps.inOrder.taken rfl (.inr hnone)
  show (c.logout now).2.resolutions ++ (c.logout now).2.waiting.entries.flatMap _ = _
  rw [hleft]
  exact List.append_nil _

/-- **Every input keeps the tickets in order and tells of its settlements.** -/
theorem step_keeps (h : c.InOrder) (hi : ¬ i.Reads) : Keeps c (c.settles i) (c.step i) := by
  have haside : ∀ {c' : Client τ}, i.core? = none → c'.waiting = c.waiting →
      c'.nextTicket = c.nextTicket → c'.resolutions = c.resolutions → c'.running = c.running →
      c'.engine.Quiet → c'.engine.settled = [] → c'.engine.outbox = c.engine.outbox →
      Keeps c (c.settles i) c' := by
    intro c' hcore hw hn hr hrun hquiet htaken ho
    rw [settles_of_none hcore]
    exact (Keeps.refl h).aside hw hn hr hquiet htaken ho (.inl hrun)
  cases i with
  | connect credentials now =>
      refine turn_keeps h fun hrun => ?_
      have hbegun : Begun c (.connect credentials now) _ :=
        h.begun hrun (.connect credentials now) rfl nofun c.fetches
      dsimp only [Engine.step] at hbegun
      cases hconnect : c.engine.connect credentials now <;> rw [hconnect] at hbegun <;> exact hbegun
  | logout now => exact logout_keeps h now
  | submit a now =>
      by_cases hrun : c.running = true
      · obtain ⟨m, hbegun, heq, -⟩ := submit_begun h hrun a now
        have hstep : c.step (.submit a now) = m.endTurn now := heq
        exact hstep ▸ hbegun.keeps now
      · exact turn_keeps h fun hrun' => absurd hrun' hrun
  | keystroke chat now =>
      refine turn_keeps h fun hrun => ?_
      have hbegun : Begun c (.keystroke chat now) _ :=
        h.begun hrun (.keystroke chat now) rfl nofun c.fetches
      dsimp only [Engine.step] at hbegun
      cases hkeystroke : c.engine.keystroke chat now <;> rw [hkeystroke] at hbegun <;> exact hbegun
  | subscribe kind now =>
      exact turn_keeps h fun hrun => h.begun hrun (.subscribe kind) rfl nofun c.fetches
  | unsubscribe id now =>
      exact turn_keeps h fun hrun => h.begun hrun (.unsubscribe id) rfl nofun c.fetches
  | listen now => exact turn_keeps h fun hrun => h.begun hrun .listen rfl nofun c.fetches
  | typingUsers chat now => exact turn_keeps h fun hrun => h.idle hrun rfl
  | log chat now => exact turn_keeps h fun hrun => h.idle hrun rfl
  | shutdown now => exact shutdown_keeps h now
  | event connection event now =>
      exact loop_keeps h fun hrun => h.begun hrun (.event connection event now) rfl nofun c.fetches
  | timers now => exact loop_keeps h fun hrun => h.begun hrun (.timers now) rfl nofun c.fetches
  | fetched fetch others now =>
      let r := fetch.request
      exact loop_keeps h fun hrun =>
        h.begun hrun (.history r.chat r.generation fetch.result now) rfl nofun others
  | draw =>
      exact haside rfl rfl rfl rfl rfl ⟨h.quiet.sound, h.quiet.empty, h.quiet.distinct⟩ h.taken rfl
  | takeResolutions => exact absurd (.inl rfl) hi
  | takeResolution t => exact absurd (.inr ⟨t, rfl⟩) hi
  | takeAsked => exact haside rfl rfl rfl rfl rfl h.quiet h.taken rfl
  | takeDeliveries =>
      exact haside rfl rfl rfl rfl rfl (Engine.step_quiet h.quiet .takeDeliveries) h.taken rfl
  | hear inbox =>
      exact haside rfl rfl rfl rfl rfl (Engine.step_quiet h.quiet (.hear inbox)) h.taken rfl
  | leave inbox =>
      exact haside rfl rfl rfl rfl rfl
        ⟨h.quiet.sound, h.quiet.empty, h.quiet.distinct.leave inbox⟩ h.taken rfl
  | transport f =>
      exact haside rfl rfl rfl rfl rfl (Engine.step_quiet h.quiet (.transport f)) h.taken rfl

end Turns

end RealtimeChat.Client
