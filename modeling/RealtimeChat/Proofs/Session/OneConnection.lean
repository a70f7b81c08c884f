import Mathlib.Data.List.Pairwise
import RealtimeChat.Proofs.Session.Parts
import RealtimeChat.Proofs.Session.Record
/-!
# At most one connection at a time

Whatever happens to a session, it opens its connections under rising numbers, each one only after
the one before was given up, and it sends on the open one only.

* `opens`, `live` -- what a record says about connections;
* `Single` -- the property of the record and of the session;
* `Tidy` -- the part of it that holds also in the middle of an operation;
* **`one_connection`** -- all of it holds in every run.
-/

namespace RealtimeChat

namespace Transport

/-! ## 1. Reading the record -/

/-- The numbers under which connections were opened, or were to be, the newest one in front. -/
def opens : List Call → List ConnectionId :=
  List.filterMap fun
    | .opened id _ => some id
    | _ => none

/-- The connections that were opened and not given up. -/
def live : List Call → List ConnectionId
  | [] => []
  | .opened id true :: calls => id :: live calls
  | .opened _ false :: calls => live calls
  | .sent .. :: calls => live calls
  | .closed id :: calls => (live calls).filter (· ≠ id)

/-- Call by call: a connection is opened under a new number while there is none, and frames are sent
on the only one that there is. -/
inductive Orderly : List Call → Prop where
  | nil : Orderly []
  | opened {id : ConnectionId} {ok : Bool} {calls : List Call} (hnone : live calls = [])
      (hnew : ∀ old ∈ opens calls, old < id) (h : Orderly calls) : Orderly (.opened id ok :: calls)
  | sent {id : ConnectionId} {frame : Outgoing} {ok : Bool} {calls : List Call}
      (hone : live calls = [id]) (h : Orderly calls) : Orderly (.sent id frame ok :: calls)
  | closed {id : ConnectionId} {calls : List Call} (h : Orderly calls) :
      Orderly (.closed id :: calls)

theorem Orderly.rising {calls : List Call} (h : Orderly calls) :
    (opens calls).Pairwise (· > ·) := by
  induction h with
  | nil => exact .nil
  | opened hnone hnew h ih => exact .cons hnew ih
  | sent hone h ih => exact ih
  | closed h ih => exact ih

theorem Orderly.behind {newer older : List Call} (h : Orderly (newer ++ older)) :
    Orderly older := by
  induction newer with
  | nil => exact h
  | cons call rest ih =>
      refine ih ?_
      cases h with
      | opened hnone hnew h => exact h
      | sent hone h => exact h
      | closed h => exact h

end Transport

namespace Session

open Transport (Call Recorded opens live Orderly)

/-! ## 2. The property -/

variable {τ : Type}

/-- At most one connection is alive, in the past and now. -/
structure Single (s : Session (Recorded τ)) : Prop where
  /-- Connections are opened under rising numbers. -/
  rising : (opens s.transport.calls).Pairwise (· > ·)
  /-- All that were opened before are given up when another one is opened. -/
  alone : ∀ newer id ok older, s.transport.calls = newer ++ .opened id ok :: older →
    live older = []
  /-- Each frame was sent on the one that was open. -/
  sent : ∀ newer id frame ok older, s.transport.calls = newer ++ .sent id frame ok :: older →
    live older = [id]
  /-- The session has a connection in these states. -/
  held : s.connection.isSome = true ↔
    s.state = .connecting ∨ s.state = .authenticating ∨ s.state = .active
  /-- Its connection is the one that was opened and not given up. -/
  current : live s.transport.calls = (s.connection.map (·.id)).toList
  /-- It is the last one of the login. -/
  last : ∀ c, s.connection = some c →
    ∃ login, s.login = some login ∧ login.connections.getLast? = some c.id
  connections : ∀ login, s.login = some login → login.connections.Pairwise (· < ·)

/-! ## 3. Between the parts of an operation -/

/-- What holds of record, connection and login whatever the state is. -/
structure Tidy (s : Session (Recorded τ)) : Prop where
  orderly : Orderly s.transport.calls
  below : ∀ id ∈ opens s.transport.calls, id < s.nextConnection
  current : live s.transport.calls = (s.connection.map (·.id)).toList
  last : ∀ id, s.connection.map (·.id) = some id →
    ∃ login, s.login = some login ∧ login.connections.getLast? = some id
  connections : ∀ login, s.login = some login →
    login.connections.Pairwise (· < ·) ∧ ∀ id ∈ login.connections, id < s.nextConnection

/-- The session has a connection in the right states. -/
def Held (s : Session (Recorded τ)) : Prop := s.connection.isSome = true ↔ s.state.Connected

variable [Transport τ]

section Parts

variable {s s' : Session (Recorded τ)}

omit [Transport τ] in
theorem Tidy.of_eq (h : s.Tidy) (ht : s'.transport.calls = s.transport.calls)
    (hc : s'.connection.map (·.id) = s.connection.map (·.id))
    (hn : s'.nextConnection = s.nextConnection) (hl : s'.login = s.login) : s'.Tidy := by
  refine ⟨ht ▸ h.orderly, ?_, ?_, ?_, ?_⟩
  · rw [ht, hn]
    exact h.below
  · rw [ht, hc]
    exact h.current
  · rw [hc, hl]
    exact h.last
  · rw [hl, hn]
    exact h.connections

theorem Tidy.drop (h : s.Tidy) : s.dropConnection.Tidy := by
  rw [dropConnection_eq]
  cases hc : s.connection with
  | none => exact h.of_eq rfl (by rw [hc]) rfl rfl
  | some c =>
      have hlive : live s.transport.calls = [c.id] := by rw [h.current, hc]; rfl
      refine ⟨.closed h.orderly, h.below, ?_, (fun id hid => nomatch hid), h.connections⟩
      show (live s.transport.calls).filter (· ≠ c.id) = []
      rw [hlive]
      simp

theorem Tidy.send (h : s.Tidy) {c : Connection} (hc : s.connection = some c) {frame : Outgoing}
    {result : Except SendFault Unit} {transport : Recorded τ}
    (hsend : Transport.send s.transport c.id frame = (result, transport)) :
    Tidy { s with transport } := by
  have hlive : live s.transport.calls = [c.id] := by rw [h.current, hc]; rfl
  have hcalls := Transport.calls_send hsend
  refine ⟨?_, ?_, ?_, h.last, h.connections⟩
  · exact hcalls ▸ .sent hlive h.orderly
  · exact hcalls ▸ h.below
  · exact hcalls ▸ h.current

omit [Transport τ] in
theorem Retry.single {timers timers' : Timers} (hr : Retry s timers s' timers') (h : s.Tidy)
    (hn : s.connection = none) : s'.Tidy ∧ s'.Held := by
  cases hr with
  | later entropy signals deadline =>
      exact ⟨h.of_eq rfl rfl rfl rfl, by simp [Held, State.Connected, hn]⟩
  | never signals => exact ⟨h.of_eq rfl rfl rfl rfl, by simp [Held, State.Connected, hn]⟩

theorem connectionFailed_single (h : s.Tidy) (reason : String) (now : Instant) (timers : Timers) :
    (s.connectionFailed reason now timers).1.Tidy ∧
      (s.connectionFailed reason now timers).1.Held := by
  obtain ⟨signals, hretry⟩ := s.connectionFailed_retry reason now timers
  refine hretry.single (h.drop.of_eq rfl rfl rfl rfl) ?_
  show s.dropConnection.connection = none
  rw [dropConnection_eq]

/-- A new number is new in the record and in the login. -/
theorem Dialled.single {login : Login} {now : Instant} {timers timers' : Timers}
    (hd : Dialled s login now timers s' timers') (hl : s.login = some login) (h : s.Tidy)
    (hn : s.connection = none) : s'.Tidy ∧ s'.Held := by
  have hnone : live s.transport.calls = [] := by rw [h.current, hn]; rfl
  have hopened : ∀ ok, Orderly (.opened s.nextConnection ok :: s.transport.calls) := fun ok =>
    .opened hnone h.below h.orderly
  have hbelow : ∀ ok, ∀ id ∈ opens (.opened s.nextConnection ok :: s.transport.calls),
      id < s.nextConnection + 1 := by
    intro ok id hid
    rcases List.mem_cons.mp hid with rfl | hid
    · exact Nat.lt_succ_self _
    · exact Nat.lt_succ_of_lt (h.below id hid)
  obtain ⟨hrising, hold⟩ := h.connections login hl
  have hconnections : (login.connections ++ [s.nextConnection]).Pairwise (· < ·) ∧
      ∀ id ∈ login.connections ++ [s.nextConnection], id < s.nextConnection + 1 := by
    refine ⟨List.pairwise_append.mpr ⟨hrising, List.pairwise_singleton _ _, ?_⟩, fun id hid => ?_⟩
    · intro id hid new hnew
      rw [List.mem_singleton.mp hnew]
      exact hold id hid
    · rcases List.mem_append.mp hid with hid | hid
      · exact Nat.lt_succ_of_lt (hold id hid)
      · rw [List.mem_singleton.mp hid]
        exact Nat.lt_succ_self _
  cases hd with
  | opening transport signals hopen =>
      have hcalls : transport.calls = .opened s.nextConnection true :: s.transport.calls :=
        Transport.calls_openConnection hopen
      refine ⟨⟨hcalls ▸ hopened true, hcalls ▸ hbelow true, ?_, fun id hid => ?_, ?_⟩, ?_⟩
      · rw [hcalls]
        show s.nextConnection :: live s.transport.calls = [s.nextConnection]
        rw [hnone]
      · cases hid
        exact ⟨_, rfl, List.getLast?_concat⟩
      · rintro _ ⟨⟩
        exact hconnections
      · simp [Held, State.Connected]
  | refused transport fault signals _ _ hopen hretry =>
      have hcalls : transport.calls = .opened s.nextConnection false :: s.transport.calls :=
        Transport.calls_openConnection hopen
      refine hretry.single ⟨hcalls ▸ hopened false, hcalls ▸ hbelow false, ?_, fun id hid => ?_, ?_⟩
        hn
      · rw [hcalls]
        exact h.current
      · rw [show s.connection.map (·.id) = none by rw [hn]; rfl] at hid
        cases hid
      · rintro _ ⟨⟩
        exact hconnections

omit [Transport τ] in
/-- In a state for which there is a connection, or none as it should be. -/
theorem Tidy.transition (h : s.Tidy) {next : State}
    (hnext : s.connection.isSome = true ↔ next.Connected) :
    (s.transition next).Tidy ∧ (s.transition next).Held := by
  obtain ⟨signals, heq⟩ := s.transition_eq next
  rw [heq]
  exact ⟨h.of_eq rfl rfl rfl rfl, hnext⟩

/-! ## 4. Operations -/

theorem opened_single (h : s.Tidy) (hheld : s.Held) (now : Instant) (timers : Timers) :
    (s.opened now timers).1.Tidy ∧ (s.opened now timers).1.Held := by
  unfold opened
  split
  · rename_i c login hstate hc hl
    have hmet : Tidy { s with connection := some { c with phase := .open, lastActivity := now } } :=
      h.of_eq rfl (by rw [hc]; rfl) rfl rfl
    dsimp only
    split
    · rename_i transport hsend
      exact (hmet.send rfl hsend).transition (by simp [State.Connected])
    · rename_i fault transport hsend
      exact connectionFailed_single (hmet.send rfl hsend) _ now timers
  · exact ⟨h, hheld⟩

omit [Transport τ] in
theorem activate_single (h : s.Tidy) (hsome : s.connection.isSome = true) (now : Instant)
    (timers : Timers) : (s.activate now timers).1.Tidy ∧ (s.activate now timers).1.Held := by
  have hactive : s.connection.isSome = true ↔ State.Connected .active := by
    simpa [State.Connected] using hsome
  have hcounted : Tidy { s with failures := 0, activations := s.activations + 1 } :=
    h.of_eq rfl rfl rfl rfl
  exact hcounted.transition hactive

theorem rejected_single (h : s.Tidy) (reason : String) (timers : Timers) :
    (s.rejected reason timers).1.Tidy ∧ (s.rejected reason timers).1.Held := by
  have hdrop : (s.dropConnection.signal (.authRejected reason)).Tidy :=
    h.drop.of_eq rfl rfl rfl rfl
  have hnone : (s.dropConnection.signal (.authRejected reason)).connection = none := by
    rw [dropConnection_eq]
    rfl
  exact hdrop.transition (by rw [hnone]; simp [State.Connected])

theorem received_single (h : s.Tidy) (hheld : s.Held) (hsome : s.connection.isSome = true)
    (connection : ConnectionId) (text : String) (now : Instant) (timers : Timers) :
    (s.received connection text now timers).1.Tidy ∧
      (s.received connection text now timers).1.Held := by
  have hmet : Tidy { s with connection := s.connection.map ({ · with lastActivity := now }) } :=
    h.of_eq rfl (by rw [Option.map_map]; rfl) rfl rfl
  have hstill :
      Held { s with connection := s.connection.map ({ · with lastActivity := now }) } := by
    rw [Held, Option.isSome_map]
    exact hheld
  unfold received
  dsimp only
  split
  · exact ⟨hmet.of_eq rfl rfl rfl rfl, hstill⟩
  · split
    · exact activate_single hmet (by rwa [Option.isSome_map]) now _
    · exact ⟨hmet, hstill⟩
  · exact rejected_single hmet _ _
  · exact ⟨hmet, hstill⟩
  · split
    · exact ⟨hmet.of_eq rfl rfl rfl rfl, hstill⟩
    · exact ⟨hmet, hstill⟩

theorem handleEvent_single (h : s.Tidy) (hheld : s.Held) (connection : ConnectionId)
    (event : Transport.Event) (now : Instant) (timers : Timers) :
    (s.handleEvent connection event now timers).1.Tidy ∧
      (s.handleEvent connection event now timers).1.Held := by
  unfold handleEvent
  split
  · rename_i hcurrent
    have hsome : s.connection.isSome = true := by
      rw [← Option.isSome_map (f := (·.id)), hcurrent]
      rfl
    cases event with
    | opened => exact opened_single h hheld now timers
    | frame text => exact received_single h hheld hsome connection text now timers
    | failed reason => exact connectionFailed_single h reason now timers
    | closed => exact connectionFailed_single h _ now timers
  · exact ⟨h, hheld⟩

theorem sendFrame_single (h : s.Tidy) (hheld : s.Held) (frame : Outgoing) :
    (s.sendFrame frame).2.Tidy ∧ (s.sendFrame frame).2.Held := by
  unfold sendFrame
  split
  · rename_i c hc
    split
    · exact ⟨h.send hc rfl, hheld⟩
    · exact ⟨h, hheld⟩
  · exact ⟨h, hheld⟩

theorem heartbeat_single (h : s.Tidy) (hheld : s.Held) (now : Instant) (timers : Timers) :
    (s.heartbeat now timers).1.Tidy ∧ (s.heartbeat now timers).1.Held := by
  have hsent := sendFrame_single h hheld .ping
  unfold heartbeat
  split
  · rename_i s' hsend
    rw [hsend] at hsent
    exact hsent
  · rename_i fault s' hsend
    rw [hsend] at hsent
    exact connectionFailed_single hsent.1 _ now timers

theorem openConnection_single (h : s.Tidy) (hheld : s.Held) (hstate : ¬ s.state.Connected)
    (now : Instant) (timers : Timers) :
    (s.openConnection now timers).1.Tidy ∧ (s.openConnection now timers).1.Held := by
  have hnone : s.connection = none := by
    rw [← Option.not_isSome_iff_eq_none]
    exact fun hsome => hstate (hheld.mp hsome)
  cases hl : s.login with
  | none =>
      unfold openConnection
      rw [hl]
      exact ⟨h, hheld⟩
  | some login => exact (openConnection_dialled hl now timers).single hl h hnone

theorem handleTimer_single (h : s.Tidy) (hheld : s.Held) (key : Timer.Key) (now : Instant)
    (timers : Timers) :
    ((s.handleTimer key now timers).getD (s, timers)).1.Tidy ∧
      ((s.handleTimer key now timers).getD (s, timers)).1.Held := by
  cases key with
  | handshake =>
      dsimp only [handleTimer, Option.getD_some]
      split
      · exact connectionFailed_single h _ now timers
      · exact ⟨h, hheld⟩
  | reconnect =>
      dsimp only [handleTimer, Option.getD_some]
      split
      · rename_i hstate
        exact openConnection_single h hheld (by simp [State.Connected, hstate]) now timers
      · exact ⟨h, hheld⟩
  | heartbeat =>
      dsimp only [handleTimer, Option.getD_some]
      split
      · exact heartbeat_single h hheld now timers
      · exact ⟨h, hheld⟩
  | liveness =>
      dsimp only [handleTimer, Option.getD_some]
      split
      · exact connectionFailed_single h _ now timers
      · exact ⟨h, hheld⟩
  | action id => exact ⟨h, hheld⟩
  | typingSweep => exact ⟨h, hheld⟩
  | localTyping chat => exact ⟨h, hheld⟩

end Parts

/-- **Every input keeps record and session tidy.** -/
theorem step_single {s : Session (Recorded τ)} (h : s.Tidy) (hheld : s.Held) (i : Input τ) :
    (s.step i.recorded).Tidy ∧ (s.step i.recorded).Held := by
  cases i with
  | connect credentials now timers =>
      dsimp only [step, connect, Input.recorded]
      by_cases hlive : s.state.isLive = true
      · rw [if_pos hlive]
        exact ⟨h, hheld⟩
      · rw [if_neg hlive]
        have hstate : ¬ s.state.Connected := fun hc => hlive <| by
          rcases hc with hc | hc | hc <;> rw [hc] <;> rfl
        have hnone : s.connection = none := by
          rw [← Option.not_isSome_iff_eq_none]
          exact fun hsome => hstate (hheld.mp hsome)
        have hlogin : Tidy { s with
            login := some ⟨credentials, []⟩, failures := 0, activations := 0 } := by
          refine ⟨h.orderly, h.below, h.current, fun id hid => ?_, ?_⟩
          · rw [hnone] at hid
            cases hid
          · rintro _ ⟨⟩
            exact ⟨.nil, fun id hid => absurd hid List.not_mem_nil⟩
        exact openConnection_single hlogin hheld hstate now timers
  | logout timers =>
      have hdrop := h.drop
      have hnone : s.dropConnection.connection = none := by rw [dropConnection_eq]
      dsimp only [step, logout, Input.recorded]
      generalize s.dropConnection = dropped at hdrop hnone
      have hbare : Tidy { dropped with login := none, failures := 0 } := by
        refine ⟨hdrop.orderly, hdrop.below, hdrop.current, fun id hid => ?_, fun login hl => ?_⟩
        · rw [hnone] at hid
          cases hid
        · cases hl
      have hheld : dropped.connection.isSome = true ↔ State.Connected .disconnected := by
        simp [hnone, State.Connected]
      exact hbare.transition hheld
  | event connection what now timers => exact handleEvent_single h hheld connection what now timers
  | timer key now timers => exact handleTimer_single h hheld key now timers
  | send frame => exact sendFrame_single h hheld frame
  | takeSignals => exact ⟨h.of_eq rfl rfl rfl rfl, hheld⟩
  | transport f => exact ⟨h.of_eq rfl rfl rfl rfl, hheld⟩

omit [Transport τ] in
theorem Tidy.single {s : Session (Recorded τ)} (h : s.Tidy) (hheld : s.Held) : s.Single where
  rising := h.orderly.rising
  alone newer id ok older hcalls := by
    have hbehind : Orderly (.opened id ok :: older) := Orderly.behind (hcalls ▸ h.orderly)
    cases hbehind with
    | opened hnone hnew h => exact hnone
  sent newer id frame ok older hcalls := by
    have hbehind : Orderly (.sent id frame ok :: older) := Orderly.behind (hcalls ▸ h.orderly)
    cases hbehind with
    | sent hone h => exact hone
  held := hheld
  current := h.current
  last c hc := h.last c.id (by rw [hc]; rfl)
  connections login hl := (h.connections login hl).1

/-- **Whatever happens to a session, it has at most one connection at a time**: this is so in the
record of the same run. -/
theorem one_connection (plan : Plan) (transport : τ) (entropy : Entropy) (inputs : List (Input τ)) :
    (run (.new plan ⟨transport, []⟩ entropy) (inputs.map Input.recorded)).Single ∧
      (run (.new plan ⟨transport, []⟩ entropy) (inputs.map Input.recorded)).bare =
        run (.new plan transport entropy) inputs := by
  have along : ∀ (inputs : List (Input τ)) (s : Session (Recorded τ)), s.Tidy → s.Held →
      (run s (inputs.map Input.recorded)).Tidy ∧ (run s (inputs.map Input.recorded)).Held := by
    intro inputs
    induction inputs with
    | nil => exact fun s h hheld => ⟨h, hheld⟩
    | cons i rest ih =>
        intro s h hheld
        obtain ⟨h, hheld⟩ := step_single h hheld i
        exact ih _ h hheld
  have hnew : Tidy (.new plan (⟨transport, []⟩ : Recorded τ) entropy) :=
    ⟨.nil, fun id hid => absurd hid List.not_mem_nil, rfl, (fun id hid => nomatch hid),
      (fun login hl => nomatch hl)⟩
  obtain ⟨h, hheld⟩ := along inputs _ hnew (by simp [Held, State.Connected, Session.new])
  exact ⟨h.single hheld, run_bare _ inputs⟩

end Session

end RealtimeChat
