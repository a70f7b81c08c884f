import RealtimeChat.Proofs.Session.Deadlines
import RealtimeChat.Proofs.Session.Record
/-!
# Nothing is said before the server has accepted the user

On each connection a session introduces its user first, and sends anything else only after the
server has accepted the user on the same connection and as long as nothing has ended it. This is a
property of a journal of what the session did and of what happened to it; the newest mark stands in
front.

* `Mark` -- one entry of the journal, `current` -- who is logged in by the journal;
* `Introduced`, `Admitted` -- how far a connection is by the journal;
* `Gated` -- mark by mark, nothing is sent on a connection that is not so far;
* `Stage` -- the session is as far as the journal says;
* **`handleEvent_gate`**, **`connect_gate`** and the others -- operations keep both;
* `written`, **`Gated.written_eq`** -- the frames that were sent on a connection, read off the journal.
-/

namespace RealtimeChat

/-- The frame introduces somebody. -/
def Outgoing.introduces : Outgoing → Bool
  | .auth .. => true
  | _ => false

/-- The frame by which these credentials introduce their user. -/
def Credentials.introduction (c : Credentials) : Outgoing := .login c.token c.user

namespace Session

open Transport (Call Recorded)

/-! ## 1. The journal -/

/-- What a session did, or what happened to it. -/
inductive Mark where
  /-- Something was done with the transport. -/
  | did (call : Call)
  /-- Something happened to a connection. -/
  | heard (id : ConnectionId) (event : Transport.Event)
  /-- Somebody was logged in. -/
  | began (credentials : Credentials)
  /-- The user was logged out. -/
  | ended

/-- The mark is the end of a connection: it was given up or failed, the server closed it or rejected
the user on it, or the user logged out or in again. -/
def Mark.Ends (id : ConnectionId) : Mark → Prop
  | .did (.closed id') => id' = id
  | .did _ => False
  | .heard id' (.frame text) => id' = id ∧ ∃ reason, Incoming.decode text = .ok (.authRejected reason)
  | .heard _ .opened => False
  | .heard id' _ => id' = id
  | .began _ => True
  | .ended => True

/-- Who is logged in. -/
def current : List Mark → Option Credentials
  | [] => none
  | .began credentials :: _ => some credentials
  | .ended :: _ => none
  | _ :: log => current log

/-- Nothing was sent on a connection, or tried to be. -/
def Silent (id : ConnectionId) (log : List Mark) : Prop :=
  ∀ frame ok, .did (.sent id frame ok) ∉ log

/-- A user was introduced on a connection, which has not ended since. -/
def Introduced (id : ConnectionId) (c : Credentials) (log : List Mark) : Prop :=
  ∃ since older, log = since ++ .did (.sent id c.introduction true) :: older ∧
    ∀ x ∈ since, ¬ x.Ends id

/-- The server accepted the user that was introduced on a connection, which has not ended since. -/
def Admitted (id : ConnectionId) (c : Credentials) (log : List Mark) : Prop :=
  ∃ since text user older, log = since ++ .heard id (.frame text) :: older ∧
    Incoming.decode text = .ok (.authAccepted user) ∧ Introduced id c older ∧
    ∀ x ∈ since, ¬ x.Ends id

/-- The mark is not about something sent. -/
def Mark.Mute : Mark → Prop
  | .did (.sent ..) => False
  | _ => True

/-- Mark by mark: on each connection the user who is logged in is introduced first, and other frames
are sent only after the server has accepted the user there. -/
inductive Gated : List Mark → Prop where
  | nil : Gated []
  | mute {x : Mark} {log : List Mark} (hx : x.Mute) (h : Gated log) : Gated (x :: log)
  | introduction {id : ConnectionId} {c : Credentials} {ok : Bool} {log : List Mark}
      (hfirst : Silent id log) (hc : current log = some c) (h : Gated log) :
      Gated (.did (.sent id c.introduction ok) :: log)
  | other {id : ConnectionId} {c : Credentials} {frame : Outgoing} {ok : Bool} {log : List Mark}
      (hframe : frame.introduces = false) (hc : current log = some c) (hadmitted : Admitted id c log)
      (h : Gated log) : Gated (.did (.sent id frame ok) :: log)

section Journal

variable {id : ConnectionId} {c : Credentials} {x : Mark} {log : List Mark}

theorem Introduced.cons (h : Introduced id c log) (hx : ¬ x.Ends id) : Introduced id c (x :: log) := by
  obtain ⟨since, older, rfl, hsince⟩ := h
  exact ⟨x :: since, older, rfl, List.forall_mem_cons.mpr ⟨hx, hsince⟩⟩

theorem Admitted.cons (h : Admitted id c log) (hx : ¬ x.Ends id) : Admitted id c (x :: log) := by
  obtain ⟨since, text, user, older, rfl, htext, hintroduced, hsince⟩ := h
  exact ⟨x :: since, text, user, older, rfl, htext, hintroduced,
    List.forall_mem_cons.mpr ⟨hx, hsince⟩⟩

theorem Silent.cons (h : Silent id log) (hx : x.Mute) : Silent id (x :: log) := by
  intro frame ok hmem
  rcases List.mem_cons.mp hmem with rfl | hmem
  · exact hx
  · exact h frame ok hmem

end Journal

/-! ## 2. The session and the journal -/

variable {σ : Type}

/-- Who is logged in to a session. -/
def user? (s : Session σ) : Option Credentials := s.login.map (·.credentials)

/-- What session and journal have in common, however far the connection is. -/
structure Agrees (s : Session σ) (log : List Mark) : Prop where
  gated : Gated log
  below : ∀ id, s.nextConnection ≤ id → Silent id log
  login : s.user? = current log

/-- The session is as far as the journal says. -/
structure Stage (s : Session σ) (log : List Mark) : Prop extends Agrees s log where
  numbered : ∀ c, s.connection = some c → c.id < s.nextConnection
  held : s.connection.isSome = true → s.state.Connected
  connecting : s.state = .connecting → ∀ c, s.connection = some c → Silent c.id log
  authenticating : s.state = .authenticating → ∀ c, s.connection = some c →
    ∃ credentials, s.user? = some credentials ∧ Introduced c.id credentials log
  active : s.state = .active → ∀ c, s.connection = some c →
    ∃ credentials, s.user? = some credentials ∧ Admitted c.id credentials log

section Stages

variable {s s' : Session σ} {x : Mark} {log : List Mark}

theorem Agrees.of_eq (h : s.Agrees log) (hn : s'.nextConnection = s.nextConnection)
    (hl : s'.login = s.login) : s'.Agrees log := by
  refine ⟨h.gated, ?_, ?_⟩
  · rw [hn]
    exact h.below
  · rw [user?, hl]
    exact h.login

/-- The journal goes on with a mark that concerns neither who is logged in nor what is sent. -/
theorem Agrees.note (h : s.Agrees log) (hx : x.Mute) (hc : current (x :: log) = current log) :
    s.Agrees (x :: log) :=
  ⟨.mute hx h.gated, fun id hid => (h.below id hid).cons hx, h.login.trans hc.symm⟩

/-- The journal goes on with a frame that may be sent. -/
theorem Agrees.sent (h : s.Agrees log) {id : ConnectionId} {frame : Outgoing} {ok : Bool}
    (hid : id < s.nextConnection) (hgated : Gated (.did (.sent id frame ok) :: log)) :
    s.Agrees (.did (.sent id frame ok) :: log) := by
  refine ⟨hgated, fun id' hid' frame' ok' hmem => ?_, h.login⟩
  rcases List.mem_cons.mp hmem with heq | hmem
  · cases heq
    exact absurd hid (Nat.not_lt_of_le hid')
  · exact h.below id' hid' frame' ok' hmem

/-- Without a connection a session is as far as any journal says. -/
theorem Agrees.stage (h : s.Agrees log) (hnone : s.connection = none) : s.Stage log where
  toAgrees := h
  numbered c hc := by simp [hnone] at hc
  held hsome := by simp [hnone] at hsome
  connecting _ c hc := by simp [hnone] at hc
  authenticating _ c hc := by simp [hnone] at hc
  active _ c hc := by simp [hnone] at hc

theorem Stage.of_eq (h : s.Stage log) (hn : s'.nextConnection = s.nextConnection)
    (hl : s'.login = s.login) (hstate : s'.state = s.state)
    (hc : s'.connection.map (·.id) = s.connection.map (·.id)) : s'.Stage log := by
  have hcurrent : ∀ c', s'.connection = some c' → ∃ c, s.connection = some c ∧ c.id = c'.id := by
    intro c' hc'
    rw [hc', Option.map_some] at hc
    exact Option.map_eq_some_iff.mp hc.symm
  have huser : s'.user? = s.user? := by rw [user?, hl, user?]
  refine ⟨h.toAgrees.of_eq hn hl, fun c' hc' => ?_, fun hsome => ?_, ?_, ?_, ?_⟩
  · obtain ⟨c, hc, hid⟩ := hcurrent c' hc'
    rw [← hid, hn]
    exact h.numbered c hc
  · rw [← Option.isSome_map (f := (·.id)), hc, Option.isSome_map] at hsome
    rw [hstate]
    exact h.held hsome
  all_goals
    rw [hstate]
    intro hs c' hc'
    obtain ⟨c, hc, hid⟩ := hcurrent c' hc'
    rw [← hid]
  · exact h.connecting hs c hc
  · exact huser ▸ h.authenticating hs c hc
  · exact huser ▸ h.active hs c hc

/-- The journal goes on with a mark that is no end of the connection. -/
theorem Stage.note (h : s.Stage log) (hx : x.Mute) (hc : current (x :: log) = current log)
    (hends : ∀ c, s.connection = some c → ¬ x.Ends c.id) : s.Stage (x :: log) where
  toAgrees := h.toAgrees.note hx hc
  numbered := h.numbered
  held := h.held
  connecting hs c hc := (h.connecting hs c hc).cons hx
  authenticating hs c hc :=
    have ⟨credentials, huser, hintroduced⟩ := h.authenticating hs c hc
    ⟨credentials, huser, hintroduced.cons (hends c hc)⟩
  active hs c hc :=
    have ⟨credentials, huser, hadmitted⟩ := h.active hs c hc
    ⟨credentials, huser, hadmitted.cons (hends c hc)⟩

end Stages

/-! ## 3. The parts of operations -/

variable {τ : Type}

/-- What the session did goes on in a journal. -/
def journal (s : Session (Recorded τ)) (base : List Mark) : List Mark :=
  s.transport.calls.map .did ++ base

variable [Transport τ] {base : List Mark}

section Parts

variable {s s' : Session (Recorded τ)}

/-- A connection that is given up is gone from the session. -/
theorem Agrees.drop (h : s.Agrees (s.journal base)) :
    s.dropConnection.Agrees (s.dropConnection.journal base) := by
  rw [dropConnection_eq]
  cases s.connection with
  | none => exact h.of_eq rfl rfl
  | some c => exact (h.note (x := .did (.closed c.id)) trivial rfl).of_eq rfl rfl

omit [Transport τ] in
theorem Retry.gate {timers timers' : Timers} (hr : Retry s timers s' timers')
    (h : s.Agrees (s.journal base)) (hnone : s.connection = none) :
    s'.Stage (s'.journal base) := by
  cases hr with
  | later entropy signals deadline => exact Agrees.stage (h.of_eq rfl rfl) hnone
  | never signals => exact Agrees.stage (h.of_eq rfl rfl) hnone

theorem connectionFailed_gate (h : s.Agrees (s.journal base)) (reason : String) (now : Instant)
    (timers : Timers) :
    (s.connectionFailed reason now timers).1.Stage
      ((s.connectionFailed reason now timers).1.journal base) := by
  obtain ⟨signals, hretry⟩ := s.connectionFailed_retry reason now timers
  have hdrop := h.drop
  have hnone : s.dropConnection.connection = none := by rw [dropConnection_eq]
  generalize s.dropConnection = dropped at hretry hdrop hnone
  exact hretry.gate (hdrop.of_eq rfl rfl) hnone

/-- A new connection has a new number, so nothing was sent on it. -/
theorem Dialled.gate {login : Login} {now : Instant} {timers timers' : Timers}
    (hd : Dialled s login now timers s' timers') (hl : s.login = some login)
    (h : s.Agrees (s.journal base)) (hnone : s.connection = none) :
    s'.Stage (s'.journal base) := by
  have huser : some login.credentials = current (s.journal base) := by
    rw [← h.login, user?, hl]
    rfl
  -- the journal goes on with the call, and the number is used up
  have hopened : ∀ {s' : Session (Recorded τ)} {ok : Bool},
      s'.transport.calls = .opened s.nextConnection ok :: s.transport.calls →
      s'.nextConnection = s.nextConnection + 1 → s'.user? = some login.credentials →
      s'.Agrees (s'.journal base) := by
    intro s' ok hcalls hnext huser'
    rw [journal, hcalls]
    refine ⟨.mute trivial h.gated, fun id hid => ?_, huser'.trans huser⟩
    rw [hnext] at hid
    exact (h.below id (Nat.le_of_succ_le hid)).cons trivial
  cases hd with
  | opening transport signals hopen =>
      have hcalls : transport.calls = .opened s.nextConnection true :: s.transport.calls :=
        Transport.calls_openConnection hopen
      refine ⟨hopened hcalls rfl rfl, ?_, fun _ => .inl rfl, ?_, nofun, nofun⟩
      · rintro _ ⟨⟩
        exact Nat.lt_succ_self _
      · rintro - _ ⟨⟩
        rw [journal, hcalls]
        exact (h.below _ (Nat.le_refl _)).cons trivial
  | refused transport fault signals _ _ hopen hretry =>
      have hcalls : transport.calls = .opened s.nextConnection false :: s.transport.calls :=
        Transport.calls_openConnection hopen
      refine hretry.gate (hopened hcalls rfl rfl) hnone

/-- Frames that introduce nobody are sent while the user is admitted. -/
theorem sendFrame_gate (h : s.Stage (s.journal base)) {frame : Outgoing}
    (hframe : frame.introduces = false) :
    (s.sendFrame frame).2.Stage ((s.sendFrame frame).2.journal base) := by
  unfold sendFrame
  split
  · rename_i c hc
    split
    · rename_i hactive
      obtain ⟨credentials, huser, hadmitted⟩ := h.active hactive c hc
      have hgated : ∀ ok, Gated (.did (.sent c.id frame ok) :: s.journal base) := fun _ =>
        .other hframe (h.login.symm.trans huser) hadmitted h.gated
      generalize hsend : Transport.send s.transport c.id frame = answer
      have hcalls := Transport.calls_send hsend
      rw [journal, hcalls]
      refine ⟨(h.toAgrees.sent (h.numbered c hc) (hgated _)).of_eq rfl rfl, h.numbered, h.held, ?_, ?_,
        ?_⟩
      · exact fun hs => absurd (hs.symm.trans hactive) nofun
      · exact fun hs => absurd (hs.symm.trans hactive) nofun
      · intro _ c' hc'
        obtain ⟨credentials', huser', hadmitted'⟩ := h.active hactive c' hc'
        exact ⟨credentials', huser', hadmitted'.cons id⟩
    · exact h
  · exact h

/-! ## 4. Operations -/

theorem opened_gate (h : s.Stage (s.journal base)) (now : Instant) (timers : Timers) :
    (s.opened now timers).1.Stage ((s.opened now timers).1.journal base) := by
  unfold opened
  split
  · rename_i c login hstate hc hl
    have huser : current (s.journal base) = some login.credentials := by
      rw [← h.login, user?, hl]
      rfl
    have hgated : ∀ ok, Gated (.did (.sent c.id login.credentials.introduction ok) ::
        s.journal base) := fun ok => .introduction (h.connecting hstate c hc) huser h.gated
    dsimp only
    split
    · rename_i transport hsend
      have hcalls := Transport.calls_send hsend
      obtain ⟨signals, heq⟩ := ({ s with
        connection := some { c with phase := .open, lastActivity := now }, transport } :
          Session (Recorded τ)).transition_eq .authenticating
      rw [heq, journal, hcalls]
      refine ⟨(h.toAgrees.sent (h.numbered c hc) (hgated true)).of_eq rfl rfl, ?_,
        fun _ => .inr (.inl rfl), nofun, ?_, nofun⟩
      · rintro _ ⟨⟩
        exact h.numbered c hc
      · rintro - _ ⟨⟩
        exact ⟨login.credentials, h.login.trans huser, [], _, rfl, nofun⟩
    · rename_i fault transport hsend
      have hcalls := Transport.calls_send hsend
      refine connectionFailed_gate ?_ _ now timers
      rw [journal, hcalls]
      exact (h.toAgrees.sent (h.numbered c hc) (hgated false)).of_eq rfl rfl
  · exact h

theorem rejected_gate (h : s.Agrees (s.journal base)) (reason : String) (timers : Timers) :
    (s.rejected reason timers).1.Stage ((s.rejected reason timers).1.journal base) := by
  have hdrop := h.drop
  have hnone : s.dropConnection.connection = none := by rw [dropConnection_eq]
  obtain ⟨signals, heq⟩ := (s.dropConnection.signal (.authRejected reason)).transition_eq .failed
  unfold rejected
  rw [heq]
  exact Agrees.stage (hdrop.of_eq rfl rfl) hnone

omit [Transport τ] in
/-- The user is admitted when the server accepts the introduction. -/
theorem activate_gate (h : s.Stage (s.journal base))
    (hadmitted : ∀ c, s.connection = some c →
      ∃ credentials, s.user? = some credentials ∧ Admitted c.id credentials (s.journal base))
    (now : Instant) (timers : Timers) :
    (s.activate now timers).1.Stage ((s.activate now timers).1.journal base) := by
  obtain ⟨signals, heq⟩ := ({ s with failures := 0, activations := s.activations + 1 } :
    Session (Recorded τ)).transition_eq .active
  unfold activate
  rw [heq]
  exact ⟨h.toAgrees.of_eq rfl rfl, h.numbered, fun _ => .inr (.inr rfl), nofun, nofun,
    fun _ => hadmitted⟩

/-- A text that does not reject the user does not end the connection. -/
theorem received_gate {id : ConnectionId} {text : String}
    (h : s.Agrees (s.journal base))
    (hstage : (∀ reason, Incoming.decode text ≠ .ok (.authRejected reason)) →
      s.Stage (s.journal base))
    (hadmitted : ∀ user, Incoming.decode text = .ok (.authAccepted user) →
      s.state = .authenticating → ∀ c, s.connection = some c →
      ∃ credentials, s.user? = some credentials ∧ Admitted c.id credentials (s.journal base))
    (now : Instant) (timers : Timers) :
    (s.received id text now timers).1.Stage ((s.received id text now timers).1.journal base) := by
  have hmet : ∀ signals, s.Stage (s.journal base) → Stage { s with
      connection := s.connection.map ({ · with lastActivity := now }), signals } (s.journal base) :=
    fun signals h => h.of_eq rfl rfl rfl (by rw [Option.map_map]; rfl)
  unfold received
  dsimp only
  cases hdecode : Incoming.decode text with
  | error fault => exact hmet _ (hstage (by simp [hdecode]))
  | ok frame =>
      cases frame with
      | authAccepted user =>
          have hs := hstage (by simp [hdecode])
          dsimp only
          split
          · rename_i hstate
            refine activate_gate (hmet _ hs) (fun c hc => ?_) now _
            obtain ⟨c', hc', rfl⟩ := Option.map_eq_some_iff.mp hc
            exact hadmitted user hdecode hstate c' hc'
          · exact hmet _ hs
      | authRejected reason =>
          have hagrees : Agrees { s with
              connection := s.connection.map ({ · with lastActivity := now }) } (s.journal base) :=
            h.of_eq rfl rfl
          exact rejected_gate hagrees reason _
      | pong => exact hmet _ (hstage (by simp [hdecode]))
      | ack _ | event _ | error _ _ | unknown _ =>
          dsimp only
          split
          · exact hmet _ (hstage (by simp [hdecode]))
          · exact hmet _ (hstage (by simp [hdecode]))

/-- **What happens to a connection** is noted in the journal first. -/
theorem handleEvent_gate {log : List Mark} (h : s.Stage log) (hcalls : s.transport.calls = [])
    (id : ConnectionId) (event : Transport.Event) (now : Instant) (timers : Timers) :
    (s.handleEvent id event now timers).1.Stage
      ((s.handleEvent id event now timers).1.journal (.heard id event :: log)) := by
  have hjournal : ∀ base, s.journal base = base := fun base => by rw [journal, hcalls]; rfl
  have hagrees : s.Agrees (s.journal (.heard id event :: log)) :=
    hjournal _ ▸ h.toAgrees.note trivial rfl
  have hstage : (∀ c, s.connection = some c → ¬ (Mark.heard id event).Ends c.id) →
      s.Stage (s.journal (.heard id event :: log)) :=
    fun hends => hjournal _ ▸ h.note trivial rfl hends
  unfold handleEvent
  split
  · rename_i hcurrent
    cases event with
    | opened => exact opened_gate (hstage fun _ _ hends => hends) now timers
    | frame text =>
        refine received_gate hagrees (fun hrejected => hstage ?_) ?_ now timers
        · rintro c - ⟨-, reason, hreason⟩
          exact hrejected reason hreason
        · intro user haccepted hstate c hc
          obtain ⟨credentials, huser, hintroduced⟩ := h.authenticating hstate c hc
          rw [hc] at hcurrent
          cases hcurrent
          exact ⟨credentials, huser, [], text, user, log, hjournal _, haccepted, hintroduced, nofun⟩
    | failed reason => exact connectionFailed_gate hagrees reason now timers
    | closed => exact connectionFailed_gate hagrees _ now timers
  · rename_i hcurrent
    refine hstage fun c hc hends => hcurrent ?_
    have hid : c.id = id := by
      cases event with
      | opened => exact hends.elim
      | frame text => exact hends.1.symm
      | failed reason => exact Eq.symm hends
      | closed => exact Eq.symm hends
    rw [hc, Option.map_some, hid]

theorem openConnection_gate (h : s.Agrees (s.journal base)) (hnone : s.connection = none)
    (now : Instant) (timers : Timers) :
    (s.openConnection now timers).1.Stage ((s.openConnection now timers).1.journal base) := by
  cases hl : s.login with
  | none =>
      unfold openConnection
      rw [hl]
      exact h.stage hnone
  | some login => exact (openConnection_dialled hl now timers).gate hl h hnone

theorem heartbeat_gate (h : s.Stage (s.journal base)) (now : Instant) (timers : Timers) :
    (s.heartbeat now timers).1.Stage ((s.heartbeat now timers).1.journal base) := by
  have hsent : (s.sendFrame .ping).2.Stage ((s.sendFrame .ping).2.journal base) :=
    sendFrame_gate h rfl
  unfold heartbeat
  generalize s.sendFrame .ping = answer at hsent
  obtain ⟨_ | ⟨⟩, sent⟩ := answer
  · exact connectionFailed_gate hsent.toAgrees _ now timers
  · exact hsent

/-- **A deadline that has passed** is not noted, but what the session does then is. -/
theorem handleTimer_gate (h : s.Stage (s.journal base)) (key : Timer.Key) (now : Instant)
    (timers : Timers) {answer : Session (Recorded τ) × Timers}
    (hanswer : s.handleTimer key now timers = some answer) :
    answer.1.Stage (answer.1.journal base) := by
  cases key with
  | handshake =>
      cases hanswer
      split
      · exact connectionFailed_gate h.toAgrees _ now timers
      · exact h
  | reconnect =>
      cases hanswer
      split
      · rename_i hstate
        refine openConnection_gate h.toAgrees ?_ now timers
        rw [← Option.not_isSome_iff_eq_none]
        intro hsome
        rcases h.held hsome with hx | hx | hx <;> rw [hstate] at hx <;> cases hx
      · exact h
  | heartbeat =>
      cases hanswer
      split
      · exact heartbeat_gate h now timers
      · exact h
  | liveness =>
      cases hanswer
      split
      · exact connectionFailed_gate h.toAgrees _ now timers
      · exact h
  | action _ | typingSweep | localTyping _ => cases hanswer

/-- **Somebody is logged in**, which is noted in the journal first. -/
theorem connect_gate {log : List Mark} (h : s.Stage log) (hcalls : s.transport.calls = [])
    (credentials : Credentials) (now : Instant) (timers : Timers)
    {answer : Session (Recorded τ) × Timers}
    (hanswer : s.connect credentials now timers = .ok answer) :
    answer.1.Stage (answer.1.journal (.began credentials :: log)) := by
  unfold connect at hanswer
  split at hanswer
  · cases hanswer
  · rename_i hlive
    cases hanswer
    refine openConnection_gate ?_ ?_ now timers
    · rw [journal, hcalls]
      exact ⟨.mute trivial h.gated, fun id hid => (h.below id hid).cons trivial, rfl⟩
    · rw [← Option.not_isSome_iff_eq_none]
      intro hsome
      rcases h.held hsome with hx | hx | hx <;> rw [hx] at hlive <;> exact hlive rfl

/-- **The user logs out**, which is noted in the journal first. -/
theorem logout_gate {log : List Mark} (h : s.Stage log) (hcalls : s.transport.calls = [])
    (timers : Timers) :
    (s.logout timers).1.Stage ((s.logout timers).1.journal (.ended :: log)) := by
  have hdrop : Agrees { s.dropConnection with login := none, failures := 0 }
      (s.dropConnection.journal (.ended :: log)) := by
    rw [dropConnection_eq, journal]
    cases s.connection with
    | none =>
        rw [hcalls]
        exact ⟨.mute trivial h.gated, fun id hid => (h.below id hid).cons trivial, rfl⟩
    | some c =>
        show Agrees _ ((Call.closed c.id :: s.transport.calls).map .did ++ _)
        rw [hcalls]
        exact ⟨.mute trivial (.mute trivial h.gated),
          fun id hid => ((h.below id hid).cons (x := .ended) trivial).cons trivial, rfl⟩
  have hnone : s.dropConnection.connection = none := by rw [dropConnection_eq]
  obtain ⟨signals, heq⟩ := ({ s.dropConnection with login := none, failures := 0 } :
    Session (Recorded τ)).transition_eq .disconnected
  unfold logout
  dsimp only
  rw [heq]
  exact Agrees.stage (hdrop.of_eq rfl rfl) hnone

end Parts

/-! ## 5. Reading the journal -/

/-- The frames that were sent on a connection, oldest first. -/
def written (id : ConnectionId) (log : List Mark) : List Outgoing :=
  log.reverse.filterMap fun
    | .did (.sent id' frame true) => if id' = id then some frame else none
    | _ => none

section Reading

variable {id : ConnectionId} {log : List Mark}

theorem written_cons (id : ConnectionId) (x : Mark) (log : List Mark) :
    written id (x :: log) = written id log ++ written id [x] := by
  simp [written, List.filterMap_append]

theorem written_mute {x : Mark} (hx : x.Mute) : written id [x] = [] := by
  cases x with
  | did call =>
      cases call with
      | sent _ _ _ => exact hx.elim
      | opened _ _ | closed _ => rfl
  | heard _ _ | began _ | ended => rfl

theorem written_sent (id' : ConnectionId) (frame : Outgoing) (ok : Bool) :
    written id [.did (.sent id' frame ok)] = if id' = id ∧ ok = true then [frame] else [] := by
  cases ok with
  | false => simp [written]
  | true => by_cases hid : id' = id <;> simp [written, hid]

theorem mem_written {frame : Outgoing} :
    frame ∈ written id log ↔ .did (.sent id frame true) ∈ log := by
  simp only [written, List.mem_filterMap, List.mem_reverse]
  constructor
  · rintro ⟨x, hx, heq⟩
    split at heq
    · split at heq
      · rename_i hid
        cases heq
        exact hid ▸ hx
      · cases heq
    · cases heq
  · exact fun hmem => ⟨_, hmem, if_pos rfl⟩

theorem Silent.written (h : Silent id log) : written id log = [] := by
  rw [List.eq_nil_iff_forall_not_mem]
  exact fun frame hmem => h frame true (mem_written.mp hmem)

/-- **On each connection the introduction is sent first and once.** -/
theorem Gated.written_eq (h : Gated log) (id : ConnectionId) : written id log = [] ∨
    ∃ c rest, written id log = Credentials.introduction c :: rest ∧
      ∀ frame ∈ rest, frame.introduces = false := by
  induction h with
  | nil => exact .inl rfl
  | mute hx _ ih =>
      rw [written_cons, written_mute hx, List.append_nil]
      exact ih
  | @introduction id' c ok log hfirst hc _ ih =>
      rw [written_cons, written_sent]
      split
      · rename_i hid
        rw [← hid.1, hfirst.written]
        exact .inr ⟨c, [], rfl, nofun⟩
      · rw [List.append_nil]
        exact ih
  | @other id' c frame ok log hframe hc hadmitted _ ih =>
      rw [written_cons, written_sent]
      split
      · rename_i hid
        obtain ⟨rfl, -⟩ := hid
        -- there is an introduction, so it stands in front
        have hsome : written id' log ≠ [] := by
          obtain ⟨since, text, user, older, rfl, -, ⟨since', older', rfl, -⟩, -⟩ := hadmitted
          refine List.ne_nil_of_mem (a := c.introduction) (mem_written.mpr ?_)
          simp
        rcases ih with hnone | ⟨c', rest, hwritten, hrest⟩
        · exact absurd hnone hsome
        · refine .inr ⟨c', rest ++ [frame], by rw [hwritten]; rfl, fun frame' hmem => ?_⟩
          rcases List.mem_append.mp hmem with hmem | hmem
          · exact hrest frame' hmem
          · rw [List.mem_singleton.mp hmem]
            exact hframe
      · rw [List.append_nil]
        exact ih

theorem Gated.behind {newer older : List Mark} (h : Gated (newer ++ older)) : Gated older := by
  induction newer with
  | nil => exact h
  | cons x rest ih =>
      refine ih ?_
      cases h with
      | mute hx h => exact h
      | introduction hfirst hc h => exact h
      | other hframe hc hadmitted h => exact h

end Reading

/-! ## 6. What is not listened to -/

/-- The signal tells of no frame, and of no state in which the session is active. -/
def Signal.Idle : Signal → Prop
  | .stateChanged before after => before ≠ .active ∧ after ≠ .active
  | .inbound _ => False
  | _ => True

section Idle

variable {s : Session σ}

theorem takeSignals_quiet (h : s.signals = []) : s.takeSignals = ([], s) := by
  obtain ⟨plan, transport, state, login, connection, next, failures, activations, entropy, _⟩ := s
  cases h
  rfl

theorem transition_idle (h : ∀ x ∈ s.signals, x.Idle) {next : State} (hbefore : s.state ≠ .active)
    (hafter : next ≠ .active) : ∀ x ∈ (s.transition next).signals, x.Idle := by
  unfold transition
  split
  · exact h
  · intro x hx
    rcases List.mem_append.mp hx with hx | hx
    · exact h x hx
    · rw [List.mem_singleton.mp hx]
      exact ⟨hbefore, hafter⟩

/-- A text tells of nothing while the session is not active and does not become so. -/
theorem received_idle [Transport σ] (htold : s.signals = []) (hstate : s.state ≠ .active)
    {text : String} (haccepted : s.state = .authenticating →
      ∀ user, Incoming.decode text ≠ .ok (.authAccepted user))
    (id : ConnectionId) (now : Instant) (timers : Timers) :
    ∀ x ∈ (s.received id text now timers).1.signals, x.Idle := by
  have hnone : ∀ x ∈ s.signals, x.Idle := by simp [htold]
  unfold received
  dsimp only
  cases hdecode : Incoming.decode text with
  | error fault => simp [signal, htold, Signal.Idle]
  | ok frame =>
      cases frame with
      | authAccepted user =>
          dsimp only
          rw [if_neg fun hs => haccepted hs user hdecode]
          exact hnone
      | authRejected reason =>
          dsimp only [rejected]
          rw [dropConnection_eq]
          refine transition_idle ?_ hstate (by decide)
          simp [signal, htold, Signal.Idle]
      | pong => exact hnone
      | ack _ | event _ | error _ _ | unknown _ =>
          dsimp only
          rw [if_neg hstate]
          exact hnone

end Idle

end Session

end RealtimeChat
