import RealtimeChat.Proofs.Engine.Gate
/-!
# No text of the server breaks a connection

A text that arrives on the current connection can be anything. It may be an answer, an event or an
error, and then a lot follows from it: actions are settled, messages are routed and stored, and
more actions are sent. It may also be nothing that can be read. In no case is the connection given
up for it, unless it says that the user is rejected.

* `Session.afterFrame` -- the session after a text that does not reject the user;
* `Session.Relays` -- a session through which frames of actions were sent;
* `Steadfast` -- what follows from a text leaves the session alone, but for these frames;
* `afterMalformed` -- the core after a text that cannot be read;
* `Endures`, **`run_endures`** -- what any text does to a client.
-/

namespace RealtimeChat

open Transport (Recorded)

variable {τ : Type}

/-! ## 1. What the session makes of a text -/

namespace Session

/-- The text says that the user is rejected. -/
def rejects (text : String) : Bool :=
  match Incoming.decode text with
  | .ok (.authRejected _) => true
  | _ => false

/-- The text says that the user is accepted, and the session waits for that. -/
def admits (s : Session τ) (text : String) : Bool :=
  match Incoming.decode text with
  | .ok (.authAccepted _) => s.state = .authenticating
  | _ => false

/-- The session after a text on its connection that does not reject the user, when it has told what
there is to tell. -/
def afterFrame (s : Session τ) (c : Connection) (text : String) (now : Instant) : Session τ :=
  { s with
    connection := some { c with lastActivity := now }
    state := if s.admits text then .active else s.state
    failures := if s.admits text then 0 else s.failures
    activations := if s.admits text then s.activations + 1 else s.activations
    signals := [] }

section Received

variable {s : Session τ} {c : Connection} {text : String}

variable [Transport τ] (now : Instant) (timers : Timers)

theorem handleEvent_frame (hc : s.connection = some c) :
    s.handleEvent c.id (.frame text) now timers = s.received c.id text now timers := by
  have hid : s.connection.map (·.id) = some c.id := by rw [hc, Option.map_some]
  rw [handleEvent, if_pos hid]

theorem deadline?_heard (active : Prop) [Decidable active] (deadline : Instant) :
    (if active then timers.schedule .liveness deadline else timers).deadline? .reconnect =
      timers.deadline? .reconnect := by
  split
  · rw [Timers.deadline?_schedule, if_neg (by decide)]
  · rfl

/-- A text that does not reject the user concerns the connection's time, and if it accepts the user
the state and the counters; it does not touch the deadline for the next connection. -/
theorem received_takeSignals (hc : s.connection = some c) (htext : rejects text = false) :
    (s.received c.id text now timers).1.takeSignals.2 = s.afterFrame c text now ∧
      (s.received c.id text now timers).2.deadline? .reconnect = timers.deadline? .reconnect := by
  have hheard := deadline?_heard timers (s.state = .active) (now + s.plan.heartbeatTimeout)
  unfold received afterFrame admits
  rw [hc, Option.map_some]
  unfold rejects at htext
  cases hdecode : Incoming.decode text with
  | error fault => exact ⟨rfl, hheard⟩
  | ok frame =>
      rw [hdecode] at htext
      cases frame with
      | authRejected reason => cases htext
      | authAccepted user =>
          dsimp only
          by_cases hstate : s.state = .authenticating
          · obtain ⟨signals, htransition⟩ := transition_eq
              { s with
                connection := some { c with lastActivity := now }
                failures := 0, activations := s.activations + 1 } .active
            rw [if_pos hstate, activate, htransition]
            refine ⟨by simp [takeSignals, hstate], ?_⟩
            rw [Timers.deadline?_schedule, if_neg (by decide), Timers.deadline?_schedule,
              if_neg (by decide), Timers.deadline?_cancel, if_neg (by decide)]
            exact hheard
          · rw [if_neg hstate]
            exact ⟨by simp [takeSignals, hstate], hheard⟩
      | pong => exact ⟨rfl, hheard⟩
      | ack _ | event _ | error _ _ | unknown _ =>
          refine ⟨?_, hheard⟩
          dsimp only
          split <;> rfl

theorem received_rejected (htext : rejects text = true) (id : ConnectionId) :
    (s.received id text now timers).1.state = .failed := by
  unfold rejects at htext
  split at htext
  · rename_i reason hdecode
    unfold received
    rw [hdecode]
    dsimp only [rejected]
    obtain ⟨signals, htransition⟩ := transition_eq (({ s with
      connection := s.connection.map ({ · with lastActivity := now }) } :
        Session τ).dropConnection.signal (.authRejected reason)) .failed
    rw [htransition]
  · cases htext

end Received

/-! ## 2. Frames of actions -/

variable [Transport τ]

/-- A session through which frames of actions were sent. -/
def Relays : Session τ → Session τ → Prop :=
  Relation.ReflTransGen fun s s' => ∃ a : Action, s' = (s.sendFrame a.frame).2

/-- That changes the transport only. -/
theorem Relays.eq {s s' : Session τ} (h : Relays s s') :
    ∃ transport, s' = { s with transport } := by
  induction h with
  | refl => exact ⟨s.transport, rfl⟩
  | tail _ hsend ih =>
      obtain ⟨transport, rfl⟩ := ih
      obtain ⟨a, rfl⟩ := hsend
      exact sendFrame_eq { s with transport } a.frame

/-- What it does with the transport is sending on the current connection. -/
theorem Relays.calls {s s' : Session (Recorded τ)} (h : Relays s s') {c : Connection}
    (hc : s.connection = some c) :
    ∃ sent, s'.transport.calls = sent ++ s.transport.calls ∧
      ∀ call ∈ sent, ∃ frame ok, call = .sent c.id frame ok := by
  induction h with
  | refl => exact ⟨[], rfl, nofun⟩
  | tail hrelays hsend ih =>
      obtain ⟨sent, hcalls, hsent⟩ := ih
      obtain ⟨transport, rfl⟩ := Relays.eq hrelays
      obtain ⟨a, rfl⟩ := hsend
      dsimp only at hcalls
      unfold sendFrame
      dsimp only
      rw [hc]
      dsimp only
      split
      · cases hresult : Transport.send transport c.id a.frame with
        | mk result transport' =>
            refine ⟨.sent c.id a.frame result.isOk :: sent, ?_, ?_⟩
            · rw [List.cons_append, ← hcalls]
              exact Transport.calls_send hresult
            · exact List.forall_mem_cons.mpr ⟨⟨a.frame, _, rfl⟩, hsent⟩
      · exact ⟨sent, hcalls, hsent⟩

end Session

/-! ## 3. Deadlines of actions -/

namespace Outbox

open Timers (SameBut)

/-- A flush arms deadlines of actions only, whatever is in flight before. -/
theorem flush_sameBut {σ : Type} (send : σ → Outgoing → Except SendFault Unit × σ) (o : Outbox)
    (sink : σ) (now : Instant) (t : Timers) :
    SameBut .outbox t (o.flush send sink now t).2.2.2 := by
  refine walk_flush_rule (P := fun _ (f : Flush σ) => SameBut .outbox t f.timers) ?_ ?_ ?_ o.chats
    ⟨sink, t, 0, [], false⟩ (.refl _ t)
  · exact fun _ _ h => h
  · exact fun {_ f _ a _ _} _ _ _ _ h => h.trans (SameBut.schedule f.timers (.action a.id) _)
  · exact fun _ _ _ _ h => h

theorem acknowledge_sameBut (o : Outbox) (t : Timers) (ack : Ack) :
    SameBut .outbox t (o.acknowledge t ack).2.2 := by
  unfold acknowledge
  split
  · exact .refl _ t
  · rename_i a _ _
    exact SameBut.cancel t (.action a.id)

end Outbox

/-! ## 4. What follows from a text -/

namespace Engine

open Session (Connection)
open Timers (SameBut)

/-- A part of an input that leaves the session and its deadlines alone, but for the frames of
actions that are sent. -/
structure Steadfast [Transport τ] (e e' : Engine τ) : Prop where
  session : e.session.Relays e'.session
  timers : ∀ key : Timer.Key, key.owner = .session →
    e'.timers.deadline? key = e.timers.deadline? key

section Steadfast

variable [Transport τ] {e e' e'' : Engine τ}

theorem Steadfast.of_eq (hs : e'.session = e.session) (ht : e'.timers = e.timers) :
    Steadfast e e' :=
  ⟨hs ▸ .refl, fun _ _ => ht ▸ rfl⟩

theorem Steadfast.of_sameBut (hs : e'.session = e.session) (owner : Timer.Owner)
    (howner : owner ≠ .session) (ht : SameBut owner e.timers e'.timers) : Steadfast e e' :=
  ⟨hs ▸ .refl, fun key hkey => ht key (hkey.trans_ne howner.symm)⟩

theorem Steadfast.trans (h : Steadfast e e') (h' : Steadfast e' e'') : Steadfast e e'' :=
  ⟨Relation.ReflTransGen.trans h.session h'.session,
    fun key hkey => (h'.timers key hkey).trans (h.timers key hkey)⟩

theorem publishSettled_steadfast (e : Engine τ) : Steadfast e e.publishSettled := by
  obtain ⟨store, heq⟩ := e.publishSettled_eq
  rw [heq]
  exact .of_eq rfl rfl

theorem deliver_steadfast (e : Engine τ) (event : Event) (now : Instant) :
    Steadfast e (e.deliver event now).2 := by
  -- nothing is claimed about the sweep here, so it may count as owed
  have howed : e.router.Clocked e.timers [.typingSweep] := fun h => absurd List.mem_cons_self h
  have htimers : (e.deliver event now).2.timers = (e.router.dispatch event now e.timers).2.2 := by
    unfold deliver
    dsimp only
    repeat' split
    all_goals rfl
  exact .of_sameBut (e.deliver_session event now) .router (by decide)
    (htimers ▸ (Router.dispatch_clocked howed event now).2)

theorem flush_steadfast (e : Engine τ) (now : Instant) : Steadfast e (e.flush now) := by
  unfold flush
  split
  · have hsession := Outbox.flush_sink Session.sendFrame (Q := e.session.Relays)
      (fun _ a h => h.tail ⟨a, rfl⟩) e.outbox .refl now e.timers
    have htimers := Outbox.flush_sameBut Session.sendFrame e.outbox e.session now e.timers
    exact ⟨hsession, fun key hkey => htimers key (hkey.trans_ne (by decide))⟩
  · exact .of_eq rfl rfl

theorem disconnect_steadfast (e : Engine τ) : Steadfast e { e with
    outbox := (e.outbox.disconnect e.timers).1, timers := (e.outbox.disconnect e.timers).2 } :=
  .of_sameBut rfl .outbox (by decide)
    (SameBut.foldl_cancel Timer.Key.action (fun _ => rfl) _ e.timers)

theorem handleInbound_steadfast (e : Engine τ) (frame : Incoming) (now : Instant) :
    Steadfast e (e.handleInbound frame now) := by
  cases frame with
  | ack ack =>
      have hacked : Steadfast e { e with
          outbox := (e.outbox.acknowledge e.timers ack).2.1
          timers := (e.outbox.acknowledge e.timers ack).2.2 } :=
        .of_sameBut rfl .outbox (by decide)
          (e.outbox.acknowledge_sameBut e.timers ack)
      simp only [handleInbound]
      split
      · exact hacked.trans (flush_steadfast _ now)
      · exact hacked
  | event event => exact deliver_steadfast e event now
  | _ => exact .of_eq rfl rfl

theorem handleSignal_steadfast (e : Engine τ) (x : Session.Signal) (now : Instant) :
    Steadfast e (e.handleSignal x now) := by
  cases x with
  | stateChanged before after =>
      refine handleStateChange_rule (P := Steadfast e) (.of_eq rfl rfl)
        (fun e' h => h.trans (disconnect_steadfast e')) (fun e' h => ?_)
        fun e' h => h.trans (flush_steadfast e' now)
      obtain ⟨historyRequests, hasked⟩ := e'.requestResync_eq
      exact h.trans (hasked ▸ .of_eq rfl rfl)
  | inbound frame => exact handleInbound_steadfast e frame now
  | _ => exact .of_eq rfl rfl

/-- **Whatever the session tells**, what follows leaves it alone. -/
theorem processSignals_steadfast (e : Engine τ) (now : Instant) :
    Steadfast { e with session := e.session.takeSignals.2 } (e.processSignals now) := by
  have along : ∀ (signals : List Session.Signal) (e : Engine τ),
      Steadfast e (signals.foldl (fun e x => handleSignal e x now) e) := by
    intro signals
    induction signals with
    | nil => exact fun e => .of_eq rfl rfl
    | cons x rest ih => exact fun e => (handleSignal_steadfast e x now).trans (ih _)
  exact (along e.session.signals _).trans (publishSettled_steadfast _)

end Steadfast

/-! ## 5. Any text -/

/-- The core after a text that cannot be read: that is published, and the server is alive. -/
def afterMalformed (e : Engine τ) (c : Connection) (fault : Incoming.Fault) (now : Instant) :
    Engine τ :=
  { e with
    session := { e.session with connection := some { c with lastActivity := now } }
    timers := if e.session.state = .active then
        e.timers.schedule .liveness (now + e.session.plan.heartbeatTimeout)
      else e.timers
    notices := e.notices.publish (.malformedFrame fault.message) }

/-- What any text on the current connection does to a client. -/
structure Endures [Transport τ] (e : Engine τ) (c : Connection) (text : String) (now : Instant) :
    Prop where
  /-- Only a text that says that the user is rejected ends the session. -/
  rejected : Session.rejects text = true →
    (e.step (.event c.id (.frame text) now)).session.state = .failed
  /-- Otherwise the connection stays, and so do the state and the counters, unless the text accepts
  a user who waits for that. -/
  kept : Session.rejects text = false → ∃ transport,
    (e.step (.event c.id (.frame text) now)).session =
      { e.session.afterFrame c text now with transport }
  reconnect : Session.rejects text = false →
    (e.step (.event c.id (.frame text) now)).timers.deadline? .reconnect =
      e.timers.deadline? .reconnect
  /-- All that is done with the transport is sending on this connection. -/
  called : Session.rejects text = false → ∀ call ∈ e.called (.event c.id (.frame text) now),
    ∃ frame ok, call = .sent c.id frame ok
  /-- A text that cannot be read has no other effects than these, and nothing is sent for it. -/
  malformed : ∀ fault, Incoming.decode text = .error fault →
    e.step (.event c.id (.frame text) now) = e.afterMalformed c fault now ∧
      e.called (.event c.id (.frame text) now) = []

section Endures

variable [Transport τ] {e : Engine τ} {c : Connection} {text : String}

/-- The session and its deadlines are what the session made of the text, but for frames of
actions. -/
theorem handleFrame_steadfast (hc : e.session.connection = some c) (text : String) (now : Instant) :
    Steadfast { e with
      session := (e.session.received c.id text now e.timers).1.takeSignals.2
      timers := (e.session.received c.id text now e.timers).2 }
      (e.step (.event c.id (.frame text) now)) := by
  have hreceived : e.session.handleEvent c.id (.frame text) now e.timers = _ :=
    Session.handleEvent_frame now e.timers hc
  show Steadfast _ (e.handleEvent c.id (.frame text) now)
  unfold handleEvent
  rw [hreceived]
  exact processSignals_steadfast { e with
    session := (e.session.received c.id text now e.timers).1
    timers := (e.session.received c.id text now e.timers).2 } now

theorem handleFrame_calls (hc : e.session.connection = some c)
    (htext : Session.rejects text = false) (now : Instant) :
    ∀ call ∈ e.called (.event c.id (.frame text) now), ∃ frame ok, call = .sent c.id frame ok := by
  have hrecorded : e.onRecord.session.connection = some c := hc
  have hrelays := (handleFrame_steadfast hrecorded text now).session
  dsimp only at hrelays
  rw [(Session.received_takeSignals now e.onRecord.timers hrecorded htext).1] at hrelays
  obtain ⟨sent, hcalls, hsent⟩ := hrelays.calls rfl
  have hcalled : e.called (.event c.id (.frame text) now) = sent :=
    hcalls.trans (List.append_nil sent)
  rw [hcalled]
  exact hsent

theorem handleFrame_malformed (hc : e.session.connection = some c)
    (htold : e.session.signals = []) (hempty : e.outbox.settled = []) {fault : Incoming.Fault}
    (hdecode : Incoming.decode text = .error fault) (now : Instant) :
    e.step (.event c.id (.frame text) now) = e.afterMalformed c fault now := by
  have hreceived : e.session.handleEvent c.id (.frame text) now e.timers =
      ({ e.session with
          connection := some { c with lastActivity := now }
          signals := [.malformed c.id fault] },
        if e.session.state = .active then
          e.timers.schedule .liveness (now + e.session.plan.heartbeatTimeout)
        else e.timers) := by
    rw [Session.handleEvent_frame now e.timers hc]
    unfold Session.received
    rw [hdecode, hc]
    dsimp only [Session.signal, Option.map_some]
    rw [htold, List.nil_append]
  have htaken : e.afterMalformed c fault now = { e.afterMalformed c fault now with
      session := (e.afterMalformed c fault now).session.takeSignals.2 } := by
    rw [Session.takeSignals_quiet (s := (e.afterMalformed c fault now).session) htold]
  show e.handleEvent c.id (.frame text) now = _
  unfold handleEvent
  rw [hreceived, htaken]
  exact publishSettled_quiet hempty

theorem handleFrame_endures (hc : e.session.connection = some c)
    (htold : e.session.signals = []) (hempty : e.outbox.settled = []) (text : String)
    (now : Instant) : e.Endures c text now := by
  have hsteadfast := handleFrame_steadfast hc text now
  obtain ⟨transport, hsession⟩ := hsteadfast.session.eq
  refine ⟨fun htext => ?_, fun htext => ⟨transport, hsession.trans ?_⟩, fun htext => ?_,
    fun htext => handleFrame_calls hc htext now,
    fun fault hdecode => ⟨handleFrame_malformed hc htold hempty hdecode now, ?_⟩⟩
  · rw [hsession]
    exact Session.received_rejected now e.timers htext c.id
  · dsimp only
    rw [(Session.received_takeSignals now e.timers hc htext).1]
  · exact (hsteadfast.timers .reconnect rfl).trans
      (Session.received_takeSignals now e.timers hc htext).2
  · -- the core on record starts with an empty record, and it is left as it was
    have hrecorded : e.onRecord.session.connection = some c := hc
    exact congrArg (·.session.transport.calls)
      (handleFrame_malformed hrecorded htold hempty hdecode now)

/-- While there is a connection, no other one is to be opened. -/
theorem reconnect_unarmed (h : e.Clocked []) (hc : e.session.connection = some c) :
    e.timers.deadline? .reconnect = none := by
  have hconnected : e.session.state.Connected := h.session.held.mp (by rw [hc]; rfl)
  have hstate : e.session.state ≠ .reconnecting := fun heq => by
    rw [heq] at hconnected
    simp [Session.State.Connected] at hconnected
  have hunarmed := h.punctual.reconnect.not.mpr hstate
  rwa [Timers.isScheduled, Bool.not_eq_true, Option.isSome_eq_false_iff,
    Option.isNone_iff_eq_none] at hunarmed

end Endures

/-- **In every run, whatever text arrives on the current connection**, only one that says that the
user is rejected ends the session; no other text gives up the connection or opens another, and one
that cannot be read leaves all else as it is. There is no deadline for another connection while
there is this one. -/
theorem run_endures [Transport τ] {e₀ : Engine τ} (he : e₀.Fresh) (inputs : List (Input τ))
    {c : Connection} (hc : (e₀.run inputs).session.connection = some c) (text : String)
    (now : Instant) :
    (e₀.run inputs).Endures c text now ∧
      ((∀ i ∈ inputs, i.Proper) → (e₀.run inputs).timers.deadline? .reconnect = none) :=
  ⟨handleFrame_endures hc (run_told he.told inputs) (run_quiet he.quiet inputs).empty text now,
    fun hinputs => reconnect_unarmed (run_clocked he.clocked inputs hinputs) hc⟩

/-- A text that is not JSON arrives on a connection of an active session. -/
theorem run_endures_noise : ∃ e : Engine MemoryTransport, e.Fresh ∧
    let inputs := [.connect ⟨"u1", "t1"⟩ 0, .event 1 .opened 1,
      .event 1 (.frame "\x7b\"type\": \"auth_ok\"\x7d") 2]
    ∃ c, (e.run inputs).session.connection = some c ∧
      (e.run inputs).session.state = .active ∧
      (Incoming.decode "not json").toOption = none ∧
      (e.run inputs).Endures c "not json" 3 ∧
      (e.run inputs).timers.deadline? .reconnect = none := by
  let inputs : List (Input MemoryTransport) := [.connect ⟨"u1", "t1"⟩ 0, .event 1 .opened 1,
    .event 1 (.frame "\x7b\"type\": \"auth_ok\"\x7d") 2]
  obtain ⟨e, he, hc, hactive⟩ := exists_fresh_of (fun e =>
    (e.run inputs).session.connection = some ⟨1, .open, 0, 2⟩ ∧
      (e.run inputs).session.state = .active) (by decide +kernel)
  have hendures := run_endures he inputs hc "not json" 3
  exact ⟨e, he, _, hc, hactive, by decide +kernel, hendures.1,
    hendures.2 (by simp [inputs, Input.Proper])⟩

end Engine

end RealtimeChat
