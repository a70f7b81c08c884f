import RealtimeChat.Proofs.Engine.Gate
import RealtimeChat.Proofs.Engine.Settling
import RealtimeChat.Proofs.Outbox.Provenance
import RealtimeChat.Proofs.Session.Transport
/-!
# What the outbox writes is what the transport takes

The outbox has a record of the frames that it wrote, and the journal of a run says which frames of
actions the transport took. Both name the same frames, in the same order: a session passes on the
frames that it is given, and what it says by itself is about no action.

* `Transport.Call.frame?`, `Session.Mark.frame?` -- the frame of an action that was taken;
* `framesOf_onRecord` -- a flush writes what the transport takes meanwhile;
* `Transmits` -- a part of an input does operations that write what the transport takes;
* **`step_transmits`**, **`journal_frames`** -- every input does, and so every run.
-/

namespace RealtimeChat

open Transport (Call Recorded)

/-- The frame of an action, if the transport took one. -/
def Transport.Call.frame? : Call → Option Outgoing
  | .sent _ frame true => if frame.actionId?.isSome then some frame else none
  | _ => none

/-- The frames of actions that the transport took, the newest in front. -/
def Transport.frames (calls : List Call) : List Outgoing := calls.filterMap Call.frame?

/-- The frame of an action, if the transport took one. -/
def Session.Mark.frame? : Session.Mark → Option Outgoing
  | .did call => call.frame?
  | _ => none

/-! ## 1. Frames that are written and taken -/

namespace Session

variable {τ : Type} [Transport τ]

/-- A frame that is about no action. -/
theorem frames_send (t : Recorded τ) (id : ConnectionId) {frame : Outgoing}
    (h : frame.actionId? = none) :
    Transport.frames (Transport.send t id frame).2.calls = Transport.frames t.calls := by
  cases hsend : Transport.send t id frame with
  | mk result t' =>
      have hcalls := Transport.calls_send hsend
      have hnone : (Call.sent id frame result.isOk).frame? = none := by
        cases result with
        | ok _ => exact if_neg (by simp [h])
        | error fault => rfl
      dsimp only
      rw [hcalls]
      exact List.filterMap_cons_none hnone

/-- What a session says by itself is about no action. -/
theorem frames_spoken (taken : List Outgoing) :
    Spoken fun t : Recorded τ => Transport.frames t.calls = taken where
  opened _ _ _ h := h
  closed _ h := h
  introduced id _ _ h := (frames_send _ id rfl).trans h
  alive id h := (frames_send _ id rfl).trans h

/-- The frame of an action is taken, or refused. -/
theorem frames_sendFrame (s : Session (Recorded τ)) (a : Action) :
    Transport.frames (s.sendFrame a.frame).2.transport.calls =
      match (s.sendFrame a.frame).1 with
      | .ok _ => a.frame :: Transport.frames s.transport.calls
      | .error _ => Transport.frames s.transport.calls := by
  unfold sendFrame
  split
  · rename_i c _
    split
    · cases hsend : Transport.send s.transport c.id a.frame with
      | mk result transport =>
          have hcalls := Transport.calls_send hsend
          dsimp only
          rw [hcalls]
          cases result with
          | ok _ =>
              have hsome : a.frame.actionId?.isSome = true := by rw [a.frame_actionId, Option.isSome]
              exact List.filterMap_cons_some (if_pos hsome)
          | error fault => rfl
    · rfl
  · rfl

end Session

namespace Outbox

/-- **A flush writes what the transport takes meanwhile.** -/
theorem framesOf_onRecord {τ : Type} [Transport τ] (o : Outbox) (s : Session (Recorded τ))
    (now : Instant) (timers : Timers) :
    Transport.frames (o.flush Session.sendFrame s now timers).2.2.1.transport.calls =
      o.framesOf Session.sendFrame s.bare now timers ++ Transport.frames s.transport.calls := by
  have hseen : Seen Session.sendFrame (Session.sendFrame (τ := Recorded τ)) Session.bare :=
    Session.sendFrame_bare
  rw [framesOf_seen hseen, framesOf, flush_recorded]
  refine flush_sink (recorded Session.sendFrame)
    (Q := fun sink : Session (Recorded τ) × List Outgoing =>
      Transport.frames sink.1.transport.calls = sink.2 ++ Transport.frames s.transport.calls)
    (fun sink a h => ?_) o rfl now timers
  have hframes := sink.1.frames_sendFrame a
  cases hsend : Session.sendFrame sink.1 a.frame with
  | mk result sent =>
      rw [hsend] at hframes
      cases result with
      | ok _ =>
          rw [recorded_ok hsend]
          exact hframes.trans (congrArg (a.frame :: ·) h)
      | error fault =>
          rw [recorded_error hsend]
          exact hframes.trans h

end Outbox

namespace Engine

open Outbox (Operation Run)

variable {τ : Type}

/-! ## 2. Parts of inputs -/

/-- A part of an input does these operations on the outbox, and the frames that they write are those
that the transport takes. -/
structure Transmits (e : Engine (Recorded τ)) (ops : List Operation) (e' : Engine (Recorded τ)) :
    Prop where
  outbox : e'.outbox = ((Run.start e.outbox e.timers).performAll ops).outbox
  frames : Transport.frames e'.session.transport.calls =
    Outbox.frames ((Run.start e.outbox e.timers).performAll ops).log ++
      Transport.frames e.session.transport.calls

namespace Transmits

variable {e e' e'' : Engine (Recorded τ)}

/-- The outbox is not touched, and nothing is taken of an action. -/
theorem still (ho : e'.outbox = e.outbox) (hf : Transport.frames e'.session.transport.calls =
    Transport.frames e.session.transport.calls) : Transmits e [] e' := ⟨ho, hf⟩

theorem refl (e : Engine (Recorded τ)) : Transmits e [] e := still rfl rfl

/-- One operation that writes nothing. -/
theorem operate {op : Operation} (hop : op.isFlush = false)
    (ho : e'.outbox = ((Run.start e.outbox e.timers).perform op).outbox)
    (hs : e'.session = e.session) : Transmits e [op] e' := by
  refine ⟨ho, ?_⟩
  show _ = Outbox.frames ((Run.start e.outbox e.timers).perform op).log ++ _
  rw [Outbox.frames_perform _ hop, hs]
  rfl

theorem trans {ops ops' : List Operation} (h : Transmits e ops e') (h' : Transmits e' ops' e'') :
    Transmits e (ops ++ ops') e'' := by
  have halike : ((Run.start e.outbox e.timers).performAll ops).Alike
      (Run.start e'.outbox e'.timers) ((Run.start e.outbox e.timers).performAll ops).log :=
    ⟨h.outbox.symm, rfl⟩
  have hsplice := halike.performAll ops'
  constructor
  · rw [Run.performAll_append, hsplice.outbox]
    exact h'.outbox
  · rw [h'.frames, h.frames, Run.performAll_append, hsplice.log, ← List.append_assoc]
    exact congrArg (· ++ _) List.filterMap_append.symm

theorem after {ops : List Operation} (h : Transmits e [] e') (h' : Transmits e' ops e'') :
    Transmits e ops e'' := h.trans h'

end Transmits

section Parts

variable (e : Engine (Recorded τ)) (now : Instant)

theorem publishSettled_transmits : Transmits e [.takeSettled] e.publishSettled := by
  obtain ⟨store, heq⟩ := e.publishSettled_eq
  rw [heq]
  exact .operate rfl rfl rfl

theorem deliver_transmits (event : Event) : Transmits e [] (e.deliver event now).2 := by
  obtain ⟨router, timers, cursors, store, heq⟩ := e.deliver_eq event now
  rw [heq]
  exact .still rfl rfl

variable [Transport τ]

theorem flush_transmits : Transmits e (e.bare.flushCalls now) (e.flush now) := by
  unfold flushCalls flush
  by_cases hactive : e.session.state = .active
  · rw [if_pos hactive, if_pos (show e.bare.session.state = .active from hactive)]
    have hbare : e.outbox.flush Session.sendFrame e.session.bare now e.timers = _ :=
      Outbox.flush_seen Session.sendFrame_bare e.outbox e.session now e.timers
    have hwritten : Outbox.frames ((Run.start e.outbox e.timers).performAll
        [.flush Session.sendFrame e.session.bare now]).log =
          e.outbox.framesOf Session.sendFrame e.session.bare now e.timers :=
      (Outbox.frames_flush _ _ now).trans (List.append_nil _)
    constructor
    · show _ = (e.outbox.flush Session.sendFrame e.session.bare now e.timers).2.1
      rw [hbare]
    · exact (Outbox.framesOf_onRecord e.outbox e.session now e.timers).trans
        (congrArg (· ++ _) hwritten.symm)
  · rw [if_neg hactive, if_neg (show ¬ e.bare.session.state = .active from hactive)]
    exact .refl e

/-! ## 3. Signals of the session -/

theorem handleInbound_transmits (frame : Incoming) :
    Transmits e (e.bare.signalCalls now (.inbound frame)) (e.handleInbound frame now) := by
  cases frame with
  | ack ack =>
      have hacked : Transmits e [.acknowledge ack] { e with
          outbox := (e.outbox.acknowledge e.timers ack).2.1
          timers := (e.outbox.acknowledge e.timers ack).2.2 } := .operate rfl rfl rfl
      have hknown : (e.bare.outbox.acknowledge e.bare.timers ack).1 =
        (e.outbox.acknowledge e.timers ack).1 := rfl
      simp only [signalCalls, handleInbound, hknown]
      split
      · exact hacked.trans (flush_transmits _ now)
      · exact hacked
  | event event => exact deliver_transmits e now event
  | error code message => exact .still rfl rfl
  | authAccepted user => exact .refl e
  | authRejected reason => exact .refl e
  | pong => exact .refl e
  | unknown kind => exact .refl e

theorem resume_transmits :
    Transmits e (e.bare.flushCalls now)
      ((if 1 < e.session.activations then e.requestResync else e).flush now) := by
  split
  · obtain ⟨historyRequests, heq⟩ := e.requestResync_eq
    rw [heq]
    have hasked : Transmits e [] { e with historyRequests } := .still rfl rfl
    exact hasked.after (flush_transmits { e with historyRequests } now)
  · exact flush_transmits e now

theorem handleStateChange_transmits (before after : Session.State) :
    Transmits e (e.bare.signalCalls now (.stateChanged before after))
      (e.handleStateChange before after now) := by
  have htold : Transmits e [] (e.publish (.stateChanged before after)) := .still rfl rfl
  unfold signalCalls handleStateChange
  by_cases hb : before = .active
  · have hlost : Transmits (e.publish (.stateChanged before after)) [.disconnect]
        { e.publish (.stateChanged before after) with
          outbox := (e.outbox.disconnect e.timers).1
          timers := (e.outbox.disconnect e.timers).2 } := .operate rfl rfl rfl
    simp only [if_pos hb]
    split
    · exact htold.after (hlost.trans (resume_transmits _ now))
    · exact htold.after hlost
  · simp only [if_neg hb]
    split
    · exact htold.after (resume_transmits _ now)
    · exact htold

theorem handleSignal_transmits (x : Session.Signal) :
    Transmits e (e.bare.signalCalls now x) (e.handleSignal x now) := by
  cases x with
  | stateChanged before after => exact handleStateChange_transmits e now before after
  | inbound frame => exact handleInbound_transmits e now frame
  | _ => exact .still rfl rfl

theorem signals_transmits (signals : List Session.Signal) :
    Transmits e (signalsCalls now e.bare signals)
      (signals.foldl (fun e x => handleSignal e x now) e) := by
  induction signals generalizing e with
  | nil => exact .refl e
  | cons x rest ih =>
      have hrest := ih (e.handleSignal x now)
      rw [← handleSignal_bare] at hrest
      exact (handleSignal_transmits e now x).trans hrest

theorem processSignals_transmits :
    Transmits e (e.bare.processCalls now) (e.processSignals now) := by
  have htaken : Transmits e [] { e with session := e.session.takeSignals.2 } := .still rfl rfl
  exact (htaken.after (signals_transmits _ now e.session.signals)).trans
    (publishSettled_transmits _)

/-! ## 4. Inputs -/

/-- The session has gone on by itself. -/
theorem processSession_transmits (r : Session (Recorded τ) × Timers)
    (h : Transport.frames r.1.transport.calls = Transport.frames e.session.transport.calls) :
    Transmits e
      ({ e.bare with
        session := (Session.barePair r).1, timers := (Session.barePair r).2 }.processCalls now)
      (processSignals { e with session := r.1, timers := r.2 } now) := by
  have hwent : Transmits e [] { e with session := r.1, timers := r.2 } := .still rfl h
  exact hwent.after (processSignals_transmits _ now)

theorem handleTimer_transmits (key : Timer.Key) :
    Transmits e (e.bare.keyCalls now key) (e.handleTimer key now) := by
  have hsession : e.bare.session.handleTimer key now e.bare.timers = _ :=
    Session.handleTimer_bare e.session now e.timers key
  unfold keyCalls handleTimer
  rw [hsession]
  cases hanswer : e.session.handleTimer key now e.timers with
  | some answer =>
      have hframes := Session.handleTimer_spoken (Session.frames_spoken _) rfl key now e.timers
        hanswer
      exact processSession_transmits e now answer hframes
  | none =>
      dsimp only [Option.map_none]
      refine Transmits.trans ?_ (publishSettled_transmits _)
      cases key with
      | action id =>
          have hexpired : Transmits e [.expire id now] { e with
              outbox := (e.outbox.expire e.timers id now).1
              timers := (e.outbox.expire e.timers id now).2 } := .operate rfl rfl rfl
          exact hexpired.trans (flush_transmits _ now)
      | localTyping chat =>
          have htyping : e.bare.localTyping = e.localTyping := rfl
          simp only [endLocalTyping, htyping]
          split
          · have hended : Transmits e [.enqueue (.new e.bare.newId.1 (.typingStop chat) now)]
                ({ e with localTyping := e.localTyping.erase chat }.enqueueNew (.typingStop chat)
                  now) := .operate rfl rfl rfl
            exact hended.trans (flush_transmits _ now)
          · exact .refl e
      | typingSweep =>
          obtain ⟨store, hsweep⟩ := e.sweepTyping_eq now
          simp only [hsweep]
          exact .still rfl rfl
      | _ => exact .refl e

theorem handleKeys_transmits (keys : List Timer.Key) :
    Transmits e (keysCalls now e.bare keys)
      (keys.foldl (fun e key => handleTimer e key now) e) := by
  induction keys generalizing e with
  | nil => exact .refl e
  | cons key rest ih =>
      have hrest := ih (e.handleTimer key now)
      rw [← handleTimer_bare] at hrest
      exact (handleTimer_transmits e now key).trans hrest

omit [Transport τ] in
theorem stopTyping_transmits (a : Action) :
    Transmits e (e.bare.stopTypingCalls a now)
      (if a.kind = .sendMessage then e.stopTyping a.chat now else e) := by
  have htyping : e.bare.localTyping = e.localTyping := rfl
  unfold stopTypingCalls stopTyping
  rw [htyping]
  by_cases hkind : a.kind = .sendMessage
  · by_cases hchat : a.chat ∈ e.localTyping
    · rw [if_pos ⟨hkind, hchat⟩, if_pos hkind, if_pos hchat]
      have hended : Transmits e [] { e with
          localTyping := e.localTyping.erase a.chat
          timers := e.timers.cancel (.localTyping a.chat) } := .still rfl rfl
      exact hended.after (.operate rfl rfl rfl)
    · rw [if_neg fun h => hchat h.2, if_pos hkind, if_neg hchat]
      exact .refl e
  · rw [if_neg fun h => hkind h.1, if_neg hkind]
    exact .refl e

theorem sending_transmits {e' : Engine (Recorded τ)} (hs : e'.session = e.session) :
    Transmits e' (e.bare.flushCalls now ++ [.takeSettled]) (e'.flush now).publishSettled := by
  have hcalls : e'.bare.flushCalls now = e.bare.flushCalls now :=
    flushCalls_congr (congrArg Session.bare hs) now
  rw [← hcalls]
  exact (flush_transmits e' now).trans (publishSettled_transmits _)

theorem submit_transmits (a : Action) :
    Transmits e (e.bare.stepCalls (.submit a now)) (e.step (.submit a now)) := by
  dsimp only [stepCalls, step, submit]
  cases a.intent.check with
  | error fault => exact .refl e
  | ok _ =>
      dsimp only
      have hstopped := stopTyping_transmits e now a
      have hsession : (if a.kind = .sendMessage then e.stopTyping a.chat now else e).session =
          e.session := by
        obtain ⟨_, _, _, _, heq⟩ := e.stopTyping_eq a now
        rw [heq]
      generalize (if a.kind = .sendMessage then e.stopTyping a.chat now else e) = stopped at *
      have hqueued : Transmits stopped [.enqueue a] ((stopped.noteChat a.chat none).enqueue a).2 :=
        .operate rfl rfl rfl
      refine hstopped.trans (hqueued.trans ?_)
      split
      · have hechoed (event : Event) : Transmits ((stopped.noteChat a.chat none).enqueue a).2 []
            (((stopped.noteChat a.chat none).enqueue a).2.toStore event) := .still rfl rfl
        exact (hechoed _).after (sending_transmits e now hsession)
      · exact sending_transmits e now hsession

theorem keystroke_transmits (chat : String) :
    Transmits e (e.bare.stepCalls (.keystroke chat now)) (e.step (.keystroke chat now)) := by
  dsimp only [stepCalls, step, keystroke]
  cases checkChat chat with
  | error fault => exact .refl e
  | ok _ =>
      dsimp only
      have hstarted : Transmits e
          (if chat ∈ e.localTyping then []
            else [.enqueue (.new e.bare.newId.1 (.typingStart chat) now)])
          (if chat ∈ e.localTyping then e
            else { e with localTyping := chat :: e.localTyping }.enqueueNew (.typingStart chat)
              now) := by
        split
        · exact .refl e
        · exact .operate rfl rfl rfl
      have hsession : (if chat ∈ e.localTyping then e
          else { e with localTyping := chat :: e.localTyping }.enqueueNew (.typingStart chat)
            now).session = e.session := by
        split <;> rfl
      generalize (if chat ∈ e.localTyping then e
        else { e with localTyping := chat :: e.localTyping }.enqueueNew (.typingStart chat)
          now) = started at *
      have harmed : Transmits started [] { started with
          timers := started.timers.schedule (.localTyping chat) (now + started.typingIdle) } :=
        .still rfl rfl
      exact hstarted.trans (harmed.after (sending_transmits e now hsession))

theorem endLogin_transmits : Transmits e [.cancelAll] e.endLogin := by
  obtain ⟨timers, hsession⟩ := e.endLogin_session
  have hcancelled : Transmits e [.cancelAll] { e with
      outbox := (e.outbox.cancelAll e.timers).1 } := .operate rfl rfl rfl
  have hended : Transmits { e with outbox := (e.outbox.cancelAll e.timers).1 } [] e.endLogin := by
    refine .still rfl ?_
    rw [hsession]
    exact Session.logout_spoken (Session.frames_spoken _) rfl timers
  exact hcancelled.trans hended

omit [Transport τ] in
theorem applyHistory_transmits (chat : String) (generation : Nat)
    (result : Except String (List Message)) :
    Transmits e [] (e.applyHistory chat generation result now) := by
  unfold applyHistory
  split
  · cases result with
    | ok messages =>
        obtain ⟨router, timers, cursors, store, heq⟩ :=
          e.deliverAll_eq (History.replay chat messages) now
        simp only [heq]
        exact .still rfl rfl
    | error reason => exact .still rfl rfl
  · exact .refl e

/-- **Every input does operations that write what the transport takes.** -/
theorem step_transmits (i : Input τ) : Transmits e (e.bare.stepCalls i) (e.step i.recorded) := by
  cases i with
  | connect credentials now =>
      have hsession : e.bare.session.connect credentials now e.bare.timers = _ :=
        Session.connect_bare e.session now e.timers credentials
      dsimp only [stepCalls, Input.recorded, step, connect]
      rw [hsession]
      cases hanswer : e.session.connect credentials now e.timers with
      | ok answer =>
          have hframes := Session.connect_spoken (Session.frames_spoken _) rfl credentials now
            e.timers hanswer
          exact processSession_transmits e now answer hframes
      | error state => exact .refl e
  | logout now =>
      have hprocessed := processSignals_transmits e.endLogin now
      rw [← endLogin_bare] at hprocessed
      exact (endLogin_transmits e).trans hprocessed
  | submit a now => exact submit_transmits e now a
  | keystroke chat now => exact keystroke_transmits e now chat
  | event connection event now =>
      have hsession : e.bare.session.handleEvent connection event now e.bare.timers = _ :=
        Session.handleEvent_bare e.session now e.timers connection event
      dsimp only [stepCalls, Input.recorded, step, handleEvent]
      rw [hsession]
      exact processSession_transmits e now _
        (Session.handleEvent_spoken (Session.frames_spoken _) rfl connection event now e.timers)
  | timers now =>
      have hdrained : Transmits e [] { e with timers := (e.timers.drain now).2 } := .still rfl rfl
      exact hdrained.after (handleKeys_transmits _ now _)
  | history chat generation result now =>
      exact applyHistory_transmits e now chat generation result
  | _ => exact .still rfl rfl

end Parts

/-! ## 5. Runs -/

/-- What an input is noted as is no frame. -/
theorem frames_announced [Transport τ] (e : Engine τ) (i : Input τ) :
    (e.announced i).filterMap Session.Mark.frame? = [] := by
  unfold announced
  repeat' split
  all_goals rfl

/-- **What the outbox writes in a run is what the transport takes of actions**, in the same
order. -/
theorem journal_frames [Transport τ] (e : Engine τ) (inputs : List (Input τ)) :
    (e.journal [] inputs).filterMap Session.Mark.frame? =
      Outbox.frames (e.queueRun inputs).log := by
  induction inputs generalizing e with
  | nil => rfl
  | cons i rest ih =>
      have hstep : Transmits e.onRecord (e.stepCalls i) (e.onRecord.step i.recorded) :=
        step_transmits e.onRecord i
      have houtbox : (e.step i).outbox =
          ((Run.start e.outbox e.timers).performAll (e.stepCalls i)).outbox := by
        rw [← step_onRecord]
        exact hstep.outbox
      have hcalled : (e.called i).filterMap Call.frame? =
          Outbox.frames ((Run.start e.outbox e.timers).performAll (e.stepCalls i)).log :=
        hstep.frames.trans (List.append_nil _)
      have hmarks : ((e.called i).map Session.Mark.did).filterMap Session.Mark.frame? =
          (e.called i).filterMap Call.frame? := List.filterMap_map
      rw [journal_cons, List.filterMap_append, List.filterMap_append, frames_announced,
        List.append_nil, hmarks, hcalled, ih, (queueRun_cons houtbox rest).log]
      exact List.filterMap_append.symm

end Engine

end RealtimeChat
