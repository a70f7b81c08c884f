import RealtimeChat.Engine
import RealtimeChat.Proofs.Outbox.Run
import RealtimeChat.Transport.Memory
/-!
# Runs of the client's core

The core of a client takes one input after the other, in any order and each at any instant. An
input that is refused leaves it as it was.

* `Input`, `step`, `run` -- inputs and what they do;
* `Fresh`, `Fresh.rule` -- a core as it is made from settings, with any store;
* `calls` -- the operations on the outbox that an input comes down to;
* `taken`, `heard` -- what comes out on the way: settlements, and the notices in one inbox.
-/

namespace RealtimeChat.Engine

variable {τ : Type} [Transport τ]

/-! ## 1. Inputs -/

/-- What may be done with the core of a client. -/
inductive Input (τ : Type) where
  | connect (credentials : Credentials) (now : Instant)
  | logout (now : Instant)
  | submit (a : Action) (now : Instant)
  | keystroke (chat : String) (now : Instant)
  | event (connection : ConnectionId) (event : Transport.Event) (now : Instant)
  | timers (now : Instant)
  | history (chat : String) (generation : Nat) (result : Except String (List Message))
      (now : Instant)
  | takeSettled
  | takeHistoryRequests
  | takeDeliveries
  | subscribe (kind : Event.Kind)
  | unsubscribe (id : SubscriptionId)
  /-- Subscribe to the notices. -/
  | listen
  /-- Read an inbox of notices and empty it. -/
  | hear (inbox : Nat)
  /-- Something happens to the transport behind the session's back. -/
  | transport (f : τ → τ)

/-- Take one input. -/
def step (e : Engine τ) : Input τ → Engine τ
  | .connect credentials now =>
    match e.connect credentials now with
    | .ok e => e
    | .error _ => e
  | .logout now => e.logout now
  | .submit a now =>
    match e.submit a now with
    | .ok (_, e) => e
    | .error _ => e
  | .keystroke chat now =>
    match e.keystroke chat now with
    | .ok e => e
    | .error _ => e
  | .event connection event now => e.handleEvent connection event now
  | .timers now => e.handleTimers now
  | .history chat generation result now => e.applyHistory chat generation result now
  | .takeSettled => e.takeSettled.2
  | .takeHistoryRequests => e.takeHistoryRequests.2
  | .takeDeliveries => e.takeDeliveries.2
  | .subscribe kind => (e.subscribe kind).2
  | .unsubscribe id => (e.unsubscribe id).2
  | .listen => e.subscribeNotices.2
  | .hear inbox => (e.drainNotices inbox).2
  | .transport f => e.modifyTransport f

/-- Take inputs in order. -/
def run (e : Engine τ) (inputs : List (Input τ)) : Engine τ := inputs.foldl step e

theorem run_append (e : Engine τ) (inputs inputs' : List (Input τ)) :
    e.run (inputs ++ inputs') = (e.run inputs).run inputs' := List.foldl_append

/-- A core as it is made from settings, with any store. -/
def Fresh (e : Engine τ) : Prop :=
  ∃ settings transport entropy ids e₀ store historyEnabled,
    Engine.new settings transport entropy ids = .ok e₀ ∧ e = { e₀ with store, historyEnabled }

omit [Transport τ] in
/-- **What is so for every choice of the settings and the rest is so for what is made from them.** -/
@[elab_as_elim]
theorem Fresh.rule {P : Engine τ → Prop} {e : Engine τ} (h : e.Fresh)
    (made : ∀ settings endpoint transport entropy ids store historyEnabled, P {
      session := .new (plan settings endpoint) transport entropy
      router := .new settings.router
      outbox := .new settings.outbox { settings.reconnect.policy with jitter := .zero false }
      timers := .empty
      notices := .empty
      store, historyEnabled
      cursors := ∅
      localTyping := []
      typingIdle := settings.typing.idle
      historyRequests := []
      generation := 0
      settled := []
      ids }) : P e := by
  obtain ⟨settings, transport, entropy, ids, e₀, store, historyEnabled, hnew, rfl⟩ := h
  unfold Engine.new at hnew
  split at hnew
  · cases hnew
  · cases hnew
  · cases hnew
    exact made settings _ transport entropy ids store historyEnabled

omit [Transport τ] in
/-- What can be computed of a client is so of one that can be made. -/
theorem exists_new_of (settings : Settings) (transport : τ) (entropy : Entropy) (ids : IdSource)
    (p : Engine τ → Prop) [DecidablePred p]
    (h : (Engine.new settings transport entropy ids).toOption.any (fun e => p e) = true) :
    ∃ e, Engine.new settings transport entropy ids = .ok e ∧ p e := by
  cases hnew : Engine.new settings transport entropy ids with
  | error fault =>
      rw [hnew] at h
      cases h
  | ok e =>
      rw [hnew] at h
      exact ⟨e, rfl, of_decide_eq_true h⟩

/-- What can be computed of a client that has the address of a server and no other settings. -/
theorem exists_fresh_of (p : Engine MemoryTransport → Prop) [DecidablePred p]
    (h : (Engine.new { server := { wsUrl := some "wss://chat.example" } } ({} : MemoryTransport)
      ⟨UInt64.ofNat, 0⟩ ⟨Nat.repr, 0⟩).toOption.any (fun e => p e) = true) :
    ∃ e : Engine MemoryTransport, e.Fresh ∧ p e :=
  have ⟨e, hnew, hp⟩ := exists_new_of _ _ _ _ p h
  ⟨e, ⟨_, _, _, _, _, e.store, e.historyEnabled, hnew, rfl⟩, hp⟩

/-- An address of the server is all that the settings need. -/
theorem exists_fresh : ∃ e : Engine MemoryTransport, e.Fresh :=
  have ⟨e, he, _⟩ := exists_fresh_of (fun _ => True) (by decide +kernel)
  ⟨e, he⟩

/-! ## 2. The operations on the outbox -/

section Calls

open Outbox (Operation)

/-- The flush of an active session. -/
def flushCalls (e : Engine τ) (now : Instant) : List Operation :=
  if e.session.state = .active then [.flush Session.sendFrame e.session now] else []

/-- What a signal of the session comes down to. -/
def signalCalls (e : Engine τ) (now : Instant) : Session.Signal → List Operation
  | .stateChanged before after =>
    (if before = .active then [.disconnect] else []) ++
      (if after = .active then e.flushCalls now else [])
  | .inbound (.ack ack) =>
    .acknowledge ack ::
      (if (e.outbox.acknowledge e.timers ack).1 then e.flushCalls now else [])
  | _ => []

/-- What signals of the session come down to, one after the other. -/
def signalsCalls (now : Instant) : Engine τ → List Session.Signal → List Operation
  | _, [] => []
  | e, x :: rest => e.signalCalls now x ++ signalsCalls now (e.handleSignal x now) rest

/-- What the signals that nobody has taken come down to; at last the settlements are taken. -/
def processCalls (e : Engine τ) (now : Instant) : List Operation :=
  signalsCalls now { e with session := e.session.takeSignals.2 } e.session.signals ++ [.takeSettled]

/-- What a deadline that has passed comes down to. -/
def keyCalls (e : Engine τ) (now : Instant) (key : Timer.Key) : List Operation :=
  match e.session.handleTimer key now e.timers with
  | some (session, timers) => { e with session, timers }.processCalls now
  | none =>
    (match key with
      | .action id => .expire id now :: e.flushCalls now
      | .localTyping chat =>
        if chat ∈ e.localTyping then
          .enqueue (.new e.newId.1 (.typingStop chat) now) :: e.flushCalls now
        else []
      | _ => []) ++ [.takeSettled]

/-- What deadlines that have passed come down to, one after the other. -/
def keysCalls (now : Instant) : Engine τ → List Timer.Key → List Operation
  | _, [] => []
  | e, key :: rest => e.keyCalls now key ++ keysCalls now (e.handleTimer key now) rest

/-- The end of typing that goes before a message. -/
def stopTypingCalls (e : Engine τ) (a : Action) (now : Instant) : List Operation :=
  if a.kind = .sendMessage ∧ a.chat ∈ e.localTyping then
    [.enqueue (.new e.newId.1 (.typingStop a.chat) now)]
  else []

/-- The operations on the outbox that an input comes down to. -/
def stepCalls (e : Engine τ) : Input τ → List Operation
  | .connect credentials now =>
    match e.session.connect credentials now e.timers with
    | .ok (session, timers) => { e with session, timers }.processCalls now
    | .error _ => []
  | .logout now => .cancelAll :: e.endLogin.processCalls now
  | .submit a now =>
    match a.intent.check with
    | .ok () =>
      e.stopTypingCalls a now ++ .enqueue a :: (e.flushCalls now ++ [.takeSettled])
    | .error _ => []
  | .keystroke chat now =>
    match checkChat chat with
    | .ok () =>
      (if chat ∈ e.localTyping then []
        else [.enqueue (.new e.newId.1 (.typingStart chat) now)]) ++
      (e.flushCalls now ++ [.takeSettled])
    | .error _ => []
  | .event connection event now =>
    let (session, timers) := e.session.handleEvent connection event now e.timers
    { e with session, timers }.processCalls now
  | .timers now => keysCalls now { e with timers := (e.timers.drain now).2 } (e.timers.due now)
  | _ => []

/-- The operations on the outbox that inputs come down to. -/
def calls : Engine τ → List (Input τ) → List Operation
  | _, [] => []
  | e, i :: rest => e.stepCalls i ++ calls (e.step i) rest

/-- The outbox under these operations, with what they leave on record. -/
def queueRun (e : Engine τ) (inputs : List (Input τ)) : Outbox.Run :=
  (Outbox.Run.start e.outbox e.timers).performAll (e.calls inputs)

end Calls

/-! ## 3. What comes out -/

/-- The settlement that a notice tells of. -/
def settlement? : Notice → Option Settlement
  | .actionSettled s => some s
  | _ => none

/-- The notices in an inbox. -/
def inbox (e : Engine τ) (id : Nat) : List Notice := (e.drainNotices id).1

/-- The settlements that are taken during a run. -/
def taken : Engine τ → List (Input τ) → List Settlement
  | _, [] => []
  | e, .takeSettled :: rest => e.takeSettled.1 ++ taken e.takeSettled.2 rest
  | e, i :: rest => taken (e.step i) rest

/-- The notices of one inbox that are read during a run. -/
def heard (id : Nat) : Engine τ → List (Input τ) → List Notice
  | _, [] => []
  | e, .hear inbox :: rest =>
    (if inbox = id then e.inbox id else []) ++ heard id (e.step (.hear inbox)) rest
  | e, i :: rest => heard id (e.step i) rest

end RealtimeChat.Engine
