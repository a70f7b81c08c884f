import RealtimeChat.Client.Timeline
import RealtimeChat.Proofs.Engine.Accounts
/-!
# Runs of a client

A client takes one input after the other, in any order and each at any instant: wishes of users,
and what its loop finds ready as long as the client runs. Between two turns users read what they
were told.

* `Input`, `step`, `run` -- inputs and what they do;
* `Fresh` -- a client as it is made;
* `settled`, `heard` -- what was settled in a run, and what the owner of a ticket was told;
* `send_eq` -- to send an intent is to draw an id and to submit;
* **`Timeline.run_inputs`** -- the loop of a client takes such inputs only.
-/

namespace RealtimeChat

namespace Client

variable {τ : Type} [Transport τ]

/-! ## 1. Inputs -/

/-- What may be done with a client, and what may happen to it. -/
inductive Input (τ : Type) where
  | connect (credentials : Credentials) (now : Instant)
  | logout (now : Instant)
  | submit (a : Action) (now : Instant)
  | keystroke (chat : String) (now : Instant)
  | subscribe (kind : Event.Kind) (now : Instant)
  | unsubscribe (id : SubscriptionId) (now : Instant)
  /-- Subscribe to the notices. -/
  | listen (now : Instant)
  | typingUsers (chat : String) (now : Instant)
  | log (chat : String) (now : Instant)
  /-- A user shuts the client down, or there is no user any more. -/
  | shutdown (now : Instant)
  | event (connection : ConnectionId) (event : Transport.Event) (now : Instant)
  | timers (now : Instant)
  /-- The result of a fetch is there; the others are still on their way. -/
  | fetched (fetch : Fetch) (others : List Fetch) (now : Instant)
  /-- An id is drawn for an action that is to be submitted. -/
  | draw
  | takeResolutions
  | takeResolution (t : Ticket)
  | takeAsked
  | takeDeliveries
  /-- Read an inbox of notices and empty it. -/
  | hear (inbox : Nat)
  /-- Stop reading an inbox of notices. -/
  | leave (inbox : Nat)
  /-- Something happens to the transport behind the session's back. -/
  | transport (f : τ → τ)

/-- Take one input. What the loop finds ready is left alone when the client was shut down. -/
def step (c : Client τ) : Input τ → Client τ
  | .connect credentials now => (c.connect credentials now).2
  | .logout now => (c.logout now).2
  | .submit a now => (c.submit a now).2
  | .keystroke chat now => (c.keystroke chat now).2
  | .subscribe kind now => (c.subscribe kind now).2
  | .unsubscribe id now => (c.unsubscribe id now).2
  | .listen now => (c.subscribeNotices now).2
  | .typingUsers chat now => (c.typingUsers chat now).2
  | .log chat now => (c.log chat now).2
  | .shutdown now => (c.shutdown now).2
  | .event connection event now => if c.running then c.handleEvent connection event now else c
  | .timers now => if c.running then c.handleTimers now else c
  | .fetched fetch others now =>
    if c.running then { c with fetches := others }.finishFetch fetch now else c
  | .draw => { c with engine := c.engine.newId.2 }
  | .takeResolutions => c.takeResolutions.2
  | .takeResolution t => (c.takeResolution t).2
  | .takeAsked => c.takeAsked.2
  | .takeDeliveries => c.takeDeliveries.2
  | .hear inbox => (c.drainNotices inbox).2
  | .leave inbox => c.leaveNotices inbox
  | .transport f => c.modifyTransport f

/-- Take inputs in order. -/
def run (c : Client τ) (inputs : List (Input τ)) : Client τ := inputs.foldl step c

theorem run_append (c : Client τ) (inputs inputs' : List (Input τ)) :
    c.run (inputs ++ inputs') = (c.run inputs).run inputs' := List.foldl_append

/-- A client as it is made. -/
def Fresh (c : Client τ) : Prop :=
  ∃ settings transport entropy ids store source,
    Client.new settings transport entropy ids store source = .ok c

omit [Transport τ] in
theorem Fresh.engine {c : Client τ} (h : c.Fresh) : c.engine.Fresh := by
  obtain ⟨settings, transport, entropy, ids, store, source, hnew⟩ := h
  unfold Client.new at hnew
  split at hnew
  · cases hnew
  · rename_i engine hengine
    cases hnew
    exact ⟨settings, transport, entropy, ids, engine, store, source.isSome, hengine, rfl⟩

/-- What can be computed of a client that has the address of a server and no other settings. -/
theorem exists_fresh_of (p : Client MemoryTransport → Prop) [DecidablePred p]
    (h : (Client.new { server := { wsUrl := some "wss://chat.example" } } ({} : MemoryTransport)
      ⟨UInt64.ofNat, 0⟩ ⟨Nat.repr, 0⟩ none none).toOption.any (fun c => p c) = true) :
    ∃ c : Client MemoryTransport, c.Fresh ∧ p c := by
  cases hnew : Client.new { server := { wsUrl := some "wss://chat.example" } }
      ({} : MemoryTransport) ⟨UInt64.ofNat, 0⟩ ⟨Nat.repr, 0⟩ none none with
  | error fault =>
      rw [hnew] at h
      cases h
  | ok c =>
      rw [hnew] at h
      exact ⟨c, ⟨_, _, _, _, _, _, hnew⟩, of_decide_eq_true h⟩

/-- To send an intent is to draw an id and to submit the intent under it. -/
theorem send_eq (c : Client τ) (intent : Intent) (now : Instant) :
    let a := Action.new c.engine.newId.1 intent now
    (c.send intent now).1 = ((c.step .draw).submit a now).1.map ((a.id, ·)) ∧
      (c.send intent now).2 = c.run [.draw, .submit a now] :=
  ⟨rfl, rfl⟩

/-! ## 2. What is settled and what is told -/

/-- What the core is told to do in a turn, if anything. -/
def Input.core? : Input τ → Option (Engine.Input τ)
  | .connect credentials now => some (.connect credentials now)
  | .logout now | .shutdown now => some (.logout now)
  | .submit a now => some (.submit a now)
  | .keystroke chat now => some (.keystroke chat now)
  | .subscribe kind _ => some (.subscribe kind)
  | .unsubscribe id _ => some (.unsubscribe id)
  | .listen _ => some .listen
  | .event connection happened now => some (.event connection happened now)
  | .timers now => some (.timers now)
  | .fetched fetch _ now =>
    some (.history fetch.request.chat fetch.request.generation fetch.result now)
  | _ => none

/-- The settlements that an input leads to, the first one in front. -/
def settles (c : Client τ) (i : Input τ) : List Settlement :=
  if c.running then (i.core?.map c.engine.settles).getD [] else []

/-- The settlements of a run, the first one in front. -/
def settled : Client τ → List (Input τ) → List Settlement
  | _, [] => []
  | c, i :: rest => c.settles i ++ settled (c.step i) rest

/-- The answers to a ticket that were not taken yet. -/
def answers (c : Client τ) (t : Ticket) : List Resolution := c.resolutions.filter (·.ticket = t)

/-- What the owner of a ticket is told in a run: what is taken on the way, and what is there at the
end. -/
def heard (t : Ticket) : Client τ → List (Input τ) → List Resolution
  | c, [] => c.answers t
  | c, .takeResolutions :: rest =>
    c.takeResolutions.1.filter (·.ticket = t) ++ heard t c.takeResolutions.2 rest
  | c, .takeResolution u :: rest =>
    (c.takeResolution u).1.toList.filter (·.ticket = t) ++ heard t (c.takeResolution u).2 rest
  | c, i :: rest => heard t (c.step i) rest

end Client

/-! ## 3. The loop -/

namespace Timeline

/-- A turn of the loop is a turn of the client. -/
theorem turn?_inputs {t t' : Timeline} (h : t.turn? = some t') :
    t'.now = t.now ∧ ∃ inputs, t'.client = t.client.run inputs := by
  unfold turn? at h
  split at h
  · rename_i hrun
    split at h
    · rename_i connection event c hreport
      cases h
      unfold report? at hreport
      split at hreport
      · cases hreport
      · rename_i first rest hreports
        cases hreport
        refine ⟨rfl, [.transport ({ · with reports := rest }), .event connection event t.now], ?_⟩
        exact (if_pos hrun).symm
    · split at h
      · cases h
        exact ⟨rfl, [.timers t.now], (if_pos hrun).symm⟩
      · obtain ⟨⟨f, c⟩, hfinished, rfl⟩ := Option.map_eq_some_iff.mp h
        unfold finished? at hfinished
        split at hfinished
        · cases hfinished
        · cases hfinished
          exact ⟨rfl, [.fetched f _ t.now], (if_pos hrun).symm⟩
  · cases h

/-- **The loop takes inputs of a client and nothing else.** -/
theorem run_inputs (stop : Client MemoryTransport → Bool) (deadline : Instant) (fuel : Nat)
    (t : Timeline) : ∃ inputs, (run stop deadline fuel t).2.client = t.client.run inputs := by
  induction fuel generalizing t with
  | zero => exact ⟨[], rfl⟩
  | succ fuel ih =>
      unfold run
      split
      · rename_i t' hturn
        obtain ⟨-, inputs, hfirst⟩ := turn?_inputs hturn
        obtain ⟨inputs', hrest⟩ := ih t'
        exact ⟨inputs ++ inputs', by rw [hrest, hfirst, Client.run_append]⟩
      · split
        · exact ⟨[], rfl⟩
        · split
          · split
            · exact ih _
            · exact ⟨[], rfl⟩
          · exact ⟨[], rfl⟩

end Timeline

end RealtimeChat
