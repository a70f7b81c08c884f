import RealtimeChat.Client
import RealtimeChat.Transport.Memory
/-!
# A client on a clock of its own

With connections in memory and a clock that jumps from one deadline to the next, a client runs
through hours in no time, and always in the same way. At one instant everything that is ready
happens first: what the transport reports, then deadlines that have passed, then finished fetches.

* `Timeline` -- a client and the time on its clock;
* `Timeline.turn?` -- the next turn at the same instant;
* `Timeline.runUntil` -- turns and jumps up to a deadline, or until something has come about.
-/

namespace RealtimeChat

/-- A client and the time on its clock. -/
structure Timeline where
  client : Client MemoryTransport
  now : Instant

namespace Timeline

/-! ## 1. Turns at an instant -/

/-- The oldest report of the transport, and the client without it. -/
def report? (c : Client MemoryTransport) :
    Option ((ConnectionId × Transport.Event) × Client MemoryTransport) :=
  match c.engine.session.transport.reports with
  | [] => none
  | r :: rest => some (r, c.modifyTransport ({ · with reports := rest }))

/-- The oldest fetch whose result is there, and the client without it. -/
def finished? (c : Client MemoryTransport) (now : Instant) :
    Option (Client.Fetch × Client MemoryTransport) :=
  match c.fetches.span (fun f => now < f.due) with
  | (_, []) => none
  | (before, f :: rest) => some (f, { c with fetches := before ++ rest })

/-- Whether a deadline has passed. -/
def deadlinePassed (t : Timeline) : Bool :=
  match t.client.engine.nextDeadline? with
  | some deadline => deadline ≤ t.now
  | none => false

/-- The timeline after the next turn at the same instant, if anything is ready. -/
def turn? (t : Timeline) : Option Timeline :=
  if t.client.running then
    match report? t.client with
    | some ((connection, event), c) =>
      some { t with client := c.handleEvent connection event t.now }
    | none =>
      if t.deadlinePassed then some { t with client := t.client.handleTimers t.now }
      else (finished? t.client t.now).map fun (f, c) => { t with client := c.finishFetch f t.now }
  else none

/-! ## 2. The clock -/

/-- The instant at which something becomes ready by itself. -/
def nextInstant? (t : Timeline) : Option Instant :=
  if t.client.running then
    (t.client.fetches.map (·.due)).foldl (fun best due => some (min due (best.getD due)))
      t.client.engine.nextDeadline?
  else none

/-- Turns and jumps until `stop` holds at an instant where nothing is ready any more, or the
deadline comes; true if `stop` held. What happens at the deadline itself is left to the next
run. There are at most so many turns and jumps. -/
def run (stop : Client MemoryTransport → Bool) (deadline : Instant) :
    Nat → Timeline → Bool × Timeline
  | 0, t => (false, t)
  | fuel + 1, t =>
    match t.turn? with
    | some t => run stop deadline fuel t
    | none =>
      if stop t.client then (true, t)
      else
        match t.nextInstant? with
        | some next =>
          if next < deadline then run stop deadline fuel { t with now := next }
          else (false, { t with now := deadline })
        | none => (false, { t with now := deadline })

/-- The greatest number of turns and jumps of one run. -/
def limit : Nat := 10000000

/-- Run until `stop` holds or some time has passed; true if `stop` held. -/
def runUntil (t : Timeline) (wait : Duration) (stop : Client MemoryTransport → Bool) :
    Bool × Timeline :=
  run stop (t.now + wait) limit t

/-- Everything that is ready now. -/
def settle (t : Timeline) : Timeline := (t.runUntil 0 (fun _ => true)).2

/-- Let some time pass. -/
def sleep (t : Timeline) (time : Duration) : Timeline := (t.runUntil time (fun _ => false)).2.settle

/-- A turn of a user, and everything that becomes ready by it. -/
def act {α : Type} (t : Timeline)
    (turn : Client MemoryTransport → Instant → α × Client MemoryTransport) : α × Timeline :=
  let (answer, client) := turn t.client t.now
  (answer, { t with client }.settle)

/-- Wait until the state is the given one, at most for some time; true if it was. After the client
was shut down the state does not change any more. -/
def waitForState (t : Timeline) (p : Session.State → Bool) (wait : Duration) : Bool × Timeline :=
  if t.client.running then t.runUntil wait (fun c => p c.state) else (p t.client.state, t)

end Timeline

end RealtimeChat
