import RealtimeChat.Action
import RealtimeChat.Frame.Incoming
import RealtimeChat.Settings
import RealtimeChat.Timer
import RealtimeChat.Transport
/-!
# The queue of actions that are to be sent

Each chat has a queue of its own, and of each queue only the head is ever sent: nothing behind it
goes out before it is settled. An action that needs an acknowledgement stays at the head until the
server answers, until it has not been acknowledged too often, or until it gives way to newer
actions; when the connection is lost it is sent again on the next one, under the same id. Typing
states are settled as soon as they are sent.

* `Outbox` -- the queues, with an index of the queued ids and a memory of settled ones;
* `enqueue`, `flush`, `acknowledge`, `expire`, `disconnect`, `cancelAll` -- the operations. Those
  that arm or disarm deadlines take the timers and return them.
-/

namespace RealtimeChat

/-- The queues of all chats. -/
structure Outbox where
  /-- The greatest number of actions in one queue. -/
  capacity : Nat
  /-- The time in which an action has to be acknowledged. -/
  ackTimeout : Duration
  retry : Backoff
  /-- The queue of each chat that has one, oldest action first. -/
  chats : OrderedMap String (List Action)
  /-- The chat of each queued action, by id. -/
  index : OrderedMap String String
  /-- The ids settled last. -/
  settledIds : OrderedMap String Unit
  /-- The same ids, the one settled first in front. -/
  settledOrder : List String
  /-- The settlements that nobody has taken yet, oldest first. -/
  settled : List Settlement

namespace Outbox

/-- What became of an action that was to be queued. -/
inductive Enqueued where
  | queued
  /-- An action of this id is queued, or was settled not long ago. -/
  | duplicateId
  /-- The action undoes the start of typing in front of it; both are settled. -/
  | collapsed
  /-- The start of typing is queued already. -/
  | coalesced
  /-- The queue is full, and nothing in it can give way. -/
  | overflow
deriving DecidableEq, Repr

/-- The name of what became of an action. -/
def Enqueued.name : Enqueued → String
  | .queued => "queued"
  | .duplicateId => "duplicate_id"
  | .collapsed => "collapsed"
  | .coalesced => "coalesced"
  | .overflow => "overflow"

/-- How many settled ids are remembered. -/
def memorySize : Nat := 1024

/-- No action queued. -/
def new (settings : Settings.Queue) (retry : Backoff) : Outbox where
  capacity := max settings.maxPerChat 1
  ackTimeout := settings.ackTimeout
  retry := { retry with maxAttempts := settings.maxAttempts }
  chats := ∅
  index := ∅
  settledIds := ∅
  settledOrder := []
  settled := []

/-! ## 1. Views -/

/-- The number of queued actions. -/
def size (o : Outbox) : Nat := o.index.size

/-- Whether no action is queued. -/
def isEmpty (o : Outbox) : Bool := o.index.isEmpty

/-- Whether an action of this id is queued. -/
def contains (o : Outbox) (id : String) : Bool := o.index.contains id

/-- The queue of a chat, oldest action first. -/
def queue (o : Outbox) (chat : String) : List Action := (o.chats.get? chat).getD []

/-- The queued action of this id. -/
def get? (o : Outbox) (id : String) : Option Action :=
  (o.index.get? id).bind fun chat => (o.queue chat).find? (·.id = id)

/-- The settlements since they were taken last, and the outbox without them. -/
def takeSettled (o : Outbox) : List Settlement × Outbox := (o.settled, { o with settled := [] })

/-! ## 2. Parts of the operations -/

/-- The outbox with another queue for a chat; an empty queue is no queue. -/
def setQueue (o : Outbox) (chat : String) (queue : List Action) : Outbox :=
  { o with chats := if queue.isEmpty then o.chats.erase chat else o.chats.insert chat queue }

/-- Remember an id as settled, and forget the oldest one if there are too many. -/
def remember (o : Outbox) (id : String) : Outbox :=
  if o.settledIds.contains id then o
  else
    let ids := o.settledIds.insert id ()
    let order := o.settledOrder ++ [id]
    let old := order.take (order.length - memorySize)
    { o with
      settledIds := old.foldl (fun ids id => ids.erase id) ids
      settledOrder := order.drop (order.length - memorySize) }

/-- Settle an action that is not queued any more. -/
def settle (o : Outbox) (a : Action) (outcome : Action.Outcome) : Outbox :=
  let o := o.remember a.id
  { o with settled := o.settled ++ [⟨a.id, a.chat, a.kind, outcome⟩] }

/-- Take an action out of its queue. -/
def take? (o : Outbox) (id : String) : Option (Action × Outbox) :=
  (o.index.get? id).bind fun chat =>
    ((o.queue chat).find? (·.id = id)).map fun a =>
      (a, { o with index := o.index.erase id }.setQueue chat ((o.queue chat).eraseP (·.id = id)))

/-- Change the queued action of this id. -/
def modify (o : Outbox) (id : String) (f : Action → Action) : Outbox :=
  match o.index.get? id with
  | none => o
  | some chat =>
    { o with chats := o.chats.modify chat (·.map fun a => if a.id = id then f a else a) }

/-- Put an action at the end of its queue. -/
def push (o : Outbox) (a : Action) : Outbox :=
  { o with
    index := o.index.insert a.id a.chat
    chats := o.chats.insert a.chat (o.queue a.chat ++ [a]) }

/-! ## 3. Queueing -/

/-- Queue an action; in a full queue the oldest one that is not in flight gives way to it. -/
def accept (o : Outbox) (timers : Timers) (a : Action) : Enqueued × Outbox × Timers :=
  let queue := o.queue a.chat
  if queue.length < o.capacity then (.queued, o.push a, timers)
  else
    match queue.find? (·.mayGiveWay) with
    | some oldest =>
      let o := { o with
        index := o.index.erase oldest.id
        chats := o.chats.insert a.chat (queue.eraseP (·.mayGiveWay)) }
      (.queued, (o.settle oldest .dropped).push a, timers.cancel (.action oldest.id))
    | none => (.overflow, o.settle a .dropped, timers)

/--
Queue an action. An id that is queued or remembered is refused. The end of typing takes a start
of typing that was not sent yet out of the queue, and a second start is superfluous.
-/
def enqueue (o : Outbox) (timers : Timers) (a : Action) : Enqueued × Outbox × Timers :=
  if o.index.contains a.id || o.settledIds.contains a.id then (.duplicateId, o, timers)
  else
    let queue := o.queue a.chat
    match a.kind, queue.find? (·.startsTyping) with
    | .typingStop, some start =>
      let o := { o with index := o.index.erase start.id }.setQueue a.chat
        (queue.eraseP (·.startsTyping))
      (.collapsed, (o.settle start .collapsed).settle a .collapsed, timers)
    | .typingStart, some _ => (.coalesced, o.settle a .collapsed, timers)
    | _, _ => o.accept timers a

/-! ## 4. Sending -/

/-- A flush on its way: the sink, the timers, how many frames were sent, which actions are settled
by that, and whether a frame could not be sent. -/
structure Flush (σ : Type) where
  sink : σ
  timers : Timers
  written : Nat
  done : List Action
  halted : Bool

/-- Send what may be sent of one queue: typing states as long as they stand in front, and the
first action that needs an acknowledgement. -/
def flushQueue {σ : Type} (send : σ → Outgoing → Except SendFault Unit × σ)
    (ackDeadline : Instant) : Flush σ → List Action → List Action × Flush σ
  | f, [] => ([], f)
  | f, a :: rest =>
    if f.halted || a.state ≠ .pending then (a :: rest, f)
    else
      match send f.sink a.frame with
      | (.error _, sink) => (a :: rest, { f with sink, halted := true })
      | (.ok (), sink) =>
        let f := { f with sink, written := f.written + 1 }
        if a.kind.requiresAck then
          ({ a with state := .inFlight } :: rest,
            { f with timers := f.timers.schedule (.action a.id) ackDeadline })
        else flushQueue send ackDeadline { f with done := f.done ++ [a] } rest

/-- Send what may be sent of every queue, up to the first frame that cannot be sent. Returns how
many frames were sent. -/
def flush {σ : Type} (o : Outbox) (send : σ → Outgoing → Except SendFault Unit × σ) (sink : σ)
    (now : Instant) (timers : Timers) : Nat × Outbox × σ × Timers :=
  let (chats, f) := o.chats.walk
    (fun f _ queue => flushQueue send (now + o.ackTimeout) f queue) ⟨sink, timers, 0, [], false⟩
  let o := f.done.foldl
    (fun o a => { o with index := o.index.erase a.id }.settle a (.delivered none false)) o
  (f.written, { o with chats := chats.filter (fun _ queue => !queue.isEmpty) }, f.sink, f.timers)

/-! ## 5. Answers, deadlines, ends -/

/-- What an answer of the server makes of an action. -/
def outcomeOf (ack : Ack) : Action.Outcome :=
  match ack.result with
  | .applied => .delivered ack.messageId false
  | .duplicate => .delivered ack.messageId true
  | .rejected => .rejected (ack.reason.getD "rejected by server")

/-- Settle the action that an answer is about; false if it is not queued. -/
def acknowledge (o : Outbox) (timers : Timers) (ack : Ack) : Bool × Outbox × Timers :=
  match o.take? ack.actionId with
  | none => (false, o, timers)
  | some (a, o) => (true, o.settle a (outcomeOf ack), timers.cancel (.action a.id))

/--
The deadline of an action has passed. In flight it was not acknowledged in time: it waits before
it is sent again, or fails if that happened too often. After its wait it may be sent again.
-/
def expire (o : Outbox) (timers : Timers) (id : String) (now : Instant) : Outbox × Timers :=
  match o.get? id with
  | none => (o, timers)
  | some a =>
    match a.state with
    | .inFlight =>
      let retries := a.retries + 1
      if o.retry.exhausted retries then
        match o.take? id with
        | none => (o, timers)
        | some (a, o) => (o.settle a (.failed retries), timers)
      else
        (o.modify id (fun a => { a with retries, state := .waiting }),
          timers.schedule (.action id) (now + o.retry.delay (retries - 1)))
    | .waiting => (o.modify id (fun a => { a with state := .pending }), timers)
    | .pending => (o, timers)

/-- The connection is lost: what was in flight has to be sent again, which does not count as an
attempt. -/
def disconnect (o : Outbox) (timers : Timers) : Outbox × Timers :=
  let flying := (o.chats.values.flatten.filter (·.state = .inFlight)).map (·.id)
  ({ o with chats := o.chats.mapEntries fun _ queue =>
      queue.map fun a => if a.state = .inFlight then { a with state := .pending } else a },
    flying.foldl (fun timers id => timers.cancel (.action id)) timers)

/-- The user logs out: every queued action is cancelled. -/
def cancelAll (o : Outbox) (timers : Timers) : Outbox × Timers :=
  let actions := o.chats.values.flatten
  let o := { o with chats := ∅, index := ∅ }
  (actions.foldl (fun o a => o.settle a .cancelled) o, timers.cancelWhere (·.isAction))

end Outbox

end RealtimeChat
