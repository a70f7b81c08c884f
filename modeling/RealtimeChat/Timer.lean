import RealtimeChat.Clock
import RealtimeChat.OrderedMap
/-!
# Deadlines by name

Everything that waits has a key and a deadline. Nothing here sleeps: whoever drives the client
asks for the next deadline, waits for it and takes the keys that are due.

* `Timer.Key` -- what may wait, in the order in which keys of one deadline are handled;
* `Timers` -- the armed keys with their deadlines;
* `Timers.drain` -- the keys that are due, earliest first.
-/

namespace RealtimeChat

/-! ## 1. Keys -/

/-- What may wait for a deadline. -/
inductive Timer.Key where
  /-- The opening of a connection has to be finished. -/
  | handshake
  /-- The next attempt to connect. -/
  | reconnect
  /-- The next proof of being alive. -/
  | heartbeat
  /-- Something has to be received. -/
  | liveness
  /-- The acknowledgement of an action, or the wait before it is sent again. -/
  | action (id : String)
  /-- The first typing indicator runs out. -/
  | typingSweep
  /-- The user has stopped typing in a chat. -/
  | localTyping (chat : String)
deriving DecidableEq, Repr

namespace Timer.Key

/-- The place of a kind of key in the order. -/
def rank : Key → Nat
  | handshake => 0
  | reconnect => 1
  | heartbeat => 2
  | liveness => 3
  | action _ => 4
  | typingSweep => 5
  | localTyping _ => 6

/-- What a key is about, where there are several of its kind. -/
def subject : Key → String
  | action id => id
  | localTyping chat => chat
  | _ => ""

/-- The written name of a key. -/
def name : Key → String
  | handshake => "handshake"
  | reconnect => "reconnect"
  | heartbeat => "heartbeat"
  | liveness => "liveness"
  | action id => "action:" ++ id
  | typingSweep => "typing_sweep"
  | localTyping chat => "local_typing:" ++ chat

/-- What follows a stem, if a text starts with it. -/
def behind? (stem text : String) : Option String :=
  if stem.toList.isPrefixOf text.toList then some (String.ofList (text.toList.drop stem.length))
  else none

/-- The key with a written name. -/
def ofName? (name : String) : Option Key :=
  match [handshake, reconnect, heartbeat, liveness, typingSweep].find? (fun k => k.name = name) with
  | some k => some k
  | none =>
    ((behind? "action:" name).map action).or ((behind? "local_typing:" name).map localTyping)

instance : Ord Key := ⟨compareLex (compareOn rank) (compareOn subject)⟩

instance : Std.TransOrd Key :=
  inferInstanceAs (Std.TransCmp (compareLex (compareOn rank) (compareOn subject)))

theorem eq_of_rank_subject {a b : Key} (hr : a.rank = b.rank) (hs : a.subject = b.subject) :
    a = b := by
  cases a <;> cases b <;> simp_all [rank, subject]

instance : Std.LawfulEqOrd Key where
  eq_of_compare {a b} h := by
    have h : compareLex (compareOn rank) (compareOn subject) a b = .eq := h
    obtain ⟨hr, hs⟩ : compare a.rank b.rank = .eq ∧ compare a.subject b.subject = .eq := by
      rwa [compareLex, Ordering.then_eq_eq] at h
    exact eq_of_rank_subject (Std.LawfulEqCmp.eq_of_compare hr) (Std.LawfulEqCmp.eq_of_compare hs)

/-- Whether the key is one of an action. -/
def isAction : Key → Bool
  | action _ => true
  | _ => false

/-- Whether the key is one of the user's own typing. -/
def isLocalTyping : Key → Bool
  | localTyping _ => true
  | _ => false

end Timer.Key

/-! ## 2. Armed keys -/

/-- The armed keys with their deadlines. -/
structure Timers where
  deadlines : OrderedMap Timer.Key Instant

namespace Timers

open Timer (Key)

/-- No key armed. -/
def empty : Timers := ⟨∅⟩

instance : Inhabited Timers := ⟨empty⟩

/-- Arm a key, in place of an earlier deadline of it. -/
def schedule (t : Timers) (key : Key) (deadline : Instant) : Timers :=
  ⟨t.deadlines.insert key deadline⟩

/-- Disarm a key. -/
def cancel (t : Timers) (key : Key) : Timers := ⟨t.deadlines.erase key⟩

/-- Disarm every key that satisfies `p`. -/
def cancelWhere (t : Timers) (p : Key → Bool) : Timers := ⟨t.deadlines.filter (fun k _ => !p k)⟩

/-- The deadline of a key, if it is armed. -/
def deadline? (t : Timers) (key : Key) : Option Instant := t.deadlines.get? key

/-- Whether a key is armed. -/
def isScheduled (t : Timers) (key : Key) : Bool := (t.deadline? key).isSome

/-- The earliest deadline. -/
def next? (t : Timers) : Option Instant := t.deadlines.values.min?

/-- The number of armed keys. -/
def size (t : Timers) : Nat := t.deadlines.size

/-- Whether no key is armed. -/
def isEmpty (t : Timers) : Bool := t.deadlines.isEmpty

/-- The keys that are due, by deadline and then by key. -/
def due (t : Timers) (now : Instant) : List Key :=
  ((t.deadlines.entries.filter (fun e => e.2 ≤ now)).mergeSort (fun a b => a.2 ≤ b.2)).map (·.1)

/-- The keys that are due, and the timers without them. -/
def drain (t : Timers) (now : Instant) : List Key × Timers :=
  (t.due now, ⟨t.deadlines.filter (fun _ deadline => now < deadline)⟩)

/-! ## 3. What each operation does to the deadlines -/

theorem deadline?_schedule (t : Timers) (key key' : Key) (deadline : Instant) :
    (t.schedule key deadline).deadline? key' =
      if key = key' then some deadline else t.deadline? key' :=
  OrderedMap.get?_insert _ _ _ _

theorem deadline?_cancel (t : Timers) (key key' : Key) :
    (t.cancel key).deadline? key' = if key = key' then none else t.deadline? key' :=
  OrderedMap.get?_erase _ _ _

end Timers

end RealtimeChat
