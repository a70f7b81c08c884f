import RealtimeChat.Clock
import RealtimeChat.OrderedMap
import RealtimeChat.Table
/-!
# Who is typing

Each report that somebody is typing holds for some time only, unless it is repeated.

* `Typist` -- somebody in a chat;
* `TypingTracker` -- the deadlines of all typists, chat by chat;
* `start`, `stop`, `expire`, `users` -- the operations.
-/

namespace RealtimeChat

/-- Somebody in a chat. -/
structure Typist where
  chat : String
  user : String
deriving DecidableEq, Repr

namespace Typist

instance : Ord Typist := ⟨compareLex (compareOn chat) (compareOn user)⟩

instance : Std.TransOrd Typist :=
  inferInstanceAs (Std.TransCmp (compareLex (compareOn chat) (compareOn user)))

instance : Std.LawfulEqOrd Typist where
  eq_of_compare {a b} h := by
    obtain ⟨hc, hu⟩ : compare a.chat b.chat = .eq ∧ compare a.user b.user = .eq := by
      simpa [compare, compareLex, compareOn, Ordering.then_eq_eq] using h
    have hc := Std.LawfulEqCmp.eq_of_compare hc
    have hu := Std.LawfulEqCmp.eq_of_compare hu
    cases a; cases b; simp_all

end Typist

/-- The typists of all chats with the instants until which they count as typing. -/
structure TypingTracker where
  /-- How long one report holds. -/
  expiry : Duration
  /-- The deadlines of the users of each chat. -/
  chats : Table String (OrderedMap String Instant)

namespace TypingTracker

/-- Nobody typing. -/
def new (expiry : Duration) : TypingTracker := ⟨expiry, ∅⟩

/-- The deadlines of the users of a chat. -/
def typists (t : TypingTracker) (chat : String) : OrderedMap String Instant :=
  (t.chats.get? chat).getD ∅

/-- Until when somebody counts as typing. -/
def deadline? (t : TypingTracker) (who : Typist) : Option Instant :=
  (t.typists who.chat).get? who.user

/-- Somebody is typing; the new deadline is returned. -/
def start (t : TypingTracker) (who : Typist) (now : Instant) : Instant × TypingTracker :=
  let deadline := now + t.expiry
  let users := (t.typists who.chat).insert who.user deadline
  (deadline, { t with chats := t.chats.insert who.chat users })

/-- Somebody stopped typing; false if they were not typing. A chat in which nobody is left goes. -/
def stop (t : TypingTracker) (who : Typist) : Bool × TypingTracker :=
  match t.chats.get? who.chat with
  | none => (false, t)
  | some users =>
    let left := users.erase who.user
    let chats := if left.isEmpty then t.chats.erase who.chat else t.chats.insert who.chat left
    (users.contains who.user, { t with chats })

/-- The typists whose deadlines have passed, as the chats come. -/
def due (t : TypingTracker) (now : Instant) : List Typist :=
  t.chats.entries.flatMap fun (chat, users) =>
    (users.filter (fun _ deadline => deadline ≤ now)).keys.map (⟨chat, ·⟩)

/-- The typists whose deadlines have passed, by chat and user, and the tracker without them. -/
def expire (t : TypingTracker) (now : Instant) : List Typist × TypingTracker :=
  let stays (_ : String) (users : OrderedMap String Instant) :=
    let left := users.filter (fun _ deadline => now < deadline)
    if left.isEmpty then none else some left
  ((t.due now).mergeSort (fun a b => (compare a b).isLE),
    { t with chats := t.chats.retain stays })

/-- Who is typing in a chat, by user. -/
def users (t : TypingTracker) (chat : String) (now : Instant) : List String :=
  ((t.typists chat).filter (fun _ deadline => now < deadline)).keys

/-- The earliest deadline. -/
def next? (t : TypingTracker) : Option Instant := (t.chats.values.flatMap (·.values)).min?

/-- Forget all typists. -/
def clear (t : TypingTracker) : TypingTracker := { t with chats := ∅ }

end TypingTracker

end RealtimeChat
