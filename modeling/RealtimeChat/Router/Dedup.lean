import RealtimeChat.Clock
import RealtimeChat.OrderedMap
/-!
# Which events were delivered not long ago

A window over the keys of delivered events. A key leaves it when it is too old, or when too many
newer ones have come. The keys are held twice: as a set, which is asked whether a key is there, and
in the order in which they came, which says what leaves next.

* `DedupWindow` -- the window;
* `DedupWindow.evict` -- the oldest keys leave it, both the order and the set;
* `DedupWindow.insert` -- whether a key is new, and the window with it.
-/

namespace RealtimeChat

/-- The keys of the events delivered last. -/
structure DedupWindow where
  /-- The greatest number of keys. -/
  capacity : Nat
  /-- The age at which a key is forgotten. -/
  ttl : Duration
  /-- The keys. -/
  seen : OrderedMap String Unit
  /-- The same keys with the instants of their delivery, oldest first. -/
  order : List (Instant × String)

namespace DedupWindow

/-- A window without keys. -/
def new (capacity : Nat) (ttl : Duration) : DedupWindow := ⟨max capacity 1, ttl, ∅, []⟩

/-- Whether a key is in the window. -/
def contains (w : DedupWindow) (key : String) : Bool := w.seen.contains key

/-- The number of keys. -/
def size (w : DedupWindow) : Nat := w.order.length

/-- Take keys out of the order, and out of the set, as long as `gone` says of the first one and of
those behind it that it has to go. -/
def evictFrom (gone : Instant × String → List (Instant × String) → Bool) :
    OrderedMap String Unit → List (Instant × String) →
      OrderedMap String Unit × List (Instant × String)
  | seen, [] => (seen, [])
  | seen, x :: rest =>
    if gone x rest then evictFrom gone (seen.erase x.2) rest else (seen, x :: rest)

/-- The window without the oldest keys, as far as `gone` says so. -/
def evict (gone : Instant × String → List (Instant × String) → Bool) (w : DedupWindow) :
    DedupWindow :=
  let (seen, order) := evictFrom gone w.seen w.order
  { w with seen, order }

/-- The window without the keys that are too old. -/
def forget (w : DedupWindow) (now : Instant) : DedupWindow :=
  w.evict fun x _ => w.ttl ≤ now - x.1

/-- The window without the keys that are too many. -/
def shrink (w : DedupWindow) : DedupWindow := w.evict fun _ rest => w.capacity ≤ rest.length

/-- The window with a key behind all others. -/
def put (w : DedupWindow) (key : String) (now : Instant) : DedupWindow :=
  { w with seen := w.seen.insert key (), order := w.order ++ [(now, key)] }

/-- Put a key into the window; false if it is there already. The oldest keys give way to it. -/
def insert (w : DedupWindow) (key : String) (now : Instant) : Bool × DedupWindow :=
  let w := w.forget now
  if w.contains key then (false, w) else (true, (w.put key now).shrink)

end DedupWindow

end RealtimeChat
