import RealtimeChat.Number.Binary64
import RealtimeChat.OrderedMap
/-!
# JSON values

The values of the wire format: what frames, stored messages and the machine-readable output of
the program are made of. The members of an object keep the order in which they are listed, since
the written form has one; a value that was read has them by rising name.

* `Json`, `Json.Number` -- the values;
* `Json.sorted` -- the same value with the members of each object by rising name, the last of
  several members of one name.
-/

namespace RealtimeChat

/-- A number: an integer if it is written like one and has at most 64 bits, else a floating point
number. -/
inductive Json.Number where
  | integer (n : Int)
  | float (x : Binary64)
deriving DecidableEq, Repr

/-- A JSON value. -/
inductive Json where
  | null
  | bool (b : Bool)
  | number (n : Json.Number)
  | string (s : String)
  | array (items : List Json)
  | object (members : List (String × Json))
deriving Repr

namespace Json

instance : Inhabited Json := ⟨.null⟩

/-! ## 1. Making values -/

/-- A natural number. -/
def ofNat (n : Nat) : Json := .number (.integer n)

/-- A floating point number; infinite and absent ones are `null`. -/
def ofFloat (x : Binary64) : Json := if x.isFinite then .number (.float x) else .null

/-- `null` for an absent value. -/
def ofOption {α : Type} (f : α → Json) : Option α → Json
  | none => .null
  | some a => f a

/-- The member `name`, left out if its value is absent. -/
def optionalMember {α : Type} (name : String) (f : α → Json) : Option α → List (String × Json)
  | none => []
  | some a => [(name, f a)]

/-! ## 2. Objects by name -/

/-- The value of the member `name`. -/
def member? (name : String) : Json → Option Json
  | .object members => (members.find? (fun m => m.1 = name)).map (·.2)
  | _ => none

/-- The text, if the value is one. -/
def string? : Json → Option String
  | .string s => some s
  | _ => none

mutual

/-- The value with the members of each object by rising name; of several members of one name the
last one counts. -/
def sorted : Json → Json
  | .array items => .array (sortedItems items)
  | .object members => .object (sortedMembers [] members)
  | v => v

/-- Each item with its objects sorted. -/
def sortedItems : List Json → List Json
  | [] => []
  | v :: rest => sorted v :: sortedItems rest

/-- The members put into those that are sorted already. -/
def sortedMembers (done : List (String × Json)) : List (String × Json) → List (String × Json)
  | [] => done
  | (name, v) :: rest => sortedMembers (OrderedMap.insertEntry name (sorted v) done) rest

end

end Json

end RealtimeChat
