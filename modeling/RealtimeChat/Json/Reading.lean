import RealtimeChat.Json
import RealtimeChat.Number.Shortest
import RealtimeChat.Text.Quoted
import RealtimeChat.Timestamp.Text
/-!
# Values of a type from JSON values

A reader turns a JSON value into a value of some type or says what is wrong with it. Records are
read field by field, from an object by name or from an array by position; of several faults the
one that stands first in the value is reported, and a missing field after all others.

* `Json.ReadFault` -- what can be wrong, and `ReadFault.message`, its text;
* `Json.Reader` -- readers, with `string`, `bool`, `optional`, `choice` and so on;
* `Json.Fields` -- the fields of a record, put together with `<$>` and `<*>`;
* `Json.record`, `Json.tagged` -- records, and records that name their own case.
-/

namespace RealtimeChat.Json

open RealtimeChat.Text

/-! ## 1. Faults -/

/-- What is wrong with a value. -/
inductive ReadFault where
  /-- A value of another kind than expected. -/
  | wrongType (found expected : String)
  /-- A value of the right kind that cannot be accepted. -/
  | wrongValue (found expected : String)
  /-- An array with another number of items than expected. -/
  | wrongLength (length : Nat) (expected : String)
  /-- A name that is none of those known. -/
  | unknownVariant (name : String) (known : List String)
  /-- A field that has to be present. -/
  | missingField (name : String)
  /-- A field that is given twice. -/
  | duplicateField (name : String)
  /-- A text that is no timestamp. -/
  | timestamp (fault : Timestamp.Fault)
deriving DecidableEq, Repr

/-- A name between grave accents. -/
def ticked (s : String) : String := "`" ++ s ++ "`"

/-- The names to choose from. -/
def oneOf (names : List String) : String :=
  match names with
  | [a] => ticked a
  | [a, b] => ticked a ++ " or " ++ ticked b
  | names => "one of " ++ String.intercalate ", " (names.map ticked)

/-- The fault in words. -/
def ReadFault.message : ReadFault → String
  | .wrongType found expected => "invalid type: " ++ found ++ ", expected " ++ expected
  | .wrongValue found expected => "invalid value: " ++ found ++ ", expected " ++ expected
  | .wrongLength n expected => "invalid length " ++ toString n ++ ", expected " ++ expected
  | .unknownVariant name known =>
    "unknown variant " ++ ticked name ++ ", expected " ++ oneOf known
  | .missingField name => "missing field " ++ ticked name
  | .duplicateField name => "duplicate field " ++ ticked name
  | .timestamp fault => fault.message

/-- How a message names a value that it does not accept. -/
def found : Json → String
  | .null => "null"
  | .bool b => "boolean " ++ ticked (toString b)
  | .number (.integer n) => "integer " ++ ticked (toString n)
  | .number (.float x) => "floating point " ++ ticked (Shortest.compact x)
  | .string s => "string " ++ quoted s
  | .array _ => "sequence"
  | .object _ => "map"

/-! ## 2. Readers of single values -/

/-- Where a value stands: by itself, or inside one whose case was found by looking into it. -/
inductive Setting where
  | plain
  | cased
deriving DecidableEq, Repr

/-- A reader of values of a type. -/
abbrev Reader (α : Type) := Setting → Json → Except ReadFault α

/-- A text. -/
def readString : Reader String := fun _ v =>
  match v with
  | .string s => .ok s
  | v => .error (.wrongType v.found "a string")

/-- A truth value. -/
def readBool : Reader Bool := fun _ v =>
  match v with
  | .bool b => .ok b
  | v => .error (.wrongType v.found "a boolean")

/-- A natural number of `bits` bits. -/
def readNat (bits : Nat) : Reader Nat := fun _ v =>
  let expected := "u" ++ toString bits
  match v with
  | .number (.integer n) =>
    if 0 ≤ n ∧ n < Int.pow 2 bits then .ok n.toNat
    else .error (.wrongValue v.found expected)
  | v => .error (.wrongType v.found expected)

/-- A timestamp. -/
def readTimestamp : Reader Timestamp := fun _ v =>
  match v with
  | .string s => (Timestamp.read s).mapError .timestamp
  | v => .error (.wrongType v.found "an RFC 3339 formatted date and time string")

/-- A value that may be `null`. -/
def readOptional {α : Type} (read : Reader α) : Reader (Option α) := fun setting v =>
  match v with
  | .null => .ok none
  | v => (read setting v).map some

/-- A list of values. -/
def readList {α : Type} (read : Reader α) : Reader (List α) := fun setting v =>
  match v with
  | .array items => items.mapM (read setting)
  | v => .error (.wrongType v.found "a sequence")

/-- The value that a name stands for. -/
def lookupVariant {α : Type} (variants : List (String × α)) (name : String) :
    Except ReadFault α :=
  match variants.lookup name with
  | some a => .ok a
  | none => .error (.unknownVariant name (variants.map (·.1)))

/-- One of several named values, given by its name or as an object `{name: null}`. -/
def readChoice {α : Type} (variants : List (String × α)) : Reader α := fun setting v =>
  match v with
  | .string s => lookupVariant variants s
  | .object [(name, content)] => do
    let a ← lookupVariant variants name
    match content, setting with
    | .null, _ => .ok a
    | .object [], .cased => .ok a
    | v, _ => .error (.wrongType v.found "unit")
  | .object _ => .error (.wrongValue v.found "map with a single key")
  | v => .error (.wrongType v.found "string or map")

/-! ## 3. The fields of a record -/

/-- A fault and its place among the members or items of the value. -/
structure Misread where
  place : Nat
  fault : ReadFault
deriving DecidableEq, Repr

/-- The earlier of two faults, the first of two at one place. -/
def Misread.earlier (a b : Misread) : Misread := if b.place < a.place then b else a

/-- What the fields of a record are read from. -/
inductive Source where
  /-- The members of an object. -/
  | members (setting : Setting) (list : List (String × Json))
  /-- The items of an array; the text says how many are needed. -/
  | items (setting : Setting) (list : List Json) (needed : String)

/-- Some fields of a record: how many there are, and how to read them if `first` of the record's
fields stand in front of them. -/
structure Fields (α : Type) where
  count : Nat
  read : (first : Nat) → Source → Except Misread α

namespace Fields

/-- Both results, or the earlier fault. -/
def both {α β γ : Type} (f : α → β → γ) : Except Misread α → Except Misread β → Except Misread γ
  | .ok a, .ok b => .ok (f a b)
  | .ok _, .error e => .error e
  | .error e, .ok _ => .error e
  | .error e, .error e' => .error (e.earlier e')

instance : Functor Fields where
  map f x := ⟨x.count, fun first src => (x.read first src).map f⟩

instance : Applicative Fields where
  pure a := ⟨0, fun _ _ => .ok a⟩
  seq f x :=
    let x := x ()
    ⟨f.count + x.count, fun first src =>
      both (fun f a => f a) (f.read first src) (x.read (first + f.count) src)⟩

/-- The members under one of the names, with their places. -/
def entries (names : List String) (list : List (String × Json)) : List (Json × Nat) :=
  (list.zipIdx.filter (fun e => e.1.1 ∈ names)).map (fun e => (e.1.2, e.2))

/-- A field under one of several names, the first of which is used in messages. `absent` says
what a missing field counts as. -/
def field {α : Type} (name : String) (aliases : List String) (absent : Option α)
    (read : Reader α) : Fields α where
  count := 1
  read first
    | .members setting list =>
      match entries (name :: aliases) list with
      | [] =>
        match absent with
        | some a => .ok a
        | none => .error ⟨list.length, .missingField name⟩
      | (v, place) :: rest =>
        match read setting v, rest with
        | .error f, _ => .error ⟨place, f⟩
        | .ok a, [] => .ok a
        | .ok _, (_, place) :: _ => .error ⟨place, .duplicateField name⟩
    | .items setting list needed =>
      match list[first]? with
      | some v => (read setting v).mapError (fun f => ⟨first, f⟩)
      | none =>
        match absent with
        | some a => .ok a
        | none => .error ⟨first, .wrongLength first needed⟩

/-- A field that has to be present. -/
def required {α : Type} (name : String) (aliases : List String) (read : Reader α) : Fields α :=
  field name aliases none read

/-- A field with a default value. -/
def withDefault {α : Type} (name : String) (aliases : List String) (default : α)
    (read : Reader α) : Fields α :=
  field name aliases (some default) read

/-- A field that may be missing or `null`. -/
def optional {α : Type} (name : String) (aliases : List String) (read : Reader α) :
    Fields (Option α) :=
  field name aliases (some none) (readOptional read)

end Fields

/-- The fields from the members of an object; members with other names are ignored. -/
def readMembers {α : Type} (fields : Fields α) (setting : Setting)
    (members : List (String × Json)) : Except ReadFault α :=
  (fields.read 0 (.members setting members)).mapError (·.fault)

/-- A number of elements in words. -/
def elements (n : Nat) : String := if n = 1 then "1 element" else toString n ++ " elements"

/-- The fields from the items of an array, which has to have no further items. -/
def readItems {α : Type} (kind : String) (fields : Fields α) (setting : Setting)
    (items : List Json) : Except ReadFault α :=
  match fields.read 0 (.items setting items (kind ++ " with " ++ elements fields.count)) with
  | .error e => .error e.fault
  | .ok a =>
    if items.length ≤ fields.count then .ok a
    else .error (.wrongLength items.length (match setting with
      | .plain => "fewer elements in array"
      | .cased => elements fields.count ++ " in sequence"))

/-- A record from the members of an object or the items of an array. -/
def record {α : Type} (name : String) (fields : Fields α) : Reader α := fun setting v =>
  match v with
  | .object members => readMembers fields setting members
  | .array items => readItems ("struct " ++ name) fields setting items
  | v => .error (.wrongType v.found ("struct " ++ name))

/-! ## 4. Records that name their own case -/

/-- One case of a type: its name in messages and its fields, if it has any. -/
structure Case (α : Type) where
  name : String
  fields : Fields α

/-- The case that the value of the tag names. -/
def readTag {α : Type} (cases : List (String × Case α)) : Json → Except ReadFault (Case α)
  | .string s => lookupVariant cases s
  | v => .error (.wrongType v.found "variant identifier")

/-- A record whose member `tag`, or first item, names its case. -/
def tagged {α : Type} (typeName tag : String) (cases : List (String × Case α)) : Reader α :=
  fun _ v =>
    match v with
    | .object members =>
      match members.find? (fun m => m.1 = tag) with
      | none => .error (.missingField tag)
      | some (_, t) => do
        let c ← readTag cases t
        readMembers c.fields .cased (members.filter (fun m => m.1 ≠ tag))
    | .array [] => .error (.missingField tag)
    | .array (t :: rest) => do
      let c ← readTag cases t
      readItems ("struct variant " ++ typeName ++ "::" ++ c.name) c.fields .cased rest
    | v => .error (.wrongType v.found ("internally tagged enum " ++ typeName))

end RealtimeChat.Json
