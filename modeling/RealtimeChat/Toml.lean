import RealtimeChat.Number.Binary64
/-!
# The values of a settings file

A settings file in the format TOML is a table of named values, some of which are tables again.
How a table came to be decides what may still be added to it: a table with a heading of its own is
written once, one that a dotted name brought along grows by dotted names only, and one between
braces is complete.

* `Toml.Value`, `Toml.Origin` -- the values;
* `Toml.addHeading`, `addElement`, `addValue` -- what the lines of a file add to its table.
-/

namespace RealtimeChat.Toml

/-! ## 1. The data -/

/-- Why a text is not a settings file, or a value is not the one wanted. -/
inductive Fault where
  /-- The text stops inside a value. -/
  | unexpectedEnd
  /-- A character that cannot stand where it does. -/
  | unexpected (c : Char)
  /-- A backslash with something behind it that means nothing. -/
  | badEscape
  /-- A word that is neither a number nor a truth value nor a time. -/
  | badWord (word : String)
  /-- Too many values nested in each other, or too many parts of a name. -/
  | tooDeep
  /-- A name that is given to two values. -/
  | duplicate (name : String)
  /-- A name that stands for no table, used as if it did. -/
  | notTable (name : String)
  /-- A value of another kind than expected. -/
  | wrongKind (expected : String)
  /-- A number beyond the range of its kind. -/
  | outOfRange
deriving DecidableEq, Repr

/-- The fault in words. -/
def Fault.message : Fault → String
  | .unexpectedEnd => "unexpected end of text"
  | .unexpected c => "unexpected character " ++ c.toString
  | .badEscape => "invalid escape"
  | .badWord word => "invalid value " ++ word
  | .tooDeep => "value nested too deeply"
  | .duplicate name => "duplicate key " ++ name
  | .notTable name => "key " ++ name ++ " is not a table"
  | .wrongKind expected => "invalid type, expected " ++ expected
  | .outOfRange => "number out of range"

/-- How a table came to be. -/
inductive Origin where
  /-- By a heading of its own. -/
  | heading
  /-- As part of a longer heading. -/
  | implied
  /-- As part of a dotted name. -/
  | dotted
  /-- Between braces. -/
  | inline
deriving DecidableEq, Repr

/-- A value. -/
inductive Value where
  | string (s : String)
  | integer (n : Int)
  | float (x : Binary64)
  | boolean (b : Bool)
  /-- A date, a time of day or both. -/
  | moment (text : String)
  | array (items : List Value)
  | table (origin : Origin) (entries : List (String × Value))
  /-- Tables that share one heading, in the order of their headings. -/
  | tables (elements : List (List (String × Value)))
deriving Repr

/-- The named values of a table. -/
abbrev Entries := List (String × Value)

/-! ## 2. Growing tables -/

/-- The value of a name. -/
def get? (name : String) (entries : Entries) : Option Value := entries.lookup name

/-- The entries with another value for a name that has one. -/
def replace (name : String) (v : Value) (entries : Entries) : Entries :=
  entries.map fun e => if e.1 = name then (name, v) else e

/-- Change the table at a path. Tables that are missing on the way are made with the origin
`fresh`; of tables that share a heading the last one is taken. A way of dotted names does not lead
through a table with a heading of its own. -/
def change (fresh : Origin) (f : Origin → Entries → Except Fault Entries) :
    List String → Origin → Entries → Except Fault Entries
  | [], origin, entries => f origin entries
  | name :: path, _, entries =>
    match get? name entries with
    | none => do
      let inner ← change fresh f path fresh []
      .ok (entries ++ [(name, .table fresh inner)])
    | some (.table origin inner) =>
      if origin = .inline then .error (.notTable name)
      else if fresh = .dotted ∧ origin = .heading then .error (.duplicate name)
      else do
        let inner ← change fresh f path origin inner
        .ok (replace name (.table origin inner) entries)
    | some (.tables elements) => do
      let last ← change fresh f path .heading (elements.getLast?.getD [])
      .ok (replace name (.tables (elements.dropLast ++ [last])) entries)
    | some _ => .error (.notTable name)

/-- A heading: a table that has none yet. -/
def addHeading (path : List String) (name : String) (root : Entries) : Except Fault Entries :=
  change .implied (fun _ entries =>
    match get? name entries with
    | none => .ok (entries ++ [(name, .table .heading [])])
    | some (.table .implied inner) => .ok (replace name (.table .heading inner) entries)
    | some _ => .error (.duplicate name)) path .heading root

/-- The heading of one more table of the same name. -/
def addElement (path : List String) (name : String) (root : Entries) : Except Fault Entries :=
  change .implied (fun _ entries =>
    match get? name entries with
    | none => .ok (entries ++ [(name, .tables [[]])])
    | some (.tables elements) => .ok (replace name (.tables (elements ++ [[]])) entries)
    | some _ => .error (.duplicate name)) path .heading root

/-- A value with a dotted name, which consists of a path and a last part. -/
def addValue (path : List String) (name : String) (v : Value) (entries : Entries) :
    Except Fault Entries :=
  change .dotted (fun origin entries =>
    if (origin = .dotted) = path.isEmpty then .error (.duplicate name)
    else match get? name entries with
      | none => .ok (entries ++ [(name, v)])
      | some _ => .error (.duplicate name)) path .heading entries

/-- A value with a dotted name in the table under a heading. -/
def addValueUnder (heading path : List String) (name : String) (v : Value) (root : Entries) :
    Except Fault Entries :=
  change .implied (fun _ entries => addValue path name v entries) heading .heading root

end RealtimeChat.Toml
