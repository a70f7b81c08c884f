import RealtimeChat.CommandLine.Failure
import RealtimeChat.Json.Printer
/-!
# What a command prints

Each result is one line: words for people, or a JSON object for other programs. A failure is one
line too.

* `Format`, `Format.choose` -- the two formats;
* `Line` -- a result in both formats;
* `Failure.line` -- a failure in one of them.
-/

namespace RealtimeChat.CommandLine

/-- How results are printed. -/
inductive Format where
  | human
  | json
deriving DecidableEq, Repr

/-- The name of a format. -/
def Format.name : Format → String
  | human => "human"
  | json => "json"

/-- Words are for terminals only, and only if JSON is not asked for. -/
def Format.choose (jsonWanted terminal : Bool) : Format :=
  if jsonWanted || !terminal then .json else .human

/-- A result in words and as JSON. -/
structure Line where
  human : String
  json : Json

/-- The line in one of the formats. -/
def Line.write (l : Line) : Format → String
  | .human => l.human ++ "\n"
  | .json => l.json.text ++ "\n"

/-- The line that tells about a failure; in words for a terminal it is coloured. -/
def Failure.line (f : Failure) (format : Format) (terminal : Bool) : String :=
  match format with
  | .json =>
    (Json.object [("error", .object [("code", .string f.code.name),
      ("message", .string f.advice)])]).text ++ "\n"
  | .human =>
    let label := if terminal then "\x1b[31merror:\x1b[0m " else "error: "
    label ++ f.advice ++ "\n"

end RealtimeChat.CommandLine
