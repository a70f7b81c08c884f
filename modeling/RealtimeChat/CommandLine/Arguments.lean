/-!
# The arguments of a command

A command line names a command, perhaps with a command of its own below it, and gives options,
flags and words to it. It is read from left to right and refused at the first argument that cannot
stand where it does.

* `Level` -- what may be given to a command, `levelAt` for the commands there are;
* `scan` -- the arguments sorted by what they are;
* `Invocation`, `Command` -- what the arguments ask for, `Invocation.read` the reader.
-/

namespace RealtimeChat.CommandLine

/-! ## 1. What may be given -/

/-- What the value of an option has to be. -/
inductive ValueKind where
  | text
  /-- A path is not empty. -/
  | path
  /-- A natural number of 64 bits. -/
  | natural
deriving DecidableEq, Repr

/-- What may be given to a command. -/
structure Level where
  /-- The options with a value. -/
  options : List (String × ValueKind)
  /-- The options without a value. -/
  flags : List String
  /-- The number of words. -/
  words : Nat
  /-- The commands below it, one of which has to follow. -/
  commands : List String
deriving Repr

/-- A command that takes these options and flags besides those that every command takes. -/
def Level.of (options : List (String × ValueKind)) (flags : List String) (words : Nat)
    (commands : List String) : Level :=
  ⟨("config", .path) :: options, "json" :: flags, words, commands⟩

/-- The options of commands that open a session. -/
def sessionOptions : List (String × ValueKind) :=
  [("user", .text), ("token", .text), ("ws-url", .text), ("api-url", .text)]

/-- What may be given to the command with this path of names. -/
def levelAt : List String → Level
  | ["listen"] => .of (sessionOptions ++
      [("chat", .text), ("count", .natural), ("connect-timeout", .natural)]) [] 0 []
  | ["send"] => .of (sessionOptions ++ [("timeout", .natural)]) [] 2 []
  | ["config"] => .of [] [] 0 ["show", "path", "init"]
  | ["config", "show"] => .of [] [] 0 []
  | ["config", "path"] => .of [] [] 0 []
  | ["config", "init"] => .of [("ws-url", .text), ("api-url", .text)] ["force"] 0 []
  | _ => .of [] [] 0 ["listen", "send", "config"]

/-! ## 2. Reading from left to right -/

/-- Why arguments are not carried out. -/
inductive Refusal where
  /-- Help was asked for. -/
  | help
  | wrong
deriving DecidableEq, Repr

/-- The arguments sorted by what they are. -/
structure Given where
  /-- The names of the command. -/
  path : List String := []
  /-- The values of options, the last one first. -/
  options : List (String × String) := []
  flags : List String := []
  words : List String := []
deriving DecidableEq, Repr

/-- How far the arguments were read. -/
structure Progress where
  given : Given := {}
  /-- The options and flags given to the innermost command. -/
  here : List String := []
  /-- The option whose value has to follow. -/
  pending : Option (String × ValueKind) := none
  /-- The last option with its value, which is looked at when the command goes on. -/
  held : Option (String × ValueKind × String) := none
  /-- Whether a value that cannot stand was given in front of the name of a command. -/
  spoiled : Bool := false
  /-- Whether only words may follow. -/
  wordsOnly : Bool := false
deriving DecidableEq, Repr

/-- A natural number of 64 bits, perhaps with a plus sign. -/
def natural? (s : String) : Option Nat :=
  let ds := match s.toList with
    | '+' :: ds => ds
    | ds => ds
  let n := Nat.ofDigitChars 10 ds 0
  if !ds.isEmpty && ds.all Char.isDigit && n < Nat.pow 2 64 then some n else none

/-- Whether a text may be the value of an option. -/
def ValueKind.accepts : ValueKind → String → Bool
  | text, _ => true
  | path, s => s ≠ ""
  | natural, s => (natural? s).isSome

/-- Whether an argument is not a word: it starts with a dash and goes on. -/
def isDashed (arg : String) : Bool :=
  match arg.toList with
  | '-' :: _ :: _ => true
  | _ => false

/-- The name of a long option and the value behind an equals sign, if there is one. -/
def long? (arg : String) : Option (String × Option String) :=
  match arg.toList with
  | '-' :: '-' :: cs =>
    let name := cs.takeWhile (· != '=')
    let value := match cs.drop name.length with
      | _ :: value => some (String.ofList value)
      | [] => none
    some (String.ofList name, value)
  | _ => none

namespace Progress

/-- The value of an option. -/
def give (p : Progress) (name : String) (kind : ValueKind) (value : String) :
    Except Refusal Progress :=
  if name ∈ p.here ∨ !kind.accepts value then .error .wrong
  else .ok { p with
    given := { p.given with options := (name, value) :: p.given.options }
    here := name :: p.here }

/-- Look at the option that was held back. -/
def settle (p : Progress) : Except Refusal Progress :=
  match p.held with
  | none => .ok p
  | some (name, kind, value) => { p with held := none }.give name kind value

/-- A flag. -/
def raise (p : Progress) (name : String) : Except Refusal Progress :=
  if name ∈ p.here then .error .wrong
  else .ok { p with
    given := { p.given with flags := name :: p.given.flags }
    here := name :: p.here }

/-- A word. -/
def addWord (p : Progress) (level : Level) (word : String) : Except Refusal Progress :=
  if p.given.words.length < level.words then
    .ok { p with given := { p.given with words := p.given.words ++ [word] } }
  else .error .wrong

/-- The name of a command. What was held back in front of it is refused only after all that
follows, so that help can still be asked for. -/
def enter (p : Progress) (name : String) : Progress :=
  let p := match p.settle with
    | .ok p => p
    | .error _ => { p with held := none, spoiled := true }
  { p with given := { p.given with path := p.given.path ++ [name] }, here := [] }

/-- A dashed argument. -/
def addDashed (p : Progress) (level : Level) (arg : String) : Except Refusal Progress :=
  match long? arg with
  | none => .error (if (arg.toList.drop 1).head? = some 'h' then .help else .wrong)
  | some (name, value) =>
    match level.options.lookup name, value with
    | some kind, some value => p.give name kind value
    | some kind, none => .ok { p with pending := some (name, kind) }
    | none, some _ => .error .wrong
    | none, none =>
      if name ∈ level.flags then p.raise name
      else .error (if name = "help" then .help else .wrong)

end Progress

/-- Whether help may be asked for with these names below a command. -/
def helpExists : List String → List String → Bool
  | _, [] => true
  | path, name :: rest =>
    if name ∈ (levelAt path).commands then helpExists (path ++ [name]) rest
    else name = "help" && (levelAt path).commands ≠ [] && rest.isEmpty

/-- Sort the arguments. -/
def scan (p : Progress) : List String → Except Refusal Given
  | [] =>
    match p.settle with
    | .error r => .error r
    | .ok p =>
      if p.spoiled ∨ p.pending.isSome ∨ (levelAt p.given.path).commands ≠ [] then .error .wrong
      else .ok p.given
  | arg :: rest =>
    let level := levelAt p.given.path
    match p.pending with
    | some (name, kind) =>
      if isDashed arg then .error .wrong
      else scan { p with pending := none, held := some (name, kind, arg) } rest
    | none =>
      if !p.wordsOnly && arg ∈ level.commands then scan (p.enter arg) rest
      else if !p.wordsOnly && arg = "help" && level.commands ≠ [] then
        .error (if helpExists p.given.path rest then .help else .wrong)
      else if !p.wordsOnly && arg = "--" then scan { p with wordsOnly := true } rest
      else
        let added : Except Refusal Progress := match p.settle with
          | .error r => .error r
          | .ok p =>
            if !p.wordsOnly && isDashed arg then p.addDashed level arg else p.addWord level arg
        match added with
        | .error r => .error r
        | .ok p => scan p rest

/-! ## 3. What is asked for -/

/-- Who opens a session, and where. -/
structure SessionArguments where
  user : String
  token : String
  /-- In place of the address in the settings. -/
  wsUrl : Option String
  /-- In place of the address in the settings. -/
  apiUrl : Option String
deriving DecidableEq, Repr

/-- What is to be done. -/
inductive Command where
  /-- Print what happens: in one chat or all of them, so many events or all of them. -/
  | listen (session : SessionArguments) (chat : Option String) (count : Option Nat)
      (connectTimeout : Nat)
  /-- Send a message and wait so many seconds. -/
  | send (session : SessionArguments) (chat content : String) (timeout : Nat)
  /-- Print the settings. -/
  | settingsShow
  /-- Print where the settings are. -/
  | settingsPath
  /-- Write settings with these addresses, perhaps over others. -/
  | settingsInit (wsUrl apiUrl : Option String) (force : Bool)
deriving DecidableEq, Repr

/-- A command with what every command takes. -/
structure Invocation where
  /-- The settings file, if it is not the usual one. -/
  config : Option String
  json : Bool
  command : Command
deriving DecidableEq, Repr

/-- The value given to an option. -/
def Given.option? (g : Given) (name : String) : Option String := g.options.lookup name

/-- The number given to an option. -/
def Given.natural? (g : Given) (name : String) : Option Nat :=
  (g.option? name).bind CommandLine.natural?

/-- The options of a session; user and token may come from the environment. -/
def Given.session? (g : Given) (user token : Option String) : Option SessionArguments := do
  let user ← (g.option? "user").or user
  let token ← (g.option? "token").or token
  some ⟨user, token, g.option? "ws-url", g.option? "api-url"⟩

/-- The command that sorted arguments ask for. -/
def Given.command? (g : Given) (user token : Option String) : Option Command :=
  match g.path, g.words with
  | ["listen"], [] => do
    some (.listen (← g.session? user token) (g.option? "chat") (g.natural? "count")
      ((g.natural? "connect-timeout").getD 30))
  | ["send"], [chat, content] => do
    some (.send (← g.session? user token) chat content ((g.natural? "timeout").getD 30))
  | ["config", "show"], [] => some .settingsShow
  | ["config", "path"], [] => some .settingsPath
  | ["config", "init"], [] =>
    some (.settingsInit (g.option? "ws-url") (g.option? "api-url") ("force" ∈ g.flags))
  | _, _ => none

/-- What the arguments ask for; user and token may come from the environment. -/
def Invocation.read (args : List String) (user token : Option String) :
    Except Refusal Invocation :=
  match scan {} args with
  | .error r => .error r
  | .ok g =>
    match g.command? user token with
    | none => .error .wrong
    | some command => .ok ⟨g.option? "config", "json" ∈ g.flags, command⟩

end RealtimeChat.CommandLine
