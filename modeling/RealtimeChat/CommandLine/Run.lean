import RealtimeChat.CommandLine.Arguments
import RealtimeChat.CommandLine.Listen
import RealtimeChat.CommandLine.Send
import RealtimeChat.Files
import RealtimeChat.Settings.File
import RealtimeChat.Settings.Json
/-!
# Carrying out a command

What a command does depends on the files, the environment and the terminal around it, which are
given from outside; what it prints and writes is returned.

* `World` -- what is around a command;
* `Reply`, `Report` -- what comes out of it;
* `run` -- the whole program, `filesAfter` the files that it leaves.
-/

namespace RealtimeChat.CommandLine

/-! ## 1. The data -/

/-- What is around a command. -/
structure World where
  files : Files
  home : Option String
  /-- The user and the token that the environment names. -/
  user : Option String
  token : Option String
  outTerminal : Bool
  errorTerminal : Bool
  /-- What sessions are opened with. -/
  transport : MemoryTransport
  entropy : Entropy
  ids : IdSource

/-- What a command comes to. -/
structure Report where
  status : ExitStatus
  out : String
  error : String
  /-- The file that is written, if any, and its text. -/
  written : Option (String × String)
deriving DecidableEq, Repr

/-- What comes out of a command line. -/
inductive Reply where
  /-- How to use the program; the arguments may be wrong, or help was asked for. -/
  | usage (status : ExitStatus)
  | report (report : Report)
deriving DecidableEq, Repr

/-- What a command has done before it ended or failed. -/
structure Progressed where
  out : String := ""
  written : Option (String × String) := none
  failure : Option Failure := none

/-- A command that fails before it does anything. -/
def Progressed.failed (f : Failure) : Progressed := { failure := some f }

/-! ## 2. Settings -/

/-- The usual place of the settings. -/
def usualPath (home : String) : String := home ++ "/.courier/config.toml"

/-- A refusal of the system as a fault of the settings. -/
def refused (f : Files.Fault) : Settings.FileFault :=
  .system ⟨if f = .missing then .notFound else .other, f.text⟩

/-- The settings in a file. -/
def readSettings (w : World) (path : String) : Except Settings.FileFault Settings :=
  match w.files.read path with
  | .error f => .error (refused f)
  | .ok text => Settings.ofToml text

/-- The settings in a file that somebody named. -/
def loadNamed (w : World) (path : String) : Except Failure Settings :=
  (readSettings w path).mapError fun f =>
    (Failure.of (.settings f)).inContext ("failed to load config from " ++ path)

/-- The settings: those in the named file, or those in the usual one, or the defaults if that
cannot be read. -/
def loadSettings (w : World) (path : Option String) : Except Failure Settings :=
  match path with
  | some path => loadNamed w path
  | none =>
    .ok (match w.home with
      | none => {}
      | some home => ((readSettings w (usualPath home)).toOption).getD {})

/-- The settings, if the client can run with them. -/
def demandValid (s : Settings) : Except Failure Settings :=
  match s.check with
  | .ok () => .ok s
  | .error f =>
    .error ((Failure.of (.settings (.invalid f.message))).inContext "invalid client configuration")

/-- The settings for a session. -/
def sessionSettings (w : World) (path : Option String) (a : SessionArguments) :
    Except Failure Settings := do
  let s ← loadSettings w path
  let server := { s.server with
    wsUrl := a.wsUrl.or s.server.wsUrl
    apiUrl := a.apiUrl.or s.server.apiUrl }
  demandValid { s with server }

/-- The line of settings. -/
def settingsLine (s : Settings) (words : String) : Line := ⟨words, s.toJson⟩

/-- A text without the blanks at its end. -/
def trimEnd (s : String) : String :=
  String.ofList (s.toList.reverse.dropWhile Char.isWhitespace).reverse

/-- Print the settings. -/
def showSettings (w : World) (format : Format) (path : String) : Except Failure Progressed := do
  let s ← if w.files.exists? path then loadNamed w path else .ok {}
  let text ← (s.toToml).mapError fun f =>
    (Failure.of (.settings f)).inContext "failed to render config"
  .ok { out := (settingsLine s (trimEnd text)).write format }

/-- Print where the settings are. -/
def showPath (w : World) (format : Format) (path : String) : Progressed :=
  { out := Line.write ⟨path, .object [("path", .string path),
      ("exists", .bool (w.files.exists? path))]⟩ format }

/-- Write new settings. -/
def initSettings (w : World) (format : Format) (path : String) (wsUrl apiUrl : Option String)
    (force : Bool) : Except Failure Progressed :=
  if w.files.exists? path ∧ !force then
    .error (.of (.message
      ("config file " ++ path ++ " already exists (use --force to overwrite)")))
  else do
    let s ← demandValid { server := { wsUrl, apiUrl } }
    let failed (f : Settings.FileFault) : Failure :=
      (Failure.of (.settings f)).inContext ("failed to write config to " ++ path)
    let text ← s.toToml.mapError failed
    let _ ← (w.files.save path text).mapError (fun f => failed (refused f))
    .ok { out := (settingsLine s ("Wrote " ++ path)).write format, written := some (path, text) }

/-! ## 3. Sessions -/

/-- A client with these settings. -/
def start (w : World) (s : Settings) : Except Failure Timeline :=
  match Client.new s w.transport w.entropy w.ids none none with
  | .error f => .error (.of (.client f))
  | .ok client => .ok ⟨client, 0⟩

/-- Send a message. -/
def send (w : World) (format : Format) (path : Option String) (a : SessionArguments)
    (chat content : String) (timeout : Nat) : Except Failure Progressed := do
  let s ← sessionSettings w path a
  let t ← (start w s).mapError (·.inContext "failed to start client")
  let r ← (deliver t ⟨a.user, a.token⟩ chat content timeout).1
  let failure := if r.outcome.isDelivered then none
    else some (Failure.of (.session (.notDelivered r.words)))
  .ok { out := r.line.write format, failure }

/-- Print what has happened when the session is open, up to so many events. -/
def listen (w : World) (format : Format) (path : Option String) (a : SessionArguments)
    (chat : Option String) (count : Option Nat) (connectTimeout : Nat) :
    Except Failure Progressed := do
  let s ← sessionSettings w path a
  let t ← start w s
  let subscribed := [Event.Kind.message, .typing, .statusChange, .presence].foldl
    (fun (t : Timeline) kind => (t.act (fun c now => c.subscribe kind now)).2) t
  let (inbox, t) := subscribed.act (fun c now => c.subscribeNotices now)
  let inbox ← inbox.mapError (fun f => .of (.client f))
  let (opened, t) := openSession t ⟨a.user, a.token⟩ inbox connectTimeout
  opened
  let (notices, client) := t.client.drainNotices inbox
  let (deliveries, _) := client.takeDeliveries
  let events := (deliveries.map (·.event)).filter (ofChat chat)
  let wanted := match count with
    | none => events
    | some n => events.take (max n 1)
  let lines := notices.map noticeLine ++ wanted.map eventLine
  .ok { out := String.join (lines.map (·.write format))
        failure := (notices.findSome? SessionFailure.ofNotice?).map fun f => .of (.session f) }

/-! ## 4. Commands -/

/-- The settings file that a command is about. -/
def settingsFile (w : World) (config : Option String) : Except Failure String :=
  match config, w.home with
  | some path, _ => .ok path
  | none, some home => .ok (usualPath home)
  | none, none => .error (.of (.message
      "could not determine the home directory for the config file"))

/-- Carry out a command. -/
def perform (w : World) (format : Format) (i : Invocation) : Except Failure Progressed :=
  match i.command with
  | .listen session chat count connectTimeout =>
    listen w format i.config session chat count connectTimeout
  | .send session chat content timeout => send w format i.config session chat content timeout
  | .settingsShow => do showSettings w format (← settingsFile w i.config)
  | .settingsPath => do .ok (showPath w format (← settingsFile w i.config))
  | .settingsInit wsUrl apiUrl force => do
    initSettings w format (← settingsFile w i.config) wsUrl apiUrl force

/-- What a command comes to. -/
def report (w : World) (i : Invocation) : Report :=
  let format := Format.choose i.json w.outTerminal
  let done := match perform w format i with
    | .ok done => done
    | .error f => .failed f
  match done.failure with
  | none => ⟨.success, done.out, "", done.written⟩
  | some f => ⟨f.exitStatus, done.out, f.line format w.errorTerminal, done.written⟩

/-- The files after a command. -/
def filesAfter (w : World) (r : Report) : Files :=
  match r.written with
  | none => w.files
  | some (path, text) => ((w.files.save path text).toOption).getD w.files

/-- The whole program: what comes out of its arguments. -/
def run (w : World) (args : List String) : Reply :=
  match Invocation.read args w.user w.token with
  | .error .help => .usage .success
  | .error .wrong => .usage .usage
  | .ok i => .report (report w i)

end RealtimeChat.CommandLine
