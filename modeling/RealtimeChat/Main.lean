import RealtimeChat.CommandLine.Run
/-!
# The program

Gives the command line its arguments, the environment and the settings file, prints what comes out
and writes the settings file. There is no network here: every attempt to open a connection fails.
-/

namespace RealtimeChat.CommandLine

/-- What stands at a path. -/
def lookAt (path : String) : IO (Option Files.Entry) := do
  try
    return some (.file (← IO.FS.readFile path))
  catch _ =>
    try
      let _ ← IO.FS.realPath path
      return some .directory
    catch _ => return none

/-- The files on the way to a path. -/
def filesOnWay (path : String) : IO Files := do
  let p := Files.Path.ofString path
  let mut files : Files := {}
  for n in List.range p.names.length do
    let names := p.names.take (n + 1)
    let way := (if p.absolute then "/" else "") ++ String.intercalate "/" names
    match ← lookAt way with
    | some e => files := files.put (names.foldl Files.step []) e
    | none => pure ()
  return files

/-- Write a file, with the directories that it is in. -/
def writeInPlace (path text : String) : IO Unit := do
  let parents := (path.splitOn "/").dropLast
  if parents.any (· ≠ "") then IO.FS.createDirAll (String.intercalate "/" parents)
  IO.FS.writeFile path text

/-- What is around this program. -/
def surroundings (args : List String) : IO World := do
  let home ← IO.getEnv "HOME"
  let user ← IO.getEnv "COURIER_USER"
  let token ← IO.getEnv "COURIER_TOKEN"
  let path := match Invocation.read args user token with
    | .ok i => i.config.or (home.map usualPath)
    | .error _ => none
  let files ← match path with
    | some path => filesOnWay path
    | none => pure {}
  let seed ← IO.rand 0 0xffffffff
  return {
    files
    home, user, token
    outTerminal := ← (← IO.getStdout).isTty
    errorTerminal := ← (← IO.getStderr).isTty
    transport := { openFault := some (.handshake "no network") }
    entropy := ⟨fun n => hash (seed, n), 0⟩
    ids := ⟨fun n => toString seed ++ "-" ++ toString n, 0⟩ }

/-- How to use the program. -/
def usageText : String :=
  "Usage: courier [--config <PATH>] [--json] <COMMAND>\n\n" ++
  "Commands:\n" ++
  "  listen  Connect and print incoming events and session notices\n" ++
  "  send    Send one message and wait for the server to acknowledge it\n" ++
  "  config  Show or initialize the config file\n"

/-- Print what comes out, write what is to be written, and return the exit status. -/
def deliverReply : Reply → IO ExitStatus
  | .usage .success => do
    IO.print usageText
    return .success
  | .usage status => do
    IO.eprint usageText
    return status
  | .report r => do
    match r.written with
    | some (path, text) => writeInPlace path text
    | none => pure ()
    IO.print r.out
    IO.eprint r.error
    return r.status

end RealtimeChat.CommandLine

open RealtimeChat.CommandLine in
/-- The program. -/
def main (args : List String) : IO UInt32 := do
  let status ← deliverReply (run (← surroundings args) args)
  return UInt32.ofNat status.number
