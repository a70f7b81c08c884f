import RealtimeChat.Settings.Check
import RealtimeChat.Toml.Parser
import RealtimeChat.Toml.Printer
/-!
# The settings file

The settings are kept in a file, in sections of the names used here. What the file does not say
takes its default, and what it says beyond that is ignored.

* `Settings.ofToml` -- the settings that a file is written for;
* `Settings.toToml` -- the text of a file for the settings;
* `Settings.FileFault` -- what can go wrong.
-/

namespace RealtimeChat

/-! ## 1. Faults -/

/-- What the system refuses. -/
inductive SystemFault.Kind where
  | connectionRefused
  | timedOut
  | notFound
  | other
deriving DecidableEq, Repr

/-- A refusal of the system, in its words. -/
structure SystemFault where
  kind : SystemFault.Kind
  text : String
deriving DecidableEq, Repr

namespace Settings

/-- What can go wrong with settings in a file. -/
inductive FileFault where
  | system (fault : SystemFault)
  | unreadable (fault : Toml.Fault)
  | unwritable (fault : Toml.Fault)
  /-- The client cannot run with the settings. -/
  | invalid (reason : String)
deriving DecidableEq, Repr

/-- The fault in words. -/
def FileFault.message : FileFault → String
  | .system fault => "config I/O error: " ++ fault.text
  | .unreadable fault => "config parse error: " ++ fault.message
  | .unwritable fault => "config serialize error: " ++ fault.message
  | .invalid reason => invalidText reason

/-! ## 2. Reading -/

open Toml (Value)

/-- A text. -/
def readText : Value → Except Toml.Fault (Option String)
  | .string s => .ok (some s)
  | _ => .error (.wrongKind "a string")

/-- A natural number of so many bits. -/
def readNat (bits : Nat) : Value → Except Toml.Fault Nat
  | .integer n => if 0 ≤ n ∧ n < Int.pow 2 bits then .ok n.toNat else .error .outOfRange
  | _ => .error (.wrongKind "an integer")

/-- A floating point number, which may be written as an integer. -/
def readFloat : Value → Except Toml.Fault Binary64
  | .float x => .ok x
  | .integer n => .ok (Binary64.ofRatio (n < 0) n.natAbs 1)
  | _ => .error (.wrongKind "a number")

/-- The field of a section: by its name in a table, by its place in an array. A time counts as a
table without entries. -/
def field {α : Type} (v : Value) (place : Nat) (name : String) (default : α)
    (read : Value → Except Toml.Fault α) : Except Toml.Fault α :=
  let found : Except Toml.Fault (Option Value) := match v with
    | .table _ entries => .ok (Toml.get? name entries)
    | .array items => .ok items[place]?
    | .tables elements => .ok (elements[place]?.map (.table .heading))
    | .moment _ => .ok none
    | _ => .error (.wrongKind "a table")
  match found with
  | .error f => .error f
  | .ok none => .ok default
  | .ok (some v) => read v

/-- The section of the server. -/
def Server.read (v : Value) : Except Toml.Fault Server := do
  let d : Server := {}
  .ok {
    wsUrl := ← field v 0 "ws_url" d.wsUrl readText
    apiUrl := ← field v 1 "api_url" d.apiUrl readText
    connectTimeoutMs := ← field v 2 "connect_timeout_ms" d.connectTimeoutMs (readNat 64) }

/-- The section of connecting again. -/
def Reconnect.read (v : Value) : Except Toml.Fault Reconnect := do
  let d : Reconnect := {}
  .ok {
    baseDelayMs := ← field v 0 "base_delay_ms" d.baseDelayMs (readNat 64)
    maxDelayMs := ← field v 1 "max_delay_ms" d.maxDelayMs (readNat 64)
    maxAttempts := ← field v 2 "max_attempts" d.maxAttempts (readNat 32)
    jitter := ← field v 3 "jitter" d.jitter readFloat }

/-- The section of watching the connection. -/
def Heartbeat.read (v : Value) : Except Toml.Fault Heartbeat := do
  let d : Heartbeat := {}
  .ok {
    intervalMs := ← field v 0 "interval_ms" d.intervalMs (readNat 64)
    timeoutMultiplier := ← field v 1 "timeout_multiplier" d.timeoutMultiplier (readNat 32) }

/-- The section of the queue. -/
def Queue.read (v : Value) : Except Toml.Fault Queue := do
  let d : Queue := {}
  .ok {
    maxPerChat := ← field v 0 "max_per_chat" d.maxPerChat (readNat 64)
    ackTimeoutMs := ← field v 1 "ack_timeout_ms" d.ackTimeoutMs (readNat 64)
    maxAttempts := ← field v 2 "max_attempts" d.maxAttempts (readNat 32) }

/-- The section of the router. -/
def Routing.read (v : Value) : Except Toml.Fault Routing := do
  let d : Routing := {}
  .ok {
    dedupCapacity := ← field v 0 "dedup_capacity" d.dedupCapacity (readNat 64)
    dedupTtlMs := ← field v 1 "dedup_ttl_ms" d.dedupTtlMs (readNat 64)
    typingExpiryMs := ← field v 2 "typing_expiry_ms" d.typingExpiryMs (readNat 64) }

/-- The section of typing. -/
def Typing.read (v : Value) : Except Toml.Fault Typing := do
  let d : Typing := {}
  .ok { idleMs := ← field v 0 "idle_ms" d.idleMs (readNat 64) }

/-- The settings of a file's table. -/
def readTable (entries : Toml.Entries) : Except Toml.Fault Settings := do
  let file := Value.table .heading entries
  .ok {
    server := ← field file 0 "server" {} Server.read
    reconnect := ← field file 1 "reconnect" {} Reconnect.read
    heartbeat := ← field file 2 "heartbeat" {} Heartbeat.read
    outbox := ← field file 3 "outbox" {} Queue.read
    router := ← field file 4 "router" {} Routing.read
    typing := ← field file 5 "typing" {} Typing.read }

/-- The settings that the text of a file is written for. -/
def ofToml (text : String) : Except FileFault Settings :=
  match Toml.parse text with
  | .error f => .error (.unreadable f)
  | .ok entries =>
    match readTable entries with
    | .error f => .error (.unreadable f)
    | .ok s => .ok s

/-! ## 3. Writing -/

/-- The text of a file for the settings. -/
def toToml (s : Settings) : Except FileFault String :=
  let optional (name : String) (value : Option String) : List (String × Toml.Scalar) :=
    value.toList.map fun v => (name, .text v)
  (Toml.write [
    ("server", optional "ws_url" s.server.wsUrl ++ optional "api_url" s.server.apiUrl ++
      [("connect_timeout_ms", .natural s.server.connectTimeoutMs)]),
    ("reconnect", [("base_delay_ms", .natural s.reconnect.baseDelayMs),
      ("max_delay_ms", .natural s.reconnect.maxDelayMs),
      ("max_attempts", .natural s.reconnect.maxAttempts),
      ("jitter", .float s.reconnect.jitter)]),
    ("heartbeat", [("interval_ms", .natural s.heartbeat.intervalMs),
      ("timeout_multiplier", .natural s.heartbeat.timeoutMultiplier)]),
    ("outbox", [("max_per_chat", .natural s.outbox.maxPerChat),
      ("ack_timeout_ms", .natural s.outbox.ackTimeoutMs),
      ("max_attempts", .natural s.outbox.maxAttempts)]),
    ("router", [("dedup_capacity", .natural s.router.dedupCapacity),
      ("dedup_ttl_ms", .natural s.router.dedupTtlMs),
      ("typing_expiry_ms", .natural s.router.typingExpiryMs)]),
    ("typing", [("idle_ms", .natural s.typing.idleMs)])]).mapError .unwritable

end Settings

end RealtimeChat
