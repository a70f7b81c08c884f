import RealtimeChat.Json.Reading
import RealtimeChat.Settings
/-!
# Settings for other programs

The settings as JSON: a section is an object, and every value is written, also one that is absent.
What a text does not say takes its default.

* `Settings.toJson` -- the written form;
* `Settings.ofJson` -- the reader.
-/

namespace RealtimeChat.Settings

open Json

/-! ## 1. Writing -/

/-- The settings for other programs. -/
def toJson (s : Settings) : Json :=
  .object [
    ("server", .object [("ws_url", ofOption .string s.server.wsUrl),
      ("api_url", ofOption .string s.server.apiUrl),
      ("connect_timeout_ms", Json.ofNat s.server.connectTimeoutMs)]),
    ("reconnect", .object [("base_delay_ms", Json.ofNat s.reconnect.baseDelayMs),
      ("max_delay_ms", Json.ofNat s.reconnect.maxDelayMs),
      ("max_attempts", Json.ofNat s.reconnect.maxAttempts),
      ("jitter", ofFloat s.reconnect.jitter)]),
    ("heartbeat", .object [("interval_ms", Json.ofNat s.heartbeat.intervalMs),
      ("timeout_multiplier", Json.ofNat s.heartbeat.timeoutMultiplier)]),
    ("outbox", .object [("max_per_chat", Json.ofNat s.outbox.maxPerChat),
      ("ack_timeout_ms", Json.ofNat s.outbox.ackTimeoutMs),
      ("max_attempts", Json.ofNat s.outbox.maxAttempts)]),
    ("router", .object [("dedup_capacity", Json.ofNat s.router.dedupCapacity),
      ("dedup_ttl_ms", Json.ofNat s.router.dedupTtlMs),
      ("typing_expiry_ms", Json.ofNat s.router.typingExpiryMs)]),
    ("typing", .object [("idle_ms", Json.ofNat s.typing.idleMs)])]

/-! ## 2. Reading -/

/-- A floating point number, which may be written as an integer. -/
def readNumber : Reader Binary64 := fun _ v =>
  match v with
  | .number (.float x) => .ok x
  | .number (.integer n) => .ok (Binary64.ofRatio (n < 0) n.natAbs 1)
  | v => .error (.wrongType v.found "f64")

/-- A field that takes its default if it is missing or `null`. -/
def given {α : Type} (name : String) (default : α) (read : Reader α) : Fields α :=
  (fun o => o.getD default) <$> Fields.optional name [] read

/-- The section of the server. -/
def Server.ofJson : Reader Server :=
  let d : Server := {}
  record "ServerConfig" (Server.mk <$> Fields.optional "ws_url" [] readString
    <*> Fields.optional "api_url" [] readString
    <*> given "connect_timeout_ms" d.connectTimeoutMs (readNat 64))

/-- The section of connecting again. -/
def Reconnect.ofJson : Reader Reconnect :=
  let d : Reconnect := {}
  record "ReconnectConfig" (Reconnect.mk <$> given "base_delay_ms" d.baseDelayMs (readNat 64)
    <*> given "max_delay_ms" d.maxDelayMs (readNat 64)
    <*> given "max_attempts" d.maxAttempts (readNat 32)
    <*> given "jitter" d.jitter readNumber)

/-- The section of watching the connection. -/
def Heartbeat.ofJson : Reader Heartbeat :=
  let d : Heartbeat := {}
  record "HeartbeatConfig" (Heartbeat.mk <$> given "interval_ms" d.intervalMs (readNat 64)
    <*> given "timeout_multiplier" d.timeoutMultiplier (readNat 32))

/-- The section of the queue. -/
def Queue.ofJson : Reader Queue :=
  let d : Queue := {}
  record "OutboxConfig" (Queue.mk <$> given "max_per_chat" d.maxPerChat (readNat 64)
    <*> given "ack_timeout_ms" d.ackTimeoutMs (readNat 64)
    <*> given "max_attempts" d.maxAttempts (readNat 32))

/-- The section of the router. -/
def Routing.ofJson : Reader Routing :=
  let d : Routing := {}
  record "RouterConfig" (Routing.mk <$> given "dedup_capacity" d.dedupCapacity (readNat 64)
    <*> given "dedup_ttl_ms" d.dedupTtlMs (readNat 64)
    <*> given "typing_expiry_ms" d.typingExpiryMs (readNat 64))

/-- The section of typing. -/
def Typing.ofJson : Reader Typing :=
  let d : Typing := {}
  record "TypingConfig" (Typing.mk <$> given "idle_ms" d.idleMs (readNat 64))

/-- The reader of settings. -/
def ofJson : Reader Settings :=
  record "ClientConfig" (Settings.mk <$> given "server" {} Server.ofJson
    <*> given "reconnect" {} Reconnect.ofJson
    <*> given "heartbeat" {} Heartbeat.ofJson
    <*> given "outbox" {} Queue.ofJson
    <*> given "router" {} Routing.ofJson
    <*> given "typing" {} Typing.ofJson)

end RealtimeChat.Settings
