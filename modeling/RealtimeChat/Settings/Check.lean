import RealtimeChat.Settings
import RealtimeChat.Url
/-!
# Whether the client can run with its settings

The server has to be reached over an encrypted connection, unless it is on the machine itself,
and nothing may be zero that others are counted or waited by.

* `Settings.Invalid` -- what is wrong with settings;
* `Settings.checkWsUrl`, `checkApiUrl` -- the addresses;
* `Settings.check` -- all of it, in a fixed order.
-/

namespace RealtimeChat.Settings

/-- What is wrong with settings. -/
inductive Invalid where
  | badWsUrl (value : String) (fault : Url.Fault)
  | insecureWsUrl
  | badApiUrl (value : String) (fault : Url.Fault)
  | insecureApiUrl
  | noConnectTimeout
  | noHeartbeat
  | badReconnectDelays
  | badJitter
  | noOutbox
deriving DecidableEq, Repr

/-- The fault in words. -/
def Invalid.message : Invalid → String
  | .badWsUrl value fault => "invalid ws_url `" ++ value ++ "`: " ++ fault.message
  | .insecureWsUrl => "ws_url must use wss (ws is allowed only for localhost testing)"
  | .badApiUrl value fault => "invalid api_url `" ++ value ++ "`: " ++ fault.message
  | .insecureApiUrl => "api_url must use https (http is allowed only for localhost testing)"
  | .noConnectTimeout => "server.connect_timeout_ms must be > 0"
  | .noHeartbeat => "heartbeat interval and multiplier must be > 0"
  | .badReconnectDelays => "reconnect delays must satisfy 0 < base_delay_ms <= max_delay_ms"
  | .badJitter => "reconnect jitter must be within [0, 1]"
  | .noOutbox => "outbox bounds must be > 0"

/-- The message that the client cannot run with its settings. -/
def invalidText (reason : String) : String := "invalid config: " ++ reason

/-- The fault as a message about the settings. -/
def Invalid.text (i : Invalid) : String := invalidText i.message

/-- An address of the web with the scheme `secure`, or with the scheme `plain` if it is on the
machine itself. -/
def checkUrl (secure plain value : String) (bad : Url.Fault → Invalid) (insecure : Invalid) :
    Except Invalid Url :=
  match Address.parse value with
  | .error f => .error (bad f)
  | .ok (.other _) => .error insecure
  | .ok (.web u) =>
    if u.scheme = secure ∨ (u.scheme = plain ∧ u.host.isLoopback) then .ok u else .error insecure

/-- The address of the live connection. -/
def checkWsUrl (value : String) : Except Invalid Url :=
  checkUrl "wss" "ws" value (.badWsUrl value) .insecureWsUrl

/-- The address from which missed messages are fetched. -/
def checkApiUrl (value : String) : Except Invalid Url :=
  checkUrl "https" "http" value (.badApiUrl value) .insecureApiUrl

/-- The first fault of an optional value. -/
def checkOptional (check : String → Except Invalid Url) : Option String → Except Invalid Unit
  | none => .ok ()
  | some value => (check value).map (fun _ => ())

/-- A fault if a condition does not hold. -/
def demand (condition : Bool) (fault : Invalid) : Except Invalid Unit :=
  if condition then .ok () else .error fault

end RealtimeChat.Settings

namespace RealtimeChat

/-- Whether the client can run with its settings; the first fault if not. -/
def Settings.check (s : Settings) : Except Settings.Invalid Unit := do
  Settings.checkOptional Settings.checkWsUrl s.server.wsUrl
  Settings.checkOptional Settings.checkApiUrl s.server.apiUrl
  Settings.demand (0 < s.server.connectTimeoutMs) .noConnectTimeout
  Settings.demand (0 < s.heartbeat.intervalMs && 0 < s.heartbeat.timeoutMultiplier) .noHeartbeat
  Settings.demand (0 < s.reconnect.baseDelayMs && s.reconnect.baseDelayMs ≤ s.reconnect.maxDelayMs)
    .badReconnectDelays
  Settings.demand ((Binary64.zero false).le s.reconnect.jitter && s.reconnect.jitter.le .one)
    .badJitter
  Settings.demand (0 < s.outbox.maxPerChat && 0 < s.outbox.ackTimeoutMs) .noOutbox

end RealtimeChat
