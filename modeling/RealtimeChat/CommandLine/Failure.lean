import RealtimeChat.Client
import RealtimeChat.Settings.File
/-!
# How a command fails

A command fails with a cause and with what was being done at the time. Scripts get an exit status
and a code, people a message that says what to do.

* `SessionFailure`, `Cause`, `Failure` -- what can go wrong;
* `Failure.exitStatus` -- the exit status;
* `Failure.code`, `Failure.advice` -- the code and the message.
-/

namespace RealtimeChat.CommandLine

/-! ## 1. Failures -/

/-- The end of a session, or of the one action that it was for. -/
inductive SessionFailure where
  | authRejected (reason : String)
  | reconnectExhausted (attempts : Nat)
  | notDelivered (detail : String)
deriving DecidableEq, Repr

/-- The failure in words. -/
def SessionFailure.message : SessionFailure → String
  | .authRejected reason => "authentication rejected: " ++ reason
  | .reconnectExhausted attempts =>
    "gave up reconnecting after " ++ toString attempts ++ " attempts"
  | .notDelivered detail => "action not delivered: " ++ detail

/-- The failure that a notice announces, if it ends the session. -/
def SessionFailure.ofNotice? : Notice → Option SessionFailure
  | .authFailed reason => some (.authRejected reason)
  | .reconnectExhausted attempts => some (.reconnectExhausted attempts)
  | _ => none

/-- What went wrong in the first place. -/
inductive Cause where
  | session (failure : SessionFailure)
  | client (fault : ClientFault)
  | settings (fault : Settings.FileFault)
  | system (fault : SystemFault)
  /-- Anything else. -/
  | message (text : String)
deriving DecidableEq, Repr

/-- The cause in words, followed by the words of what caused it. -/
def Cause.texts : Cause → List String
  | .session failure => [failure.message]
  | .client fault =>
    match fault with
    | .invalidAction limit => [fault.message, limit.message]
    | _ => [fault.message]
  | .settings fault =>
    match fault with
    | .system inner => [fault.message, inner.text]
    | .unreadable inner => [fault.message, inner.message]
    | .unwritable inner => [fault.message, inner.message]
    | .invalid _ => [fault.message]
  | .system fault => [fault.text]
  | .message text => [text]

/-- The refusal of the system that is the cause, if it is one. -/
def Cause.system? : Cause → Option SystemFault
  | .settings (.system fault) => some fault
  | .system fault => some fault
  | _ => none

/-- A cause and what was being done, the widest view first. -/
structure Failure where
  contexts : List String
  cause : Cause
deriving DecidableEq, Repr

namespace Failure

/-- A failure that is nothing but its cause. -/
def of (cause : Cause) : Failure := ⟨[], cause⟩

/-- The failure seen from outside. -/
def inContext (f : Failure) (context : String) : Failure :=
  { f with contexts := context :: f.contexts }

/-- The whole failure in words. -/
def text (f : Failure) : String := String.intercalate ": " (f.contexts ++ f.cause.texts)

/-! ## 2. Exit status -/

end Failure

/-- How a command ended. -/
inductive ExitStatus where
  | success
  | error
  /-- Wrong arguments or settings. -/
  | usage
  | auth
  | network
  /-- An action was rejected or not sent. -/
  | action
deriving DecidableEq, Repr

/-- The number of an exit status. -/
def ExitStatus.number : ExitStatus → Nat
  | success => 0
  | error => 1
  | usage => 2
  | auth => 11
  | network => 13
  | action => 14

/-- Whether a text occurs in another one. -/
def occursIn (needle : List Char) : List Char → Bool
  | [] => needle.isEmpty
  | c :: cs => needle.isPrefixOf (c :: cs) || occursIn needle cs

/-- Whether a message says something. -/
def mentions (message phrase : String) : Bool := occursIn phrase.toList message.toList

/-- The exit status after the end of a session. -/
def SessionFailure.exitStatus : SessionFailure → ExitStatus
  | .authRejected _ => .auth
  | .reconnectExhausted _ => .network
  | .notDelivered _ => .action

/-- The exit status after a fault of the client. -/
def faultStatus : ClientFault → ExitStatus
  | .invalidAction _ => .usage
  | .missingEndpoint => .usage
  | .settings _ => .usage
  | .duplicateAction _ => .action
  | .alreadyConnected _ => .error
  | .shutdown => .error

/-- The exit status after a refusal of the system. -/
def refusalStatus : SystemFault.Kind → ExitStatus
  | .connectionRefused => .network
  | .timedOut => .network
  | .notFound => .error
  | .other => .error

/-- The exit status that the words of a failure ask for. -/
def wordsStatus (message : String) : ExitStatus :=
  if mentions message "timed out" then .network
  else if mentions message "invalid client configuration" then .usage
  else if mentions message "failed to load config" then .usage
  else .error

/-- The exit status: by the cause if it is known, else by the words. -/
def Failure.exitStatus (f : Failure) : ExitStatus :=
  match f.cause with
  | .session failure => failure.exitStatus
  | .client fault => faultStatus fault
  | cause =>
    match cause.system? with
    | some fault => refusalStatus fault.kind
    | none => wordsStatus f.text

/-! ## 3. Code and message -/

/-- What a script learns about a failure. -/
inductive FailureCode where
  | authFailure
  | reconnectExhausted
  | actionFailed
  | missingEndpoint
  | invalidAction
  | networkTimeout
  | configError
  | clientError
deriving DecidableEq, Repr

/-- The name of a code. -/
def FailureCode.name : FailureCode → String
  | authFailure => "AUTH_FAILURE"
  | reconnectExhausted => "RECONNECT_EXHAUSTED"
  | actionFailed => "ACTION_FAILED"
  | missingEndpoint => "MISSING_ENDPOINT"
  | invalidAction => "INVALID_ACTION"
  | networkTimeout => "NETWORK_TIMEOUT"
  | configError => "CONFIG_ERROR"
  | clientError => "CLIENT_ERROR"

/-- The code that the words of a failure ask for; capital letters make no difference. -/
def wordsCode (message : String) : FailureCode :=
  let lower := String.ofList (message.toList.map Char.toLower)
  if mentions lower "timed out" then .networkTimeout
  else if mentions lower "config" then .configError
  else .clientError

namespace Failure

/-- The code: by the cause where it has one of its own, else by the words. -/
def code (f : Failure) : FailureCode :=
  match f.cause with
  | .session (.authRejected _) => .authFailure
  | .session (.reconnectExhausted _) => .reconnectExhausted
  | .session (.notDelivered _) => .actionFailed
  | .client .missingEndpoint => .missingEndpoint
  | .client (.invalidAction _) => .invalidAction
  | _ => wordsCode f.text

/-- The message for people. -/
def advice (f : Failure) : String :=
  match f.cause with
  | .session (.authRejected reason) =>
    "Authentication rejected (" ++ reason ++
      "). Check --user/--token or COURIER_USER/COURIER_TOKEN"
  | .session (.reconnectExhausted attempts) =>
    "Server unreachable after " ++ toString attempts ++
      " reconnect attempts. Check server.ws_url with: courier config show"
  | .session (.notDelivered _) => f.text
  | .client .missingEndpoint =>
    "No WebSocket endpoint configured. Run: courier config init --ws-url wss://<host>/ws " ++
      "(or pass --ws-url)"
  | .client (.invalidAction limit) => "Invalid action: " ++ limit.message
  | _ =>
    match wordsCode f.text with
    | .networkTimeout => f.text ++ ". Check that the chat server is reachable"
    | _ => f.text

end Failure

end RealtimeChat.CommandLine
