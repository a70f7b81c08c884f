import RealtimeChat.CommandLine.Output
/-!
# Listening to chats

The events of the chats and the notices of the client, one line each.

* `ofChat` -- the events of the chat that is listened to;
* `eventLine`, `noticeLine` -- the lines.
-/

namespace RealtimeChat.CommandLine

/-- Whether an event is wanted: any event, or those of one chat. -/
def ofChat (chat : Option String) (e : Event) : Bool :=
  match chat with
  | none => true
  | some chat => e.chat = some chat

/-- An event in words. -/
def eventWords (e : Event) : String :=
  let chat := "[" ++ e.chat.getD "-" ++ "] "
  match e.payload with
  | .message m => chat ++ m.sender.getD "?" ++ ": " ++ m.content
  | .typing user true => chat ++ user ++ " is typing"
  | .typing user false => chat ++ user ++ " stopped typing"
  | .statusChange id status => chat ++ "message " ++ id ++ " is " ++ status.name
  | .presence user status => user ++ " is " ++ status.name

/-- A notice in words. -/
def noticeWords : Notice → String
  | .stateChanged before after => "session " ++ before.name ++ " -> " ++ after.name
  | .reconnectScheduled attempt delayMs =>
    "reconnect attempt " ++ toString attempt ++ " in " ++ toString delayMs ++ "ms"
  | .reconnectExhausted attempts =>
    "gave up reconnecting after " ++ toString attempts ++ " attempts"
  | .authFailed reason => "authentication rejected: " ++ reason
  | .malformedFrame reason => "ignored malformed frame: " ++ reason
  | .serverError code message => "server error " ++ code ++ ": " ++ message
  | .actionSettled s => "action " ++ s.actionId ++ " in chat " ++ s.chat ++ ": " ++ s.outcome.name
  | .historyFailed chat reason => "history resync for chat " ++ chat ++ " failed: " ++ reason

/-- The line of an event. -/
def eventLine (e : Event) : Line := ⟨eventWords e, .object [("event", e.toJson)]⟩

/-- The line of a notice. -/
def noticeLine (n : Notice) : Line := ⟨"* " ++ noticeWords n, .object [("notice", n.toJson)]⟩

end RealtimeChat.CommandLine
