import RealtimeChat.Client.Timeline
import RealtimeChat.CommandLine.Output
/-!
# Sending one message

A session is opened, the message is sent, and the server's answer is waited for, each for some
time at most.

* `openSession` -- a session that is active, or the reason why there is none;
* `deliver` -- a message and what became of it;
* `SendResult.line` -- the result.
-/

namespace RealtimeChat.CommandLine

/-! ## 1. Results -/

/-- What became of a message. -/
structure SendResult where
  actionId : String
  chat : String
  outcome : Action.Outcome
deriving DecidableEq, Repr

/-- The result in words. -/
def SendResult.words (r : SendResult) : String :=
  match r.outcome with
  | .delivered (some id) duplicate =>
    "Sent to chat " ++ r.chat ++ " as " ++ id ++ if duplicate then " (already applied)" else ""
  | .delivered none _ => "Sent to chat " ++ r.chat ++ " (action " ++ r.actionId ++ ")"
  | .rejected reason => "Rejected by server: " ++ reason
  | .failed attempts => "No ack after " ++ toString attempts ++ " attempts"
  | .dropped => "Dropped: the chat queue is full"
  | .collapsed => "Cancelled before it was sent (action " ++ r.actionId ++ ")"
  | .cancelled => "Cancelled before it was sent (action " ++ r.actionId ++ ")"

/-- The line of a result. -/
def SendResult.line (r : SendResult) : Line :=
  ⟨r.words, .object [("action_id", .string r.actionId), ("chat_id", .string r.chat),
    ("outcome", r.outcome.toJson)]⟩

/-! ## 2. Opening and sending -/

/-- Open a session and wait until it is active or there is no point in waiting any more. The
notices that explain a failure are read from the inbox. -/
def openSession (t : Timeline) (credentials : Credentials) (inbox : Nat) (seconds : Nat) :
    Except Failure Unit × Timeline :=
  let (answer, t) := t.act (fun c now => c.connect credentials now)
  match answer with
  | .error f => (.error ((Failure.of (.client f)).inContext "failed to start session"), t)
  | .ok () =>
    let settled (s : Session.State) : Bool := s = .active || s = .failed
    let (reached, t) := t.waitForState settled (.ofSeconds seconds)
    let state := t.client.state
    if !t.client.running && !reached then
      (.error (.of (.message ClientFault.shutdown.message)), t)
    else if !reached then
      (.error (.of (.message ("timed out after " ++ toString seconds ++
        "s waiting for the session (state: " ++ state.name ++ ")"))), t)
    else if state = .active then (.ok (), t)
    else
      let (notices, client) := t.client.drainNotices inbox
      let t := { t with client }
      match notices.findSome? SessionFailure.ofNotice? with
      | some failure => (.error (.of (.session failure)), t)
      | none => (.error (.of (.message "session failed")), t)

/-- Wait for the outcome of an action. -/
def awaitOutcome (t : Timeline) (actionId : String) (ticket : Client.Ticket) (seconds : Nat) :
    Except Failure Action.Outcome × Timeline :=
  let isAnswer (r : Client.Resolution) : Bool := r.ticket = ticket
  let (_, t) := t.runUntil (.ofSeconds seconds) (fun c => c.resolutions.any isAnswer)
  let (answer, client) := t.client.takeResolution ticket
  let t := { t with client }
  match answer with
  | some ⟨_, _, .ok outcome⟩ => (.ok outcome, t)
  | some ⟨_, _, .error f⟩ => (.error (.of (.client f)), t)
  | none =>
    let context := "timed out after " ++ toString seconds ++ "s waiting for ack of " ++ actionId
    (.error ((Failure.of (.message "deadline has elapsed")).inContext context), t)

/-- Open a session, send a text message and wait for its outcome. -/
def deliver (t : Timeline) (credentials : Credentials) (chat content : String) (seconds : Nat) :
    Except Failure SendResult × Timeline :=
  let (inbox, t) := t.act (fun c now => c.subscribeNotices now)
  match inbox with
  | .error f => (.error (.of (.client f)), t)
  | .ok inbox =>
    let (opened, t) := openSession t credentials inbox seconds
    let t := { t with client := t.client.leaveNotices inbox }
    match opened with
    | .error f => (.error f, t)
    | .ok () =>
      let (submitted, t) := t.act (fun c now => c.send (.text chat content) now)
      match submitted with
      | .error f => (.error (.of (.client f)), t)
      | .ok (id, ticket) =>
        let (outcome, t) := awaitOutcome t id ticket seconds
        (outcome.map (⟨id, chat, ·⟩), t)

end RealtimeChat.CommandLine
