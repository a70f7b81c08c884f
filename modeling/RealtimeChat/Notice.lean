import RealtimeChat.Action
import RealtimeChat.Session.State
/-!
# Notices of the client

What the client tells about itself: each change of its session's state, what it does about
failures, and how actions end. Every subscriber has an inbox of its own and gets each notice that
is published while it listens, in order.

* `Notice` -- the notices, `Notice.toJson` and `Notice.ofJson` their written form;
* `NoticeHub` -- the subscribers and their inboxes.
-/

namespace RealtimeChat

/-! ## 1. Notices -/

/-- What the client tells about itself. -/
inductive Notice where
  | stateChanged (before after : Session.State)
  | reconnectScheduled (attempt delayMs : Nat)
  | reconnectExhausted (attempts : Nat)
  | authFailed (reason : String)
  | malformedFrame (reason : String)
  | serverError (code message : String)
  | actionSettled (settlement : Settlement)
  | historyFailed (chat reason : String)
deriving DecidableEq, Repr

namespace Notice

/-- The name of a notice. -/
def name : Notice → String
  | stateChanged .. => "state_changed"
  | reconnectScheduled .. => "reconnect_scheduled"
  | reconnectExhausted _ => "reconnect_exhausted"
  | authFailed _ => "auth_failed"
  | malformedFrame _ => "malformed_frame"
  | serverError .. => "server_error"
  | actionSettled _ => "action_settled"
  | historyFailed .. => "history_failed"

/-- The written form, the name first. -/
def toJson (n : Notice) : Json :=
  .object (("notice", .string n.name) :: match n with
    | stateChanged before after => [("from", .string before.name), ("to", .string after.name)]
    | reconnectScheduled attempt delayMs =>
      [("attempt", Json.ofNat attempt), ("delay_ms", Json.ofNat delayMs)]
    | reconnectExhausted attempts => [("attempts", Json.ofNat attempts)]
    | authFailed reason => [("reason", .string reason)]
    | malformedFrame reason => [("reason", .string reason)]
    | serverError code message => [("code", .string code), ("message", .string message)]
    | actionSettled s => [("action_id", .string s.actionId), ("chat_id", .string s.chat),
        ("kind", .string s.kind.name), ("outcome", s.outcome.toJson)]
    | historyFailed chat reason => [("chat_id", .string chat), ("reason", .string reason)])

open Json

/-- The reader of a notice. -/
def ofJson : Reader Notice :=
  tagged "Notice" "notice" [
    ("state_changed", ⟨"StateChanged",
      stateChanged <$> Fields.required "from" [] Session.State.ofJson
      <*> Fields.required "to" [] Session.State.ofJson⟩),
    ("reconnect_scheduled", ⟨"ReconnectScheduled",
      reconnectScheduled <$> Fields.required "attempt" [] (readNat 32)
      <*> Fields.required "delay_ms" [] (readNat 64)⟩),
    ("reconnect_exhausted", ⟨"ReconnectExhausted",
      reconnectExhausted <$> Fields.required "attempts" [] (readNat 32)⟩),
    ("auth_failed", ⟨"AuthFailed", authFailed <$> Fields.required "reason" [] readString⟩),
    ("malformed_frame", ⟨"MalformedFrame",
      malformedFrame <$> Fields.required "reason" [] readString⟩),
    ("server_error", ⟨"ServerError", serverError <$> Fields.required "code" [] readString
      <*> Fields.required "message" [] readString⟩),
    ("action_settled", ⟨"ActionSettled", actionSettled <$> (Settlement.mk
      <$> Fields.required "action_id" [] readString
      <*> Fields.required "chat_id" [] readString
      <*> Fields.required "kind" [] Action.Kind.ofJson
      <*> Fields.required "outcome" [] Action.Outcome.ofJson)⟩),
    ("history_failed", ⟨"HistoryFailed", historyFailed <$> Fields.required "chat_id" [] readString
      <*> Fields.required "reason" [] readString⟩)]

end Notice

/-! ## 2. Subscribers -/

/-- A subscriber to notices. -/
structure NoticeHub.Subscriber where
  id : Nat
  /-- Whether somebody still reads the inbox. -/
  listening : Bool
  /-- The notices that were not read yet, oldest first. -/
  inbox : List Notice
deriving DecidableEq, Repr

/-- The subscribers to notices. -/
structure NoticeHub where
  /-- The subscribers, oldest first. -/
  subscribers : List NoticeHub.Subscriber
  nextId : Nat
deriving DecidableEq, Repr

namespace NoticeHub

/-- No subscribers. -/
def empty : NoticeHub := ⟨[], 0⟩

/-- Subscribe; the number of the subscriber is returned. -/
def subscribe (h : NoticeHub) : Nat × NoticeHub :=
  (h.nextId, ⟨h.subscribers ++ [⟨h.nextId, true, []⟩], h.nextId + 1⟩)

/-- Stop reading an inbox. The subscriber goes when the next notice is published. -/
def leave (h : NoticeHub) (id : Nat) : NoticeHub :=
  { h with subscribers := h.subscribers.map fun s =>
      if s.id = id then { s with listening := false, inbox := [] } else s }

/-- Put a notice into the inbox of everybody who listens. -/
def publish (h : NoticeHub) (n : Notice) : NoticeHub :=
  { h with subscribers := (h.subscribers.filter (·.listening)).map fun s =>
      { s with inbox := s.inbox ++ [n] } }

/-- Read an inbox and empty it. -/
def drain (h : NoticeHub) (id : Nat) : List Notice × NoticeHub :=
  (((h.subscribers.find? (·.id = id)).map (·.inbox)).getD [],
    { h with subscribers := h.subscribers.map fun s =>
        if s.id = id then { s with inbox := [] } else s })

/-- The number of subscribers. -/
def size (h : NoticeHub) : Nat := h.subscribers.length

end NoticeHub

end RealtimeChat
