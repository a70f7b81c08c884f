import RealtimeChat.Clock
import RealtimeChat.Frame.Outgoing
import RealtimeChat.Limits
/-!
# Actions of the user

What a user wants to happen in a chat becomes an action with an id of its own. The id stays the
same however often the action is sent, so that the server applies it once.

* `Intent` -- what the user wants;
* `Action` -- an intent on its way, with its `Action.State`;
* `Action.Outcome`, `Settlement` -- how an action ended.
-/

namespace RealtimeChat

/-! ## 1. Intents -/

/-- What a user wants to happen. -/
inductive Intent where
  | sendMessage (chat content : String) (kind : Message.Kind) (media : Option String)
      (reply : Option Message.Reply)
  | typingStart (chat : String)
  | typingStop (chat : String)
  | readReceipt (chat messageId : String)
deriving DecidableEq, Repr

/-- The kind of an intent. -/
inductive Action.Kind where
  | sendMessage
  | typingStart
  | typingStop
  | readReceipt
deriving DecidableEq, Repr

namespace Action.Kind

/-- The name of a kind. -/
def name : Kind → String
  | sendMessage => "send_message"
  | typingStart => "typing_start"
  | typingStop => "typing_stop"
  | readReceipt => "read_receipt"

/-- All kinds with their names. -/
def variants : List (String × Kind) :=
  [sendMessage, typingStart, typingStop, readReceipt].map (fun k => (k.name, k))

/-- The reader of a kind. -/
def ofJson : Json.Reader Kind := Json.readChoice variants

/-- Whether the server acknowledges actions of the kind. Typing states are sent once and then
forgotten. -/
def requiresAck : Kind → Bool
  | sendMessage => true
  | readReceipt => true
  | typingStart => false
  | typingStop => false

end Action.Kind

namespace Intent

/-- A plain text message. -/
def text (chat content : String) : Intent := .sendMessage chat content .text none none

/-- The chat that an intent is about. -/
def chat : Intent → String
  | .sendMessage chat .. => chat
  | .typingStart chat => chat
  | .typingStop chat => chat
  | .readReceipt chat _ => chat

/-- The kind of an intent. -/
def kind : Intent → Action.Kind
  | .sendMessage .. => .sendMessage
  | .typingStart _ => .typingStart
  | .typingStop _ => .typingStop
  | .readReceipt .. => .readReceipt

/-- Whether the server would accept the intent. -/
def check (i : Intent) : Except LimitFault Unit :=
  match checkChat i.chat with
  | .error f => .error f
  | .ok () =>
    match i with
    | .sendMessage _ content .. => checkContent content
    | .readReceipt _ messageId => checkId "message id" messageId
    | .typingStart _ => .ok ()
    | .typingStop _ => .ok ()

/-- The frame that carries an intent under the id of its action. -/
def frame (actionId : String) : Intent → Outgoing
  | .sendMessage chat content kind media reply =>
    .message actionId chat content kind media reply
  | .typingStart chat => .typing actionId chat true
  | .typingStop chat => .typing actionId chat false
  | .readReceipt chat messageId => .read actionId chat messageId

end Intent

/-! ## 2. Actions -/

/-- How far an action is. -/
inductive Action.State where
  /-- Not sent since it was queued, since its connection was lost or since its last wait. -/
  | pending
  /-- Sent and not acknowledged. -/
  | inFlight
  /-- Not acknowledged in time; it waits before it is sent again. -/
  | waiting
deriving DecidableEq, Repr

/-- An intent on its way. -/
structure Action where
  id : String
  intent : Intent
  created : Instant
  /-- How often it was not acknowledged in time. -/
  retries : Nat
  state : Action.State
deriving DecidableEq, Repr

namespace Action

/-- A new action. -/
def new (id : String) (intent : Intent) (now : Instant) : Action := ⟨id, intent, now, 0, .pending⟩

/-- The chat that an action is about. -/
def chat (a : Action) : String := a.intent.chat

/-- The kind of an action. -/
def kind (a : Action) : Kind := a.intent.kind

/-- Whether the action reports that the user started to type. -/
def startsTyping (a : Action) : Bool := a.kind = .typingStart

/-- Whether the action may be taken out of a full queue: the server does not know of it, or did
not answer in time. -/
def mayGiveWay (a : Action) : Bool := a.state ≠ .inFlight

/-- The frame that an action is sent as. -/
def frame (a : Action) : Outgoing := a.intent.frame a.id

end Action

/-! ## 3. Ends -/

/-- How an action ended. -/
inductive Action.Outcome where
  /-- The server acknowledged it, or it was sent and needs no acknowledgement. -/
  | delivered (messageId : Option String) (duplicate : Bool)
  | rejected (reason : String)
  /-- It was never acknowledged. -/
  | failed (attempts : Nat)
  /-- It gave way to newer actions. -/
  | dropped
  /-- It met the typing action that undoes or repeats it. -/
  | collapsed
  /-- The user logged out. -/
  | cancelled
deriving DecidableEq, Repr

namespace Action.Outcome

/-- Whether the action reached the server. -/
def isDelivered : Outcome → Bool
  | delivered .. => true
  | _ => false

/-- The name of an outcome. -/
def name : Outcome → String
  | delivered .. => "delivered"
  | rejected _ => "rejected"
  | failed _ => "failed"
  | dropped => "dropped"
  | collapsed => "collapsed"
  | cancelled => "cancelled"

/-- The written form, the name first. -/
def toJson (o : Outcome) : Json :=
  .object (("outcome", .string o.name) :: match o with
    | delivered messageId duplicate =>
      Json.optionalMember "message_id" .string messageId ++ [("duplicate", .bool duplicate)]
    | rejected reason => [("reason", .string reason)]
    | failed attempts => [("attempts", Json.ofNat attempts)]
    | _ => [])

open Json

/-- The reader of an outcome. -/
def ofJson : Reader Outcome :=
  tagged "ActionOutcome" "outcome" [
    ("delivered", ⟨"Delivered", delivered <$> Fields.optional "message_id" [] readString
      <*> Fields.required "duplicate" [] readBool⟩),
    ("rejected", ⟨"Rejected", rejected <$> Fields.required "reason" [] readString⟩),
    ("failed", ⟨"Failed", failed <$> Fields.required "attempts" [] (readNat 32)⟩),
    ("dropped", ⟨"Dropped", pure dropped⟩),
    ("collapsed", ⟨"Collapsed", pure collapsed⟩),
    ("cancelled", ⟨"Cancelled", pure cancelled⟩)]

end Action.Outcome

/-- An action that has ended. -/
structure Settlement where
  actionId : String
  chat : String
  kind : Action.Kind
  outcome : Action.Outcome
deriving DecidableEq, Repr

end RealtimeChat
