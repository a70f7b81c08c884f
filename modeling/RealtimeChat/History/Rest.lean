import RealtimeChat.Bearer
import RealtimeChat.History
import RealtimeChat.Json.Parser
import RealtimeChat.Settings.Check
/-!
# Fetching missed messages over HTTP

The messages of a chat are fetched from an address below the configured one. What the exchange
with the server comes to is given from outside; this module says what is sent and what the answer
means.

* `RestHistory` -- the source, `RestHistory.messagesUrl` the address of a chat's messages;
* `RestHistory.authorization?` -- the header that is sent along;
* `RestHistory.result` -- what an exchange comes to.
-/

namespace RealtimeChat

/-- The service that missed messages are fetched from. -/
structure RestHistory where
  base : Url

namespace RestHistory

/-- The service at an address. -/
def new (apiUrl : String) : Except Settings.Invalid RestHistory :=
  (Settings.checkApiUrl apiUrl).map (⟨·⟩)

/-- The address of the messages of a chat. -/
def messagesUrl (h : RestHistory) (chat : String) (since : Option Timestamp) : Url :=
  let url := h.base.appendPath ["chats", chat, "messages"]
  match since with
  | none => url
  | some t => url.appendQuery "since" t.offsetText

/-! ## 1. What is sent -/

/-- The header that proves who is asking; absent if the token cannot stand in one. -/
def authorization? (token : String) : Option String := bearer? token

/-! ## 2. What comes back -/

/-- What an exchange with the service came to. -/
inductive Exchange where
  | unreachable
  | answered (status : Nat) (body : String)
deriving DecidableEq, Repr

/-- Why there are no messages. -/
inductive Fault where
  | requestFailed (url : String)
  | badStatus (chat : String) (status : Nat) (body : String)
  | badBody
deriving DecidableEq, Repr

/-- The standard phrases for status codes. -/
def reasons : List (Nat × String) := [
  (100, "Continue"), (101, "Switching Protocols"), (102, "Processing"), (103, "Early Hints"),
  (200, "OK"), (201, "Created"), (202, "Accepted"), (203, "Non Authoritative Information"),
  (204, "No Content"), (205, "Reset Content"), (206, "Partial Content"), (207, "Multi-Status"),
  (208, "Already Reported"), (226, "IM Used"), (300, "Multiple Choices"),
  (301, "Moved Permanently"), (302, "Found"), (303, "See Other"), (304, "Not Modified"),
  (305, "Use Proxy"), (307, "Temporary Redirect"), (308, "Permanent Redirect"),
  (400, "Bad Request"), (401, "Unauthorized"), (402, "Payment Required"), (403, "Forbidden"),
  (404, "Not Found"), (405, "Method Not Allowed"), (406, "Not Acceptable"),
  (407, "Proxy Authentication Required"), (408, "Request Timeout"), (409, "Conflict"),
  (410, "Gone"), (411, "Length Required"), (412, "Precondition Failed"),
  (413, "Payload Too Large"), (414, "URI Too Long"), (415, "Unsupported Media Type"),
  (416, "Range Not Satisfiable"), (417, "Expectation Failed"), (418, "I'm a teapot"),
  (421, "Misdirected Request"), (422, "Unprocessable Entity"), (423, "Locked"),
  (424, "Failed Dependency"), (425, "Too Early"), (426, "Upgrade Required"),
  (428, "Precondition Required"), (429, "Too Many Requests"),
  (431, "Request Header Fields Too Large"), (451, "Unavailable For Legal Reasons"),
  (500, "Internal Server Error"), (501, "Not Implemented"), (502, "Bad Gateway"),
  (503, "Service Unavailable"), (504, "Gateway Timeout"), (505, "HTTP Version Not Supported"),
  (506, "Variant Also Negotiates"), (507, "Insufficient Storage"), (508, "Loop Detected"),
  (510, "Not Extended"), (511, "Network Authentication Required")]

/-- The fault in words. -/
def Fault.message : Fault → String
  | .requestFailed url => "history request to " ++ url ++ " failed"
  | .badStatus chat status body =>
    "history fetch for chat " ++ chat ++ " returned " ++ toString status ++ " " ++
      (reasons.lookup status).getD "<unknown status code>" ++ ": " ++ body
  | .badBody => "invalid history response body"

open Json

/-- The messages of an answer: a list of them, or an object that has one. -/
def readPage (v : Json) : Option (List Message) :=
  let page := record "HistoryPage" (Fields.required "messages" [] (readList Message.ofJson))
  match readList Message.ofJson .cased v with
  | .ok ms => some ms
  | .error _ => (page .cased v).toOption

/-- What an exchange for the messages of a chat comes to. -/
def result (h : RestHistory) (chat : String) (since : Option Timestamp) :
    Exchange → Except Fault (List Message)
  | .unreachable => .error (.requestFailed (h.messagesUrl chat since).text)
  | .answered status body =>
    if 200 ≤ status ∧ status < 300 then
      match Json.parse body with
      | .ok v =>
        match readPage v with
        | some ms => .ok ms
        | none => .error .badBody
      | .error _ => .error .badBody
    else .error (.badStatus chat status body)

end RestHistory

end RealtimeChat
