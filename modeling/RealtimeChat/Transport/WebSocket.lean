import RealtimeChat.Bearer
import RealtimeChat.OrderedMap
import RealtimeChat.Settings.Check
import RealtimeChat.Transport
/-!
# Connections over web sockets

A connection is started with a request for its address, which carries the token of the user. It
takes frames from the moment on at which the server has accepted it. The traffic itself is not
here: what is queued goes out as soon as the socket takes it.

* `WebSocketTransport` -- the connections;
* `WebSocketTransport.request` -- the request that starts one, if its address and token are good.
-/

namespace RealtimeChat

/-- The request that starts a connection. -/
structure WebSocketTransport.Request where
  url : Url
  authorization : String

/-- A connection that was started. -/
structure WebSocketTransport.Line where
  request : WebSocketTransport.Request
  /-- Whether the server has accepted it. -/
  accepted : Bool
  /-- The texts that wait to go out, oldest first. -/
  queue : List String

/-- The connections that were started and not given up. -/
structure WebSocketTransport where
  lines : OrderedMap ConnectionId WebSocketTransport.Line := ∅

namespace WebSocketTransport

/-- Characters of a host that a request cannot name. -/
def isUnnamable (c : Char) : Bool := c == '"' || c == '\x60' || c == '\x7b' || c == '\x7d'

/-- The request for an address. -/
def request (endpoint : String) (c : Credentials) : Except ConnectFault Request :=
  match Settings.checkWsUrl endpoint with
  | .error f => .error (.invalidEndpoint f.text)
  | .ok url =>
    if url.host.text.any isUnnamable then
      .error (.invalidEndpoint "HTTP format error: invalid uri character")
    else
      match bearer? c.token with
      | none => .error (.invalidEndpoint "token is not a valid header value")
      | some authorization => .ok ⟨url, authorization⟩

/-- Start a connection, in place of an older one of the same number. -/
def openConnection (t : WebSocketTransport) (id : ConnectionId) (endpoint : String)
    (c : Credentials) : Except ConnectFault Unit × WebSocketTransport :=
  match request endpoint c with
  | .error f => (.error f, t)
  | .ok request => (.ok (), { t with lines := t.lines.insert id ⟨request, false, []⟩ })

/-- Queue a frame on a connection that the server has accepted. -/
def send (t : WebSocketTransport) (id : ConnectionId) (frame : Outgoing) :
    Except SendFault Unit × WebSocketTransport :=
  match t.lines.get? id with
  | some line =>
    if line.accepted then
      let line := { line with queue := line.queue ++ [frame.encode] }
      (.ok (), { t with lines := t.lines.insert id line })
    else (.error (.notOpen id), t)
  | none => (.error (.notOpen id), t)

/-- Give a connection up. -/
def close (t : WebSocketTransport) (id : ConnectionId) : WebSocketTransport :=
  { t with lines := t.lines.erase id }

instance : Transport WebSocketTransport where
  openConnection := openConnection
  send := send
  close := close

end WebSocketTransport

end RealtimeChat
