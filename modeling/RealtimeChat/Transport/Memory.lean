import RealtimeChat.Transport
/-!
# A transport without a network

Connections that exist in memory only. The transport keeps a record of what is done with it, can
be told to fail, and can answer frames by a script, as a server in the same process would.

* `MemoryTransport` -- the state of the transport;
* `MemoryTransport.takeReports` -- what happened to the connections by the script.
-/

namespace RealtimeChat

/-- How a transport behaves like a server. -/
structure MemoryTransport.Script where
  /-- Whether every connection reports by itself that it is open. -/
  reportsOpened : Bool := false
  /-- The texts that answer a frame, by the name of its type. -/
  replies : List (String × List String) := []
deriving DecidableEq, Repr

/-- Connections in memory, with a record of what was done. -/
structure MemoryTransport where
  /-- The fault of every attempt to open a connection, if there is one. -/
  openFault : Option ConnectFault := none
  /-- Whether every attempt to send fails. -/
  sendFails : Bool := false
  script : MemoryTransport.Script := {}
  live : List ConnectionId := []
  /-- The connections opened, oldest first. -/
  opened : List ConnectionId := []
  /-- The frames sent, oldest first. -/
  sent : List (ConnectionId × Outgoing) := []
  /-- The connections closed, oldest first. -/
  closed : List ConnectionId := []
  /-- What the script reports, oldest first. -/
  reports : List (ConnectionId × Transport.Event) := []

namespace MemoryTransport

/-- The script's answers to a frame; the id of its action stands for a mark in the texts. -/
def answers (script : Script) (frame : Outgoing) : List String :=
  ((script.replies.lookup frame.typeName).getD []).map fun text =>
    text.replace "\x7bid\x7d" (frame.actionId?.getD "")

/-- Open a connection. -/
def openConnection (t : MemoryTransport) (id : ConnectionId) :
    Except ConnectFault Unit × MemoryTransport :=
  match t.openFault with
  | some f => (.error f, t)
  | none =>
    let reports := if t.script.reportsOpened then [(id, Transport.Event.opened)] else []
    (.ok (), { t with
      live := t.live ++ [id], opened := t.opened ++ [id], reports := t.reports ++ reports })

/-- Send a frame on a live connection. -/
def send (t : MemoryTransport) (id : ConnectionId) (frame : Outgoing) :
    Except SendFault Unit × MemoryTransport :=
  if t.sendFails ∨ id ∉ t.live then (.error (.notOpen id), t)
  else
    let reports := (answers t.script frame).map fun text => (id, Transport.Event.frame text)
    (.ok (), { t with sent := t.sent ++ [(id, frame)], reports := t.reports ++ reports })

/-- Close a connection, if it is live. -/
def close (t : MemoryTransport) (id : ConnectionId) : MemoryTransport :=
  if id ∈ t.live then
    { t with live := t.live.filter (· ≠ id), closed := t.closed ++ [id] }
  else t

instance : Transport MemoryTransport where
  openConnection t id _ _ := t.openConnection id
  send := send
  close := close

/-- What the script reported since it was taken last, and the transport without it. -/
def takeReports (t : MemoryTransport) : List (ConnectionId × Transport.Event) × MemoryTransport :=
  (t.reports, { t with reports := [] })

/-- The transport without its record. -/
def clearRecord (t : MemoryTransport) : MemoryTransport :=
  { t with opened := [], sent := [], closed := [] }

end MemoryTransport

end RealtimeChat
