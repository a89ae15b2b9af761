/-
# Servers

A server has claimed a socket and serves a rig of touchpads to any number of
clients.  All of them use the one rig: a line is answered completely before the
next one is, whoever sent it.

A client whose connection the server closed keeps none until it hangs up.  A
client that hung up and comes again is a new one.

A server that is stopped resets its touchpads and gives its socket up.  It takes
no new clients then, but those that it has are served on.
-/
import VirtualTouchpad.Service.Claim
import VirtualTouchpad.Service.Connection

namespace VirtualTouchpad.Service

open Control
open Json (Bytes)

/-- The permission bits of a served socket: anybody may read and write. -/
def socketMode : Nat := 0o666

/-- The number of a client. -/
abbrev ClientId := Nat

/-- A server; it has a claim while it runs. -/
structure Server where
  socket : String
  claim : Option Claim
  rig : Rig
  /-- The connections of the clients that came and did not hang up. -/
  connections : List (ClientId × Connection)
  deriving Repr

/-! ## Starting -/

/-- Claims a socket for a process; the directory of the socket is made before. -/
def claimSocket (files : Files) (socket : String) (pid : Nat) : Files × Except Complaint Claim :=
  match (Path.parent? socket).map files.makeDirectories with
  | some (files, some e) => (files, .error [e.message])
  | some (files, none) => claim files
  | none => claim files
where
  /-- The claim itself. -/
  claim (files : Files) : Files × Except Complaint Claim :=
    let (files, result) := Claim.take files socket pid
    (files, result.mapError Claim.Refusal.complaint)

namespace Server

/-- The server with other files on its host. -/
def withFiles (server : Server) (files : Files) : Server :=
  { server with rig := server.rig.withFiles files }

/-- A server of a rig on a socket, which it claims; it does not listen yet. -/
def new (rig : Rig) (socket : String) (pid : Nat) : Rig × Except Complaint Server :=
  let (files, result) := claimSocket rig.files socket pid
  let rig := rig.withFiles files
  (rig, result.map fun claim => ⟨socket, some claim, rig, []⟩)

/-- The server without its claim. -/
def abandon (server : Server) : Server :=
  match server.claim with
  | none => server
  | some claim =>
    { server with claim := none, rig := server.rig.withFiles (claim.release server.rig.files) }

/-- Listens on the socket, in the place of whatever file was there.  A server that cannot listen is
at its end. -/
def listen (server : Server) : Server × Except Complaint Unit :=
  let files := server.rig.files.remove server.socket
  match files.bind server.socket socketMode with
  | .ok files => (server.withFiles files, .ok ())
  | .error e => ((server.withFiles files).abandon, .error [e.message])

/-! ## Serving -/

/-- The connection of a client: one that is new here gets one while the server runs. -/
def connection (server : Server) (client : ClientId) : Connection :=
  match server.connections.lookup client with
  | some connection => connection
  | none => if server.claim.isSome then .opened else .closed

/-- The server with another state of one connection. -/
def setConnection (server : Server) (client : ClientId) (connection : Connection) : Server :=
  { server with
    connections := (client, connection) :: server.connections.filter (·.1 != client) }

/-- Whether nobody uses the rig any more: the server is stopped, and all connections are closed. -/
def isDeserted (server : Server) : Bool :=
  server.claim.isNone && server.connections.all (·.2 == .closed)

/-- Ends the rig of a server once nobody uses it. -/
def settle (server : Server) : Server :=
  if server.isDeserted then { server with rig := { server.rig with rack := server.rig.finish } }
  else server

/-- Does something to a client's connection that may answer lines. -/
def update (server : Server) (client : ClientId)
    (act : Connection → Rig → Connection × Rig × List Reply) : Server × List Reply :=
  let (connection, rig, replies) := act (server.connection client) server.rig
  (({ server with rig := rig }.setConnection client connection).settle, replies)

/-- Takes bytes from a client. -/
def receive (server : Server) (client : ClientId) (bytes : Bytes) : Server × List Reply :=
  server.update client fun connection rig => connection.receive rig bytes

/-- The server without what it knows of a client. -/
def forget (server : Server) (client : ClientId) : Server :=
  { server with connections := server.connections.filter (·.1 != client) }

/-- Takes the end of a client's stream. -/
def hangUp (server : Server) (client : ClientId) : Server × List Reply :=
  let (server, replies) := server.update client Connection.finish
  (server.forget client, replies)

/-- Whether a client has no connection any more. -/
def hasClosed (server : Server) (client : ClientId) : Bool := server.connection client == .closed

/-! ## Stopping -/

/-- Stops the server: the touchpads are reset, the socket is removed, and the claim is given up. -/
def stop (server : Server) : Server :=
  let rig := server.rig.reset
  { server with rig := rig.withFiles (rig.files.remove server.socket) }.abandon.settle

end Server

end VirtualTouchpad.Service
