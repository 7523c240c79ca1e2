import ThinClient.Pool.Basic
import ThinClient.Rehearsal.Peer

/-!
# Scripted networks

A network has one server, which acts out a script of its own on each connection that it accepts. A
network can also be such that no connection ever comes about.
-/

namespace ThinClient.Rehearsal

/-- A network with its server. -/
structure Network where
  /-- Why no connection comes about, in a network where none does. -/
  failure : Option IoError := none
  /-- What the server does on its connections, in the order in which it accepts them. -/
  scripts : List ScriptedPeer := []

/-- A connection with its number in the order in which the server accepted them. -/
structure Lease where
  number : Nat
  connection : Connection ScriptedPeer

instance : Breakable Lease where
  isBroken lease := lease.connection.isBroken

namespace Lease

/-- The server at the other end of a connection. -/
def server (lease : Lease) : ScriptedPeer :=
  lease.connection.stream.peer

end Lease

/-- How the opening of a connection goes. -/
structure Dial where
  /-- How it ends, if it does. -/
  result : Option (Except Error Lease)
  /-- The server after it, if it has accepted the connection. -/
  server : Option ScriptedPeer

namespace Network

/-- What the server does on a connection. After the end of the script it only accepts. -/
def script (network : Network) (number : Nat) : ScriptedPeer :=
  network.scripts.getD number {}

/-- Opens the connection that would be accepted with this number. -/
def dial (network : Network) (config : Config) (number : Nat) : Dial :=
  match network.failure with
  | some cause => ⟨some (.error (TransportError.io cause)), none⟩
  | none =>
    let peer := (network.script number).patientFor defaultPatience
    match Connection.establish config { peer } with
    | .ok connection stream => ⟨some (.ok ⟨number, connection⟩), some stream.peer⟩
    | .error (.failed e) stream => ⟨some (.error e), some stream.peer⟩
    | .error .cancelled stream => ⟨none, some stream.peer⟩

end Network

end ThinClient.Rehearsal
