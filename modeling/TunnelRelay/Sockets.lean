import Std.Async.DNS
import Std.Async.TCP
import TunnelRelay.Network
import TunnelRelay.Tunnel

/-! The sockets of the system: listening, connecting, and the relays between a
client and the remote side. What may be done with them is decided elsewhere. -/
namespace TunnelRelay.Sockets
open Std.Async
open Std.Net

def systemIp : Address → IPAddr
  | .v4 ip => .v4 (.ofParts ip.a ip.b ip.c ip.d)
  | .v6 ip => .v6 ⟨ip⟩

def systemEndpoint (ip : IPAddr) (port : UInt16) : SocketAddress :=
  match ip with
  | .v4 ip => .v4 ⟨ip, port⟩
  | .v6 ip => .v6 ⟨ip, port⟩

def endpointOf : SocketAddress → Endpoint
  | .v4 a => .v4 ⟨a.addr.octets[0], a.addr.octets[1], a.addr.octets[2], a.addr.octets[3]⟩ a.port
  | .v6 a => .v6 a.addr.segments a.port 0

/- Error numbers are negative where the event loop reports them. -/
def errnoOf (code : UInt32) : Nat := if UInt32.size / 2 ≤ code.toNat then UInt32.size - code.toNat else code.toNat

def ioErrorOf : IO.Error → IoError
  | .alreadyExists _ code _ | .otherError code _ | .resourceBusy code _ | .resourceVanished code _
  | .unsupportedOperation code _ | .hardwareFault code _ | .unsatisfiedConstraints code _
  | .illegalOperation code _ | .protocolError code _ | .timeExpired code _ | .interrupted _ code _
  | .noFileOrDirectory _ code _ | .invalidArgument _ code _ | .permissionDenied _ code _
  | .resourceExhausted _ code _ | .inappropriateType _ code _ | .noSuchThing _ code _ => .os (errnoOf code)
  | .unexpectedEof => .plain .unexpectedEof
  | .userError text => .described .other text

def backlog : UInt32 := 32

def listenOn (e : Endpoint) : IO (Except IoError (Endpoint × TCP.Socket.Server)) := do
  try
    let server ← TCP.Socket.Server.mk
    server.bind (systemEndpoint (systemIp e.address) e.port)
    server.listen backlog
    return .ok (endpointOf (← server.getSockName), server)
  catch error => return .error (ioErrorOf error)

def addressOf (host : String) : Async IPAddr := do
  match Network.resolve host with
  | .ok a => return systemIp a
  | .error _ =>
      match (← DNS.getAddrInfo host "").toList with
      | ip :: _ => return ip
      | [] => throw (.userError "failed to lookup address information")

def connectTo (d : Destination) : Async TCP.Socket.Client := do
  let socket ← TCP.Socket.Client.mk
  socket.connect (systemEndpoint (← addressOf d.host) d.port)
  socket.noDelay
  return socket

partial def copy (capacity : UInt64) (source sink : TCP.Socket.Client) : Async Unit := do
  match ← source.recv? capacity with
  | none => sink.shutdown
  | some bytes =>
      sink.send bytes
      copy capacity source sink

def relay (capacity : UInt64) (d : Destination) (client : TCP.Socket.Client) : Async Unit := do
  client.noDelay
  let remote ← connectTo d
  let there ← async (copy capacity client remote)
  let back ← async (copy capacity remote client)
  await there
  await back

partial def serve (a : Admission) (capacity : UInt64) (d : Destination) (server : TCP.Socket.Server) : Async Unit := do
  let goOn ← try
      let client ← server.accept
      if a.allows (endpointOf (← client.getPeerName)) then
        background (do try relay capacity d client catch _ => pure ())
      pure true
    catch error => pure (ioErrorOf error).isTransient
  if goOn then serve a capacity d server

end TunnelRelay.Sockets
