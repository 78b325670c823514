import Schemata.ConnInfo

/-!
# Networks

Where connection parameters lead, and what becomes of an attempt to reach it.
-/

namespace Schemata

/-- A place to dial. -/
structure Endpoint where
  host : ServerHost
  port : UInt16
deriving DecidableEq, Repr

/-- The endpoints to try, in order.  Addresses stand in for the hosts they belong to;
one port serves all hosts. -/
def ConnInfo.endpoints (info : ConnInfo) : List Endpoint :=
  let hosts :=
    if info.addresses = [] then info.hosts
    else info.addresses.map fun address => .tcp address.toText
  hosts.zipIdx.map fun (host, index) =>
    { host, port := (info.ports[index]? <|> info.ports.head?).getD ConnInfo.defaultPort }

/-- What the operating system makes of an attempt to reach an endpoint, in the time that the
parameters allow for it. -/
structure Network where
  /-- Why nothing is reached there; absent where a server listens. -/
  obstacle : Endpoint → Option String

namespace Network

/-- A machine without any network, on which nothing listens. -/
def isolated : Network where
  obstacle endpoint := match endpoint.host with
    | .tcp _ => some "Network is unreachable (os error 101)"
    | .socket _ => some "No such file or directory (os error 2)"

/-- A machine on which one server listens, at a port of the local host. -/
def localServer (port : UInt16) : Network where
  obstacle endpoint := match endpoint.host with
    | .tcp host =>
      if endpoint.port = port ∧ host ∈ ["127.0.0.1", "::1", "localhost"] then none
      else some "Connection refused (os error 111)"
    | .socket _ => some "No such file or directory (os error 2)"

end Network

end Schemata
