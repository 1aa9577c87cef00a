import Gatehouse.Config.Basic
import Gatehouse.Gateway.Service
import Gatehouse.Registration.Remote
import Gatehouse.Routing.Profile

/-!
# A gateway from its configuration

The gateway that a configuration describes, and the start of it: the address to listen at must be
one, and it must be free.
-/

set_option autoImplicit false

namespace Gatehouse
namespace Gateway

/-- The servers that a gateway talks to. -/
structure Peers where
  pages : Http.Peer := .offline
  backend : Http.Peer := .offline

namespace Service

/-- A gateway with a chain of its own. -/
def withChain (c : Config) (chain : Routing.Chain) (pages : Http.Peer) : Service where
  chain
  forwarder := .atUrl c.gateway.pagesUrl c.gateway.pagesTimeout pages

/-- The gateway of a configuration for requests that arrive at a given second. -/
def ofConfig (c : Config) (peers : Peers) (now : Nat) : Service :=
  let remote := Registration.Remote.atUrl c.backend.apiUrl c.backend.requestTimeout peers.backend
  withChain c (c.profile.chain c.resolver.resolve remote.backend now) peers.pages

end Service

/-- What keeps a gateway from listening at an address, if anything does. -/
abbrev Bind := Net.SocketAddress → Option String

/-- The address at which the gateway of a configuration listens. -/
def listen (c : Config) (bind : Bind) : Except GatewayError Net.SocketAddress :=
  match Net.SocketAddress.parse? c.gateway.listenAddr with
  | none => .error (.config "invalid listen address: invalid socket address syntax")
  | some address =>
    match bind address with
    | some cause => .error (.server ("failed to bind " ++ address.render ++ ": " ++ cause))
    | none => .ok address

/-- The log line of a gateway that has begun to listen. -/
def listening (s : Service) (address : Net.SocketAddress) : Event :=
  .logged
    { level := .info
      target := serverTarget
      message := "portico gateway listening"
      fields := [("listen", Json.str address.render), ("app", Json.str s.chain.label),
        ("upstream", Json.str s.forwarder.pagesUrl)] }

end Gateway
end Gatehouse
