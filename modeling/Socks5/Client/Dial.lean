import Socks5.Client
import Socks5.Replay

/-!
# `Socks5.Client.Dial`: a client that dials its server

The client opens the connection to the server itself and carries out a
CONNECT over it. A server that cannot be reached is a failure of the
socket, not of the protocol.
-/

set_option autoImplicit false

namespace Socks5.Client

/-- Dials a server and asks it for a connection to a target. -/
def dial (connector : Connector) (server : Address) (target : String)
    (credentials : Option Credentials) : Progress (Except ServiceError Address) :=
  let here : Scene := { stream := {} }
  match (connector.dial server).await none 0 with
  | .result clock (.error e) => .ended (.error (.io e)) { here with clock }
  | .late clock => .late { here with clock }
  | .nothing => .stuck here
  | .result clock (.ok c) =>
    let asking := (connect target credentials).run.bind fun
      | .ok bound => .done (.ok bound)
      | .error e => .done (.error (ServiceError.protocol e))
    asking.run connector { here with stream := c.stream, clock }

end Socks5.Client
