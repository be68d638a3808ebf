import WgSocket.Basic
import WgSocket.Cidr
import WgSocket.Endpoint.Update
import WgSocket.Endpoint.FromNbl
import WgSocket.Resolve.Scan
import WgSocket.Resolve.Unlocked
import WgSocket.Resolve.Interleaving
import WgSocket.Resolve.Outcome
import WgSocket.Send.Polyfill
import WgSocket.Send.Dispatch
import WgSocket.Send.Chain
import WgSocket.Bind.Create
import WgSocket.Bind.Init
import WgSocket.Bind.Reinit
import WgSocket.Bind.Drain
import WgSocket.Receive
import WgSocket.Wsk
