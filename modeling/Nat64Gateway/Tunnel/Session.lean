import Nat64Gateway.Tunnel.Decapsulation
import Nat64Gateway.Tunnel.Encapsulation

namespace Nat64Gateway.Tunnel

inductive Operation where
  | encapsulate (hook : Dns64.Hook) (data buffer : Bytes)
  | decapsulate (hook : Dns64.Hook) (data buffer : Bytes)
  | configure (setting : Context.Setting)

def meeting (tunnel : Tunnel) (hook : Dns64.Hook) : Tunnel :=
  { tunnel with hook }

-- A refused change leaves the context as it was.
def configure (tunnel : Tunnel) (setting : Context.Setting) : Tunnel :=
  match tunnel.context.apply setting with
  | .ok (context, _) => { tunnel with context }
  | .error _ => tunnel

def perform (tunnel : Tunnel) : Operation → Tunnel
  | .encapsulate hook data buffer =>
    tunnel.after ((tunnel.meeting hook).encapsulate data buffer)
  | .decapsulate hook data buffer =>
    tunnel.after ((tunnel.meeting hook).decapsulate data buffer)
  | .configure setting => tunnel.configure setting

def reach (tunnel : Tunnel) (operations : List Operation) : Tunnel :=
  operations.foldl perform tunnel

def count (event : Tunnel → Operation → Bool) (tunnel : Tunnel) : List Operation → Nat
  | [] => 0
  | operation :: later =>
    (event tunnel operation).toNat + (tunnel.perform operation).count event later

end Nat64Gateway.Tunnel
