import Nat64Gateway.Endpoint
import Nat64Gateway.Log
import Nat64Gateway.Prefix

namespace Nat64Gateway

structure Context where
  host : Option Address.V4 := none
  netmask : Address.V4 := .unspecified
  router : Address.V4 := .unspecified
  localV6 : Option Address.V6 := none
  remote : Address.Socket4 := ⟨.unspecified, 9000⟩
  localPort : UInt16 := 9000
  nat64 : Prefix := .v4Mapped
  threshold : UInt16 := 1024
  portOrder : Endpoint.PortOrder := .reversed
deriving DecidableEq, Repr

namespace Context

-- Ports below the threshold bypass the tunnel.
def exempts (context : Context) (port : UInt16) : Bool :=
  port < context.threshold

-- The last address of the host's subnet. A full netmask leaves a subnet of one host.
def subnetBroadcast? (context : Context) : Option Address.V4 :=
  if context.netmask.bits = BitVec.allOnes 32 then none
  else context.host.map fun host =>
    ⟨(host.bits &&& context.netmask.bits) ||| ~~~context.netmask.bits⟩

def isBroadcast (context : Context) (address : Address.V4) : Bool :=
  address = .limitedBroadcast || context.subnetBroadcast? = some address

inductive Setting where
  | host (address netmask : Address.V4)
  | router (address : Address.V4)
  | localV6 (address : Address.V6)
  | remote (socket : Address.Socket4)
  | localPort (port : UInt16)
  | nat64 (address : Address.V6) (length : Nat)
deriving DecidableEq, Repr

def apply (context : Context) : Setting → Except Fault (Context × String)
  | .host address netmask =>
    .ok ({ context with host := some address, netmask },
      "Host address set to " ++ address.text ++ " netmask " ++ netmask.text)
  | .router address =>
    .ok ({ context with router := address }, "Default router set to " ++ address.text)
  | .localV6 address =>
    .ok ({ context with localV6 := some address }, "Local IPv6 address set to " ++ address.text)
  | .remote socket =>
    .ok ({ context with remote := socket }, "Tunnel remote endpoint set to " ++ socket.text)
  | .localPort port =>
    .ok ({ context with localPort := port }, "Tunnel local port set to " ++ toString port.toNat)
  | .nat64 address length =>
    (Prefix.make address length).map fun nat64 =>
      ({ context with nat64 }, "NAT64 prefix set to " ++ nat64.text)

def announcement (message : String) : Log.Line :=
  ⟨.info, .context, message⟩

-- In order, up to the first refusal. The lines of the changes made before it are kept.
def applyAll (context : Context) : List Setting → List Log.Line × Except Fault Context
  | [] => ([], .ok context)
  | setting :: later =>
    match context.apply setting with
    | .error fault => ([], .error fault)
    | .ok (next, message) =>
      let (lines, result) := next.applyAll later
      (announcement message :: lines, result)

end Context
end Nat64Gateway
