import Nat64Gateway.Address.Reader
import Nat64Gateway.CommandLine.LetterCase
import Nat64Gateway.CommandLine.Number
import Nat64Gateway.Context

namespace Nat64Gateway.CommandLine

inductive OptionName where
  | logLevel
  | hostAddress
  | defaultRouter
  | localV6
  | tunnelRemote
  | tunnelLocalPort
  | nat64Prefix
  | ephemeralThreshold
  | endpointPortOrder
  | segmentListen
  | uplinkListen
  | uplinkPeer
  | capture
deriving DecidableEq, Repr

namespace OptionName

def text : OptionName → String
  | .logLevel => "--log-level"
  | .hostAddress => "--host-address"
  | .defaultRouter => "--default-router"
  | .localV6 => "--local-ipv6"
  | .tunnelRemote => "--tunnel-remote"
  | .tunnelLocalPort => "--tunnel-local-port"
  | .nat64Prefix => "--nat64-prefix"
  | .ephemeralThreshold => "--ephemeral-threshold"
  | .endpointPortOrder => "--endpoint-port-order"
  | .segmentListen => "--segment-listen"
  | .uplinkListen => "--uplink-listen"
  | .uplinkPeer => "--uplink-peer"
  | .capture => "--pcap"

def all : List OptionName := [
  .logLevel, .hostAddress, .defaultRouter, .localV6, .tunnelRemote, .tunnelLocalPort, .nat64Prefix,
  .ephemeralThreshold, .endpointPortOrder, .segmentListen, .uplinkListen, .uplinkPeer, .capture]

def ofText? (text : String) : Option OptionName :=
  all.find? (·.text = text)

theorem ofText?_text (name : OptionName) : ofText? name.text = some name := by
  cases name <;> decide

end OptionName

inductive Choice where
  -- No level at all turns the log off.
  | logLevel (level : Option Log.Level)
  | hostAddress (address netmask : Address.V4)
  | defaultRouter (address : Address.V4)
  | localV6 (address : Address.V6)
  | tunnelRemote (socket : Address.Socket4)
  | tunnelLocalPort (port : UInt16)
  | nat64Prefix (address : Address.V6) (length : Nat)
  | ephemeralThreshold (port : UInt16)
  | endpointPortOrder (order : Endpoint.PortOrder)
  | segmentListen (socket : Address.Socket)
  | uplinkListen (socket : Address.Socket)
  | uplinkPeer (socket : Address.Socket)
  | capture (path : String)
deriving DecidableEq, Repr

namespace Choice

def name : Choice → OptionName
  | .logLevel _ => .logLevel
  | .hostAddress .. => .hostAddress
  | .defaultRouter _ => .defaultRouter
  | .localV6 _ => .localV6
  | .tunnelRemote _ => .tunnelRemote
  | .tunnelLocalPort _ => .tunnelLocalPort
  | .nat64Prefix .. => .nat64Prefix
  | .ephemeralThreshold _ => .ephemeralThreshold
  | .endpointPortOrder _ => .endpointPortOrder
  | .segmentListen _ => .segmentListen
  | .uplinkListen _ => .uplinkListen
  | .uplinkPeer _ => .uplinkPeer
  | .capture _ => .capture

def splitAt? (separator : Char) (text : String) : Option (String × String) :=
  let front := text.toList.takeWhile (· ≠ separator)
  match text.toList.drop front.length with
  | [] => none
  | _ :: back => some (String.ofList front, String.ofList back)

def required {α : Type} (what reason : String) (value? : Option α) : Except String α :=
  match value? with
  | some value => .ok value
  | none => .error ("Failed to parse " ++ what ++ ": invalid " ++ reason ++ " syntax")

def v4 (text : String) : Except String Address.V4 :=
  required "IPv4 address" "IPv4 address" (Address.V4.read? text)

def v6 (what text : String) : Except String Address.V6 :=
  required what "IPv6 address" (Address.V6.read? text)

def socket (text : String) : Except String Address.Socket :=
  required "socket address" "socket address" (Address.Socket.read? text)

def number (what : String) (bound : Nat) (text : String) : Except String Nat :=
  match Number.read bound text with
  | .ok value => .ok value
  | .error fault => .error ("Failed to parse " ++ what ++ ": " ++ fault.text)

def port (text : String) : Except String UInt16 :=
  UInt16.ofNat <$> number "port" 65536 text

def logLevels : List (String × Option Log.Level) := [
  ("TRACE", some .trace), ("DEBUG", some .debug), ("INFO", some .info), ("WARN", some .warn),
  ("ERROR", some .error), ("OFF", none)]

def portOrders : List (String × Endpoint.PortOrder) := [
  ("reversed", .reversed), ("network", .network)]

def readLogLevel (value : String) : Except String Choice :=
  match logLevels.lookup (LetterCase.capital value) with
  | some level => .ok (.logLevel level)
  | none => .error "Unsupported log level"

def readHostAddress (value : String) : Except String Choice :=
  match splitAt? '/' value with
  | none => .error "Netmask is missing"
  | some (address, netmask) => do
    let address ← v4 address
    let netmask ← v4 netmask
    .ok (.hostAddress address netmask)

def readNat64Prefix (value : String) : Except String Choice :=
  match splitAt? '/' value with
  | none => .error "Prefix length is missing"
  | some (address, length) => do
    let address ← v6 "IPv6 prefix" address
    let length ← number "prefix length" 256 length
    .ok (.nat64Prefix address length)

def readPortOrder (value : String) : Except String Choice :=
  match portOrders.lookup (LetterCase.small value) with
  | some order => .ok (.endpointPortOrder order)
  | none => .error "Unsupported port order"

def read (name : OptionName) (value : String) : Except String Choice :=
  match name with
  | .logLevel => readLogLevel value
  | .hostAddress => readHostAddress value
  | .defaultRouter => .defaultRouter <$> v4 value
  | .localV6 => .localV6 <$> v6 "IPv6 address" value
  | .tunnelRemote => .tunnelRemote <$>
      required "IPv4 socket address" "IPv4 socket address" (Address.Socket4.read? value)
  | .tunnelLocalPort => .tunnelLocalPort <$> port value
  | .nat64Prefix => readNat64Prefix value
  | .ephemeralThreshold => .ephemeralThreshold <$> port value
  | .endpointPortOrder => readPortOrder value
  | .segmentListen => .segmentListen <$> socket value
  | .uplinkListen => .uplinkListen <$> socket value
  | .uplinkPeer => .uplinkPeer <$> socket value
  | .capture => .ok (.capture value)

end Choice

structure Settings where
  logLevel : Option Log.Level := some .info
  host : Option (Address.V4 × Address.V4) := none
  router : Option Address.V4 := none
  localV6 : Option Address.V6 := none
  remote : Option Address.Socket4 := none
  localPort : UInt16 := 9000
  nat64 : Option (Address.V6 × Nat) := none
  threshold : UInt16 := 1024
  portOrder : Endpoint.PortOrder := .reversed
  segmentListen : Address.Socket := .v6 .unspecified 0 6464
  uplinkListen : Address.Socket := .v4 ⟨.unspecified, 6446⟩
  uplinkPeer : Option Address.Socket := none
  capture : Option String := none
deriving DecidableEq, Repr

def Settings.choose (settings : Settings) : Choice → Settings
  | .logLevel level => { settings with logLevel := level }
  | .hostAddress address netmask => { settings with host := some (address, netmask) }
  | .defaultRouter address => { settings with router := some address }
  | .localV6 address => { settings with localV6 := some address }
  | .tunnelRemote socket => { settings with remote := some socket }
  | .tunnelLocalPort port => { settings with localPort := port }
  | .nat64Prefix address length => { settings with nat64 := some (address, length) }
  | .ephemeralThreshold port => { settings with threshold := port }
  | .endpointPortOrder order => { settings with portOrder := order }
  | .segmentListen socket => { settings with segmentListen := socket }
  | .uplinkListen socket => { settings with uplinkListen := socket }
  | .uplinkPeer socket => { settings with uplinkPeer := some socket }
  | .capture path => { settings with capture := some path }

end Nat64Gateway.CommandLine
