import Nat64Gateway.CommandLine.Arguments
import Nat64Gateway.Failure

namespace Nat64Gateway.CommandLine

def version : String := "tunnel64 version 0.1.0"

def usage : String := "\n".intercalate [
  "Usage: tunnel64 [OPTIONS] serve",
  "",
  "Options:",
  "      --log-level=<LOG_LEVEL>          Log level [default: info]",
  "      --host-address=<IP>/<NETMASK>    IPv4 host address and netmask [default: unconfigured]",
  "      --default-router=<IP>            IPv4 default router [default: 0.0.0.0]",
  "      --local-ipv6=<IP>                IPv6 address of the segment node receiving local flows",
  "      --tunnel-remote=<IP>:<PORT>      Remote tunnel endpoint (required)",
  "      --tunnel-local-port=<PORT>       Local port of the outer tunnel flow [default: 9000]",
  "      --nat64-prefix=<IP>/<LEN>        NAT64 address prefix [default: ::ffff:0.0.0.0/96]",
  "      --ephemeral-threshold=<PORT>     Ports below this value bypass the tunnel [default: 1024]",
  "      --endpoint-port-order=<ORDER>    Source port order in endpoint blocks, reversed or network "
    ++ "[default: reversed]",
  "      --segment-listen=<IP>:<PORT>     Listen address for IPv6 packets from the segment "
    ++ "[default: [::]:6464]",
  "      --uplink-listen=<IP>:<PORT>      Listen address for IPv4 packets from the uplink "
    ++ "[default: 0.0.0.0:6446]",
  "      --uplink-peer=<IP>:<PORT>        Address receiving IPv4 packets for the uplink (required)",
  "      --pcap=<FILENAME>                Write translated packets into a PCAP file",
  "      --help                           Print help"]

structure Report where
  output : List String := []
  errors : List String := []
deriving DecidableEq, Repr

namespace Report

def print (report : Report) (line : String) : Report :=
  { report with output := report.output ++ [line] }

def complain (report : Report) (line : String) : Report :=
  { report with errors := report.errors ++ [line] }

def log (limit : Option Log.Level) (report : Report) (line : Log.Line) : Report :=
  if !Log.Level.admits limit line.level then report
  else if line.level.isComplaint then report.complain line.text
  else report.print line.text

end Report

structure Station where
  context : Context
  segmentListen : Address.Socket
  uplinkListen : Address.Socket
  uplinkPeer : Address.Socket
  capture : Option String
  logLevel : Option Log.Level
deriving DecidableEq, Repr

inductive Course where
  | finished (code : Nat) (report : Report)
  | serving (station : Station) (report : Report)
deriving DecidableEq, Repr

-- The usage follows what was printed, and a misused command line ends with code 2.
def misuse (report : Report) (complaint : String) : Course :=
  .finished 2 ((report.complain complaint).print usage)

def Halt.course (report : Report) : Halt → Course
  | .help => .finished 0 (report.print usage)
  | .valueless argument => misuse report ("Option flag " ++ argument ++ " has no value")
  | .refused name value reason =>
    misuse report ("Argument " ++ name ++ " has an unsupported value " ++ value ++ ": " ++ reason)

def Settings.changes (settings : Settings) (remote : Address.Socket4) : List Context.Setting :=
  (settings.host.map fun (address, netmask) => .host address netmask).toList
    ++ (settings.router.map .router).toList
    ++ (settings.localV6.map .localV6).toList
    ++ [.remote remote, .localPort settings.localPort]
    ++ (settings.nat64.map fun (address, length) => .nat64 address length).toList

def Settings.fresh (settings : Settings) : Context :=
  { threshold := settings.threshold, portOrder := settings.portOrder }

def launch (settings : Settings) (remote : Address.Socket4) (uplinkPeer : Address.Socket)
    (report : Report) : Course :=
  let (lines, result) := settings.fresh.applyAll (settings.changes remote)
  let report := lines.foldl (Report.log settings.logLevel) report
  match result with
  | .error fault =>
    .finished 2 (report.print
      ("Failed to configure addresses, error is " ++ (Failure.ofFault fault).message))
  | .ok context =>
    .serving {
      context, uplinkPeer
      segmentListen := settings.segmentListen
      uplinkListen := settings.uplinkListen
      capture := settings.capture
      logLevel := settings.logLevel } report

def act (action : String) (settings : Settings) (report : Report) : Course :=
  if action ≠ "serve" then misuse report "No action specified"
  else
    match settings.remote, settings.uplinkPeer with
    | some remote, some uplinkPeer => launch settings remote uplinkPeer report
    | _, _ => misuse report "Tunnel remote and uplink peer must be specified"

-- Without any argument the program's own name is taken for the action.
def run (program : String) (arguments : List String) : Course :=
  let scan := scan {} arguments.dropLast
  let report : Report := { output := [version], errors := scan.complaints }
  match scan.halt with
  | some halt => halt.course report
  | none => act (arguments.getLast?.getD program) scan.settings report

def brokenText (reason : String) : String :=
  "Failed to run gateway, error is " ++ (Failure.io reason).message

def broken (report : Report) (reason : String) : Course :=
  .finished 1 (report.print (brokenText reason))

end Nat64Gateway.CommandLine
