import ClusterDirectory.Change
import ClusterDirectory.Failure

namespace ClusterDirectory

inductive Level
  | error
  | warn
  | info
  | debug
  | trace
  deriving DecidableEq, Repr

namespace Level

def all : List Level := [.error, .warn, .info, .debug, .trace]

def name : Level → String
  | .error => "ERROR"
  | .warn => "WARN"
  | .info => "INFO"
  | .debug => "DEBUG"
  | .trace => "TRACE"

def rank : Level → Nat
  | .error => 1
  | .warn => 2
  | .info => 3
  | .debug => 4
  | .trace => 5

end Level

inductive Area
  | service
  | settings
  | records
  | directory
  | updates
  | lookups
  | transport
  | requests
  deriving DecidableEq, Repr

def Area.target : Area → String
  | .service => "netmeta_cache"
  | .settings => "netmeta_cache::config"
  | .records => "netmeta_cache::model::types"
  | .directory => "netmeta_cache::cache"
  | .updates => "netmeta_cache::consumer"
  | .lookups => "netmeta_cache::datasource"
  | .transport => "netmeta_cache::transport"
  | .requests => "netmeta_cache::api::handlers::lookup"

inductive Notice
  | streamNotSet (name : String)
  | skippedAddress (text : String)
  | upserted (kind : Kind) (name : String) (addresses : Nat)
  | deleted (kind : Kind) (name : String) (removed addresses : Nat)
  | updatesStarted
  | updatesStopped
  | readFailed (failure : Failure)
  | emptyMessage
  | undecodable (message : String)
  | undecodablePayload (text : String)
  | changeReceived (operation : Operation) (kind : Kind) (name : String) (addresses : Nat)
  | liveViewUsed
  | streamInitializing
  | connecting (address : String)
  | connectionOpened (address : String)
  | connected (address : String)
  | reconnected (address : String)
  | reconnectDelayed (address : String) (nanoseconds failures : Nat)
  | addressLookup (address : String)
  | nodeLookup (name : String)
  | nodeLookupFailed (name : String) (failure : Failure)
  | refusingToStart
  | streamAt (address : String)
  | streamFailed (failure : Failure)
  | listenAddressInvalid (message : String)
  | bindFailed (message : String)
  | started (address : String)
  | endpoint (line : String)
  | serverStopping
  | shutdownSignal
  deriving DecidableEq, Repr

namespace Notice

def level : Notice → Level
  | .readFailed _ | .undecodable _ | .refusingToStart | .streamFailed _ | .listenAddressInvalid _
  | .bindFailed _ => .error
  | .streamNotSet _ | .skippedAddress _ | .nodeLookupFailed .. => .warn
  | .updatesStarted | .updatesStopped | .connected _ | .reconnected _ | .streamAt _ | .started _
  | .endpoint _ | .serverStopping | .shutdownSignal => .info
  | .emptyMessage | .changeReceived .. | .liveViewUsed | .streamInitializing
  | .reconnectDelayed .. => .debug
  | .upserted .. | .deleted .. | .undecodablePayload _ | .connecting _ | .connectionOpened _
  | .addressLookup _ | .nodeLookup _ => .trace

def area : Notice → Area
  | .streamNotSet _ => .settings
  | .skippedAddress _ => .records
  | .upserted .. | .deleted .. => .directory
  | .updatesStarted | .updatesStopped | .readFailed _ | .emptyMessage | .undecodable _
  | .undecodablePayload _ | .changeReceived .. => .updates
  | .liveViewUsed | .streamInitializing => .lookups
  | .connecting _ | .connectionOpened _ | .connected _ | .reconnected _ | .reconnectDelayed .. =>
      .transport
  | .addressLookup _ | .nodeLookup _ | .nodeLookupFailed .. => .requests
  | .refusingToStart | .streamAt _ | .streamFailed _ | .listenAddressInvalid _ | .bindFailed _
  | .started _ | .endpoint _ | .serverStopping | .shutdownSignal => .service

/-- A span of time in the largest unit that it fills, with the places that it needs. -/
def spanText (nanoseconds : Nat) : String :=
  if 1000000000 ≤ nanoseconds then inUnit 1000000000 9 "s"
  else if 1000000 ≤ nanoseconds then inUnit 1000000 6 "ms"
  else if 1000 ≤ nanoseconds then inUnit 1000 3 "µs"
  else inUnit 1 0 "ns"
where
  inUnit (unit places : Nat) (name : String) : String :=
    let digits := Nat.toDigits 10 (nanoseconds % unit)
    let padded := List.replicate (places - digits.length) '0' ++ digits
    let kept := (padded.reverse.dropWhile (· == '0')).reverse
    let fraction := if kept.isEmpty then "" else "." ++ String.ofList kept
    s!"{nanoseconds / unit}{fraction}{name}"

def message : Notice → String
  | .streamNotSet v => s!"{v} is not set. No metadata stream configured."
  | .skippedAddress t =>
      s!"Skipping invalid IP address '{t}': {AddressForm.address.message}"
  | .upserted k n c => s!"Upserted {k.name} '{n}' under {c} IP(s)"
  | .deleted k n removed c =>
      s!"Deleted {k.name} '{n}' ({removed} of {c} IP(s) were indexed)"
  | .updatesStarted => "Starting metadata update loop"
  | .updatesStopped => "Stopping metadata update loop"
  | .readFailed f => s!"Failed to read metadata message: {f.message}"
  | .emptyMessage => "Metadata stream: empty message"
  | .undecodable m => s!"Failed to decode metadata message: {m}"
  | .undecodablePayload t => s!"Undecodable payload: {Text.quoted t}"
  | .changeReceived op k n c => s!"Metadata stream: {op.name} {k.name} '{n}' ({c} IPs)"
  | .liveViewUsed => "Using live view datasource"
  | .streamInitializing => "Initializing metadata stream datasource"
  | .connecting a => s!"Attempting TCP connection to: {a}"
  | .connectionOpened a => s!"TCP connection established to: {a}"
  | .connected a => s!"Connected to metadata stream at {a}"
  | .reconnected a => s!"Reconnected to metadata stream at {a}"
  | .reconnectDelayed a delay failures =>
      s!"Delaying reconnect to {a} by {spanText delay} after {failures} consecutive errors"
  | .addressLookup a => s!"Lookup by IP: {a}"
  | .nodeLookup n => s!"Lookup node by name: {n}"
  | .nodeLookupFailed n f => s!"Node lookup for '{n}' failed: {f.message}"
  | .refusingToStart => "No metadata stream configured, refusing to start"
  | .streamAt a => s!"Metadata stream at {a}"
  | .streamFailed f => s!"Failed to initialize metadata stream: {f.message}"
  | .listenAddressInvalid m => s!"Invalid server address: {m}"
  | .bindFailed m => s!"Failed to bind address: {m}"
  | .started a => s!"Metadata cache starting on {a}"
  | .endpoint line => line
  | .serverStopping => "HTTP server shutting down"
  | .shutdownSignal => "Shutdown signal received"

end Notice

end ClusterDirectory
