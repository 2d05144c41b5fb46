import ClusterDirectory.Text.Quoted

namespace ClusterDirectory

structure SystemError where
  code : Nat
  kind : String
  text : String
  deriving DecidableEq, Repr, Inhabited

namespace SystemError

def addressInUse : SystemError := ⟨98, "AddrInUse", "Address already in use"⟩

def networkUnreachable : SystemError := ⟨101, "NetworkUnreachable", "Network is unreachable"⟩

def connectionRefused : SystemError := ⟨111, "ConnectionRefused", "Connection refused"⟩

def all : List SystemError := [
  ⟨13, "PermissionDenied", "Permission denied"⟩,
  addressInUse,
  ⟨99, "AddrNotAvailable", "Cannot assign requested address"⟩,
  ⟨100, "NetworkDown", "Network is down"⟩,
  networkUnreachable,
  ⟨110, "TimedOut", "Connection timed out"⟩,
  connectionRefused,
  ⟨113, "HostUnreachable", "No route to host"⟩]

def ofCode (code : Nat) (text : String) : SystemError :=
  (all.find? (·.code == code)).getD ⟨code, "Uncategorized", text⟩

def message (e : SystemError) : String := s!"{e.text} (os error {e.code})"

def detail (e : SystemError) : String :=
  s!"Os \x7b code: {e.code}, kind: {e.kind}, message: {Text.quoted e.text} \x7d"

end SystemError

inductive IoFault
  | system (error : SystemError)
  | other (text : String)
  deriving DecidableEq, Repr

namespace IoFault

def message : IoFault → String
  | .system e => e.message
  | .other s => s

def detail : IoFault → String
  | .system e => e.detail
  | .other s => s!"Custom \x7b kind: Other, error: {Text.quoted s} \x7d"

end IoFault

inductive AddressForm
  | address
  | endpoint
  deriving DecidableEq, Repr

namespace AddressForm

def message : AddressForm → String
  | .address => "invalid IP address syntax"
  | .endpoint => "invalid socket address syntax"

def detail : AddressForm → String
  | .address => "AddrParseError(Ip)"
  | .endpoint => "AddrParseError(Socket)"

end AddressForm

inductive Failure
  | configuration (text : String)
  | io (fault : IoFault)
  | transport (text : String)
  | liveView (text : String)
  | metrics (text : String)
  | addressForm (form : AddressForm)
  deriving DecidableEq, Repr

namespace Failure

def label : Failure → String
  | .configuration _ => "Config"
  | .io _ => "Io"
  | .transport _ => "Transport"
  | .liveView _ => "LiveView"
  | .metrics _ => "Metrics"
  | .addressForm _ => "AddrParse"

def message : Failure → String
  | .configuration s => s!"Configuration error: {s}"
  | .io _ => "IO error"
  | .transport s => s!"Transport error: {s}"
  | .liveView s => s!"Live view error: {s}"
  | .metrics s => s!"Metrics error: {s}"
  | .addressForm _ => "Address parse error"

def source? : Failure → Option String
  | .io fault => some fault.message
  | .addressForm form => some form.message
  | _ => none

def detail (f : Failure) : String :=
  let inner := match f with
    | .configuration s | .transport s | .liveView s | .metrics s => Text.quoted s
    | .io fault => fault.detail
    | .addressForm form => form.detail
  s!"{f.label}({inner})"

end Failure

end ClusterDirectory
