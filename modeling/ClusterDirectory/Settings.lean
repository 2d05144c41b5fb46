import ClusterDirectory.Text.Blank
import ClusterDirectory.Text.Decimal

namespace ClusterDirectory

structure StreamSettings where
  address : String
  timeoutSeconds : Nat
  deriving DecidableEq, Repr, Inhabited

namespace StreamSettings

inductive Defect
  | blankAddress
  | malformedAddress (address : String)
  | zeroTimeout
  deriving DecidableEq, Repr

def Defect.message : Defect → String
  | .blankAddress => "Stream address cannot be empty"
  | .malformedAddress address => s!"Invalid stream address '{address}': expected 'host:port'"
  | .zeroTimeout => "Stream connect timeout must be at least 1 second"

def portLimit : Nat := 65535

def splitAtLastColon? (s : String) : Option (String × String) :=
  let back := s.toList.reverse
  let port := (back.takeWhile (· != ':')).reverse
  match back.dropWhile (· != ':') with
  | _ :: host => some (String.ofList host.reverse, String.ofList port)
  | [] => none

def hasHostAndPort (address : String) : Bool :=
  match splitAtLastColon? address with
  | some (host, port) => host != "" && (Text.readNumber? portLimit port).isSome
  | none => false

def validate (s : StreamSettings) : Except Defect Unit :=
  if Text.allBlank s.address then .error .blankAddress
  else if !hasHostAndPort s.address then .error (.malformedAddress s.address)
  else if s.timeoutSeconds = 0 then .error .zeroTimeout
  else .ok ()

end StreamSettings

structure Settings where
  listenAddress : String := "0.0.0.0:9090"
  stream : Option StreamSettings := none
  deriving DecidableEq, Repr, Inhabited

namespace Settings

def listenVariable : String := "SERVER_ADDR"

def streamVariable : String := "METADATA_STREAM_ADDRESS"

def timeoutVariable : String := "STREAM_CONNECT_TIMEOUT_SECONDS"

def defaultTimeout : Nat := 5

def timeoutLimit : Nat := 0xFFFFFFFFFFFFFFFF

/-- The settings in an environment. A time-out that is no number counts as not set. -/
def ofEnvironment (lookup : String → Option String) : Settings where
  listenAddress := (lookup listenVariable).getD ({} : Settings).listenAddress
  stream := (lookup streamVariable).map fun address =>
    { address
      timeoutSeconds :=
        ((lookup timeoutVariable).bind (Text.readNumber? timeoutLimit)).getD defaultTimeout }

end Settings

end ClusterDirectory
