import ClusterDirectory.Http.Router
import ClusterDirectory.Stream

namespace ClusterDirectory.Service

def noStream : Failure := .configuration s!"{Settings.streamVariable} must be set"

def endpointLines : List String := [
  "Endpoints:",
  "  - GET /health                 - Health check",
  "  - GET /metrics                - Prometheus metrics",
  "  - GET /resources/ip/\x7bip\x7d      - Resource by IP",
  "  - GET /resources/node/\x7bname\x7d  - Node by name"]

def settingsNotices (s : Settings) : List Notice :=
  if s.stream.isNone then [.streamNotSet Settings.streamVariable] else []

def openStream (s : Settings) (answer : Answer) : Except Failure Stream × List Notice :=
  match s.stream with
  | none => (.error noStream, [.refusingToStart])
  | some stream =>
      match Stream.connect stream answer false with
      | (.ok opened, notices) => (.ok opened, .streamAt stream.address :: notices)
      | (.error f, notices) =>
          (.error f, .streamAt stream.address :: notices ++ [.streamFailed f])

def listen (s : Settings) (refusal : Option SystemError) :
    Except Failure Endpoint × List Notice :=
  match Endpoint.parse? s.listenAddress with
  | none =>
      (.error (.addressForm .endpoint), [.listenAddressInvalid AddressForm.endpoint.message])
  | some e =>
      match refusal with
      | some error => (.error (.io (.system error)), [.bindFailed error.message])
      | none => (.ok e, .started e.render :: endpointLines.map .endpoint)

def start (s : Settings) (answer : Answer) (refusal : Option SystemError) :
    Except Failure Stream × List Notice :=
  let (opened, first) := openStream s answer
  match opened with
  | .error f => (.error f, settingsNotices s ++ first)
  | .ok stream =>
      let (bound, second) := listen s refusal
      let notices := settingsNotices s ++ first ++ second
      match bound with
      | .error f => (.error f, notices)
      | .ok _ => (.ok stream, notices)

def site (s : Stream) : Http.Site := ⟨s.source, s.updates.metrics⟩

def respond (s : Stream) (q : Http.Request) : Http.Response × Stream × List Notice :=
  let (response, after, notices) := (site s).respond q
  (response, { s with updates.metrics := after.metrics }, notices)

def respondAll (s : Stream) : List Http.Request → List Http.Response × Stream × List Notice
  | [] => ([], s, [])
  | q :: qs =>
      let (response, s, first) := respond s q
      let (responses, s, more) := respondAll s qs
      (response :: responses, s, first ++ more)

def interrupt (s : Stream) : Stream × List Notice :=
  let (s, notices) := s.halt
  (s, [.shutdownSignal, .serverStopping] ++ notices)

structure Report where
  exitCode : Nat := 0
  errorText : String := ""
  notices : List Notice
  responses : List Http.Response := []

def Report.ofFailure (f : Failure) (notices : List Notice) : Report where
  exitCode := 1
  errorText := s!"Error: {f.detail}\n"
  notices := notices

def run (now : UInt64) (s : Settings) (answer : Answer) (refusal : Option SystemError)
    (payloads : List (List UInt8)) (requests : List Http.Request) : Report :=
  let (started, first) := start s answer refusal
  match started with
  | .error f => .ofFailure f first
  | .ok stream =>
      let (stream, second) := stream.receive now payloads
      let (responses, stream, third) := respondAll stream requests
      let (_, last) := interrupt stream
      { notices := first ++ second ++ third ++ last, responses }

end ClusterDirectory.Service
