import ClusterDirectory.Http.Method
import ClusterDirectory.Http.Target
import ClusterDirectory.Metrics.Exposition
import ClusterDirectory.Source

/-!
Requests to the service and their answers.

A path is matched as it was sent, without decoding. A parameter is one segment that is not empty,
and is decoded after the match. `GET` and `HEAD` are answered, `HEAD` without the body.
-/

namespace ClusterDirectory.Http

structure Request where
  method : Method
  target : Target
  deriving DecidableEq, Repr

structure Response where
  status : Nat
  contentType : Option String := none
  allow : Option String := none
  body : String := ""
  deriving DecidableEq, Repr, Inhabited

namespace Response

def notFound : Response := { status := 404 }

def notAllowed : Response := { status := 405, allow := some "GET,HEAD" }

def json (status : Nat) (v : Json) : Response :=
  { status, contentType := some "application/json", body := String.ofList v.render }

def error (status : Nat) (text : String) : Response := json status (.object [("error", .text text)])

def badParameter (name : String) : Response where
  status := 400
  contentType := some "text/plain; charset=utf-8"
  body := s!"Invalid URL: Invalid UTF-8 in `{name}`"

end Response

/-- What a path asks for; a parameter is kept as it was sent. -/
inductive Route
  | health
  | metrics
  | address (segment : List Char)
  | node (segment : List Char)
  deriving DecidableEq, Repr

def segmentAfter? (start : String) (path : List Char) : Option (List Char) :=
  let n := start.toList.length
  let segment := path.drop n
  if path.take n = start.toList ∧ segment ≠ [] ∧ '/' ∉ segment then some segment else none

def Route.ofPath? (path : List Char) : Option Route :=
  if path = "/health".toList then some .health
  else if path = "/metrics".toList then some .metrics
  else ((segmentAfter? "/resources/ip/" path).map .address).or
    ((segmentAfter? "/resources/node/" path).map .node)

structure Site where
  source : Source
  metrics : Metrics

namespace Site

def version : String := "0.1.0"

def health (s : Site) : Response :=
  .json 200 (.object [
    ("status", .text "ok"), ("version", .text version), ("mode", .text s.source.mode)])

def refreshed (s : Site) : Site :=
  match s.source.directory? with
  | some d =>
      { s with metrics := s.metrics.setEntries (UInt64.ofNat d.counts.1) (UInt64.ofNat d.counts.2) }
  | none => s

def metricsPage (s : Site) : Response where
  status := 200
  contentType := some "application/openmetrics-text; version=1.0.0; charset=utf-8"
  body := s.metrics.render

def found (what : String) : Option Resource → Response
  | some r => .json 200 r.json
  | none => .error 404 s!"no resource found for {what}"

def lookupAddress (s : Site) (text : String) : Response × List Notice :=
  match Address.parse? text with
  | none => (.error 400 s!"invalid IP address '{text}'", [])
  | some a => (found s!"IP {a.render}" (s.source.address? a), [.addressLookup a.render])

def lookupNode (s : Site) (name : String) : Response × List Notice :=
  match s.source.node? name with
  | .ok r => (found s!"node '{name}'" r, [.nodeLookup name])
  | .error f => (.error 503 f.message, [.nodeLookup name, .nodeLookupFailed name f])

def withParameter (name : String) (segment : List Char)
    (lookup : String → Response × List Notice) : Response × List Notice :=
  match Text.ofBytes? (Text.Percent.decode segment) with
  | some text => lookup text
  | none => (.badParameter name, [])

def get (s : Site) : Route → Response × Site × List Notice
  | .health => (s.health, s, [])
  | .metrics => (s.refreshed.metricsPage, s.refreshed, [])
  | .address segment =>
      let (r, notices) := withParameter "ip" segment s.lookupAddress
      (r, s, notices)
  | .node segment =>
      let (r, notices) := withParameter "name" segment s.lookupNode
      (r, s, notices)

def respond (s : Site) (q : Request) : Response × Site × List Notice :=
  match Route.ofPath? q.target.path with
  | none => (.notFound, s, [])
  | some route =>
      match q.method with
      | .get => s.get route
      | .head =>
          let (r, s, notices) := s.get route
          ({ r with body := "" }, s, notices)
      | .other _ => (.notAllowed, s, [])

end Site

end ClusterDirectory.Http
