import ClusterDirectory.Link
import ClusterDirectory.Source
import ClusterDirectory.Updates

namespace ClusterDirectory

structure Stream where
  link : Link
  updates : Updates

namespace Stream

def connect (settings : StreamSettings) (answer : Answer) (stopped : Bool) :
    Except Failure Stream × List Notice :=
  match settings.validate with
  | .error d => (.error (.configuration d.message), [])
  | .ok () =>
      match Link.connect { settings, answer } with
      | (.error f, notices) => (.error f, .streamInitializing :: notices)
      | (.ok link, notices) =>
          let (updates, started) := Updates.start stopped
          (.ok { link, updates }, .streamInitializing :: notices ++ started)

def readOf : Link.Result → Option Updates.Read
  | .message payload => some (.ok payload)
  | .failed f => some (.error f)
  | .pending => none

/-- Read once, and handle what was read. The first part tells whether the read came to an end; one
that is pending may have opened a connection. -/
def next (now : UInt64) (s : Stream) : Bool × Stream × List Notice :=
  if s.updates.running then
    let p := s.link.read
    match readOf p.result with
    | none => (false, { s with link := p.link }, p.notices)
    | some read =>
        let (updates, notices) := s.updates.handle now read
        (true, { link := p.link, updates }, p.notices ++ notices)
  else (false, s, [])

def readUpTo (now : UInt64) (s : Stream) : (count : Nat) → Stream × List Notice
  | 0 => (s, [])
  | n + 1 =>
      match s.next now with
      | (false, s, notices) => (s, notices)
      | (true, s, first) =>
          let (s, more) := readUpTo now s n
          (s, first ++ more)

def receive (now : UInt64) (s : Stream) (payloads : List (List UInt8)) : Stream × List Notice :=
  let bytes := (payloads.map Frame.encode).flatten
  { s with link := s.link.send { bytes } }.readUpTo now payloads.length

def halt (s : Stream) : Stream × List Notice :=
  let (updates, notices) := s.updates.halt
  ({ s with updates }, notices)

def source (s : Stream) : Source := .stream s.updates.directory

end Stream

end ClusterDirectory
