import ClusterDirectory.Change.Decoder
import ClusterDirectory.Directory
import ClusterDirectory.Metrics

/-!
The updates of the directory from a stream of messages.

Messages are read one after the other until a stop is asked for or the one who could ask is gone.
A message that cannot be read, is empty or cannot be decoded is counted and changes nothing else;
any other one is applied. While the updates run a read is always pending, and a stop leaves it.
-/

namespace ClusterDirectory

structure Updates where
  directory : Directory := {}
  metrics : Metrics := {}
  running : Bool := true
  /-- whether someone is left who can ask for a stop -/
  supervised : Bool := true
  reads : Nat := 0

namespace Updates

abbrev Read := Except Failure (List UInt8)

inductive Step
  | reads (batch : List Read)
  | stop (asked : Bool)
  | abandon

def begin (u : Updates) : Updates := { u with reads := u.reads + 1 }

def count (u : Updates) (o : Outcome) : Updates :=
  { u with metrics := u.metrics.recordMessage o }

def applyChange (now : UInt64) (u : Updates) (c : Change) : Updates :=
  let d := u.directory.apply c
  { u with
    directory := d
    metrics := (u.metrics.recordChange c.operation now).setEntries
      (UInt64.ofNat d.counts.1) (UInt64.ofNat d.counts.2) }

def changeNotices (d : Directory) (c : Change) : List Notice :=
  [.changeReceived c.operation c.resource.kind c.resource.name c.resource.addresses.length,
    d.notice c]

def handlePayload (now : UInt64) (u : Updates) (payload : List UInt8) : Updates × List Notice :=
  if payload.isEmpty then (u.count .empty, [.emptyMessage])
  else
    let reading := Change.read payload
    let skipped := (Change.skippedTexts reading).map Notice.skippedAddress
    match Change.judge reading with
    | .error e =>
        (u.count .decodeError,
          skipped ++ [.undecodable e.message, .undecodablePayload (Text.ofBytesLossy payload)])
    | .ok c => (u.applyChange now c, skipped ++ changeNotices u.directory c)

def handle (now : UInt64) (u : Updates) (read : Read) : Updates × List Notice :=
  match read with
  | .error f => ((u.count .transportError).begin, [.readFailed f])
  | .ok payload =>
      let (u, notices) := u.handlePayload now payload
      (u.begin, notices)

def handleAll (now : UInt64) (u : Updates) : List Read → Updates × List Notice
  | [] => (u, [])
  | read :: batch =>
      let (u, first) := u.handle now read
      let (u, more) := handleAll now u batch
      (u, first ++ more)

def halt (u : Updates) : Updates × List Notice :=
  if u.running then ({ u with running := false }, [.updatesStopped]) else (u, [])

/-- Begin with an empty directory; nothing is read when a stop has been asked for before. -/
def start (stopped : Bool) : Updates × List Notice :=
  if stopped then ({ running := false }, [.updatesStarted, .updatesStopped])
  else (begin {}, [.updatesStarted])

def accepts (u : Updates) : Step → Bool
  | .reads batch => u.running || batch.isEmpty
  | .stop _ => u.running && u.supervised
  | .abandon => u.supervised

def step (now : UInt64) (u : Updates) : Step → Updates × List Notice
  | .reads batch => if u.running then u.handleAll now batch else (u, [])
  | .stop asked => if asked && u.supervised then u.halt else (u, [])
  | .abandon => { u with supervised := false }.halt

def run (now : UInt64) (u : Updates) (steps : List Step) : Updates :=
  steps.foldl (fun u s => (u.step now s).1) u

end Updates

end ClusterDirectory
