import ClusterDirectory.Address.Endpoint
import ClusterDirectory.Backoff
import ClusterDirectory.Frame
import ClusterDirectory.Notice
import ClusterDirectory.Settings

/-!
The link between the service and the publisher of the stream.

Both ends are here: the publisher, who sends bytes on the connection that is up or on the next one
that is opened, and the reader, who takes frames from the connection. A reader that fails drops the
connection with all that is left on it, and opens a new one at its next read, after the wait that
`Backoff` asks for.

How a request for a connection is answered, and how long that takes, is up to the network, the
look-up of names included: it is a part of the link, for every address that has a port. Time is in
nanoseconds. It passes by `advance`, and in a read by the wait and by the attempt that follows it.
-/

namespace ClusterDirectory

inductive Answer
  /-- at once: the system cannot even ask for it -/
  | failed (error : SystemError)
  /-- the host is not found -/
  | unresolved (reason : String)
  /-- the host, or what is on the way to it, gives an error -/
  | rejected (error : SystemError)
  /-- not within the time-out -/
  | silent
  | accepted
  deriving DecidableEq, Repr, Inhabited

def Answer.refused : Answer := .rejected .connectionRefused

structure Transmission where
  bytes : List UInt8
  closes : Bool := false
  deriving DecidableEq, Repr

structure Wire where
  unread : List UInt8 := []
  closed : Bool := false
  deriving DecidableEq, Repr

def Wire.send (w : Wire) (t : Transmission) : Wire := ⟨w.unread ++ t.bytes, t.closes⟩

structure Link where
  settings : StreamSettings
  answer : Answer
  /-- how long an answer takes, up to the time-out -/
  latency : Nat := 0
  queue : List Transmission := []
  wire : Option Wire := none
  backoff : Backoff := {}
  now : Nat := 0
  deriving DecidableEq, Repr

namespace Link

def address (l : Link) : String := l.settings.address

/-! ## The publisher -/

def deliver (w : Wire) : List Transmission → Wire × List Transmission
  | [] => (w, [])
  | t :: ts => if t.closes then (w.send t, ts) else deliver (w.send t) ts

/-- Send on the connection that is up, or else on the next one. -/
def send (l : Link) (t : Transmission) : Link :=
  match l.wire with
  | some w =>
      if w.closed then { l with queue := l.queue ++ [t] } else { l with wire := some (w.send t) }
  | none => { l with queue := l.queue ++ [t] }

def stopListening (l : Link) : Link :=
  { l with answer := if l.answer = .accepted then .refused else l.answer }

def delay (l : Link) (nanoseconds : Nat) : Link := { l with latency := nanoseconds }

def advance (l : Link) (nanoseconds : Nat) : Link := { l with now := l.now + nanoseconds }

/-! ## Opening a connection -/

inductive FormDefect
  | noPort
  | badPort
  deriving DecidableEq, Repr

def FormDefect.message : FormDefect → String
  | .noPort => "invalid socket address"
  | .badPort => "invalid port value"

/-- An endpoint is an address, and so is any host with a port after its last colon. -/
def formDefect? (address : String) : Option FormDefect :=
  if (Endpoint.parse? address).isSome then none
  else
    match StreamSettings.splitAtLastColon? address with
    | none => some .noPort
    | some (_, port) =>
        if (Text.readNumber? StreamSettings.portLimit port).isSome then none else some .badPort

def patience (l : Link) : Nat := l.settings.timeoutSeconds * Backoff.second

/-- The answer that the reader gets. A host that must be asked or looked up takes a moment, and a
time-out of zero is over by then. -/
def heard (l : Link) : Answer :=
  match formDefect? l.address, l.answer with
  | none, .failed e => .failed e
  | defect, answer =>
      if l.settings.timeoutSeconds = 0 then .silent
      else defect.elim answer fun d => .unresolved d.message

def attemptTime (l : Link) : Nat :=
  match l.heard with
  | .failed _ => 0
  | .silent => l.patience
  | .unresolved _ | .rejected _ | .accepted => min l.latency l.patience

def attempted (l : Link) : Link := l.advance l.attemptTime

def cannotConnect (l : Link) (reason : String) : Failure :=
  .transport s!"failed to connect to {l.address}: {reason}"

def timedOut (l : Link) : Failure :=
  .transport s!"connection to {l.address} timed out after {Notice.spanText l.patience}"

def obstacle? (l : Link) : Option Failure :=
  match l.heard with
  | .failed e | .rejected e => some (l.cannotConnect e.message)
  | .unresolved reason => some (l.cannotConnect reason)
  | .silent => some l.timedOut
  | .accepted => none

def openWire (l : Link) : Except Failure Link × List Notice :=
  match l.obstacle? with
  | some f => (.error f, [.connecting l.address])
  | none =>
      let (w, queue) := deliver {} l.queue
      (.ok { l with wire := some w, queue }, [.connecting l.address, .connectionOpened l.address])

def connect (l : Link) : Except Failure Link × List Notice :=
  match l.attempted.openWire with
  | (.ok l, notices) => (.ok l, notices ++ [.connected l.address])
  | (.error f, notices) => (.error f, notices)

/-! ## Reading -/

/-- The link after a read, how long the reader waited before it asked for a connection, and how long
the answer took. -/
structure Progress (α : Type) where
  result : α
  link : Link
  waited : Nat := 0
  taken : Nat := 0
  notices : List Notice := []

def recordFailure (l : Link) : Link := { l with backoff := l.backoff.recordFailure l.now }

def pause (l : Link) : Progress Unit :=
  match l.backoff.delay? l.now with
  | none => { result := (), link := l }
  | some delay =>
      { result := ()
        link := l.advance delay
        waited := delay
        notices := [.reconnectDelayed l.address delay l.backoff.failures] }

def reconnect (l : Link) : Progress (Except Failure Unit) :=
  let p := l.pause
  let tried := p.link.attempted
  match tried.openWire with
  | (.ok l, notices) =>
      { result := .ok (), link := l, waited := p.waited, taken := p.link.attemptTime,
        notices := p.notices ++ notices ++ [.reconnected l.address] }
  | (.error f, notices) =>
      { result := .error f, link := tried.recordFailure, waited := p.waited,
        taken := p.link.attemptTime, notices := p.notices ++ notices }

/-- What a read comes to; it is pending as long as the publisher has to send more. -/
inductive Result
  | message (payload : List UInt8)
  | failed (failure : Failure)
  | pending
  deriving DecidableEq, Repr

def couldMend : Frame.Defect → Bool
  | .tooLong _ => false
  | .endsAtByte | .endsInBlock => true

def readWire (l : Link) : Result × Link :=
  match l.wire with
  | none => (.failed (.transport s!"no connection to {l.address}"), l)
  | some w =>
      match Frame.next w.unread with
      | .ok (payload, rest) =>
          (.message payload,
            { l with wire := some { w with unread := rest }, backoff := l.backoff.recordSuccess })
      | .error stop =>
          if couldMend stop.defect && !w.closed then (.pending, l)
          else
            (.failed (.transport s!"read from {l.address} failed: {stop.defect.message}"),
              { l with wire := none }.recordFailure)

def read (l : Link) : Progress Result :=
  if l.wire.isSome then
    let (result, link) := l.readWire
    { result, link }
  else
    let p := l.reconnect
    match p.result with
    | .error f => { p with result := .failed f }
    | .ok () =>
        let (result, link) := p.link.readWire
        { p with result, link }

end Link

end ClusterDirectory
