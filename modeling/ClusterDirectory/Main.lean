import ClusterDirectory.Log.Filter
import ClusterDirectory.Service
import ClusterDirectory.Settings.DotEnv
import Std.Async.DNS
import Std.Async.Signal
import Std.Async.System
import Std.Async.TCP
import Std.Http.Server

/-!
The program: the service on a network, with a clock, a log and an interrupt.

`Service` decides what is done and told. Here connections are opened, bytes and requests are passed
to the service, its waits are waited and its notices are written.
-/

namespace ClusterDirectory.Program

open Std.Async

def firstFile? : List String → IO (Option ByteArray)
  | [] => return none
  | path :: paths => do
      match ← (IO.FS.readBinFile path).toBaseIO with
      | .ok contents => return some contents
      | .error _ => firstFile? paths

def environment : IO DotEnv.Environment := do
  let env := (← System.getEnv).get?
  let depth := ((← IO.currentDir).toString.splitOn "/").length
  let paths := (List.range depth).map fun n => String.join (List.replicate n "../") ++ ".env"
  match ← firstFile? paths with
  | some contents => return DotEnv.load env contents.toList
  | none => return env

def tell (filter : Log.Filter) (notices : List Notice) : IO Unit := do
  for notice in notices do
    if filter.admits notice then IO.println (Log.line notice)
  (← IO.getStdout).flush

def clock : IO UInt64 :=
  return UInt64.ofNat (← Std.Time.Timestamp.now).toSecondsSinceUnixEpoch.val.toNat

def socketAddress (e : Endpoint) : Std.Net.SocketAddress :=
  match e.address with
  | .v4 a b c d => .v4 ⟨.ofParts a b c d, e.port⟩
  | .v6 s t u v w x y z => .v6 ⟨.ofParts s t u v w x y z, e.port⟩

/-- The number of a system error; the network gives it with its sign turned, in 32 bits. -/
def errorNumber (e : IO.Error) : Nat :=
  let code : UInt32 := match e with
    | .resourceBusy code _ | .resourceVanished code _ | .unsupportedOperation code _
    | .timeExpired code _ | .permissionDenied _ code _ | .noSuchThing _ code _
    | .invalidArgument _ code _ | .otherError code _ => code
    | _ => 0
  if code < 2147483648 then code.toNat else (-code).toNat

def systemError (e : IO.Error) : SystemError :=
  SystemError.ofCode (errorNumber e) (toString e)

def resolve (address : String) : Async (List Std.Net.SocketAddress) := do
  match Endpoint.parse? address, StreamSettings.splitAtLastColon? address with
  | some e, _ => return [socketAddress e]
  | none, some (host, port) =>
      let port := UInt16.ofNat ((Text.readNumber? StreamSettings.portLimit port).getD 0)
      let found ← DNS.getAddrInfo host ""
      return found.toList.map fun
        | .v4 a => .v4 ⟨a, port⟩
        | .v6 a => .v6 ⟨a, port⟩
  | none, none => return []

def dialEach (last : Answer) :
    List Std.Net.SocketAddress → Async (Answer × Option TCP.Socket.Client)
  | [] => return (last, none)
  | endpoint :: endpoints => do
      let client ← TCP.Socket.Client.mk
      let answer : Answer ←
        try
          client.connect endpoint
          pure .accepted
        catch error => pure (.rejected (systemError error))
      if answer = .accepted then return (answer, some client) else dialEach answer endpoints

def dial (s : StreamSettings) : Async (Answer × Option TCP.Socket.Client) := do
  let ask : Async (Answer × Option TCP.Socket.Client) := do
    try
      dialEach (.unresolved "could not resolve to any addresses") (← resolve s.address)
    catch error =>
      return (.unresolved s!"failed to lookup address information: {error}", none)
  let limit : Async (Answer × Option TCP.Socket.Client) := do
    sleep (.ofNat (min s.timeoutSeconds 1000000000 * 1000))
    return (.silent, none)
  Async.race ask limit

/-- Ask for a connection if the settings lead anywhere. Without an answer the service finds out by
itself what is wrong with them. -/
def dialStream (s : StreamSettings) : Async (Answer × Option TCP.Socket.Client) := do
  match s.validate, Link.formDefect? s.address with
  | .ok (), none => dial s
  | _, _ => return (.silent, none)

structure Tasks where
  settings : StreamSettings
  filter : Log.Filter
  state : Std.Mutex Stream

namespace Tasks

def change {α : Type} (t : Tasks) (f : Stream → α × Stream × List Notice) : IO α :=
  t.state.atomically do
    let (a, s, notices) := f (← get)
    set s
    tell t.filter notices
    return a

def changeLink {α : Type} (t : Tasks) (now : Nat) (f : Link → α × Link × List Notice) : IO α :=
  t.change fun s =>
    let (a, link, notices) := f (s.link.advance (now - s.link.now))
    (a, { s with link }, notices)

def pause (t : Tasks) : IO Nat := do
  t.changeLink (← IO.monoNanosNow) fun l =>
    let p := l.pause
    (p.waited, p.link, p.notices)

partial def readAll (t : Tasks) : IO Unit := do
  let now ← clock
  let more ← t.change fun s =>
    let (handled, s, notices) := s.next now
    (handled && s.link.wire.isSome, s, notices)
  if more then t.readAll

def receive (t : Tasks) (bytes : Option ByteArray) : IO Unit := do
  t.changeLink (← IO.monoNanosNow) fun l =>
    ((), l.send { bytes := (bytes.map (·.toList)).getD [], closes := bytes.isNone }, [])
  t.readAll

def running (t : Tasks) : IO Bool := t.state.atomically do return (← get).updates.running

def connected (t : Tasks) : IO Bool := t.state.atomically do return (← get).link.wire.isSome

partial def follow (t : Tasks) (client : Option TCP.Socket.Client) : Async Unit := do
  if ← t.running then
    match client with
    | some client =>
        let bytes ← try client.recv? 65536 catch _ => pure none
        t.receive bytes
        t.follow (if ← t.connected then some client else none)
    | none =>
        let wait ← t.pause
        if wait ≠ 0 then sleep (.ofNat (wait / 1000000 + 1))
        let begun ← IO.monoNanosNow
        let (answer, client) ← dialStream t.settings
        let latency := (← IO.monoNanosNow) - begun
        -- the attempt that the link makes now takes the time that it took here
        t.changeLink begun fun l => ((), { l with answer, latency }, [])
        t.readAll
        t.follow (if ← t.connected then client else none)

end Tasks

def send (w : Http.Response) : Async (Std.Http.Response Std.Http.Body.Any) := do
  let status := (Std.Http.Status.ofCode none (UInt16.ofNat w.status)).getD .ok
  let headers := [("content-type", w.contentType), ("allow", w.allow)]
  let builder := headers.foldl (fun b (name, value) =>
    ((value.bind (b.header? name)).getD b)) (Std.Http.Response.withStatus status)
  return builder.body (.ofBody (← Std.Http.Body.Full.ofString w.body))

def Tasks.answer (t : Tasks) (head : Std.Http.Request.Head) : IO Http.Response := do
  match Http.Method.parse? (toString head.method), Http.Target.parse (toString head.uri) with
  | some method, .ok target => t.change (Service.respond · { method, target })
  | _, _ => return { status := 400 }

def Tasks.handler (t : Tasks) : Std.Http.Server.StatelessHandler :=
  Std.Http.Server.Handler.ofFn fun request => do send (← t.answer request.line)

def listen (s : Settings) (t : Tasks) : Async (Option Std.Http.Server × Option SystemError) := do
  match Endpoint.parse? s.listenAddress with
  | none => return (none, none)
  | some endpoint =>
      try return (some (← Std.Http.Server.serve (socketAddress endpoint) t.handler), none)
      catch error => return (none, some (systemError error))

def fail (f : Failure) : IO UInt32 := do
  let report := Service.Report.ofFailure f []
  IO.eprint report.errorText
  return UInt32.ofNat report.exitCode

def serve (t : Tasks) (server : Std.Http.Server) (client : Option TCP.Socket.Client) :
    Async UInt32 := do
  let interrupt ← Signal.Waiter.mk .sigint false
  background (t.follow client)
  discard <| await (← interrupt.wait)
  t.change fun s => ((), Service.interrupt s)
  server.shutdownAndWait
  return 0

def run : Async UInt32 := do
  let env ← environment
  let filter := Log.Filter.ofSetting (env Log.filterVariable)
  let settings := Settings.ofEnvironment env
  tell filter (Service.settingsNotices settings)
  let (answer, client) ← match settings.stream with
    | some s => dialStream s
    | none => pure (.silent, none)
  let (opened, notices) := Service.openStream settings answer
  tell filter notices
  match opened with
  | .error f => fail f
  | .ok stream =>
      let state ← Std.Mutex.new { stream with link := stream.link.advance (← IO.monoNanosNow) }
      let t : Tasks := { settings := stream.link.settings, filter, state }
      let (server, refusal) ← listen settings t
      let (bound, notices) := Service.listen settings refusal
      tell filter notices
      match bound, server with
      | .error f, _ => fail f
      | .ok _, some server => serve t server client
      | .ok _, none => return 1

end ClusterDirectory.Program

def main : IO UInt32 := ClusterDirectory.Program.run.block
