import Std.Internal.UV.DNS
import Std.Internal.UV.Signal
import Std.Internal.UV.TCP
import Plotter.Launch
import Plotter.Service

/-!
# The program

The only part that acts on the world: it reads the command line, the environment and the file that
was chosen, listens, and joins a session to each client. What to do is decided elsewhere. Here a
connection is told what was read (`Plotter.Connection.next`), and what it then records as done to
its stream is done to the socket.
-/

namespace Plotter.Program

open Std.Net Std.Internal.UV

/-! ## What was chosen -/

/-- The fault that an error of the system stands for. A code is negated where the path was followed
and is not where the file was read. -/
def faultOf : IO.Error → FileFault
  | .noFileOrDirectory .. => .missing
  | .inappropriateType _ code _ => if code = 21 then .directory else .notDirectory
  | .invalidArgument _ code text => if code = -36 then .nameTooLong else .other text
  | e => .other (toString e)

/-- The bytes of a file, or why it cannot be read. -/
def readFile (path : String) : IO (Except FileFault (List UInt8)) := do
  try
    return .ok (← IO.FS.readBinFile path).data.toList
  catch e => return .error (faultOf e)

/-- The variables of the environment that stand in for options. -/
def environment : IO Choices.Environment := do
  let names := Flag.all.filterMap Flag.envName?
  let found ← names.mapM fun name => do return (← IO.getEnv name).map fun v => (name, v)
  return found.filterMap id

/-- The settings of this run. -/
def settings (words : List String) : IO (Except LaunchError Settings) := do
  let env ← environment
  match Choices.read words env with
  | .error stop => return .error (.stopped stop)
  | .ok c =>
    let contents ←
      match c.config with
      | none => pure (.ok [])
      | some path => readFile path
    return settingsOf (fun _ => contents) c

/-! ## Clients -/

/-- The stream that a connection is told of: what fails at the socket ends the client instead. -/
def quiet : Stream := .ofPieces []

/-- Begin a call on a socket and go on with what it leads to. A call that fails ends the client. -/
def after {α : Type} [Nonempty α] (ended : BaseIO Unit)
    (call : IO (IO.Promise (Except IO.Error α))) (next : α → BaseIO Unit) : BaseIO Unit := do
  match ← call.toBaseIO with
  | .error _ => ended
  | .ok promise =>
    BaseIO.chainTask promise.result! fun
      | .ok a => next a
      | .error _ => ended

/-- Do to the socket what a connection has recorded, one thing after the other, then go on. -/
def perform (socket : TCP.Socket) (ended : BaseIO Unit) :
    List Event → BaseIO Unit → BaseIO Unit
  | [], next => next
  | .written bytes :: rest, next =>
    after ended (socket.send #[⟨bytes.toArray⟩]) fun _ => perform socket ended rest next
  | .closed :: rest, next => after ended socket.shutdown fun _ => perform socket ended rest next
  | _ :: rest, next => perform socket ended rest next

/-- Serve one client to the end. -/
partial def converse (socket : TCP.Socket) (ended : BaseIO Unit) (x : Connection) : BaseIO Unit :=
  perform socket ended x.events.toList <|
    match x.status with
    | .going =>
      after ended (socket.recv? readSize.toUInt64) fun piece =>
        let bytes := (piece.map fun b => b.data.toList).getD []
        converse socket ended
          (Connection.next quiet { x with events := #[], journal := #[] } (.bytes bytes))
    | _ => ended

/-- Accept clients, as long as there are slots for them, until the program is interrupted. A client
that cannot be accepted is passed over. -/
partial def attend (listener : TCP.Socket) (v : Service) (interrupted : Task Unit)
    (clients : List (Task Unit)) : IO Unit := do
  let live ← clients.filterM fun t => do return !(← IO.hasFinished t)
  if v.slots ≤ live.length then
    IO.waitAny (interrupted :: live)
    unless ← IO.hasFinished interrupted do attend listener v interrupted live
  else
    let caller := (← listener.accept).result!
    IO.waitAny [interrupted, caller.map fun _ => ()]
    unless ← IO.hasFinished interrupted do
      match caller.get with
      | .ok socket =>
        let gone ← IO.Promise.new
        converse socket (gone.resolve ()) (Connection.greet v.setup quiet)
        attend listener v interrupted (gone.result! :: live)
      | .error e =>
        IO.eprintln s!"Failed to accept connection: {e}"
        attend listener v interrupted live

/-! ## Listening -/

/-- A host without the brackets around it. -/
def unbracketed (host : String) : String :=
  match host.toList with
  | '[' :: rest => String.ofList (rest.takeWhile (· != ']'))
  | _ => host

/-- The address to listen on. -/
def addressOf (s : Settings) : IO SocketAddress := do
  let port := s.port.toUInt16
  let found := (← DNS.getAddrInfo (unbracketed s.host) (toString s.port) 0).result!
  match (← IO.ofExcept (← IO.wait found)).toList with
  | .v4 a :: _ => return .v4 ⟨a, port⟩
  | .v6 a :: _ => return .v6 ⟨a, port⟩
  | [] => throw (IO.userError "no listen address")

/-- Listen and serve clients until the program is interrupted. -/
def serve (s : Settings) : IO Unit := do
  let listener ← TCP.Socket.new
  listener.bind (← addressOf s)
  listener.listen 1024
  match s.service.open? ⟨true⟩ with
  | .error _ => throw (IO.userError "more slots than can be counted")
  | .ok v =>
    let interrupt ← (← Signal.mk 2 false).next
    attend listener v (interrupt.result!.map fun _ => ()) []

end Plotter.Program

open Plotter in
/-- Serve with the settings that were chosen, or say why there are none. -/
def main (words : List String) : IO UInt32 := do
  match ← Program.settings words with
  | .ok s => do
    Program.serve s
    return 0
  | .error e => do
    match e with
    | .stopped stop => stop.shown.forM IO.println
    | _ => pure ()
    unless e.exitCode = 0 do IO.eprintln e.message
    return e.exitCode.toUInt32
