import ConnectorConsole.CommandLine.Run
import ConnectorConsole.CommandLine.Usage
import ConnectorConsole.Ops.Ticker
import ConnectorConsole.Service.Wire
import ConnectorConsole.Terminal.Watch
import Std.Async.DNS
import Std.Async.TCP
import Std.Async.Timer
import Std.Sync.Channel
import Std.Time.DateTime.Timestamp

/-!
# The program

The outer layer: it reads the environment, files and the terminal, carries octets
to the service and back, and prints. What is asked and what is printed is decided
elsewhere.
-/

namespace ConnectorConsole

namespace Program

def present : IO Timestamp := do
  let now ← Std.Time.Timestamp.now
  return .ofUnixSeconds now.toSecondsSinceUnixEpoch.val

def fileProblem : IO.Error → FileProblem
  | .noFileOrDirectory .. => .missing
  | .inappropriateType .. => .isDirectory
  | problem => .other (toString problem)

def readFiles (path : Option String) : IO Files := do
  match path with
  | none => return fun _ => .error .missing
  | some path =>
    let contents : Except FileProblem (List UInt8) ←
      try
        let bytes ← IO.FS.readBinFile path
        pure (.ok bytes.toList)
      catch problem => pure (.error (fileProblem problem))
    return fun asked => if asked = path then contents else .error .missing

/-- All that a connection delivers until it is closed. -/
partial def receiveAll (client : Std.Async.TCP.Socket.Client) (received : ByteArray) :
    Std.Async.Async ByteArray := do
  match ← client.recv? 65536 with
  | none => return received
  | some more => receiveAll client (received ++ more)

def socketAddress (address : Std.Net.IPAddr) (port : UInt16) : Std.Net.SocketAddress :=
  match address with
  | .v4 address => .v4 ⟨address, port⟩
  | .v6 address => .v6 ⟨address, port⟩

def carry (url : Url) (octets : ByteArray) : Std.Async.Async ByteArray := do
  let port := Wire.portOf url
  let found ← Std.Async.DNS.getAddrInfo (Wire.machine url) (toString port)
  match found[0]? with
  | none => throw (IO.userError "no address")
  | some address =>
    let client ← Std.Async.TCP.Socket.Client.mk
    client.connect (socketAddress address (UInt16.ofNat port))
    client.send octets
    receiveAll client ByteArray.empty

/-- Wait for octets, though not for longer than a number of seconds. -/
def within (seconds : Option UInt64) (action : Std.Async.Async ByteArray) :
    Std.Async.Async ByteArray := do
  match seconds with
  | none => action
  | some seconds =>
    Std.Async.Async.race action do
      Std.Async.sleep (Std.Time.Millisecond.Offset.ofNat (seconds.toNat * 1000))
      throw (IO.userError "timeout")

/-- Send a request. Secure connections are not available. -/
def deliver (timeout : Option UInt64) (request : Request) : IO Delivery := do
  if request.url.secure then return .broken
  try
    let octets := (Wire.requestText request).toUTF8
    let answer ← (within timeout (carry request.url octets)).block
    return Wire.delivery answer.toList
  catch _ => return .broken

def perform {α : Type} (timeout : Option UInt64) : Exchange α → IO α
  | .done value => return value
  | .ask request next => do
    let delivery ← deliver timeout request
    perform timeout (next delivery)

def print (text : String) : IO Unit := do
  let output ← IO.getStdout
  output.putStr text
  output.flush

/-- Hand on what the operator types, line by line. The end of the input ends
nothing. -/
partial def listen (events : Std.Channel.Sync WatchEvent) : IO Unit := do
  let input ← IO.getStdin
  let line ← input.getLine
  if line.isEmpty then return ()
  let (commands, told) := Command.readAll (Utf8.encode line)
  IO.eprint told
  for command in commands do events.send (.command command)
  unless commands.contains .quit do listen events

/-- Hand on the ticks that are due, and rest until the next one is. -/
partial def beat (start : Nat) (ticker : Ticker) (events : Std.Channel.Sync WatchEvent) :
    IO Unit := do
  if ← IO.checkCanceled then return ()
  let now := (← IO.monoMsNow) - start
  let (count, ticker) := ticker.advance now
  for _ in List.range count do events.send .tick
  IO.sleep (UInt32.ofNat (min (ticker.due - now) (UInt32.size - 1)))
  beat start ticker events

def realize (service : Service) (timeout : Option UInt64)
    (events : Std.Channel.Sync WatchEvent) (effect : WatchEffect) : IO Unit := do
  print effect.printed
  match effect with
  | .send request =>
    let answer : IO Unit := do
      let outcome ← perform timeout (service.fetchOps request.state).run
      events.send (.answer request outcome (← present))
    discard (IO.asTask answer .dedicated)
  | _ => return ()

/-- Watch a screen until the operator quits. -/
partial def observe (service : Service) (timeout : Option UInt64)
    (events : Std.Channel.Sync WatchEvent) (watch : Watch) : IO Unit := do
  if watch.running then
    let event ← events.recv
    let (watch, effects) := watch.step event
    effects.forM (realize service timeout events)
    observe service timeout events watch

/-- Watch a screen, with ticks and the operator's commands coming in. -/
def watch (settings : Settings) (service : Service) (state : QueryState) : IO Unit := do
  let events ← Std.Channel.Sync.new
  let ticker := Ticker.start settings.refreshMilliseconds.toNat
  let (watch, effects) := Watch.start (Controller.new state)
  IO.eprintln OperatorLine.helpText
  effects.forM (realize service settings.timeoutSeconds events)
  discard (IO.asTask (listen events) .dedicated)
  let ticks ← IO.asTask (beat (← IO.monoMsNow) ticker events) .dedicated
  observe service settings.timeoutSeconds events watch
  IO.cancel ticks

/-- Run what is prepared. The answer is the exit status. -/
def runPrepared (settings : Settings) (files : Files) (prepared : Prepared) : IO UInt32 := do
  match prepared.run? files (← present), prepared with
  | some exchange, _ => do
    let outcome ← perform settings.timeoutSeconds exchange
    print outcome.printed
    IO.eprint outcome.told
    return UInt32.ofNat outcome.exitStatus
  | none, .watch service state => do
    watch settings service state
    return 0
  | none, _ => return 0

def fail (failure : Failure) : IO UInt32 := do
  IO.eprint failure.told
  return UInt32.ofNat failure.exitStatus

def fileOf : ConsoleCommand → Option String
  | .studio command => command.file?
  | .ops _ => none

def run (words : List String) : IO UInt32 := do
  match Invocation.read words with
  | .error problem => do
    if problem.isRequest then print problem.told else IO.eprint problem.told
    return UInt32.ofNat problem.exitStatus
  | .ok invocation => do
    let values ← Settings.variableNames.mapM fun name => do return (name, ← IO.getEnv name)
    match invocation.settings fun name => (values.lookup name).join with
    | .error failure => fail failure
    | .ok settings =>
      match Prepared.ofCommand settings invocation.command with
      | .error failure => fail failure
      | .ok prepared => runPrepared settings (← readFiles (fileOf invocation.command)) prepared

end Program

end ConnectorConsole

def main (words : List String) : IO UInt32 :=
  ConnectorConsole.Program.run words
