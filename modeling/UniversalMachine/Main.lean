import UniversalMachine.CommandLine
import UniversalMachine.Terminal.Loop
import UniversalMachine.Terminal.Pane

/-! The command line program: the standard streams and the file system around the library. -/
namespace UniversalMachine.Main

/-- Whether the system means `number` by its error code, which may be negated. -/
def isErrorNumber (code number : UInt32) : Bool := code = number || code = 0 - number

/-- Reads a file, with the errors that the command line tells apart. -/
def readFile (path : String) : IO (Except FileError (List UInt8)) := do
  try
    return .ok (← IO.FS.readBinFile path).toList
  catch error =>
    return .error <| match error with
      | .noFileOrDirectory .. => .notFound
      | .inappropriateType _ code _ =>
        if isErrorNumber code 20 then .notDirectory else .isDirectory
      | .invalidArgument _ code details =>
        if isErrorNumber code 36 then .nameTooLong else .other details
      | other => .other (toString other)

/-- Reads on up to and with the next newline. No bytes mean the end of input. -/
partial def readLine (input : IO.FS.Stream) (read : Array UInt8) : IO (List UInt8) := do
  match (← input.read 1).toList with
  | [] => return read.toList
  | byte :: _ =>
    let read := read.push byte
    if byte = Device.newline then return read.toList else readLine input read

/-- Arrays of a gibibyte or more are refused: a process that runs out of memory cannot go on. -/
def refuses (size : UInt32) : Bool := 0x10000000 ≤ size.toNat

def reportFault (fault : Fault) (snapshot : Snapshot) : IO Unit := do
  IO.eprintln snapshot.text
  IO.eprint (Headless.Ending.faulted fault).message

/-- Writes out what a sink has let through behind the bytes shown before; tells whether the standard
output took it. -/
def showOutput (written : Array UInt8) (shown : Nat) : IO Bool := do
  let output ← IO.getStdout
  try
    output.write ⟨written.extract shown written.size⟩
    output.flush
    return true
  catch error =>
    IO.eprint (Headless.Ending.outputFailed ⟨.other,toString error⟩).message
    return false

/-- The sink right before the instruction that finds the source at its end. -/
def sinkBeforeEnd (m : Machine) (console : StreamConsole Device.LineBuffer) :
    (budget : Nat) → Device.LineBuffer
  | 0 => console.sink
  | budget + 1 =>
    let r := m.runFor 1 console
    if r.machine.inputClosed then console.sink.flush.2 else sinkBeforeEnd r.machine r.console budget

/-- Runs slice after slice on the standard streams. The source holds the lines that were read so far.
A slice that came to their end is run again with the next line, unless there is none. -/
partial def runHeadless (m : Machine) (console : StreamConsole Device.LineBuffer) (shown : Nat)
    (atEnd : Bool) : IO UInt32 := do
  let turn := Headless.turn m console
  let (machine, after) := match turn with
    | .ended result => (result.machine, result.console)
    | .goesOn machine console => (machine, console)
  if machine.inputClosed && !atEnd then
    let written := (sinkBeforeEnd m console Headless.slice).written
    unless ← showOutput written shown do return 1
    let line ← readLine (← IO.getStdin) #[]
    let source := if line.isEmpty then console.source else console.source ++ [.bytes line]
    runHeadless m { console with source } written.size line.isEmpty
  else
    match turn with
    | .goesOn m console =>
      unless ← showOutput after.sink.written shown do return 1
      runHeadless m console after.sink.written.size atEnd
    | .ended result =>
      unless ← showOutput after.sink.finish.toArray shown do return 1
      IO.eprint (after.diagnostics ++ result.ending.message)
      return .ofNat result.ending.exitCode

/-- The keys of a typed line; the end of input closes a waiting program's input, and quits
otherwise. -/
def typedKeys (t : Terminal) (line : String) : List Terminal.Key :=
  if line.isEmpty then
    [if t.inputEnabled then { code := .char 'd', ctrl := true } else { code := .escape }]
  else line.toList.map fun c => if c = '\n' then { code := .enter } else { code := .char c }

/-- Shows a frame, then takes a line of keys whenever the program does not run. -/
partial def runInteractive (size : Terminal.Size) (t : Terminal) : IO UInt32 := do
  let t := t.refresh size
  let output ← IO.getStdout
  output.putStr "\x1b[2J\x1b[H"
  output.putStr ("\n".intercalate (t.frame size).texts)
  output.flush
  if t.shouldQuit then
    output.putStr "\n"
    match t.fault with
    | none => return 0
    | some (fault, snapshot) =>
      reportFault fault snapshot
      return 1
  else if t.status = .running then runInteractive size t
  else
    let line ← (← IO.getStdin).getLine
    runInteractive size ((typedKeys t line).foldl Terminal.handleKey t)

/-- Carries a plan out. -/
def carryOut : CommandLine.Plan → IO UInt32
  | .refuse text => do
    IO.eprint text
    return 1
  | .headless text m => do
    IO.eprint text
    runHeadless m { source := [], sink := {} } 0 false
  | .interactive name session => runInteractive ⟨80,24⟩ (.ofSession session name)

end UniversalMachine.Main

def main (arguments : List String) : IO UInt32 := do
  let read ← match UniversalMachine.CommandLine.fileArguments arguments with
    | [path] => UniversalMachine.Main.readFile path
    | _ => pure (.error .notFound)
  UniversalMachine.Main.carryOut
    (UniversalMachine.CommandLine.plan UniversalMachine.Main.refuses arguments fun _ => read)
