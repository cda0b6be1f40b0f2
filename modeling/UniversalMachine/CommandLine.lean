import UniversalMachine.Device.LineBuffer
import UniversalMachine.Headless
import UniversalMachine.Session.Basic

/-! The command line: which program to run, and how. -/
namespace UniversalMachine.CommandLine

/-- The name under which the program is called. -/
def programName : String := "umtty"

def usage : String :=
  s!"Usage: {programName} [--tui] <program.um>\n\nOptions:\n" ++
    "  --tui    Run inside the interactive terminal console\n"

/-- The option that asks for the terminal front end. -/
def interactiveOption : String := "--tui"

/-- The arguments that name files. -/
def fileArguments (arguments : List String) : List String :=
  arguments.filter fun argument => argument != interactiveOption

/-- What the arguments and the file they name ask for. -/
inductive Plan where
  /-- Say this and fail. -/
  | refuse (text : String)
  /-- Say this and run the machine on the standard streams. -/
  | headless (text : String) (machine : Machine)
  /-- Show the session under a name. -/
  | interactive (name : String) (session : Session)

def planHeadless (refuses : UInt32 → Bool) (path : String)
    (file : Except FileError (List UInt8)) : Plan :=
  let loading := s!"Loading {path}...\n"
  match Image.load file with
  | .error error => .refuse (loading ++ s!"Load error: {error.message}\n")
  | .ok program =>
    .headless (loading ++ s!"Loaded {program.size} platters.\n") (.ofProgram refuses program)

def planInteractive (refuses : UInt32 → Bool) (path : String)
    (file : Except FileError (List UInt8)) : Plan :=
  match Image.ofFile file with
  | .error error => .refuse s!"Load error: {error.message}\n"
  | .ok image =>
    match Session.handle { refuses } (.loadProgram image) with
    | (.error error, _) => .refuse s!"Load error: {error.message}\n"
    | (.ok _, session) => .interactive ((FileTree.lastName? path).getD path) session

/-- Decides what to do, given what reading a path would give. -/
def plan (refuses : UInt32 → Bool) (arguments : List String)
    (read : String → Except FileError (List UInt8)) : Plan :=
  match fileArguments arguments with
  | [] => .refuse ("Error: No program file provided\n\n" ++ usage)
  | [path] =>
    let file := read path
    let absent := match file with
      | .error error => error.isAbsence
      | .ok _ => false
    if absent then .refuse (s!"Error: File '{path}' not found\n" ++ usage)
    else if arguments.contains interactiveOption then planInteractive refuses path file
    else planHeadless refuses path file
  | _ => .refuse ("Error: Expected exactly one program file\n\n" ++ usage)

/-- What a finished call leaves behind. -/
structure Report where
  exitCode : Nat
  stderr : String
  stdout : List UInt8
  deriving Repr

/-- Carries a plan out on an input that is known in full. There is no report of a program that needs
more than `fuel` slices, nor of the terminal front end. -/
def Plan.report? (plan : Plan) (input : List UInt8) (output : Device.LineBuffer) (fuel : Nat) :
    Option Report :=
  match plan with
  | .refuse text => some ⟨1,text,output.finish⟩
  | .interactive .. => none
  | .headless text m =>
    let source : Device.Source := if input.isEmpty then [] else [.bytes input]
    let console : StreamConsole Device.LineBuffer := { source, sink := output }
    (Headless.run? m console fuel).map fun result =>
      ⟨result.ending.exitCode,text ++ result.console.diagnostics ++ result.ending.message,
        result.console.sink.finish⟩

/-- Carries out what the arguments ask for on known files and a known input. A program that is read
from the standard input finds nothing left there. -/
def report? (refuses : UInt32 → Bool) (arguments : List String) (files : FileTree)
    (output : Device.LineBuffer) (fuel : Nat) : Option Report :=
  let input := match fileArguments arguments with
    | [path] => files.inputBehind path
    | _ => files.standardInput
  (plan refuses arguments files.read).report? input output fuel

end UniversalMachine.CommandLine
