import UniversalMachine.Console.Basic

/-! The least console: it never has input and keeps the bytes written to it. -/
namespace UniversalMachine

structure Recorder where
  output : Array UInt8 := #[]
  deriving Repr

instance : Console Recorder where
  readLine console := (.pending, console)
  writeByte console byte := (.ok (), { console with output := console.output.push byte })

end UniversalMachine
