import UniversalMachine.Screen.Canvas
import UniversalMachine.Terminal.Basic

/-! Where the panes stand on a screen, and how far they can be scrolled. -/
namespace UniversalMachine.Terminal
open Screen

/-- The size of a screen in cells. -/
structure Size where
  width : Nat
  height : Nat
  deriving DecidableEq, Repr

/-- The most cells that are drawn. -/
def cellLimit : Nat := 65535

/-- What is drawn of a screen. One with too many cells is drawn smaller, in about the same
proportions. -/
def Size.fitted (size : Size) : Size :=
  if size.width * size.height ≤ cellLimit then size
  else
    let ratio := size.width.toFloat / size.height.toFloat
    let height := (cellLimit.toFloat / ratio).sqrt
    ⟨(height * ratio).toUInt16.toNat,height.toUInt16.toNat⟩

structure Layout where
  console : Area
  input : Area
  machine : Area
  statusLeft : Area
  statusRight : Area
  deriving DecidableEq, Repr

/-- `percent` hundredths of `n`, a half rounded up. -/
def share (percent n : Nat) : Nat := (percent * n + 50) / 100

/-- The status bar takes the lowest row. Above it the console and the input box share the left
65 hundredths, the input box at the bottom with up to three rows, and the machine has the rest. -/
def Layout.ofSize (size : Size) : Layout :=
  let height := size.height - 1
  let left := share 65 size.width
  let input := min 3 height
  let half := share 50 size.width
  { console := ⟨0,0,left,height - input⟩
    input := ⟨0,height - input,left,input⟩
    machine := ⟨left,0,size.width - left,height⟩
    statusLeft := ⟨0,height,half,1⟩
    statusRight := ⟨half,height,size.width - half,1⟩ }

/-- The height of the console pane on a screen. -/
def Size.paneHeight (size : Size) : Nat := (Layout.ofSize size.fitted).console.height

/-- The number of log lines that a console pane of a given height shows. -/
def visibleLines (paneHeight : Nat) : Nat := max 1 (paneHeight - 2)

/-- Keeps the console pane full: it never scrolls beyond the last lines. -/
def clampConsole (t : Terminal) (paneHeight : Nat) : Terminal :=
  if t.log.isEmpty then t
  else { t with consoleScroll := min t.consoleScroll (t.log.size - visibleLines paneHeight) }

/-- Keeps at least one array in sight. -/
def clampHeap (t : Terminal) : Terminal :=
  match t.session.machine with
  | none => t
  | some m => { t with heapScroll := min t.heapScroll (m.heap.liveArrays - 1) }

/-- What drawing a frame with a console pane of a given height changes: the scroll offsets are
brought into range. -/
def settleScroll (t : Terminal) (paneHeight : Nat) : Terminal :=
  (t.clampConsole paneHeight).clampHeap

/-- The log lines that a console pane of a given height shows. -/
def window (t : Terminal) (paneHeight : Nat) : List String :=
  (t.log.lines.drop t.consoleScroll).take (visibleLines paneHeight)

example : Size.fitted ⟨80,24⟩ = ⟨80,24⟩ := by decide
example : Size.fitted ⟨400,200⟩ = ⟨362,181⟩ := by decide +kernel
example : Layout.ofSize ⟨80,24⟩ =
    ⟨⟨0,0,52,20⟩,⟨0,20,52,3⟩,⟨52,0,28,23⟩,⟨0,23,40,1⟩,⟨40,23,40,1⟩⟩ := by decide

end UniversalMachine.Terminal
