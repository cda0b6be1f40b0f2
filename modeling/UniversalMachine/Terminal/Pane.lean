import UniversalMachine.Instruction.Text
import UniversalMachine.Screen.Widget
import UniversalMachine.Terminal.Layout
import UniversalMachine.Terminal.Theme

/-! The panes and the status bar, and the frame that they make up. -/
namespace UniversalMachine.Terminal
open Screen

/-- A bordered box with one line of muted text. -/
def drawNote (canvas : Canvas) (area : Area) (title note : String) : Canvas :=
  let canvas := canvas.paint area (.ofFg Theme.muted)
  let canvas := canvas.border area (.ofFg Theme.borderNormal) title
  canvas.writeLines area.inside [[⟨note,{}⟩]] .left

/-- Host notices are muted, program output is not. -/
def lineStyle (line : String) : Style :=
  .ofFg (if line.startsWith "*** " then Theme.muted else Theme.text)

/-- The log behind one blank column; the style of a line covers its whole row. -/
def drawConsole (t : Terminal) (area : Area) (canvas : Canvas) : Canvas :=
  let title := s!" Console: {t.programName} "
  if t.log.isEmpty then drawNote canvas area title "(no output)"
  else
    let canvas := canvas.border area (.ofFg Theme.borderNormal) title
    let inside := area.inside
    let rows : Area := ⟨inside.x+1,inside.y,inside.width-1,inside.height⟩
    ((t.window area.height).take rows.height).zipIdx.foldl (fun canvas (line, dy) =>
      let row : Area := ⟨rows.x,rows.y+dy,rows.width,1⟩
      (canvas.paint row (lineStyle line)).writeLabel row line) canvas

def drawInput (t : Terminal) (area : Area) (canvas : Canvas) : Canvas :=
  let canvas := canvas.paint area (.ofFg Theme.text)
  if t.inputEnabled then
    let canvas := canvas.border area (Style.ofFg Theme.borderFocused).inBold
      " Input (Enter to send, Ctrl-D for end of input) "
    canvas.writeLines area.inside (Line.ofText (t.input ++ "_") {}) .left
  else canvas.border area (.ofFg Theme.borderNormal) " Input "

def label (text : String) : Span := ⟨text,.ofFg Theme.register⟩
def value (text : String) : Span := ⟨text,.ofFg Theme.number⟩
def muted (text : String) : Span := ⟨text,.ofFg Theme.muted⟩

/-- The lines above the list of arrays. While a fault is shown, the registers and counters are
those of its report. -/
def machineLines (m : Machine) (fault : Option Snapshot) : List Line :=
  let snapshot := fault.getD m.snapshot
  let registers := snapshot.registers.toList.zipIdx.map fun (word, r) =>
    [label s!"r{r} ", value (Text.hex 8 word.toNat), muted s!" {word.toNat}"]
  let next := match fault, m.nextInstruction? with
    | some _, _ => ⟨"faulted",(Style.ofFg Theme.error).inBold⟩
    | none, some i => value (i.map Fin.val).text
    | none, none => muted "-"
  registers ++
    [[], [label "pc    ", value (toString snapshot.pc.toNat)],
      [label "cycle ", value (toString snapshot.cycle.toNat)], [label "next  ", next], [],
      [label "arrays ", value (toString m.heap.liveArrays),
        muted s!" live, {m.heap.livePlatters} platters"],
      [label "input  ", value (toString m.input.length),
        muted (if m.inputClosed then " buffered, closed" else " buffered")]]

def arrayLine (entry : UInt32 × Nat) : Line :=
  [label ("  #" ++ Text.padRight 6 (toString entry.1.toNat)), muted s!"{entry.2} platters"]

/-- The rows of a machine pane of a given height. The arrays from the scroll offset on are listed as
far as there is room. -/
def machineRows (t : Terminal) (m : Machine) (paneHeight : Nat) : List Line :=
  let lines := machineLines m (t.fault.map Prod.snd)
  let arrays := (m.heap.live.drop t.heapScroll).take (paneHeight - (lines.length + 2))
  lines ++ arrays.map arrayLine

def drawMachine (t : Terminal) (area : Area) (canvas : Canvas) : Canvas :=
  match t.session.machine with
  | none => drawNote canvas area " Machine " "(no program)"
  | some m =>
    let canvas := canvas.border area (.ofFg Theme.borderNormal) " Machine "
    canvas.writeLines area.inside (t.machineRows m area.height) .left

/-- The text and colour of a status. -/
def badge : Session.Status → String × Colour
  | .idle => (" IDLE ", Theme.muted)
  | .running => (" ▶ RUNNING ", Theme.running)
  | .awaitingInput => (" ⌨ INPUT ", Theme.waiting)
  | .halted => (" HALTED ", Theme.success)
  | .faulted => (" FAULT ", Theme.error)

def statusLine (t : Terminal) : Line :=
  let (text, colour) := badge t.status
  let messageColour := if t.status = .faulted then Theme.error else Theme.text
  [⟨text,((Style.ofFg .black).on colour).inBold⟩,
    ⟨" | ",(Style.ofFg Theme.muted).on Theme.bar⟩,
    ⟨s!" {t.message} ",(Style.ofFg messageColour).on Theme.bar⟩]

def helpLine (t : Terminal) : Line :=
  let cycle := (t.session.machine.map fun m => m.cycle.toNat).getD 0
  let word (text : String) : Span := ⟨text,(Style.ofFg Theme.text).on Theme.bar⟩
  let key (text : String) : Span := ⟨text,(Style.ofFg .black).on Theme.muted⟩
  let bar : Span := ⟨"│",(Style.ofFg Theme.muted).on Theme.bar⟩
  [word s!" {cycle} cycles ", bar, word " ", key " PgUp/PgDn ", word " scroll ", bar, word " ",
    key " ↑/↓ ", word " arrays ", bar, word " ", key " Esc ", word " quit "]

def drawBar (canvas : Canvas) (area : Area) (line : Line) (justification : Justification) : Canvas :=
  (canvas.paint area (Style.on {} Theme.bar)).writeLines area [line] justification

/-- The screen as it looks now. -/
def frame (t : Terminal) (size : Size) : Canvas :=
  let t := t.settleScroll size.paneHeight
  let size := size.fitted
  let layout := Layout.ofSize size
  let canvas := Canvas.blank size.width size.height
  let canvas := t.drawConsole layout.console canvas
  let canvas := t.drawInput layout.input canvas
  let canvas := t.drawMachine layout.machine canvas
  let canvas := drawBar canvas layout.statusLeft t.statusLine .left
  drawBar canvas layout.statusRight t.helpLine .right

end UniversalMachine.Terminal
