import UniversalMachine.Screen.Canvas
import UniversalMachine.Text.Grapheme.Cluster
import UniversalMachine.Text.Lines
import UniversalMachine.Text.Width.Measure

/-! Lines of styled text, labels and borders. Text that does not fit is cut at the right, and lines
that do not fit at the bottom. -/
namespace UniversalMachine.Screen

/-- A piece of text in one style. -/
structure Span where
  text : String
  style : Style := {}
  deriving Repr

/-- A grapheme cluster with the number of cells it takes. -/
structure Glyph where
  symbol : String
  width : Nat
  style : Style
  deriving Repr

def Span.glyphs (span : Span) : List Glyph :=
  (Text.Grapheme.clusters span.text.toList).map fun cluster =>
    ⟨String.ofList cluster,Text.width cluster,span.style⟩

/-- The number of cells that glyphs take together. -/
def Glyph.total (glyphs : List Glyph) : Nat :=
  glyphs.foldr (fun glyph cells => glyph.width + cells) 0

/-- The glyphs before the first one that does not fit into `room` cells. -/
def Glyph.fitting (room : Nat) : List Glyph → List Glyph
  | [] => []
  | glyph :: rest =>
    if glyph.width ≤ room then glyph :: fitting (room - glyph.width) rest else []

/-- What fits takes no more than the room there is. -/
theorem Glyph.total_fitting_le (room : Nat) (glyphs : List Glyph) :
    total (fitting room glyphs) ≤ room := by
  induction glyphs generalizing room with
  | nil => simp [fitting, total]
  | cons glyph rest ih =>
    by_cases h : glyph.width ≤ room
    · have := ih (room - glyph.width)
      simp only [total] at this
      simp only [fitting, h, if_true, total, List.foldr_cons]
      omega
    · simp [fitting, h, total]

abbrev Line := List Span

/-- The lines of a text, all in one style. -/
def Line.ofText (text : String) (style : Style) : List Line :=
  (Text.lines text).map fun line => [⟨line,style⟩]

/-- What a line shows in `room` cells. Glyphs that take no cell, or more cells than there are, are
left out. -/
def Line.visible (line : Line) (room : Nat) : List Glyph :=
  Glyph.fitting room ((line.flatMap Span.glyphs).filter fun glyph =>
    0 < glyph.width && glyph.width ≤ room)

inductive Justification where
  | left
  | right
  deriving DecidableEq, Repr

namespace Canvas

/-- Puts glyphs one after the other from `x` on. -/
def write (canvas : Canvas) (x y : Nat) : List Glyph → Canvas
  | [] => canvas
  | glyph :: rest =>
    (canvas.put x y glyph.symbol glyph.style).write (x + glyph.width) y rest

/-- Writes lines into an area. A line aligned to the right starts at the left if it is cut. -/
def writeLines (canvas : Canvas) (area : Area) (lines : List Line) (justification : Justification) :
    Canvas :=
  (lines.take area.height).zipIdx.foldl (fun canvas (line, dy) =>
    let glyphs := line.visible area.width
    let indent := match justification with
      | .left => 0
      | .right => area.width - Glyph.total glyphs
    canvas.write (area.x + indent) (area.y + dy) glyphs) canvas

/-- Puts a glyph and empties the cells that it hides. -/
def putGlyph (canvas : Canvas) (x y : Nat) (glyph : Glyph) : Canvas :=
  (canvas.put x y glyph.symbol glyph.style).clearRow (x + 1) y (glyph.width - 1)

/-- Puts glyphs from `x` on behind those that were written from `start` on. A glyph that takes no
cell joins the cell before it; as long as no cell is filled, glyphs join the first one. -/
def writeBehind (canvas : Canvas) (start x y : Nat) : List Glyph → Canvas
  | [] => canvas
  | glyph :: rest =>
    let canvas :=
      if x = start then
        (canvas.append x y glyph.symbol glyph.style).clearRow (x + 1) y (glyph.width - 1)
      else if glyph.width = 0 then canvas.append (x - 1) y glyph.symbol glyph.style
      else canvas.putGlyph x y glyph
    canvas.writeBehind start (x + glyph.width) y rest

/-- Writes one piece of text, glyph by glyph, into `room` cells. -/
def writePiece (canvas : Canvas) (x y room : Nat) (text : String) : Canvas :=
  match Glyph.fitting room (Span.glyphs ⟨text,{}⟩) with
  | [] => canvas
  | first :: rest => (canvas.putGlyph x y first).writeBehind x (x + first.width) y rest

/-- Writes pieces of text one behind the other. Where the next one starts depends on the width of a
piece as a whole, which can differ from that of its glyphs. A piece that takes no cell is not
shown. -/
def writePieces (canvas : Canvas) (x y room : Nat) : List String → Canvas
  | [] => canvas
  | text :: rest =>
    let width := Text.width text.toList
    if width = 0 then canvas.writePieces x y room rest
    else if room = 0 then canvas
    else (canvas.writePiece x y room text).writePieces (x + width) y (room - width) rest

/-- Writes a text into the first row of an area, its lines one behind the other. -/
def writeLabel (canvas : Canvas) (area : Area) (text : String) : Canvas :=
  canvas.writePieces area.x area.y area.width (Text.lines text)

/-- The number of cells that the lines of a title take, counted in 16 bits. -/
def titleWidth (title : String) : Nat :=
  (Text.lines title).foldr (fun line cells => Text.width line.toList + cells) 0 % 65536

/-- Draws a border along the inside of an area, with a title over its top side. -/
def border (canvas : Canvas) (area : Area) (style : Style) (title : String) : Canvas :=
  if area.isEmpty then canvas
  else
    let right := area.x + area.width - 1
    let bottom := area.y + area.height - 1
    let canvas := canvas.putColumn area.x area.y area.height "│" style
    let canvas := canvas.putRow area.x area.y area.width "─" style
    let canvas := canvas.putColumn right area.y area.height "│" style
    let canvas := canvas.putRow area.x bottom area.width "─" style
    let canvas := canvas.put right bottom "┘" style
    let canvas := canvas.put right area.y "┐" style
    let canvas := canvas.put area.x bottom "└" style
    let canvas := canvas.put area.x area.y "┌" style
    canvas.writeLabel ⟨area.x+1,area.y,min (titleWidth title) (area.width-2),1⟩ title

end Canvas
end UniversalMachine.Screen
