import UniversalMachine.Screen.Style

/-! A rectangle of character cells that is drawn on. Drawing outside it has no effect. -/
namespace UniversalMachine.Screen

/-- A rectangle, by its left upper corner. -/
structure Area where
  x : Nat
  y : Nat
  width : Nat
  height : Nat
  deriving DecidableEq, Repr

def Area.isEmpty (area : Area) : Bool := area.width = 0 || area.height = 0

/-- What is left of an area inside a border of one cell. -/
def Area.inside (area : Area) : Area := ⟨area.x+1,area.y+1,area.width-2,area.height-2⟩

/-- The cells row by row. -/
structure Canvas where
  width : Nat
  height : Nat
  cells : Array Cell
  deriving Repr

namespace Canvas

def blank (width height : Nat) : Canvas := ⟨width,height,Array.replicate (width * height) {}⟩

/-- The cell in column `x` of row `y`. -/
def cell? (canvas : Canvas) (x y : Nat) : Option Cell :=
  if x < canvas.width then canvas.cells[y * canvas.width + x]? else none

/-- Changes one cell. -/
def modify (canvas : Canvas) (x y : Nat) (f : Cell → Cell) : Canvas :=
  if x < canvas.width then
    { canvas with cells := canvas.cells.modify (y * canvas.width + x) f }
  else canvas

@[simp] theorem width_modify (canvas : Canvas) (x y : Nat) (f : Cell → Cell) :
    (canvas.modify x y f).width = canvas.width := by
  rw [modify]
  split <;> rfl

/-- Exactly the cell named is changed. -/
theorem cell?_modify (canvas : Canvas) (x y u v : Nat) (f : Cell → Cell) :
    (canvas.modify x y f).cell? u v =
      if u = x ∧ v = y then (canvas.cell? x y).map f else canvas.cell? u v := by
  by_cases hx : x < canvas.width
  · by_cases hu : u < canvas.width
    · have hplace : y * canvas.width + x = v * canvas.width + u ↔ u = x ∧ v = y := by
        constructor
        · intro h
          have hrow := congrArg (· / canvas.width) h
          have hcolumn := congrArg (· % canvas.width) h
          simp only [Nat.mul_add_mod', Nat.mod_eq_of_lt hx, Nat.mod_eq_of_lt hu] at hcolumn
          have hw : 0 < canvas.width := by omega
          simp only [Nat.mul_comm _ canvas.width, Nat.mul_add_div hw, Nat.div_eq_of_lt hx,
            Nat.div_eq_of_lt hu] at hrow
          exact ⟨hcolumn.symm, by omega⟩
        · rintro ⟨rfl, rfl⟩
          rfl
      simp only [modify, hx, if_true, cell?, hu, Array.getElem?_modify, hplace]
      by_cases h : u = x ∧ v = y
      · obtain ⟨rfl, rfl⟩ := h
        simp
      · simp [h]
    · have hne : ¬(u = x ∧ v = y) := by
        rintro ⟨rfl, _⟩
        exact hu hx
      simp [cell?, hu, hne]
  · by_cases h : u = x ∧ v = y
    · obtain ⟨rfl, rfl⟩ := h
      simp [modify, cell?, hx]
    · simp [modify, hx, h]

/-- Puts a symbol into a cell, in the style given. -/
def put (canvas : Canvas) (x y : Nat) (symbol : String) (style : Style) : Canvas :=
  canvas.modify x y fun cell => style.apply { cell with symbol }

/-- Puts a symbol behind the one that is already in a cell. -/
def append (canvas : Canvas) (x y : Nat) (symbol : String) (style : Style) : Canvas :=
  canvas.modify x y fun cell => style.apply { cell with symbol := cell.symbol ++ symbol }

/-- Empties `count` cells from `x` on. -/
def clearRow (canvas : Canvas) (x y count : Nat) : Canvas :=
  (List.range count).foldl (fun canvas d => canvas.modify (x + d) y fun _ => {}) canvas

/-- Styles every cell of an area. -/
def paint (canvas : Canvas) (area : Area) (style : Style) : Canvas :=
  (List.range area.height).foldl (fun canvas dy =>
    (List.range area.width).foldl (fun canvas dx =>
      canvas.modify (area.x + dx) (area.y + dy) style.apply) canvas) canvas

/-- Puts one symbol into `count` cells, to the right or downwards. -/
def putRow (canvas : Canvas) (x y count : Nat) (symbol : String) (style : Style) : Canvas :=
  (List.range count).foldl (fun canvas d => canvas.put (x + d) y symbol style) canvas

@[inherit_doc putRow]
def putColumn (canvas : Canvas) (x y count : Nat) (symbol : String) (style : Style) : Canvas :=
  (List.range count).foldl (fun canvas d => canvas.put x (y + d) symbol style) canvas

/-- The cells of row `y`. -/
def row (canvas : Canvas) (y : Nat) : List Cell :=
  (canvas.cells.extract (y * canvas.width) ((y + 1) * canvas.width)).toList

def rows (canvas : Canvas) : List (List Cell) := (List.range canvas.height).map canvas.row

/-- The text of every row. -/
def texts (canvas : Canvas) : List String :=
  canvas.rows.map fun row => String.join (row.map Cell.symbol)

end Canvas

/-- A run of cells in one style, from column `x` on. -/
structure StyleRun where
  x : Nat
  fg : Colour
  bg : Colour
  bold : Bool
  deriving DecidableEq, Repr

/-- Whether a cell at column `x` looks like the run before it. -/
def StyleRun.covers (run : StyleRun) (cell : Cell) : Bool :=
  run.fg = cell.fg && run.bg = cell.bg && run.bold = cell.bold

/-- The styles of a row: a new run starts wherever a cell differs from the one before. -/
def styleRuns (row : List Cell) : List StyleRun :=
  (row.zipIdx.foldl (fun runs (cell, x) =>
    let fresh := ⟨x,cell.fg,cell.bg,cell.bold⟩
    match runs with
    | [] => [fresh]
    | last :: _ => if last.covers cell then runs else fresh :: runs) []).reverse

end UniversalMachine.Screen
