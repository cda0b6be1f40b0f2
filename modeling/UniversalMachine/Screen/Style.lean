/-! Colours and styles of character cells. -/
namespace UniversalMachine.Screen

inductive Colour where
  /-- Whatever the screen shows by default. -/
  | reset
  | black
  | rgb (red green blue : UInt8)
  deriving DecidableEq, Repr

/-- One position of the screen. What it shows may take several characters. -/
structure Cell where
  symbol : String := " "
  fg : Colour := .reset
  bg : Colour := .reset
  bold : Bool := false
  deriving DecidableEq, Repr

/-- A change of style: what is not given stays as it is. -/
structure Style where
  fg : Option Colour := none
  bg : Option Colour := none
  bold : Bool := false
  deriving DecidableEq, Repr

def Style.ofFg (colour : Colour) : Style := { fg := some colour }

def Style.on (style : Style) (colour : Colour) : Style := { style with bg := some colour }

def Style.inBold (style : Style) : Style := { style with bold := true }

def Style.apply (style : Style) (cell : Cell) : Cell :=
  { cell with
    fg := style.fg.getD cell.fg
    bg := style.bg.getD cell.bg
    bold := style.bold || cell.bold }

@[simp] theorem Style.apply_default (cell : Cell) : Style.apply {} cell = cell := rfl

end UniversalMachine.Screen
