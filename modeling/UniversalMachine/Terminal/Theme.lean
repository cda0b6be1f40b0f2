import UniversalMachine.Screen.Style

/-! The colours of the terminal front end. -/
namespace UniversalMachine.Terminal.Theme
open Screen

def text : Colour := .rgb 205 214 244
def running : Colour := .rgb 137 180 250
def waiting : Colour := .rgb 250 179 135
def muted : Colour := .rgb 108 112 134
def success : Colour := .rgb 166 227 161
def error : Colour := .rgb 243 139 168
def number : Colour := .rgb 250 179 135
def borderFocused : Colour := .rgb 249 226 175
def borderNormal : Colour := .rgb 108 112 134
def bar : Colour := .rgb 50 50 70
def register : Colour := .rgb 148 226 213

end UniversalMachine.Terminal.Theme
