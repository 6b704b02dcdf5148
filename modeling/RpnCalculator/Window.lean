import RpnCalculator.Calculator.Notices
import RpnCalculator.Toolkit

/-! The window of a calculator: a screen, a keypad, and below it a section for the program. In every
frame all of it is told to the toolkit again, from the top to the bottom, and what is clicked acts
at once, so that what comes below already shows the new state. -/

namespace RpnCalculator

open Toolkit (Call)

namespace Window

/-! ## One frame -/

structure Frame where
  /-- What the toolkit answers, once it has been told the earlier calls. -/
  answer : (earlier : List Call) → Call → Bool
  calls : List Call
  calculator : Calculator
  notices : List Notice

inductive Key where
  | digit
  | point
  | operation
  | enter
  | backspace
  | clear
  | storeMemory
  | recallMemory

/-- The label of a button says which digit or which operation it stands for. -/
def Key.action (label : String) : Key → Calculator.Action
  | .digit => .digit label
  | .point => .point label
  | .operation => .operation label
  | .enter => .enter
  | .backspace => .backspace
  | .clear => .clear
  | .storeMemory => .storeMemory
  | .recallMemory => .recallMemory

def keypad : List (String × Key) :=
  [("7", .digit), ("8", .digit), ("9", .digit), ("÷", .operation), ("√", .operation),
   ("4", .digit), ("5", .digit), ("6", .digit), ("×", .operation), ("sin", .operation),
   ("1", .digit), ("2", .digit), ("3", .digit), ("-", .operation), ("cos", .operation),
   ("0", .digit), (".", .point), ("±", .operation), ("+", .operation), ("π", .operation),
   ("↵", .enter), ("⌫", .backspace), ("C", .clear), ("→M", .storeMemory),
     (memoryName, .recallMemory)]

def keypadLabels : List String := keypad.map (·.1)

example : keypadLabels.length = 25 ∧ keypadLabels.Nodup := by decide

def title : String := "Calculatrice RPN"
def sectionLabel : String := "Programme"
def saveLabel : String := "Sauver"
def restoreLabel : String := "Rappeler"

namespace Frame

def call (frame : Frame) (call : Call) : Frame := { frame with calls := frame.calls ++ [call] }

def press (frame : Frame) (action : Calculator.Action) : Frame :=
  { frame with
    calculator := frame.calculator.press action
    notices := frame.notices ++ frame.calculator.notices action }

def pressIf (frame : Frame) (pressed : Bool) (action : Calculator.Action) : Frame :=
  if pressed then frame.press action else frame

def text (frame : Frame) (content : String) : Frame := frame.call (.text content)

def button (frame : Frame) (enabled : Bool) (label : String) (action : Calculator.Action) : Frame :=
  let clicked := frame.answer frame.calls (.button enabled label)
  (frame.call (.button enabled label)).pressIf clicked action

/-- All keys are looked up before the first of them acts. -/
def keyboard (frame : Frame) : Frame :=
  let enter := frame.answer frame.calls (.pressed "Enter")
  let frame := frame.call (.pressed "Enter")
  let escape := frame.answer frame.calls (.pressed "Escape")
  let frame := frame.call (.pressed "Escape")
  let backspace := frame.answer frame.calls (.pressed "Backspace")
  let frame := frame.call (.pressed "Backspace")
  ((frame.pressIf enter .enter).pressIf escape .clear).pressIf backspace .backspace

def screen (frame : Frame) : Frame :=
  let calculator := frame.calculator
  let frame := (((frame.text "Historique :").text calculator.history).text "Affichage :").text
    calculator.display
  if calculator.message.isEmpty then frame else frame.text calculator.message

def key (frame : Frame) (button : String × Key) : Frame :=
  frame.button true button.1 (button.2.action button.1)

def keys (frame : Frame) : Frame := keypad.foldl key frame

def memory (frame : Frame) : Frame :=
  match frame.calculator.engine.bindings.get? memoryName with
  | some value => frame.text (memoryName ++ " = " ++ Numeral.write value)
  | none => frame

def restoring (frame : Frame) : Frame :=
  frame.button frame.calculator.saved.isSome restoreLabel .restore

def saved (frame : Frame) : Frame :=
  match frame.calculator.saved with
  | some tokens => frame.text (" ".intercalate tokens)
  | none => frame

def contents (frame : Frame) : Frame :=
  (((frame.text frame.calculator.engine.program.joined).memory.button true saveLabel
    .save).restoring).saved

def program (frame : Frame) : Frame :=
  let shown := frame.answer frame.calls (.header sectionLabel)
  let frame := frame.call (.header sectionLabel)
  if shown then frame.contents else frame

def upper (frame : Frame) : Frame := (frame.keyboard.text title).screen

def update (frame : Frame) : Frame := frame.upper.keys.program

end Frame

end Window

/-! ## Windows -/

structure Toolkit.Window (toolkit : Toolkit) where
  calculator : Calculator
  memory : toolkit.Memory

namespace Toolkit.Window

open RpnCalculator.Window (Event Frame keypadLabels)

variable {toolkit : Toolkit}

def new (toolkit : Toolkit) : toolkit.Window := ⟨.new, toolkit.fresh⟩

def frame (window : toolkit.Window) (event : Event) : Frame where
  answer := toolkit.answer window.memory event
  calls := []
  calculator := window.calculator
  notices := []

def handle (window : toolkit.Window) (event : Event) : toolkit.Window :=
  let frame := (window.frame event).update
  ⟨frame.calculator, toolkit.next window.memory event frame.calls⟩

def notices (window : toolkit.Window) (event : Event) : List Notice :=
  (window.frame event).update.notices

/-- What is painted when nothing happens any more. -/
def painted (window : toolkit.Window) : List String :=
  toolkit.painted window.memory (.keys []) (window.frame (.keys [])).update.calls

def top (window : toolkit.Window) : List String :=
  toolkit.painted window.memory (.keys []) (window.frame (.keys [])).upper.calls

def bottom (window : toolkit.Window) : List String :=
  window.painted.drop (window.top.length + keypadLabels.length)

end Toolkit.Window

abbrev Window : Type := Toolkit.headless.Window

def Window.new : Window := Toolkit.Window.new Toolkit.headless

end RpnCalculator
