import RpnCalculator.Engine
import RpnCalculator.Text.Blank
import RpnCalculator.Text.Search

/-! The calculator: an engine behind a display and a keypad, without any drawing. The display shows
either a number that is being typed or the result of the program. Typing changes only the display;
every other key that needs the typed number enters it first. -/

namespace RpnCalculator

def memoryName : String := "M"

structure Calculator where
  engine : Engine
  display : String
  history : String
  /-- Why there is no result; empty otherwise. -/
  message : String
  typing : Bool
  saved : Option (List String)

namespace Calculator

inductive Action where
  | digit (text : String)
  | point (separator : String)
  | operation (symbol : String)
  | enter
  | clear
  | backspace
  | storeMemory
  | recallMemory
  | save
  | restore
  | display (value : Option Float)

def zero : String := "0"

def new : Calculator where
  engine := .new
  display := zero
  history := Engine.new.history
  message := ""
  typing := false
  saved := none

/-! ## Display -/

def displayed? (calculator : Calculator) : Option Float :=
  Numeral.read? (Text.trim calculator.display)

def resultText : Option Float → String
  | some value => Numeral.write value
  | none => ""

def showing (calculator : Calculator) (value : Option Float) : Calculator :=
  { calculator with display := resultText value, typing := false }

def refreshed (calculator : Calculator) : Calculator :=
  { calculator with
    history := calculator.engine.history
    message := calculator.engine.message }

def issue (calculator : Calculator) (commands : List Engine.Command) : Calculator :=
  let engine := calculator.engine.run commands
  ({ calculator with engine } |>.showing engine.result?).refreshed

/-! ## Typing -/

def typeDigit (calculator : Calculator) (text : String) : Calculator :=
  if calculator.typing then { calculator with display := calculator.display ++ text }
  else { calculator with display := text, typing := true }

/-- A number has its separator only once; a number that starts with it has a zero before. -/
def typePoint (calculator : Calculator) (separator : String) : Calculator :=
  if calculator.typing then
    if Text.contains calculator.display separator then calculator
    else { calculator with display := calculator.display ++ separator }
  else { calculator with display := zero ++ separator, typing := true }

def toggleSign (calculator : Calculator) : Calculator :=
  match calculator.displayed? with
  | none => calculator
  | some value =>
    match calculator.display.toList with
    | '-' :: rest => { calculator with display := String.ofList rest }
    | characters =>
      if value == 0 then calculator
      else { calculator with display := String.ofList ('-' :: characters) }

/-- Take the last character away from the typed number. If no digit can be left, the typing
ends with zero. -/
def eraseLast (calculator : Calculator) : Calculator :=
  let characters := calculator.display.toList.dropLast
  if characters = [] ∨ characters = ['-'] then { calculator with display := zero, typing := false }
  else { calculator with display := String.ofList characters }

/-! ## Keys -/

def enter (calculator : Calculator) : Calculator :=
  match calculator.displayed? with
  | none => calculator
  | some value => calculator.issue [.pushOperand value]

def settled (calculator : Calculator) : Calculator :=
  if calculator.typing then calculator.enter else calculator

/-- The key of an operation. While a number is typed, the sign key changes only its text. -/
def operate (calculator : Calculator) (symbol : String) : Calculator :=
  if calculator.typing ∧ symbol = "±" then calculator.toggleSign
  else calculator.settled.issue [.perform symbol]

def clear (calculator : Calculator) : Calculator :=
  { calculator with
    engine := calculator.engine.run [.clear, .unbindAll]
    display := zero
    typing := false }.refreshed

def backspace (calculator : Calculator) : Calculator :=
  if calculator.typing then calculator.eraseLast else calculator.issue [.undo]

def storeMemory (calculator : Calculator) : Calculator :=
  match calculator.displayed? with
  | none => calculator
  | some value => calculator.issue [.bind memoryName value, .evaluate]

def recallMemory (calculator : Calculator) : Calculator :=
  calculator.settled.issue [.pushVariable memoryName]

def save (calculator : Calculator) : Calculator :=
  { calculator with saved := some calculator.engine.transcript }

def restore (calculator : Calculator) : Calculator :=
  match calculator.saved with
  | none => calculator
  | some tokens => calculator.issue [.load tokens, .evaluate]

def press (calculator : Calculator) : Action → Calculator
  | .digit text => calculator.typeDigit text
  | .point separator => calculator.typePoint separator
  | .operation symbol => calculator.operate symbol
  | .enter => calculator.enter
  | .clear => calculator.clear
  | .backspace => calculator.backspace
  | .storeMemory => calculator.storeMemory
  | .recallMemory => calculator.recallMemory
  | .save => calculator.save
  | .restore => calculator.restore
  | .display value => calculator.showing value

def pressAll (calculator : Calculator) (actions : List Action) : Calculator :=
  actions.foldl press calculator

theorem pressAll_cons (calculator : Calculator) (action : Action) (later : List Action) :
    calculator.pressAll (action :: later) = (calculator.press action).pressAll later :=
  List.foldl_cons ..

theorem pressAll_append (calculator : Calculator) (earlier later : List Action) :
    calculator.pressAll (earlier ++ later) = (calculator.pressAll earlier).pressAll later :=
  List.foldl_append

end Calculator

end RpnCalculator
