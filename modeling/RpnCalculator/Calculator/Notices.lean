import RpnCalculator.Calculator
import RpnCalculator.Engine.Notices

/-! The notices of the keys. A key that shows a result evaluates the program once more, for the
reason why there may be none. -/

namespace RpnCalculator.Calculator

def issueNotices (calculator : Calculator) (commands : List Engine.Command) : List Notice :=
  calculator.engine.runNotices commands ++ [(calculator.engine.run commands).evaluationNotice]

def enterNotices (calculator : Calculator) : List Notice :=
  match calculator.displayed? with
  | none => []
  | some value => calculator.issueNotices [.pushOperand value]

def settledNotices (calculator : Calculator) : List Notice :=
  if calculator.typing then calculator.enterNotices else []

def notices (calculator : Calculator) : Action → List Notice
  | .digit _ | .point _ | .display _ => []
  | .operation symbol =>
    if calculator.typing ∧ symbol = "±" then []
    else calculator.settledNotices ++ calculator.settled.issueNotices [.perform symbol]
  | .enter => calculator.enterNotices
  | .clear => [calculator.clear.engine.evaluationNotice]
  | .backspace => if calculator.typing then [] else calculator.issueNotices [.undo]
  | .storeMemory =>
    match calculator.displayed? with
    | none => []
    | some value => calculator.issueNotices [.bind memoryName value, .evaluate]
  | .recallMemory =>
    calculator.settledNotices ++ calculator.settled.issueNotices [.pushVariable memoryName]
  | .save => [.saved calculator.engine.transcript]
  | .restore =>
    match calculator.saved with
    | none => []
    | some tokens => calculator.issueNotices [.load tokens, .evaluate]

def pressAllNotices (calculator : Calculator) : List Action → List Notice
  | [] => []
  | action :: actions =>
    calculator.notices action ++ (calculator.press action).pressAllNotices actions

end RpnCalculator.Calculator
