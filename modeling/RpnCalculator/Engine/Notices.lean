import RpnCalculator.Engine
import RpnCalculator.Notice

/-! The notices of the engine. A command first tells what it passes over, then how the program that
it leaves evaluates. -/

namespace RpnCalculator.Engine

def evaluationNotice (engine : Engine) : Notice := engine.program.evaluationNotice engine.bindings

def Command.remarks : Command → List Notice
  | .pushVariable name => if isVariableName name then [] else [.refusedName name]
  | .perform symbol => if Catalogue.knows symbol then [] else [.unknownSymbol symbol]
  | .load tokens => Program.transcriptNotices tokens
  | _ => []

def notices (engine : Engine) (command : Command) : List Notice :=
  command.remarks ++
    if command.evaluates then [(engine.apply command).evaluationNotice] else []

def runNotices (engine : Engine) : List Command → List Notice
  | [] => []
  | command :: commands => engine.notices command ++ (engine.apply command).runNotices commands

end RpnCalculator.Engine
