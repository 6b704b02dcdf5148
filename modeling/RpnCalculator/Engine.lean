import RpnCalculator.Program.Evaluation
import RpnCalculator.Program.History

/-! The engine: a program under construction and the values of its variables. A command never fails:
a symbol that is not known, a name that no variable may have and an undo on the empty program leave
the engine as it is. -/

namespace RpnCalculator

structure Engine where
  program : Program
  bindings : Bindings

namespace Engine

inductive Command where
  | pushOperand (value : Float)
  | pushVariable (name : String)
  | perform (symbol : String)
  | undo
  | evaluate
  | clear
  | load (tokens : List String)
  | bind (name : String) (value : Float)
  | unbind (name : String)
  | unbindAll

def new : Engine := ⟨[], .empty⟩

/-! ## Reading -/

def evaluate (engine : Engine) : Except EvalError Float := engine.program.evaluate engine.bindings

def result? (engine : Engine) : Option Float := engine.evaluate.toOption

/-- Why the program has no value; empty if it has one. -/
def message (engine : Engine) : String :=
  match engine.evaluate with
  | .ok _ => ""
  | .error error => error.message

def history (engine : Engine) : String := engine.program.history

def transcript (engine : Engine) : List String := engine.program.transcript

/-! ## Commands -/

def enter (engine : Engine) (element? : Option Element) : Engine :=
  { engine with program := engine.program ++ element?.toList }

def apply (engine : Engine) : Command → Engine
  | .pushOperand value => engine.enter (some (.leaf (.operand value)))
  | .pushVariable name =>
    engine.enter (if isVariableName name then some (.leaf (.reference name)) else none)
  | .perform symbol => engine.enter (Catalogue.find? symbol)
  | .undo => { engine with program := engine.program.dropLast }
  | .evaluate => engine
  | .clear => { engine with program := [] }
  | .load tokens => { engine with program := Program.ofTranscript tokens }
  | .bind name value => { engine with bindings := engine.bindings.set name value }
  | .unbind name => { engine with bindings := engine.bindings.erase name }
  | .unbindAll => { engine with bindings := .empty }

def run (engine : Engine) (commands : List Command) : Engine := commands.foldl apply engine

def Command.evaluates : Command → Bool
  | .pushOperand _ | .pushVariable _ | .perform _ | .undo | .evaluate => true
  | .clear | .load _ | .bind .. | .unbind _ | .unbindAll => false

theorem run_nil (engine : Engine) : engine.run [] = engine := rfl

theorem run_cons (engine : Engine) (command : Command) (commands : List Command) :
    engine.run (command :: commands) = (engine.apply command).run commands := rfl

end Engine

end RpnCalculator
