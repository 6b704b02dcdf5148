import RpnCalculator.Program

/-! The stack machine: a program run in the order of entry. A leaf pushes its value; an operation
pops its operands, the right one first, and pushes its result. What the values are is left open: an
interpretation gives them to leaves, to operands that are missing from the stack, and to operations
once it has those of their operands. -/

namespace RpnCalculator

structure Interpretation (Value : Type) where
  missing : Value
  leaf : Leaf → Value
  unary : UnaryOperation → (argument : Value) → Value
  binary : BinaryOperation → (left right : Value) → Value

namespace Interpretation

variable {Value : Type} (interpretation : Interpretation Value)

def pop (stack : List Value) : Value × List Value :=
  (stack.headD interpretation.missing, stack.tail)

/-- One step of the machine; the top of the stack is its head. -/
def step (stack : List Value) : Element → List Value
  | .leaf leaf => interpretation.leaf leaf :: stack
  | .unary operation =>
    let (argument, stack) := interpretation.pop stack
    interpretation.unary operation argument :: stack
  | .binary operation =>
    let (right, stack) := interpretation.pop stack
    let (left, stack) := interpretation.pop stack
    interpretation.binary operation left right :: stack

def run (program : Program) : List Value := program.foldl interpretation.step []

theorem pop_nil : interpretation.pop [] = (interpretation.missing, []) := rfl

theorem pop_cons (top : Value) (below : List Value) :
    interpretation.pop (top :: below) = (top, below) := rfl

theorem run_nil : interpretation.run [] = [] := rfl

theorem run_concat (program : Program) (element : Element) :
    interpretation.run (program ++ [element]) =
      interpretation.step (interpretation.run program) element := by
  simp [run]

theorem run_ne_nil {program : Program} (nonempty : program ≠ []) :
    interpretation.run program ≠ [] := by
  rcases List.eq_nil_or_concat program with empty | ⟨older, element, concat⟩
  · exact absurd empty nonempty
  · rw [concat, List.concat_eq_append, run_concat]
    cases element <;> simp [step]

theorem run_eq_cons {program : Program} (nonempty : program ≠ []) {top : Value}
    {below : List Value} (popped : interpretation.pop (interpretation.run program) = (top, below)) :
    interpretation.run program = top :: below := by
  cases stack : interpretation.run program with
  | nil => exact absurd stack (interpretation.run_ne_nil nonempty)
  | cons head tail =>
      rw [stack, pop_cons] at popped
      rw [(Prod.mk.inj popped).1, (Prod.mk.inj popped).2]

end Interpretation

end RpnCalculator
