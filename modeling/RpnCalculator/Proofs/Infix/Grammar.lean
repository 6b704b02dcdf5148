import RpnCalculator.Expression
import RpnCalculator.Proofs.Engine.Reachability

/-! The infix grammar. Products bind more tightly than sums, both group to the left, and parentheses
override both. The symbol of a unary operation stands before its argument in parentheses. A minus
sign where an operand is due begins a negative number, and a question mark stands for a missing
operand. All other operands are words: the name of a constant, a numeral, or the name of a variable.
-/

namespace RpnCalculator.Infix

def separators : List Char := ['+', '-', '×', '÷', '(', ')', '?', ',', ' ', '=']

/-- A word has a character, and no separator. Names of letters, of whatever script, are words. -/
def IsWord (text : String) : Prop := text ≠ "" ∧ ∀ character ∈ text.toList, character ∉ separators

instance (text : String) : Decidable (IsWord text) :=
  decidable_of_iff (text ≠ "" ∧ text.toList.all fun character => character ∉ separators)
    (and_congr_right' (by simp))

example : IsWord "√2" ∧ ¬IsWord "a b" ∧ ¬IsWord "" := by decide

theorem isWord_of_isAlpha {text : String} (nonempty : text ≠ "")
    (letters : ∀ character ∈ text.toList, character.isAlpha = true) : IsWord text := by
  refine ⟨nonempty, ?_⟩
  intro character member separates
  have notLetters : separators.all (fun separator => !separator.isAlpha) = true := by decide
  have notLetter := List.all_eq_true.mp notLetters character separates
  rw [letters character member] at notLetter
  exact absurd notLetter Bool.false_ne_true

theorem isWord_symbol {operation : UnaryOperation}
    (known : .unary operation ∈ Catalogue.elements) : IsWord operation.symbol := by
  simp only [Catalogue.elements, List.mem_cons, List.not_mem_nil, or_false, reduceCtorEq,
    false_or, Element.unary.injEq] at known
  rcases known with rfl | rfl | rfl | rfl <;> decide

def leafOfWord? (word : String) : Option Leaf :=
  match Element.ofToken? word with
  | none => some (.reference word)
  | some (.leaf leaf) => some leaf
  | some _ => none

inductive Level where
  | operand
  | product
  | sum

/-- `Reads level text expression`: the text is an operand, a product or a sum, and it is read as
the expression. -/
inductive Reads : Level → String → Expression → Prop
  | missing : Reads .operand "?" .missing
  | word {word : String} {leaf : Leaf} :
      IsWord word → leafOfWord? word = some leaf → Reads .operand word (.leaf leaf)
  | negative {word : String} {value : Float} :
      IsWord word → Numeral.read? ("-" ++ word) = some value →
      Reads .operand ("-" ++ word) (.leaf (.operand value))
  | enclosed {text : String} {inner : Expression} :
      Reads .sum text inner → Reads .operand ("(" ++ text ++ ")") inner
  | unary {text : String} {operation : UnaryOperation} {argument : Expression} :
      .unary operation ∈ Catalogue.elements → Reads .sum text argument →
      Reads .operand (operation.symbol ++ ("(" ++ text ++ ")")) (.unary operation argument)
  | ofOperand {text : String} {expression : Expression} :
      Reads .operand text expression → Reads .product text expression
  | times {before after : String} {left right : Expression} {operation : BinaryOperation} :
      operation = Catalogue.times ∨ operation = Catalogue.divide →
      Reads .product before left → Reads .operand after right →
      Reads .product (before ++ operation.symbol ++ after) (.binary operation left right)
  | ofProduct {text : String} {expression : Expression} :
      Reads .product text expression → Reads .sum text expression
  | plus {before after : String} {left right : Expression} {operation : BinaryOperation} :
      operation = Catalogue.plus ∨ operation = Catalogue.minus →
      Reads .sum before left → Reads .product after right →
      Reads .sum (before ++ operation.symbol ++ after) (.binary operation left right)

end RpnCalculator.Infix
