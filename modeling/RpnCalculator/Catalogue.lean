import RpnCalculator.Element

/-! The operations and the constant that the calculator knows by their symbols. -/

namespace RpnCalculator.Catalogue

/-- The double nearest to π. -/
def pi : Float := Float.ofBits 0x400921FB54442D18

/-! ## Operations -/

def plus : BinaryOperation := ⟨"+", 1, fun right left => right + left⟩
def minus : BinaryOperation := ⟨"-", 1, fun right left => left - right⟩
def times : BinaryOperation := ⟨"×", 2, fun right left => right * left⟩
def divide : BinaryOperation := ⟨"÷", 2, fun right left => left / right⟩

def cosine : UnaryOperation := ⟨"cos", Float.cos⟩
def sine : UnaryOperation := ⟨"sin", Float.sin⟩
def negate : UnaryOperation := ⟨"±", fun argument => -argument⟩
def squareRoot : UnaryOperation := ⟨"√", Float.sqrt⟩

def elements : List Element :=
  [.binary plus, .binary minus, .unary cosine, .unary sine, .unary negate, .binary times,
    .binary divide, .leaf (.constant "π" pi), .unary squareRoot]

example : elements.map Element.text = ["+", "-", "cos", "sin", "±", "×", "÷", "π", "√"] := rfl

def find? (symbol : String) : Option Element :=
  elements.find? fun element => element.text == symbol

def knows (symbol : String) : Bool := (find? symbol).isSome

theorem text_of_find? {symbol : String} {element : Element}
    (found : find? symbol = some element) : element.text = symbol := by
  simpa using List.find?_some found

theorem mem_of_find? {symbol : String} {element : Element}
    (found : find? symbol = some element) : element ∈ elements :=
  List.mem_of_find?_eq_some found

end RpnCalculator.Catalogue
