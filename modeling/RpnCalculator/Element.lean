import RpnCalculator.Number.Numeral

/-! The elements of a program in reverse Polish notation: leaves, which need no operand, and
operations on the one or two values entered before them. -/

namespace RpnCalculator

inductive Leaf where
  | operand (value : Float)
  | reference (name : String)
  | constant (name : String) (value : Float)

structure UnaryOperation where
  symbol : String
  apply : (argument : Float) → Float

/-- A binary operation. Its right operand is the one entered last, and the first that it takes. -/
structure BinaryOperation where
  symbol : String
  precedence : Int
  apply : (right left : Float) → Float

inductive Element where
  | leaf (leaf : Leaf)
  | unary (operation : UnaryOperation)
  | binary (operation : BinaryOperation)

def tightest : Int := 2147483647

namespace Leaf

def text : Leaf → String
  | .operand value => Numeral.write value
  | .reference name => name
  | .constant name _ => name

end Leaf

namespace Element

def text : Element → String
  | .leaf item => item.text
  | .unary operation => operation.symbol
  | .binary operation => operation.symbol

/-- Only a binary operation can need parentheses around it. -/
def precedence : Element → Int
  | .binary operation => operation.precedence
  | _ => tightest

def isLeaf : Element → Bool
  | .leaf _ => true
  | _ => false

example : (Element.leaf (.operand 3)).text = "3" := by decide +kernel
example : (Element.leaf (.operand (-2.25))).text = "-2.25" := by decide +kernel

end Element

end RpnCalculator
