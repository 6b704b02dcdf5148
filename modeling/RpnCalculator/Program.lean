import RpnCalculator.Catalogue

/-! Programs and their transcripts. A transcript lists the tokens of a program; reading one back
keeps the tokens that name a known element or a number and drops the others. -/

namespace RpnCalculator

abbrev Program := List Element

def Element.ofToken? (token : String) : Option Element :=
  (Catalogue.find? token).or ((Numeral.read? token).map fun value => .leaf (.operand value))

/-- May a variable have this name? A name that would be read back as something else may not. -/
def isVariableName (name : String) : Bool :=
  !Catalogue.knows name && (Numeral.read? name).isNone

example : ["M", "x1", "", "inf ", "++"].all isVariableName := by decide +kernel
example : ["π", "-", "3", "1e5", "NaN"].any isVariableName = false := by decide +kernel

namespace Program

def transcript (program : Program) : List String := program.map Element.text

def joined (program : Program) : String := " ".intercalate (transcript program)

def ofTranscript (tokens : List String) : Program := tokens.filterMap Element.ofToken?

def ignoredTokens (tokens : List String) : List String :=
  tokens.filter fun token => (Element.ofToken? token).isNone

end Program

theorem isVariableName_iff {token : String} :
    isVariableName token = true ↔ Element.ofToken? token = none := by
  simp [isVariableName, Catalogue.knows, Element.ofToken?, Option.or_eq_none_iff]

end RpnCalculator
