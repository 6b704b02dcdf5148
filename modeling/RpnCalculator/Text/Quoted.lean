import RpnCalculator.Text.Unprintable
import RpnCalculator.Text.ExtendingMark
import RpnCalculator.Text.Ignorable

/-! Quoted texts: between double quotes, with everything escaped that a reader of a log could
mistake or not see. -/

namespace RpnCalculator.Text

/-- How a character is written inside quotes. Quotes, backslashes and the common controls have
escapes of one letter; what is unprintable, is shown as nothing or would merge with its neighbour
is written by its code point in hexadecimal. -/
def escape (character : Char) : List Char :=
  if character = '"' then ['\\', '"']
  else if character = '\\' then ['\\', '\\']
  else if character = '\n' then ['\\', 'n']
  else if character = '\r' then ['\\', 'r']
  else if character = '\t' then ['\\', 't']
  else if character = '\x00' then ['\\', '0']
  else if isExtendingMark character || isIgnorable character || isUnprintable character then
    ['\\', 'u', '\x7b'] ++ Nat.toDigits 16 character.toNat ++ ['\x7d']
  else [character]

def quoted (text : String) : String :=
  String.ofList ('"' :: text.toList.flatMap escape ++ ['"'])

def quotedList (texts : List String) : String :=
  "[" ++ ", ".intercalate (texts.map quoted) ++ "]"

example : quoted "a\"b" = "\"a\\\"b\"" := by decide +kernel
example : quoted "é\u0301\u200b" = "\"é\\u\x7b301\x7d\\u\x7b200b\x7d\"" := by decide +kernel
example : quoted "\u115e\u115f" = "\"\u115e\\u\x7b115f\x7d\"" := by decide +kernel
example : quoted "\uff8a\uff9e" = "\"\uff8a\uff9e\"" := by decide +kernel
example : quotedList ["1", "+"] = "[\"1\", \"+\"]" ∧ quotedList [] = "[]" := by decide +kernel

end RpnCalculator.Text
