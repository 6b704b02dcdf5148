import RpnCalculator.Text.Ranges

/-! The characters that a display shows as nothing when it has no better use for them, such as
joiners, variation selectors and the fillers of Hangul syllables. Some of them count as letters, so
their general category does not tell them apart. The set is that of the standard's property "default
ignorable". Each range is given by its first and its last code point, in ascending order. -/

namespace RpnCalculator.Text

/-- Code points that are set aside for further ignorable characters belong to them. -/
def ignorableRanges : List (Nat × Nat) :=
  [(0x00AD, 0x00AD), (0x034F, 0x034F), (0x061C, 0x061C), (0x115F, 0x1160), (0x17B4, 0x17B5),
   (0x180B, 0x180F), (0x200B, 0x200F), (0x202A, 0x202E), (0x2060, 0x206F), (0x3164, 0x3164),
   (0xFE00, 0xFE0F), (0xFEFF, 0xFEFF), (0xFFA0, 0xFFA0), (0xFFF0, 0xFFF8), (0x1BCA0, 0x1BCA3),
   (0x1D173, 0x1D17A), (0xE0000, 0xE0FFF)]

example : (ignorableRanges.map fun (first, last) => last + 1 - first).sum = 4174 := by
  decide +kernel

def isIgnorable (character : Char) : Bool := inRanges ignorableRanges character

example : ['\u115f', '\u1160', '\u3164', '\uffa0', '\ufe0f'].all isIgnorable := by decide +kernel
example : [' ', 'e', '\u1100', '\u1161'].any isIgnorable = false := by decide +kernel

end RpnCalculator.Text
