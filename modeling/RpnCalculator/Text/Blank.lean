import RpnCalculator.Text.Ranges

/-! Blank characters, and texts without blanks at their ends. -/

namespace RpnCalculator.Text

/-- The characters of the Unicode property White_Space. -/
def blankRanges : List (Nat × Nat) :=
  [(0x0009, 0x000D), (0x0020, 0x0020), (0x0085, 0x0085), (0x00A0, 0x00A0), (0x1680, 0x1680),
   (0x2000, 0x200A), (0x2028, 0x2029), (0x202F, 0x202F), (0x205F, 0x205F), (0x3000, 0x3000)]

def isBlank (character : Char) : Bool := inRanges blankRanges character

example : ['\t', ' ', '\u0085', '\u00a0', '\u3000'].all isBlank := by decide
example : ['0', '\u200b', '\ufeff'].any isBlank = false := by decide

theorem isBlank_eq_false_of_isDigit {character : Char} (digit : character.isDigit = true) :
    isBlank character = false := by
  have bounds : 48 ≤ character.toNat ∧ character.toNat ≤ 57 := by
    simpa [Char.isDigit, UInt32.le_iff_toNat_le] using digit
  rw [isBlank, Bool.eq_false_iff]
  intro blank
  rcases inRanges_iff.mp blank with ⟨range, member, first, last⟩
  have apart : blankRanges.all (fun range => range.2 < 48 || 57 < range.1) = true := by decide
  have outside := List.all_eq_true.mp apart range member
  simp only [Bool.or_eq_true, decide_eq_true_eq] at outside
  omega

def trim (text : String) : String :=
  let later := text.toList.dropWhile isBlank
  String.ofList (later.reverse.dropWhile isBlank).reverse

example : trim "\t 1 2\u3000" = "1 2" := by decide +kernel

theorem dropWhile_isBlank_eq_self {characters : List Char}
    (solid : ∀ character ∈ characters, isBlank character = false) :
    characters.dropWhile isBlank = characters := by
  cases characters with
  | nil => rfl
  | cons first rest =>
    have first := solid first List.mem_cons_self
    rw [List.dropWhile_cons_of_neg (by simp [first])]

theorem trim_eq_self {text : String}
    (solid : ∀ character ∈ text.toList, isBlank character = false) : trim text = text := by
  have backwards : ∀ character ∈ text.toList.reverse, isBlank character = false :=
    fun character member => solid character (List.mem_reverse.mp member)
  simp only [trim, dropWhile_isBlank_eq_self solid, dropWhile_isBlank_eq_self backwards,
    List.reverse_reverse, String.ofList_toList]

end RpnCalculator.Text
