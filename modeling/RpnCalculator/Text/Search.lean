namespace RpnCalculator.Text

def occurs (part : List Char) : List Char → Bool
  | [] => part.isEmpty
  | character :: rest => part.isPrefixOf (character :: rest) || occurs part rest

def contains (text part : String) : Bool := occurs part.toList text.toList

example : contains "1.5" "." ∧ contains "1.5" "" ∧ contains "" "" := by decide
example : contains "15" "." = false ∧ contains "1" "15" = false := by decide

theorem occurs_iff {part characters : List Char} :
    occurs part characters = true ↔ part <:+: characters := by
  induction characters with
  | nil => simp [occurs]
  | cons character rest induction =>
    rw [occurs, Bool.or_eq_true, induction, List.isPrefixOf_iff_prefix, List.infix_cons_iff]

end RpnCalculator.Text
