/-! The values of variables. Entries are kept in ascending order of their names, each name once, so
that the same table has the same entries however it was filled. -/

namespace RpnCalculator

abbrev Binding := String × Float

structure Bindings where
  entries : List Binding
  ascending : entries.Pairwise fun earlier later => earlier.1 < later.1

namespace Bindings

/-- Put a binding at its place among others, instead of the one with its name. -/
def place (name : String) (value : Float) : List Binding → List Binding
  | [] => [(name, value)]
  | entry :: rest =>
    if name < entry.1 then (name, value) :: entry :: rest
    else if name = entry.1 then (name, value) :: rest
    else entry :: place name value rest

theorem mem_place {name : String} {value : Float} {entries : List Binding} {entry : Binding}
    (member : entry ∈ place name value entries) : entry = (name, value) ∨ entry ∈ entries := by
  induction entries with
  | nil => simp_all [place]
  | cons head tail induction =>
    rw [place] at member
    split at member
    · simp_all
    · split at member
      · simp_all only [List.mem_cons]
        exact member.imp_right .inr
      · rcases List.mem_cons.mp member with equal | later
        · exact .inr (equal ▸ List.mem_cons_self)
        · exact (induction later).imp_right (List.mem_cons_of_mem head)

private theorem lt_of_not_lt_of_ne {left right : String} (notLess : ¬left < right)
    (different : left ≠ right) : right < left :=
  Std.not_le.mp fun less => different (Std.le_antisymm less (String.not_lt.mp notLess))

theorem place_ascending {name : String} {value : Float} {entries : List Binding}
    (ascending : entries.Pairwise fun earlier later => earlier.1 < later.1) :
    (place name value entries).Pairwise fun earlier later => earlier.1 < later.1 := by
  induction entries with
  | nil => simp [place]
  | cons head tail induction =>
    have parts := List.pairwise_cons.mp ascending
    rw [place]
    split
    next less =>
      refine List.pairwise_cons.mpr ⟨fun entry member => ?_, ascending⟩
      rcases List.mem_cons.mp member with rfl | later
      · exact less
      · exact String.lt_trans less (parts.1 entry later)
    next notLess =>
      split
      next equal => exact List.pairwise_cons.mpr ⟨equal ▸ parts.1, parts.2⟩
      next different =>
        refine List.pairwise_cons.mpr ⟨fun entry member => ?_, induction parts.2⟩
        rcases mem_place member with rfl | later
        · exact lt_of_not_lt_of_ne notLess different
        · exact parts.1 entry later

def empty : Bindings := ⟨[], .nil⟩

def get? (bindings : Bindings) (name : String) : Option Float := bindings.entries.lookup name

def set (bindings : Bindings) (name : String) (value : Float) : Bindings :=
  ⟨place name value bindings.entries, place_ascending bindings.ascending⟩

def erase (bindings : Bindings) (name : String) : Bindings :=
  ⟨bindings.entries.filter fun entry => entry.1 != name,
    bindings.ascending.sublist List.filter_sublist⟩

example : ((empty.set "x" 1).set "M" 2).entries.map (·.1) = ["M", "x"] := by decide

theorem get?_empty (name : String) : empty.get? name = none := rfl

theorem get?_set (bindings : Bindings) (name other : String) (value : Float) :
    (bindings.set name value).get? other =
      if other = name then some value else bindings.get? other := by
  obtain ⟨entries, ascending⟩ := bindings
  simp only [get?, set]
  clear ascending
  induction entries with
  | nil => grind [place]
  | cons head tail induction => grind [place]

theorem get?_erase (bindings : Bindings) (name other : String) :
    (bindings.erase name).get? other = if other = name then none else bindings.get? other := by
  obtain ⟨entries, ascending⟩ := bindings
  simp only [get?, erase]
  clear ascending
  induction entries with
  | nil => simp
  | cons head tail induction => grind

end Bindings

end RpnCalculator
