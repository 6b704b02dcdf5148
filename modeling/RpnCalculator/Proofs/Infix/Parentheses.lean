import RpnCalculator.Proofs.Infix.Legibility

/-! The parentheses of a readable text are balanced, so that a pair that is opened in one part of a
text is closed in the same part. A pair that is not the argument list of a unary operation groups,
and can be left out: what remains is readable, though it may be grouped otherwise. -/

namespace RpnCalculator.Infix

/-! ## Balanced texts -/

def depth (text : List Char) : Int := text.count '(' - text.count ')'

theorem depth_append (before after : List Char) :
    depth (before ++ after) = depth before + depth after := by
  simp only [depth, List.count_append]
  omega

theorem depth_open (text : List Char) : depth ('(' :: text) = depth text + 1 := by
  simp [depth]
  omega

structure IsBalanced (text : List Char) : Prop where
  depth_eq_zero : depth text = 0
  depth_nonneg : ∀ {part : List Char}, part <+: text → 0 ≤ depth part

theorem isBalanced_of_not_mem {text : List Char} (noOpening : '(' ∉ text)
    (noClosing : ')' ∉ text) : IsBalanced text := by
  have flat {part : List Char} (initial : part <+: text) : depth part = 0 := by
    rw [depth, List.count_eq_zero_of_not_mem fun member => noOpening (initial.subset member),
      List.count_eq_zero_of_not_mem fun member => noClosing (initial.subset member)]
    rfl
  exact ⟨flat (List.prefix_refl text), fun initial => (flat initial).ge⟩

theorem IsBalanced.append {before after : List Char} (beforeBalanced : IsBalanced before)
    (afterBalanced : IsBalanced after) : IsBalanced (before ++ after) := by
  constructor
  · rw [depth_append, beforeBalanced.depth_eq_zero, afterBalanced.depth_eq_zero]
    rfl
  · rintro part ⟨rest, split⟩
    rcases List.append_eq_append_iff.mp split with ⟨more, rfl, _⟩ | ⟨more, rfl, rfl⟩
    · exact beforeBalanced.depth_nonneg (List.prefix_append part more)
    · rw [depth_append, beforeBalanced.depth_eq_zero, Int.zero_add]
      exact afterBalanced.depth_nonneg (List.prefix_append more rest)

theorem IsBalanced.enclosed {text : List Char} (balanced : IsBalanced text) :
    IsBalanced ('(' :: (text ++ [')'])) := by
  have closed : depth ('(' :: (text ++ [')'])) = 0 := by
    rw [depth_open, depth_append, balanced.depth_eq_zero]
    rfl
  refine ⟨closed, fun {part} initial => ?_⟩
  rcases List.prefix_cons_iff.mp initial with rfl | ⟨more, rfl, inside⟩
  · exact Int.le_refl 0
  · rcases List.prefix_concat_iff.mp inside with rfl | within
    · exact closed.ge
    · have nonneg := balanced.depth_nonneg within
      rw [depth_open]
      omega

theorem IsBalanced.eq_of_append_close {text other after otherAfter : List Char}
    (balanced : IsBalanced text) (otherBalanced : IsBalanced other)
    (same : text ++ ')' :: after = other ++ ')' :: otherAfter) :
    text = other ∧ after = otherAfter := by
  have excluded {first second more : List Char} (firstBalanced : IsBalanced first)
      (secondBalanced : IsBalanced second) (longer : second = first ++ ')' :: more) : False := by
    have initial : first ++ [')'] <+: second := by simp [longer]
    have nonneg := secondBalanced.depth_nonneg initial
    rw [depth_append, firstBalanced.depth_eq_zero] at nonneg
    exact absurd nonneg (by decide)
  rcases List.append_eq_append_iff.mp same with ⟨more, longer, rest⟩ | ⟨more, longer, rest⟩
  · cases more with
    | nil =>
        rw [List.append_nil] at longer
        exact ⟨longer.symm, (List.cons.inj rest).2⟩
    | cons first more =>
        cases (List.cons.inj rest).1
        exact (excluded balanced otherBalanced longer).elim
  · cases more with
    | nil =>
        rw [List.append_nil] at longer
        exact ⟨longer, (List.cons.inj rest).2.symm⟩
    | cons first more =>
        cases (List.cons.inj rest).1
        exact (excluded otherBalanced balanced longer).elim

/-! ## Pairs -/

/-- A pair of parentheses that groups, by what stands before it, between and after: the one closes
the other, and no symbol of a unary operation stands right before them, as one does before the
parentheses of its argument. -/
structure IsPair (text before inside after : List Char) : Prop where
  split : text = before ++ '(' :: inside ++ ')' :: after
  matched : IsBalanced inside
  groups : ∀ operation : UnaryOperation, .unary operation ∈ Catalogue.elements →
    ¬operation.symbol.toList <:+ before

theorem IsPair.mem {text before inside after : List Char}
    (pair : IsPair text before inside after) : '(' ∈ text := by
  rw [pair.split]
  simp

theorem IsPair.of_append {left right before start inside after : List Char}
    (pair : IsPair (left ++ right) before inside after) (later : before = left ++ start) :
    IsPair right start inside after := by
  subst later
  refine ⟨?_, pair.matched, ?_⟩
  · have split := pair.split
    rw [List.append_assoc, List.append_assoc, List.append_right_inj] at split
    rw [split, List.append_assoc]
  · intro operation known final
    exact pair.groups operation known (final.trans (List.suffix_append left start))

theorem IsPair.cases_append {left right before inside after : List Char}
    (balanced : IsBalanced left) (pair : IsPair (left ++ right) before inside after) :
    (∃ rest, after = rest ++ right ∧ IsPair left before inside rest) ∨
      ∃ start, before = left ++ start ∧ IsPair right start inside after := by
  have split := pair.split
  rw [List.append_assoc] at split
  rcases List.append_eq_append_iff.mp split with ⟨start, rfl, _⟩ | ⟨rest, leftSplit, opened⟩
  · exact .inr ⟨start, rfl, pair.of_append rfl⟩
  have beforeNonneg := balanced.depth_nonneg ⟨rest, leftSplit.symm⟩
  cases rest with
  | nil =>
      have whole : before = left ++ [] := by rw [leftSplit, List.append_nil, List.append_nil]
      exact .inr ⟨[], whole, pair.of_append whole⟩
  | cons first rest =>
      cases (List.cons.inj opened).1
      have level := balanced.depth_eq_zero
      rw [leftSplit, depth_append, depth_open] at level
      -- If the pair were not closed on the left, more would be opened there than closed.
      rcases List.append_eq_append_iff.mp (List.cons.inj opened).2 with
        ⟨more, restSplit, closed⟩ | ⟨more, insideSplit, _⟩
      · cases more with
        | nil =>
            rw [restSplit, List.append_nil, pair.matched.depth_eq_zero] at level
            omega
        | cons second more =>
            cases (List.cons.inj closed).1
            refine .inl ⟨more, (List.cons.inj closed).2, ?_, pair.matched, pair.groups⟩
            rw [leftSplit, restSplit, List.append_assoc]
            rfl
      · have restNonneg := pair.matched.depth_nonneg ⟨more, insideSplit.symm⟩
        omega

theorem IsPair.cases_enclosed {text before inside after : List Char} (balanced : IsBalanced text)
    (pair : IsPair ('(' :: (text ++ [')'])) before inside after) :
    (before = [] ∧ inside = text ∧ after = []) ∨
      ∃ start rest, before = '(' :: start ∧ after = rest ++ [')'] ∧
        IsPair text start inside rest := by
  cases before with
  | nil =>
      have split := (List.cons.inj pair.split).2
      rcases balanced.eq_of_append_close pair.matched split with ⟨rfl, rfl⟩
      exact .inl ⟨rfl, rfl, rfl⟩
  | cons first start =>
      cases (List.cons.inj pair.split).1
      have within : IsPair (text ++ [')']) start inside after :=
        @IsPair.of_append ['('] _ _ _ _ _ pair rfl
      rcases within.cases_append balanced with ⟨rest, rfl, textPair⟩ | ⟨more, _, closing⟩
      · exact .inr ⟨start, rest, rfl, rfl, textPair⟩
      · exact absurd closing.mem (by decide)

/-! ## Readable texts -/

theorem IsWord.not_mem_of_separates {word : String} (isWord : IsWord word) {separator : Char}
    (separates : separator ∈ separators) : separator ∉ word.toList :=
  fun member => isWord.2 separator member separates

theorem IsWord.isBalanced {word : String} (isWord : IsWord word) : IsBalanced word.toList :=
  isBalanced_of_not_mem (isWord.not_mem_of_separates (by decide))
    (isWord.not_mem_of_separates (by decide))

def IsSign (operation : BinaryOperation) : Prop :=
  (operation = Catalogue.plus ∨ operation = Catalogue.minus) ∨
    operation = Catalogue.times ∨ operation = Catalogue.divide

theorem IsSign.not_mem {operation : BinaryOperation} (sign : IsSign operation) :
    '(' ∉ operation.symbol.toList ∧ ')' ∉ operation.symbol.toList := by
  rcases sign with (rfl | rfl) | rfl | rfl <;> decide

theorem IsSign.isBalanced {operation : BinaryOperation} (sign : IsSign operation) :
    IsBalanced operation.symbol.toList :=
  isBalanced_of_not_mem sign.not_mem.1 sign.not_mem.2

theorem toList_enclosed (text : String) :
    ("(" ++ text ++ ")").toList = '(' :: (text.toList ++ [')']) := by
  simp

theorem Reads.isBalanced {level : Level} {text : String} {expression : Expression}
    (reads : Reads level text expression) : IsBalanced text.toList := by
  have signed {before after : String} {operation : BinaryOperation} (sign : IsSign operation)
      (left : IsBalanced before.toList) (right : IsBalanced after.toList) :
      IsBalanced (before ++ operation.symbol ++ after).toList := by
    rw [String.toList_append, String.toList_append]
    exact (left.append sign.isBalanced).append right
  induction reads with
  | missing => exact isBalanced_of_not_mem (by decide) (by decide)
  | word isWord stands => exact isWord.isBalanced
  | negative isWord read =>
      rw [String.toList_append]
      exact (isBalanced_of_not_mem (by decide) (by decide)).append isWord.isBalanced
  | enclosed reads induction =>
      rw [toList_enclosed]
      exact induction.enclosed
  | unary known reads induction =>
      rw [String.toList_append, toList_enclosed]
      exact (isWord_symbol known).isBalanced.append induction.enclosed
  | ofOperand reads induction => exact induction
  | ofProduct reads induction => exact induction
  | times multiplies leftReads rightReads leftInduction rightInduction =>
      exact signed (.inr multiplies) leftInduction rightInduction
  | plus adds leftReads rightReads leftInduction rightInduction =>
      exact signed (.inl adds) leftInduction rightInduction

theorem Reads.toSum {level : Level} {text : String} {expression : Expression}
    (reads : Reads level text expression) : Reads .sum text expression := by
  cases level with
  | operand => exact .ofProduct (.ofOperand reads)
  | product => exact .ofProduct reads
  | sum => exact reads

variable {before after : String} {left right : Expression} {operation : BinaryOperation}

theorem Reads.exists_signed_operand (sign : IsSign operation) (leftReads : Reads .sum before left)
    (rightReads : Reads .operand after right) :
    ∃ whole, Reads .sum (before ++ operation.symbol ++ after) whole := by
  rcases sign with adds | multiplies
  · exact ⟨_, .plus adds leftReads (.ofOperand rightReads)⟩
  · cases leftReads with
    | ofProduct productReads => exact ⟨_, .ofProduct (.times multiplies productReads rightReads)⟩
    | @plus first last _ _ outer adds firstReads lastReads =>
        have regrouped : first ++ outer.symbol ++ last ++ operation.symbol ++ after =
            first ++ outer.symbol ++ (last ++ operation.symbol ++ after) := by
          simp only [String.append_assoc]
        rw [regrouped]
        exact ⟨_, .plus adds firstReads (.times multiplies lastReads rightReads)⟩

theorem Reads.exists_signed {level : Level} (sign : IsSign operation)
    (leftReads : Reads .sum before left) (rightReads : Reads level after right) :
    ∃ whole, Reads .sum (before ++ operation.symbol ++ after) whole := by
  induction rightReads with
  | missing => exact leftReads.exists_signed_operand sign .missing
  | word isWord stands => exact leftReads.exists_signed_operand sign (.word isWord stands)
  | negative isWord read => exact leftReads.exists_signed_operand sign (.negative isWord read)
  | enclosed reads => exact leftReads.exists_signed_operand sign (.enclosed reads)
  | unary known reads => exact leftReads.exists_signed_operand sign (.unary known reads)
  | ofOperand reads induction => exact induction
  | ofProduct reads induction => exact induction
  | @times first last _ _ inner multiplies firstReads lastReads firstInduction =>
      rcases firstInduction with ⟨whole, wholeReads⟩
      have regrouped : before ++ operation.symbol ++ (first ++ inner.symbol ++ last) =
          before ++ operation.symbol ++ first ++ inner.symbol ++ last := by
        simp only [String.append_assoc]
      rw [regrouped]
      exact wholeReads.exists_signed_operand (.inr multiplies) lastReads
  | @plus first last _ _ inner adds firstReads lastReads firstInduction =>
      rcases firstInduction with ⟨whole, wholeReads⟩
      have regrouped : before ++ operation.symbol ++ (first ++ inner.symbol ++ last) =
          before ++ operation.symbol ++ first ++ inner.symbol ++ last := by
        simp only [String.append_assoc]
      rw [regrouped]
      exact ⟨_, .plus adds wholeReads lastReads⟩

/-! ## Leaving out a pair -/

def CanDropPairs (text : String) : Prop :=
  ∀ {start inside rest : List Char}, IsPair text.toList start inside rest →
    ∃ other, Reads .sum (String.ofList (start ++ inside ++ rest)) other

theorem canDropPairs_of_not_mem {text : String} (noOpening : '(' ∉ text.toList) :
    CanDropPairs text :=
  fun pair => absurd pair.mem noOpening

theorem CanDropPairs.enclosed {text : String} {inner : Expression} (reads : Reads .sum text inner)
    (canDrop : CanDropPairs text) : CanDropPairs ("(" ++ text ++ ")") := by
  intro start inside rest pair
  rw [toList_enclosed] at pair
  rcases pair.cases_enclosed reads.isBalanced with ⟨rfl, rfl, rfl⟩ | ⟨head, tail, rfl, rfl, within⟩
  · exact ⟨inner, by simpa using reads⟩
  · rcases canDrop within with ⟨shorter, shorterReads⟩
    have same : String.ofList ('(' :: head ++ inside ++ (tail ++ [')'])) =
        "(" ++ String.ofList (head ++ inside ++ tail) ++ ")" := String.toList_inj.mp (by simp)
    rw [same]
    exact ⟨shorter, shorterReads.enclosed.toSum⟩

theorem CanDropPairs.unary {text : String} {operation : UnaryOperation} {argument : Expression}
    (known : .unary operation ∈ Catalogue.elements) (reads : Reads .sum text argument)
    (canDrop : CanDropPairs text) : CanDropPairs (operation.symbol ++ ("(" ++ text ++ ")")) := by
  intro start inside rest pair
  rw [String.toList_append, toList_enclosed] at pair
  have isWord := isWord_symbol known
  rcases pair.cases_append isWord.isBalanced with ⟨_, _, symbolPair⟩ | ⟨head, rfl, enclosedPair⟩
  · exact absurd symbolPair.mem (isWord.not_mem_of_separates (by decide))
  rcases enclosedPair.cases_enclosed reads.isBalanced with
    ⟨rfl, _, _⟩ | ⟨head, tail, rfl, rfl, within⟩
  · -- The parentheses of the argument are no pair: the symbol stands before them.
    rw [List.append_nil] at pair
    exact absurd (List.suffix_refl operation.symbol.toList) (pair.groups operation known)
  · rcases canDrop within with ⟨shorter, shorterReads⟩
    have same : String.ofList (operation.symbol.toList ++ '(' :: head ++ inside ++
        (tail ++ [')'])) =
          operation.symbol ++ ("(" ++ String.ofList (head ++ inside ++ tail) ++ ")") :=
      String.toList_inj.mp (by simp)
    rw [same]
    exact ⟨_, (Reads.unary known shorterReads).toSum⟩

theorem CanDropPairs.signed {leftLevel rightLevel : Level} (sign : IsSign operation)
    (leftReads : Reads leftLevel before left) (rightReads : Reads rightLevel after right)
    (leftCanDrop : CanDropPairs before) (rightCanDrop : CanDropPairs after) :
    CanDropPairs (before ++ operation.symbol ++ after) := by
  intro start inside rest pair
  rw [String.toList_append, String.toList_append, List.append_assoc] at pair
  rcases pair.cases_append leftReads.isBalanced with ⟨tail, rfl, leftPair⟩ | ⟨head, rfl, later⟩
  · rcases leftCanDrop leftPair with ⟨shorter, shorterReads⟩
    have same : String.ofList (start ++ inside ++
        (tail ++ (operation.symbol.toList ++ after.toList))) =
          String.ofList (start ++ inside ++ tail) ++ operation.symbol ++ after :=
      String.toList_inj.mp (by simp)
    rw [same]
    exact shorterReads.exists_signed sign rightReads
  rcases later.cases_append sign.isBalanced with ⟨_, _, signPair⟩ | ⟨tail, rfl, rightPair⟩
  · exact absurd signPair.mem sign.not_mem.1
  · rcases rightCanDrop rightPair with ⟨shorter, shorterReads⟩
    have same : String.ofList (before.toList ++ (operation.symbol.toList ++ tail) ++ inside ++
        rest) = before ++ operation.symbol ++ String.ofList (tail ++ inside ++ rest) :=
      String.toList_inj.mp (by simp)
    rw [same]
    exact leftReads.toSum.exists_signed sign shorterReads

theorem Reads.canDropPairs {level : Level} {text : String} {expression : Expression}
    (reads : Reads level text expression) : CanDropPairs text := by
  induction reads with
  | missing => exact canDropPairs_of_not_mem (by decide)
  | word isWord stands => exact canDropPairs_of_not_mem (isWord.not_mem_of_separates (by decide))
  | negative isWord read =>
      apply canDropPairs_of_not_mem
      exact not_mem_toList_append (by decide) (isWord.not_mem_of_separates (by decide))
  | enclosed reads canDrop => exact canDrop.enclosed reads
  | unary known reads canDrop => exact canDrop.unary known reads
  | ofOperand reads canDrop => exact canDrop
  | ofProduct reads canDrop => exact canDrop
  | times multiplies leftReads rightReads leftCanDrop rightCanDrop =>
      exact leftCanDrop.signed (.inr multiplies) leftReads rightReads rightCanDrop
  | plus adds leftReads rightReads leftCanDrop rightCanDrop =>
      exact leftCanDrop.signed (.inl adds) leftReads rightReads rightCanDrop

end RpnCalculator.Infix
