import RpnCalculator.Proofs.Infix.Grammar

/-! A reader of infix texts. It goes through the tokens of a text once, and knows at every token
what is to be done with it, so that no text has two readings. -/

namespace RpnCalculator.Infix

/-! ## Tokens -/

inductive Token where
  | word (characters : List Char)
  | mark (separator : Char)

def tokens : List Char → List Token
  | [] => []
  | character :: rest =>
    if character ∈ separators then .mark character :: tokens rest
    else
      match tokens rest with
      | .word characters :: more => .word (character :: characters) :: more
      | more => .word [character] :: more

theorem tokens_mark {separator : Char} (separates : separator ∈ separators)
    (rest : List Char) : tokens (separator :: rest) = .mark separator :: tokens rest := by
  rw [tokens, if_pos separates]

theorem tokens_append_mark {separator : Char} (separates : separator ∈ separators)
    (before after : List Char) :
    tokens (before ++ separator :: after) = tokens before ++ .mark separator :: tokens after := by
  induction before with
  | nil => exact tokens_mark separates after
  | cons character rest induction =>
      rw [List.cons_append, tokens, tokens, induction]
      split
      · rfl
      · cases tokens rest with
        | nil => rfl
        | cons first more => cases first <;> rfl

theorem tokens_of_isWord {word : String} (isWord : IsWord word) :
    tokens word.toList = [.word word.toList] := by
  have nonempty : word.toList ≠ [] := fun empty =>
    isWord.1 (String.toList_inj.mp (empty.trans String.toList_empty.symm))
  have inside := isWord.2
  generalize word.toList = characters at nonempty inside
  induction characters with
  | nil => exact absurd rfl nonempty
  | cons character rest induction =>
      have parts := List.forall_mem_cons.mp inside
      rw [tokens, if_neg parts.1]
      cases rest with
      | nil => rfl
      | cons next more => rw [induction (List.cons_ne_nil next more) parts.2]

/-! ## Reading -/

structure Frame where
  close : Expression → Expression
  sum : Expression → Expression
  product : Expression → Expression

mutual

/-- Read on where an operand is due. `product` and `sum` say what becomes of the operand when
the product and the sum that it stands in are finished. -/
def readOperand (outer : List Frame) (sum product : Expression → Expression) :
    List Token → Option Expression
  | [] => none
  | .mark '?' :: rest => readOn outer sum product .missing rest
  | .mark '(' :: rest => readOperand (⟨id, sum, product⟩ :: outer) id id rest
  | .mark '-' :: .word word :: rest =>
    match Numeral.read? ("-" ++ String.ofList word) with
    | some value => readOn outer sum product (.leaf (.operand value)) rest
    | none => none
  | .mark _ :: _ => none
  | .word word :: rest =>
    match leafOfWord? (String.ofList word) with
    | some leaf => readOn outer sum product (.leaf leaf) rest
    | none =>
      match Catalogue.find? (String.ofList word) with
      | some (.unary operation) => readArgument outer sum product operation rest
      | _ => none

def readArgument (outer : List Frame) (sum product : Expression → Expression)
    (operation : UnaryOperation) : List Token → Option Expression
  | .mark '(' :: rest => readOperand (⟨.unary operation, sum, product⟩ :: outer) id id rest
  | _ => none

def readOn (outer : List Frame) (sum product : Expression → Expression)
    (operand : Expression) : List Token → Option Expression
  | [] => if outer.isEmpty then some (sum (product operand)) else none
  | .mark '+' :: rest =>
    readOperand outer (.binary Catalogue.plus (sum (product operand))) id rest
  | .mark '-' :: rest =>
    readOperand outer (.binary Catalogue.minus (sum (product operand))) id rest
  | .mark '×' :: rest =>
    readOperand outer sum (.binary Catalogue.times (product operand)) rest
  | .mark '÷' :: rest =>
    readOperand outer sum (.binary Catalogue.divide (product operand)) rest
  | .mark ')' :: rest =>
    match outer with
    | [] => none
    | frame :: outer =>
      readOn outer frame.sum frame.product (frame.close (sum (product operand))) rest
  | .mark _ :: _ => none
  | .word _ :: _ => none

end

/-! ## What is readable is read -/

/-- The reader takes the tokens for the expression, whatever they stand in. Of a product or a sum
it may have only the last operand in hand, while the rest of it is already put together. -/
def Accepts : Level → List Token → Expression → Prop
  | .operand, tokens, expression => ∀ outer sum product rest,
      readOperand outer sum product (tokens ++ rest) = readOn outer sum product expression rest
  | .product, tokens, expression => ∀ outer sum rest, ∃ product operand,
      product operand = expression ∧
        readOperand outer sum id (tokens ++ rest) = readOn outer sum product operand rest
  | .sum, tokens, expression => ∀ outer rest, ∃ sum product operand,
      sum (product operand) = expression ∧
        readOperand outer id id (tokens ++ rest) = readOn outer sum product operand rest

theorem accepts_leaf {word : String} {leaf : Leaf} (isWord : IsWord word)
    (stands : leafOfWord? word = some leaf) :
    Accepts .operand (tokens word.toList) (.leaf leaf) := by
  intro outer sum product rest
  rw [tokens_of_isWord isWord, List.singleton_append, readOperand, String.ofList_toList, stands]

theorem accepts_negative {word : String} {value : Float} (isWord : IsWord word)
    (read : Numeral.read? ("-" ++ word) = some value) :
    Accepts .operand (tokens ("-" ++ word).toList) (.leaf (.operand value)) := by
  intro outer sum product rest
  rw [String.toList_append, show "-".toList = ['-'] from rfl, List.singleton_append,
    tokens_mark (by decide), tokens_of_isWord isWord]
  simp only [List.cons_append, List.nil_append, readOperand, String.ofList_toList, read]

theorem accepts_enclosed {text : String} {inner : Expression}
    (accepted : Accepts .sum (tokens text.toList) inner) :
    Accepts .operand (tokens ("(" ++ text ++ ")").toList) inner := by
  intro outer sum product rest
  have split : ("(" ++ text ++ ")").toList = '(' :: (text.toList ++ ')' :: []) := by simp
  rw [split, tokens_mark (by decide), tokens_append_mark (by decide)]
  rcases accepted (⟨id, sum, product⟩ :: outer) (.mark ')' :: rest) with
    ⟨innerSum, innerProduct, operand, equal, read⟩
  simp only [tokens, List.cons_append, List.append_assoc, List.nil_append, readOperand, read,
    readOn, equal, id]

theorem accepts_unary {text : String} {operation : UnaryOperation} {argument : Expression}
    (known : .unary operation ∈ Catalogue.elements)
    (accepted : Accepts .sum (tokens text.toList) argument) :
    Accepts .operand (tokens (operation.symbol ++ ("(" ++ text ++ ")")).toList)
      (.unary operation argument) := by
  intro outer sum product rest
  have split : (operation.symbol ++ ("(" ++ text ++ ")")).toList =
      operation.symbol.toList ++ '(' :: (text.toList ++ ')' :: []) := by simp
  have found : Catalogue.find? operation.symbol = some (.unary operation) :=
    Catalogue.find?_text known
  have noLeaf : leafOfWord? operation.symbol = none := by
    rw [leafOfWord?, Element.ofToken?, found]
    rfl
  rw [split, tokens_append_mark (by decide), tokens_append_mark (by decide),
    tokens_of_isWord (isWord_symbol known)]
  rcases accepted (⟨.unary operation, sum, product⟩ :: outer) (.mark ')' :: rest) with
    ⟨innerSum, innerProduct, operand, equal, read⟩
  simp only [tokens, List.cons_append, List.append_assoc, List.nil_append, readOperand,
    String.ofList_toList, noLeaf, found, readArgument, read, readOn, equal]

theorem exists_mark_of_times {operation : BinaryOperation}
    (multiplies : operation = Catalogue.times ∨ operation = Catalogue.divide) :
    ∃ separator ∈ separators, operation.symbol.toList = [separator] ∧
      ∀ outer sum product operand rest,
        readOn outer sum product operand (.mark separator :: rest) =
          readOperand outer sum (.binary operation (product operand)) rest := by
  rcases multiplies with rfl | rfl
  · exact ⟨'×', by decide, rfl, fun _ _ _ _ _ => by rw [readOn]⟩
  · exact ⟨'÷', by decide, rfl, fun _ _ _ _ _ => by rw [readOn]⟩

theorem exists_mark_of_plus {operation : BinaryOperation}
    (adds : operation = Catalogue.plus ∨ operation = Catalogue.minus) :
    ∃ separator ∈ separators, operation.symbol.toList = [separator] ∧
      ∀ outer sum product operand rest,
        readOn outer sum product operand (.mark separator :: rest) =
          readOperand outer (.binary operation (sum (product operand))) id rest := by
  rcases adds with rfl | rfl
  · exact ⟨'+', by decide, rfl, fun _ _ _ _ _ => by rw [readOn]⟩
  · exact ⟨'-', by decide, rfl, fun _ _ _ _ _ => by rw [readOn]⟩

theorem tokens_of_sign {separator : Char} {symbol : String} (separates : separator ∈ separators)
    (sign : symbol.toList = [separator]) (before after : String) :
    tokens (before ++ symbol ++ after).toList =
      tokens before.toList ++ .mark separator :: tokens after.toList := by
  rw [String.toList_append, String.toList_append, sign, List.append_assoc]
  exact tokens_append_mark separates before.toList after.toList

theorem accepts_times {before after : String} {left right : Expression}
    {operation : BinaryOperation}
    (multiplies : operation = Catalogue.times ∨ operation = Catalogue.divide)
    (leftAccepted : Accepts .product (tokens before.toList) left)
    (rightAccepted : Accepts .operand (tokens after.toList) right) :
    Accepts .product (tokens (before ++ operation.symbol ++ after).toList)
      (.binary operation left right) := by
  intro outer sum rest
  refine ⟨.binary operation left, right, rfl, ?_⟩
  rcases exists_mark_of_times multiplies with ⟨separator, separates, sign, readOn_mark⟩
  rcases leftAccepted outer sum (.mark separator :: (tokens after.toList ++ rest)) with
    ⟨product, operand, equal, read⟩
  rw [tokens_of_sign separates sign, List.append_assoc, List.cons_append, read, readOn_mark, equal]
  exact rightAccepted outer sum _ rest

theorem accepts_plus {before after : String} {left right : Expression}
    {operation : BinaryOperation}
    (adds : operation = Catalogue.plus ∨ operation = Catalogue.minus)
    (leftAccepted : Accepts .sum (tokens before.toList) left)
    (rightAccepted : Accepts .product (tokens after.toList) right) :
    Accepts .sum (tokens (before ++ operation.symbol ++ after).toList)
      (.binary operation left right) := by
  intro outer rest
  rcases exists_mark_of_plus adds with ⟨separator, separates, sign, readOn_mark⟩
  rcases leftAccepted outer (.mark separator :: (tokens after.toList ++ rest)) with
    ⟨sum, product, operand, equal, read⟩
  rcases rightAccepted outer (.binary operation left) rest with
    ⟨rightProduct, rightOperand, rightEqual, rightRead⟩
  refine ⟨.binary operation left, rightProduct, rightOperand, by rw [rightEqual], ?_⟩
  rw [tokens_of_sign separates sign, List.append_assoc, List.cons_append, read, readOn_mark, equal]
  exact rightRead

theorem Reads.accepts {level : Level} {text : String} {expression : Expression}
    (reads : Reads level text expression) : Accepts level (tokens text.toList) expression := by
  induction reads with
  | missing =>
      intro outer sum product rest
      rw [show "?".toList = ['?'] from rfl, tokens_mark (by decide), tokens, List.singleton_append,
        readOperand]
  | word isWord stands => exact accepts_leaf isWord stands
  | negative isWord read => exact accepts_negative isWord read
  | enclosed reads induction => exact accepts_enclosed induction
  | unary known reads induction => exact accepts_unary known induction
  | ofOperand reads induction =>
      intro outer sum rest
      exact ⟨id, _, rfl, induction outer sum id rest⟩
  | times multiplies leftReads rightReads leftInduction rightInduction =>
      exact accepts_times multiplies leftInduction rightInduction
  | ofProduct reads induction =>
      intro outer rest
      rcases induction outer id rest with ⟨product, operand, equal, read⟩
      exact ⟨id, product, operand, equal, read⟩
  | plus adds leftReads rightReads leftInduction rightInduction =>
      exact accepts_plus adds leftInduction rightInduction

def read? (text : String) : Option Expression := readOperand [] id id (tokens text.toList)

theorem Reads.read?_eq {text : String} {expression : Expression}
    (reads : Reads .sum text expression) : read? text = some expression := by
  rcases reads.accepts [] [] with ⟨sum, product, operand, equal, read⟩
  rw [List.append_nil] at read
  rw [read?, read, readOn, equal]
  rfl

theorem Reads.unique {text : String} {expression other : Expression}
    (reads : Reads .sum text expression) (otherReads : Reads .sum text other) :
    expression = other :=
  Option.some.inj (reads.read?_eq.symm.trans otherReads.read?_eq)

end RpnCalculator.Infix
