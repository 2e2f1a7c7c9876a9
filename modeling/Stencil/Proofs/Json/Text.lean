import Stencil.Json.Reader
import Stencil.Proofs.Json.Decimal

/-!
# JSON text reads back

The text of a value has the tokens of the value, but for its numbers, and the reader puts the
value together from them. So what was written is read as it was, as long as its numbers read
back and it is not nested too deep (`read_text`).
-/
namespace Stencil

mutual
/-- The numbers in a value. -/
def Value.numbers : Value → List Number
  | .number n => [n]
  | .array items => numbersOfItems items
  | .object members => numbersOfMembers members
  | _ => []

def Value.numbersOfItems : List Value → List Number
  | [] => []
  | value :: rest => value.numbers ++ numbersOfItems rest

def Value.numbersOfMembers : List (String × Value) → List Number
  | [] => []
  | (_, value) :: rest => value.numbers ++ numbersOfMembers rest
end

mutual
/-- What the text of a value is read as: the value with its numbers read again. -/
def Value.reread? : Value → Option Value
  | .number n => n.reread?
  | .array items => (rereadItems? items).map .array
  | .object members => (rereadMembers? members).map .object
  | scalar => some scalar

def Value.rereadItems? : List Value → Option (List Value)
  | [] => some []
  | value :: rest => do return (← value.reread?) :: (← rereadItems? rest)

def Value.rereadMembers? : List (String × Value) → Option (List (String × Value))
  | [] => some []
  | (key, value) :: rest => do return (key, ← value.reread?) :: (← rereadMembers? rest)
end

namespace Value

theorem rereadItems?_cons (value : Value) (rest : List Value) : rereadItems? (value :: rest)
    = value.reread?.bind fun first => (rereadItems? rest).map (first :: ·) := by
  rw [rereadItems?]
  cases value.reread? with
  | none => rfl
  | some first => cases rereadItems? rest <;> rfl

theorem rereadMembers?_cons (key : String) (value : Value) (rest : List (String × Value)) :
    rereadMembers? ((key, value) :: rest)
      = value.reread?.bind fun first => (rereadMembers? rest).map ((key, first) :: ·) := by
  rw [rereadMembers?]
  cases value.reread? with
  | none => rfl
  | some first => cases rereadMembers? rest <;> rfl

private theorem exists_cons_of_rereadItems? {value : Value} {rest read : List Value}
    (reread : rereadItems? (value :: rest) = some read) : ∃ first others, read = first :: others := by
  rw [rereadItems?_cons] at reread
  obtain ⟨first, -, reread⟩ := Option.bind_eq_some_iff.mp reread
  obtain ⟨others, -, rfl⟩ := Option.map_eq_some_iff.mp reread
  exact ⟨first, others, rfl⟩

private theorem exists_cons_of_rereadMembers? {member : String × Value}
    {rest read : List (String × Value)} (reread : rereadMembers? (member :: rest) = some read) :
    ∃ first others, read = first :: others := by
  rw [rereadMembers?_cons] at reread
  obtain ⟨first, -, reread⟩ := Option.bind_eq_some_iff.mp reread
  obtain ⟨others, -, rfl⟩ := Option.map_eq_some_iff.mp reread
  exact ⟨_, others, rfl⟩

end Value

namespace Json

mutual
/-- The tokens a value is written with. -/
def tokensOf : Value → List Token
  | .array items => .openArray :: tokensOfItems items ++ [.closeArray]
  | .object members => .openObject :: tokensOfMembers members ++ [.closeObject]
  | scalar => [.scalar scalar]

def tokensOfItems : List Value → List Token
  | [] => []
  | [value] => tokensOf value
  | value :: next :: rest => tokensOf value ++ .comma :: tokensOfItems (next :: rest)

def tokensOfMembers : List (String × Value) → List Token
  | [] => []
  | [(key, value)] => .scalar (.string key) :: .colon :: tokensOf value
  | (key, value) :: next :: rest =>
    .scalar (.string key) :: .colon :: tokensOf value ++ .comma :: tokensOfMembers (next :: rest)
end

/-! ### Strings -/

private theorem hexValue_hexDigit (n : Nat) : hexValue? (hexDigit n) = some (n % 16) := by
  have all : ∀ d < 16, hexValue? (Nat.digitChar d).toLower = some d := by decide
  exact all (n % 16) (Nat.mod_lt n (by decide))

/-- The letter of an escape stands for the character it was chosen for. -/
private theorem unescape_letterEscape {c letter : Char} (chosen : letterEscape? c = some letter) :
    unescape? letter = some c ∧ letter ≠ 'u' := by
  unfold letterEscape? at chosen
  split at chosen <;> cases chosen <;> exact ⟨rfl, by decide⟩

/-- A character is read back, whatever it was written as. -/
theorem stringBody_escapeChar (c : Char) (done rest : List Char) :
    stringBody none done (escapeChar c ++ rest) = stringBody none (c :: done) rest := by
  unfold escapeChar
  split
  · next letter chosen =>
    obtain ⟨same, notUnicode⟩ := unescape_letterEscape chosen
    rw [List.cons_append, List.cons_append, List.nil_append, stringBody.eq_def]
    simp [notUnicode, same]
  · next plain =>
    split
    · next control =>
      -- A control character has two digits, and what they stand for is no surrogate.
      have value : (c.toNat / 16 % 16) * 16 + c.toNat % 16 = c.toNat := by omega
      have unit : hexUnit? '0' '0' (hexDigit (c.toNat / 16)) (hexDigit c.toNat)
          = some c.toNat := by
        have zero : hexValue? '0' = some 0 := by decide
        simp [hexUnit?, hexValue_hexDigit, zero, value]
      have noHigh : isHighSurrogate c.toNat = false := by
        simp [isHighSurrogate]; omega
      have noLow : isLowSurrogate c.toNat = false := by
        simp [isLowSurrogate]; omega
      simp [stringBody, unit, noHigh, noLow]
    · -- Any other character stands for itself.
      next shown =>
      have notQuote : c ≠ '"' := by
        rintro rfl
        cases plain
      have notSlash : c ≠ '\\' := by
        rintro rfl
        cases plain
      rw [List.singleton_append, stringBody.eq_def]
      simp [notSlash, shown]

private theorem stringBody_flatMap (text done rest : List Char) :
    stringBody none done (text.flatMap escapeChar ++ '"' :: rest)
      = some (done.reverse ++ text, rest) := by
  induction text generalizing done with
  | nil => simp [stringBody]
  | cons c text ih =>
    rw [List.flatMap_cons, List.append_assoc, stringBody_escapeChar, ih]
    simp

/-! ### Tokens -/

private theorem tokens_bracket {c : Char} {token : Token} (bracket : bracket? c = some token)
    (rest : List Char) : tokens (c :: rest) = (tokens rest).map (token :: ·) := by
  have noBlank : isBlank c = false := by
    unfold bracket? at bracket
    split at bracket <;> first | rfl | cases bracket
  rw [tokens.eq_def]
  simp [noBlank, bracket]

private theorem tokens_quote (text rest : List Char) : tokens (quote text ++ rest)
    = (tokens rest).map (.scalar (.string (String.ofList text)) :: ·) := by
  have body := stringBody_flatMap text [] rest
  rw [List.reverse_nil, List.nil_append] at body
  have shape : quote text ++ rest = '"' :: (text.flatMap escapeChar ++ '"' :: rest) := by
    simp [quote]
  rw [shape, tokens.eq_def]
  simp only [show isBlank '"' = false from rfl, show bracket? '"' = none from rfl, if_true,
    Bool.false_eq_true, if_false]
  split
  · next body' after read =>
    cases body.symm.trans read
    rfl
  · next absent => cases body.symm.trans absent

private theorem tokens_word {text rest : List Char} {value : Value}
    (read : word text = some (value, rest)) :
    tokens text = (tokens rest).map (.scalar value :: ·) := by
  have starts : ∃ c tail, text = c :: tail ∧ isBlank c = false ∧ bracket? c = none ∧ c ≠ '"' ∧
      ¬ (c = '-' ∨ c.isDigit) := by
    unfold word at read
    split at read
    · exact ⟨_, _, rfl, rfl, rfl, by decide, by decide⟩
    · exact ⟨_, _, rfl, rfl, rfl, by decide, by decide⟩
    · exact ⟨_, _, rfl, rfl, rfl, by decide, by decide⟩
    · cases read
  obtain ⟨c, tail, rfl, noBlank, noBracket, noQuote, noNumeral⟩ := starts
  rw [tokens.eq_def]
  simp only [noBlank, noBracket, if_neg noQuote, if_neg noNumeral, Bool.false_eq_true, if_false]
  split
  · next value' after read' =>
    cases read.symm.trans read'
    rfl
  · next absent => cases read.symm.trans absent

private theorem tokens_numeral {text rest : List Char} {numeral : Numeral}
    (denotes : Denotes text numeral) (ends : EndsNumeral rest) : tokens (text ++ rest)
      = numeral.number?.bind fun number => (tokens rest).map (.scalar (.number number) :: ·) := by
  obtain ⟨c, tail, rfl, isNumeral⟩ := denotes.starts
  have read := denotes.reads rest ends
  rw [List.cons_append] at read
  have special : isBlank c = false ∧ bracket? c = none ∧ c ≠ '"' := by
    rcases isNumeral with rfl | digit
    · exact ⟨rfl, rfl, by decide⟩
    · have other : ∀ d : Char, d.isDigit = false → c ≠ d := by
        rintro d noDigit rfl
        exact absurd digit (by simp [noDigit])
      refine ⟨?_, ?_, other '"' rfl⟩
      · simp [isBlank, other]
      · simp [bracket?, other]
  obtain ⟨noBlank, noBracket, noQuote⟩ := special
  rw [List.cons_append, tokens.eq_def]
  simp only [noBlank, noBracket, if_neg noQuote, if_pos isNumeral, Bool.false_eq_true, if_false]
  split
  · next numeral' after read' =>
    cases read.symm.trans read'
    rfl
  · next absent => cases read.symm.trans absent

/-- A number is one token, whatever its text is read as. -/
theorem tokens_number (number : Number) {rest : List Char} (ends : EndsNumeral rest) :
    tokens (number.text ++ rest)
      = number.reread?.bind fun read => (tokens rest).map (tokensOf read ++ ·) := by
  rcases number.text_cases with null | ⟨numeral, denotes⟩
  · have read : number.reread? = some .null := by rw [Number.reread?, if_pos null]
    rw [read, null]
    exact tokens_word rfl
  · rw [tokens_numeral denotes ends, denotes.reread?, Option.bind_map]
    rfl

/-- What stands behind a value ends a numeral. -/
private theorem endsNumeral_bracket {c : Char} {token : Token} (bracket : bracket? c = some token)
    (rest : List Char) : EndsNumeral (c :: rest) := by
  intro d first
  cases first
  unfold bracket? at bracket
  split at bracket <;> first | decide | cases bracket

mutual
/-- The text of a value has the tokens of what it is read as. -/
theorem tokens_write (value : Value) {rest : List Char} (ends : EndsNumeral rest) :
    tokens (write value ++ rest)
      = value.reread?.bind fun read => (tokens rest).map (tokensOf read ++ ·) := by
  cases value with
  | null => exact tokens_word rfl
  | bool b => cases b <;> exact tokens_word rfl
  | number number => exact tokens_number number ends
  | string s =>
    have read := tokens_quote s.toList rest
    rwa [String.ofList_toList] at read
  -- The brackets are tokens of their own, and the items follow by the same recursion.
  | array items =>
    have shape : write (.array items) ++ rest = '[' :: (writeItems items ++ ']' :: rest) := by
      simp [write]
    rw [shape, tokens_bracket rfl, tokens_writeItems items rest, Value.reread?]
    cases Value.rereadItems? items with
    | none => rfl
    | some read =>
      change ((tokens rest).map _).map _ = (tokens rest).map _
      rw [Option.map_map]
      simp [tokensOf, Function.comp_def]
  | object members =>
    have shape : write (.object members) ++ rest = '{' :: (writeMembers members ++ '}' :: rest) := by
      simp [write]
    rw [shape, tokens_bracket rfl, tokens_writeMembers members rest, Value.reread?]
    cases Value.rereadMembers? members with
    | none => rfl
    | some read =>
      change ((tokens rest).map _).map _ = (tokens rest).map _
      rw [Option.map_map]
      simp [tokensOf, Function.comp_def]

private theorem tokens_writeItems (items : List Value) (rest : List Char) :
    tokens (writeItems items ++ ']' :: rest) = (Value.rereadItems? items).bind fun read =>
      (tokens rest).map (tokensOfItems read ++ .closeArray :: ·) := by
  match items with
  | [] => exact tokens_bracket rfl rest
  | [value] =>
    have close : bracket? ']' = some .closeArray := rfl
    rw [writeItems, tokens_write value (endsNumeral_bracket close rest), tokens_bracket close,
      Value.rereadItems?]
    cases value.reread? with
    | none => rfl
    | some first =>
      change ((tokens rest).map _).map _ = (tokens rest).map _
      rw [Option.map_map]
      rfl
  | value :: next :: more =>
    have comma : bracket? ',' = some .comma := rfl
    have shape : writeItems (value :: next :: more) ++ ']' :: rest
        = write value ++ ',' :: (writeItems (next :: more) ++ ']' :: rest) := by
      simp [writeItems]
    rw [shape, tokens_write value (endsNumeral_bracket comma _), tokens_bracket comma,
      tokens_writeItems (next :: more) rest, Value.rereadItems?_cons value]
    cases value.reread? with
    | none => rfl
    | some first =>
      cases reread : Value.rereadItems? (next :: more) with
      | none => rfl
      -- The items that were read are not empty, so they are parted by a comma again.
      | some others =>
        obtain ⟨second, others, rfl⟩ := Value.exists_cons_of_rereadItems? reread
        change (((tokens rest).map _).map _).map _ = (tokens rest).map _
        rw [Option.map_map, Option.map_map]
        simp [tokensOfItems, Function.comp_def]

private theorem tokens_writeMembers (members : List (String × Value)) (rest : List Char) :
    tokens (writeMembers members ++ '}' :: rest) = (Value.rereadMembers? members).bind fun read =>
      (tokens rest).map (tokensOfMembers read ++ .closeObject :: ·) := by
  match members with
  | [] => exact tokens_bracket rfl rest
  | [(key, value)] =>
    have close : bracket? '}' = some .closeObject := rfl
    have shape : writeMembers [(key, value)] ++ '}' :: rest
        = quote key.toList ++ ':' :: (write value ++ '}' :: rest) := by
      simp [writeMembers]
    rw [shape, tokens_quote, tokens_bracket rfl, tokens_write value (endsNumeral_bracket close rest),
      tokens_bracket close, Value.rereadMembers?]
    -- If the value does not read back, neither side does.
    cases value.reread? with
    | none => rfl
    | some first =>
      change ((((tokens rest).map _).map _).map _).map _ = (tokens rest).map _
      rw [Option.map_map, Option.map_map, Option.map_map]
      simp [tokensOfMembers, Function.comp_def]
  | (key, value) :: next :: more =>
    have comma : bracket? ',' = some .comma := rfl
    have shape : writeMembers ((key, value) :: next :: more) ++ '}' :: rest
        = quote key.toList ++ ':' :: (write value ++ ',' :: (writeMembers (next :: more)
          ++ '}' :: rest)) := by
      simp [writeMembers]
    rw [shape, tokens_quote, tokens_bracket rfl, tokens_write value (endsNumeral_bracket comma _),
      tokens_bracket comma, tokens_writeMembers (next :: more) rest,
      Value.rereadMembers?_cons key value]
    cases value.reread? with
    | none => rfl
    | some first =>
      cases reread : Value.rereadMembers? (next :: more) with
      | none => rfl
      | some others =>
        obtain ⟨second, others, rfl⟩ := Value.exists_cons_of_rereadMembers? reread
        change (((((tokens rest).map _).map _).map _).map _).map _ = (tokens rest).map _
        rw [Option.map_map, Option.map_map, Option.map_map, Option.map_map]
        simp [tokensOfMembers, Function.comp_def]
end

/-! ### Values -/

/-- The first item of an array is read like a later one. -/
private theorem foldlM_firstItem (limit : Nat) (stack : List Frame) {items : List Value}
    (nonempty : items ≠ []) : (tokensOfItems items).foldlM (step limit) (.firstItem stack)
      = (tokensOfItems items).foldlM (step limit) (.value (.array [] :: stack)) := by
  obtain ⟨value, rest, rfl⟩ := List.exists_cons_of_ne_nil nonempty
  have same : ∀ more, (tokensOf value ++ more).foldlM (step limit) (.firstItem stack)
      = (tokensOf value ++ more).foldlM (step limit) (.value (.array [] :: stack)) := by
    cases value <;> exact fun _ => rfl
  cases rest with
  | nil => simpa [tokensOfItems] using same []
  | cons next rest => exact same _

/-- The first member of an object is read like a later one. -/
private theorem foldlM_firstKey (limit : Nat) (stack : List Frame) {members : List (String × Value)}
    (nonempty : members ≠ []) : (tokensOfMembers members).foldlM (step limit) (.firstKey stack)
      = (tokensOfMembers members).foldlM (step limit) (.key [] stack) := by
  obtain ⟨member, rest, rfl⟩ := List.exists_cons_of_ne_nil nonempty
  cases rest <;> rfl

mutual
/-- The tokens of a value are put together to the value. -/
theorem foldlM_tokensOf (limit : Nat) (value : Value) (stack : List Frame)
    (fits : stack.length + value.depth ≤ limit) :
    (tokensOf value).foldlM (step limit) (.value stack) = some (place value stack) := by
  cases value with
  | null | bool | number | string => rfl
  | array items =>
    -- The bracket takes one level of the limit, and the items are one level less deep.
    rw [Value.depth] at fits
    have room : stack.length < limit := by omega
    have opened : step limit (.value stack) .openArray = some (.firstItem stack) := if_pos room
    rw [tokensOf, List.cons_append, List.foldlM_cons, opened]
    change (tokensOfItems items ++ [Token.closeArray]).foldlM (step limit) (.firstItem stack) = _
    by_cases empty : items = []
    · subst empty
      rfl
    · rw [List.foldlM_append, foldlM_firstItem limit stack empty,
        foldlM_tokensOfItems limit items empty [] stack (by omega)]
      simp [step]
  | object members =>
    rw [Value.depth] at fits
    have room : stack.length < limit := by omega
    have opened : step limit (.value stack) .openObject = some (.firstKey stack) := if_pos room
    rw [tokensOf, List.cons_append, List.foldlM_cons, opened]
    change (tokensOfMembers members ++ [Token.closeObject]).foldlM (step limit) (.firstKey stack) = _
    by_cases empty : members = []
    · subst empty
      rfl
    · obtain ⟨key, read⟩ := foldlM_tokensOfMembers limit members empty [] stack (by omega)
      rw [List.foldlM_append, foldlM_firstKey limit stack empty, read]
      simp [step]

private theorem foldlM_tokensOfItems (limit : Nat) (items : List Value) (nonempty : items ≠ [])
    (done : List Value) (stack : List Frame)
    (fits : stack.length + 1 + Value.depthOfItems items ≤ limit) :
    (tokensOfItems items).foldlM (step limit) (.value (.array done :: stack))
      = some (.next (.array (items.reverse ++ done)) stack) := by
  match items with
  | value :: rest =>
    rw [Value.depthOfItems] at fits
    have first := foldlM_tokensOf limit value (.array done :: stack) (by rw [List.length_cons]; omega)
    cases rest with
    | nil => exact first
    | cons next rest =>
      have later := foldlM_tokensOfItems limit (next :: rest) (by simp) (value :: done) stack
        (by omega)
      rw [tokensOfItems, List.foldlM_append, first]
      change (tokensOfItems (next :: rest)).foldlM (step limit)
        (.value (.array (value :: done) :: stack)) = _
      rw [later]
      simp

private theorem foldlM_tokensOfMembers (limit : Nat) (members : List (String × Value))
    (nonempty : members ≠ []) (done : List (String × Value)) (stack : List Frame)
    (fits : stack.length + 1 + Value.depthOfMembers members ≤ limit) :
    ∃ key, (tokensOfMembers members).foldlM (step limit) (.key done stack)
      = some (.next (.object (members.reverse ++ done) key) stack) := by
  match members with
  | (key, value) :: rest =>
    rw [Value.depthOfMembers] at fits
    have first := foldlM_tokensOf limit value (.object done key :: stack)
      (by rw [List.length_cons]; omega)
    cases rest with
    | nil => exact ⟨key, first⟩
    | cons next rest =>
      obtain ⟨last, later⟩ :=
        foldlM_tokensOfMembers limit (next :: rest) (by simp) ((key, value) :: done) stack (by omega)
      refine ⟨last, ?_⟩
      change (tokensOf value ++ .comma :: tokensOfMembers (next :: rest)).foldlM (step limit)
        (.value (.object done key :: stack)) = _
      rw [List.foldlM_append, first]
      change (tokensOfMembers (next :: rest)).foldlM (step limit) (.key ((key, value) :: done) stack)
        = _
      rw [later]
      simp
end

mutual
/-- Numbers are no deeper when they are read again. -/
theorem depth_of_reread? {value read : Value} (reread : value.reread? = some read) :
    read.depth = value.depth := by
  cases value with
  | null | bool | string =>
    cases reread
    rfl
  | number number =>
    rw [Value.reread?, Number.reread?] at reread
    split at reread
    · cases reread
      rfl
    · obtain ⟨parts, -, reread⟩ := Option.bind_eq_some_iff.mp reread
      obtain ⟨number', -, rfl⟩ := Option.map_eq_some_iff.mp reread
      rfl
  | array items =>
    obtain ⟨others, inner, rfl⟩ := Option.map_eq_some_iff.mp reread
    rw [Value.depth, Value.depth, depthOfItems_of_reread? inner]
  | object members =>
    obtain ⟨others, inner, rfl⟩ := Option.map_eq_some_iff.mp reread
    rw [Value.depth, Value.depth, depthOfMembers_of_reread? inner]

private theorem depthOfItems_of_reread? {items read : List Value}
    (reread : Value.rereadItems? items = some read) :
    Value.depthOfItems read = Value.depthOfItems items := by
  cases items with
  | nil =>
    cases reread
    rfl
  | cons value rest =>
    obtain ⟨first, here, reread⟩ := Option.bind_eq_some_iff.mp reread
    obtain ⟨others, later, same⟩ := Option.bind_eq_some_iff.mp reread
    cases same
    rw [Value.depthOfItems, Value.depthOfItems, depth_of_reread? here, depthOfItems_of_reread? later]

private theorem depthOfMembers_of_reread? {members read : List (String × Value)}
    (reread : Value.rereadMembers? members = some read) :
    Value.depthOfMembers read = Value.depthOfMembers members := by
  cases members with
  | nil =>
    cases reread
    rfl
  | cons member rest =>
    obtain ⟨key, value⟩ := member
    obtain ⟨first, here, reread⟩ := Option.bind_eq_some_iff.mp reread
    obtain ⟨others, later, same⟩ := Option.bind_eq_some_iff.mp reread
    cases same
    rw [Value.depthOfMembers, Value.depthOfMembers, depth_of_reread? here,
      depthOfMembers_of_reread? later]
end

private theorem tokens_text (value : Value) : tokens
    (write value) = value.reread?.map tokensOf := by
  have whole := tokens_write value endsNumeral_nil
  rw [List.append_nil] at whole
  rw [whole]
  cases value.reread? <;> simp [tokens]

/-- A value that is not nested too deep is read from its text, with its numbers read again. -/
theorem read_text_eq {value : Value} (shallow : value.depth ≤ depthLimit) :
    read (text value) = value.reread? := by
  rw [read, text, String.toList_ofList, readWithin, tokens_text]
  cases reread : value.reread? with
  | none => rfl
  | some other =>
    have fits : ([] : List Frame).length + other.depth ≤ depthLimit := by
      rw [depth_of_reread? reread]
      simpa using shallow
    change ((tokensOf other).foldlM (step depthLimit) (.value []) >>= _) = _
    rw [foldlM_tokensOf depthLimit other [] fits]
    rfl

/-! ### Values that are nested deeper -/

/-- With a higher limit a token does what it did. -/
theorem step_of_le {limit higher : Nat} (le : limit ≤ higher) {expect next : Expect} {token : Token}
    (stepped : step limit expect token = some next) : step higher expect token = some next := by
  have begins {stack : List Frame} {token : Token} {next : Expect}
      (begun : begin? limit stack token = some next) : begin? higher stack token = some next := by
    unfold begin? at begun ⊢
    split at begun
    · exact begun
    all_goals
      first
      | cases begun
      | split at begun
        · next room =>
          rw [if_pos (by omega)]
          exact begun
        · cases begun
  unfold step at stepped ⊢
  split at stepped <;> first | exact begins stepped | exact stepped

private theorem foldlM_of_le {limit higher : Nat} (le : limit ≤ higher) {expect last : Expect}
    {tokens : List Token} (ran : tokens.foldlM (step limit) expect = some last) :
    tokens.foldlM (step higher) expect = some last := by
  induction tokens generalizing expect with
  | nil => exact ran
  | cons token rest ih =>
    rw [List.foldlM_cons] at ran ⊢
    obtain ⟨next, stepped, ran⟩ := Option.bind_eq_some_iff.mp ran
    rw [step_of_le le stepped]
    exact ih ran

/-- However deep a value is nested, what is read from its text is the value with its numbers
read again. -/
theorem reread?_of_read_text {value other : Value} (found : read (text value) = some other) :
    value.reread? = some other := by
  rw [read, text, String.toList_ofList, readWithin, tokens_text] at found
  obtain ⟨tokens, written, found⟩ := Option.bind_eq_some_iff.mp found
  obtain ⟨read, reread, rfl⟩ := Option.map_eq_some_iff.mp written
  obtain ⟨last, ran, found⟩ := Option.bind_eq_some_iff.mp found
  have fits : ([] : List Frame).length + read.depth ≤ max depthLimit read.depth := by
    rw [List.length_nil]
    omega
  have deep := foldlM_of_le (Nat.le_max_left depthLimit read.depth) ran
  rw [foldlM_tokensOf _ read [] fits] at deep
  cases deep
  cases found
  exact reread

/-! ### Numbers that read back -/

mutual
theorem Value.reread?_of_readsBack {value : Value}
    (readBack : ∀ number ∈ value.numbers, number.ReadsBack) : value.reread? = some value := by
  cases value with
  | null | bool | string => rfl
  | number number => exact readBack number (List.mem_singleton_self number)
  | array items =>
    rw [Value.reread?, Value.rereadItems?_of_readsBack readBack]
    rfl
  | object members =>
    rw [Value.reread?, Value.rereadMembers?_of_readsBack readBack]
    rfl

theorem Value.rereadItems?_of_readsBack {items : List Value}
    (readBack : ∀ number ∈ Value.numbersOfItems items, number.ReadsBack) :
    Value.rereadItems? items = some items := by
  cases items with
  | nil => rfl
  | cons value rest =>
    have first : value.reread? = some value := Value.reread?_of_readsBack
      fun number member => readBack number (List.mem_append_left _ member)
    have later : Value.rereadItems? rest = some rest := Value.rereadItems?_of_readsBack
      fun number member => readBack number (List.mem_append_right _ member)
    rw [Value.rereadItems?, first, later]
    rfl

private theorem Value.rereadMembers?_of_readsBack {members : List (String × Value)}
    (readBack : ∀ number ∈ Value.numbersOfMembers members, number.ReadsBack) :
    Value.rereadMembers? members = some members := by
  cases members with
  | nil => rfl
  | cons member rest =>
    obtain ⟨key, value⟩ := member
    have first : value.reread? = some value := Value.reread?_of_readsBack
      fun number member => readBack number (List.mem_append_left _ member)
    have later : Value.rereadMembers? rest = some rest := Value.rereadMembers?_of_readsBack
      fun number member => readBack number (List.mem_append_right _ member)
    rw [Value.rereadMembers?, first, later]
    rfl
end

/-- A value that is not nested too deep is read back from its text. -/
theorem read_text {value : Value} (readBack : ∀ number ∈ value.numbers, number.ReadsBack)
    (shallow : value.depth ≤ depthLimit) : read (text value) = some value := by
  rw [read_text_eq shallow, Value.reread?_of_readsBack readBack]

end Json

end Stencil
