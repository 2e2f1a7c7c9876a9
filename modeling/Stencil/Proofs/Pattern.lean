import Mathlib.Tactic.TFAE
import Stencil.Pattern
import Stencil.Proofs.Text

/-!
# Patterns between delimiters

Which expression a pattern stands for (`Reading`). It is found where the pattern is cut at its
last delimiter, and every byte offset at which it is cut (`slicedText?`) lies between two
characters.
-/
namespace Stencil

namespace Text

variable {c : Char} {text before behind : List Char} {offset : Nat}

/-! ### Cuts at byte offsets -/

/-- What lies before a byte offset of a text and behind it. No text is cut inside a character, or
behind its end. -/
def cutAt? : Nat → List Char → Option (List Char × List Char)
  | 0, text => some ([], text)
  | _ + 1, [] => none
  | offset + 1, c :: text =>
    if c.utf8Size ≤ offset + 1 then
      (cutAt? (offset + 1 - c.utf8Size) text).map fun (before, behind) => (c :: before, behind)
    else none

/-- The byte offset of the last occurrence of a character. -/
def lastOffset? (c : Char) : List Char → Option Nat
  | [] => none
  | d :: text =>
    match lastOffset? c text with
    | some offset => some (d.utf8Size + offset)
    | none => if d = c then some 0 else none

private theorem cutAt?_append (before behind : List Char) :
    cutAt? (byteSize before) (before ++ behind) = some (before, behind) := by
  induction before with
  | nil => cases behind <;> rfl
  | cons c before ih =>
    -- No character is empty, so the cut is not at the start.
    obtain ⟨size, isSucc⟩ := Nat.exists_eq_add_one.mpr c.utf8Size_pos
    have offset : byteSize (c :: before) = size + byteSize before + 1 := by
      rw [byteSize, isSucc]
      omega
    have fits : c.utf8Size ≤ size + byteSize before + 1 := by omega
    have left : size + byteSize before + 1 - c.utf8Size = byteSize before := by omega
    rw [offset, List.cons_append, cutAt?, if_pos fits, left, ih]
    rfl

private theorem cutAt?_eq_some_iff :
    cutAt? offset text = some (before, behind) ↔
      text = before ++ behind ∧ offset = byteSize before := by
  constructor
  · intro cut
    fun_induction cutAt? offset text generalizing before with
    | case1 text =>
      cases cut
      exact ⟨rfl, rfl⟩
    | case2 => cases cut
    | case3 offset c text fits ih =>
      obtain ⟨⟨front, _⟩, later, same⟩ := Option.map_eq_some_iff.mp cut
      cases same
      obtain ⟨rfl, size⟩ := ih later
      refine ⟨rfl, ?_⟩
      rw [byteSize]
      omega
    | case4 => cases cut
  · rintro ⟨rfl, rfl⟩
    exact cutAt?_append before behind

private theorem cutAt?_cons (c : Char) (text : List Char) :
    cutAt? c.utf8Size (c :: text) = some ([c], text) :=
  cutAt?_append [c] text

private theorem cutAt?_append_cons (before : List Char) (c : Char) (behind : List Char) :
    cutAt? (byteSize before + c.utf8Size) (before ++ c :: behind)
      = some (before ++ [c], behind) := by
  rw [cutAt?_eq_some_iff, byteSize_append, List.append_assoc]
  exact ⟨rfl, rfl⟩

private theorem lastOffset?_of_not_mem (absent : c ∉ text) : lastOffset? c text = none := by
  induction text with
  | nil => rfl
  | cons d text ih =>
    rw [List.mem_cons, not_or] at absent
    rw [lastOffset?, ih absent.2]
    exact if_neg (Ne.symm absent.1)

private theorem lastOffset?_append (before : List Char) (last : c ∉ behind) :
    lastOffset? c (before ++ c :: behind) = some (byteSize before) := by
  induction before with
  | nil =>
    rw [List.nil_append, lastOffset?, lastOffset?_of_not_mem last]
    exact if_pos rfl
  | cons d before ih => rw [List.cons_append, lastOffset?, ih, byteSize]

end Text

namespace Pattern

variable {c opening closes : Char} {text before behind body tail pattern expression : List Char}

/-! ### The last occurrence -/

private theorem splitAtLast_append (before : List Char) (last : c ∉ behind) :
    splitAtLast c (before ++ c :: behind) = some (before, behind) := by
  have reversed : (before ++ c :: behind).reverse = behind.reverse ++ c :: before.reverse := by
    simp
  rw [← List.mem_reverse] at last
  rw [splitAtLast, reversed, Text.dropWhile_ne_append last, Text.takeWhile_ne_append last,
    List.reverse_reverse]
  exact congrArg (fun front => some (front, behind)) (List.reverse_reverse before)

private theorem splitAtLast_of_not_mem (absent : c ∉ text) : splitAtLast c text = none := by
  rw [← List.mem_reverse] at absent
  rw [splitAtLast, Text.dropWhile_ne_eq_nil absent]

/-- What occurs in a text occurs a last time. -/
theorem exists_last_of_mem (present : c ∈ text) :
    ∃ before behind, text = before ++ c :: behind ∧ c ∉ behind := by
  -- The last occurrence is the first one of the reversed text.
  obtain ⟨after, front, reversed, last⟩ :=
    List.eq_append_cons_of_mem (List.mem_reverse.mpr present)
  refine ⟨front.reverse, after.reverse, ?_, fun member => last (List.mem_reverse.mp member)⟩
  rw [← List.reverse_reverse text, reversed]
  simp

/-! ### Delimiters and flags -/

/-- That a character can stand in front of an expression as a delimiter. -/
structure CanDelimit (c : Char) : Prop where
  not_alphanumeric : Unicode.isAlphanumeric c = false
  not_blank : Text.isBlank c = false
  not_special : c ∉ ['\\', '^', '(', '[']

/-- Braces and angle brackets come in pairs. Any other delimiter stands at both ends. -/
inductive ClosedBy : Char → Char → Prop where
  | brace : ClosedBy '{' '}'
  | angle : ClosedBy '<' '>'
  | same {c : Char} : c ≠ '{' → c ≠ '<' → ClosedBy c c

/-- What counts behind the closing delimiter. -/
def flagLetters : List Char := ['i', 'm', 's', 'x', 'U']

private theorem isDelimiter_iff : isDelimiter c ↔ CanDelimit c := by
  constructor
  · intro delimits
    simp only [isDelimiter, Bool.and_eq_true, Bool.not_eq_true', bne_iff_ne] at delimits
    obtain ⟨⟨⟨⟨⟨noLetter, noBlank⟩, noEscape⟩, noStart⟩, noGroup⟩, noClass⟩ := delimits
    exact ⟨noLetter, noBlank, by simp [noEscape, noStart, noGroup, noClass]⟩
  · rintro ⟨noLetter, noBlank, plain⟩
    simp only [List.mem_cons, List.not_mem_nil, or_false, not_or] at plain
    simp [isDelimiter, noLetter, noBlank, plain]

private theorem closedBy_iff : ClosedBy opening closes ↔ closes = closing opening := by
  constructor
  · rintro (_ | _ | ⟨noBrace, noAngle⟩)
    · rfl
    · rfl
    · exact (closing.eq_3 opening noBrace noAngle).symm
  · rintro rfl
    unfold closing
    split
    · exact .brace
    · exact .angle
    · next noBrace noAngle => exact .same noBrace noAngle

private theorem closedBy_closing (opening : Char) : ClosedBy opening (closing opening) :=
  closedBy_iff.mpr rfl

private theorem filter_isFlag (tail : List Char) : tail.filter isFlag = tail.filter
    (· ∈ flagLetters) := by
  refine List.filter_congr fun c _ => ?_
  rw [Bool.eq_iff_iff]
  simp [isFlag, flagLetters, or_assoc]

/-! ### Cutting a pattern -/

/-- An expression with flags in front of it. -/
def withFlags (flags body : List Char) : List Char :=
  if flags.isEmpty then body else '(' :: '?' :: flags ++ ')' :: body

/-- The expression of a pattern that is cut at byte offsets: behind its first delimiter, before the
last one and behind that. There is none if a cut would go through a character. -/
def slicedText? : List Char → Option (List Char)
  | [] => some []
  | c :: text =>
    if isDelimiter c then do
      let (_, rest) ← Text.cutAt? c.utf8Size (c :: text)
      match Text.lastOffset? (closing c) rest with
      | some stop =>
        let (_, tail) ← Text.cutAt? (stop + (closing c).utf8Size) rest
        let (body, _) ← Text.cutAt? stop rest
        return withFlags (tail.filter isFlag) body
      | none => return c :: text
    else some (c :: text)

/-- A pattern is closed by its last delimiter, or it is not closed, or it has no delimiter. -/
theorem pattern_cases {P : List Char → Prop}
    (enclosed : ∀ opening body tail, isDelimiter opening → closing opening ∉ tail →
      P (opening :: (body ++ closing opening :: tail)))
    (unclosed : ∀ opening rest, isDelimiter opening → closing opening ∉ rest → P (opening :: rest))
    (bare : ∀ text, (∀ c ∈ text.head?, isDelimiter c = false) → P text) (pattern : List Char) :
    P pattern := by
  cases pattern with
  | nil => exact bare [] (by simp)
  | cons opening rest =>
    cases delimits : isDelimiter opening with
    | true =>
      by_cases present : closing opening ∈ rest
      · obtain ⟨body, tail, rfl, last⟩ := exists_last_of_mem present
        exact enclosed opening body tail delimits last
      · exact unclosed opening rest delimits present
    | false => exact bare (opening :: rest) (by simpa using delimits)

private theorem expressionText_enclosed (delimits : isDelimiter opening)
    (last : closing opening ∉ tail) : expressionText (opening :: (body ++ closing opening :: tail))
      = withFlags (tail.filter isFlag) body := by
  rw [expressionText, if_pos delimits, splitAtLast_append body last]
  rfl

private theorem expressionText_unclosed (absent : closing opening ∉ text) :
    expressionText (opening :: text) = opening :: text := by
  rw [expressionText, splitAtLast_of_not_mem absent]
  exact ite_self _

private theorem expressionText_bare (bare : ∀ c ∈ text.head?, isDelimiter c = false) :
    expressionText text = text := by
  cases text with
  | nil => rfl
  | cons c text =>
    rw [expressionText, bare c rfl]
    rfl

private theorem slicedText?_enclosed (delimits : isDelimiter opening)
    (last : closing opening ∉ tail) : slicedText? (opening :: (body ++ closing opening :: tail))
      = some (withFlags (tail.filter isFlag) body) := by
  rw [slicedText?, if_pos delimits, Text.cutAt?_cons]
  simp only [Option.bind_eq_bind, Option.bind_some, Text.lastOffset?_append body last,
    Text.cutAt?_append_cons, Text.cutAt?_append, Option.pure_def]

private theorem slicedText?_unclosed (absent : closing opening ∉ text) :
    slicedText? (opening :: text) = some (opening :: text) := by
  rw [slicedText?, Text.cutAt?_cons]
  simp only [Option.bind_eq_bind, Option.bind_some, Text.lastOffset?_of_not_mem absent,
    Option.pure_def, ite_self]

private theorem slicedText?_bare (bare : ∀ c ∈ text.head?, isDelimiter c = false) :
    slicedText? text = some text := by
  cases text with
  | nil => rfl
  | cons c text =>
    rw [slicedText?, bare c rfl]
    rfl

private theorem slicedText?_eq (pattern : List Char) :
    slicedText? pattern = some (expressionText pattern) := by
  cases pattern using pattern_cases with
  | enclosed opening body tail delimits last =>
    rw [slicedText?_enclosed delimits last, expressionText_enclosed delimits last]
  | unclosed opening rest delimits absent =>
    rw [slicedText?_unclosed absent, expressionText_unclosed absent]
  | bare text bare => rw [slicedText?_bare bare, expressionText_bare bare]

/-! ### The expression of a pattern -/

/-- The expression a pattern stands for. Between delimiters it reaches to the last closing one, and
the flags behind that stand in front of it as a group. -/
inductive Reading : (pattern expression : List Char) → Prop where
  | plain {opening closes : Char} {body tail : List Char} : CanDelimit opening →
      ClosedBy opening closes → closes ∉ tail → (∀ c ∈ tail, c ∉ flagLetters) →
      Reading (opening :: (body ++ closes :: tail)) body
  | flagged {opening closes : Char} {body tail : List Char} : CanDelimit opening →
      ClosedBy opening closes → closes ∉ tail → (∃ c ∈ tail, c ∈ flagLetters) →
      Reading (opening :: (body ++ closes :: tail))
        ('(' :: '?' :: tail.filter (· ∈ flagLetters) ++ ')' :: body)
  | unclosed {opening closes : Char} {rest : List Char} : CanDelimit opening →
      ClosedBy opening closes → closes ∉ rest → Reading (opening :: rest) (opening :: rest)
  | bare {text : List Char} : (∀ c ∈ text.head?, ¬ CanDelimit c) → Reading text text

private theorem withFlags_of_forall (noFlag : ∀ c ∈ tail, c ∉ flagLetters) :
    withFlags (tail.filter isFlag) body = body := by
  have empty : tail.filter (· ∈ flagLetters) = [] := by simpa using noFlag
  rw [filter_isFlag, empty]
  rfl

private theorem withFlags_of_exists (hasFlag : ∃ c ∈ tail, c ∈ flagLetters) :
    withFlags (tail.filter isFlag) body
      = '(' :: '?' :: tail.filter (· ∈ flagLetters) ++ ')' :: body := by
  have filled : (tail.filter (· ∈ flagLetters)).isEmpty = false := by simpa using hasFlag
  rw [filter_isFlag, withFlags, filled]
  rfl

private theorem Reading.expressionText_eq (reading : Reading pattern expression) :
    expressionText pattern = expression := by
  cases reading with
  | plain delimits closed last noFlag =>
    obtain rfl := closedBy_iff.mp closed
    rw [expressionText_enclosed (isDelimiter_iff.mpr delimits) last, withFlags_of_forall noFlag]
  | flagged delimits closed last hasFlag =>
    obtain rfl := closedBy_iff.mp closed
    rw [expressionText_enclosed (isDelimiter_iff.mpr delimits) last, withFlags_of_exists hasFlag]
  | unclosed _ closed absent =>
    obtain rfl := closedBy_iff.mp closed
    exact expressionText_unclosed absent
  | bare bare =>
    refine expressionText_bare fun c first => ?_
    rw [Bool.eq_false_iff, ne_eq, isDelimiter_iff]
    exact bare c first

private theorem reading_expressionText (pattern : List Char) :
    Reading pattern (expressionText pattern) := by
  cases pattern using pattern_cases with
  | enclosed opening body tail delimits last =>
    have opens := isDelimiter_iff.mp delimits
    rw [expressionText_enclosed delimits last]
    by_cases hasFlag : ∃ c ∈ tail, c ∈ flagLetters
    · rw [withFlags_of_exists hasFlag]
      exact .flagged opens (closedBy_closing opening) last hasFlag
    · have noFlag : ∀ c ∈ tail, c ∉ flagLetters := fun c member flag =>
        hasFlag ⟨c, member, flag⟩
      rw [withFlags_of_forall noFlag]
      exact .plain opens (closedBy_closing opening) last noFlag
  | unclosed opening rest delimits absent =>
    rw [expressionText_unclosed absent]
    exact .unclosed (isDelimiter_iff.mp delimits) (closedBy_closing opening) absent
  | bare text bare =>
    rw [expressionText_bare bare]
    refine .bare fun c first opens => ?_
    rw [← isDelimiter_iff, bare c first] at opens
    cases opens

/-- A pattern has one reading, which is the expression it stands for, and cutting it at byte
offsets leads there without cutting a character in two. -/
theorem expressionText_tfae (pattern expression : List Char) :
    [Reading pattern expression, expressionText pattern = expression,
      slicedText? pattern = some expression].TFAE := by
  tfae_have 1 → 2 := Reading.expressionText_eq
  tfae_have 2 → 1 := by
    rintro rfl
    exact reading_expressionText pattern
  tfae_have 2 ↔ 3 := by rw [slicedText?_eq, Option.some.injEq]
  tfae_finish

/-- The closing delimiter may stand in the expression too, and only flags count behind it. -/
example : expressionText "<é>x>ixei".toList = "(?ixi)é>x".toList := by decide

end Pattern

end Stencil
