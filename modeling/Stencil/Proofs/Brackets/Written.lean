import Stencil.Proofs.Brackets.Cut
import Stencil.Proofs.Text

/-!
# Written option lists

Options that are written in brackets, one behind the other, are read back as they are, whatever
text without an opening bracket stands around them.
-/
namespace Stencil

namespace Text

private theorem trimRight_append_blanks {right : List Char} (blank : ∀ c ∈ right, isBlank c)
    (text : List Char) : trimRight (text ++ right) = trimRight text := by
  rw [trimRight, trimRight, List.reverse_append, List.dropWhile_append_of_pos]
  intro c member
  exact blank c (List.mem_reverse.mp member)

/-- Blanks around a text do not count. -/
private theorem trim_between_blanks {left right : List Char} (before : ∀ c ∈ left, isBlank c)
    (behind : ∀ c ∈ right, isBlank c) (text : List Char) :
    trim (left ++ text ++ right) = trim text := by
  rw [trim, trim, trimLeft, trimLeft, List.append_assoc, List.dropWhile_append_of_pos before,
    List.dropWhile_append]
  split
  · next none =>
    have nothing : right.dropWhile isBlank = [] := List.dropWhile_eq_nil_iff.mpr behind
    rw [nothing, List.isEmpty_iff.mp none]
  · exact trimRight_append_blanks behind _

end Text

namespace SelectOption

/-- That an option can stand in brackets: its parts begin and end without a blank, none of them
closes the bracket or ends the title, and they are not both empty. -/
structure Plain (option : SelectOption) : Prop where
  title_trimmed : Text.trim option.title.toList = option.title.toList
  value_trimmed : Text.trim option.value.toList = option.value.toList
  title_unclosed : ']' ∉ option.title.toList
  value_unclosed : ']' ∉ option.value.toList
  title_whole : ',' ∉ option.title.toList
  filled : option.title ≠ "" ∨ option.value ≠ ""

/-- What can stand in brackets for an option. Blanks around the parts do not count. If the title is
the value and has no comma in it, the value alone is enough. -/
inductive Written (option : SelectOption) : List Char → Prop where
  | parted {a b c d : List Char} : (∀ x ∈ a ++ b ++ c ++ d, Text.isBlank x) →
      Written option
        (a ++ option.title.toList ++ b ++ ',' :: (c ++ option.value.toList ++ d))
  | single {a b : List Char} : (∀ x ∈ a ++ b, Text.isBlank x) → option.title = option.value →
      ',' ∉ option.value.toList → Written option (a ++ option.value.toList ++ b)

variable {option : SelectOption} {inner : List Char}

private theorem not_isEmpty_of_plain (plain : option.Plain) : option.isEmpty = false := by
  rw [isEmpty, Bool.and_eq_false_iff, Bool.eq_false_iff, Bool.eq_false_iff]
  simpa using plain.filled

/-- Up to its first comma, what stands in a bracket is the title. -/
private theorem ofInner_comma {title : List Char} (whole : ',' ∉ title) (value : List Char) :
    ofInner (title ++ ',' :: value)
      = ⟨String.ofList (Text.trim title), String.ofList (Text.trim value)⟩ := by
  rw [ofInner, Text.takeWhile_ne_append whole, Text.dropWhile_ne_append whole]

private theorem ofInner_whole (whole : ',' ∉ inner) :
    ofInner inner = ⟨String.ofList (Text.trim inner), String.ofList (Text.trim inner)⟩ := by
  rw [ofInner, Text.dropWhile_ne_eq_nil whole]

private theorem comma_not_mem_of_blank {text : List Char} (blank : ∀ c ∈ text, Text.isBlank c) :
    ',' ∉ text := by
  intro member
  exact absurd (blank ',' member) (by decide)

private theorem closing_not_mem_of_blank {text : List Char} (blank : ∀ c ∈ text, Text.isBlank c) :
    ']' ∉ text := by
  intro member
  exact absurd (blank ']' member) (by decide)

private theorem Written.ofInner_eq (written : option.Written inner) (plain : option.Plain) :
    ofInner inner = option := by
  cases written with
  | @parted a b c d blank =>
    simp only [List.forall_mem_append] at blank
    obtain ⟨⟨⟨blankA, blankB⟩, blankC⟩, blankD⟩ := blank
    -- The first comma is the one between the title and the value.
    have whole : ',' ∉ a ++ option.title.toList ++ b := by
      simp only [List.mem_append, not_or]
      exact ⟨⟨comma_not_mem_of_blank blankA, plain.title_whole⟩, comma_not_mem_of_blank blankB⟩
    rw [ofInner_comma whole, Text.trim_between_blanks blankA blankB,
      Text.trim_between_blanks blankC blankD, plain.title_trimmed, plain.value_trimmed,
      String.ofList_toList, String.ofList_toList]
  | @single a b blank same noComma =>
    rw [List.forall_mem_append] at blank
    have whole : ',' ∉ a ++ option.value.toList ++ b := by
      simp only [List.mem_append, not_or]
      exact ⟨⟨comma_not_mem_of_blank blank.1, noComma⟩, comma_not_mem_of_blank blank.2⟩
    rw [ofInner_whole whole, Text.trim_between_blanks blank.1 blank.2, plain.value_trimmed,
      String.ofList_toList]
    cases option
    cases same
    rfl

theorem Written.unclosed (written : option.Written inner) (plain : option.Plain) :
    ']' ∉ inner := by
  cases written with
  | parted blank =>
    simp only [List.forall_mem_append] at blank
    obtain ⟨⟨⟨blankA, blankB⟩, blankC⟩, blankD⟩ := blank
    simp [plain.title_unclosed, plain.value_unclosed, closing_not_mem_of_blank blankA,
      closing_not_mem_of_blank blankB, closing_not_mem_of_blank blankC,
      closing_not_mem_of_blank blankD]
  | single blank =>
    rw [List.forall_mem_append] at blank
    simp [plain.value_unclosed, closing_not_mem_of_blank blank.1, closing_not_mem_of_blank blank.2]

end SelectOption

/-- A text that lists options: each in its bracket, with text that opens no bracket between and
around them. -/
inductive OptionList : List SelectOption → List Char → Prop where
  | done {gap : List Char} : '[' ∉ gap → OptionList [] gap
  | next {gap inner rest : List Char} {option : SelectOption} {options : List SelectOption} :
      '[' ∉ gap → option.Written inner → OptionList options rest →
      OptionList (option :: options) (gap ++ '[' :: (inner ++ ']' :: rest))

/-- Text that opens no bracket has none in it. -/
private theorem innersFrom_gap {gap : List Char} (plain : '[' ∉ gap) (rest : List Char) :
    innersFrom none (gap ++ rest) = innersFrom none rest := by
  induction gap with
  | nil => rfl
  | cons c gap ih =>
    rw [List.mem_cons, not_or] at plain
    rw [List.cons_append, innersFrom_none_cons, if_neg (Ne.symm plain.1), ih plain.2]

private theorem innersFrom_bracket {gap inner : List Char}
    (plain : '[' ∉ gap) (inside : ']' ∉ inner) (rest : List Char) :
    innersFrom none (gap ++ '[' :: (inner ++ ']' :: rest)) = inner :: innersFrom none rest := by
  rw [innersFrom_gap plain, innersFrom_none_cons, if_pos rfl, innersFrom_some_closed inside]
  rfl

private theorem parseOptions_eq (text : List Char) :
    parseOptions text
      = ((innersFrom none text).map SelectOption.ofInner).filter fun option => !option.isEmpty := by
  rw [parseOptions, innersFrom, List.map_map]
  rfl

/-- A list of options that is written in brackets is read back as it is. -/
theorem parseOptions_written {options : List SelectOption} {text : List Char}
    (plain : ∀ option ∈ options, option.Plain) (written : OptionList options text) :
    parseOptions text = options := by
  rw [parseOptions_eq]
  induction written with
  | done noBracket =>
    have none := innersFrom_gap noBracket []
    rw [List.append_nil] at none
    rw [none]
    rfl
  | @next gap inner rest option options noBracket here later ih =>
    obtain ⟨plainHere, plainLater⟩ := List.forall_mem_cons.mp plain
    have filled := SelectOption.not_isEmpty_of_plain plainHere
    rw [innersFrom_bracket noBracket (here.unclosed plainHere), List.map_cons,
      here.ofInner_eq plainHere, List.filter_cons, filled, ih plainLater]
    rfl

/-- A title with an opening bracket, a value with commas, an empty title, and a value that stands
for its title. -/
theorem parseOptions_written_mixed :
    let options : List SelectOption := [⟨"a[b", "c,d"⟩, ⟨"", "e"⟩, ⟨"F g", "F g"⟩]
    (∀ option ∈ options, option.Plain) ∧
      OptionList options "x] [a[b , c,d]\n[,e],[ F g] ]".toList ∧
      parseOptions "x] [a[b , c,d]\n[,e],[ F g] ]".toList = options := by
  have plain : ∀ option ∈ [⟨"a[b", "c,d"⟩, ⟨"", "e"⟩, (⟨"F g", "F g"⟩ : SelectOption)],
      option.Plain := by
    simp only [List.forall_mem_cons]
    refine ⟨⟨?_, ?_, ?_, ?_, ?_, ?_⟩, ⟨?_, ?_, ?_, ?_, ?_, ?_⟩, ⟨?_, ?_, ?_, ?_, ?_, ?_⟩,
      List.forall_mem_nil _⟩ <;> decide
  have single : SelectOption.Written ⟨"F g", "F g"⟩ " F g".toList :=
    .single (a := [' ']) (b := []) (List.all_eq_true.mp (by decide)) rfl (by decide)
  have untitled : SelectOption.Written ⟨"", "e"⟩ ",e".toList :=
    .parted (a := []) (b := []) (c := []) (d := []) (List.all_eq_true.mp (by decide))
  have spaced : SelectOption.Written ⟨"a[b", "c,d"⟩ "a[b , c,d".toList :=
    .parted (a := []) (b := [' ']) (c := [' ']) (d := []) (List.all_eq_true.mp (by decide))
  have third : OptionList [⟨"F g", "F g"⟩] ([','] ++ '[' :: (" F g".toList ++ ']' :: " ]".toList)) :=
    .next (by decide) single (.done (by decide))
  have second : OptionList [⟨"", "e"⟩, ⟨"F g", "F g"⟩]
      (['\n'] ++ '[' :: (",e".toList ++ ']' :: ",[ F g] ]".toList)) :=
    .next (by decide) untitled third
  have first : OptionList [⟨"a[b", "c,d"⟩, ⟨"", "e"⟩, ⟨"F g", "F g"⟩]
      ("x] ".toList ++ '[' :: ("a[b , c,d".toList ++ ']' :: "\n[,e],[ F g] ]".toList)) :=
    .next (by decide) spaced second
  exact ⟨plain, first, parseOptions_written plain first⟩

end Stencil
