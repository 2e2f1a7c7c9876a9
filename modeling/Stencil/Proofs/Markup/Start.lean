import Stencil.Proofs.Markup.Writing
import Stencil.Proofs.Text.Caseless

/-!
# How tags start and end

A text may be read as the start of a tag in several ways, if one namespace is part of another. A
start is found where there is any, and it is a tag where it has an end behind its name
(`tag?_isSome`).
-/
namespace Stencil.Markup

/-! ### Starts -/

def Start.bracket (start : Start) : List Char := if start.closing then ['<', '/'] else ['<']

/-- The start of a tag as it is written. -/
def Start.text (start : Start) : List Char :=
  start.bracket ++ (start.namespaceText ++ ':' :: start.name)

theorem Start.exists_text (start : Start) : ∃ body, start.text = '<' :: body := by
  unfold Start.text Start.bracket
  cases start.closing with
  | true => exact ⟨_, rfl⟩
  | false => exact ⟨_, rfl⟩

private theorem getLastD_append (left right : List Char) (c : Char) :
    (left ++ right).getLastD c = right.getLastD (left.getLastD c) := by
  induction left generalizing c with
  | nil => rfl
  | cons d left ih =>
    rw [List.cons_append, List.getLastD_cons, List.getLastD_cons]
    exact ih d

private theorem Start.getLast?_text (start : Start) (nonempty : start.name ≠ []) :
    start.text.getLast? = start.name.getLast? := by
  obtain ⟨d, more, shape⟩ := List.exists_cons_of_ne_nil nonempty
  simp [Start.text, shape, List.getLast?_append, List.getLast?_cons]

private theorem Start.getLastD_text (start : Start) (nonempty : start.name ≠ []) (c : Char) :
    start.text.getLastD c = start.name.getLastD '<' := by
  obtain ⟨d, more, shape⟩ := List.exists_cons_of_ne_nil nonempty
  rw [Start.text, getLastD_append, getLastD_append, shape]
  simp only [List.getLastD_cons]

/-- That a text can be read as the start of a tag of a listed namespace, with the rest behind its
name: a bracket, the namespace in any case, a colon, and a name that goes on as far as it can. -/
structure Starts (namespaces : List String) (text : List Char) (start : Start)
    (rest : List Char) : Prop where
  listed : ∃ name ∈ namespaces, Text.Caseless name.toList start.namespaceText
  nonempty : start.name ≠ []
  plain : ∀ c ∈ start.name, isTagNameChar c
  ends : ∀ c ∈ rest.head?, isTagNameChar c = false
  whole : text = start.text ++ rest

variable {namespaces : List String} {text rest : List Char} {start : Start} {closing : Bool}

theorem Starts.head? (starts : Starts namespaces text start rest) : text.head? = some '<' := by
  obtain ⟨body, opens⟩ := start.exists_text
  rw [starts.whole, opens]
  rfl

/-- Behind a bracket a tag of one namespace is read in one way only. -/
private theorem afterBracket?_eq_some {namespaceName : String} :
    afterBracket? closing text namespaceName = some (start, rest) ↔
      start.closing = closing ∧ Starts [namespaceName] (start.bracket ++ text) start rest := by
  constructor
  · intro read
    unfold afterBracket? at read
    split at read
    · next tail found =>
      obtain ⟨written, alike, rfl⟩ := Text.afterCaseless?_eq_some.mp found
      dsimp only at read
      split at read
      · cases read
      · next filled =>
        cases read
        -- What is taken for the namespace is as long as the namespace.
        have taken : (written ++ ':' :: tail).take namespaceName.toList.length = written :=
          List.take_left' alike.length_eq.symm
        refine ⟨rfl, ?_, ?_, ?_, ?_, ?_⟩
        · exact ⟨namespaceName, List.mem_singleton_self _, by rwa [taken]⟩
        · simpa using filled
        · exact fun c within => List.mem_takeWhile_imp within
        · intro c first
          have stops := List.head?_dropWhile_not isTagNameChar tail
          rw [Option.mem_def.mp first] at stops
          simpa using stops
        · simp only [Start.text, taken, List.append_assoc, List.cons_append,
            List.takeWhile_append_dropWhile]
    · cases read
  · rintro ⟨rfl, ⟨name, listed, alike⟩, nonempty, plain, ends, whole⟩
    obtain rfl := List.mem_singleton.mp listed
    have shape : text = start.namespaceText ++ ':' :: (start.name ++ rest) := by
      simpa [Start.text] using whole
    have found : Text.afterCaseless? name.toList text = some (':' :: (start.name ++ rest)) :=
      Text.afterCaseless?_eq_some.mpr ⟨_, alike, shape⟩
    have filled : start.name.isEmpty = false := by simpa using nonempty
    rw [afterBracket?, found]
    simp only [Text.takeWhile_run plain ends, Text.dropWhile_run plain ends, filled,
      Bool.false_eq_true, if_false, shape, List.take_left' alike.length_eq.symm]

private theorem findSome?_sound
    (found : namespaces.findSome? (afterBracket? closing text) = some (start, rest)) :
    start.closing = closing ∧ Starts namespaces (start.bracket ++ text) start rest := by
  obtain ⟨name, member, read⟩ := List.exists_of_findSome?_eq_some found
  obtain ⟨same, starts⟩ := afterBracket?_eq_some.mp read
  obtain ⟨other, single, alike⟩ := starts.listed
  obtain rfl := List.mem_singleton.mp single
  exact ⟨same, { starts with listed := ⟨other, member, alike⟩ }⟩

private theorem findSome?_isSome (starts : Starts namespaces (start.bracket ++ text) start rest) :
    (namespaces.findSome? (afterBracket? start.closing text)).isSome := by
  obtain ⟨name, member, alike⟩ := starts.listed
  have read : afterBracket? start.closing text name = some (start, rest) :=
    afterBracket?_eq_some.mpr ⟨rfl,
      { starts with listed := ⟨name, List.mem_singleton_self name, alike⟩ }⟩
  rw [List.findSome?_isSome_iff]
  exact ⟨name, member, by simp [read]⟩

/-- What is found is a start. -/
theorem start?_sound (found : start? namespaces text = some (start, rest)) :
    Starts namespaces text start rest := by
  unfold start? at found
  split at found
  · next text =>
    rcases Option.or_eq_some_iff.mp found with first | ⟨-, second⟩
    · obtain ⟨closing, starts⟩ := findSome?_sound first
      simpa [Start.bracket, closing] using starts
    · obtain ⟨closing, starts⟩ := findSome?_sound second
      simpa [Start.bracket, closing] using starts
  · next text _ =>
    obtain ⟨closing, starts⟩ := findSome?_sound found
    simpa [Start.bracket, closing] using starts
  · cases found

/-- Where there is a start one is found, though it may be another one. -/
theorem start?_complete (starts : Starts namespaces text start rest) :
    ∃ other inner, start? namespaces text = some (other, inner) := by
  obtain ⟨tail, rfl⟩ : ∃ tail, text = start.bracket ++ tail := ⟨_, by
    rw [starts.whole, Start.text, List.append_assoc]⟩
  have found := findSome?_isSome starts
  have found' : (start? namespaces (start.bracket ++ tail)).isSome := by
    rw [Start.bracket] at *
    cases closing : start.closing with
    | true =>
      rw [closing] at found
      simp [start?, found]
    | false =>
      rw [closing] at found
      -- A slash behind the bracket may belong to the bracket or to the namespace.
      unfold start?
      split
      · next text same =>
        cases same
        simp [found]
      · next text _ same =>
        cases same
        exact found
      · next other => exact absurd rfl (other tail)
  obtain ⟨⟨other, inner⟩, read⟩ := Option.isSome_iff_exists.mp found'
  exact ⟨other, inner, read⟩

/-! ### Ends -/

/-- That a tag has an end in a text, which stands behind the character `previous`: a `/>`, or a `>`
that is not right behind a hyphen. -/
def Ended (previous : Char) (text : List Char) : Prop :=
  ∃ attributes after, text = attributes ++ '/' :: '>' :: after ∨
    text = attributes ++ '>' :: after ∧ attributes.getLastD previous ≠ '-'

namespace Ended

variable {previous : Char} {before behind : List Char}

theorem not_nil : ¬ Ended previous [] := by
  rintro ⟨attributes, after, whole | ⟨whole, -⟩⟩ <;> simp at whole

/-- The end of a tag is at the first character of a text or behind it. -/
private theorem cons_iff {c : Char} : Ended previous (c :: text) ↔
    (c = '/' ∧ text.head? = some '>') ∨ (c = '>' ∧ previous ≠ '-') ∨ Ended c text := by
  constructor
  · rintro ⟨_ | ⟨d, attributes⟩, after, whole | ⟨whole, free⟩⟩
    · cases whole
      exact .inl ⟨rfl, rfl⟩
    · cases whole
      exact .inr (.inl ⟨rfl, free⟩)
    · cases whole
      exact .inr (.inr ⟨attributes, after, .inl rfl⟩)
    · cases whole
      rw [List.getLastD_cons] at free
      exact .inr (.inr ⟨attributes, after, .inr ⟨rfl, free⟩⟩)
  · rintro (⟨rfl, bracket⟩ | ⟨rfl, free⟩ | ⟨attributes, after, ends⟩)
    · obtain ⟨after, rfl⟩ := List.head?_eq_some_iff.mp bracket
      exact ⟨[], after, .inl rfl⟩
    · exact ⟨[], text, .inr ⟨rfl, free⟩⟩
    · refine ⟨c :: attributes, after, ends.imp ?_ ?_⟩
      · rintro rfl
        rfl
      · rintro ⟨rfl, free⟩
        rw [List.getLastD_cons]
        exact ⟨rfl, free⟩

theorem append (ended : Ended (before.getLastD previous) behind) :
    Ended previous (before ++ behind) := by
  induction before generalizing previous with
  | nil => exact ended
  | cons c before ih =>
    rw [List.getLastD_cons] at ended
    exact cons_iff.mpr (.inr (.inr (ih ended)))

/-- A text without brackets does not end a tag, nor does a bracket behind it if no slash is between
them. -/
theorem of_append (plain : '>' ∉ before) (noSlash : before.getLast? ≠ some '/')
    (ended : Ended previous (before ++ behind)) : Ended (before.getLastD previous) behind := by
  induction before generalizing previous with
  | nil => exact ended
  | cons c before ih =>
    have other : '>' ≠ c := List.ne_of_not_mem_cons plain
    have later : '>' ∉ before := List.not_mem_of_not_mem_cons plain
    rw [List.cons_append] at ended
    rw [List.getLastD_cons]
    rcases cons_iff.mp ended with ⟨rfl, bracket⟩ | ⟨rfl, -⟩ | ended
    · -- Behind a slash there is more of the text, and it is no bracket.
      cases before with
      | nil => exact absurd rfl noSlash
      | cons d before =>
        cases bracket
        exact absurd List.mem_cons_self later
    · exact absurd rfl other
    · refine ih later ?_ ended
      cases before with
      | nil => nofun
      | cons d before => rwa [List.getLast?_cons_cons] at noSlash

end Ended

/-- In a start there is no closing bracket, if there is none in the listed namespaces. -/
theorem Starts.unbracketed (plain : ∀ name ∈ namespaces, '>' ∉ name.toList)
    (starts : Starts namespaces text start rest) : '>' ∉ start.text := by
  obtain ⟨name, listed, alike⟩ := starts.listed
  intro within
  rcases List.mem_append.mp within with opens | within
  · rw [Start.bracket] at opens
    cases closing : start.closing <;> simp [closing] at opens
  rcases List.mem_append.mp within with spelled | within
  · exact plain name listed (alike.mem_of_sign (by decide) (by decide) spelled)
  rcases List.mem_cons.mp within with colon | named
  · cases colon
  · exact absurd (starts.plain '>' named) (by decide)

/-- If no listed namespace has a closing bracket in it, all readings of a start agree on whether
there is an end behind the name: it is there if the text as a whole has one. -/
theorem Starts.ended_iff (plain : ∀ name ∈ namespaces, '>' ∉ name.toList)
    (starts : Starts namespaces text start rest) (previous : Char) :
    Ended (start.name.getLastD '<') rest ↔ Ended previous text := by
  have last := start.getLastD_text starts.nonempty previous
  constructor
  · intro ended
    rw [starts.whole]
    rw [← last] at ended
    exact ended.append
  · intro ended
    rw [starts.whole] at ended
    rw [← last]
    refine ended.of_append (starts.unbracketed plain) ?_
    intro slash
    rw [start.getLast?_text starts.nonempty] at slash
    exact absurd (starts.plain '/' (List.mem_of_getLast? slash)) (by decide)

section

variable {previous : Char} {done attributes : List Char} {closed : Bool}

/-- What is read up to the end of a tag: the attribute text and the end. -/
private theorem ending?_sound
    (read : ending? previous done text = some (attributes, closed, rest)) :
    ∃ more, text = more ++ (if closed then ['/', '>'] else ['>']) ++ rest ∧
      (closed = false → more.getLastD previous ≠ '-') := by
  fun_induction ending? previous done text with
  | case1 => cases read
  | case2 =>
    cases read
    exact ⟨[], rfl, fun other => by cases other⟩
  | case3 previous done c text noSlash bracket =>
    cases read
    obtain ⟨rfl, free⟩ := bracket
    exact ⟨[], rfl, fun _ => free⟩
  | case4 previous done c text noSlash goesOn ih =>
    obtain ⟨more, rfl, free⟩ := ih read
    refine ⟨c :: more, rfl, ?_⟩
    rwa [List.getLastD_cons]

/-- Where a tag has an end one is found. -/
private theorem ending?_isSome (previous : Char) (done text : List Char) :
    (ending? previous done text).isSome ↔ Ended previous text := by
  fun_induction ending? previous done text with
  | case1 => simp [Ended.not_nil]
  | case2 previous done rest => simp [Ended.cons_iff]
  | case3 previous done c text noSlash bracket => simp [Ended.cons_iff, bracket]
  | case4 previous done c text noSlash goesOn ih =>
    have noClose : ¬ (c = '/' ∧ text.head? = some '>') := by
      rintro ⟨rfl, first⟩
      obtain ⟨after, rfl⟩ := List.head?_eq_some_iff.mp first
      exact noSlash after rfl rfl
    rw [ih, Ended.cons_iff]
    simp only [noClose, goesOn, false_or]

instance (previous : Char) (text : List Char) : Decidable (Ended previous text) :=
  decidable_of_iff _ (ending?_isSome previous [] text)

end

/-! ### Tags -/

/-- A text that reaches from a bracket to a bracket, which is not right behind a hyphen. -/
def Bracketed (span : List Char) : Prop :=
  ∃ body, span = '<' :: body ++ ['>'] ∧ body.getLastD '<' ≠ '-'

/-- A tag is ended at the latest by the bracket at the end of another one that it starts in. -/
theorem Bracketed.ended {front span before middle : List Char} (bracketed : Bracketed span)
    (same : front ++ span = before ++ middle) (opens : middle.head? = some '<')
    (previous : Char) (rest : List Char) : Ended previous (middle ++ rest) := by
  obtain ⟨body, rfl, free⟩ := bracketed
  obtain ⟨more, rfl⟩ := List.head?_eq_some_iff.mp opens
  cases more using List.reverseRecOn with
  | nil =>
    have last := congrArg List.getLast? same
    rw [← List.append_assoc, List.getLast?_concat, List.getLast?_concat] at last
    cases last
  | append_singleton more c =>
    rw [← List.append_assoc, ← List.cons_append, ← List.append_assoc] at same
    obtain ⟨fronts, bracket⟩ := List.append_inj' same rfl
    cases bracket
    have last := congrArg (fun text => text.getLastD previous) fronts
    rw [getLastD_append, getLastD_append, List.getLastD_cons, List.getLastD_cons] at last
    refine ⟨'<' :: more, rest, .inr ⟨by simp, ?_⟩⟩
    rw [List.getLastD_cons, ← last]
    exact free

section

variable {place : Text.Place} {tag : Occurrence}

/-- There is a tag where the start that is read has an end behind its name. -/
theorem tag?_isSome : (tag? namespaces place text).isSome ↔
    ∃ start inner, start? namespaces text = some (start, inner) ∧
      Ended (start.name.getLastD '<') inner := by
  constructor
  · intro found
    obtain ⟨⟨tag, rest⟩, read⟩ := Option.isSome_iff_exists.mp found
    simp only [tag?, Option.bind_eq_bind, Option.bind_eq_some_iff, Prod.exists] at read
    obtain ⟨start, inner, started, attributes, closed, rest, ended, -⟩ := read
    have ends : (ending? (start.name.getLastD '<') [] inner).isSome :=
      Option.isSome_of_eq_some ended
    exact ⟨start, inner, started, (ending?_isSome _ _ _).mp ends⟩
  · rintro ⟨start, inner, started, ended⟩
    obtain ⟨ending, found⟩ := Option.isSome_iff_exists.mp ((ending?_isSome _ [] _).mpr ended)
    rw [tag?, started]
    change ((ending? (start.name.getLastD '<') [] inner).bind _).isSome
    rw [found]
    rfl

/-- What is read as a tag: its start is read in one of the ways there are, and its text, the `span`,
is followed by the rest. -/
theorem tag?_sound (read : tag? namespaces place text = some (tag, rest)) :
    ∃ start inner span, Starts namespaces text start inner ∧ text = span ++ rest ∧
      Bracketed span ∧ tag.namespaceName = resolve namespaces start.namespaceText ∧
      tag.start = place ∧ tag.stop = place.advanceBy span := by
  simp only [tag?, Option.bind_eq_bind, Option.bind_eq_some_iff, Option.pure_def,
    Option.some.injEq, Prod.exists, Prod.mk.injEq] at read
  obtain ⟨start, inner, started, attributes, closed, rest, ended, rfl, rfl⟩ := read
  have starts := start?_sound started
  obtain ⟨more, rfl, free⟩ := ending?_sound ended
  have whole : text = (start.text ++ (more ++ if closed then ['/', '>'] else ['>'])) ++ rest := by
    rw [starts.whole]
    simp only [List.append_assoc]
  -- The span is what lies before the rest, and its length says how far the place moves.
  have taken : text.take (text.length - rest.length)
      = start.text ++ (more ++ if closed then ['/', '>'] else ['>']) := by
    rw [whole]
    refine List.take_left' ?_
    simp only [List.length_append]
    omega
  refine ⟨start, _, _, starts, whole, ?_, rfl, rfl, by rw [taken]⟩
  obtain ⟨body, opens⟩ := start.exists_text
  -- The bracket that ends a tag is free if it is free behind the name.
  have named : body.getLastD '<' = start.name.getLastD '<' := by
    have last := start.getLastD_text starts.nonempty '<'
    rwa [opens, List.getLastD_cons] at last
  cases closed with
  | true => exact ⟨body ++ more ++ ['/'], by simp [opens], by simp⟩
  | false =>
    refine ⟨body ++ more, by simp [opens], ?_⟩
    rw [getLastD_append, named]
    exact free rfl

end

end Stencil.Markup
