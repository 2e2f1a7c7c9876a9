import Stencil.Proofs.Outline.Matching

/-!
# Nested tags

The tags of a text as a forest, with the text between them. Tags are matched exactly if
they are those of a forest in which every opening tag comes with its closing tag.
-/
namespace Stencil

open Markup (Occurrence Part)

/-- Text and tags, one after the other, up to a text behind the last tag. -/
inductive Forest where
  | text (text : List Char)
  /-- A text, a tag that closes itself, and what follows. -/
  | single (gap : List Char) (tag : Occurrence) (rest : Forest)
  /-- A text, a tag with what is in it, and what follows. -/
  | element (gap : List Char) (opening : Occurrence) (inner : Forest) (closing : Occurrence)
      (rest : Forest)

namespace Forest

/-- The text behind the last tag. -/
def tail : Forest → List Char
  | .text behind => behind
  | .single _ _ rest => rest.tail
  | .element _ _ _ _ rest => rest.tail

/-- The tags in document order, each with the text before it. -/
def parts : Forest → List Part
  | .text _ => []
  | .single gap tag rest => ⟨gap, tag⟩ :: rest.parts
  | .element gap opening inner closing rest =>
    ⟨gap, opening⟩ :: inner.parts ++ ⟨inner.tail, closing⟩ :: rest.parts

/-- The scan of a text that is this forest. -/
def scan (forest : Forest) : Markup.Scan := ⟨forest.parts, forest.tail⟩

/-- Every opening tag comes with its closing tag. -/
def Proper : Forest → Prop
  | .text _ => True
  | .single _ tag rest => tag.closing = false ∧ tag.selfClosing = true ∧ rest.Proper
  | .element _ opening inner closing rest =>
    (opening.closing = false ∧ opening.selfClosing = false) ∧
      (closing.closing = true ∧ closing.selfClosing = false) ∧
      (opening.namespaceName = closing.namespaceName ∧ opening.name = closing.name) ∧
      inner.Proper ∧ rest.Proper

/-- The tags of a proper forest are matched. -/
theorem matched {registry : Registry} (forest : Forest) (proper : forest.Proper)
    (known : ∀ part ∈ forest.parts, registry.containsTag part.tag.namespaceName part.tag.name)
    (opened : List Occurrence) :
    (forest.parts.map (·.tag)).foldlM (matchTag registry) opened = .ok opened := by
  -- The tags that are open around a forest are still open behind it.
  induction forest generalizing opened with
  | text text => rfl
  | single gap tag rest ih =>
    obtain ⟨opens, closes, proper⟩ := proper
    have here := known ⟨gap, tag⟩ List.mem_cons_self
    have step : matchTag registry opened tag = .ok opened := by
      simp [matchTag, opens, closes, here]
    rw [parts, List.map_cons, List.foldlM_cons, step]
    exact ih proper (fun part member => known part (List.mem_cons_of_mem _ member)) opened
  | element gap opening inner closing rest ihInner ihRest =>
    obtain ⟨⟨opens, plain⟩, ⟨closes, plain'⟩, names, properInner, properRest⟩ := proper
    simp only [parts, List.cons_append, List.mem_cons, List.mem_append, forall_eq_or_imp] at known
    obtain ⟨first, known⟩ := known
    have last : registry.containsTag closing.namespaceName closing.name :=
      known ⟨inner.tail, closing⟩ (.inr (.inl rfl))
    have enter : matchTag registry opened opening = .ok (opening :: opened) := by
      simp [matchTag, opens, plain, first]
    have leave : matchTag registry (opening :: opened) closing = .ok opened := by
      simp [matchTag, matchClosing, closes, plain', last, names]
    have inside := ihInner properInner (fun part member => known part (.inl member))
      (opening :: opened)
    have behind := ihRest properRest (fun part member => known part (.inr (.inr member))) opened
    simp only [parts, List.cons_append, List.map_cons, List.map_append, List.foldlM_cons,
      List.foldlM_append, enter]
    change List.foldlM (matchTag registry) (opening :: opened) (inner.parts.map (·.tag)) >>= _ = _
    rw [inside]
    change (matchTag registry (opening :: opened) closing >>= _) = _
    rw [leave]
    exact behind

end Forest

/-- What can follow inside of open tags, the innermost first: a forest in the innermost
one, its closing tag, and what can follow inside of the others. -/
inductive Closes : List Occurrence → List Part → List Char → Prop where
  | done (forest : Forest) : forest.Proper → Closes [] forest.parts forest.tail
  | close (forest : Forest) {top closing : Occurrence} {opened : List Occurrence}
      {after : List Part} {tail : List Char} : forest.Proper →
      closing.closing = true ∧ closing.selfClosing = false →
      top.namespaceName = closing.namespaceName ∧ top.name = closing.name →
      Closes opened after tail →
      Closes (top :: opened) (forest.parts ++ ⟨forest.tail, closing⟩ :: after) tail

namespace Closes

variable {opened : List Occurrence} {after : List Part} {tail gap : List Char}
  {tag : Occurrence}

/-- More tags before the first one, if they keep a forest proper. -/
theorem prepend (closes : Closes opened after tail) (front : List Part) (more : Forest → Forest)
    (proper : ∀ forest, forest.Proper → (more forest).Proper)
    (parts : ∀ forest, (more forest).parts = front ++ forest.parts)
    (tails : ∀ forest, (more forest).tail = forest.tail) :
    Closes opened (front ++ after) tail := by
  cases closes with
  | done forest ok =>
    rw [← parts, ← tails]
    exact .done _ (proper forest ok)
  | close forest ok closing names later =>
    rw [← List.append_assoc, ← parts, ← tails]
    exact .close _ (proper forest ok) closing names later

theorem single (closes : Closes opened after tail) (gap : List Char)
    (opens : tag.closing = false) (self : tag.selfClosing = true) :
    Closes opened (⟨gap, tag⟩ :: after) tail :=
  closes.prepend [⟨gap, tag⟩] (.single gap tag) (fun _ proper => ⟨opens, self, proper⟩)
    (fun _ => List.singleton_append.symm) fun _ => rfl

theorem element (closes : Closes (tag :: opened) after tail) (gap : List Char)
    (opens : tag.closing = false) (plain : tag.selfClosing = false) :
    Closes opened (⟨gap, tag⟩ :: after) tail := by
  -- The forest that ends at the next closing tag is what is in the new tag.
  cases closes with
  | @close inner _ closing _ after _ proper closing' names later =>
    have whole := later.prepend (⟨gap, tag⟩ :: inner.parts ++ [⟨inner.tail, closing⟩])
      (.element gap tag inner closing)
      (fun _ rest => ⟨⟨opens, plain⟩, closing', names, proper, rest⟩)
      (fun _ => by simp [Forest.parts]) fun _ => rfl
    simpa using whole

end Closes

/-- Matched tags are those of a proper forest. -/
theorem closes_of_matched {registry : Registry} {parts : List Part} {opened : List Occurrence}
    (tail : List Char)
    (matched : (parts.map (·.tag)).foldlM (matchTag registry) opened = .ok []) :
    Closes opened parts tail := by
  -- From the last tag back: what follows a tag is known when the tag is put before it.
  induction parts generalizing opened with
  | nil =>
    cases matched
    exact .done (.text tail) trivial
  | cons part rest ih =>
    rw [List.map_cons, List.foldlM_cons] at matched
    obtain ⟨opened', here, later⟩ := bind_eq_ok.mp matched
    have closes := ih later
    obtain ⟨-, ⟨opens, self, rfl⟩ | ⟨opens, plain, rfl⟩ | ⟨closing, plain, top, rfl, names⟩⟩ :=
      matchTag_eq_ok here
    · exact closes.single part.gap opens self
    · exact closes.element part.gap opens plain
    · exact .close (.text part.gap) trivial ⟨closing, plain⟩ names closes

theorem Forest.exists_of_matched {registry : Registry} {scan : Markup.Scan}
    (matched : matchTags registry (scan.parts.map (·.tag)) = .ok ()) :
    ∃ forest : Forest, forest.Proper ∧ forest.scan = scan := by
  obtain ⟨opened, run, closed⟩ := bind_eq_ok.mp matched
  -- No tag is open at the end.
  cases opened with
  | cons tag rest => cases closed
  | nil =>
    obtain ⟨parts, tail⟩ := scan
    cases closes_of_matched tail run with
    | done forest proper => exact ⟨forest, proper, rfl⟩

namespace Forest

/-- Up to the next closing tag there is only one forest. -/
theorem eq_of_closing {forest other : Forest} (proper : forest.Proper) (proper' : other.Proper)
    {closing closing' : Occurrence} (closes : closing.closing = true)
    (closes' : closing'.closing = true) {after after' : List Part}
    (same : forest.parts ++ ⟨forest.tail, closing⟩ :: after
      = other.parts ++ ⟨other.tail, closing'⟩ :: after') :
    forest = other ∧ closing = closing' ∧ after = after' := by
  induction forest generalizing other closing closing' after after' with
  | text behind =>
    cases other with
    | text behind' =>
      simp only [parts, tail, List.nil_append, List.cons.injEq, Markup.Part.mk.injEq] at same
      exact ⟨by rw [same.1.1], same.1.2, same.2⟩
    | single gap tag rest =>
      simp only [parts, List.nil_append, List.cons_append, List.cons.injEq,
        Markup.Part.mk.injEq] at same
      simp [same.1.2, proper'.1] at closes
    | element gap opening inner closing rest =>
      simp only [parts, List.nil_append, List.cons_append, List.cons.injEq,
        Markup.Part.mk.injEq] at same
      simp [same.1.2, proper'.1.1] at closes
  | single gap tag rest ih =>
    obtain ⟨opens, self, proper⟩ := proper
    cases other with
    | text behind =>
      simp only [parts, List.nil_append, List.cons_append, List.cons.injEq,
        Markup.Part.mk.injEq] at same
      simp [← same.1.2, opens] at closes'
    | single gap' tag' rest' =>
      simp only [parts, List.cons_append, List.cons.injEq, Markup.Part.mk.injEq] at same
      obtain ⟨⟨rfl, rfl⟩, same⟩ := same
      obtain ⟨rfl, rest⟩ := ih proper proper'.2.2 closes closes' same
      exact ⟨rfl, rest⟩
    | element gap' opening inner closing rest' =>
      simp only [parts, List.cons_append, List.cons.injEq, Markup.Part.mk.injEq] at same
      simp [same.1.2, proper'.1.2] at self
  | element gap opening inner closed rest ihInner ihRest =>
    obtain ⟨⟨opens, plain⟩, ⟨closes'', -⟩, -, properInner, properRest⟩ := proper
    cases other with
    | text behind =>
      simp only [parts, List.nil_append, List.cons_append, List.cons.injEq,
        Markup.Part.mk.injEq] at same
      simp [← same.1.2, opens] at closes'
    | single gap' tag rest' =>
      simp only [parts, List.cons_append, List.cons.injEq, Markup.Part.mk.injEq] at same
      obtain ⟨-, self, -⟩ := proper'
      simp [← same.1.2, plain] at self
    | element gap' opening' inner' closed' rest' =>
      obtain ⟨-, ⟨closesOther, -⟩, -, properInner', properRest'⟩ := proper'
      simp only [parts, List.cons_append, List.append_assoc, List.cons.injEq,
        Markup.Part.mk.injEq] at same
      obtain ⟨⟨rfl, rfl⟩, same⟩ := same
      -- The tag closes where the same tag of the other forest does.
      obtain ⟨rfl, rfl, behind⟩ := ihInner properInner properInner' closes'' closesOther same
      obtain ⟨rfl, last⟩ := ihRest properRest properRest' closes closes' behind
      exact ⟨rfl, last⟩

/-- A text is the scan of one proper forest at most. -/
theorem eq_of_scan {forest other : Forest} (proper : forest.Proper) (proper' : other.Proper)
    (same : forest.scan = other.scan) : forest = other := by
  obtain ⟨parts, tails⟩ := Markup.Scan.mk.inj same
  -- A closing tag behind both changes nothing.
  let closing : Occurrence := ⟨true, false, "", "", [], ⟨0, 1, 1⟩, ⟨0, 1, 1⟩⟩
  have closed : forest.parts ++ [⟨forest.tail, closing⟩]
      = other.parts ++ [⟨other.tail, closing⟩] := by
    rw [parts, tails]
  exact (eq_of_closing proper proper' rfl rfl closed).1

end Forest

end Stencil
