import Stencil.Proofs.Markup.Start

/-!
# A scan covers its text

Gaps and tags put together are the text. Every tag is at its place, and wherever a tag could
start between them, none is read (`Tiles`). What is read differs from what could be read only if a
listed namespace has a closing bracket in it.
-/
namespace Stencil

/-! ### Slices -/

namespace Text

private theorem byteSize_pos {text : List Char} (present : text ≠ []) : 0 < byteSize text := by
  obtain ⟨c, rest, rfl⟩ := List.exists_cons_of_ne_nil present
  exact Nat.add_pos_left c.utf8Size_pos _

private theorem takeBytes_append (before behind : List Char) :
    takeBytes (byteSize before) (before ++ behind) = before := by
  induction before with
  | nil =>
    cases behind with
    | nil => rfl
    | cons c behind => exact if_neg (Nat.not_le.mpr c.utf8Size_pos)
  | cons c before ih =>
    rw [List.cons_append, byteSize, takeBytes, if_pos (Nat.le_add_right _ _),
      Nat.add_sub_cancel_left, ih]

/-- The part of a text between two offsets. -/
def slice (text : List Char) (start stop : Nat) : List Char :=
  (takeBytes stop text).drop (takeBytes start text).length

private theorem slice_append (before span behind : List Char) :
    slice (before ++ span ++ behind) (byteSize before) (byteSize (before ++ span)) = span := by
  rw [slice, takeBytes_append, List.append_assoc, takeBytes_append, List.drop_left]

/-! ### Two cuts of one text -/

section

variable {front more behind rest : List Char}

private theorem exists_between (same : front ++ behind = more ++ rest)
    (less : byteSize front < byteSize more) :
    ∃ middle, middle ≠ [] ∧ more = front ++ middle ∧ behind = middle ++ rest := by
  rcases List.append_eq_append_iff.mp same with ⟨middle, rfl, rfl⟩ | ⟨middle, rfl, rfl⟩
  · refine ⟨middle, ?_, rfl, rfl⟩
    rintro rfl
    simp at less
  · rw [byteSize_append] at less
    omega

private theorem exists_behind (same : front ++ behind = more ++ rest)
    (enough : byteSize more ≤ byteSize front) :
    ∃ middle, front = more ++ middle ∧ rest = middle ++ behind := by
  rcases List.append_eq_append_iff.mp same with ⟨middle, rfl, rfl⟩ | ⟨middle, rfl, rfl⟩
  · rw [byteSize_append] at enough
    have empty : middle = [] := by
      by_contra present
      have size := byteSize_pos present
      omega
    subst empty
    exact ⟨[], by simp, rfl⟩
  · exact ⟨middle, rfl, rfl⟩

end

end Text

namespace Markup

variable {namespaces : List String} {before gap text tail : List Char} {parts : List Part}

/-! ### Gaps -/

/-- That no tag is read at any character of a gap. -/
def Quiet (namespaces : List String) (gap follow : List Char) : Prop :=
  ∀ rest, rest <:+ gap → rest ≠ [] → ∀ place, tag? namespaces place (rest ++ follow) = none

theorem Quiet.nil (namespaces : List String) (follow : List Char) :
    Quiet namespaces [] follow := by
  intro rest suffix present
  exact absurd (List.suffix_nil.mp suffix) present

theorem Quiet.concat {follow : List Char} {c : Char} (quiet : Quiet namespaces gap (c :: follow))
    (absent : ∀ place, tag? namespaces place (c :: follow) = none) :
    Quiet namespaces (gap ++ [c]) follow := by
  intro rest suffix present place
  rcases List.suffix_concat_iff.mp suffix with rfl | ⟨front, rfl, within⟩
  · exact absurd rfl present
  · rw [List.append_assoc, List.singleton_append]
    by_cases empty : front = []
    · subst empty
      exact absent place
    · exact quiet front within empty place

/-! ### Tiles -/

/-- That a tag is at its place behind a text, and its own text is the span. -/
structure Occurrence.At (tag : Occurrence) (before span : List Char) : Prop where
  bracketed : Bracketed span
  start : tag.start = Text.Place.start.advanceBy before
  stop : tag.stop = Text.Place.start.advanceBy (before ++ span)

/-- How a text that stands behind another one is cut into gaps and tags. -/
inductive Tiles (namespaces : List String) :
    List Char → List Part → List Char → List Char → Prop where
  | done {before tail : List Char} : Quiet namespaces tail [] →
      Tiles namespaces before [] tail tail
  | part {before gap span rest tail : List Char} {tag : Occurrence} {parts : List Part} :
      Quiet namespaces gap (span ++ rest) → tag.At (before ++ gap) span →
      Tiles namespaces (before ++ gap ++ span) parts tail rest →
      Tiles namespaces before (⟨gap, tag⟩ :: parts) tail (gap ++ (span ++ rest))

private theorem tag?_eq_none {place : Text.Place} (absent : tag? namespaces place text = none)
    (other : Text.Place) : tag? namespaces other text = none := by
  rcases tag?_alike place other text with ⟨-, there⟩ | ⟨a, b, rest, here, -, -⟩
  · exact there
  · rw [absent] at here
    cases here

/-- A scan goes on behind a gap in which no tag has been read. -/
theorem tiles_scanFrom (before gap text : List Char) (quiet : Quiet namespaces gap.reverse text) :
    Tiles namespaces before
      (scanFrom namespaces (Text.Place.start.advanceBy (before ++ gap.reverse)) gap text).parts
      (scanFrom namespaces (Text.Place.start.advanceBy (before ++ gap.reverse)) gap text).tail
      (gap.reverse ++ text) := by
  -- The induction is that of the scan: a character joins the gap, or a tag starts a new one.
  generalize stands : Text.Place.start.advanceBy (before ++ gap.reverse) = place
  induction place, gap, text using scanFrom.induct namespaces generalizing before with
  | case1 place gap =>
    rw [scanFrom, List.append_nil]
    exact .done quiet
  | case2 place gap c rest tag after read shorter ih =>
    obtain ⟨start, inner, span, -, whole, bracketed, -, starts, stops⟩ := tag?_sound read
    have goesOn : Text.Place.start.advanceBy (before ++ gap.reverse ++ span) = tag.stop := by
      rw [Text.Place.advanceBy_append, stands, stops]
    have later := ih (before ++ gap.reverse ++ span) (Quiet.nil namespaces after)
      (by rwa [List.reverse_nil, List.append_nil])
    rw [scanFrom_of_tag read]
    rw [whole] at quiet ⊢
    exact .part quiet ⟨bracketed, starts.trans stands.symm, goesOn.symm⟩ later
  | case3 place gap c rest absent ih =>
    have here : Quiet namespaces (c :: gap).reverse rest := by
      rw [List.reverse_cons]
      exact quiet.concat (tag?_eq_none absent)
    have goesOn : Text.Place.start.advanceBy (before ++ (c :: gap).reverse) = place.advance c := by
      rw [List.reverse_cons, ← List.append_assoc, Text.Place.advanceBy_append, stands]
      rfl
    have later := ih before here goesOn
    rw [List.reverse_cons, List.append_assoc] at later
    rw [scanFrom_of_none absent]
    exact later

private theorem tiles_scan (namespaces : List String) (text : List Char) :
    Tiles namespaces [] (scan namespaces text).parts (scan namespaces text).tail text :=
  tiles_scanFrom [] [] text (Quiet.nil namespaces text)

/-! ### What tiles are like -/

/-- The text of a tag. -/
def Occurrence.span (tag : Occurrence) (text : List Char) : List Char :=
  Text.slice text tag.start.offset tag.stop.offset

/-- That a tag stands in a text: it is cut out between two characters, from a bracket to a
bracket. -/
structure Occurrence.Within (tag : Occurrence) (text : List Char) : Prop where
  starts : Text.IsBoundary text tag.start.offset
  stops : Text.IsBoundary text tag.stop.offset
  forward : tag.start.offset < tag.stop.offset
  opens : (tag.span text).head? = some '<'
  closes : (tag.span text).getLast? = some '>'

namespace Occurrence.At

variable {tag : Occurrence} {span : List Char} (stands : tag.At before span)

include stands

private theorem start_offset : tag.start.offset = Text.byteSize before := by
  rw [stands.start, Text.Place.advanceBy_start]

private theorem stop_offset : tag.stop.offset = Text.byteSize (before ++ span) := by
  rw [stands.stop, Text.Place.advanceBy_start]

private theorem span_eq (behind : List Char) : tag.span (before ++ span ++ behind) = span := by
  rw [Occurrence.span, stands.start_offset, stands.stop_offset]
  exact Text.slice_append before span behind

theorem within (behind : List Char) : tag.Within (before ++ span ++ behind) := by
  obtain ⟨body, shape, -⟩ := stands.bracketed
  constructor
  · exact ⟨before, span ++ behind, List.append_assoc _ _ _, stands.start_offset⟩
  · exact ⟨before ++ span, behind, rfl, stands.stop_offset⟩
  · have size : 0 < Text.byteSize span := Text.byteSize_pos (by simp [shape])
    rw [stands.start_offset, stands.stop_offset, Text.byteSize_append]
    omega
  · rw [stands.span_eq, shape]
    rfl
  · rw [stands.span_eq, shape]
    exact List.getLast?_concat

end Occurrence.At

namespace Tiles

variable {part : Part}

private theorem exists_at (tiles : Tiles namespaces before parts tail text)
    (member : part ∈ parts) : ∃ front span behind, text = front ++ (span ++ behind) ∧
      part.tag.At (before ++ front) span := by
  induction tiles with
  | done => cases member
  | @part before gap span rest tail tag parts _ stands _ ih =>
    rcases List.mem_cons.mp member with rfl | later
    · exact ⟨gap, span, rest, rfl, stands⟩
    · obtain ⟨front, inner, behind, rfl, stands⟩ := ih later
      refine ⟨gap ++ (span ++ front), inner, behind, by simp only [List.append_assoc], ?_⟩
      simpa only [List.append_assoc] using stands

private theorem start_le (tiles : Tiles namespaces before parts tail text) (member : part ∈ parts) :
    Text.byteSize before ≤ part.tag.start.offset := by
  obtain ⟨front, span, behind, -, stands⟩ := tiles.exists_at member
  rw [stands.start_offset, Text.byteSize_append]
  exact Nat.le_add_right _ _

theorem ordered (tiles : Tiles namespaces before parts tail text) :
    parts.Pairwise fun a b => a.tag.stop.offset ≤ b.tag.start.offset := by
  induction tiles with
  | done => exact .nil
  | part _ stands later ih =>
    refine .cons (fun next member => ?_) ih
    rw [stands.stop_offset]
    exact later.start_le member

theorem whole (tiles : Tiles namespaces before parts tail text) :
    (parts.flatMap fun part => part.gap ++ part.tag.span (before ++ text)) ++ tail = text := by
  induction tiles with
  | done => rfl
  | @part before gap span rest tail tag parts _ stands _ ih =>
    have shape : before ++ (gap ++ (span ++ rest)) = before ++ gap ++ span ++ rest := by
      simp only [List.append_assoc]
    rw [List.flatMap_cons, shape, stands.span_eq, List.append_assoc, List.append_assoc, ih]

/-- Outside the tags none is read. -/
theorem absent (tiles : Tiles namespaces before parts tail text) {front behind : List Char}
    (cut : text = front ++ behind)
    (outside : ∀ part ∈ parts, part.tag.start.offset ≤ Text.byteSize (before ++ front) →
      part.tag.stop.offset ≤ Text.byteSize (before ++ front)) (place : Text.Place) :
    tag? namespaces place behind = none := by
  induction tiles generalizing front with
  | done quiet =>
    subst cut
    by_cases empty : behind = []
    · subst empty
      rfl
    · have silent := quiet behind (List.suffix_append front behind) empty place
      rwa [List.append_nil] at silent
  | @part before gap span rest tail tag parts quiet stands _ ih =>
    by_cases inGap : Text.byteSize front < Text.byteSize gap
    · obtain ⟨middle, present, rfl, rfl⟩ := Text.exists_between cut.symm inGap
      exact quiet middle (List.suffix_append front middle) present place
    · -- Behind the gap a position is behind the tag as well.
      have passed := outside _ List.mem_cons_self
      rw [stands.start_offset, stands.stop_offset] at passed
      simp only [Text.byteSize_append] at passed
      have enough : Text.byteSize (gap ++ span) ≤ Text.byteSize front := by
        rw [Text.byteSize_append]
        omega
      rw [← List.append_assoc] at cut
      obtain ⟨middle, rfl, rest⟩ := Text.exists_behind cut.symm enough
      refine ih rest fun part member => ?_
      simpa only [List.append_assoc] using outside part (List.mem_cons_of_mem _ member)

end Tiles

/-! ### Covering -/

/-- That the tags of a scan stand in a text one behind the other, and that the gaps and the tags put
together are the text. -/
structure Covers (found : Scan) (text : List Char) : Prop where
  within : ∀ part ∈ found.parts, part.tag.Within text
  ordered : found.parts.Pairwise fun a b => a.tag.stop.offset ≤ b.tag.start.offset
  whole : (found.parts.flatMap fun part => part.gap ++ part.tag.span text) ++ found.tail = text

private theorem Tiles.covers {found : Scan}
    (tiles : Tiles namespaces [] found.parts found.tail text) : Covers found text := by
  refine ⟨fun part member => ?_, tiles.ordered, tiles.whole⟩
  obtain ⟨front, span, behind, rfl, stands⟩ := tiles.exists_at member
  rw [← List.append_assoc]
  exact stands.within behind

/-- That an offset is in none of the tags. -/
def Scan.Outside (found : Scan) (offset : Nat) : Prop :=
  ∀ part ∈ found.parts, part.tag.start.offset ≤ offset → part.tag.stop.offset ≤ offset

instance (found : Scan) (offset : Nat) : Decidable (found.Outside offset) :=
  inferInstanceAs (Decidable (∀ part ∈ found.parts, _))

/-- Behind a start without an end there is no tag. -/
theorem Tiles.stop_le (tiles : Tiles namespaces [] parts tail text) {part : Part}
    (member : part ∈ parts) {front behind : List Char} (cut : text = front ++ behind)
    (opens : behind.head? = some '<') {previous : Char} (endless : ¬ Ended previous behind) :
    part.tag.stop.offset ≤ Text.byteSize front := by
  obtain ⟨before, span, rest, whole, stands⟩ := tiles.exists_at member
  rw [stands.stop_offset, List.nil_append]
  by_contra inside
  rw [cut, ← List.append_assoc] at whole
  obtain ⟨middle, present, same, rfl⟩ := Text.exists_between whole (Nat.lt_of_not_le inside)
  refine endless (stands.bracketed.ended same ?_ previous rest)
  rwa [List.head?_append_of_ne_nil _ present] at opens

/-- Where a tag could start outside the tags of a scan, it is read as one without an end. -/
theorem endless_of_outside {before behind rest : List Char} {start : Start}
    (outside : (scan namespaces (before ++ behind)).Outside (Text.byteSize before))
    (starts : Starts namespaces behind start rest) :
    ∃ first inner, start? namespaces behind = some (first, inner) ∧
      Starts namespaces behind first inner ∧ ¬ Ended (first.name.getLastD '<') inner := by
  have absent := (tiles_scan namespaces (before ++ behind)).absent rfl outside Text.Place.start
  obtain ⟨first, inner, read⟩ := start?_complete starts
  refine ⟨first, inner, read, start?_sound read, ?_⟩
  intro ended
  have found : (tag? namespaces Text.Place.start behind).isSome :=
    tag?_isSome.mpr ⟨first, inner, read, ended⟩
  rw [absent] at found
  cases found

/-- A scan covers its text. Wherever a tag could start outside the tags, it is read as one that has
no end behind its name: a slash belongs to the bracket if it can, and of several namespaces that
fit the first one counts. If no listed namespace has a closing bracket in it, the same is true of
every way to read it, and behind a tag without an end there is none. -/
theorem scan_covers (namespaces : List String) (text : List Char) :
    Covers (scan namespaces text) text ∧
      (∀ before behind start rest, text = before ++ behind →
        (scan namespaces text).Outside (Text.byteSize before) →
        Starts namespaces behind start rest →
          ∃ first inner, start? namespaces behind = some (first, inner) ∧
            Starts namespaces behind first inner ∧ ¬ Ended (first.name.getLastD '<') inner) ∧
      ((∀ name ∈ namespaces, '>' ∉ name.toList) →
        ∀ before behind start rest, text = before ++ behind →
          Starts namespaces behind start rest →
            ((scan namespaces text).Outside (Text.byteSize before) →
              ¬ Ended (start.name.getLastD '<') rest) ∧
            (¬ Ended (start.name.getLastD '<') rest →
              ∀ part ∈ (scan namespaces text).parts,
                part.tag.stop.offset ≤ Text.byteSize before)) := by
  have tiles := tiles_scan namespaces text
  refine ⟨tiles.covers, ?_, ?_⟩
  · rintro before behind start rest rfl outside starts
    exact endless_of_outside outside starts
  · rintro plain before behind start rest rfl starts
    -- All ways to read the start have an end or none has.
    constructor
    · intro outside ended
      obtain ⟨first, inner, -, others, endless⟩ := endless_of_outside outside starts
      rw [starts.ended_iff plain ' ', ← others.ended_iff plain] at ended
      exact endless ended
    · intro endless part member
      rw [starts.ended_iff plain ' '] at endless
      exact tiles.stop_le member rfl starts.head? endless

/-- Behind two tags one starts that has no end, since the bracket is behind a hyphen. -/
theorem scan_covers_unterminated :
    let namespaces := ["form", "static"]
    let before := "ä>\n<form:a x=->ß></FORM:a>".toList
    let behind := "<static:if b->".toList
    let found := scan namespaces (before ++ behind)
    (∀ name ∈ namespaces, '>' ∉ name.toList) ∧ found.Outside (Text.byteSize before) ∧
      Starts namespaces behind ⟨false, "static".toList, "if".toList⟩ " b->".toList ∧
      Covers found (before ++ behind) ∧ found.parts.length = 2 ∧ ¬ Ended 'f' " b->".toList ∧
      ∀ part ∈ found.parts, part.tag.stop.offset ≤ Text.byteSize before := by
  intro namespaces before behind found
  have plain : ∀ name ∈ namespaces, '>' ∉ name.toList := by decide +kernel
  have outside : found.Outside (Text.byteSize before) := by decide +kernel
  have starts : Starts namespaces behind ⟨false, "static".toList, "if".toList⟩ " b->".toList :=
    start?_sound (by decide +kernel)
  obtain ⟨covers, -, readings⟩ := scan_covers namespaces (before ++ behind)
  obtain ⟨unended, last⟩ := readings plain before behind _ _ rfl starts
  have endless := unended outside
  exact ⟨plain, outside, starts, covers, by decide +kernel, endless, last endless⟩

/-- A listed namespace with a closing bracket in it may hide a tag of another one, and what starts
without an end because of it may have a tag within. -/
theorem scan_bracket_in_namespace :
    let first := scan ["a:b>c", "a"] "<a:b>c:d".toList
    let second := scan ["a<b:c>d", "b"] "<a<b:c>d:x".toList
    (Starts ["a:b>c", "a"] "<a:b>c:d".toList ⟨false, ['a'], ['b']⟩ ">c:d".toList ∧
        Ended 'b' ">c:d".toList ∧ first.Outside 0) ∧
      Starts ["a<b:c>d", "b"] "<a<b:c>d:x".toList ⟨false, "a<b:c>d".toList, ['x']⟩ [] ∧
        ¬ Ended 'x' [] ∧ ∃ part ∈ second.parts, 0 < part.tag.start.offset := by
  intro first second
  have listed : ∃ name ∈ ["a:b>c", "a"], Text.Caseless name.toList ['a'] :=
    ⟨"a", by decide, .cons (by decide +kernel) .nil⟩
  have starts : Starts ["a:b>c", "a"] "<a:b>c:d".toList ⟨false, ['a'], ['b']⟩ ">c:d".toList :=
    ⟨listed, by decide, List.all_iff_forall_prop.mp (by decide), by rintro c ⟨⟩; decide, rfl⟩
  refine ⟨⟨starts, by decide +kernel, by decide +kernel⟩, start?_sound (by decide +kernel),
    Ended.not_nil, by decide +kernel⟩

end Markup

end Stencil
