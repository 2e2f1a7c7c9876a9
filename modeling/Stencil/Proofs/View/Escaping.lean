import Stencil.Proofs.Html
import Stencil.Proofs.Text
import Stencil.View

/-!
# What a rendered view is made of

A rendered view is put together from pieces: literal text of its template, markup of the
renderer, and data. `SegmentWrites` says which pieces each kind of segment leaves. All data is
escaped on the way, so that it neither starts nor ends markup.
-/
namespace Stencil.View

/-- Where a piece of rendered text comes from. -/
inductive Piece.Kind where
  | literal
  | markup
  | data

/-- A stretch of rendered text with a single origin. -/
structure Piece where
  kind : Piece.Kind
  text : List Char

namespace Piece

def literal (s : String) : Piece := ⟨.literal, s.toList⟩

def markup (s : String) : Piece := ⟨.markup, s.toList⟩

def data (shown : List Char) : Piece := ⟨.data, shown⟩

def join (pieces : List Piece) : List Char := pieces.flatMap Piece.text

/-- A piece or what is left of it, to its end or to a percent sign: every placeholder of an
error template starts with one. -/
def PartOf (part whole : Piece) : Prop :=
  part.kind = whole.kind ∧
    ∃ before after, whole.text = before ++ (part.text ++ after) ∧ ∀ c ∈ after.head?, c = '%'

end Piece

/-- The pieces of an option element. -/
inductive OptionWrites (selected : List String) (option : SelectOption) : List Piece → Prop where
  | element {value title : List Char} : Html.Shows value option.value.toList →
      Html.Shows title option.title.toList →
      OptionWrites selected option
        ([.markup "<option value=\"", .data value, .markup "\""]
          ++ (if selected.contains option.value then [.markup selectedMark] else [])
          ++ [.markup ">", .data title, .markup "</option>\n"])

/-- The pieces an error may leave in its template. A placeholder can also come about within
the name, or where the name meets the template, so that only a part of either is left. -/
inductive FillsIn (template name message : String) : Piece → Prop where
  | template {part : Piece} : part.PartOf (.literal template) → FillsIn template name message part
  | name {part : Piece} {shown : List Char} : Html.Shows shown name.toList →
      part.PartOf (.data shown) → FillsIn template name message part
  | message {shown : List Char} : Html.Shows shown message.toList →
      FillsIn template name message (.data shown)

/-- The pieces of an error template for one error. -/
def ErrorWrites (template : String) (error : String × String) (pieces : List Piece) : Prop :=
  ∀ piece ∈ pieces, FillsIn template error.1 error.2 piece

mutual
/-- The pieces a segment writes, and the assigned values behind it. -/
inductive SegmentWrites (context : Context) :
    Dict Value → Segment → List Piece → Dict Value → Prop where
  | text (locals : Dict Value) (s : String) :
      SegmentWrites context locals (.text s) [.literal s] locals
  | echo {locals : Dict Value} {expr : Expr} {shown : List Char} :
      Html.Shows shown (expr.eval (scope context locals)).text.toList →
      SegmentWrites context locals (.echo expr) [.data shown] locals
  | assign (locals : Dict Value) (name : String) (expr : Expr) :
      SegmentWrites context locals (.assign name expr) []
        (locals.insert name (expr.eval (scope context locals)))
  | fieldValue {locals : Dict Value} {name : String} {fallback : Option String}
      {shown : List Char} :
      Html.Shows shown (fieldValue context.request name fallback).toList →
      SegmentWrites context locals (.fieldValue name fallback) [.data shown] locals
  | checked (locals : Dict Value) (name on : String) (fallback : Option String) :
      SegmentWrites context locals (.checked name on fallback)
        (if isChecked context.request name on fallback then [.markup checkedMark] else [])
        locals
  | radioChecked (locals : Dict Value) (name value : String) (fallback : Option String) :
      SegmentWrites context locals (.radioChecked name value fallback)
        (if fieldValue context.request name fallback = value then [.markup checkedMark] else [])
        locals
  | options {locals : Dict Value} {name : String} {source : OptionSource}
      {fallback : Option String} {multiple : Bool} {elements : List (List Piece)} :
      List.Forall₂ (OptionWrites (selectedValues context.request name fallback multiple))
        (source.resolve context.request) elements →
      SegmentWrites context locals (.options name source fallback multiple) elements.flatten locals
  | noErrors {locals : Dict Value} {body : List Segment} : context.errors.isEmpty = true →
      SegmentWrites context locals (.ifErrors body) [] locals
  | ifErrors {locals after : Dict Value} {body : List Segment} {pieces : List Piece} :
      context.errors.isEmpty = false → Writes context locals body pieces after →
      SegmentWrites context locals (.ifErrors body) pieces after
  | eachError {locals : Dict Value} {template : String} {filled : List (List Piece)} :
      List.Forall₂ (ErrorWrites template) context.errors.entries filled →
      SegmentWrites context locals (.eachError template) filled.flatten locals

/-- The pieces of segments, one segment after the other. -/
inductive Writes (context : Context) :
    Dict Value → List Segment → List Piece → Dict Value → Prop where
  | nil (locals : Dict Value) : Writes context locals [] [] locals
  | cons {locals between after : Dict Value} {segment : Segment} {rest : List Segment}
      {pieces more : List Piece} : SegmentWrites context locals segment pieces between →
      Writes context between rest more after →
      Writes context locals (segment :: rest) (pieces ++ more) after
end

mutual
/-- The literal texts in a segment, error templates among them. -/
def literals : Segment → List String
  | .text s | .eachError s => [s]
  | .ifErrors body => literalsIn body
  | _ => []

def literalsIn : List Segment → List String
  | [] => []
  | segment :: rest => literals segment ++ literalsIn rest
end

/-- The markup that rendering adds by itself. -/
def fixedMarkup : List String :=
  [checkedMark, selectedMark, "<option value=\"", "\"", ">", "</option>\n"]

/-- Literal text of a template, markup of the renderer, or data without markup. -/
inductive Piece.Allowed (texts : List String) : Piece → Prop where
  | literal {text : List Char} {s : String} : s ∈ texts → text <:+: s.toList →
      Allowed texts ⟨.literal, text⟩
  | markup {s : String} : s ∈ fixedMarkup → Allowed texts (.markup s)
  | data {shown : List Char} : Html.Inert shown → Allowed texts (.data shown)

/-! ### Pieces under replacing -/

namespace Piece

@[simp]
theorem join_append (pieces more : List Piece) : join (pieces ++ more) = join pieces ++ join more :=
  List.flatMap_append

theorem PartOf.refl (piece : Piece) : piece.PartOf piece := ⟨rfl, [], [], by simp, by simp⟩

theorem PartOf.trans {part middle whole : Piece} (inner : part.PartOf middle)
    (outer : middle.PartOf whole) : part.PartOf whole := by
  obtain ⟨kind, before, after, cut, stop⟩ := inner
  obtain ⟨kind', before', after', cut', stop'⟩ := outer
  refine ⟨kind.trans kind', before' ++ before, after ++ after', by simp [cut', cut], ?_⟩
  -- What follows the part is what follows it inside, or what follows the whole of that.
  cases after with
  | nil => exact stop'
  | cons c after => exact stop

private theorem partOf_of_suffix {part whole : Piece} (kind : part.kind = whole.kind)
    (suffix : part.text <:+ whole.text) : part.PartOf whole := by
  obtain ⟨before, cut⟩ := suffix
  exact ⟨kind, before, [], by simp [cut], by simp⟩

/-- What is left of inert data is inert: no entity holds a percent sign. -/
theorem PartOf.inert {part whole : Piece} (isPart : part.PartOf whole)
    (inert : Html.Inert whole.text) : Html.Inert part.text := by
  obtain ⟨-, before, after, cut, stop⟩ := isPart
  have behind : Html.Inert (part.text ++ after) := inert.of_suffix ⟨before, cut.symm⟩
  refine behind.of_append fun c next => ?_
  rw [stop c next]
  decide

/-- That every piece is what is left of one of some others. -/
def PartsOf (parts pieces : List Piece) : Prop :=
  ∀ part ∈ parts, ∃ whole ∈ pieces, part.PartOf whole

theorem PartsOf.trans {parts middle pieces : List Piece} (inner : PartsOf parts middle)
    (outer : PartsOf middle pieces) : PartsOf parts pieces := by
  intro part within
  obtain ⟨half, within, isPart⟩ := inner part within
  obtain ⟨whole, within, isHalf⟩ := outer half within
  exact ⟨whole, within, isPart.trans isHalf⟩

theorem PartsOf.refl (pieces : List Piece) : PartsOf pieces pieces :=
  fun part within => ⟨part, within, .refl part⟩

theorem PartsOf.cons {part whole : Piece} {parts pieces : List Piece} (isPart : part.PartOf whole)
    (rest : PartsOf parts pieces) : PartsOf (part :: parts) (whole :: pieces) := by
  intro other within
  obtain rfl | within := List.mem_cons.mp within
  · exact ⟨whole, List.mem_cons_self, isPart⟩
  · obtain ⟨found, within, isPart⟩ := rest other within
    exact ⟨found, List.mem_cons_of_mem whole within, isPart⟩

/-- Pieces whose text is cut in two. Parts of them are left behind the cut, and before it if
the cut is at a percent sign. -/
private theorem exists_cut {pieces : List Piece} {before rest : List Char}
    (joined : join pieces = before ++ rest) :
    ∃ left right, join left = before ∧ join right = rest ∧ PartsOf right pieces ∧
      ((∀ c ∈ rest.head?, c = '%') → PartsOf left pieces) := by
  induction pieces generalizing before with
  | nil =>
    obtain ⟨rfl, rfl⟩ := List.append_eq_nil_iff.mp joined.symm
    exact ⟨[], [], rfl, rfl, nofun, fun _ => nofun⟩
  | cons piece pieces ih =>
    rw [join, List.flatMap_cons] at joined
    obtain ⟨more, rfl, later⟩ | ⟨behind, cut, rfl⟩ := List.append_eq_append_iff.mp joined
    · -- The cut lies behind this piece.
      obtain ⟨left, right, rfl, rfl, rightParts, leftParts⟩ := ih later
      refine ⟨piece :: left, right, rfl, rfl, ?_, ?_⟩
      · intro part within
        obtain ⟨whole, known, isPart⟩ := rightParts part within
        exact ⟨whole, List.mem_cons_of_mem piece known, isPart⟩
      · exact fun stop => .cons (.refl piece) (leftParts stop)
    · -- The cut lies in this piece, or at its end.
      refine ⟨[⟨piece.kind, before⟩], ⟨piece.kind, behind⟩ :: pieces, by simp [join],
        by simp [join], ?_, fun stop => ?_⟩
      · exact .cons (partOf_of_suffix rfl ⟨before, cut.symm⟩) (.refl pieces)
      · refine .cons ⟨rfl, [], behind, cut, ?_⟩ nofun
        cases behind with
        | nil => nofun
        | cons c behind => exact stop

/-- Replacing leaves parts of the pieces there were, with the new piece in between. -/
private theorem exists_replaced {needle text done : List Char} {new : Piece}
    (percent : needle.head? = some '%') (replaced : Text.Replaced needle new.text text done)
    {pieces : List Piece} (joined : join pieces = text) :
    ∃ parts, join parts = done ∧
      ∀ part ∈ parts, part = new ∨ ∃ whole ∈ pieces, part.PartOf whole := by
  have stop (rest : List Char) : ∀ c ∈ (needle ++ rest).head?, c = '%' := by
    intro c first
    rw [List.head?_append, percent] at first
    exact (Option.some.inj first).symm
  induction replaced generalizing pieces with
  | done text => exact ⟨pieces, joined, fun part within => .inr ⟨part, within, .refl part⟩⟩
  | next before replaced ih =>
    -- An occurrence may lie across pieces, so they are cut in front of it and behind it.
    obtain ⟨left, tail, rfl, behind, tailParts, leftParts⟩ := exists_cut joined
    obtain ⟨_, right, -, rest, rightParts, -⟩ := exists_cut behind
    obtain ⟨parts, rfl, origin⟩ := ih rest
    refine ⟨left ++ new :: parts, by simp [join], ?_⟩
    intro part within
    obtain inLeft | inRest := List.mem_append.mp within
    · exact .inr (leftParts (stop _) part inLeft)
    · obtain rfl | inParts := List.mem_cons.mp inRest
      · exact .inl rfl
      · refine (origin part inParts).imp_right ?_
        rintro ⟨half, within, isPart⟩
        obtain ⟨whole, within, isHalf⟩ := rightParts.trans tailParts half within
        exact ⟨whole, within, isPart.trans isHalf⟩

private theorem exists_replaceAll {needle : List Char} (percent : needle.head? = some '%')
    (new : Piece) (pieces : List Piece) :
    ∃ parts, join parts = Text.replaceAll needle new.text (join pieces) ∧
      ∀ part ∈ parts, part = new ∨ ∃ whole ∈ pieces, part.PartOf whole := by
  have present : needle ≠ [] := by
    rintro rfl
    cases percent
  exact exists_replaced percent (Text.replaced_replaceAll present _) rfl

end Piece

open View.Piece (join)

/-- The name is filled in first, and the message into what comes of that. -/
private theorem exists_errorWrites (template : String) (error : String × String) :
    ∃ pieces, ErrorWrites template error pieces ∧
      (fillError template error.1 error.2).toList = join pieces := by
  have nameMark : "%param".toList.head? = some '%' := by decide
  have messageMark : "%error".toList.head? = some '%' := by decide
  obtain ⟨named, joined, origin⟩ := Piece.exists_replaceAll nameMark
    (.data (Html.escape error.1).toList) [.literal template]
  obtain ⟨pieces, filled, origin'⟩ := Piece.exists_replaceAll messageMark
    (.data (Html.escape error.2).toList) named
  refine ⟨pieces, ?_, ?_⟩
  · intro piece within
    -- The message stands as a whole; what was there before it may have been cut again.
    obtain rfl | ⟨half, within, isPart⟩ := origin' piece within
    · exact .message (Html.shows_escape error.2)
    · obtain rfl | ⟨whole, within, isHalf⟩ := origin half within
      · exact .name (Html.shows_escape error.1) isPart
      · obtain rfl := List.mem_singleton.mp within
        exact .template (isPart.trans isHalf)
  · rw [filled, joined, fillError, String.toList_ofList]
    simp [join, Piece.literal, Piece.data]

-- A placeholder of template and name is a placeholder all the same.
example : fillError "<%err%param" "or" "<" = "<&lt;" := by decide +kernel

/-- Joining elements that are written one by one. -/
private theorem exists_pieces {α : Type} {wrote : α → List Piece → Prop} {text : α → String}
    (each : ∀ x, ∃ pieces, wrote x pieces ∧ (text x).toList = join pieces) (xs : List α) :
    ∃ written, List.Forall₂ wrote xs written ∧
      (String.join (xs.map text)).toList = join written.flatten := by
  induction xs with
  | nil => exact ⟨[], .nil, by simp [join]⟩
  | cons x xs ih =>
    obtain ⟨pieces, wrote, same⟩ := each x
    obtain ⟨written, rest, joined⟩ := ih
    exact ⟨pieces :: written, .cons wrote rest, by simp [same, joined]⟩

private theorem exists_optionWrites (selected : List String) (option : SelectOption) :
    ∃ pieces, OptionWrites selected option pieces ∧
      (optionElement selected option).toList = join pieces := by
  refine ⟨_, .element (Html.shows_escape option.value) (Html.shows_escape option.title), ?_⟩
  unfold optionElement
  split <;> simp [join, Piece.markup, Piece.data]

private theorem toList_ite_mark {p : Prop} [Decidable p] (mark : String) :
    (if p then mark else "").toList = join (if p then [.markup mark] else []) := by
  split <;> simp [join, Piece.markup]

mutual

private theorem exists_segmentWrites (context : Context) (locals : Dict Value) (segment : Segment) :
    ∃ pieces, SegmentWrites context locals segment pieces
        (renderSegment context locals segment).2 ∧
      (renderSegment context locals segment).1.toList = join pieces := by
  cases segment with
  | text s => exact ⟨_, .text locals s, by simp [renderSegment, join, Piece.literal]⟩
  | echo expr =>
    exact ⟨_, .echo (Html.shows_escape _), by simp [renderSegment, join, Piece.data]⟩
  | assign name expr => exact ⟨_, .assign locals name expr, by simp [renderSegment, join]⟩
  | fieldValue name fallback =>
    exact ⟨_, .fieldValue (Html.shows_escape _), by simp [renderSegment, join, Piece.data]⟩
  | checked name on fallback => exact ⟨_, .checked locals name on fallback, toList_ite_mark _⟩
  | radioChecked name value fallback =>
    exact ⟨_, .radioChecked locals name value fallback, toList_ite_mark _⟩
  | options name source fallback multiple =>
    obtain ⟨elements, each, joined⟩ := exists_pieces
      (exists_optionWrites (selectedValues context.request name fallback multiple))
      (source.resolve context.request)
    exact ⟨elements.flatten, .options each, joined⟩
  | ifErrors body =>
    -- The body is shown only if there are errors.
    cases none : context.errors.isEmpty with
    | true =>
      have skipped : renderSegment context locals (.ifErrors body) = ("", locals) := by
        rw [renderSegment, if_pos none]
      rw [skipped]
      exact ⟨[], .noErrors none, rfl⟩
    | false =>
      have shown : renderSegment context locals (.ifErrors body)
          = renderFrom context locals body := by
        rw [renderSegment, if_neg (by simp [none])]
      obtain ⟨pieces, wrote, same⟩ := exists_writes context locals body
      rw [shown]
      exact ⟨pieces, .ifErrors none wrote, same⟩
  | eachError template =>
    obtain ⟨filled, each, joined⟩ := exists_pieces (exists_errorWrites template)
      context.errors.entries
    exact ⟨filled.flatten, .eachError each, joined⟩

private theorem exists_writes (context : Context) (locals : Dict Value) (body : List Segment) :
    ∃ pieces, Writes context locals body pieces (renderFrom context locals body).2 ∧
      (renderFrom context locals body).1.toList = join pieces := by
  cases body with
  | nil => exact ⟨[], .nil locals, rfl⟩
  | cons segment rest =>
    obtain ⟨pieces, wrote, same⟩ := exists_segmentWrites context locals segment
    obtain ⟨more, later, joined⟩ :=
      exists_writes context (renderSegment context locals segment).2 rest
    exact ⟨pieces ++ more, .cons wrote later, by simp [renderFrom, same, joined]⟩

end

/-! ### What pieces may be -/

namespace Piece.Allowed

variable {texts more : List String} {piece : Piece}

theorem mono (allowed : Allowed texts piece) (within : texts ⊆ more) : Allowed more piece := by
  cases allowed with
  | literal known part => exact .literal (within known) part
  | markup fixed => exact .markup fixed
  | data inert => exact .data inert

private theorem of_optionWrites {selected : List String} {option : SelectOption}
    {pieces : List Piece} (wrote : OptionWrites selected option pieces) (within : piece ∈ pieces) :
    Allowed texts piece := by
  obtain ⟨value, title⟩ := wrote
  have mark : ∀ piece ∈ if selected.contains option.value then [.markup selectedMark] else [],
      Allowed texts piece := by
    split
    · simpa using .markup (by decide)
    · simp
  simp only [List.mem_append, List.mem_cons, List.not_mem_nil, or_false] at within
  obtain ((rfl | rfl | rfl) | marked) | rfl | rfl | rfl := within
  · exact .markup (by decide)
  · exact .data value.inert
  · exact .markup (by decide)
  · exact mark piece marked
  · exact .markup (by decide)
  · exact .data title.inert
  · exact .markup (by decide)

private theorem of_fillsIn {template name message : String}
    (fills : FillsIn template name message piece) : Allowed [template] piece := by
  cases fills with
  | template isPart =>
    obtain ⟨kind, text⟩ := piece
    obtain ⟨rfl, before, after, cut, -⟩ := isPart
    exact .literal List.mem_cons_self ⟨before, after, by rw [List.append_assoc]; exact cut.symm⟩
  | name shows isPart =>
    have inert := isPart.inert shows.inert
    obtain ⟨kind, text⟩ := piece
    obtain ⟨rfl, -⟩ := isPart
    exact .data inert
  | message shows => exact .data shows.inert

/-- Joining groups of pieces that are allowed one group at a time. -/
theorem of_forall₂ {α : Type} {wrote : α → List Piece → Prop} {xs : List α}
    {written : List (List Piece)} (each : List.Forall₂ wrote xs written)
    (allowed : ∀ x pieces, wrote x pieces → ∀ piece ∈ pieces, Allowed texts piece) :
    ∀ piece ∈ written.flatten, Allowed texts piece := by
  induction each with
  | nil => nofun
  | cons first rest ih =>
    rw [List.flatten_cons]
    exact List.forall_mem_append.mpr ⟨allowed _ _ first, ih⟩

end Piece.Allowed

mutual

private theorem allowed_of_segmentWrites {context : Context} {locals after : Dict Value}
    {pieces : List Piece} (segment : Segment)
    (wrote : SegmentWrites context locals segment pieces after) :
    ∀ piece ∈ pieces, piece.Allowed (literals segment) := by
  cases wrote with
  | text _ s => simpa using .literal List.mem_cons_self (List.infix_refl _)
  | echo shows => simpa using .data shows.inert
  | assign => nofun
  | fieldValue shows => simpa using .data shows.inert
  | checked =>
    split
    · simpa using .markup (by decide)
    · nofun
  | radioChecked =>
    split
    · simpa using .markup (by decide)
    · nofun
  -- Lists of pieces are allowed piece by piece.
  | options each =>
    refine .of_forall₂ each fun option pieces wrote piece within => ?_
    exact .of_optionWrites wrote within
  | noErrors => nofun
  | ifErrors _ wrote => exact allowed_of_writes _ wrote
  | eachError each =>
    refine .of_forall₂ each fun error pieces fills piece within => ?_
    exact .of_fillsIn (fills piece within)

private theorem allowed_of_writes {context : Context} {locals after : Dict Value}
    {pieces : List Piece} (body : List Segment) (wrote : Writes context locals body pieces after) :
    ∀ piece ∈ pieces, piece.Allowed (literalsIn body) := by
  cases body with
  | nil =>
    cases wrote
    nofun
  | cons segment rest =>
    cases wrote with
    | cons first later =>
      refine List.forall_mem_append.mpr ⟨fun piece within => ?_, fun piece within => ?_⟩
      · exact (allowed_of_segmentWrites segment first piece within).mono
          (List.subset_append_left _ _)
      · exact (allowed_of_writes rest later piece within).mono (List.subset_append_right _ _)

end

/-- Whatever is submitted and whatever the errors are, a rendered view consists of literal text
of its template, of markup of the renderer, and of escaped data, each in its place. -/
theorem exists_render_eq_join (view : View) (request : Request) (errors : Dict String) :
    ∃ pieces after, Writes ⟨request, errors⟩ .empty view.body pieces after ∧
      view.render request errors = String.ofList (join pieces) ∧
      ∀ piece ∈ pieces, piece.Allowed (literalsIn view.body) := by
  obtain ⟨pieces, wrote, same⟩ := exists_writes ⟨request, errors⟩ .empty view.body
  refine ⟨pieces, _, wrote, ?_, allowed_of_writes view.body wrote⟩
  rw [← same, String.ofList_toList]
  rfl

end Stencil.View
