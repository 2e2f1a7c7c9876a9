import Stencil.Proofs.Html
import Stencil.Proofs.Inputs.Left
import Stencil.Proofs.Placeholder.Cut
import Stencil.Proofs.Text.Caseless

/-!
# The inputs that a view shows

What a tag leaves goes into the tags around it, and the final pass goes over what comes of
that. An input stays as it is, as long as its value is not taken for a placeholder or for the
end of an error template. The view has no other inputs.
-/
namespace Stencil

/-! ### Inputs in a fragment -/

/-- The attribute of an input that carries a value. -/
def valueAttribute (value : String) : List Char :=
  [' ', 'v', 'a', 'l', 'u', 'e', '=', '"'] ++ ((Html.escape value).toList ++ ['"'])

private theorem toList_valueAttribute (text value : String) :
    (text ++ " value=\"" ++ Html.escape value ++ "\"").toList
      = text.toList ++ valueAttribute value := by
  have opened : " value=\"".toList = [' ', 'v', 'a', 'l', 'u', 'e', '=', '"'] :=
    String.toList_ofList
  have closed : "\"".toList = ['"'] := String.toList_ofList
  simp only [String.toList_append, opened, closed, valueAttribute, List.append_assoc]

private theorem not_mem_valueAttribute {value : String} {c : Char} (absent : c ∉ value.toList)
    (outside : ∀ entity ∈ Html.entities, c ∉ entity) (sign : c ∉ [' ', 'v', 'a', 'l', 'u', 'e', '=', '"']) :
    c ∉ valueAttribute value := by
  have escaped := Html.not_mem_escape absent outside
  have quote : c ≠ '"' := by
    rintro rfl
    exact sign (by decide)
  simp only [valueAttribute, List.mem_append, List.mem_singleton, not_or]
  exact ⟨sign, escaped, quote⟩

namespace Fragment

/-- That a fragment, or what is in it for the case of errors, has an input with a value: a text
that ends with its attribute, and the control behind it. -/
inductive Shows (value : String) (control : Segment) : Fragment → Prop where
  | here {s : String} {rest : Fragment} : valueAttribute value <:+ s.toList →
      Shows value control (.text s :: control :: rest)
  | within {body rest : Fragment} : Shows value control body →
      Shows value control (.ifErrors body :: rest)
  | later {segment : Segment} {rest : Fragment} : Shows value control rest →
      Shows value control (segment :: rest)

variable {fragment other : Fragment} {value : String} {control : Segment}

private theorem Shows.of_hasInput (has : fragment.HasInput value control) :
    fragment.Shows value control := by
  obtain ⟨before, text, after, rfl⟩ := has
  induction before with
  | nil =>
    exact .here ⟨text.toList, (toList_valueAttribute text value).symm⟩
  | cons segment rest ih => exact .later ih

theorem Shows.of_append (shows : other.Shows value control) (before : Fragment) :
    Shows value control (before ++ other) := by
  induction before with
  | nil => exact shows
  | cons segment rest ih => exact .later ih

private theorem Shows.append_segment (shows : fragment.Shows value control) (segment : Segment) :
    Shows value control (fragment ++ [segment]) := by
  induction shows with
  | here ends => exact .here ends
  | within inside _ => exact .within inside
  | later _ ih => exact .later ih

/-- Text joins a text at the end only, which is not the one of an input. -/
theorem Shows.pushText (shows : fragment.Shows value control) (notText : ∀ t, control ≠ .text t)
    (s : String) : (fragment.pushText s).Shows value control := by
  have more {segment : Segment} {rest : Fragment} (filled : rest ≠ []) :
      pushNonempty s (segment :: rest) = segment :: pushNonempty s rest :=
    pushNonempty.eq_3 s segment rest fun _ _ empty => filled empty
  unfold Fragment.pushText
  split
  · exact shows
  · induction shows with
    | @here t rest ends =>
      have pushed := pushNonempty_append s [.text t] notText rest
      exact pushed ▸ .here ends
    | @within body rest inside _ =>
      have noText : ∀ t, Segment.ifErrors body ≠ .text t := fun t same => by cases same
      have pushed := pushNonempty_append s [] noText rest
      exact pushed ▸ .within inside
    | later inside ih =>
      rw [more (by rintro rfl; cases inside)]
      exact .later ih

theorem Shows.push (shows : fragment.Shows value control) (notText : ∀ t, control ≠ .text t)
    (segment : Segment) : (fragment.push segment).Shows value control := by
  cases segment with
  | text s => exact shows.pushText notText s
  | _ => exact shows.append_segment _

theorem Shows.append (shows : fragment.Shows value control) (notText : ∀ t, control ≠ .text t)
    (other : Fragment) : (fragment.append other).Shows value control := by
  induction other generalizing fragment with
  | nil => exact shows
  | cons segment rest ih => exact ih (shows.push notText segment)

/-- A text with an attribute at its end that is added before a control. -/
private theorem shows_push {s : String} (ends : valueAttribute value <:+ s.toList)
    (notText : ∀ t, control ≠ .text t) (fragment : Fragment) :
    ((fragment.pushText s).push control).Shows value control := by
  have filled : s ≠ "" := by
    rintro rfl
    have empty := List.suffix_nil.mp ends
    simp [valueAttribute] at empty
  obtain ⟨before, t, pushed⟩ := exists_pushNonempty_eq s fragment
  have ends' : valueAttribute value <:+ (t ++ s).toList := by
    rw [String.toList_append]
    exact ends.trans (List.suffix_append _ _)
  have shows : Shows value control (before ++ [.text (t ++ s), control]) :=
    .of_append (.here ends') before
  rw [Fragment.pushText, if_neg (by simpa using filled), pushed]
  cases control with
  | text t => exact absurd rfl (notText t)
  | _ => simpa [Fragment.push] using shows

/-- What is joined to a fragment shows in it what it shows. -/
theorem Shows.joined (shows : other.Shows value control) (notText : ∀ t, control ≠ .text t)
    (fragment : Fragment) : (fragment.append other).Shows value control := by
  induction shows generalizing fragment with
  | @here s rest ends => exact (shows_push ends notText fragment).append notText rest
  | @within body rest inside _ =>
    have added : Shows value control (fragment ++ [.ifErrors body]) :=
      .of_append (.within inside) fragment
    exact added.append notText rest
  | @later segment rest _ ih => exact ih (fragment.push segment)

end Fragment

/-- Whether a segment is a text that ends with the attribute of a value. -/
def Segment.carries (value : String) : Segment → Bool
  | .text s => (valueAttribute value).isSuffixOf s.toList
  | _ => false

/-- Inputs can be looked for among segments side by side. -/
theorem Fragment.exists_shows {fragment : Fragment} {value : String} {marks : Segment → Prop}
    (found : ∃ pair ∈ fragment.zip fragment.tail, pair.1.carries value ∧ marks pair.2) :
    ∃ control, marks control ∧ fragment.Shows value control := by
  obtain ⟨pair, member, carries, marked⟩ := found
  refine ⟨pair.2, marked, ?_⟩
  induction fragment with
  | nil => cases member
  | cons first rest ih =>
    cases rest with
    | nil => cases member
    | cons second rest =>
      rcases List.mem_cons.mp member with rfl | later
      · cases first with
        | text s => exact .here (List.isSuffixOf_iff_suffix.mp carries)
        | _ => cases carries
      · exact .later (ih later)

/-! ### Inputs in what tags leave -/

/-- Behind the last occurrence of a character is every end of the text without it. -/
private theorem suffix_of_not_mem {α : Type} {stop : α} {ending before after : List α}
    (ends : ending <:+ before ++ stop :: after) (absent : stop ∉ ending) : ending <:+ after := by
  rcases List.suffix_or_suffix_of_suffix ends (List.suffix_append before _) with inside | beyond
  · rcases List.suffix_cons_iff.mp inside with rfl | inside
    · exact absurd List.mem_cons_self absent
    · exact inside
  · exact absurd (beyond.mem List.mem_cons_self) absent

/-- A mark that ends with a bracket is found before every end of a text without one. -/
theorem Text.suffix_of_splitAtFirstCaseless {mark text before rest ending : List Char}
    (found : splitAtFirstCaseless (mark ++ [']']) text = some (before, rest))
    (ends : ending <:+ text) (absent : ']' ∉ ending) : ending <:+ rest := by
  obtain ⟨written, alike, rfl⟩ := exists_of_splitAtFirstCaseless found
  obtain ⟨front, d, rfl, same⟩ := alike.exists_last
  have bracket : d = ']' := by
    have folded := Unicode.sameCaseless_iff_mem.mp same
    rw [Unicode.caseClass_sign (by decide) (by decide), List.mem_singleton] at folded
    exact folded.elim Eq.symm id
  subst bracket
  have whole : before ++ (front ++ [']'] ++ rest) = before ++ front ++ ']' :: rest := by simp
  exact suffix_of_not_mem (whole ▸ ends) absent

/-- Behind an error template is every end of the text without the bracket it ends with. -/
theorem Node.suffix_of_errorTemplate? {text before template after ending : List Char}
    (found : errorTemplate? text = some (before, template, after)) (ends : ending <:+ text)
    (absent : ']' ∉ ending) : ending <:+ after := by
  have opens : "[error]".toList = ['[', 'e', 'r', 'r', 'o', 'r'] ++ [']'] := String.toList_ofList
  have closes : "[/error]".toList = ['[', '/', 'e', 'r', 'r', 'o', 'r'] ++ [']'] :=
    String.toList_ofList
  obtain ⟨⟨front, rest⟩, first, found⟩ := Option.bind_eq_some_iff.mp found
  obtain ⟨⟨inner, behind⟩, second, found⟩ := Option.bind_eq_some_iff.mp found
  cases found
  rw [opens] at first
  rw [closes] at second
  exact Text.suffix_of_splitAtFirstCaseless second
    (Text.suffix_of_splitAtFirstCaseless first ends absent) absent

namespace Fragment

variable {fragment other : Fragment} {value : String} {control : Segment}

private theorem Shows.errorsFrom_left (shows : fragment.Shows value control)
    (notText : ∀ t, control ≠ .text t) (body : List Segment) :
    (Node.errorsFrom fragment body).Shows value control := by
  induction body generalizing fragment with
  | nil => exact shows
  | cons segment rest ih =>
    cases segment with
    | text s =>
      rw [Node.errorsFrom]
      split
      · exact (((shows.pushText notText _).push notText _).pushText notText _).append notText rest
      · exact ih (shows.pushText notText s)
    | _ => exact ih (shows.push notText _)

/-- Errors tags show the inputs in their body, if no value of one may end an error template. -/
theorem Shows.errorsFrom (shows : other.Shows value control) (notText : ∀ t, control ≠ .text t)
    (closed : ']' ∉ valueAttribute value) (fragment : Fragment) :
    (Node.errorsFrom fragment other).Shows value control := by
  induction shows generalizing fragment with
  | @here s rest ends =>
    rw [Node.errorsFrom]
    split
    · next before template after found =>
      -- The template lies in the text before the attribute, which is left behind it.
      have ends' : valueAttribute value <:+ (String.ofList after).toList := by
        rw [String.toList_ofList]
        exact Node.suffix_of_errorTemplate? found ends closed
      exact (shows_push ends' notText _).append notText rest
    · have shown := (shows_push ends notText fragment).errorsFrom_left notText rest
      cases control with
      | text t => exact absurd rfl (notText t)
      | _ => exact shown
  | @within body rest inside _ =>
    have added : Shows value control (fragment ++ [.ifErrors body]) :=
      .of_append (.within inside) fragment
    exact added.errorsFrom_left notText rest
  | @later segment rest inside ih =>
    cases segment with
    | text s =>
      rw [Node.errorsFrom]
      split
      · exact inside.joined notText _
      · exact ih _
    | _ => exact ih _

end Fragment

/-- A tag that is no value tag shows the inputs in its body. -/
theorem Node.shows_render (messages : Messages) {node : Node} {value : String} {control : Segment}
    (shows : node.body.Shows value control) (notText : ∀ t, control ≠ .text t)
    (noValue : node.kind.isValueTag = false)
    (closed : node.kind = .errors → ']' ∉ valueAttribute value) :
    (node.render messages).Shows value control := by
  unfold render
  cases kind : node.kind with
  | root | staticIf | staticSet => exact shows
  | form ids => exact (Fragment.Shows.joined shows notText _).pushText notText _
  | errors => exact .within (shows.errorsFrom notText (closed kind) [])
  | _ =>
    rw [kind] at noValue
    cases noValue

/-! ### Inputs at a place -/

/-- An input whose value is not taken for the end of an error template. -/
def Entry.EndsNoTemplate (entry : Entry) (value : String) : Prop :=
  ∀ tag ∈ entry.around, tag.kind = .errors → ']' ∉ value.toList

theorem Node.input?_inputControl (node : Node) (value : String) :
    (node.inputControl value).input? = some (node.head.fieldName, value) := by
  unfold inputControl
  split
  · rfl
  · rfl

private theorem Node.inputControl_ne_text (node : Node) (value t : String) :
    node.inputControl value ≠ .text t := by
  intro contrary
  have marks := node.input?_inputControl value
  rw [contrary] at marks
  cases marks

/-- A place shows the inputs of the tags there that are in no value tag. -/
theorem Forest.shows_of_grow {setting : Setting} {forest : Forest} {site : Site}
    (grown : forest.grow setting {} = .ok site) {entry : Entry}
    (member : entry ∈ Tree.entriesIn [] site.trees) (listed : entry.isListed) {value : String}
    (offered : value ∈ entry.tag.inputValues) (ends : entry.EndsNoTemplate value) :
    site.body.Shows value (entry.tag.inputControl value) := by
  let shown (site : Site) : Prop := ∀ entry ∈ Tree.entriesIn [] site.trees, entry.isListed →
    ∀ value ∈ entry.tag.inputValues, entry.EndsNoTemplate value →
      site.body.Shows value (entry.tag.inputControl value)
  have kept : shown site := by
    refine Forest.grow_invariant ?_ ?_ ?_ grown nofun
    · -- Text may only join what stands behind the control.
      intro site text before entry member listed value offered ends
      exact (before entry member listed value offered ends).pushText
        (entry.tag.inputControl_ne_text value) _
    · intro site around occurrence tag opened before
      obtain ⟨_, _, _, _, _, _, _, form, _, _, rfl⟩ := Site.openTag_eq_ok opened
      exact before
    · intro site around within occurrence tag _ _ inside before
      have inside : shown within := inside nofun
      intro entry member listed value offered ends
      have member : entry ∈ Tree.entriesIn [] (around.trees ++ [within.closed tag]) := member
      have notText := entry.tag.inputControl_ne_text value
      rw [Tree.entriesIn_append, Tree.entriesIn_singleton] at member
      -- A closed tag leaves its fragment behind what was there before.
      rcases List.mem_append.mp member with earlier | here
      · exact (before entry earlier listed value offered ends).append notText _
      · refine Fragment.Shows.joined ?_ notText around.body
        rcases Tree.mem_entries.mp here with rfl | ⟨inner, later, rfl⟩
        · exact .of_hasInput (Node.hasInput_render _ _ offered)
        · -- A tag inside is shown in the body, and this one passes its body on.
          have noValue := List.all_eq_true.mp listed
          have shows : within.body.Shows value (inner.tag.inputControl value) := by
            refine inside inner later (List.all_eq_true.mpr ?_) value offered ?_
            · intro tag around
              exact noValue tag (List.mem_append_left _ around)
            · intro tag around
              exact ends tag (List.mem_append_left _ around)
          have noValueTag : (within.closed tag).tag.kind.isValueTag = false := by
            simpa using noValue (within.closed tag).tag (by simp)
          refine Node.shows_render _ shows notText noValueTag ?_
          intro errors
          have absent := ends (within.closed tag).tag (by simp) errors
          exact not_mem_valueAttribute absent (by decide) (by decide)
  exact kept entry member listed value offered ends

/-! ### Inputs in the final pass -/

/-- Every placeholder ends with a closing brace. -/
theorem Placeholder.Stands.exists_text {constants : Dict String} {final : Bool}
    {written : Written} (stands : Stands constants final written) :
    ∃ front, written.text = front ++ ['}'] := by
  cases stands with
  | @kept inner | @emitted inner => exact ⟨'{' :: '{' :: inner ++ ['}'], by simp⟩
  | @attributeDoubled name => exact ⟨'{' :: '{' :: '#' :: name ++ ['}'], by simp⟩
  | @assigned inner => exact ⟨'{' :: '%' :: inner ++ ['%'], by simp⟩
  | attributeSingle | computed | constant => exact ⟨_, rfl⟩

/-- An end of a text that no placeholder can end in is the end of its last plain piece. -/
theorem Cuts.exists_last {constants : Dict String} {final : Bool} {text ending : List Char}
    {found : List Piece} (cuts : Cuts constants final text found) (ends : ending <:+ text)
    (absent : '}' ∉ ending) :
    ∃ front last, found = front ++ [.plain last] ∧ ending <:+ last := by
  induction cuts with
  | @last plain _ => exact ⟨[], plain, rfl, ends⟩
  | @next plain rest written pieces _ stands _ ih =>
    obtain ⟨inner, same⟩ := stands.exists_text
    have whole : plain ++ (written.text ++ rest) = plain ++ inner ++ '}' :: rest := by simp [same]
    obtain ⟨front, last, rfl, ends⟩ := ih (suffix_of_not_mem (whole ▸ ends) absent)
    exact ⟨.plain plain :: .placeholder written :: front, last, rfl, ends⟩

namespace Bindings

variable {bindings : Bindings} {file source value : String} {control : Segment}
  {done expanded : Fragment}

private theorem expandPieces_concat {front : List Piece} {last : List Char}
    (ran : bindings.expandPieces done (front ++ [.plain last]) = .ok expanded) :
    ∃ before, expanded = Fragment.pushText before (String.ofList last) := by
  induction front generalizing done with
  | nil =>
    cases ran
    exact ⟨done, rfl⟩
  | cons piece rest ih =>
    cases piece with
    | plain text => exact ih ran
    | placeholder written =>
      rw [List.cons_append, expandPieces] at ran
      split at ran
      · exact ih ran
      · cases ran

/-- What is put at the end of a text by an input stays there. -/
private theorem exists_of_expandText {s : String} (ran : bindings.expandText true s = .ok expanded)
    (ends : valueAttribute value <:+ s.toList) (absent : '}' ∉ valueAttribute value) :
    ∃ before t, expanded = Fragment.pushText before t ∧ valueAttribute value <:+ t.toList := by
  have cuts : Cuts bindings.constants true s.toList _ := cuts_iff.mpr rfl
  obtain ⟨front, last, found, ends⟩ := cuts.exists_last ends absent
  rw [expandText, found] at ran
  obtain ⟨before, rfl⟩ := expandPieces_concat ran
  exact ⟨before, _, rfl, by rwa [String.toList_ofList]⟩

private theorem shows_expandSegment (shows : done.Shows value control)
    (notText : ∀ t, control ≠ .text t)
    {segment : Segment} (ran : bindings.expandSegment file source done segment = .ok expanded) :
    expanded.Shows value control := by
  cases segment with
  | text s =>
    rw [expandSegment] at ran
    split at ran
    · cases ran
      exact shows.append notText _
    · cases ran
  | ifErrors body =>
    rw [expandSegment] at ran
    obtain ⟨inner, -, same⟩ := bind_eq_ok.mp ran
    cases same
    exact shows.push notText _
  | _ =>
    cases ran
    exact shows.push notText _

private theorem shows_expandSegments (shows : done.Shows value control)
    (notText : ∀ t, control ≠ .text t) {segments : List Segment}
    (ran : bindings.expandSegments file source done segments = .ok expanded) :
    expanded.Shows value control := by
  induction segments generalizing done with
  | nil =>
    cases ran
    exact shows
  | cons segment rest ih =>
    rw [expandSegments] at ran
    obtain ⟨next, first, later⟩ := bind_eq_ok.mp ran
    exact ih (shows_expandSegment shows notText first) later

/-- The final pass keeps the inputs that carry no placeholder. -/
theorem shows_of_expandSegments {segments : Fragment} (shows : segments.Shows value control)
    (marks : control.input?.isSome) (absent : '}' ∉ valueAttribute value)
    (ran : bindings.expandSegments file source done segments = .ok expanded) :
    expanded.Shows value control := by
  -- The mark is no text, so it cannot join what stands before it.
  have notText : ∀ t, control ≠ .text t := by
    rintro t rfl
    cases marks
  induction shows generalizing done expanded with
  | @here s rest ends =>
    rw [expandSegments] at ran
    obtain ⟨first, replaced, behind⟩ := bind_eq_ok.mp ran
    rw [expandSegments] at behind
    obtain ⟨second, kept, later⟩ := bind_eq_ok.mp behind
    rw [expandSegment] at replaced
    split at replaced
    · next fragment expands =>
      cases replaced
      obtain ⟨before, t, rfl, ends⟩ := exists_of_expandText expands ends absent
      -- The text still ends in the value, and the mark comes right behind it.
      have shown := Fragment.shows_push ends notText (done.append before)
      rw [← Fragment.push_text, ← Fragment.append_push, Fragment.push_text] at shown
      refine shows_expandSegments ?_ notText later
      cases control with
      | checked | radioChecked =>
        cases kept
        exact shown
      | _ => cases marks
    · cases replaced
  | @within body rest inside ih =>
    rw [expandSegments] at ran
    obtain ⟨next, first, later⟩ := bind_eq_ok.mp ran
    rw [expandSegment] at first
    obtain ⟨inner, within, same⟩ := bind_eq_ok.mp first
    cases same
    have added : Fragment.Shows value control (done ++ [.ifErrors inner]) :=
      .of_append (.within (ih within)) done
    exact shows_expandSegments added notText later
  | @later segment rest inside ih =>
    rw [expandSegments] at ran
    obtain ⟨next, -, later⟩ := bind_eq_ok.mp ran
    exact ih later

end Bindings

/-! ### Inputs of a view -/

variable {setting : Setting} {text : String} {compiled : Compiled} {site : Site}

/-- A view shows the inputs of the tags that are in no value tag, if nothing of the value is
taken for a placeholder or for the end of an error template. -/
theorem Compiled.GrownFrom.shows (grown : compiled.GrownFrom setting text site) {entry : Entry}
    (member : entry ∈ Tree.entriesIn [] site.trees) (listed : entry.isListed) {value : String}
    (offered : value ∈ entry.tag.inputValues) (closed : '}' ∉ value.toList)
    (ends : entry.EndsNoTemplate value) :
    compiled.view.body.Shows value (entry.tag.inputControl value) := by
  obtain ⟨⟨forest, -, -, grows⟩, view, -⟩ := grown
  have shown := Forest.shows_of_grow grows member listed offered ends
  have marks := entry.tag.input?_inputControl value
  refine Bindings.shows_of_expandSegments shown (marks ▸ rfl) ?_ view
  exact not_mem_valueAttribute closed (by decide) (by decide)

private theorem Segment.mem_controlsIn {segments : List Segment} {segment control : Segment}
    (isIn : segment ∈ segments) (member : control ∈ segment.controls) :
    control ∈ controlsIn segments := by
  induction segments with
  | nil => cases isIn
  | cons first rest ih =>
    rw [controlsIn, List.mem_append]
    rcases List.mem_cons.mp isIn with rfl | later
    · exact .inl member
    · exact .inr (ih later)

/-- The inputs a tag leaves are its own, or are those in its body. -/
theorem Node.mem_controls_input {messages : Messages} {node : Node} {control : Segment}
    {name value : String} (member : control ∈ Segment.controlsIn (node.render messages))
    (marks : control.input? = some (name, value)) :
    (value ∈ node.inputValues ∧ control = node.inputControl value ∧ name = node.head.fieldName) ∨
      control ∈ Segment.controlsIn node.body := by
  -- Only checkboxes and radio fields leave marks of their own.
  rw [controlsIn_render] at member
  unfold inputValues inputControl
  cases kind : node.kind with
  | checkbox =>
    simp only [kind] at member
    obtain rfl := List.mem_singleton.mp member
    cases marks
    exact .inl ⟨List.mem_singleton_self _, rfl, rfl⟩
  | radio =>
    simp only [kind] at member
    obtain ⟨segment, isIn, made⟩ := List.mem_flatMap.mp member
    cases segment with
    | text s =>
      obtain ⟨part, isPart, rfl⟩ := List.mem_map.mp made
      cases marks
      exact .inl ⟨List.mem_flatMap.mpr ⟨.text s, isIn, List.mem_map_of_mem isPart⟩, rfl, rfl⟩
    | _ => exact .inr (Segment.mem_controlsIn isIn made)
  | text style =>
    simp only [kind] at member
    split at member
    · cases member
    · obtain rfl := List.mem_singleton.mp member
      cases marks
  | select multiple =>
    simp only [kind] at member
    obtain rfl := List.mem_singleton.mp member
    cases marks
  | file | group condition | button style =>
    simp only [kind] at member
    cases member
  | _ =>
    simp only [kind] at member
    exact .inr member

/-- Every input at a place was left by a tag there for one of its values. -/
theorem Forest.exists_of_input {forest : Forest} (grown : forest.grow setting {} = .ok site)
    {control : Segment} {name value : String}
    (member : control ∈ Segment.controlsIn site.body)
    (marks : control.input? = some (name, value)) :
    ∃ entry ∈ Tree.entriesIn [] site.trees, value ∈ entry.tag.inputValues ∧
      control = entry.tag.inputControl value ∧ name = entry.tag.head.fieldName := by
  let owned (site : Site) : Prop := control ∈ Segment.controlsIn site.body →
    ∃ entry ∈ Tree.entriesIn [] site.trees, value ∈ entry.tag.inputValues ∧
      control = entry.tag.inputControl value ∧ name = entry.tag.head.fieldName
  have kept : owned site := by
    refine Forest.grow_invariant ?_ ?_ ?_ grown nofun
    · intro site text before member
      have same : Segment.controlsIn (site.pushText text).body = Segment.controlsIn site.body :=
        Fragment.controlsIn_pushText site.body (String.ofList text)
      exact before (same ▸ member)
    · intro site around occurrence tag opened before
      obtain ⟨_, _, _, _, _, _, _, form, _, _, rfl⟩ := Site.openTag_eq_ok opened
      exact before
    · intro site around within occurrence tag _ _ inside before member
      have inside : owned within := inside nofun
      change ∃ entry ∈ Tree.entriesIn [] (around.trees ++ [within.closed tag]), _
      rw [Tree.entriesIn_append, Tree.entriesIn_singleton]
      have member : control ∈ Segment.controlsIn (around.body.append
          ((within.closed tag).tag.render setting.config.messages)) := member
      -- A mark was there before, is the tag's own, or comes from inside of the tag.
      rw [Fragment.controlsIn_append] at member
      rcases List.mem_append.mp member with earlier | here
      · obtain ⟨entry, found, owns⟩ := before earlier
        exact ⟨entry, List.mem_append_left _ found, owns⟩
      · rcases Node.mem_controls_input here marks with own | nested
        · exact ⟨_, List.mem_append_right _ (Tree.mem_entries.mpr (.inl rfl)), own⟩
        · obtain ⟨entry, found, owns⟩ := inside nested
          exact ⟨_, List.mem_append_right _ (Tree.mem_entries.mpr (.inr ⟨entry, found, rfl⟩)), owns⟩
  exact kept member

/-- Every input of a view was left by a tag for one of its values. -/
theorem Compiled.GrownFrom.exists_of_input (grown : compiled.GrownFrom setting text site)
    {control : Segment} {name value : String}
    (member : control ∈ Segment.controlsIn compiled.view.body)
    (marks : control.input? = some (name, value)) :
    ∃ entry ∈ Tree.entriesIn [] site.trees, value ∈ entry.tag.inputValues ∧
      control = entry.tag.inputControl value ∧ name = entry.tag.head.fieldName := by
  obtain ⟨⟨forest, -, -, grows⟩, view, -⟩ := grown
  rw [Bindings.controlsIn_expand view] at member
  exact Forest.exists_of_input grows member marks

end Stencil
