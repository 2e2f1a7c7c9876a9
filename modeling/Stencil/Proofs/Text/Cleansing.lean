import Stencil.Text.Cleansing

/-!
# What cleansing leaves of a text

Whatever cleanses a text only takes characters out of it, and finds nothing more to take
out of what it leaves, nor of a part of that. So where several take turns, what the first
one cares for still holds behind the last.
-/
namespace Stencil.Text

/-- That a change takes characters out of a text, and all of them at once. -/
structure Cleanses (change : List Char → List Char) : Prop where
  sublist : ∀ text, (change text).Sublist text
  again : ∀ text, change (change text) = change text
  /-- Where nothing is taken out of a text, nothing is taken out of a part of it. -/
  part : ∀ {text part : List Char}, part.Sublist text → change text = text → change part = part

theorem cleanses_id : Cleanses id where
  sublist := List.Sublist.refl
  again _ := rfl
  part _ _ := rfl

theorem cleanses_filter (keep : Char → Bool) : Cleanses (List.filter keep) where
  sublist _ := List.filter_sublist
  again _ := List.filter_eq_self.mpr fun _ member => (List.mem_filter.mp member).2
  part within whole := by
    rw [List.filter_eq_self] at *
    exact fun c member => whole c (within.subset member)

/-! ### Markup -/

private theorem sublist_stripMarkupFrom (place : MarkupPart) (text : List Char) :
    (stripMarkupFrom place text).Sublist text := by
  fun_induction stripMarkupFrom place text with
  | case1 => exact .slnil
  | case2 rest ih => exact ((ih.cons _).cons _).cons _ |>.cons _
  | case3 rest ih => exact (ih.cons _).cons _ |>.cons _
  | case4 rest plain ih => exact ih.cons _
  | case5 c rest plain other ih => exact ih.cons_cons _
  | case6 c rest ih => exact ih.cons _
  | case7 c rest plain ih => exact ih.cons _

/-- What opens a tag or a comment is never kept, also in one that has no end. -/
theorem not_mem_stripMarkupFrom (place : MarkupPart) (text : List Char) :
    '<' ∉ stripMarkupFrom place text := by
  fun_induction stripMarkupFrom place text with
  | case1 => exact List.not_mem_nil
  | case5 c rest plain other ih =>
    rw [List.mem_cons, not_or]
    exact ⟨Ne.symm other, ih⟩
  | _ => assumption

theorem not_mem_stripMarkup (text : List Char) : '<' ∉ stripMarkup text :=
  not_mem_stripMarkupFrom .outside text

/-- Text without a bracket of markup stays. -/
theorem stripMarkup_eq_self {text : List Char} (plain : '<' ∉ text) :
    stripMarkup text = text := by
  unfold stripMarkup
  induction text with
  | nil => rfl
  | cons c rest ih =>
    rw [List.mem_cons, not_or] at plain
    rw [stripMarkupFrom.eq_4, if_neg (Ne.symm plain.1), ih plain.2]
    intro _ same
    exact (plain.1 same.symm).elim

theorem stripMarkup_eq_self_iff {text : List Char} : stripMarkup text = text ↔ '<' ∉ text := by
  constructor
  · intro same
    exact same ▸ not_mem_stripMarkup text
  · exact stripMarkup_eq_self

theorem cleanses_stripMarkup : Cleanses stripMarkup where
  sublist := sublist_stripMarkupFrom .outside
  again text := stripMarkup_eq_self (not_mem_stripMarkup text)
  part within whole := by
    rw [stripMarkup_eq_self_iff] at *
    exact fun member => whole (within.subset member)

end Stencil.Text
