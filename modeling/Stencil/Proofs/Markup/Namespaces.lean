import Stencil.Proofs.Markup.Start
import Stencil.Proofs.Outline.Matching

/-!
# Namespaces that tags are reported with

A tag is found if its namespace fits a listed one in any case, and is reported with the listed
name if the two differ in the case of ASCII letters only. So a namespace in ASCII letters is
reported as listed, unless it is written with one of the two signs beyond ASCII that fit letters:
with such a sign it is reported as written, which is no listed name (`scan_namespaces`).
-/
namespace Stencil

variable {namespaces : List String} {written : List Char}

private theorem Text.Caseless.map_asciiFold {start : List Char} (ascii : ∀ c ∈ start, c.toNat < 128)
    (alike : Text.Caseless start written) :
    written.map Unicode.asciiFold = start.map Char.toLower := by
  induction alike with
  | nil => rfl
  | cons same _ ih =>
    obtain ⟨first, later⟩ := List.forall_mem_cons.mp ascii
    rw [List.map_cons, List.map_cons, Unicode.asciiFold_of_sameCaseless first same, ih later]

namespace Markup

/-- Every tag of a scan is read at some place. -/
theorem exists_read {place : Text.Place} {gap text : List Char} {part : Part}
    (member : part ∈ (scanFrom namespaces place gap text).parts) :
    ∃ place text rest, tag? namespaces place text = some (part.tag, rest) := by
  induction place, gap, text using scanFrom.induct namespaces with
  | case1 place gap =>
    rw [scanFrom] at member
    cases member
  | case2 place gap c rest tag after read shorter ih =>
    rw [scanFrom_of_tag read] at member
    rcases List.mem_cons.mp member with rfl | later
    · exact ⟨place, c :: rest, after, read⟩
    · exact ih later
  | case3 place gap c rest absent ih =>
    rw [scanFrom_of_none absent] at member
    exact ih member

/-- That a text has neither a long s nor the sign for kelvin in it. -/
def Plain (text : List Char) : Prop := '\u017F' ∉ text ∧ '\u212A' ∉ text

private theorem Plain.of_ascii {text : List Char} (ascii : ∀ c ∈ text, c.toNat < 128) :
    Plain text := by
  constructor
  · intro within
    exact absurd (ascii _ within) (by decide)
  · intro within
    exact absurd (ascii _ within) (by decide)

private theorem Plain.map_asciiFold {text : List Char} (plain : Plain text) :
    text.map Unicode.asciiFold = text.map Char.toLower := by
  apply List.map_congr_left
  intro c within
  exact Unicode.asciiFold_of_ne (ne_of_mem_of_not_mem within plain.1)
    (ne_of_mem_of_not_mem within plain.2)

/-- What a tag is reported with: a name that fits a listed one, and that is a listed one unless it
has a sign beyond ASCII in it. -/
structure Reported (namespaces : List String) (reported : String) : Prop where
  spells : ∃ name ∈ namespaces,
    reported.toList.map Unicode.asciiFold = name.toList.map Char.toLower
  listed_iff : reported ∈ namespaces ↔ Plain reported.toList

variable (ascii : ∀ name ∈ namespaces, ∀ c ∈ name.toList, c.toNat < 128)

include ascii

private theorem reported_resolve (listed : ∃ name ∈ namespaces, Text.Caseless name.toList written) :
    Reported namespaces (resolve namespaces written) := by
  obtain ⟨name, listed, alike⟩ := listed
  have folded := alike.map_asciiFold (ascii name listed)
  rw [resolve]
  cases found : namespaces.find? fun name =>
      name.toList.map Char.toLower = written.map Char.toLower with
  | some other =>
    have member := List.mem_of_find?_eq_some found
    have plain := Plain.of_ascii (ascii other member)
    exact ⟨⟨other, member, plain.map_asciiFold⟩, fun _ => plain, fun _ => member⟩
  | none =>
    -- No listed name differs in ASCII letters only, so there is another sign in the written one.
    have stray : ¬ Plain written := by
      intro plain
      have differs := List.find?_eq_none.mp found name listed
      rw [plain.map_asciiFold] at folded
      exact differs (decide_eq_true folded.symm)
    have same : (String.ofList written).toList = written := String.toList_ofList
    refine ⟨⟨name, listed, by rwa [Option.getD_none, same]⟩, ?_, ?_⟩
    · intro member
      exact Plain.of_ascii (ascii _ member)
    · intro plain
      rw [Option.getD_none, same] at plain
      exact absurd plain stray

private theorem reported_of_mem {text : List Char} {part : Part}
    (member : part ∈ (scan namespaces text).parts) :
    Reported namespaces part.tag.namespaceName := by
  obtain ⟨place, text, rest, read⟩ := exists_read member
  obtain ⟨start, inner, span, starts, -, -, resolved, -⟩ := tag?_sound read
  rw [resolved]
  exact reported_resolve ascii starts.listed

end Markup

/-! ### Unknown tags -/

/-- The tag that is unknown to a matching is the one it is at. -/
theorem matchTag_unknown {registry : Registry} {opened : List Markup.Occurrence}
    {tag other : Markup.Occurrence}
    (fails : matchTag registry opened tag = .error (.unknown other)) : other = tag := by
  unfold matchTag at fails
  split at fails
  · cases fails
  split at fails
  · cases fails
    rfl
  split at fails
  · cases fails
  split at fails
  · cases fails
  · unfold matchClosing at fails
    split at fails
    · cases fails
    · split at fails <;> cases fails

private theorem mem_of_matchTags_unknown {registry : Registry} {tags : List Markup.Occurrence}
    {tag : Markup.Occurrence} (fails : matchTags registry tags = .error (.unknown tag)) :
    tag ∈ tags := by
  rcases bind_eq_error fails with failed | ⟨opened, -, ends⟩
  · obtain ⟨opened, other, member, failed⟩ := foldlM_eq_error failed
    rwa [matchTag_unknown failed]
  · split at ends <;> cases ends

/-- A compile that finds an unknown tag found it in the text. -/
theorem exists_of_unknownTag {setting : Setting} {text : String} {tag : TagRef}
    (fails : compileTemplate setting text = .error (.unknownTag tag)) :
    ∃ occurrence ∈ setting.tags text, setting.ref occurrence = tag := by
  obtain ⟨fault, rejected, same⟩ := (compile_agreeing setting text).of_matching fails rfl
  cases fault with
  | unknown occurrence =>
    refine ⟨occurrence, mem_of_matchTags_unknown rejected, ?_⟩
    simpa [MatchFault.error] using same
  | malformed | unexpected | mismatched | unterminated => cases same

/-- With namespaces in ASCII letters, the namespace of every tag that is found, and that of a tag
that does not compile since it is unknown, fits a listed one; it is a listed one, unless it is
written with a long s or the sign for kelvin. -/
theorem scan_namespaces {namespaces : List String}
    (ascii : ∀ name ∈ namespaces, ∀ c ∈ name.toList, c.toNat < 128) :
    (∀ text, ∀ part ∈ (Markup.scan namespaces text).parts,
        Markup.Reported namespaces part.tag.namespaceName) ∧
      ∀ setting text tag, setting.registry.namespaces = namespaces →
        compileTemplate setting text = .error (.unknownTag tag) →
        Markup.Reported namespaces tag.namespaceName := by
  refine ⟨fun text part member => Markup.reported_of_mem ascii member, ?_⟩
  rintro setting text tag rfl fails
  obtain ⟨occurrence, found, rfl⟩ := exists_of_unknownTag fails
  obtain ⟨part, member, rfl⟩ := List.mem_map.mp found
  exact Markup.reported_of_mem ascii member

/-- With the built-in namespaces a tag in upper case is known, and one with a long s is not. -/
theorem scan_namespaces_builtin :
    let setting : Setting := ⟨.builtin, {}, "page.tpl"⟩
    let text := "<FORM:form id=\"f\"/><\u017Ftatic:if>"
    let error := CompileError.unknownTag ⟨"\u017Ftatic", "if", ⟨"page.tpl", 1, 20⟩⟩
    (∀ name ∈ setting.registry.namespaces, ∀ c ∈ name.toList, c.toNat < 128) ∧
      (setting.tags text).map (·.namespaceName) = ["form", "\u017Ftatic"] ∧
      compileTemplate setting text = .error error ∧
      (∀ part ∈ (Markup.scan setting.registry.namespaces text.toList).parts,
        Markup.Reported setting.registry.namespaces part.tag.namespaceName) ∧
      Markup.Reported setting.registry.namespaces "\u017Ftatic" := by
  intro setting text error
  have ascii : ∀ name ∈ setting.registry.namespaces, ∀ c ∈ name.toList, c.toNat < 128 := by
    intro name listed
    have all : ∀ name ∈ setting.registry.namespaces, name.toList.all (·.toNat < 128) := by
      decide +kernel
    simpa using all name listed
  have fails : compileTemplate setting text = .error error :=
    error?_eq_some.mp (by decide +kernel)
  obtain ⟨scanned, compiled⟩ := scan_namespaces ascii
  exact ⟨ascii, by decide +kernel, fails, scanned text.toList, compiled setting text _ rfl fails⟩

/-- With a long s a tag is found that has no listed namespace, and the compile fails at it. -/
theorem scan_long_s :
    (∃ part ∈ (Markup.scan ["form", "static"] "<\u017Ftatic:if>".toList).parts,
        part.tag.namespaceName = "\u017Ftatic" ∧ part.tag.namespaceName ∉ ["form", "static"]) ∧
      compileTemplate ⟨.builtin, {}, "page.tpl"⟩ "<\u017Ftatic:if>"
        = .error (.unknownTag ⟨"\u017Ftatic", "if", ⟨"page.tpl", 1, 1⟩⟩) := by
  refine ⟨by decide +kernel, error?_eq_some.mp ?_⟩
  decide +kernel

end Stencil
