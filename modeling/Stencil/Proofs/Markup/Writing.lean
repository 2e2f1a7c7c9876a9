import Mathlib.Data.Bool.AllAny
import Mathlib.Data.List.Chain
import Stencil.Markup.Attributes
import Stencil.Proofs.Markup
import Stencil.Proofs.Text

/-!
# Markup reads as it was written

A document is written from texts in which no tag starts and from tags of listed namespaces.
Scanning it finds these tags and no others, each at its place, and the attributes of each
are those that were written (`scan_written`).
-/
namespace Stencil.Markup

/-! ### Writing -/

/-- That a `>` stands right behind a hyphen only. -/
def Guarded (text : List Char) : Prop := text.IsChain fun c d => d = '>' → c = '-'

instance (text : List Char) : Decidable (Guarded text) :=
  inferInstanceAs (Decidable (text.IsChain _))

/-- An attribute as it is written in a tag. -/
structure WrittenAttribute where
  key : List Char
  value : List Char
  nonempty : key ≠ []
  plain : ∀ c ∈ key, Text.isBlank c = false ∧ c ∉ "=\"/>".toList
  unquoted : '"' ∉ value
  /-- So there is no `/>` in the value either. -/
  guarded : Guarded ('"' :: value)

/-- Key and value as they are read. -/
def WrittenAttribute.entry (pair : WrittenAttribute) : String × String :=
  (String.ofList pair.key, String.ofList pair.value)

def WrittenAttribute.text (pair : WrittenAttribute) : List Char :=
  ' ' :: pair.key ++ '=' :: '"' :: pair.value ++ ['"']

def attributesText (attributes : List WrittenAttribute) : List Char :=
  attributes.flatMap WrittenAttribute.text

/-- A tag of a listed namespace as it is written. -/
structure WrittenTag (namespaces : List String) where
  closing : Bool
  selfClosing : Bool
  namespaceName : String
  /-- The namespace in the case it is written in. -/
  namespaceText : List Char
  name : List Char
  attributes : List WrittenAttribute
  listed : namespaceName ∈ namespaces
  spelled : namespaceText.map Char.toLower = namespaceName.toList
  nonempty : name ≠ []
  plain : ∀ c ∈ name, Text.isBlank c = false ∧ c ∉ "/>".toList
  ends : selfClosing = false → (name ++ attributesText attributes).getLast? ≠ some '-'

/-- A part of a document. -/
inductive Chunk (namespaces : List String) where
  | text (s : List Char) (plain : '<' ∉ s)
  | tag (tag : WrittenTag namespaces)

variable {namespaces : List String}

namespace WrittenTag

def bracket (tag : WrittenTag namespaces) : List Char :=
  if tag.closing then ['<', '/'] else ['<']

def close (tag : WrittenTag namespaces) : List Char :=
  if tag.selfClosing then ['/', '>'] else ['>']

def text (tag : WrittenTag namespaces) : List Char :=
  tag.bracket ++ tag.namespaceText ++ ':' :: tag.name ++ attributesText tag.attributes ++ tag.close

end WrittenTag

def Chunk.written : Chunk namespaces → List Char
  | .text s _ => s
  | .tag content => content.text

/-- The text of a document. -/
def written (document : List (Chunk namespaces)) : List Char := document.flatMap Chunk.written

/-- The tags of a document that is written behind a text, each with all the text before it. -/
def tagsBehind (before : List Char) :
    List (Chunk namespaces) → List (List Char × WrittenTag namespaces)
  | [] => []
  | .text s _ :: rest => tagsBehind (before ++ s) rest
  | .tag tag :: rest => (before, tag) :: tagsBehind (before ++ tag.text) rest

/-- An occurrence tells what was written, and where. -/
structure Occurrence.Tells (occurrence : Occurrence) (before : List Char)
    (tag : WrittenTag namespaces) : Prop where
  closing : occurrence.closing = tag.closing
  selfClosing : occurrence.selfClosing = tag.selfClosing
  namespaceName : occurrence.namespaceName = tag.namespaceName
  name : occurrence.name = String.ofList ((tag.name.filter (· ≠ '-')).map Char.toLower)
  start : occurrence.start.offset = Text.byteSize before
  stop : occurrence.stop.offset = Text.byteSize (before ++ tag.text)
  line : occurrence.start.line = before.count '\n' + 1
  column : occurrence.start.column = Text.byteSize (before.rtakeWhile (· ≠ '\n')) + 1
  attributes : attributes occurrence.attributeText = tag.attributes.map WrittenAttribute.entry

/-! ### Attributes -/

namespace WrittenAttribute

variable (pair : WrittenAttribute)

private theorem isKeyChar_of_mem {c : Char} (within : c ∈ pair.key) : isKeyChar c := by
  obtain ⟨solid, others⟩ := pair.plain c within
  simp at others
  simp [isKeyChar, solid, others]

end WrittenAttribute

private theorem attributesFrom_key {key : List Char} (keyChars : ∀ c ∈ key, isKeyChar c)
    (done rest : List Char) :
    attributesFrom done (key ++ rest) = attributesFrom (key.reverse ++ done) rest := by
  induction key generalizing done with
  | nil => rfl
  | cons c key ih =>
    have isKey := keyChars c List.mem_cons_self
    have later := ih (fun d within => keyChars d (List.mem_cons_of_mem c within)) (c :: done)
    rw [List.cons_append, attributesFrom.eq_def]
    simpa [isKey] using later

private theorem attributesFrom_blank (rest : List Char) :
    attributesFrom [] (' ' :: rest) = attributesFrom [] rest := by
  have noKey : isKeyChar ' ' = false := by decide
  rw [attributesFrom.eq_def]
  simp [noKey]

private theorem value?_quoted {value : List Char} (unquoted : '"' ∉ value) (rest : List Char) :
    value? ('=' :: '"' :: value ++ '"' :: rest) = some (value, rest) := by
  rw [List.cons_append, List.cons_append, value?, Text.dropWhile_ne_append unquoted,
    Text.takeWhile_ne_append unquoted]

private theorem attributesFrom_written (pair : WrittenAttribute) (rest : List Char) :
    attributesFrom [] (pair.text ++ rest)
      = pair.entry :: attributesFrom [] rest := by
  have shape : pair.text ++ rest
      = ' ' :: (pair.key ++ ('=' :: '"' :: pair.value ++ '"' :: rest)) := by
    simp [WrittenAttribute.text]
  have noKey : isKeyChar '=' = false := by decide
  have key : (pair.key.reverse ++ []).isEmpty = false := by simp [pair.nonempty]
  have read := value?_quoted pair.unquoted rest
  rw [shape, attributesFrom_blank,
    attributesFrom_key (fun _ => pair.isKeyChar_of_mem) [] _]
  rw [List.cons_append, List.cons_append] at read ⊢
  rw [attributesFrom.eq_def]
  simp only [noKey, key, Bool.false_eq_true, if_false]
  split
  · next value after read' =>
    cases read.symm.trans read'
    simp [WrittenAttribute.entry]
  · next absent => cases read.symm.trans absent

private theorem attributesFrom_attributesText (pairs : List WrittenAttribute) :
    attributesFrom [] (attributesText pairs) = pairs.map WrittenAttribute.entry := by
  induction pairs with
  | nil => rw [attributesText, List.flatMap_nil, attributesFrom.eq_def, List.map_nil]
  | cons pair rest ih =>
    rw [attributesText, List.flatMap_cons, attributesFrom_written]
    exact congrArg _ ih

private theorem getLast?_attributesText (pairs : List WrittenAttribute) :
    ∀ c ∈ (attributesText pairs).getLast?, c = '"' := by
  intro c last
  cases pairs using List.reverseRecOn with
  | nil => cases last
  | append_singleton before pair =>
    have shape : attributesText (before ++ [pair]) = attributesText before ++
        (' ' :: pair.key ++ '=' :: '"' :: pair.value) ++ ['"'] := by
      simp [attributesText, WrittenAttribute.text]
    rw [shape, List.getLast?_concat] at last
    exact (Option.mem_some_iff.mp last).symm

/-- The attributes are read from the text without the blank at its start. -/
private theorem attributes_trim (pairs : List WrittenAttribute) :
    attributes (Text.trim (attributesText pairs)) = pairs.map WrittenAttribute.entry := by
  rw [← attributesFrom_attributesText]
  cases pairs with
  | nil => rfl
  | cons pair rest =>
    obtain ⟨c, key, starts⟩ := List.exists_cons_of_ne_nil pair.nonempty
    -- Trimming takes the first blank only, and the reader would skip that one.
    obtain ⟨body, shape⟩ : ∃ body, attributesText (pair :: rest) = ' ' :: c :: body :=
      ⟨_, by rw [attributesText, List.flatMap_cons, WrittenAttribute.text, starts]; rfl⟩
    have solid : Text.isBlank c = false := (pair.plain c (by simp [starts])).1
    have last := getLast?_attributesText (pair :: rest)
    rw [shape, List.getLast?_cons_cons] at last
    have keeps : Text.trim (c :: body) = c :: body := by
      refine Text.trim_eq_self ?_ ?_
      · intro d first
        cases first
        exact solid
      · intro d final
        rw [last d final]
        rfl
    have trimmed : Text.trim (' ' :: c :: body) = c :: body := keeps
    rw [shape, trimmed, attributesFrom_blank]
    rfl

/-! ### Tags -/

private theorem Guarded.of_not_mem {text : List Char} (absent : '>' ∉ text) (c : Char) :
    Guarded (c :: text) := by
  induction text generalizing c with
  | nil => exact List.isChain_singleton c
  | cons d rest ih =>
    refine List.isChain_cons_cons.mpr ⟨?_, ih (fun later => absent (List.mem_cons_of_mem d later)) d⟩
    rintro rfl
    exact absurd List.mem_cons_self absent

private theorem guarded_attributesText (previous : Char) (pairs : List WrittenAttribute) :
    Guarded (previous :: attributesText pairs) := by
  induction pairs generalizing previous with
  | nil => exact List.isChain_singleton previous
  | cons pair rest ih =>
    have shape : previous :: attributesText (pair :: rest) = (previous :: ' ' :: pair.key ++ ['='])
        ++ '"' :: (pair.value ++ '"' :: attributesText rest) := by
      simp [attributesText, WrittenAttribute.text]
    -- A bracket can only stand in the value, which is guarded by its quote.
    have key : Guarded ((previous :: ' ' :: pair.key ++ ['=']) ++ ['"']) := by
      refine Guarded.of_not_mem (fun within => ?_) previous
      have inKey : '>' ∈ pair.key := by simpa using within
      exact (pair.plain '>' inKey).2 (by decide)
    have value : Guarded (('"' :: pair.value) ++ ['"']) := by
      refine pair.guarded.append (List.isChain_singleton '"') ?_
      intro c _ d quote bracket
      cases quote
      cases bracket
    rw [shape]
    exact List.isChain_split.mpr ⟨key, List.isChain_split.mpr ⟨value, ih '"'⟩⟩

/-- No bracket in a guarded text ends a tag. -/
private theorem ending?_append {previous : Char} {text : List Char}
    (guarded : Guarded (previous :: text))
    (noSlash : text.getLast? ≠ some '/') (done follow : List Char) :
    ending? previous done (text ++ follow)
      = ending? (text.getLastD previous) (text.reverse ++ done) follow := by
  induction text generalizing previous done with
  | nil => rfl
  | cons c rest ih =>
    obtain ⟨here, later⟩ := List.isChain_cons_cons.mp guarded
    -- Behind a slash there is something, and it is no bracket.
    have noClose : ∀ after, c :: (rest ++ follow) ≠ '/' :: '>' :: after := by
      intro after same
      obtain ⟨rfl, tails⟩ := List.cons.inj same
      cases rest with
      | nil => exact noSlash rfl
      | cons d rest =>
        obtain ⟨rfl, -⟩ := List.cons.inj tails
        exact absurd (later.rel rfl) (by decide)
    have goesOn : ¬ (c = '>' ∧ previous ≠ '-') := fun bracket => bracket.2 (here bracket.1)
    have noSlash' : rest.getLast? ≠ some '/' := by
      cases rest with
      | nil => nofun
      | cons d rest => rwa [List.getLast?_cons_cons] at noSlash
    rw [List.cons_append, ending?.eq_def]
    split
    · next none => cases none
    · next after same => exact absurd same (noClose after)
    · next same =>
      cases same
      rw [if_neg goesOn, ih later noSlash', List.getLastD_cons, List.reverse_cons,
        List.append_assoc]
      rfl

namespace WrittenTag

variable (tag : WrittenTag namespaces)

/-- The end of a tag is found behind its attributes. -/
private theorem ending?_written (rest : List Char) :
    ending? (tag.name.getLastD '<') [] (attributesText tag.attributes ++ (tag.close ++ rest))
      = some (attributesText tag.attributes, tag.selfClosing, rest) := by
  have noSlash : (attributesText tag.attributes).getLast? ≠ some '/' := by
    intro slash
    exact absurd (getLast?_attributesText tag.attributes '/' slash) (by decide)
  rw [ending?_append (guarded_attributesText _ tag.attributes) noSlash, List.append_nil, close]
  cases closes : tag.selfClosing with
  | true => simp [ending?]
  | false =>
    -- In front of the bracket stands the end of the attributes or else of the name.
    have previous : (attributesText tag.attributes).getLastD (tag.name.getLastD '<') ≠ '-' := by
      intro hyphen
      refine tag.ends closes ?_
      rw [List.getLastD_eq_getLast?, List.getLastD_eq_getLast?] at hyphen
      rw [List.getLast?_append]
      cases last : (attributesText tag.attributes).getLast? with
      | some c => simpa [last] using hyphen
      | none =>
        cases named : tag.name.getLast? with
        | some c => simpa [last, named] using hyphen
        | none => simp [last, named] at hyphen
    rw [ending?.eq_def]
    simp only [Bool.false_eq_true, if_false, List.singleton_append, List.reverse_reverse]
    exact if_pos ⟨rfl, previous⟩

private theorem isTagNameChar_of_mem : ∀ c ∈ tag.name, isTagNameChar c := by
  intro c within
  obtain ⟨solid, others⟩ := tag.plain c within
  simp at others
  simp [isTagNameChar, solid, others]

/-- No name goes on where its attributes begin or its tag ends. -/
private theorem outside_name (rest : List Char) :
    ∀ c ∈ (attributesText tag.attributes ++ (tag.close ++ rest)).head?, isTagNameChar c = false := by
  intro c first
  cases pairs : tag.attributes with
  | nil =>
    cases closes : tag.selfClosing with
    | true =>
      have slash : '/' = c := by simpa [pairs, closes, close, attributesText] using first
      exact slash ▸ rfl
    | false =>
      have bracket : '>' = c := by simpa [pairs, closes, close, attributesText] using first
      exact bracket ▸ rfl
  | cons pair others =>
    have blank : ' ' = c := by simpa [pairs, attributesText, WrittenAttribute.text] using first
    exact blank ▸ rfl

variable (lower : ∀ name ∈ namespaces, ∀ c ∈ name.toList, c.isLower)

include lower

theorem letters : ∀ c ∈ tag.namespaceText, c.toLower.isLower := by
  intro c within
  refine lower _ tag.listed c.toLower ?_
  rw [← tag.spelled]
  exact List.mem_map_of_mem within

/-- Of the listed namespaces the one that is meant is found, and no other. -/
private theorem afterBracket?_written (closing : Bool) {name : String} (listed : name ∈ namespaces)
    {rest : List Char} (outside : ∀ c ∈ rest.head?, isTagNameChar c = false) :
    afterBracket? closing (tag.namespaceText ++ ':' :: (tag.name ++ rest)) name
      = if name = tag.namespaceName then some (⟨closing, tag.namespaceText, tag.name⟩, rest)
        else none := by
  have colon : ∀ after, Text.afterCaseless? name.toList
      (tag.namespaceText ++ ':' :: (tag.name ++ rest)) = some (':' :: after) ↔
        tag.namespaceText.map Char.toLower = name.toList ∧ after = tag.name ++ rest :=
    fun _ => Text.afterCaseless?_colon (lower name listed) (tag.letters lower)
  rw [afterBracket?]
  split
  · next after found =>
    obtain ⟨spelled, rfl⟩ := (colon after).mp found
    -- What is found is the namespace in lower case, which is spelled in one way only.
    have same : name = tag.namespaceName := String.toList_injective (spelled.symm.trans tag.spelled)
    have size : tag.namespaceText.length = name.toList.length := by
      rw [← spelled, List.length_map]
    have taken := Text.takeWhile_run tag.isTagNameChar_of_mem outside
    have left := Text.dropWhile_run tag.isTagNameChar_of_mem outside
    have named : tag.name.isEmpty = false := by simpa using tag.nonempty
    simp only [taken, left, named, Bool.false_eq_true, if_false, if_pos same,
      List.take_left' size]
  · next none =>
    refine (if_neg ?_).symm
    rintro rfl
    exact none _ ((colon _).mpr ⟨tag.spelled, rfl⟩)

private theorem findSome?_written (closing : Bool) {rest : List Char}
    (outside : ∀ c ∈ rest.head?, isTagNameChar c = false) :
    namespaces.findSome? (afterBracket? closing (tag.namespaceText ++ ':' :: (tag.name ++ rest)))
      = some (⟨closing, tag.namespaceText, tag.name⟩, rest) := by
  have each := fun name (listed : name ∈ namespaces) =>
    tag.afterBracket?_written lower closing listed outside
  cases found : namespaces.findSome?
      (afterBracket? closing (tag.namespaceText ++ ':' :: (tag.name ++ rest))) with
  | none =>
    have own := List.findSome?_eq_none_iff.mp found tag.namespaceName tag.listed
    rw [each tag.namespaceName tag.listed, if_pos rfl] at own
    cases own
  | some start =>
    obtain ⟨name, listed, read⟩ := List.exists_of_findSome?_eq_some found
    rw [each name listed] at read
    split at read
    · exact read.symm
    · cases read

/-- The start of a tag is read up to its attributes. -/
private theorem start?_written {rest : List Char}
    (outside : ∀ c ∈ rest.head?, isTagNameChar c = false) :
    start? namespaces (tag.bracket ++ (tag.namespaceText ++ ':' :: (tag.name ++ rest)))
      = some (⟨tag.closing, tag.namespaceText, tag.name⟩, rest) := by
  have found := tag.findSome?_written lower tag.closing outside
  rw [bracket]
  cases closes : tag.closing with
  | true =>
    rw [closes] at found
    simp [start?, found]
  | false =>
    rw [closes] at found
    -- Neither a letter nor the colon is taken for the slash of a closing tag.
    have noSlash : ∀ after,
        tag.namespaceText ++ ':' :: (tag.name ++ rest) ≠ '/' :: after := by
      intro after same
      cases spelled : tag.namespaceText with
      | nil => simp [spelled] at same
      | cons c more =>
        rw [spelled] at same
        obtain ⟨rfl, -⟩ := List.cons.inj same
        exact absurd (tag.letters lower '/' (by simp [spelled])) (by decide)
    simp only [Bool.false_eq_true, if_false, List.singleton_append]
    rw [start?]
    · exact found
    · exact noSlash

private theorem resolve_written : resolve namespaces tag.namespaceText = tag.namespaceName := by
  have same : ∀ name ∈ namespaces, name.toList.map Char.toLower = name.toList := by
    intro name listed
    have letter := lower name listed
    exact (List.map_congr_left fun c within => Text.toLower_of_isLower (letter c within)).trans
      (List.map_id _)
  have folded : ∀ name ∈ namespaces, name.toList.map Char.toLower
      = tag.namespaceText.map Char.toLower → name = tag.namespaceName := by
    intro name listed fits
    rw [same name listed, tag.spelled] at fits
    exact String.toList_injective fits
  rw [resolve]
  cases found : namespaces.find? fun name =>
      name.toList.map Char.toLower = tag.namespaceText.map Char.toLower with
  | none =>
    have own := List.find?_eq_none.mp found tag.namespaceName tag.listed
    simp [same _ tag.listed, tag.spelled] at own
  | some name =>
    have fits : name.toList.map Char.toLower = tag.namespaceText.map Char.toLower := by
      simpa using List.find?_some found
    exact folded name (List.mem_of_find?_eq_some found) fits

/-- What is read of a tag that was written at a place. -/
def occurrence (tag : WrittenTag namespaces) (place : Text.Place) : Occurrence where
  closing := tag.closing
  selfClosing := tag.selfClosing
  namespaceName := tag.namespaceName
  name := canonicalName tag.name
  attributeText := Text.trim (attributesText tag.attributes)
  start := place
  stop := place.advanceBy tag.text

/-- A tag is read as it was written, whatever is behind it. -/
theorem tag?_written (place : Text.Place) (rest : List Char) :
    tag? namespaces place (tag.text ++ rest) = some (tag.occurrence place, rest) := by
  have shape : tag.text ++ rest = tag.bracket ++ (tag.namespaceText ++ ':' ::
      (tag.name ++ (attributesText tag.attributes ++ (tag.close ++ rest)))) := by
    simp [text]
  have started := tag.start?_written lower (tag.outside_name rest)
  rw [← shape] at started
  -- The end of the tag is told from how much of the text is left.
  have taken : (tag.text ++ rest).take ((tag.text ++ rest).length - rest.length) = tag.text :=
    List.take_left' (by simp)
  rw [tag?, started]
  change ((ending? (tag.name.getLastD '<') [] _).bind _) = _
  rw [tag.ending?_written rest]
  change some (_, rest) = _
  rw [taken, tag.resolve_written lower]
  rfl

end WrittenTag

/-! ### Documents -/

private theorem tag?_of_ne {c : Char} (plain : c ≠ '<') (place : Text.Place) (rest : List Char) :
    tag? namespaces place (c :: rest) = none := by
  have absent : start? namespaces (c :: rest) = none := by
    unfold start?
    split
    · next same => exact absurd (List.cons.inj same).1 plain
    · next same => exact absurd (List.cons.inj same).1 plain
    · rfl
  rw [tag?, absent]
  rfl

/-- No tag starts in a text without `<`. -/
theorem scanFrom_append {s : List Char} (plain : '<' ∉ s) (place : Text.Place)
    (gap rest : List Char) : scanFrom namespaces place gap (s ++ rest)
      = scanFrom namespaces (place.advanceBy s) (s.reverse ++ gap) rest := by
  induction s generalizing place gap with
  | nil => rfl
  | cons c s ih =>
    have other : c ≠ '<' := by
      rintro rfl
      exact plain List.mem_cons_self
    have later := ih (fun within => plain (List.mem_cons_of_mem c within)) (place.advance c)
      (c :: gap)
    rw [List.cons_append, scanFrom_of_none (tag?_of_ne other place _), later]
    simp [Text.Place.advanceBy]

/-- What is found in a document that stands behind a text. -/
theorem scanFrom_written (lower : ∀ name ∈ namespaces, ∀ c ∈ name.toList, c.isLower)
    (before gap : List Char) (document : List (Chunk namespaces)) :
    (scanFrom namespaces (Text.Place.start.advanceBy before) gap (written document)).parts.map
        Part.tag
      = (tagsBehind before document).map fun entry =>
          entry.2.occurrence (Text.Place.start.advanceBy entry.1) := by
  -- The induction is on the parts: a text moves into the gap, a tag starts a new one.
  induction document generalizing before gap with
  | nil => simp [written, scanFrom, tagsBehind]
  | cons chunk rest ih =>
    rw [written, List.flatMap_cons]
    cases chunk with
    | text s plain =>
      rw [Chunk.written, scanFrom_append plain, ← Text.Place.advanceBy_append, tagsBehind]
      exact ih (before ++ s) _
    | tag tag =>
      have read := tag.tag?_written lower (Text.Place.start.advanceBy before) (written rest)
      obtain ⟨c, more, starts⟩ : ∃ c more, tag.text ++ written rest = c :: more := by
        cases closes : tag.closing <;> simp [WrittenTag.text, WrittenTag.bracket, closes]
      have next : (tag.occurrence (Text.Place.start.advanceBy before)).stop
          = Text.Place.start.advanceBy (before ++ tag.text) :=
        (Text.Place.advanceBy_append _ before tag.text).symm
      rw [starts] at read
      change (scanFrom namespaces _ gap (tag.text ++ written rest)).parts.map Part.tag = _
      rw [starts, scanFrom_of_tag read, next, tagsBehind, List.map_cons, List.map_cons, ih]

/-- The tags found in a document are those that were written, in this order. -/
theorem scan_written (lower : ∀ name ∈ namespaces, ∀ c ∈ name.toList, c.isLower)
    (document : List (Chunk namespaces)) :
    List.Forall₂ (fun occurrence entry => occurrence.Tells entry.1 entry.2)
      ((scan namespaces (written document)).parts.map Part.tag) (tagsBehind [] document) := by
  have found := scanFrom_written lower [] [] document
  change (scan namespaces (written document)).parts.map Part.tag = _ at found
  rw [found, List.forall₂_map_left_iff]
  refine List.forall₂_same.mpr ?_
  rintro ⟨before, tag⟩ -
  -- Places are counted from the start of the text, as far as what was written before.
  have start := Text.Place.advanceBy_start before
  have stop := Text.Place.advanceBy_start (before ++ tag.text)
  rw [Text.Place.advanceBy_append] at stop
  exact {
    closing := rfl
    selfClosing := rfl
    namespaceName := rfl
    name := rfl
    start := congrArg Text.Place.offset start
    stop := congrArg Text.Place.offset stop
    line := congrArg Text.Place.line start
    column := congrArg Text.Place.column start
    attributes := attributes_trim tag.attributes }

/-- Tags in two spellings, behind a text with a line feed. -/
theorem scan_written_page :
    let namespaces := ["form", "static"]
    let on : WrittenAttribute := ⟨"x:on".toList, "$a->b <é/\n".toList, by decide +kernel,
      List.all_iff_forall_prop.mp (by decide +kernel), by decide +kernel, by decide +kernel⟩
    let id : WrittenAttribute := ⟨"id".toList, [], by decide +kernel,
      List.all_iff_forall_prop.mp (by decide +kernel), by decide +kernel, by decide +kernel⟩
    let opens : WrittenTag namespaces := ⟨false, false, "form", "FoRm".toList, "my-Text<ß".toList,
      [on, id], by decide +kernel, by decide +kernel, by decide +kernel,
      List.all_iff_forall_prop.mp (by decide +kernel), by decide +kernel⟩
    let closes : WrittenTag namespaces := ⟨true, true, "static", "static".toList, "if-".toList,
      [], by decide +kernel, by decide +kernel, by decide +kernel,
      List.all_iff_forall_prop.mp (by decide +kernel), by decide +kernel⟩
    let document : List (Chunk namespaces) :=
      [.text "ä>\n ".toList (by decide +kernel), .tag opens, .tag closes]
    (∀ name ∈ namespaces, ∀ c ∈ name.toList, c.isLower) ∧
      String.ofList (written document)
        = "ä>\n <FoRm:my-Text<ß x:on=\"$a->b <é/\n\" id=\"\"></static:if-/>" ∧
      List.Forall₂ (fun occurrence entry => occurrence.Tells entry.1 entry.2)
        ((scan namespaces (written document)).parts.map Part.tag) (tagsBehind [] document) := by
  intro namespaces on id opens closes document
  have lower : ∀ name ∈ namespaces, ∀ c ∈ name.toList, c.isLower := by
    intro name listed
    have all : ∀ name ∈ namespaces, name.toList.all Char.isLower := by decide +kernel
    exact List.all_eq_true.mp (all name listed)
  exact ⟨lower, by decide +kernel, scan_written lower document⟩

end Stencil.Markup
