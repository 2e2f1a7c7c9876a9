import Stencil.Proofs.Fields.Constraints

/-!
# Uploads

A file field that was sent something accepts it if it arrived and its size lies within the
bounds its tag states. An upload over the size limit of the form counts as one that arrived.
-/
namespace Stencil

namespace Head

/-- That the size of an upload lies within the bounds a tag states. -/
structure Admits (head : Head) (size : Nat) : Prop where
  min : ∀ bound ∈ head.stated? Text.natural64 "x:minsize", bound.1 ≤ size
  max : ∀ bound ∈ head.stated? Text.natural64 "x:maxsize", size ≤ bound.1

/-- Nothing but the two bounds counts. -/
theorem Admits.congr {a b : Head} {size : Nat} (admits : a.Admits size)
    (same : ∀ key ∈ ["x:minsize", "x:maxsize"], a.attr? key = b.attr? key) : b.Admits size := by
  have stated (key : String) (written : key ∈ ["x:minsize", "x:maxsize"]) :
      a.stated? Text.natural64 key = b.stated? Text.natural64 key := by
    rw [stated?, stated?, same key written]
  constructor
  · exact stated "x:minsize" (by decide) ▸ admits.min
  · exact stated "x:maxsize" (by decide) ▸ admits.max

variable {head : Head} {messages : Messages} {validator : FieldValidator}
  {surroundings : Surroundings} {state : FieldState} {upload : Upload}

/-- The rules on the size fail unless it lies within the bounds. -/
theorem firstVerdict_sizeRules (head : Head) (surroundings : Surroundings)
    (atHand : state.upload = some upload) :
    let verdict := firstVerdict surroundings state
      (head.boundRule .minFileSize "x:minsize-err" "File is too small"
          (head.stated? Text.natural64 "x:minsize")
        ++ head.boundRule .maxFileSize "x:maxsize-err" "File is too big"
          (head.stated? Text.natural64 "x:maxsize"))
    verdict = .passed ∧ head.Admits upload.size ∨
      (∃ message, verdict = .failed message) ∧ ¬head.Admits upload.size := by
  have size : uploadSize state = upload.size := by
    rw [uploadSize, atHand]
    rfl
  have checksMin (min : Nat) (message : String) :
      (Rule.minFileSize min message).check surroundings state
        = .failedIf (upload.size < min) message := by
    rw [Rule.check, size]
  have checksMax (max : Nat) (message : String) :
      (Rule.maxFileSize max message).check surroundings state
        = .failedIf (max < upload.size) message := by
    rw [Rule.check, size]
  intro verdict
  have told : verdict = _ := firstVerdict_boundRule checksMin Text.natural64 head _ _ _
  have later : firstVerdict surroundings state (head.boundRule .maxFileSize "x:maxsize-err"
      "File is too big" (head.stated? Text.natural64 "x:maxsize") ++ []) = _ :=
    firstVerdict_boundRule checksMax Text.natural64 head _ _ _
  rw [List.append_nil] at later
  rw [later] at told
  by_cases small : (head.stated? Text.natural64 "x:minsize").any (upload.size < ·.1)
  · rw [if_pos small] at told
    refine .inr ⟨⟨_, told⟩, ?_⟩
    intro admits
    obtain ⟨bound, given, less⟩ := (Option.any_eq_true _ _).mp small
    exact absurd (admits.min bound given) (by simpa using less)
  · rw [if_neg small] at told
    by_cases big : (head.stated? Text.natural64 "x:maxsize").any (·.1 < upload.size)
    · rw [if_pos big] at told
      refine .inr ⟨⟨_, told⟩, ?_⟩
      intro admits
      obtain ⟨bound, given, less⟩ := (Option.any_eq_true _ _).mp big
      exact absurd (admits.max bound given) (by simpa using less)
    · rw [if_neg big] at told
      refine .inl ⟨told, ?_, ?_⟩
      · intro bound given
        by_contra less
        exact small ((Option.any_eq_true _ _).mpr ⟨bound, given, by simpa using less⟩)
      · intro bound given
        by_contra less
        exact big ((Option.any_eq_true _ _).mpr ⟨bound, given, by simpa using less⟩)

/-- A file field finds no fault with an upload that arrived, or is over the limit of the form,
and is of an admitted size. -/
theorem error_run_of_upload (made : head.fileValidator messages = .ok validator)
    (given : surroundings.request.files.get? validator.name = some upload)
    (sent : upload.status ≠ .noFile) (value : Option Value) :
    (validator.run surroundings ⟨value, none⟩).error = none ↔
      (upload.status = .ok ∨ upload.status = .formSize) ∧ head.Admits upload.size := by
  obtain ⟨minSize, maxSize, readMin, readMax, -, initializers, rules⟩ := fileValidator_eq_ok made
  obtain ⟨rfl, -⟩ := stated?_of_bound? readMin
  obtain ⟨rfl, -⟩ := stated?_of_bound? readMax
  have atHand : (validator.prepared surroundings.request value).upload = some upload := by
    rw [FieldValidator.prepared, initializers]
    exact given
  have status : (validator.prepared surroundings.request value).upload.map Upload.status
      = some upload.status := by
    rw [atHand]
    rfl
  unfold FieldValidator.run
  dsimp only
  rw [rules]
  generalize validator.prepared surroundings.request value = state at *
  -- The rule on missing uploads has nothing to say.
  have passes (demanded : Bool) (group : Option String) (message : String) :
      (Rule.fileRequired demanded group message).check surroundings state = .passed := by
    have missed : ¬state.upload.all (·.status == .noFile) := by
      rw [atHand]
      simpa using sent
    rw [Rule.check, if_neg missed]
  rw [List.cons_append, List.cons_append, firstVerdict_cons, passes]
  dsimp only
  rw [firstVerdict_cons, Rule.check, status]
  cases outcome : upload.status with
  | noFile => exact absurd outcome sent
  | ok | formSize =>
    rcases head.firstVerdict_sizeRules surroundings atHand with
      ⟨passed, admits⟩ | ⟨⟨message, failed⟩, refuses⟩
    · simp [passed, admits]
    · simp [failed, refuses]
  | _ => simp

end Head

/-! ### Forms -/

/-- The validator of a file field. -/
theorem Form.Validates.fileValidator {messages : Messages} {trees : List Tree} {form : Form}
    {tag : Node} {validator : FieldValidator}
    (validates : form.Validates messages trees tag validator) (kind : tag.kind = .file) :
    tag.head.fileValidator messages = .ok validator := by
  have made := validates.made
  unfold Node.validator? at made
  rw [kind] at made
  exact eq_ok_of_map_some made

/-- Uploads. A file field of a form, if the fields of that have distinct names, accepts what
it was sent exactly if that arrived, or is over the size limit of the form, and its size lies
within the bounds its tag states. Every file tag in no other value tag makes a field. -/
theorem compileTemplate_uploads {setting : Setting} {text : String} {compiled : Compiled}
    (compiles : compileTemplate setting text = .ok compiled) :
    ∃ site, compiled.GrownFrom setting text site ∧
    ∃ walk, Walk.run setting (setting.tags text) = some walk ∧
      (∀ entry ∈ Tree.entriesIn [] site.trees, entry.isListed → entry.tag.kind = .file →
        ∃ form ∈ compiled.forms, ∃ validator,
          form.Validates setting.config.messages site.trees entry.tag validator) ∧
      ∀ form ∈ compiled.forms, form.fields.Nodup → ∀ tag validator,
        form.Validates setting.config.messages site.trees tag validator → tag.kind = .file →
        ∃ mark ∈ walk.marks, ∃ around, mark.Makes setting.config.messages around tag ∧
          mark.name? = some validator.name ∧
          (∀ key ∈ ["x:minsize", "x:maxsize"],
            (mark.tag.head.stated? Text.natural64 key).isSome
              = (mark.tag.head.attr? key).isSome) ∧
          ∀ request initial upload, request.files.get? validator.name = some upload →
            upload.status ≠ .noFile →
            ((Submission.new form request initial).validate.error? validator.name = none ↔
              (upload.status = .ok ∨ upload.status = .formSize) ∧
                mark.tag.head.Admits upload.size) := by
  obtain ⟨site, grown, formed⟩ := compileTemplate_grows compiles
  obtain ⟨walk, ran, met⟩ := grown.exists_makes
  refine ⟨site, grown, walk, ran, ?_, ?_⟩
  · intro entry member listed kind
    apply exists_validates_of_listed grown formed member listed
    rw [kind]
    rfl
  · intro form output distinct tag validator validates kind
    obtain ⟨mark, isMet, around, makes, name⟩ := met form tag validator validates
    have made := validates.fileValidator kind
    -- Initialization leaves the bounds as they are written.
    have kept (key : String) (bound : key ∈ ["x:minsize", "x:maxsize"]) :
        tag.head.attr? key = mark.tag.head.attr? key := by
      apply makes.attr?
      rcases List.mem_pair.mp bound with rfl | rfl
      · decide
      · decide
    obtain ⟨minSize, maxSize, readMin, readMax, -⟩ := Head.fileValidator_eq_ok made
    refine ⟨mark, isMet, around, makes, name, ?_, ?_⟩
    · intro key bound
      rcases List.mem_pair.mp bound with rfl | rfl
      · obtain ⟨stated, isStated⟩ := makes.stated?_of_bound? readMin (by decide)
        rw [stated, isStated]
      · obtain ⟨stated, isStated⟩ := makes.stated?_of_bound? readMax (by decide)
        rw [stated, isStated]
    · intro request initial upload given sent
      rw [validates.error_validate distinct, Head.error_run_of_upload made given sent]
      constructor
      · rintro ⟨arrived, admits⟩
        exact ⟨arrived, admits.congr kept⟩
      · rintro ⟨arrived, admits⟩
        exact ⟨arrived, admits.congr fun key bound => (kept key bound).symm⟩

/-- An upload that arrived is accepted if it is not over the bound of its field. -/
theorem compileTemplate_uploads_page :
    let setting : Setting := ⟨.builtin, {}, "page"⟩
    let text := "<form:form id=\"f\"><form:file id=\"d\" x:maxsize=\"100\"/></form:form>"
    ∃ compiled, compileTemplate setting text = .ok compiled ∧ ∃ form ∈ compiled.forms,
      ∀ request initial upload, request.files.get? "d" = some upload → upload.status = .ok →
        ((Submission.new form request initial).validate.error? "d" = none ↔ upload.size ≤ 100) := by
  intro setting text
  let formOpens : Markup.Occurrence :=
    ⟨false, false, "form", "form", "id=\"f\"".toList, ⟨0, 1, 1⟩, ⟨18, 1, 19⟩⟩
  let opens : Markup.Occurrence :=
    ⟨false, true, "form", "file", "id=\"d\" x:maxsize=\"100\"".toList, ⟨18, 1, 19⟩, ⟨53, 1, 54⟩⟩
  let formCloses : Markup.Occurrence := ⟨true, false, "form", "form", [], ⟨53, 1, 54⟩, ⟨65, 1, 66⟩⟩
  let forest : Forest :=
    .element [] formOpens (.single [] opens (.text [])) formCloses (.text [])
  have proper : forest.Proper := by
    simp [forest, formOpens, opens, formCloses, Forest.Proper]
  have scanned : forest.scan = Markup.scan setting.registry.namespaces text.toList := by
    rw [String.toList_ofList]
    decide +kernel
  have distinct : ((compileTemplate setting text).toOption.any fun compiled : Compiled =>
      ∀ form ∈ compiled.forms, form.fields.Nodup) = true := by
    rw [compileTemplate, String.toList_ofList]
    decide +kernel
  have entries : ((forest.grow setting {}).toOption.any fun site : Site =>
      ∃ entry ∈ Tree.entriesIn [] site.trees, entry.isListed ∧ entry.tag.head.fieldName = "d" ∧
        entry.tag.kind.isFile) = true := by
    decide +kernel
  have written : ((Walk.run setting (setting.tags text)).any fun walk => walk.marks.all fun mark =>
      mark.name? != some "d" || mark.tag.head.stated? Text.natural64 "x:minsize" == none &&
        mark.tag.head.stated? Text.natural64 "x:maxsize" == some (100, "100")) = true := by
    rw [Setting.tags, String.toList_ofList]
    decide +kernel
  obtain ⟨compiled, compiles, distinct⟩ := exists_of_any distinct
  obtain ⟨site, grows, entry, member, listed, isD, isFile⟩ := exists_of_any entries
  obtain ⟨other, grown, walk, ran, fields, uploads⟩ := compileTemplate_uploads compiles
  obtain rfl : other = site :=
    Except.ok.inj ((grown.grow_eq proper scanned).symm.trans grows)
  have kind := TagKind.isFile_iff.mp isFile
  obtain ⟨form, output, validator, validates⟩ := fields entry member listed kind
  obtain ⟨mark, isMet, around, -, name, -, accepts⟩ :=
    uploads form output (distinct form output) entry.tag validator validates kind
  have own : validator.name = "d" := validates.names.2.trans isD
  rw [ran, Option.any_some, List.all_eq_true] at written
  have bounds := written mark isMet
  rw [name, own, bne_self_eq_false, Bool.false_or, Bool.and_eq_true, beq_iff_eq,
    beq_iff_eq] at bounds
  refine ⟨compiled, compiles, form, output, ?_⟩
  intro request initial upload given arrived
  have accepted := accepts request initial upload (own ▸ given) (by rw [arrived]; decide)
  rw [own] at accepted
  rw [accepted]
  constructor
  · rintro ⟨-, admits⟩
    exact admits.max (100, "100") bounds.2
  · intro small
    refine ⟨.inl arrived, ?_, ?_⟩
    · rw [bounds.1]
      intro bound contrary
      cases contrary
    · rw [bounds.2]
      rintro bound ⟨⟩
      exact small

/-- An upload over the size limit of the form, of which nothing arrived, is accepted. -/
theorem compileTemplate_uploads_formSize :
    let setting : Setting := ⟨.builtin, {}, "page"⟩
    let text := "<form:form id=\"f\"><form:file id=\"d\"/></form:form>"
    let request : Request := { method := .post, files := .ofList [("d", ⟨.formSize, 0, "a.pdf"⟩)] }
    ∃ compiled, compileTemplate setting text = .ok compiled ∧ ∃ form ∈ compiled.forms,
      form.fields = ["d"] ∧ (Submission.new form request .empty).validate.error? "d" = none := by
  intro setting text request
  have evaluated : ((compileTemplate setting text).toOption.any fun compiled : Compiled =>
      ∃ form ∈ compiled.forms, form.fields = ["d"] ∧
        (Submission.new form request .empty).validate.error? "d" = none) = true := by
    rw [compileTemplate, String.toList_ofList]
    decide +kernel
  exact exists_of_any evaluated

end Stencil
