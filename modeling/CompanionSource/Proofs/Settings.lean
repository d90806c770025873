import CompanionSource.Proofs.DottedIdentifier
import CompanionSource.Proofs.Source.Shortening
import CompanionSource.Source.File
import CompanionSource.Synthesis.Wrapper
import Mathlib.Tactic.TFAE

/-! # Names in settings

    Settings name two things that stand in generated source: the annotation that gives the
    provenance, and the function that is called to log.  Both have been checked to be dotted
    identifiers, which the writer of names and the reader of types agree on.

    - So such a name is **written** with backticks around the segments that are keywords, and
      around no others, and it is read back from what is written.
    - The **annotation** is written by that name.  In a file that imports the name, the import has
      the name in it, and the annotation its last segment.
    - The **log function** is a chain of members, which is written like the name. -/

namespace CompanionSource

open Name (IsDottedBare)

/-! ### Writing -/

namespace Name

variable {name : String}

/-- The dotted name with backticks around those of its segments that are hard keywords. -/
def keywordsQuoted (name : String) : String :=
  ".".intercalate
    ((segments name).map fun segment =>
      if isHardKeyword segment then "`" ++ segment ++ "`" else segment)

/-- Of a bare name only keywords are written between backticks. -/
theorem writtenDotted_eq_keywordsQuoted (h : IsDottedBare name.toList) :
    writtenDotted name = keywordsQuoted name := by
  have hwritten : ∀ segment ∈ segments name,
      written segment = if isHardKeyword segment then "`" ++ segment ++ "`" else segment := by
    intro segment hsegment
    have hplain := forall_isPlain_iff.mpr h segment hsegment
    simp only [written, hplain, Bool.not_true, Bool.or_false]
  rw [writtenDotted, keywordsQuoted, List.map_congr_left hwritten]

/-- The segments of a bare name can be written. -/
theorem areWritable_of_isDottedBare (h : IsDottedBare name.toList) : AreWritable name := by
  intro segment hsegment
  have hplain := forall_isPlain_iff.mpr h segment hsegment
  refine ⟨?_, not_mem_of_isPlain hplain (by decide)⟩
  rintro rfl
  cases hplain

/-- A bare name is bare as a file with any imports shortens it. -/
theorem isDottedBare_shortened (h : IsDottedBare name.toList) (imports : Source.Imports) :
    IsDottedBare (Source.shortened imports name).toList := by
  unfold Source.shortened
  split
  · have hlast := simple_mem_segments name
    rw [← forall_isPlain_iff, segments_eq_singleton (dot_not_mem_of_mem_segments hlast)]
    simpa using forall_isPlain_iff.mpr h _ hlast
  · exact h

end Name

open Name (keywordsQuoted)

/-- A bare name is read back from what is written for it. -/
theorem TypeExpr.parse_keywordsQuoted {name : String} (h : IsDottedBare name.toList) :
    parse (keywordsQuoted name) = .ok (named name) := by
  have hnamed : (named name).WellNamed := .mk (Name.areWritable_of_isDottedBare h) (by simp)
  have htext : (named name).text = keywordsQuoted name := by
    rw [← Name.writtenDotted_eq_keywordsQuoted h, named, text]
    simp
  rw [← htext]
  exact parse_text hnamed

/-! ### The annotation -/

namespace Source

/-- Every line of a group is among the lines of the groups with empty lines between them. -/
theorem Line.mem_spaced {groups : List (List Line)} {group : List Line} {line : Line}
    (hgroup : group ∈ groups) (hline : line ∈ group) : line ∈ spaced groups := by
  unfold spaced
  induction groups with
  | nil => cases hgroup
  | cons first others ih =>
    cases others with
    | nil =>
      rw [List.mem_singleton] at hgroup
      rwa [List.intercalate_singleton, ← hgroup]
    | cons second others =>
      rw [List.intercalate_cons_cons, List.mem_append, List.mem_append]
      rcases List.mem_cons.mp hgroup with rfl | hgroup
      · exact .inl (.inl hline)
      · exact .inr (ih hgroup)

/-- A file has an import for each name that it imports. -/
theorem File.import_mem_lines {f : File} {name : String} (h : f.imports.contains name) :
    { text := "import " ++ Name.writtenDotted name } ∈ f.lines := by
  have hname : name ∈ f.imports.names := by simpa [Imports.contains] using h
  have hsome : f.imports.names.isEmpty = false := by
    rw [List.isEmpty_eq_false_iff]
    exact List.ne_nil_of_mem hname
  have hsection : (f.imports.names.map fun n => { text := "import " ++ Name.writtenDotted n })
      ∈ f.sections := by
    simp [sections, hsome]
  exact Line.mem_spaced hsection (List.mem_map.mpr ⟨name, hname, rfl⟩)

theorem typeCode_named (imports : Imports) (name : String) :
    typeCode imports (.named name) = Name.writtenDotted (shortened imports name) := by
  rw [writtenDotted_shortened, TypeExpr.named, typeCode]
  simp

/-- What stands in front of the type of an annotation. -/
def sign : Option UseSite → String
  | some site => "@" ++ site.word ++ ":"
  | none => "@"

end Source

open Source (AnnotationOf AnnotationValue sign shortened)

/-- What the annotation of a provenance says, behind its type. -/
def Provenance.details (p : Provenance) : String :=
  "(" ++ ", ".intercalate
    ["value = [" ++ Source.quoted p.generator ++ "]", "date = " ++ Source.quoted p.date,
      "comments = " ++ Source.quoted p.comment] ++ ")"

theorem Provenance.code_mark (p : Provenance) (site : Option Source.UseSite)
    (imports : Source.Imports) :
    AnnotationOf.code imports { p.mark with site } =
      sign site ++ Name.writtenDotted (shortened imports p.type) ++ p.details := by
  have hnames : Name.written "value" = "value" ∧ Name.written "date" = "date" ∧
      Name.written "comments" = "comments" := by decide
  have hbody : AnnotationOf.body imports { p.mark with site } =
      Source.typeCode imports (.named p.type) ++ p.details := by
    simp only [Provenance.mark, Provenance.markOn, AnnotationOf.body, List.isEmpty_cons,
      Bool.false_eq_true, if_false, AnnotationOf.argumentCodes, AnnotationOf.argumentCode,
      AnnotationValue.code, AnnotationValue.codes, String.intercalate_singleton, hnames, details,
      String.append_assoc]
    rfl
  rw [Source.typeCode_named] at hbody
  cases site <;> simp only [AnnotationOf.code, hbody, sign, String.append_assoc]

/-! ### The log function -/

namespace Synthesis

open Source (Expr)

/-- Members of a receiver, one of another, are written with dots between them. -/
theorem code_foldl_dot (imports : Source.Imports) (names : List String) (receiver : Expr) :
    (names.foldl Expr.dot receiver).code imports =
      ".".intercalate (receiver.code imports :: names.map Name.written) := by
  induction names generalizing receiver with
  | nil => simp
  | cons name names ih =>
    have hdot : (receiver.dot name).code imports =
        receiver.code imports ++ "." ++ Name.written name := by
      simp [Expr.dot, Expr.code]
    rw [List.foldl_cons, ih, hdot, List.map_cons, String.intercalate_cons_cons]
    cases names with
    | nil => simp
    | cons => simp [String.intercalate_cons_cons, String.append_assoc]

/-- A chain of members is written like the dotted name. -/
theorem code_memberChain (imports : Source.Imports) (name : String) :
    (memberChain name).code imports = Name.writtenDotted name := by
  obtain ⟨first, others, hsegments⟩ := List.exists_cons_of_ne_nil (Name.segments_ne_nil name)
  have hfirst : (Expr.name first).code imports = Name.written first := by rw [Expr.code]
  rw [memberChain, Name.writtenDotted, hsegments, code_foldl_dot, hfirst, List.map_cons]

/-- A log line is a call of the log function with the message. -/
theorem Wrapper.code_logged (w : Wrapper) (marks : List Declared.Annotation)
    (message : Source.Template) (imports : Source.Imports) :
    (w.logged marks message).map (Source.Stmt.code imports) =
      if isLogged w.markers marks then
        [w.log.code imports ++ "(" ++ message.code imports ++ ")"]
      else [] := by
  unfold Wrapper.logged
  split
  · simp [Source.Stmt.code, Expr.apply, Expr.code, Expr.argumentCodes, Expr.argumentCode,
      Source.Template.code]
  · rfl

end Synthesis

/-! ### Agreement -/

namespace Settings

open Source (File Stmt Template UseSite)
open Synthesis (Context Wrapper)

/-- **Recognisers of dotted names.**  The check of settings accepts a text exactly if the writer
    takes each of its segments for an identifier, exactly if the reader of types takes it for that
    very name without arguments and without a question mark, and exactly if it is made of bare
    identifiers with dots between them.  No text is left out, whether there are backticks in it or
    not.

    So the annotation of a provenance and the function that is called to log are written, under
    settings without a fault, as dotted names with backticks around the hard keywords only, and
    these are read back as the names in the settings.  In a file that imports the annotation this
    holds of the import, and the annotation has the last segment. -/
theorem recognisers_agree :
    (∀ text : String, List.TFAE
      [isDottedIdentifier text = true,
        ∀ segment ∈ Name.segments text, Name.isPlain segment = true,
        TypeExpr.parse text = .ok (.named text),
        IsDottedBare text.toList]) ∧
    ∀ settings : Settings, settings.faults = [] →
      (∀ name ∈ [settings.provenanceType, settings.logFunction],
        TypeExpr.parse (keywordsQuoted name) = .ok (.named name)) ∧
      (∀ (start : Moment) (site : Option UseSite) (f : File),
        let p := settings.provenance start
        (f.imports.contains settings.provenanceType = false →
          AnnotationOf.code f.imports { p.mark with site } =
            sign site ++ keywordsQuoted settings.provenanceType ++ p.details) ∧
        (f.imports.contains settings.provenanceType = true →
          { text := "import " ++ keywordsQuoted settings.provenanceType } ∈ f.lines ∧
          AnnotationOf.code f.imports { p.mark with site } =
            sign site ++ keywordsQuoted (Name.simple settings.provenanceType) ++ p.details)) ∧
      ∀ (ctx : Context) (d : Declaration), ctx.settings = settings →
        ∀ (marks : List Declared.Annotation) (message : Template) (imports : Source.Imports),
          ((Wrapper.of ctx d).logged marks message).map (Stmt.code imports) =
            if isLogged settings.markerNamespace marks then
              [keywordsQuoted settings.logFunction ++ "(" ++ message.code imports ++ ")"]
            else [] := by
  refine ⟨fun text => ?_, fun settings hsettings => ?_⟩
  · tfae_have 1 ↔ 4 := isDottedIdentifier_iff
    tfae_have 2 ↔ 4 := Name.forall_isPlain_iff
    tfae_have 3 ↔ 4 := TypeExpr.parse_eq_named_iff
    tfae_finish
  · -- What the check has accepted is in the class, so that all the lemmas on bare names apply.
    obtain ⟨htype, hlog⟩ := namesAreBare_of_faults hsettings
    refine ⟨by simp [TypeExpr.parse_keywordsQuoted, htype, hlog], fun start site f => ?_, ?_⟩
    · have hcode := (settings.provenance start).code_mark site f.imports
      rw [show (settings.provenance start).type = settings.provenanceType from rfl,
        Name.writtenDotted_eq_keywordsQuoted (Name.isDottedBare_shortened htype f.imports)] at hcode
      refine ⟨fun habsent => ?_, fun himported => ⟨?_, ?_⟩⟩
      · simpa [shortened, habsent] using hcode
      · rw [← Name.writtenDotted_eq_keywordsQuoted htype]
        exact File.import_mem_lines himported
      · simpa [shortened, himported] using hcode
    · rintro ctx d rfl marks message imports
      rw [Wrapper.code_logged, ← Name.writtenDotted_eq_keywordsQuoted hlog,
        ← Synthesis.code_memberChain imports]
      rfl

/-- Names with keywords among their segments, in a file that imports one of them; and texts that
    are accepted, with a letter that is not from ASCII, and refused, with nothing between dots. -/
theorem recognisers_agree_keywords :
    let settings : Settings := { provenanceType := "javax.in.Generated", logFunction := "Log.is.d" }
    let ctx : Context := .of ⟨[], rfl⟩ settings .newYear2024
    let f : File := { package := "a", name := "Api", imports := .ofList [settings.provenanceType] }
    TypeExpr.parse "in.\u00e9_9" = .ok (.named "in.\u00e9_9") ∧
    TypeExpr.parse "a..b" ≠ .ok (.named "a..b") ∧
    settings.faults = [] ∧
    TypeExpr.parse "javax.`in`.Generated" = .ok (.named "javax.in.Generated") ∧
    TypeExpr.parse "Log.`is`.d" = .ok (.named "Log.is.d") ∧
    { text := "import javax.`in`.Generated" } ∈ f.lines ∧
    AnnotationOf.code f.imports { ctx.provenance.mark with site := some .file } =
      "@file:Generated" ++ ctx.provenance.details ∧
    ((Wrapper.of ctx { name := "a.Api", kind := .interface }).logged [] [.literal "f()"]).map
        (Stmt.code f.imports) = ["Log.`is`.d(\"f()\")"] := by
  intro settings ctx f
  have htexts := recognisers_agree.1
  have hsettings : settings.faults = [] := by decide
  obtain ⟨hnames, hmark, hlog⟩ := recognisers_agree.2 settings hsettings
  have himported : f.imports.contains settings.provenanceType = true := by decide
  obtain ⟨himport, hcode⟩ := (hmark .newYear2024 (some .file) f).2 himported
  have htype : keywordsQuoted settings.provenanceType = "javax.`in`.Generated" := by decide
  have hfunction : keywordsQuoted settings.logFunction = "Log.`is`.d" := by decide
  have hfront : sign (some .file) ++ keywordsQuoted (Name.simple settings.provenanceType) =
      "@file:Generated" := by decide
  have hline : "import " ++ keywordsQuoted settings.provenanceType =
      "import javax.`in`.Generated" := by decide
  have hrefused : isDottedIdentifier "a..b" ≠ true := by decide
  refine ⟨((htexts _).out 0 2).mp (by decide +kernel), ?_, hsettings, ?_, ?_, ?_, ?_, ?_⟩
  · exact mt ((htexts "a..b").out 0 2).mpr hrefused
  · rw [← htype]
    exact hnames _ List.mem_cons_self
  · rw [← hfunction]
    exact hnames _ (List.mem_cons_of_mem _ List.mem_cons_self)
  · rwa [hline] at himport
  · rw [hfront] at hcode
    exact hcode
  · rw [hlog ctx _ rfl, hfunction]
    decide

end Settings

end CompanionSource
