import CompanionSource.Directive
import CompanionSource.Proofs.Snapshot.Names
import Mathlib.Data.List.Forall2

/-! # The spelling of markers

    A marker can be spelled in two ways: by its qualified name, or by its simple name where the
    annotation was not resolved.  Both stand for the same directive.

    - Annotations are **respelled** when some markers among them are given the other spelling.
      Their arguments stay, and so do all annotations that are no markers.
    - Every marker can be **spelled out**, which makes its name the qualified one.  What was
      respelled is the same when it is spelled out.
    - No **question** about markers tells an annotation from the one that is spelled out. -/

namespace CompanionSource

namespace Directive

/-- No marker has a dot in its simple name. -/
theorem not_dot_mem_word (d : Directive) : '.' ∉ d.word.toList := by
  cases d <;> decide

theorem word_injective {d d' : Directive} (h : d.word = d'.word) : d = d' := by
  revert h
  cases d <;> cases d' <;> decide

theorem ofWord?_eq_some_iff {name : String} {d : Directive} :
    ofWord? name = some d ↔ name = d.word := by
  constructor
  · intro h
    have hfound := List.find?_some h
    exact (beq_iff_eq.mp hfound).symm
  · rintro rfl
    cases d <;> decide

theorem marker_injective {scope : String} {d d' : Directive} (h : d.marker scope = d'.marker scope) :
    d = d' := by
  unfold marker Name.qualify at h
  split at h
  · exact word_injective h
  · exact word_injective ((String.append_right_inj _).mp h)

/-- The simple name of a marker is its word. -/
theorem simple_marker (scope : String) (d : Directive) : Name.simple (d.marker scope) = d.word :=
  Name.simple_qualify scope d.not_dot_mem_word

/-- A word has nothing in front of its last segment. -/
theorem simple_word (d : Directive) : Name.simple d.word = d.word :=
  simple_marker "" d

end Directive

/-! ### Two spellings -/

namespace Declared

/-- `a'` is `a`, or the same marker with the other spelling of its name. -/
inductive Annotation.Respelled (scope : String) (a : Annotation) : Annotation → Prop
  /-- Nothing is respelled. -/
  | same : Respelled scope a a
  /-- The simple name takes the place of the qualified one. -/
  | shorter (d : Directive) (hname : a.name = d.marker scope) :
      Respelled scope a { a with name := d.word }
  /-- The qualified name takes the place of the simple one. -/
  | longer (d : Directive) (hname : a.name = d.word) :
      Respelled scope a { a with name := d.marker scope }

/-- Some of the annotations are respelled. -/
def Respelled (scope : String) (marks marks' : List Annotation) : Prop :=
  List.Forall₂ (fun a a' => a.Respelled scope a') marks marks'

/-- Some of the annotations of the function are respelled. -/
structure Function.Respelled (scope : String) (f f' : Function) : Prop where
  annotations : Declared.Respelled scope f.annotations f'.annotations
  rest : f' = { f with annotations := f'.annotations }

/-- Some of the annotations of the property are respelled. -/
structure Property.Respelled (scope : String) (p p' : Property) : Prop where
  annotations : Declared.Respelled scope p.annotations p'.annotations
  rest : p' = { p with annotations := p'.annotations }

end Declared

/-- Some of the annotations of the declaration, of its functions and of its properties are
    respelled. -/
structure Declaration.Respelled (scope : String) (d d' : Declaration) : Prop where
  annotations : Declared.Respelled scope d.annotations d'.annotations
  functions : List.Forall₂ (Declared.Function.Respelled scope) d.functions d'.functions
  properties : List.Forall₂ (Declared.Property.Respelled scope) d.properties d'.properties
  rest : d' = { d with
    annotations := d'.annotations, functions := d'.functions, properties := d'.properties }

/-! ### Spelling out -/

namespace Declared

/-- The annotation, by its qualified name if it is a marker. -/
def Annotation.spelledOut (scope : String) (a : Annotation) : Annotation :=
  match Directive.ofWord? a.name with
  | some d => { a with name := d.marker scope }
  | none => a

/-- The annotations with all markers spelled out. -/
def spelledOut (scope : String) (marks : List Annotation) : List Annotation :=
  marks.map (·.spelledOut scope)

/-- The function with all markers spelled out. -/
def Function.spelledOut (scope : String) (f : Function) : Function :=
  { f with annotations := Declared.spelledOut scope f.annotations }

/-- The property with all markers spelled out. -/
def Property.spelledOut (scope : String) (p : Property) : Property :=
  { p with annotations := Declared.spelledOut scope p.annotations }

end Declared

/-- The declaration with all markers spelled out. -/
def Declaration.spelledOut (scope : String) (d : Declaration) : Declaration :=
  { d with
    annotations := Declared.spelledOut scope d.annotations
    functions := d.functions.map (·.spelledOut scope)
    properties := d.properties.map (·.spelledOut scope) }

/-- Lists are mapped to the same when related elements are. -/
theorem map_eq_map_of_forall₂ {α β : Type} {r : α → α → Prop} {f : α → β} {xs ys : List α}
    (h : List.Forall₂ r xs ys) (hf : ∀ x y, r x y → f x = f y) : xs.map f = ys.map f := by
  induction h with
  | nil => rfl
  | cons hxy _ ih => rw [List.map_cons, List.map_cons, hf _ _ hxy, ih]

namespace Declared

section spelledOut
variable {scope : String}

theorem Annotation.spelledOut_of_word {a : Annotation} {d : Directive} (h : a.name = d.word) :
    a.spelledOut scope = { a with name := d.marker scope } := by
  simp only [spelledOut, Directive.ofWord?_eq_some_iff.mpr h]

/-- What is spelled out already stays as it is. -/
theorem Annotation.spelledOut_of_marker {a : Annotation} {d : Directive}
    (h : a.name = d.marker scope) : a.spelledOut scope = a := by
  unfold spelledOut
  split
  · next d' hd' =>
    have hword : a.name = d'.word := Directive.ofWord?_eq_some_iff.mp hd'
    -- A qualified name that is a word is its own last segment.
    have hsame : d.word = d'.word := by
      rw [← Directive.simple_marker scope d, ← h, hword]
      exact Directive.simple_word d'
    rw [← Directive.word_injective hsame, ← h]
  · rfl

theorem Annotation.Respelled.spelledOut_eq {a a' : Annotation} (h : a.Respelled scope a') :
    a.spelledOut scope = a'.spelledOut scope := by
  cases h with
  | same => rfl
  | shorter d hname =>
    have hword : ({ a with name := d.word } : Annotation).name = d.word := rfl
    rw [spelledOut_of_marker hname, spelledOut_of_word hword, ← hname]
  | longer d hname =>
    rw [spelledOut_of_word hname, spelledOut_of_marker rfl]

theorem Respelled.spelledOut_eq {marks marks' : List Annotation} (h : Respelled scope marks marks') :
    spelledOut scope marks = spelledOut scope marks' :=
  map_eq_map_of_forall₂ h fun _ _ => Annotation.Respelled.spelledOut_eq

theorem Function.Respelled.spelledOut_eq {f f' : Function} (h : f.Respelled scope f') :
    f.spelledOut scope = f'.spelledOut scope := by
  have hrest : f'.spelledOut scope
      = { f with annotations := Declared.spelledOut scope f'.annotations } :=
    congrArg (Function.spelledOut scope) h.rest
  rw [hrest, ← h.annotations.spelledOut_eq]
  rfl

theorem Property.Respelled.spelledOut_eq {p p' : Property} (h : p.Respelled scope p') :
    p.spelledOut scope = p'.spelledOut scope := by
  have hrest : p'.spelledOut scope
      = { p with annotations := Declared.spelledOut scope p'.annotations } :=
    congrArg (Property.spelledOut scope) h.rest
  rw [hrest, ← h.annotations.spelledOut_eq]
  rfl

end spelledOut

end Declared

theorem Declaration.Respelled.spelledOut_eq {scope : String} {d d' : Declaration}
    (h : d.Respelled scope d') : d.spelledOut scope = d'.spelledOut scope := by
  have hrest : d'.spelledOut scope = { d with
      annotations := Declared.spelledOut scope d'.annotations
      functions := d'.functions.map (·.spelledOut scope)
      properties := d'.properties.map (·.spelledOut scope) } :=
    congrArg (Declaration.spelledOut scope) h.rest
  rw [hrest, ← h.annotations.spelledOut_eq,
    ← map_eq_map_of_forall₂ h.functions fun _ _ => Declared.Function.Respelled.spelledOut_eq,
    ← map_eq_map_of_forall₂ h.properties fun _ _ => Declared.Property.Respelled.spelledOut_eq]
  rfl

/-! ### Questions about markers -/

namespace Declared

section questions
variable {scope : String}

theorem Annotation.isMarker_iff {a : Annotation} {d : Directive} :
    a.isMarker (d.marker scope) ↔
      a.name = d.marker scope ∨ Name.isDotted a.name = false ∧ a.name = d.word := by
  simp [isMarker, Directive.simple_marker]

/-- The simple name of a marker stands for its directive and for no other. -/
theorem Annotation.isMarker_iff_of_word {a : Annotation} {d d' : Directive} (h : a.name = d.word) :
    a.isMarker (d'.marker scope) ↔ d = d' := by
  rw [isMarker_iff]
  constructor
  · rintro (hname | ⟨-, hname⟩)
    · have hsimple := congrArg Name.simple (h.symm.trans hname)
      rw [Directive.simple_word, Directive.simple_marker] at hsimple
      exact Directive.word_injective hsimple
    · exact Directive.word_injective (h.symm.trans hname)
  · rintro rfl
    refine .inr ⟨?_, h⟩
    rw [h, Name.isDotted]
    simpa using d.not_dot_mem_word

/-- So does the qualified name. -/
theorem Annotation.isMarker_iff_of_marker {a : Annotation} {d d' : Directive}
    (h : a.name = d.marker scope) : a.isMarker (d'.marker scope) ↔ d = d' := by
  rw [isMarker_iff]
  constructor
  · rintro (hname | ⟨-, hname⟩)
    · exact Directive.marker_injective (h.symm.trans hname)
    · have hsimple := congrArg Name.simple (h.symm.trans hname)
      rw [Directive.simple_word, Directive.simple_marker] at hsimple
      exact Directive.word_injective hsimple
  · rintro rfl
    exact .inl h

/-- An annotation is a marker exactly when it is one spelled out. -/
theorem Annotation.isMarker_spelledOut (a : Annotation) (d : Directive) :
    (a.spelledOut scope).isMarker (d.marker scope) = a.isMarker (d.marker scope) := by
  cases hword : Directive.ofWord? a.name with
  | none => simp only [spelledOut, hword]
  | some d' =>
    have hname := Directive.ofWord?_eq_some_iff.mp hword
    have hspelled : (a.spelledOut scope).name = d'.marker scope := by
      rw [spelledOut_of_word hname]
    rw [Bool.eq_iff_iff, isMarker_iff_of_marker hspelled, isMarker_iff_of_word hname]

theorem Annotation.isAnyMarker_spelledOut (a : Annotation) :
    (a.spelledOut scope).isAnyMarker scope = a.isAnyMarker scope := by
  simp only [isAnyMarker, isMarker_spelledOut]

/-- What is no marker is not touched. -/
theorem Annotation.spelledOut_of_not_isAnyMarker {a : Annotation} (h : a.isAnyMarker scope = false) :
    a.spelledOut scope = a := by
  cases hword : Directive.ofWord? a.name with
  | none => simp only [spelledOut, hword]
  | some d =>
    have hname := Directive.ofWord?_eq_some_iff.mp hword
    have hmarker : a.isMarker (d.marker scope) := (isMarker_iff_of_word hname).mpr rfl
    have hany : a.isAnyMarker scope = true :=
      List.any_eq_true.mpr ⟨d, by cases d <;> decide, hmarker⟩
    rw [h] at hany
    cases hany

theorem Annotation.arguments_spelledOut (a : Annotation) :
    (a.spelledOut scope).arguments = a.arguments := by
  unfold spelledOut
  split <;> rfl

end questions

end Declared

section questions
variable {scope : String}

theorem isLogged_spelledOut (marks : List Declared.Annotation) :
    isLogged scope (Declared.spelledOut scope marks) = isLogged scope marks := by
  simp only [isLogged, Declared.spelledOut, List.any_map, Function.comp_def,
    Declared.Annotation.isMarker_spelledOut]

namespace Declaration

theorem marking?_spelledOut (d : Declaration) (directive : Directive) :
    (d.spelledOut scope).marking? (directive.marker scope)
      = (d.marking? (directive.marker scope)).map (·.spelledOut scope) := by
  simp only [marking?, spelledOut, Declared.spelledOut, List.find?_map, Function.comp_def,
    Declared.Annotation.isMarker_spelledOut]

theorem isMarked_spelledOut (d : Declaration) (directive : Directive) :
    (d.spelledOut scope).isMarked (directive.marker scope) = d.isMarked (directive.marker scope) := by
  rw [isMarked, marking?_spelledOut, Option.isSome_map, isMarked]

end Declaration

end questions

/-! ### Snapshots -/

namespace Snapshot

theorem propertyIssuesFrom_spelledOut (scope owner : String) (seen : List String)
    (ps : List Declared.Property) :
    propertyIssuesFrom owner seen (ps.map (·.spelledOut scope)) = propertyIssuesFrom owner seen ps := by
  induction ps generalizing seen with
  | nil => rfl
  | cons p ps ih =>
    simp only [List.map_cons, propertyIssuesFrom, ih]
    rfl

/-- No check of a declaration looks at annotations. -/
theorem innerIssues_spelledOut (scope : String) (d : Declaration) :
    innerIssues (d.spelledOut scope) = innerIssues d := by
  have hfunctions : (d.functions.map (·.spelledOut scope)).flatMap (functionIssues d.name)
      = d.functions.flatMap (functionIssues d.name) := by
    rw [List.flatMap_map]
    rfl
  unfold innerIssues Declaration.spelledOut
  rw [hfunctions, propertyIssuesFrom_spelledOut]

theorem issuesFrom_spelledOut (scope : String) (seen : List String) (ds : List Declaration) :
    issuesFrom seen (ds.map (·.spelledOut scope)) = issuesFrom seen ds := by
  induction ds generalizing seen with
  | nil => rfl
  | cons d ds ih =>
    have hd : declarationIssues seen (d.spelledOut scope) = declarationIssues seen d := by
      rw [declarationIssues, innerIssues_spelledOut]
      rfl
    rw [List.map_cons, issuesFrom, issuesFrom, hd]
    exact congrArg _ (ih _)

/-- The snapshot with all markers spelled out. -/
def spelledOut (scope : String) (s : Snapshot) : Snapshot :=
  { declarations := s.declarations.map (·.spelledOut scope)
    sound := by
      rw [issues, issuesFrom_spelledOut]
      exact s.sound }

variable {scope : String}

/-- A respelled list of declarations has no issues that it did not have before. -/
theorem issues_of_respelled {ds ds' : List Declaration}
    (h : List.Forall₂ (Declaration.Respelled scope) ds ds') : issues ds' = issues ds := by
  have hspelled := map_eq_map_of_forall₂ h fun _ _ => Declaration.Respelled.spelledOut_eq
  have hds := issuesFrom_spelledOut scope [] ds
  rw [hspelled, issuesFrom_spelledOut] at hds
  exact hds

theorem spelledOut_eq_of_respelled {s s' : Snapshot}
    (h : List.Forall₂ (Declaration.Respelled scope) s.declarations s'.declarations) :
    s.spelledOut scope = s'.spelledOut scope := by
  have hspelled := map_eq_map_of_forall₂ h fun _ _ => Declaration.Respelled.spelledOut_eq
  simp only [spelledOut, hspelled]

theorem declaration?_spelledOut (s : Snapshot) (name : String) :
    (s.spelledOut scope).declaration? name = (s.declaration? name).map (·.spelledOut scope) := by
  rw [declaration?_eq_find?, declaration?_eq_find?, spelledOut, List.find?_map]
  rfl

theorem resolve?_spelledOut (s : Snapshot) (type : TypeExpr) (seenFrom : String) :
    (s.spelledOut scope).resolve? type seenFrom
      = (s.resolve? type seenFrom).map (·.spelledOut scope) := by
  unfold resolve?
  split
  · exact declaration?_spelledOut s type.name
  · rw [declaration?_spelledOut, declaration?_spelledOut, Option.map_or]

theorem markedWith_spelledOut (s : Snapshot) (directive : Directive) :
    (s.spelledOut scope).markedWith (directive.marker scope)
      = (s.markedWith (directive.marker scope)).map (·.spelledOut scope) := by
  simp only [markedWith, spelledOut, List.filter_map, Function.comp_def,
    Declaration.isMarked_spelledOut]

end Snapshot

end CompanionSource
