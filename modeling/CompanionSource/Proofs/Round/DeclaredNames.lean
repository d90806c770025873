import CompanionSource.Proofs.Round.Collision
import CompanionSource.Proofs.Snapshot.DeclaredNames
import CompanionSource.Proofs.Wrapper.Capture

/-! # Blank names in units

    The names that a unit declares are those of declarations, and names that the generators bring
    along.  None of the latter is blank.  So a unit declares a blank name only where the checks of
    declarations have let one through: at a **type parameter of a function**, which the override
    in a wrapper repeats.  Copies and nice strings repeat no functions. -/

namespace CompanionSource

namespace Text

theorem isBlankText_append (s t : String) :
    isBlankText (s ++ t) = (isBlankText s && isBlankText t) := by
  rw [isBlankText, String.toList_append, List.all_append]
  rfl

/-- A blank name is none of those that are not blank. -/
theorem ne_of_isBlankText {name other : String} (hblank : isBlankText name = true)
    (hother : isBlankText other = false) : name ≠ other := by
  rintro rfl
  rw [hblank] at hother
  cases hother

end Text

/-! ### Names that source declares -/

namespace Source

/-- The names that a property declares: its own, and those inside its accessors. -/
def Property.declaredNames (p : Property) : List String :=
  p.name :: p.bodies.flatMap fun b => b.parameters ++ b.locals

/-- The names that a function declares: its own, its type parameters, and those of its body. -/
def Function.declaredNames (f : Function) : List String :=
  f.name :: f.typeVariables.map (·.name) ++ (f.toBody.parameters ++ f.toBody.locals)

/-- The names that a class declares: its own, its type parameters, the parameters of its
    constructor, and those of its members. -/
def Class.declaredNames (c : Class) : List String :=
  c.name :: c.typeVariables.map (·.name) ++ c.parameters.map (·.name)
    ++ (c.properties.flatMap (·.declaredNames) ++ c.functions.flatMap (·.declaredNames))

/-- The names that something at the top level declares. -/
def TopLevel.declaredNames : TopLevel → List String
  | .ofClass c => c.declaredNames
  | .ofFunction f => f.declaredNames
  | .ofProperty p => p.declaredNames

end Source

/-! ### Names that the generators bring along -/

namespace Synthesis

open Snapshot (SoundDeclaration)

theorem isBlankText_wrapperName (d : Declaration) : Text.isBlankText (wrapperName d) = false := by
  have hsuffix : Text.isBlankText "LoggerImpl" = false := by decide
  rw [wrapperName, Text.isBlankText_append, hsuffix, Bool.and_false]

theorem isBlankText_freshName {base : String} (h : Text.isBlankText base = false)
    (taken : List String) : Text.isBlankText (freshName base taken) = false := by
  obtain ⟨k, heq, -, -⟩ := exists_freshName_eq base taken
  rw [heq, underscored, Text.isBlankText_append, h, Bool.false_and]

/-! ### Names of overrides -/

section overrides
variable {w : Wrapper} {name : String}

theorem declaredNames_overrideProperty {p : Declared.Property} {q : Source.Property}
    (h : w.overrideProperty p = .ok q) :
    q.declaredNames =
      p.name :: resultLocal :: if p.mutable then [setterParameter] else [] := by
  obtain ⟨type, -, rfl⟩ := Wrapper.overrideProperty_eq_ok_iff.mp h
  cases hmutable : p.mutable <;>
    simp [Source.Property.declaredNames, Source.Property.bodies, Source.Body.locals,
      Wrapper.localNames_getterBody, Wrapper.localNames_setterBody, setterParameter]

theorem declaredNames_overrideFunction {f : Declared.Function} {g : Source.Function}
    (h : w.overrideFunction f = .ok g) :
    g.declaredNames =
      f.name :: f.typeParameters.map (·.name)
        ++ (f.parameters.map (·.name)
          ++ if returnsValue f then [Wrapper.functionResult f] else []) := by
  have hparameters : g.toBody.parameters = f.parameters.map (·.name) :=
    Wrapper.names_of_overrideFunction h
  rw [Source.Function.declaredNames, hparameters]
  obtain ⟨parameters, -, rfl⟩ := Wrapper.overrideFunction_eq_ok_iff.mp h
  simp only [Source.Function.toBody, Source.Body.locals, Wrapper.localNames_functionBody]

/-- No override of a property declares a blank name. -/
theorem blank_not_mem_overrideProperty {d : Declaration} (hd : SoundDeclaration d)
    (hblank : Text.isBlankText name = true) {p : Declared.Property} (hp : p ∈ d.properties)
    {q : Source.Property} (h : w.overrideProperty p = .ok q) : name ∉ q.declaredNames := by
  have hname : name ≠ p.name := Text.ne_of_isBlankText hblank (hd.properties p hp)
  have hresult : name ≠ resultLocal := Text.ne_of_isBlankText hblank (by decide)
  have hvalue : name ≠ setterParameter := Text.ne_of_isBlankText hblank (by decide)
  rw [declaredNames_overrideProperty h]
  cases p.mutable <;> simp [hname, hresult, hvalue]

/-- The override of a function declares the blank names among its type parameters. -/
theorem blank_mem_overrideFunction_iff {d : Declaration} (hd : SoundDeclaration d)
    (hblank : Text.isBlankText name = true) {f : Declared.Function} (hf : f ∈ d.functions)
    {g : Source.Function} (h : w.overrideFunction f = .ok g) :
    name ∈ g.declaredNames ↔ name ∈ f.typeParameters.map (·.name) := by
  have hname : name ≠ f.name := Text.ne_of_isBlankText hblank (hd.functions f hf).1
  have hparameters : name ∉ f.parameters.map (·.name) := by
    intro hmem
    have hplace : name ∈ d.namesAt .functionParameter := List.mem_flatMap.mpr ⟨f, hf, hmem⟩
    exact Text.ne_of_isBlankText hblank (hd.not_isBlankText (by decide) hplace) rfl
  have hresult : name ≠ Wrapper.functionResult f :=
    Text.ne_of_isBlankText hblank (isBlankText_freshName (by decide) _)
  rw [declaredNames_overrideFunction h]
  cases returnsValue f <;> simp [hname, hparameters, hresult]

variable {d : Declaration}

theorem blank_not_mem_properties {ps : List Declared.Property} {qs : List Source.Property}
    (hd : SoundDeclaration d) (hblank : Text.isBlankText name = true) (hps : ps ⊆ d.properties)
    (h : List.Forall₂ (fun p q => w.overrideProperty p = .ok q) ps qs) :
    name ∉ qs.flatMap (·.declaredNames) := by
  intro hmem
  obtain ⟨q, hq, hmem⟩ := List.mem_flatMap.mp hmem
  obtain ⟨p, hp, hoverride⟩ := Traversal.exists_mem_of_forall₂ h hq
  exact blank_not_mem_overrideProperty hd hblank (hps hp) hoverride hmem

theorem blank_mem_functions_iff {fs : List Declared.Function} {gs : List Source.Function}
    (hd : SoundDeclaration d) (hblank : Text.isBlankText name = true) (hfs : fs ⊆ d.functions)
    (h : List.Forall₂ (fun f g => w.overrideFunction f = .ok g) fs gs) :
    name ∈ gs.flatMap (·.declaredNames) ↔
      ∃ f ∈ fs, name ∈ f.typeParameters.map (·.name) := by
  have hmembers : List.Forall₂ (fun f g => f ∈ d.functions ∧ w.overrideFunction f = .ok g) fs gs :=
    (List.forall₂_and_left _ _).mpr ⟨fun f hf => hfs hf, h⟩
  rw [List.mem_flatMap]
  refine (Traversal.exists_mem_iff_of_forall₂ ?_ hmembers).symm
  intro f g hoverride
  exact (blank_mem_overrideFunction_iff hd hblank hoverride.1 hoverride.2).symm

end overrides

/-! ### Names of generated declarations -/

section generated
variable {ctx : Context} {d : Declaration}

theorem declaredNames_wrapperClass (properties : List Source.Property)
    (functions : List Source.Function) :
    (wrapperClass ctx d properties functions).declaredNames =
      wrapperName d :: d.typeParameters.map (·.name) ++ [delegateField]
        ++ (properties.flatMap (·.declaredNames) ++ functions.flatMap (·.declaredNames)) :=
  rfl

theorem declaredNames_copyFunction (ts : List TypedParameter) :
    (copyFunction ctx d ts).declaredNames =
      copyName :: d.typeParameters.map (·.name) ++ ts.map (·.parameter.name) := by
  simp [Source.Function.declaredNames, copyFunction, copyParameter, Source.Function.toBody,
    Source.Body.locals, Source.localNames]

theorem declaredNames_niceStringFunction (ts : List TypedParameter) :
    (niceStringFunction ctx d ts).declaredNames =
      niceStringName :: d.typeParameters.map (·.name) := by
  simp [Source.Function.declaredNames, niceStringFunction, Source.Function.toBody,
    Source.Body.locals, Source.localNames]

end generated

end Synthesis

/-! ### Names of companions -/

namespace Companion

open Synthesis (Context Generated)
open Source (TopLevel)

theorem generate_wrapper {ctx : Context} {d : Declaration} {g : Generated Source.Class}
    (h : Synthesis.wrapper ctx d = .ok g) :
    wrapper.generate ctx d = .ok ⟨.ofClass g.item, g.warnings⟩ :=
  Traversal.map_eq_ok_iff.mpr ⟨g, h, rfl⟩

/-- Among the names of a companion, the blank ones are those of type parameters of overridden
    functions.  So only a wrapper has any. -/
theorem blank_mem_declaredNames_iff {ctx : Context} {c : Companion} {d : Declaration}
    {g : Generated TopLevel} {name : String} (hd : Snapshot.SoundDeclaration d)
    (h : c.generate ctx d = .ok g) (hblank : Text.isBlankText name = true) :
    name ∈ g.item.declaredNames ↔
      c = .wrapper ∧ ∃ f ∈ Synthesis.overridableFunctions d,
        name ∈ f.typeParameters.map (·.name) := by
  have htypes : name ∉ d.typeParameters.map (·.name) := by
    intro hmem
    have hplace : name ∈ d.namesAt .typeParameter := hmem
    exact Text.ne_of_isBlankText hblank (hd.not_isBlankText (by decide) hplace) rfl
  cases c with
  | wrapper =>
    obtain ⟨w, hw, rfl⟩ := Traversal.map_eq_ok_iff.mp h
    obtain ⟨-, -, properties, functions, hproperties, hfunctions, rfl⟩ :=
      Synthesis.wrapper_eq_ok_iff.mp hw
    have hclass : name ≠ Synthesis.wrapperName d :=
      Text.ne_of_isBlankText hblank (Synthesis.isBlankText_wrapperName d)
    have hdelegate : name ≠ Synthesis.delegateField := Text.ne_of_isBlankText hblank (by decide)
    have hproperty : name ∉ properties.flatMap (·.declaredNames) :=
      Synthesis.blank_not_mem_properties hd hblank (fun _ hp => List.mem_of_mem_filter hp)
        hproperties
    have hfunction : name ∈ functions.flatMap (·.declaredNames) ↔
        ∃ f ∈ Synthesis.overridableFunctions d, name ∈ f.typeParameters.map (·.name) :=
      Synthesis.blank_mem_functions_iff hd hblank (fun _ hf => List.mem_of_mem_filter hf)
        hfunctions
    rw [← hfunction]
    simp only [TopLevel.declaredNames, Synthesis.declaredNames_wrapperClass, List.mem_append,
      List.mem_cons, List.not_mem_nil, hclass, htypes, hdelegate, hproperty, false_or, true_and]
  | copy =>
    obtain ⟨f, hf, rfl⟩ := Traversal.map_eq_ok_iff.mp h
    obtain ⟨ts, hts, rfl⟩ := Synthesis.copy_eq_ok_iff.mp hf
    have hcopy : name ≠ Synthesis.copyName := Text.ne_of_isBlankText hblank (by decide)
    have hparameters : name ∉ ts.map (·.parameter.name) := by
      intro hmem
      have hplace : name ∈ d.namesAt .constructorParameter := by
        rw [Declaration.namesAt, Synthesis.constructor?_of_constructorFields hts, Option.getD_some,
          List.map_map]
        exact hmem
      exact Text.ne_of_isBlankText hblank (hd.not_isBlankText (by decide) hplace) rfl
    simp only [TopLevel.declaredNames, Synthesis.declaredNames_copyFunction, List.mem_append,
      List.mem_cons, hcopy, htypes, hparameters, or_false, reduceCtorEq, false_and]
  | niceString =>
    obtain ⟨f, hf, rfl⟩ := Traversal.map_eq_ok_iff.mp h
    obtain ⟨ts, -, -, rfl⟩ := Synthesis.niceString_eq_ok_iff.mp hf
    have hniceString : name ≠ Synthesis.niceStringName := Text.ne_of_isBlankText hblank (by decide)
    simp only [TopLevel.declaredNames, Synthesis.declaredNames_niceStringFunction, List.mem_cons,
      hniceString, htypes, or_false, reduceCtorEq, false_and]

end Companion

/-! ### Whole rounds -/

namespace Plan

open Synthesis (Context)

/-- Nothing stands in the way of the wrapper of the first marked declaration. -/
theorem first_wrapper_submitted {ctx : Context} {d : Declaration} {ds : List Declaration}
    {g : Synthesis.Generated Source.Class} (hmarked : marked ctx .loggable = d :: ds)
    (hg : Synthesis.wrapper ctx d = .ok g) :
    wrapperUnit ctx d g.item ∈ submitted (Companion.wrapper.plan ctx) := by
  have hplan : Companion.wrapper.plan ctx =
      warnings d.name g.warnings
        ++ .submit (wrapperUnit ctx d g.item)
        :: wrappersFrom ctx [(wrapperKey d, d.name)] ds := by
    show wrappersFrom ctx [] (marked ctx .loggable) = _
    rw [hmarked]
    exact wrappersFrom_of_wrapper List.lookup_nil hg ds
  rw [hplan, submitted_append]
  exact List.mem_append_right _ List.mem_cons_self

/-- **Blank names.**  A declared name that is blank is that of a type parameter of a function.  And
    a unit of a round declares a blank name exactly if it is one of a function that a wrapper in
    it overrides. -/
theorem blank_declared_iff (s : Snapshot) :
    (∀ d ∈ s.declarations, ∀ place, ∀ name ∈ d.namesAt place, Text.isBlankText name = true →
      place = .functionTypeParameter) ∧
    ∀ settings start, ∀ u ∈ submitted (round (.of s settings start)), ∀ item ∈ u.members,
      ∀ name, Text.isBlankText name = true →
        (name ∈ item.declaredNames ↔
          ∃ d ∈ s.declarations, ∃ g, Synthesis.wrapper (.of s settings start) d = .ok g ∧
            item = .ofClass g.item ∧ ∃ f ∈ Synthesis.overridableFunctions d,
              name ∈ f.typeParameters.map (·.name)) := by
  constructor
  · intro d hd place name hname hblank
    by_contra hplace
    exact Text.ne_of_isBlankText hblank
      ((s.soundDeclaration hd).not_isBlankText hplace hname) rfl
  · intro settings start u hu item hitem name hblank
    constructor
    · intro hname
      obtain ⟨c, hc⟩ := mem_submitted_round.mp hu
      obtain ⟨d, hmarked, g, hg, -, rfl⟩ := Companion.exists_of_mem_members hc hitem
      have hd := (Snapshot.mem_markedWith_iff.mp hmarked).1
      obtain ⟨rfl, hfunction⟩ :=
        (Companion.blank_mem_declaredNames_iff (s.soundDeclaration hd) hg hblank).mp hname
      obtain ⟨w, hw, rfl⟩ := Traversal.map_eq_ok_iff.mp hg
      exact ⟨d, hd, w, hw, rfl, hfunction⟩
    · rintro ⟨d, hd, w, hw, rfl, hfunction⟩
      have hg := Companion.generate_wrapper hw
      exact (Companion.blank_mem_declaredNames_iff (s.soundDeclaration hd) hg hblank).mpr
        ⟨rfl, hfunction⟩

/-- A function with a blank type parameter is let through, and its override has it as well. -/
theorem blank_type_parameter_declared :
    let d : Declaration :=
      { name := "a.Api"
        kind := .interface
        functions := [{ name := "f", typeParameters := [{ name := " " }] }]
        annotations := [{ name := "Loggable" }] }
    ∃ hsound : Snapshot.issues [d] = [],
      " " ∈ d.namesAt .functionTypeParameter ∧ Text.isBlankText " " = true ∧
        ∃ u ∈ submitted (round (.of ⟨[d], hsound⟩ {} .newYear2024)), ∃ item ∈ u.members,
          " " ∈ item.declaredNames := by
  intro d
  have hsound : Snapshot.issues [d] = [] := by decide
  refine ⟨hsound, by decide, by decide, ?_⟩
  have hmark : d.isMarked (Settings.marker {} .loggable) = true := by decide
  have hmarked : marked (.of ⟨[d], hsound⟩ {} .newYear2024) .loggable = [d] :=
    List.filter_eq_self.mpr (List.forall_mem_singleton.mpr hmark)
  obtain ⟨w, hw⟩ : ∃ w, Synthesis.wrapper (.of ⟨[d], hsound⟩ {} .newYear2024) d = .ok w :=
    ⟨_, rfl⟩
  have hg := Companion.generate_wrapper hw
  have hd : Snapshot.SoundDeclaration d :=
    Snapshot.soundDeclaration ⟨[d], hsound⟩ (List.mem_singleton_self d)
  refine ⟨_, mem_submitted_round.mpr ⟨.wrapper, first_wrapper_submitted hmarked hw⟩, _,
    List.mem_singleton_self _, ?_⟩
  refine (Companion.blank_mem_declaredNames_iff hd hg (by decide)).mpr ⟨rfl, ?_⟩
  exact ⟨_, List.mem_filter.mpr ⟨List.mem_singleton_self _, by decide⟩, by decide⟩

end Plan

end CompanionSource
