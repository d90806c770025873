import CompanionSource.Proofs.Snapshot.Spelling
import CompanionSource.Round.Basic

/-! # The spelling of markers does not matter

    A round reads annotations in five places: to select declarations, to find a tag, to leave out
    log lines, to repeat annotations, and to see which fields are shown by a nested call.  In each
    of them a marker counts in either spelling.  So the plan over a snapshot is the plan over the
    snapshot with all markers spelled out, and two snapshots that differ only in spellings have the
    same plan. -/

namespace CompanionSource

open Synthesis (Context)

namespace Synthesis

/-! ### Wrappers -/

section wrapper
variable {w : Wrapper}

/-- The tag is an argument of the marker, and arguments are kept. -/
theorem requestedTag?_spelledOut (scope : String) (a : Declared.Annotation) :
    requestedTag? (a.spelledOut scope) = requestedTag? a := by
  simp only [requestedTag?, Declared.Annotation.argument?, Declared.Annotation.arguments_spelledOut]

theorem wrapperTag_spelledOut (scope : String) (directive : Directive) (d : Declaration) :
    wrapperTag (directive.marker scope) (d.spelledOut scope)
      = wrapperTag (directive.marker scope) d := by
  have htag : ((d.marking? (directive.marker scope)).map (·.spelledOut scope)).bind requestedTag?
      = (d.marking? (directive.marker scope)).bind requestedTag? := by
    cases d.marking? (directive.marker scope) with
    | none => rfl
    | some a => exact requestedTag?_spelledOut scope a
  unfold wrapperTag
  rw [Declaration.marking?_spelledOut, htag]
  rfl

namespace Wrapper

theorem logged_spelledOut (marks : List Declared.Annotation) (message : Source.Template) :
    w.logged (Declared.spelledOut w.markers marks) message = w.logged marks message := by
  rw [logged, isLogged_spelledOut, logged]

/-- Markers are not repeated in either spelling, and other annotations are not touched. -/
theorem repeated_spelledOut (marks : List Declared.Annotation) :
    w.repeated (Declared.spelledOut w.markers marks) = w.repeated marks := by
  unfold repeated Declared.spelledOut
  rw [List.filter_map, List.map_map]
  simp only [Function.comp_def, Declared.Annotation.isAnyMarker_spelledOut]
  refine List.map_congr_left ?_
  intro a ha
  have hnot : a.isAnyMarker w.markers = false := by simpa using List.of_mem_filter ha
  rw [Declared.Annotation.spelledOut_of_not_isAnyMarker hnot]

theorem functionBody_spelledOut (f : Declared.Function) :
    w.functionBody (f.spelledOut w.markers) = w.functionBody f := by
  have hlogged (result : Option Source.Expr) :
      w.logged (f.spelledOut w.markers).annotations
          (w.callMessage (f.spelledOut w.markers) result)
        = w.logged f.annotations (w.callMessage f result) :=
    logged_spelledOut f.annotations _
  simp only [functionBody, hlogged]
  rfl

theorem overrideFunction_spelledOut (f : Declared.Function) :
    w.overrideFunction (f.spelledOut w.markers) = w.overrideFunction f := by
  have hrepeated : w.repeated (f.spelledOut w.markers).annotations = w.repeated f.annotations :=
    repeated_spelledOut f.annotations
  simp only [overrideFunction, hrepeated, functionBody_spelledOut]
  rfl

theorem overrideProperty_spelledOut (p : Declared.Property) :
    w.overrideProperty (p.spelledOut w.markers) = w.overrideProperty p := by
  have hrepeated : w.repeated (p.spelledOut w.markers).annotations = w.repeated p.annotations :=
    repeated_spelledOut p.annotations
  have hlogged (message : Source.Template) :
      w.logged (p.spelledOut w.markers).annotations message = w.logged p.annotations message :=
    logged_spelledOut p.annotations message
  simp only [overrideProperty, hrepeated, getterBody, setterBody, hlogged]
  rfl

end Wrapper

theorem overridableFunctions_spelledOut (scope : String) (d : Declaration) :
    overridableFunctions (d.spelledOut scope)
      = (overridableFunctions d).map (·.spelledOut scope) := by
  unfold overridableFunctions Declaration.spelledOut
  rw [List.filter_map]
  rfl

theorem overridableProperties_spelledOut (scope : String) (d : Declaration) :
    overridableProperties (d.spelledOut scope)
      = (overridableProperties d).map (·.spelledOut scope) := by
  unfold overridableProperties Declaration.spelledOut
  rw [List.filter_map]
  rfl

theorem checkDelegate_spelledOut (scope : String) (d : Declaration) :
    checkDelegate (d.spelledOut scope) = checkDelegate d := by
  have hfind : ((d.spelledOut scope).properties.find? fun p => p.name == delegateField)
      = (d.properties.find? fun p => p.name == delegateField).map (·.spelledOut scope) :=
    List.find?_map
  unfold checkDelegate
  rw [hfind]
  cases d.properties.find? fun p => p.name == delegateField with
  | none => rfl
  | some p => rfl

end wrapper

/-! ### Generators -/

/-- The context with all markers spelled out. -/
def Context.spelledOut (ctx : Context) : Context :=
  { ctx with snapshot := ctx.snapshot.spelledOut ctx.settings.markerNamespace }

section generators
variable (ctx : Context) (d : Declaration)

theorem wrapperOf_spelledOut :
    Wrapper.of ctx.spelledOut (d.spelledOut ctx.settings.markerNamespace) = Wrapper.of ctx d := by
  have htag := wrapperTag_spelledOut ctx.settings.markerNamespace .loggable d
  exact congrArg (fun tag => { Wrapper.of ctx d with tag := tag }) htag

theorem wrapper_spelledOut :
    wrapper ctx.spelledOut (d.spelledOut ctx.settings.markerNamespace) = wrapper ctx d := by
  have hproperties : (overridableProperties (d.spelledOut ctx.settings.markerNamespace)).mapM
      (Wrapper.of ctx d).overrideProperty
        = (overridableProperties d).mapM (Wrapper.of ctx d).overrideProperty := by
    rw [overridableProperties_spelledOut, List.mapM_map]
    exact congrArg (List.mapM · _) (funext (Wrapper.overrideProperty_spelledOut (w := .of ctx d)))
  have hfunctions : (overridableFunctions (d.spelledOut ctx.settings.markerNamespace)).mapM
      (Wrapper.of ctx d).overrideFunction
        = (overridableFunctions d).mapM (Wrapper.of ctx d).overrideFunction := by
    rw [overridableFunctions_spelledOut, List.mapM_map]
    exact congrArg (List.mapM · _) (funext (Wrapper.overrideFunction_spelledOut (w := .of ctx d)))
  have hwarnings : (overridableFunctions (d.spelledOut ctx.settings.markerNamespace)).flatMap
      (Wrapper.of ctx d).returnWarnings
        = (overridableFunctions d).flatMap (Wrapper.of ctx d).returnWarnings := by
    rw [overridableFunctions_spelledOut, List.flatMap_map]
    rfl
  unfold wrapper
  rw [checkDelegate_spelledOut, wrapperOf_spelledOut]
  simp only [hproperties, hfunctions, hwarnings]
  rfl

theorem copy_spelledOut :
    copy ctx.spelledOut (d.spelledOut ctx.settings.markerNamespace) = copy ctx d := rfl

theorem hasText_spelledOut (scope : String) (d : Declaration) :
    hasText scope (d.spelledOut scope) = hasText scope d := by
  rw [hasText, Declaration.isMarked_spelledOut]
  rfl

/-- A type means a declaration with a text exactly when it did. -/
theorem isNested_spelledOut (scope : String) (type : TypeExpr) :
    isNested ctx.spelledOut scope type = isNested ctx scope type := by
  have hresolve : ctx.spelledOut.snapshot.resolve? type scope
      = (ctx.snapshot.resolve? type scope).map (·.spelledOut ctx.settings.markerNamespace) :=
    Snapshot.resolve?_spelledOut ctx.snapshot type scope
  unfold isNested
  rw [hresolve, Option.any_map]
  exact congrArg (Option.any · _) (funext (hasText_spelledOut ctx.settings.markerNamespace))

theorem niceString_spelledOut :
    niceString ctx.spelledOut (d.spelledOut ctx.settings.markerNamespace) = niceString ctx d := by
  have htemplate (readable : List TypedParameter) :
      niceTemplate ctx.spelledOut (d.spelledOut ctx.settings.markerNamespace) readable
        = niceTemplate ctx d readable := by
    simp only [niceTemplate, fieldValue, isNested_spelledOut]
    rfl
  simp only [niceString, htemplate]
  rfl

end generators

end Synthesis

/-! ### Plans -/

namespace Plan

variable (ctx : Context)

theorem marked_spelledOut (directive : Directive) :
    marked ctx.spelledOut directive
      = (marked ctx directive).map (·.spelledOut ctx.settings.markerNamespace) :=
  Snapshot.markedWith_spelledOut ctx.snapshot directive

theorem wrappersFrom_spelledOut (claimed : List (UnitKey × String)) (ds : List Declaration) :
    wrappersFrom ctx.spelledOut claimed (ds.map (·.spelledOut ctx.settings.markerNamespace))
      = wrappersFrom ctx claimed ds := by
  induction ds generalizing claimed with
  | nil => rfl
  | cons d ds ih =>
    simp only [List.map_cons, wrappersFrom, Synthesis.wrapper_spelledOut, ih]
    rfl

theorem extensions_spelledOut {generate : Extension} (file : String) (directive : Directive)
    (h : ∀ d, generate ctx.spelledOut (d.spelledOut ctx.settings.markerNamespace) = generate ctx d) :
    extensions generate file directive ctx.spelledOut = extensions generate file directive ctx := by
  have hreports (d : Declaration) : extensionReports generate ctx.spelledOut
      (d.spelledOut ctx.settings.markerNamespace) = extensionReports generate ctx d := by
    rw [extensionReports, h]
    rfl
  have hadds (b : Batch) (d : Declaration) : addExtension generate ctx.spelledOut b
      (d.spelledOut ctx.settings.markerNamespace) = addExtension generate ctx b d := by
    rw [addExtension, h]
    rfl
  simp only [extensions, marked_spelledOut, List.flatMap_map, List.foldl_map, hreports, hadds]
  rfl

/-- The plan of a round is that over the snapshot with all markers spelled out. -/
theorem round_spelledOut : round ctx.spelledOut = round ctx := by
  have hwrappers : wrappers ctx.spelledOut = wrappers ctx := by
    rw [wrappers, marked_spelledOut, wrappersFrom_spelledOut, wrappers]
  have hcopies : copies ctx.spelledOut = copies ctx :=
    extensions_spelledOut ctx _ _ (Synthesis.copy_spelledOut ctx)
  have hniceStrings : niceStrings ctx.spelledOut = niceStrings ctx :=
    extensions_spelledOut ctx _ _ (Synthesis.niceString_spelledOut ctx)
  rw [round, hwrappers, hcopies, hniceStrings, round]

end Plan

/-! ### Whole rounds -/

namespace Round

/-- A round with the same plan over another snapshot is the same round. -/
theorem run_congr {σ : Type} (e : Emitter σ) {snapshot snapshot' : Snapshot} {settings : Settings}
    {start : Moment}
    (h : Plan.round (.of snapshot' settings start) = Plan.round (.of snapshot settings start))
    (state : σ) :
    run e snapshot' settings start state = run e snapshot settings start state := by
  unfold run
  cases settings.checked with
  | error fault => rfl
  | ok _ =>
    simp only [h]
    rfl

/-- **Spelling of markers.**  Give some of the annotations of declarations, functions and properties
    the other spelling of the marker that they are.  The declarations are accepted again, and the
    round over them is the same to the emitter, to the user and in its report. -/
theorem run_respelled {σ : Type} (e : Emitter σ) (state : σ) (snapshot : Snapshot)
    (settings : Settings) (start : Moment) {ds : List Declaration}
    (h : List.Forall₂ (Declaration.Respelled settings.markerNamespace) snapshot.declarations ds) :
    ∃ hsound : Snapshot.issues ds = [],
      run e ⟨ds, hsound⟩ settings start state = run e snapshot settings start state := by
  have hsound : Snapshot.issues ds = [] := (Snapshot.issues_of_respelled h).trans snapshot.sound
  refine ⟨hsound, run_congr e ?_ state⟩
  have hspelled : (Context.of ⟨ds, hsound⟩ settings start).spelledOut
      = (Context.of snapshot settings start).spelledOut :=
    congrArg (fun s => (Context.of s settings start)) (Snapshot.spelledOut_eq_of_respelled h).symm
  rw [← Plan.round_spelledOut, hspelled, Plan.round_spelledOut]

/-- Some markers of a declaration, of a function and of a property change their spelling, in both
    directions.  A tag is kept, and so is an annotation that is no marker. -/
theorem run_respelled_mixed :
    let tag : List (Source.AnnotationArgument Source.AnnotationValue) :=
      [{ name := some "tag", value := .text "api" }]
    let deprecated : Declared.Annotation := { name := "Deprecated" }
    let string : Declared.TypeRef := .resolved (.named "String")
    let api : Declaration :=
      { name := "a.Api", kind := .interface,
        annotations := [deprecated, { name := "Loggable", arguments := tag }],
        functions := [{ name := "run", annotations := [{ name := "io.declsynth.annotations.NoLog" }] }],
        properties := [{ name := "size", type := string, annotations := [{ name := "NoLog" }] }] }
    let api' : Declaration := { api with
        annotations :=
          [deprecated, { name := "io.declsynth.annotations.Loggable", arguments := tag }],
        functions := [{ name := "run", annotations := [{ name := "NoLog" }] }],
        properties :=
          [{ name := "size", type := string,
             annotations := [{ name := "io.declsynth.annotations.NoLog" }] }] }
    let settings : Settings := {}
    ∃ hsound : Snapshot.issues [api] = [],
      List.Forall₂ (Declaration.Respelled settings.markerNamespace) [api] [api'] ∧
      ∃ hsound' : Snapshot.issues [api'] = [],
        run Memory.emitter ⟨[api'], hsound'⟩ settings .newYear2024 {}
          = run Memory.emitter ⟨[api], hsound⟩ settings .newYear2024 {} := by
  intro tag deprecated string api api' settings
  have hsound : Snapshot.issues [api] = [] := by decide
  have hfunctions : List.Forall₂ (Declared.Function.Respelled settings.markerNamespace)
      api.functions api'.functions :=
    .cons ⟨.cons (.shorter .noLog rfl) .nil, rfl⟩ .nil
  have hproperties : List.Forall₂ (Declared.Property.Respelled settings.markerNamespace)
      api.properties api'.properties :=
    .cons ⟨.cons (.longer .noLog rfl) .nil, rfl⟩ .nil
  have hrespelled : List.Forall₂ (Declaration.Respelled settings.markerNamespace) [api] [api'] :=
    .cons ⟨.cons .same (.cons (.longer .loggable rfl) .nil), hfunctions, hproperties, rfl⟩ .nil
  exact ⟨hsound, hrespelled,
    run_respelled Memory.emitter {} ⟨[api], hsound⟩ settings .newYear2024 hrespelled⟩

end Round

end CompanionSource
