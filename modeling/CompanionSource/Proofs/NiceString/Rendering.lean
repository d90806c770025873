import CompanionSource.Proofs.NiceString.Basic
import CompanionSource.Proofs.Round.Ledger

/-! # Nice strings show nested instances

    The text of an instance shows its readable fields.  How a field is shown depends on whether
    its type has the function itself, and two places decide on that:

    - the **generator** asks about the type of a field, while it writes the function of the
      declaration with this field;
    - the **round** generates the function of the other declaration, or refuses to.

    The two agree.  A call is written exactly where the round provides the function that it
    means. -/

namespace CompanionSource.Synthesis

open Execution (World Scope eval textOf)
open Source (Expr Template TopLevel)

/-! ### Functions of a round -/

/-- The round provides the function for a declaration: a unit of its namespace has an extension
    function for its type. -/
def Provides (ctx : Context) (e : Declaration) : Prop :=
  ∃ u ∈ Plan.submitted (Plan.niceStrings ctx), u.key = ⟨e.scope, "ToNiceStringExtension"⟩ ∧
    ∃ f, TopLevel.ofFunction f ∈ u.members ∧ f.name = "toNiceString" ∧
      f.receiver = some e.declaredType

/-- Each function of the round is generated for a marked declaration of the namespace. -/
theorem exists_of_mem_niceStrings {ctx : Context} {u : SourceUnit} {f : Source.Function}
    (hu : u ∈ Plan.submitted (Plan.niceStrings ctx)) (hf : TopLevel.ofFunction f ∈ u.members) :
    ∃ d ∈ ctx.snapshot.declarations, d.isMarked (ctx.settings.marker .toNiceString) = true ∧
      d.scope = u.key.scope ∧ ∃ g, niceString ctx d = .ok g ∧ f = g.item := by
  obtain ⟨d, hd, item, hitem, hkey, hf⟩ :=
    Companion.exists_of_mem_members (c := .niceString) hu hf
  obtain ⟨g, hg, rfl⟩ := Traversal.map_eq_ok_iff.mp hitem
  obtain ⟨hmem, hmarked⟩ := Snapshot.mem_markedWith_iff.mp hd
  exact ⟨d, hmem, hmarked, congrArg UnitKey.scope hkey.symm, g, hg, TopLevel.ofFunction.inj hf⟩

/-- The namespace and the receiver of a function tell which declaration it belongs to. -/
theorem eq_of_declaredType {s : Snapshot} {d e : Declaration} (hd : d ∈ s.declarations)
    (he : e ∈ s.declarations) (hscope : d.scope = e.scope)
    (htype : d.declaredType = e.declaredType) : d = e :=
  Snapshot.eq_of_typePath hd he hscope (congrArg TypeExpr.name htype)

theorem receiver_of_niceString {ctx : Context} {d : Declaration} {g : Generated Source.Function}
    (h : niceString ctx d = .ok g) :
    g.item.name = "toNiceString" ∧ g.item.receiver = some d.declaredType := by
  obtain ⟨ts, -, -, rfl⟩ := niceString_eq_ok_iff.mp h
  exact ⟨rfl, rfl⟩

/-- A function that is generated for a marked declaration is in the unit of its namespace. -/
theorem exists_unit_of_niceString {ctx : Context} {d : Declaration}
    {g : Generated Source.Function} (hd : d ∈ ctx.snapshot.declarations)
    (hmarked : d.isMarked (ctx.settings.marker .toNiceString) = true)
    (hg : niceString ctx d = .ok g) :
    ∃ u ∈ Plan.submitted (Plan.niceStrings ctx), u.key = ⟨d.scope, "ToNiceStringExtension"⟩ ∧
      TopLevel.ofFunction g.item ∈ u.members := by
  have hmem : d ∈ Plan.marked ctx Companion.niceString.directive :=
    Snapshot.mem_markedWith_iff.mpr ⟨hd, hmarked⟩
  have hplaced := Companion.mem_placements_of_generate (by decide) hmem
    (Traversal.map_eq_ok_iff.mpr ⟨g, hg, rfl⟩)
  exact SourceUnit.mem_placements_iff.mp hplaced

/-- The round provides exactly the functions that can be generated for marked declarations. -/
theorem provides_iff {ctx : Context} {e : Declaration} (he : e ∈ ctx.snapshot.declarations) :
    Provides ctx e ↔
      e.isMarked (ctx.settings.marker .toNiceString) = true ∧ ∃ g, niceString ctx e = .ok g := by
  constructor
  · intro h
    obtain ⟨u, hu, hkey, f, hf, -, hreceiver⟩ := h
    obtain ⟨d, hd, hmarked, hscope, g, hg, rfl⟩ := exists_of_mem_niceStrings hu hf
    rw [(receiver_of_niceString hg).2, Option.some.injEq] at hreceiver
    rw [hkey] at hscope
    obtain rfl := eq_of_declaredType hd he hscope hreceiver
    exact ⟨hmarked, g, hg⟩
  · intro h
    obtain ⟨hmarked, g, hg⟩ := h
    obtain ⟨u, hu, hkey, hmember⟩ := exists_unit_of_niceString he hmarked hg
    exact ⟨u, hu, hkey, g.item, hmember, receiver_of_niceString hg⟩

/-- The generator takes a type for nested exactly if the round provides its function. -/
theorem isNested_iff {ctx : Context} {scope : String} {type : TypeExpr} :
    isNested ctx scope type = true ↔
      ∃ e, ctx.snapshot.resolve? type scope = some e ∧ Provides ctx e := by
  rw [isNested, Option.any_eq_true]
  refine exists_congr fun e => and_congr_right fun hresolve => ?_
  rw [hasText_iff ctx, provides_iff (Snapshot.mem_of_resolve? hresolve)]
  rfl

/-! ### Values of fields -/

/-- The expression that shows a field in the text of a declaration. -/
inductive ShowsField (ctx : Context) (d : Declaration) (p : Declared.ConstructorParameter) :
    Expr → Prop
  /-- Any number of arguments are shown as the list of them. -/
  | elements : p.vararg = true → ShowsField ctx d p ((Expr.dot (.name p.name) "toList").apply [])
  /-- A field of a type that has the function is shown by it, unless it is null. -/
  | nested {type : TypeExpr} {e : Declaration} : p.vararg = false → p.type = .resolved type →
      ctx.snapshot.resolve? type d.scope = some e → Provides ctx e →
      ShowsField ctx d p ((Expr.member (.name p.name) "toNiceString" type.nullable).apply [])
  /-- Any other field is shown as it is. -/
  | plain : p.vararg = false →
      (∀ type e, p.type = .resolved type → ctx.snapshot.resolve? type d.scope = some e →
        ¬Provides ctx e) →
      ShowsField ctx d p (.name p.name)

theorem showsField_fieldValue (ctx : Context) (d : Declaration) {t : TypedParameter}
    (htype : t.parameter.type = .resolved t.type) :
    ShowsField ctx d t.parameter (fieldValue ctx d.scope t) := by
  unfold fieldValue
  cases hvararg : t.parameter.vararg with
  | true => exact .elements hvararg
  | false =>
    by_cases hnested : isNested ctx d.scope t.type = true
    · obtain ⟨e, hresolve, hprovides⟩ := isNested_iff.mp hnested
      simp only [hnested, Bool.not_false, Bool.and_self, if_true]
      exact .nested hvararg htype hresolve hprovides
    · simp only [hnested, Bool.not_false, Bool.and_false, Bool.false_eq_true, if_false]
      refine .plain hvararg ?_
      intro type e htype' hresolve hprovides
      rw [htype, Declared.TypeRef.resolved.injEq] at htype'
      subst htype'
      exact hnested (isNested_iff.mpr ⟨e, hresolve, hprovides⟩)

/-! ### Texts -/

/-- The template comes to the name and, in brackets, the fields with the texts of their values.
    The values are evaluated one after another, in any scope and any program. -/
def Denotes (template : Template) (name : String) (fields : List String) (values : List Expr) :
    Prop :=
  ∀ {α : Type} (world : World α) (s : Scope α),
    textOf world s template =
      (do
        let vs ← values.mapM (eval world s)
        pure (name ++ "("
          ++ ", ".intercalate
            (List.zipWith (fun field v => field ++ "=" ++ world.shown v) fields vs)
          ++ ")"))

/-- The function of a declaration returns the text that lists the readable parameters of the
    constructor, in their order, and there is one warning for each parameter that is left out. -/
def RendersFields (ctx : Context) (d : Declaration) (g : Generated Source.Function) : Prop :=
  ∃ ps values template,
    d.constructor? = some ps ∧
    g.item.body = [.ret (some (.template template))] ∧
    List.Forall₂ (ShowsField ctx d) (ps.filter (·.isExposed)) values ∧
    Denotes template d.simpleName ((ps.filter (·.isExposed)).map (·.name)) values ∧
    g.warnings = (ps.filter (!·.isExposed)).map fun p =>
      d.name ++ ": constructor parameter `" ++ p.name
        ++ "` is not a readable field and is left out of toNiceString"

theorem hiddenWarning_eq (d : Declaration) (t : TypedParameter) :
    hiddenWarning d t = d.name ++ ": constructor parameter `" ++ t.parameter.name
      ++ "` is not a readable field and is left out of toNiceString" := by
  have hend : "` is not a readable field and is left out of " ++ niceStringName =
      "` is not a readable field and is left out of toNiceString" := by decide
  rw [hiddenWarning, String.append_assoc, hend]

/-- **Rendering.**  The text of a function that is generated shows a field by a call exactly if its
    type means a declaration for which the round provides the function.  That is one which is
    marked and for which the function can be generated. -/
theorem niceString_renders {ctx : Context} {d : Declaration} {g : Generated Source.Function}
    (h : niceString ctx d = .ok g) :
    RendersFields ctx d g ∧
      ∀ e ∈ ctx.snapshot.declarations, Provides ctx e ↔
        e.isMarked (ctx.settings.marker .toNiceString) = true ∧ ∃ g, niceString ctx e = .ok g := by
  refine ⟨?_, fun e he => provides_iff he⟩
  obtain ⟨ts, hts, -, rfl⟩ := niceString_eq_ok_iff.mp h
  have hexposed : (ts.map (·.parameter)).filter (·.isExposed) =
      (ts.filter (·.parameter.isExposed)).map (·.parameter) := List.filter_map ..
  have hhidden : (ts.map (·.parameter)).filter (!·.isExposed) =
      (ts.filter (!·.parameter.isExposed)).map (·.parameter) := List.filter_map ..
  refine ⟨ts.map (·.parameter), (ts.filter (·.parameter.isExposed)).map (fieldValue ctx d.scope), _,
    constructor?_of_constructorFields hts, rfl, ?_, ?_, ?_⟩
  · rw [hexposed, List.forall₂_map_left_iff, List.forall₂_map_right_iff, List.forall₂_same]
    intro t ht
    exact showsField_fieldValue ctx d (types_of_constructorFields hts t (List.mem_of_mem_filter ht))
  · intro α world s
    rw [hexposed, textOf_niceTemplate]
    simp only [List.map_map, List.zipWith_map_left, Function.comp_def]
  · rw [hhidden, List.map_map]
    exact List.map_congr_left fun t _ => hiddenWarning_eq d t

/-- A field of each sort: one of a nested declaration, one that may be null besides, one of a type
    that has no function because it is a data class, any number of arguments, and a parameter that
    is no field. -/
theorem niceString_renders_nested :
    let marks : List Declared.Annotation := [{ name := "ToNiceString" }]
    let name : Declared.ConstructorParameter :=
      { name := "name", type := .resolved (.named "String"), binding := .val }
    let user : Declaration :=
      { name := "a.User", kind := .class_, constructor? := some [name], annotations := marks }
    let place : Declaration :=
      { name := "a.Place", kind := .class_, modifiers := .ofList [.dataClass],
        constructor? := some [name], annotations := marks }
    let post : Declaration :=
      { name := "a.Post"
        kind := .class_
        constructor? :=
          some
            [name,
              { name := "author", type := .resolved (.named "User"), binding := .val },
              { name := "editor", binding := .val,
                type := .resolved { TypeExpr.named "a.User" with nullable := true } },
              { name := "place", type := .resolved (.named "Place"), binding := .val },
              { name := "secret", type := .resolved (.named "String") },
              { name := "readers", type := .resolved (.named "User"), binding := .val,
                vararg := true }]
        annotations := marks }
    ∃ hsound, ∃ g,
      let ctx : Context := .of ⟨[user, place, post], hsound⟩ {} .newYear2024
      niceString ctx post = .ok g ∧ RendersFields ctx post g ∧
        ∀ e ∈ ctx.snapshot.declarations, Provides ctx e ↔
          e.isMarked (ctx.settings.marker .toNiceString) = true ∧
            ∃ g, niceString ctx e = .ok g := by
  intro marks name user place post
  have hsound : Snapshot.issues [user, place, post] = [] := by decide
  have hgenerated : niceString (.of ⟨[user, place, post], hsound⟩ {} .newYear2024) post = .ok _ :=
    rfl
  exact ⟨hsound, _, hgenerated, niceString_renders hgenerated⟩

end CompanionSource.Synthesis
