import CompanionSource.Proofs.NiceString.Visibility
import CompanionSource.Proofs.Snapshot.Resolution

/-! # Fields of the type of a type parameter

    A class names its type parameters as it likes, also as a declaration of its namespace is
    named.  Inside the class the name then means the type parameter, and a type parameter has no
    `toNiceString`.  The generator asks what the name stands for in the **namespace**, so a field
    of such a type is shown

    - **as it is** if the name stands for no declaration for which the round provides the
      function;
    - **by a call** if it does.

    Nothing else about the class, its type parameters or the field matters. -/

namespace CompanionSource.Synthesis

open Source (Expr)

/-- The text that a function returns shows a field as it is. -/
def ShowsAsIs (f : Source.Function) (field : String) : Prop :=
  Shows f (.name field)

/-- A parameter of the constructor that is a readable field, and not one of many, has a type with
    the name of a type parameter of the class. -/
structure IsGenericField (d : Declaration) (p : Declared.ConstructorParameter) (name : String) :
    Prop where
  parameter : ∃ ps, d.constructor? = some ps ∧ p ∈ ps
  exposed : p.isExposed = true
  single : p.vararg = false
  type : ∃ type, p.type = .resolved type ∧ type.name = name
  generic : name ∈ d.typeParameters.map (·.name)

section fields
variable {ctx : Context} {d : Declaration} {p : Declared.ConstructorParameter} {name : String}

/-- The value of a field is the field itself exactly if it is not one of a nested type. -/
theorem fieldValue_eq_name_iff {scope field : String} {t : TypedParameter} :
    fieldValue ctx scope t = .name field ↔
      t.parameter.vararg = false ∧ isNested ctx scope t.type = false ∧
        t.parameter.name = field := by
  unfold fieldValue
  cases t.parameter.vararg with
  | true => simp [shown, Expr.dot, Expr.apply]
  | false =>
    cases isNested ctx scope t.type with
    | true => simp [Expr.apply]
    | false => simp [shown]

/-- No two fields have one name. -/
theorem eq_of_field_name {ts : List TypedParameter} (hd : d ∈ ctx.snapshot.declarations)
    (hts : constructorFields .toNiceString d = .ok ts) {t t' : TypedParameter} (ht : t ∈ ts)
    (ht' : t' ∈ ts) (hname : t'.parameter.name = t.parameter.name) : t' = t := by
  have hnames := ctx.snapshot.nodup_names_of_constructor hd
    (constructor?_of_constructorFields hts)
  rw [List.map_map] at hnames
  exact List.inj_on_of_nodup_map hnames ht' ht hname

/-- A field of the type of a type parameter is among the fields that the function goes by, and
    whether its type is nested depends on the name alone. -/
theorem IsGenericField.exists_typed (ctx : Context) (hp : IsGenericField d p name)
    {ts : List TypedParameter} (hts : constructorFields .toNiceString d = .ok ts) :
    ∃ t ∈ ts, t.parameter = p ∧
      (isNested ctx d.scope t.type = true ↔
        ∃ e, ctx.snapshot.StandsFor d.scope name e ∧ Provides ctx e) := by
  obtain ⟨ps, hps, hmem⟩ := hp.parameter
  rw [constructor?_of_constructorFields hts, Option.some.injEq] at hps
  subst hps
  obtain ⟨t, ht, rfl⟩ := List.mem_map.mp hmem
  obtain ⟨type, htype, rfl⟩ := hp.type
  rw [types_of_constructorFields hts t ht, Declared.TypeRef.resolved.injEq] at htype
  refine ⟨t, ht, rfl, ?_⟩
  rw [isNested_iff, htype]
  simp only [Snapshot.resolve?_eq_some_iff]

variable {g : Generated Source.Function}

theorem IsGenericField.showsAsIs_iff (hp : IsGenericField d p name)
    (hd : d ∈ ctx.snapshot.declarations) (hg : niceString ctx d = .ok g) :
    ShowsAsIs g.item p.name ↔ ∀ e, ctx.snapshot.StandsFor d.scope name e → ¬Provides ctx e := by
  obtain ⟨ts, hts, -, rfl⟩ := niceString_eq_ok_iff.mp hg
  obtain ⟨t, ht, rfl, hnested⟩ := hp.exists_typed ctx hts
  have hplain : (∀ e, ctx.snapshot.StandsFor d.scope name e → ¬Provides ctx e) ↔
      isNested ctx d.scope t.type = false := by
    rw [← Bool.not_eq_true, hnested]
    simp only [not_exists, not_and]
  rw [hplain, ShowsAsIs, shows_niceStringFunction_iff]
  constructor
  · intro h
    obtain ⟨t', ht', -, hvalue⟩ := h
    obtain ⟨-, hshown, hname⟩ := fieldValue_eq_name_iff.mp hvalue
    obtain rfl := eq_of_field_name hd hts ht ht' hname
    exact hshown
  · intro h
    exact ⟨t, ht, hp.exposed, fieldValue_eq_name_iff.mpr ⟨hp.single, h, rfl⟩⟩

theorem IsGenericField.callsFor_iff (hp : IsGenericField d p name)
    (hd : d ∈ ctx.snapshot.declarations) (hg : niceString ctx d = .ok g) :
    CallsFor g.item p.name ↔
      ∃ e, ctx.snapshot.StandsFor d.scope name e ∧ Provides ctx e := by
  obtain ⟨ts, hts, -, rfl⟩ := niceString_eq_ok_iff.mp hg
  obtain ⟨t, ht, rfl, hnested⟩ := hp.exists_typed ctx hts
  rw [← hnested, callsFor_niceStringFunction_iff]
  constructor
  · intro h
    obtain ⟨t', ht', -, -, hshown, hname⟩ := h
    obtain rfl := eq_of_field_name hd hts ht ht' hname
    exact hshown
  · intro h
    exact ⟨t, ht, hp.exposed, hp.single, h, rfl⟩

end fields

/-- **Type parameters.**  A field of the type of a type parameter is shown by a call exactly if
    the name of the type parameter stands for a declaration, as a name of the namespace, and the
    round provides the function for it.  Otherwise it is shown as it is. -/
theorem generic_field_shown {ctx : Context} {d : Declaration} {g : Generated Source.Function}
    {p : Declared.ConstructorParameter} {name : String} (hd : d ∈ ctx.snapshot.declarations)
    (hg : niceString ctx d = .ok g) (hp : IsGenericField d p name) :
    (ShowsAsIs g.item p.name ↔
      ∀ e, ctx.snapshot.StandsFor d.scope name e → ¬Provides ctx e) ∧
    (CallsFor g.item p.name ↔
      ∃ e, ctx.snapshot.StandsFor d.scope name e ∧ Provides ctx e) :=
  ⟨hp.showsAsIs_iff hd hg, hp.callsFor_iff hd hg⟩

/-- A field of the type `T`. -/
def itemField : Declared.ConstructorParameter :=
  { name := "item", type := .resolved (.named "T"), binding := .val }

/-- A marked class with this field and the type parameter `T`. -/
def genericBox : Declaration :=
  { name := "a.Box"
    kind := .class_
    typeParameters := [{ name := "T" }]
    constructor? := some [itemField]
    annotations := [{ name := "ToNiceString" }] }

theorem isGenericField_item : IsGenericField genericBox itemField "T" :=
  { parameter := ⟨_, rfl, List.mem_singleton_self _⟩
    exposed := rfl
    single := rfl
    type := ⟨_, rfl, rfl⟩
    generic := List.mem_singleton_self _ }

/-- The declaration with the name of the type parameter is a data class, which has no nice string,
    so the field is shown as it is. -/
theorem generic_field_shown_as_it_is :
    let value : Declaration :=
      { name := "a.T"
        kind := .class_
        modifiers := .ofList [.dataClass]
        constructor? :=
          some [{ name := "x", type := .resolved (.named "Int"), binding := .val }]
        annotations := [{ name := "ToNiceString" }] }
    ∃ hsound g,
      let ctx : Context := .of ⟨[value, genericBox], hsound⟩ {} .newYear2024
      genericBox ∈ ctx.snapshot.declarations ∧ niceString ctx genericBox = .ok g ∧
        IsGenericField genericBox itemField "T" ∧
        ctx.snapshot.StandsFor genericBox.scope "T" value ∧
        (ShowsAsIs g.item itemField.name ↔
          ∀ e, ctx.snapshot.StandsFor genericBox.scope "T" e → ¬Provides ctx e) ∧
        (CallsFor g.item itemField.name ↔
          ∃ e, ctx.snapshot.StandsFor genericBox.scope "T" e ∧ Provides ctx e) := by
  intro value
  have hsound : Snapshot.issues [value, genericBox] = [] := by decide
  have hbox : genericBox ∈ [value, genericBox] := List.mem_cons_of_mem _ List.mem_cons_self
  have hgenerated : niceString (.of ⟨[value, genericBox], hsound⟩ {} .newYear2024) genericBox =
      .ok _ := rfl
  have hstands : Snapshot.StandsFor ⟨[value, genericBox], hsound⟩ genericBox.scope "T" value :=
    ⟨List.mem_cons_self, Or.inl (by decide)⟩
  exact ⟨hsound, _, hbox, hgenerated, isGenericField_item, hstands,
    generic_field_shown hbox hgenerated isGenericField_item⟩

/-- A class with a nice string has the name of the type parameter, so the field is shown by its
    function, which a type parameter does not have. -/
theorem generic_field_shown_by_call :
    let value : Declaration :=
      { name := "a.T"
        kind := .class_
        constructor? :=
          some [{ name := "x", type := .resolved (.named "Int"), binding := .val }]
        annotations := [{ name := "ToNiceString" }] }
    ∃ hsound g,
      let ctx : Context := .of ⟨[value, genericBox], hsound⟩ {} .newYear2024
      niceString ctx genericBox = .ok g ∧ IsGenericField genericBox itemField "T" ∧
        CallsFor g.item itemField.name ∧ ¬ShowsAsIs g.item itemField.name := by
  intro value
  have hsound : Snapshot.issues [value, genericBox] = [] := by decide
  have hbox : genericBox ∈ [value, genericBox] := List.mem_cons_of_mem _ List.mem_cons_self
  have hgenerated : niceString (.of ⟨[value, genericBox], hsound⟩ {} .newYear2024) genericBox =
      .ok _ := rfl
  have hstands : Snapshot.StandsFor ⟨[value, genericBox], hsound⟩ genericBox.scope "T" value :=
    ⟨List.mem_cons_self, Or.inl (by decide)⟩
  have hmarked : value.isMarked (Settings.marker {} .toNiceString) = true := by decide
  have hprovides : Provides (.of ⟨[value, genericBox], hsound⟩ {} .newYear2024) value :=
    (provides_iff List.mem_cons_self).mpr ⟨hmarked, _, rfl⟩
  refine ⟨hsound, _, hgenerated, isGenericField_item, ?_, ?_⟩
  · exact (isGenericField_item.callsFor_iff hbox hgenerated).mpr ⟨value, hstands, hprovides⟩
  · intro hplain
    exact (isGenericField_item.showsAsIs_iff hbox hgenerated).mp hplain value hstands hprovides

end CompanionSource.Synthesis
