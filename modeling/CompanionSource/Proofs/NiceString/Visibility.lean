import CompanionSource.Proofs.NiceString.Rendering
import CompanionSource.Proofs.Source.Template

/-! # What nested calls can see

    A call of `toNiceString` on a field means the extension function for the type of the field.
    A file sees the extension functions of its own namespace, and those that it imports.  The
    file of a unit imports nothing but the type of its provenance.  So

    - a call **inside** a namespace finds its function;
    - a call **across** namespaces does not, although the round provides the function.

    The calls of a round all find their functions exactly if no field leads out of the namespace
    of its declaration.  (A type of provenance that has the name of the function is imported by
    accident.) -/

namespace CompanionSource.Synthesis

open Source (Expr Piece Template TopLevel)

/-! ### Calls in texts -/

/-- The text that a function returns shows a field by a call. -/
def CallsFor (f : Source.Function) (field : String) : Prop :=
  ∃ template safe, .ret (some (.template template)) ∈ f.body ∧
    Piece.value ((Expr.member (.name field) "toNiceString" safe).apply []) ∈ template

theorem value_mem_listing {fields : List (String × Expr)} {e : Expr} :
    .value e ∈ listing fields ↔ ∃ field ∈ fields, field.2 = e := by
  induction fields with
  | nil => simp [listing]
  | cons field fields ih =>
    cases fields with
    | nil => simp [listing, eq_comm]
    | cons next fields =>
      rw [listing_cons_cons, List.mem_append, List.mem_append, ih, List.exists_mem_cons_iff]
      simp [eq_comm]

/-- The value of a field is a call exactly if the field is one of a nested type. -/
theorem exists_fieldValue_eq_call_iff {ctx : Context} {scope : String} {t : TypedParameter}
    {field : String} :
    (∃ safe, fieldValue ctx scope t =
        (Expr.member (.name field) "toNiceString" safe).apply []) ↔
      t.parameter.vararg = false ∧ isNested ctx scope t.type = true ∧ t.parameter.name = field := by
  have hlist : "toList" ≠ "toNiceString" := by decide
  unfold fieldValue
  cases t.parameter.vararg with
  | true => simp [shown, Expr.dot, Expr.apply, hlist]
  | false =>
    cases isNested ctx scope t.type with
    | true => simp [Expr.apply, niceStringName]
    | false => simp [shown, Expr.apply]

/-- The text that a function returns shows the value. -/
def Shows (f : Source.Function) (e : Expr) : Prop :=
  ∃ template, .ret (some (.template template)) ∈ f.body ∧ Piece.value e ∈ template

/-- The values that are shown are those of the readable fields. -/
theorem shows_niceStringFunction_iff {ctx : Context} {d : Declaration} {ts : List TypedParameter}
    {e : Expr} :
    Shows (niceStringFunction ctx d ts) e ↔
      ∃ t ∈ ts, t.parameter.isExposed = true ∧ fieldValue ctx d.scope t = e := by
  have hvalue : Piece.value e ∈ niceTemplate ctx d (ts.filter (·.parameter.isExposed)) ↔
      ∃ t ∈ ts, t.parameter.isExposed = true ∧ fieldValue ctx d.scope t = e := by
    simp [niceTemplate, Source.value_mem_ofPieces, value_mem_listing, and_assoc]
  rw [← hvalue]
  simp [Shows, niceStringFunction]

/-- The calls are those for the readable fields of nested types. -/
theorem callsFor_niceStringFunction_iff {ctx : Context} {d : Declaration}
    {ts : List TypedParameter} {field : String} :
    CallsFor (niceStringFunction ctx d ts) field ↔
      ∃ t ∈ ts, t.parameter.isExposed = true ∧ t.parameter.vararg = false ∧
        isNested ctx d.scope t.type = true ∧ t.parameter.name = field := by
  simp only [← exists_fieldValue_eq_call_iff]
  constructor
  · intro h
    obtain ⟨template, safe, hbody, hpiece⟩ := h
    obtain ⟨t, ht, hexposed, hcall⟩ := shows_niceStringFunction_iff.mp ⟨template, hbody, hpiece⟩
    exact ⟨t, ht, hexposed, safe, hcall⟩
  · intro h
    obtain ⟨t, ht, hexposed, safe, hcall⟩ := h
    obtain ⟨template, hbody, hpiece⟩ := shows_niceStringFunction_iff.mpr ⟨t, ht, hexposed, hcall⟩
    exact ⟨template, safe, hbody, hpiece⟩

/-! ### What a file sees -/

/-- The file of a unit sees the function for a declaration: it is in the same namespace, or it is
    imported. -/
def Sees (u : SourceUnit) (e : Declaration) : Prop :=
  e.scope = u.key.scope ∨ u.imports.contains (Name.qualify e.scope "toNiceString") = true

theorem imports_contains_iff {u : SourceUnit} {name : String} :
    u.imports.contains name = true ↔
      Name.isDotted u.provenance.type = true ∧ u.provenance.type = name := by
  unfold SourceUnit.imports
  split
  · next hdotted =>
    simp [Source.Imports.contains, Source.Imports.ofList, Source.Imports.insert,
      Source.Imports.insertName, Source.Imports.empty, hdotted, eq_comm]
  · next hplain => simp [Source.Imports.contains, Source.Imports.empty, hplain]

/-- The receiver of the function is a declaration of the namespace `scope`, and the type of this
    field of it means the declaration `e`. -/
def FieldMeans (s : Snapshot) (scope : String) (f : Source.Function) (field : String)
    (e : Declaration) : Prop :=
  ∃ d ∈ s.declarations, d.scope = scope ∧ f.receiver = some d.declaredType ∧
    ∃ ps, d.constructor? = some ps ∧ ∃ p ∈ ps, p.name = field ∧
      ∃ type, p.type = .resolved type ∧ s.resolve? type scope = some e

/-- The type of a field means one declaration. -/
theorem FieldMeans.unique {s : Snapshot} {scope : String} {f : Source.Function} {field : String}
    {e e' : Declaration} (h : FieldMeans s scope f field e) (h' : FieldMeans s scope f field e') :
    e = e' := by
  obtain ⟨d, hd, hscope, hreceiver, ps, hps, p, hp, hname, type, htype, he⟩ := h
  obtain ⟨d', hd', hscope', hreceiver', ps', hps', p', hp', hname', type', htype', he'⟩ := h'
  have hd : d = d' := by
    rw [hreceiver, Option.some.injEq] at hreceiver'
    exact eq_of_declaredType hd hd' (hscope.trans hscope'.symm) hreceiver'
  subst hd
  obtain rfl : ps = ps' := Option.some.inj (hps.symm.trans hps')
  have hnames := s.nodup_names_of_constructor hd' hps
  obtain rfl : p = p' := List.inj_on_of_nodup_map hnames hp hp' (hname.trans hname'.symm)
  obtain rfl : type = type' := Declared.TypeRef.resolved.inj (htype.symm.trans htype')
  exact Option.some.inj (he.symm.trans he')

/-! ### Rounds -/

/-- Every call on a field, in any unit of the nice strings, means a function that the round
    provides and that the file sees. -/
def CallsSeen (ctx : Context) : Prop :=
  ∀ u ∈ Plan.submitted (Plan.niceStrings ctx), ∀ f field, TopLevel.ofFunction f ∈ u.members →
    CallsFor f field →
      ∃ e, FieldMeans ctx.snapshot u.key.scope f field e ∧ Provides ctx e ∧ Sees u e

/-- The text of a declaration shows a parameter of its constructor by the function of `e`. -/
structure Refers (ctx : Context) (d : Declaration) (p : Declared.ConstructorParameter)
    (e : Declaration) : Prop where
  declared : d ∈ ctx.snapshot.declarations
  provided : Provides ctx d
  parameter : ∃ ps, d.constructor? = some ps ∧ p ∈ ps
  exposed : p.isExposed = true
  single : p.vararg = false
  means : ∃ type, p.type = .resolved type ∧ ctx.snapshot.resolve? type d.scope = some e
  nested : Provides ctx e

section rounds
variable {ctx : Context}

theorem sees_iff {u : SourceUnit} (hu : u ∈ Plan.submitted (Plan.niceStrings ctx))
    (e : Declaration) :
    Sees u e ↔ e.scope = u.key.scope ∨ Name.isDotted ctx.provenance.type = true ∧
      ctx.provenance.type = Name.qualify e.scope "toNiceString" := by
  rw [Sees, imports_contains_iff, (Companion.plan_follows ctx .niceString).provenance u hu]

/-- Behind each call there is a field that leads to another declaration. -/
theorem exists_refers_of_callsFor {u : SourceUnit} {f : Source.Function} {field : String}
    (hu : u ∈ Plan.submitted (Plan.niceStrings ctx)) (hf : TopLevel.ofFunction f ∈ u.members)
    (hcall : CallsFor f field) :
    ∃ d p e, Refers ctx d p e ∧ d.scope = u.key.scope ∧
      FieldMeans ctx.snapshot u.key.scope f field e := by
  obtain ⟨d, hd, hmarked, hscope, g, hg, rfl⟩ := exists_of_mem_niceStrings hu hf
  have hreceiver := (receiver_of_niceString hg).2
  obtain ⟨ts, hts, hexposed, rfl⟩ := niceString_eq_ok_iff.mp hg
  obtain ⟨t, ht, hreadable, hsingle, hnested, hname⟩ := callsFor_niceStringFunction_iff.mp hcall
  obtain ⟨e, hresolve, hprovides⟩ := isNested_iff.mp hnested
  have hps := constructor?_of_constructorFields hts
  have hmem := List.mem_map_of_mem (f := (·.parameter)) ht
  have htype := types_of_constructorFields hts t ht
  refine ⟨d, t.parameter, e, ?_, hscope, ?_⟩
  · exact
      { declared := hd
        provided := (provides_iff hd).mpr ⟨hmarked, _, hg⟩
        parameter := ⟨_, hps, hmem⟩
        exposed := hreadable
        single := hsingle
        means := ⟨t.type, htype, hresolve⟩
        nested := hprovides }
  · rw [← hscope]
    exact ⟨d, hd, rfl, hreceiver, _, hps, t.parameter, hmem, hname, t.type, htype, hresolve⟩

/-- For each field that leads to another declaration there is a call. -/
theorem Refers.exists_callsFor {d e : Declaration} {p : Declared.ConstructorParameter}
    (h : Refers ctx d p e) :
    ∃ u ∈ Plan.submitted (Plan.niceStrings ctx), u.key.scope = d.scope ∧
      ∃ f, TopLevel.ofFunction f ∈ u.members ∧ CallsFor f p.name ∧
        FieldMeans ctx.snapshot u.key.scope f p.name e := by
  obtain ⟨hmarked, g, hg⟩ := (provides_iff h.declared).mp h.provided
  obtain ⟨u, hu, hkey, hf⟩ := exists_unit_of_niceString h.declared hmarked hg
  have hscope : u.key.scope = d.scope := congrArg UnitKey.scope hkey
  have hreceiver := (receiver_of_niceString hg).2
  obtain ⟨ps, hps, hp⟩ := h.parameter
  obtain ⟨type, htype, hresolve⟩ := h.means
  refine ⟨u, hu, hscope, g.item, hf, ?_, ?_⟩
  · obtain ⟨ts, hts, -, rfl⟩ := niceString_eq_ok_iff.mp hg
    rw [constructor?_of_constructorFields hts, Option.some.injEq] at hps
    subst hps
    obtain ⟨t, ht, rfl⟩ := List.mem_map.mp hp
    rw [types_of_constructorFields hts t ht, Declared.TypeRef.resolved.injEq] at htype
    subst htype
    exact callsFor_niceStringFunction_iff.mpr
      ⟨t, ht, h.exposed, h.single, isNested_iff.mpr ⟨e, hresolve, h.nested⟩, rfl⟩
  · rw [hscope]
    exact ⟨d, h.declared, rfl, hreceiver, ps, hps, p, hp, rfl, type, htype, hresolve⟩

/-- Where all calls are seen, a field that leads to another declaration stays in the namespace. -/
theorem CallsSeen.scope_eq (hseen : CallsSeen ctx) {d e : Declaration}
    {p : Declared.ConstructorParameter} (h : Refers ctx d p e) :
    e.scope = d.scope ∨ Name.isDotted ctx.provenance.type = true ∧
      ctx.provenance.type = Name.qualify e.scope "toNiceString" := by
  obtain ⟨u, hu, hscope, f, hf, hcall, hmeans⟩ := h.exists_callsFor
  obtain ⟨e', hmeans', -, hsees⟩ := hseen u hu f p.name hf hcall
  obtain rfl := hmeans.unique hmeans'
  rw [← hscope]
  exact (sees_iff hu e).mp hsees

end rounds

/-- **Visibility.**  All calls of a round are seen exactly if each field that a text shows by the
    function of another declaration leads to one in the same namespace.  The exception is a type
    of provenance that has the qualified name of that function. -/
theorem callsSeen_iff (snapshot : Snapshot) (settings : Settings) (start : Moment) :
    CallsSeen (.of snapshot settings start) ↔
      ∀ d p e, Refers (.of snapshot settings start) d p e →
        e.scope = d.scope ∨ Name.isDotted settings.provenanceType = true ∧
          settings.provenanceType = Name.qualify e.scope "toNiceString" := by
  constructor
  · intro hseen d p e hrefers
    exact hseen.scope_eq hrefers
  · intro hinside u hu f field hf hcall
    obtain ⟨d, p, e, hrefers, hscope, hmeans⟩ := exists_refers_of_callsFor hu hf hcall
    refine ⟨e, hmeans, hrefers.nested, ?_⟩
    rw [sees_iff hu, ← hscope]
    exact hinside d p e hrefers

/-- A field of a type in another namespace is shown by a function that its file does not see. -/
theorem not_callsSeen_across_namespaces :
    let marks : List Declared.Annotation := [{ name := "ToNiceString" }]
    let user : Declaration :=
      { name := "a.User"
        kind := .class_
        constructor? :=
          some [{ name := "name", type := .resolved (.named "String"), binding := .val }]
        annotations := marks }
    let post : Declaration :=
      { name := "b.Post"
        kind := .class_
        constructor? :=
          some [{ name := "user", type := .resolved (.named "a.User"), binding := .val }]
        annotations := marks }
    let settings : Settings := {}
    ∃ hsound, settings.faults = [] ∧
      ¬CallsSeen (.of ⟨[user, post], hsound⟩ settings .newYear2024) := by
  intro marks user post settings
  have hsound : Snapshot.issues [user, post] = [] := by decide
  have hmarked : user.isMarked (settings.marker .toNiceString) = true ∧
      post.isMarked (settings.marker .toNiceString) = true := by decide
  have hscope : post.scope = "b" := by decide
  refine ⟨hsound, by decide, ?_⟩
  intro hseen
  have hresolve : (⟨[user, post], hsound⟩ : Snapshot).resolve? (.named "a.User") post.scope =
      some user := by
    rw [hscope]
    rfl
  have hrefers : Refers (.of ⟨[user, post], hsound⟩ settings .newYear2024) post
      { name := "user", type := .resolved (.named "a.User"), binding := .val } user :=
    { declared := List.mem_cons_of_mem _ List.mem_cons_self
      provided :=
        (provides_iff (List.mem_cons_of_mem _ List.mem_cons_self)).mpr ⟨hmarked.2, _, rfl⟩
      parameter := ⟨_, rfl, List.mem_singleton_self _⟩
      exposed := rfl
      single := rfl
      means := ⟨_, rfl, hresolve⟩
      nested := (provides_iff List.mem_cons_self).mpr ⟨hmarked.1, _, rfl⟩ }
  -- The two namespaces differ, and the type of provenance is the default one.
  have hapart : user.scope ≠ post.scope := by decide
  have htype : settings.provenanceType ≠ Name.qualify user.scope "toNiceString" := by decide
  rcases hseen.scope_eq hrefers with hsame | ⟨-, hname⟩
  · exact hapart hsame
  · exact htype hname

end CompanionSource.Synthesis
