import CompanionSource.Proofs.Written.Conversion

/-! # What a written entry stands for

    A written entry **stands for** a declared one if they agree in everything that is no text of a
    type or a modifier, and each of these texts stands for the type or the modifier that it writes.

    - Lists agree element by element, so nothing is dropped and nothing changes its place.  Only
      the modifiers are a set.
    - This determines the declared entry, and an entry is declared as what it stands for.

    How a text is read is taken from the readers of types and of modifiers.  That a text of a type
    is read right is their business. -/

namespace CompanionSource

/-! ### Sets of modifiers -/

/-- A set of modifiers is determined by its elements. -/
theorem ModifierSet.ext_contains {s t : ModifierSet}
    (h : ∀ m, s.contains m = true ↔ t.contains m = true) : s = t := by
  obtain ⟨ms, hms⟩ := s
  obtain ⟨ns, hns⟩ := t
  have hdistinct : ∀ {l : List Modifier}, l.Pairwise (fun m n => m.rank < n.rank) → l.Nodup := by
    intro l hl
    exact hl.imp fun hlt heq => absurd (heq ▸ hlt) (Nat.lt_irrefl _)
  have hperm : ms.Perm ns := by
    rw [List.perm_ext_iff_of_nodup (hdistinct hms) (hdistinct hns)]
    simpa only [contains, List.contains_iff_mem] using h
  have hlist : ms = ns := hperm.eq_of_pairwise
    (fun _ _ _ _ hlt hgt => absurd (Nat.lt_trans hlt hgt) (Nat.lt_irrefl _)) hms hns
  subst hlist
  rfl

namespace Written

open Declared (TypeRef)
open Source (AnnotationArgument)
open Traversal

/-! ### Annotations -/

mutual

/-- A written value stands for a declared one. -/
inductive AnnotationValue.StandsFor : AnnotationValue → Source.AnnotationValue → Prop
  /-- A truth value. -/
  | bool (value : Bool) : AnnotationValue.StandsFor (.bool value) (.bool value)
  /-- A whole number. -/
  | int (value : Int) : AnnotationValue.StandsFor (.int value) (.int value)
  /-- A floating point number. -/
  | float (value : Binary64) : AnnotationValue.StandsFor (.float value) (.float value)
  /-- A text. -/
  | text (content : String) : AnnotationValue.StandsFor (.text content) (.text content)
  /-- An array: the values stand in the same order. -/
  | array {values : List AnnotationValue} {declared : List Source.AnnotationValue}
      (h : List.Forall₂ AnnotationValue.StandsFor values declared) :
      AnnotationValue.StandsFor (.array values) (.array declared)
  /-- Source text. -/
  | raw (code : String) : AnnotationValue.StandsFor (.raw code) (.raw code)
  /-- An annotation: its name is that of a type, and its arguments stand in the same order. -/
  | nested {name : String} {arguments : List (AnnotationArgument AnnotationValue)}
      {declared : List (AnnotationArgument Source.AnnotationValue)}
      (h : List.Forall₂ ArgumentStandsFor arguments declared) :
      AnnotationValue.StandsFor (.nested ⟨name, arguments⟩)
        (.nested { type := .named name, arguments := declared })

/-- A written argument stands for a declared one: the name is the same. -/
inductive ArgumentStandsFor :
    AnnotationArgument AnnotationValue → AnnotationArgument Source.AnnotationValue → Prop
  | mk {name : Option String} {value : AnnotationValue} {declared : Source.AnnotationValue}
      (h : AnnotationValue.StandsFor value declared) :
      ArgumentStandsFor ⟨name, value⟩ ⟨name, declared⟩

end

/-- A written annotation stands for a declared one. -/
structure AnnotationOf.StandsFor (a : Annotation) (b : Declared.Annotation) : Prop where
  name : b.name = a.name
  arguments : List.Forall₂ ArgumentStandsFor a.arguments b.arguments

mutual

/-- A value is declared as what it stands for. -/
theorem AnnotationValue.standsFor_iff (v : AnnotationValue) (w : Source.AnnotationValue) :
    v.StandsFor w ↔ w = v.declare := by
  cases v with
  | bool value | int value | float value | text content | raw code =>
    rw [AnnotationValue.declare]
    constructor
    · intro h
      cases h
      rfl
    · intro heq
      subst heq
      constructor
  | array values =>
    rw [AnnotationValue.declare]
    constructor
    · intro h
      cases h with
      | array h => rw [(AnnotationValue.forall₂_standsFor_iff values _).mp h]
    · intro heq
      subst heq
      exact .array ((AnnotationValue.forall₂_standsFor_iff values _).mpr rfl)
  | nested inner =>
    obtain ⟨name, arguments⟩ := inner
    rw [AnnotationValue.declare, AnnotationOf.declare]
    constructor
    · intro h
      cases h with
      | nested h =>
        rw [(forall₂_argumentStandsFor_iff arguments _).mp h]
        rfl
    · intro heq
      subst heq
      exact .nested ((forall₂_argumentStandsFor_iff arguments _).mpr rfl)

theorem AnnotationValue.forall₂_standsFor_iff (vs : List AnnotationValue)
    (ws : List Source.AnnotationValue) :
    List.Forall₂ AnnotationValue.StandsFor vs ws ↔ ws = AnnotationValue.declareAll vs := by
  cases vs with
  | nil => rw [List.forall₂_nil_left_iff, AnnotationValue.declareAll]
  | cons v vs =>
    simp only [List.forall₂_cons_left_iff, AnnotationValue.standsFor_iff v,
      AnnotationValue.forall₂_standsFor_iff vs, AnnotationValue.declareAll, exists_and_left,
      exists_eq_left]

theorem argumentStandsFor_iff (a : AnnotationArgument AnnotationValue)
    (b : AnnotationArgument Source.AnnotationValue) :
    ArgumentStandsFor a b ↔ b = AnnotationOf.declareArgument a := by
  obtain ⟨name, value⟩ := a
  rw [AnnotationOf.declareArgument]
  constructor
  · intro h
    cases h with
    | mk h => rw [(AnnotationValue.standsFor_iff value _).mp h]
  · intro heq
    subst heq
    exact .mk ((AnnotationValue.standsFor_iff value _).mpr rfl)

theorem forall₂_argumentStandsFor_iff (as : List (AnnotationArgument AnnotationValue))
    (bs : List (AnnotationArgument Source.AnnotationValue)) :
    List.Forall₂ ArgumentStandsFor as bs ↔ bs = AnnotationOf.declareArguments as := by
  cases as with
  | nil => rw [List.forall₂_nil_left_iff, AnnotationOf.declareArguments]
  | cons a as =>
    simp only [List.forall₂_cons_left_iff, argumentStandsFor_iff a,
      forall₂_argumentStandsFor_iff as, AnnotationOf.declareArguments, exists_and_left,
      exists_eq_left]

end

theorem AnnotationOf.standsFor_iff {a : Annotation} {b : Declared.Annotation} :
    a.StandsFor b ↔ b = a.declare := by
  obtain ⟨name, arguments⟩ := a
  rw [AnnotationOf.declare]
  constructor
  · intro h
    have harguments : b.arguments = declareArguments arguments :=
      (forall₂_argumentStandsFor_iff _ _).mp h.arguments
    rw [← harguments, ← show b.name = name from h.name]
  · intro heq
    subst heq
    exact ⟨rfl, (forall₂_argumentStandsFor_iff _ _).mpr rfl⟩

/-- Annotations are declared one by one, in their order. -/
theorem forall₂_annotationStandsFor_iff {as : List Annotation} {bs : List Declared.Annotation} :
    List.Forall₂ AnnotationOf.StandsFor as bs ↔ bs = as.map AnnotationOf.declare := by
  induction as generalizing bs with
  | nil => rw [List.forall₂_nil_left_iff, List.map_nil]
  | cons a as ih =>
    simp only [List.forall₂_cons_left_iff, AnnotationOf.standsFor_iff, ih, List.map_cons,
      exists_and_left, exists_eq_left]

/-! ### Texts -/

/-- A text of a type stands for the type that it writes, or for one that could not be resolved. -/
def TextStandsFor (text : String) (type : TypeRef) : Prop := TypeRef.parse text = .ok type

/-- A text of a bound stands for the type that it writes. -/
def BoundStandsFor (text : String) (type : TypeExpr) : Prop := TypeExpr.parse text = .ok type

/-- Texts of modifiers stand for a set: each names a modifier, and these make up the set. -/
structure ModifiersStandFor (texts : List String) (ms : ModifierSet) : Prop where
  named : ∀ text ∈ texts, NamesModifier text
  contains_iff : ∀ m, ms.contains m = true ↔
    ∃ text ∈ texts, Modifier.ofWord? (Text.trim text) = some m

theorem declareType_eq_ok_iff {symbol text : String} {type : TypeRef} :
    declareType symbol text = .ok type ↔ TextStandsFor text type :=
  mapError_eq_ok_iff

theorem declareBound_eq_ok_iff {symbol text : String} {type : TypeExpr} :
    declareBound symbol text = .ok type ↔ BoundStandsFor text type :=
  mapError_eq_ok_iff

theorem declareModifier_eq_ok_iff {symbol text : String} {m : Modifier} :
    declareModifier symbol text = .ok m ↔ Modifier.ofWord? (Text.trim text) = some m := by
  unfold declareModifier
  cases Modifier.ofWord? (Text.trim text) <;> simp

theorem declareModifiers_eq_ok_iff {symbol : String} {texts : List String} {s : ModifierSet} :
    declareModifiers symbol texts = .ok s ↔ ModifiersStandFor texts s := by
  -- What is declared contains exactly what the texts name.
  have hcontains : ∀ {s : ModifierSet}, declareModifiers symbol texts = .ok s → ∀ m,
      s.contains m = true ↔ ∃ text ∈ texts, Modifier.ofWord? (Text.trim text) = some m := by
    intro s h m
    obtain ⟨ms, hms, rfl⟩ := map_eq_ok_iff.mp h
    have heach := mapM_eq_ok_iff.mp hms
    simp only [declareModifier_eq_ok_iff] at heach
    rw [ModifierSet.contains_ofList, List.contains_iff_mem]
    have hmem : m ∈ ms ↔ ∃ n ∈ ms, n = m := by simp
    rw [hmem]
    refine (exists_mem_iff_of_forall₂ (fun text n hn => ?_) heach).symm
    rw [hn]
    exact Option.some_inj
  constructor
  · intro h
    exact ⟨exists_declareModifiers_iff.mp ⟨s, h⟩, hcontains h⟩
  · intro h
    have hexists : ∃ t, declareModifiers symbol texts = .ok t :=
      exists_declareModifiers_iff.mpr h.named
    obtain ⟨t, ht⟩ := hexists
    have heq : t = s := by
      apply ModifierSet.ext_contains
      intro m
      rw [hcontains ht, h.contains_iff]
    rw [ht, heq]

/-! ### Members -/

/-- A written type parameter stands for a declared one. -/
structure TypeParameter.StandsFor (v : TypeParameter) (w : TypeVariable) : Prop where
  name : w.name = v.name
  bounds : List.Forall₂ BoundStandsFor v.bounds w.bounds

/-- A written parameter of a primary constructor stands for a declared one. -/
structure ConstructorParameter.StandsFor (p : ConstructorParameter)
    (q : Declared.ConstructorParameter) : Prop where
  name : q.name = p.name
  type : TextStandsFor p.type q.type
  binding : q.binding = p.binding
  visibility : q.visibility = p.visibility
  vararg : q.vararg = p.vararg

/-- A written parameter of a function stands for a declared one. -/
structure Parameter.StandsFor (p : Parameter) (q : Declared.Parameter) : Prop where
  name : q.name = p.name
  type : TextStandsFor p.type q.type
  vararg : q.vararg = p.vararg

/-- A written function stands for a declared one. -/
structure Function.StandsFor (f : Function) (g : Declared.Function) : Prop where
  name : g.name = f.name
  parameters : List.Forall₂ Parameter.StandsFor f.parameters g.parameters
  returns : Option.Rel TextStandsFor f.returns g.returns
  typeParameters : List.Forall₂ TypeParameter.StandsFor f.typeParameters g.typeParameters
  annotations : List.Forall₂ AnnotationOf.StandsFor f.annotations g.annotations
  modifiers : ModifiersStandFor f.modifiers g.modifiers
  doc : g.doc = f.doc

/-- A written property stands for a declared one. -/
structure Property.StandsFor (p : Property) (q : Declared.Property) : Prop where
  name : q.name = p.name
  type : TextStandsFor p.type q.type
  mutable : q.mutable = p.mutable
  annotations : List.Forall₂ AnnotationOf.StandsFor p.annotations q.annotations
  modifiers : ModifiersStandFor p.modifiers q.modifiers
  doc : q.doc = p.doc

/-- A written declaration stands for a declared one. -/
structure Declaration.StandsFor (d : Declaration) (e : CompanionSource.Declaration) : Prop where
  name : e.name = d.name
  scope? : e.scope? = d.scope?
  kind : e.kind = d.kind
  visibility : e.visibility = d.visibility
  modifiers : ModifiersStandFor d.modifiers e.modifiers
  typeParameters : List.Forall₂ TypeParameter.StandsFor d.typeParameters e.typeParameters
  annotations : List.Forall₂ AnnotationOf.StandsFor d.annotations e.annotations
  doc : e.doc = d.doc
  constructor? : Option.Rel (List.Forall₂ ConstructorParameter.StandsFor) d.constructor?
    e.constructor?
  functions : List.Forall₂ Function.StandsFor d.functions e.functions
  properties : List.Forall₂ Property.StandsFor d.properties e.properties

section members
variable {owner : String}

theorem TypeParameter.declare_eq_ok_iff {v : TypeParameter} {w : TypeVariable} :
    v.declare owner = .ok w ↔ v.StandsFor w := by
  simp only [TypeParameter.declare, bind_eq_ok_iff, mapM_eq_ok_iff, declareBound_eq_ok_iff]
  constructor
  · intro h
    obtain ⟨bounds, hbounds, heq⟩ := h
    cases heq
    exact ⟨rfl, hbounds⟩
  · intro h
    obtain ⟨name, bounds⟩ := w
    obtain rfl : name = v.name := h.name
    exact ⟨bounds, h.bounds, rfl⟩

theorem ConstructorParameter.declare_eq_ok_iff {p : ConstructorParameter}
    {q : Declared.ConstructorParameter} : p.declare owner = .ok q ↔ p.StandsFor q := by
  simp only [ConstructorParameter.declare, bind_eq_ok_iff, declareType_eq_ok_iff]
  constructor
  · intro h
    obtain ⟨type, htype, heq⟩ := h
    cases heq
    exact ⟨rfl, htype, rfl, rfl, rfl⟩
  · intro h
    refine ⟨q.type, h.type, ?_⟩
    rw [← h.name, ← h.binding, ← h.visibility, ← h.vararg]
    rfl

theorem Parameter.declare_eq_ok_iff {p : Parameter} {q : Declared.Parameter} :
    p.declare owner = .ok q ↔ p.StandsFor q := by
  simp only [Parameter.declare, bind_eq_ok_iff, declareType_eq_ok_iff]
  constructor
  · intro h
    obtain ⟨type, htype, heq⟩ := h
    cases heq
    exact ⟨rfl, htype, rfl⟩
  · intro h
    refine ⟨q.type, h.type, ?_⟩
    rw [← h.name, ← h.vararg]
    rfl

theorem Function.declare_eq_ok_iff {f : Function} {g : Declared.Function} :
    f.declare owner = .ok g ↔ f.StandsFor g := by
  simp only [Function.declare, bind_eq_ok_iff, mapM_eq_ok_iff, optionMapM_eq_ok_iff,
    Parameter.declare_eq_ok_iff, declareType_eq_ok_iff, TypeParameter.declare_eq_ok_iff,
    declareModifiers_eq_ok_iff]
  constructor
  · intro h
    obtain ⟨parameters, hparameters, returns, hreturns, typeParameters, htypeParameters, modifiers,
      hmodifiers, heq⟩ := h
    cases heq
    exact ⟨rfl, hparameters, hreturns, htypeParameters, forall₂_annotationStandsFor_iff.mpr rfl,
      hmodifiers, rfl⟩
  · intro h
    refine ⟨_, h.parameters, _, h.returns, _, h.typeParameters, _, h.modifiers, ?_⟩
    rw [← forall₂_annotationStandsFor_iff.mp h.annotations, ← h.name, ← h.doc]
    rfl

theorem Property.declare_eq_ok_iff {p : Property} {q : Declared.Property} :
    p.declare owner = .ok q ↔ p.StandsFor q := by
  simp only [Property.declare, bind_eq_ok_iff, declareType_eq_ok_iff, declareModifiers_eq_ok_iff]
  constructor
  · intro h
    obtain ⟨type, htype, modifiers, hmodifiers, heq⟩ := h
    cases heq
    exact ⟨rfl, htype, rfl, forall₂_annotationStandsFor_iff.mpr rfl, hmodifiers, rfl⟩
  · intro h
    refine ⟨_, h.type, _, h.modifiers, ?_⟩
    rw [← forall₂_annotationStandsFor_iff.mp h.annotations, ← h.name, ← h.mutable, ← h.doc]
    rfl

end members

/-! ### Declarations -/

/-- A declaration is declared as what it stands for. -/
theorem Declaration.declare_eq_ok_iff {d : Declaration} {e : CompanionSource.Declaration} :
    d.declare = .ok e ↔ d.StandsFor e := by
  simp only [Declaration.declare, bind_eq_ok_iff, mapM_eq_ok_iff, optionMapM_eq_ok_iff,
    ConstructorParameter.declare_eq_ok_iff, declareModifiers_eq_ok_iff,
    TypeParameter.declare_eq_ok_iff, Function.declare_eq_ok_iff, Property.declare_eq_ok_iff]
  constructor
  · intro h
    obtain ⟨constructor?, hconstructor, modifiers, hmodifiers, typeParameters, htypeParameters,
      functions, hfunctions, properties, hproperties, heq⟩ := h
    cases heq
    exact ⟨rfl, rfl, rfl, rfl, hmodifiers, htypeParameters,
      forall₂_annotationStandsFor_iff.mpr rfl, rfl, hconstructor, hfunctions, hproperties⟩
  · intro h
    refine ⟨_, h.constructor?, _, h.modifiers, _, h.typeParameters, _, h.functions, _,
      h.properties, ?_⟩
    rw [← forall₂_annotationStandsFor_iff.mp h.annotations, ← h.name, ← h.scope?, ← h.kind,
      ← h.visibility, ← h.doc]
    rfl

/-- A document is declared entry by entry, in its order. -/
theorem declareAll_eq_ok_iff {ds : List Declaration} {es : List CompanionSource.Declaration} :
    declareAll ds = .ok es ↔ List.Forall₂ Declaration.StandsFor ds es := by
  simp only [declareAll, mapM_eq_ok_iff, Declaration.declare_eq_ok_iff]

end Written

end CompanionSource
