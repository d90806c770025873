import CompanionSource.Proofs.Traversal
import CompanionSource.Proofs.TypeExpr.Trimming
import CompanionSource.Written.Conversion

/-! # Which documents are declared

    A written declaration has the texts of types in five places.  A text may write a type there,
    or be the one that stands for a type that could not be resolved.

    - Parameters, return types and properties take both, and so does the declaration.
    - A **bound** of a type parameter has to be a type.  There the other text is a fault, and the
      whole document is not declared.

    So a document of which all texts can be read is declared exactly if no bound is unresolved. -/

namespace CompanionSource.TypeExpr

/-- The text that stands for a type that could not be resolved is none: no name begins with a
    bracket. -/
theorem parse_unresolved :
    parse "<ERROR TYPE>" = .error ⟨"<ERROR TYPE>", 0, .identifierExpected⟩ := by
  have hidentifier : Parser.identifier "<ERROR TYPE>".toList =
      .error ⟨"<ERROR TYPE>".toList, .identifierExpected⟩ := rfl
  have hname : Parser.dottedName (Text.skipBlanks "<ERROR TYPE>".toList) =
      .error ⟨"<ERROR TYPE>".toList, .identifierExpected⟩ := by
    have hskip : Text.skipBlanks "<ERROR TYPE>".toList = "<ERROR TYPE>".toList := rfl
    rw [hskip, Parser.dottedName, hidentifier]
  have htype : Parser.typeExpr "<ERROR TYPE>".toList =
      .error ⟨"<ERROR TYPE>".toList, .identifierExpected⟩ := by
    rw [Parser.typeExpr]
    split
    · next fault hfault =>
      rw [hname] at hfault
      cases hfault
      rfl
    · next taken htaken =>
      rw [hname] at htaken
      cases htaken
  rw [parse, htype]
  rfl

end CompanionSource.TypeExpr

namespace CompanionSource.Written

open Traversal

/-! ### Texts -/

/-- Where the text of a type stands. -/
inductive TypePlace where
  /-- A parameter of a primary constructor. -/
  | constructorParameter
  /-- A parameter of a function. -/
  | functionParameter
  /-- What a function returns. -/
  | returned
  /-- A property. -/
  | property
  /-- A bound of a type parameter, of a declaration or of a function. -/
  | bound
  deriving DecidableEq, Repr

/-- The text of a type in its place. -/
structure TypeText where
  /-- The place. -/
  place : TypePlace
  /-- The text. -/
  text : String

/-- The text stands for a type that could not be resolved. -/
def TypeText.IsUnresolved (x : TypeText) : Prop := Text.trim x.text = "<ERROR TYPE>"

/-- The text writes a type, or stands for one that could not be resolved. -/
def TypeText.IsReadable (x : TypeText) : Prop :=
  (∃ type, TypeExpr.parse (Text.trim x.text) = .ok type) ∨ x.IsUnresolved

/-- The text names a modifier. -/
def NamesModifier (text : String) : Prop := ∃ m, Modifier.ofWord? (Text.trim text) = some m

/-- The texts of the bounds. -/
def TypeParameter.typeTexts (v : TypeParameter) : List TypeText := v.bounds.map (⟨.bound, ·⟩)

/-- The texts of the types of a function. -/
def Function.typeTexts (f : Function) : List TypeText :=
  f.parameters.map (⟨.functionParameter, ·.type⟩) ++ f.returns.toList.map (⟨.returned, ·⟩)
    ++ f.typeParameters.flatMap (·.typeTexts)

/-- The texts of the types of a declaration and its members. -/
def Declaration.typeTexts (d : Declaration) : List TypeText :=
  (d.constructor?.toList.flatMap fun ps => ps.map (⟨.constructorParameter, ·.type⟩))
    ++ d.typeParameters.flatMap (·.typeTexts) ++ d.functions.flatMap (·.typeTexts)
    ++ d.properties.map (⟨.property, ·.type⟩)

/-- The texts of the modifiers of a declaration and its members. -/
def Declaration.modifierTexts (d : Declaration) : List String :=
  d.modifiers ++ d.functions.flatMap (·.modifiers) ++ d.properties.flatMap (·.modifiers)

/-- Every text of a type can be read, and every text of a modifier names one. -/
structure Declaration.IsReadable (d : Declaration) : Prop where
  modifiers : ∀ text ∈ d.modifierTexts, NamesModifier text
  types : ∀ x ∈ d.typeTexts, x.IsReadable

/-- The text fits in its place: a bound has to be resolved. -/
def TypeText.Fits (x : TypeText) : Prop :=
  x.IsReadable ∧ (x.place = .bound → ¬x.IsUnresolved)

/-! ### One text -/

section texts
variable {symbol : String} {text : String} {place : TypePlace}

/-- A place that takes both takes a text that can be read. -/
theorem exists_declareType_iff (hplace : place ≠ .bound) :
    (∃ type, declareType symbol text = .ok type) ↔ (⟨place, text⟩ : TypeText).Fits := by
  rw [declareType, exists_mapError_eq_ok_iff, Declared.TypeRef.parse]
  simp only [TypeText.Fits, TypeText.IsReadable, TypeText.IsUnresolved, hplace, false_implies,
    and_true, Declared.TypeRef.unresolvedText]
  by_cases hunresolved : Text.trim text = "<ERROR TYPE>"
  · simp [hunresolved]
  · simp only [hunresolved, if_false, exists_map_eq_ok_iff, or_false]

/-- A bound takes only a type. -/
theorem exists_declareBound_iff :
    (∃ type, declareBound symbol text = .ok type) ↔ (⟨.bound, text⟩ : TypeText).Fits := by
  have htrim : (∃ type, TypeExpr.parse text = .ok type) ↔
      ∃ type, TypeExpr.parse (Text.trim text) = .ok type :=
    exists_congr fun _ => TypeExpr.parse_trim_eq_ok_iff.symm
  rw [declareBound, exists_mapError_eq_ok_iff, htrim]
  simp only [TypeText.Fits, TypeText.IsReadable, TypeText.IsUnresolved, forall_const]
  constructor
  · intro h
    refine ⟨.inl h, fun hunresolved => ?_⟩
    obtain ⟨type, htype⟩ := h
    rw [hunresolved, TypeExpr.parse_unresolved] at htype
    cases htype
  · intro h
    exact h.1.resolve_right h.2

theorem exists_declareModifier_iff :
    (∃ m, declareModifier symbol text = .ok m) ↔ NamesModifier text := by
  unfold declareModifier NamesModifier
  cases Modifier.ofWord? (Text.trim text) <;> simp

theorem exists_declareModifiers_iff {texts : List String} :
    (∃ ms, declareModifiers symbol texts = .ok ms) ↔ ∀ text ∈ texts, NamesModifier text := by
  have hmodifiers : (∃ ms, texts.mapM (declareModifier symbol) = .ok ms) ↔
      ∀ text ∈ texts, NamesModifier text := by
    rw [exists_mapM_eq_ok_iff]
    exact forall₂_congr fun _ _ => exists_declareModifier_iff
  rw [← hmodifiers]
  exact exists_map_eq_ok_iff

end texts

/-! ### Entries -/

section entries
variable {owner : String}

theorem TypeParameter.exists_declare_iff {v : TypeParameter} :
    (∃ w, v.declare owner = .ok w) ↔ ∀ x ∈ v.typeTexts, x.Fits := by
  rw [TypeParameter.typeTexts, List.forall_mem_map, TypeParameter.declare,
    exists_bind_eq_ok_iff fun _ => exists_pure_eq_ok_iff, and_true, exists_mapM_eq_ok_iff]
  exact forall₂_congr fun _ _ => exists_declareBound_iff

theorem ConstructorParameter.exists_declare_iff {p : ConstructorParameter} :
    (∃ q, p.declare owner = .ok q) ↔ TypeText.Fits ⟨.constructorParameter, p.type⟩ := by
  rw [ConstructorParameter.declare, exists_bind_eq_ok_iff fun _ => exists_pure_eq_ok_iff,
    and_true]
  exact exists_declareType_iff (by decide)

theorem Parameter.exists_declare_iff {p : Parameter} :
    (∃ q, p.declare owner = .ok q) ↔ TypeText.Fits ⟨.functionParameter, p.type⟩ := by
  rw [Parameter.declare, exists_bind_eq_ok_iff fun _ => exists_pure_eq_ok_iff, and_true]
  exact exists_declareType_iff (by decide)

theorem Property.exists_declare_iff {p : Property} :
    (∃ q, p.declare owner = .ok q) ↔
      TypeText.Fits ⟨.property, p.type⟩ ∧ ∀ text ∈ p.modifiers, NamesModifier text := by
  unfold Property.declare
  rw [exists_bind_eq_ok_iff fun _ => exists_bind_eq_ok_iff fun _ => exists_pure_eq_ok_iff,
    and_true]
  exact and_congr (exists_declareType_iff (by decide)) exists_declareModifiers_iff

theorem Function.exists_declare_iff {f : Function} :
    (∃ g, f.declare owner = .ok g) ↔
      (∀ x ∈ f.typeTexts, x.Fits) ∧ ∀ text ∈ f.modifiers, NamesModifier text := by
  have hreturned : TypePlace.returned ≠ .bound := by decide
  unfold Function.declare
  rw [exists_bind_eq_ok_iff fun _ => exists_bind_eq_ok_iff fun _ => exists_bind_eq_ok_iff fun _ =>
    exists_bind_eq_ok_iff fun _ => exists_pure_eq_ok_iff]
  simp only [and_true, exists_mapM_eq_ok_iff, exists_optionMapM_eq_ok_iff,
    Parameter.exists_declare_iff, exists_declareType_iff hreturned,
    TypeParameter.exists_declare_iff, exists_declareModifiers_iff, Function.typeTexts,
    List.forall_mem_append, List.forall_mem_map, List.forall_mem_flatMap, and_assoc]

/-- A declaration is declared exactly if all its texts fit. -/
theorem Declaration.exists_declare_iff {d : Declaration} :
    (∃ e, d.declare = .ok e) ↔
      (∀ x ∈ d.typeTexts, x.Fits) ∧ ∀ text ∈ d.modifierTexts, NamesModifier text := by
  unfold Declaration.declare
  rw [exists_bind_eq_ok_iff fun _ => exists_bind_eq_ok_iff fun _ => exists_bind_eq_ok_iff fun _ =>
    exists_bind_eq_ok_iff fun _ => exists_bind_eq_ok_iff fun _ => exists_pure_eq_ok_iff]
  simp only [and_true, exists_optionMapM_eq_ok_iff, exists_mapM_eq_ok_iff,
    ConstructorParameter.exists_declare_iff, exists_declareModifiers_iff,
    TypeParameter.exists_declare_iff, Function.exists_declare_iff, Property.exists_declare_iff,
    Declaration.typeTexts, Declaration.modifierTexts, List.forall_mem_append, List.forall_mem_map,
    List.forall_mem_flatMap]
  -- The texts of a member are those of its types and those of its modifiers.
  rw [forall₂_and, forall₂_and]
  tauto

end entries

/-! ### Documents -/

/-- **Unresolved types.**  A document is declared exactly if all its texts can be read, and no bound
    of a type parameter is unresolved. -/
theorem declareAll_succeeds_iff (ds : List Declaration) :
    (∃ declared, declareAll ds = .ok declared) ↔
      ∀ d ∈ ds, d.IsReadable ∧ ∀ x ∈ d.typeTexts, x.place = .bound → ¬x.IsUnresolved := by
  rw [declareAll, exists_mapM_eq_ok_iff]
  refine forall₂_congr fun d _ => ?_
  rw [Declaration.exists_declare_iff]
  constructor
  · intro h
    obtain ⟨htypes, hmodifiers⟩ := h
    exact ⟨⟨hmodifiers, fun x hx => (htypes x hx).1⟩, fun x hx => (htypes x hx).2⟩
  · intro h
    obtain ⟨hreadable, hbounds⟩ := h
    exact ⟨fun x hx => ⟨hreadable.types x hx, hbounds x hx⟩, hreadable.modifiers⟩

/-- A bound that could not be resolved is a fault, though its text can be read. -/
theorem unresolved_bound_not_declared :
    let api : Declaration :=
      { name := "a.Api"
        kind := .interface
        typeParameters := [{ name := "T", bounds := ["<ERROR TYPE>"] }] }
    api.IsReadable ∧
      declareAll [api] =
        .error (.invalidType "a.Api<T>" ⟨"<ERROR TYPE>", 0, .identifierExpected⟩) := by
  intro api
  constructor
  · have hunresolved : Text.trim "<ERROR TYPE>" = "<ERROR TYPE>" := by decide
    have htexts : api.typeTexts = [⟨.bound, "<ERROR TYPE>"⟩] := rfl
    refine ⟨List.forall_mem_nil _, ?_⟩
    rw [htexts, List.forall_mem_singleton]
    exact .inr hunresolved
  · generalize hfault :
      Fault.invalidType "a.Api<T>" ⟨"<ERROR TYPE>", 0, .identifierExpected⟩ = fault
    have hbound : declareBound "a.Api<T>" "<ERROR TYPE>" = .error fault := by
      rw [declareBound, TypeExpr.parse_unresolved, ← hfault]
      rfl
    have hparameters : api.typeParameters.mapM (TypeParameter.declare api.name) =
        .error fault := by
      have hsymbol : "a.Api" ++ "<" ++ "T" ++ ">" = "a.Api<T>" := by decide
      rw [List.mapM_cons, TypeParameter.declare, hsymbol, List.mapM_cons, hbound]
      rfl
    rw [declareAll, List.mapM_cons, Declaration.declare, hparameters]
    rfl

end CompanionSource.Written
