import CompanionSource.Proofs.NiceString.Visibility
import CompanionSource.Proofs.Source.Types
import CompanionSource.Proofs.Wrapper.Completeness

/-! # Types of companions

    The types in a companion are the type of its provenance, `String`, and types of the
    declaration that it is generated for.  The generators make no others up:

    - an **override** has the types of the member that it overrides, and its body mentions the
      type parameters that it hands on;
    - a **copy** has the types of the fields, and its body mentions the class;
    - a **nice string** returns a `String`, and its body mentions no type. -/

namespace CompanionSource

open Source (Expr Stmt TopLevel)

/-! ### Types of declarations -/

namespace Declared

/-- The type stands in the function, or is written for a type parameter of it. -/
inductive Function.Mentions (t : TypeExpr) (f : Function) : Prop
  | mark {a : Annotation} (ha : a ∈ f.annotations) (h : a.toSource.Mentions t)
  | typeParameter {v : TypeVariable} (hv : v ∈ f.typeParameters) (h : .named v.name = t)
  | bound {v : TypeVariable} (hv : v ∈ f.typeParameters) (h : t ∈ v.bounds)
  | parameter {p : Parameter} (hp : p ∈ f.parameters) (h : p.type = .resolved t)
  | returns (h : f.returns = some (.resolved t))

/-- The type stands in the property. -/
inductive Property.Mentions (t : TypeExpr) (p : Property) : Prop
  | mark {a : Annotation} (ha : a ∈ p.annotations) (h : a.toSource.Mentions t)
  | type (h : p.type = .resolved t)

end Declared

/-- The type stands in the declaration, or is written for it or for a type parameter of it. -/
inductive Declaration.Mentions (t : TypeExpr) (d : Declaration) : Prop
  | declared (h : d.declaredType = t)
  | path (h : .named d.typePath = t)
  | typeParameter {v : TypeVariable} (hv : v ∈ d.typeParameters) (h : .named v.name = t)
  | bound {v : TypeVariable} (hv : v ∈ d.typeParameters) (h : t ∈ v.bounds)
  | constructorParameter {ps : List Declared.ConstructorParameter}
      {p : Declared.ConstructorParameter} (hps : d.constructor? = some ps) (hp : p ∈ ps)
      (h : p.type = .resolved t)
  | function {f : Declared.Function} (hf : f ∈ d.functions) (h : f.Mentions t)
  | property {p : Declared.Property} (hp : p ∈ d.properties) (h : p.Mentions t)

namespace Synthesis

variable {t : TypeExpr}

/-! ### Types in generated bodies -/

theorem mentions_dot_iff {receiver : Expr} {n : String} :
    (Expr.dot receiver n).Mentions t ↔ receiver.Mentions t := Expr.mentions_member_iff

theorem not_mentions_shown (n : String) (vararg : Bool) : ¬(shown n vararg).Mentions t := by
  cases vararg <;> simp [shown, Expr.apply, mentions_dot_iff]

theorem mem_typeArguments_iff {vs : List TypeVariable} :
    t ∈ typeArguments vs ↔ ∃ v ∈ vs, .named v.name = t := by
  rw [typeArguments, List.mem_map]

theorem not_mentions_memberChain (name : String) : ¬(memberChain name).Mentions t := by
  have hfold (rest : List String) (e : Expr) :
      (rest.foldl Expr.dot e).Mentions t ↔ e.Mentions t := by
    induction rest generalizing e with
    | nil => rfl
    | cons n rest ih => rw [List.foldl_cons, ih, mentions_dot_iff]
  unfold memberChain
  split
  · simp
  · rw [hfold]
    simp

theorem mentions_delegation_iff (f : Declared.Function) :
    (Wrapper.delegation f).Mentions t ↔ ∃ v ∈ f.typeParameters, .named v.name = t := by
  have hdelegate : ¬(Wrapper.delegate f).Mentions t := by
    unfold Wrapper.delegate
    split <;> simp [mentions_dot_iff]
  simp [Wrapper.delegation, mentions_dot_iff, hdelegate, mem_typeArguments_iff, passed]

namespace Wrapper

variable {w : Wrapper}

/-- No value in the log line about a call mentions a type, if the result does not. -/
theorem not_mentions_of_mem_callMessage {f : Declared.Function} {result : Option Expr}
    (hresult : ∀ e ∈ result, ¬e.Mentions t) {e : Expr}
    (he : .value e ∈ w.callMessage f result) : ¬e.Mentions t := by
  simp only [callMessage, Source.value_mem_ofPieces, List.mem_append, List.mem_singleton,
    reduceCtorEq, false_or, or_false, value_mem_listing] at he
  rcases he with ⟨field, hfield, rfl⟩ | he
  · obtain ⟨p, -, rfl⟩ := List.mem_map.mp hfield
    exact not_mentions_shown _ _
  · cases result with
    | none => cases he
    | some value =>
      simp only [List.mem_cons, reduceCtorEq, Source.Piece.value.injEq, List.not_mem_nil, or_false,
        false_or] at he
      rw [he]
      exact hresult value rfl

/-- A log line mentions no type, if the log function and the message do not. -/
theorem not_mentions_of_mem_logged {marks : List Declared.Annotation} {message : Source.Template}
    (hlog : ¬w.log.Mentions t) (hmessage : ∀ e, .value e ∈ message → ¬e.Mentions t) {s : Stmt}
    (hs : s ∈ w.logged marks message) : ¬s.Mentions t := by
  unfold logged at hs
  split at hs
  · rw [List.mem_singleton.mp hs]
    simpa [Expr.apply, hlog] using hmessage
  · cases hs

/-- The body of a function mentions the type parameters that it hands on, and no other types. -/
theorem exists_of_functionBody {f : Declared.Function} (hlog : ¬w.log.Mentions t) {s : Stmt}
    (hs : s ∈ w.functionBody f) (h : s.Mentions t) :
    ∃ v ∈ f.typeParameters, .named v.name = t := by
  have hlogged (result : Option Expr) (hresult : ∀ e ∈ result, ¬e.Mentions t)
      (hs : s ∈ w.logged f.annotations (w.callMessage f result)) : ¬s.Mentions t :=
    not_mentions_of_mem_logged hlog (fun e he => not_mentions_of_mem_callMessage hresult he) hs
  unfold functionBody at hs
  split at hs
  · rcases List.mem_append.mp hs with hs | hs
    · rcases List.mem_cons.mp hs with rfl | hs
      · exact (mentions_delegation_iff f).mp (Stmt.mentions_val_iff.mp h)
      · exact absurd h (hlogged _ (by rintro e ⟨⟩; exact Expr.not_mentions_name) hs)
    · rw [List.mem_singleton.mp hs] at h
      exact absurd (Stmt.mentions_ret_iff.mp h) Expr.not_mentions_name
  · rcases List.mem_cons.mp hs with rfl | hs
    · exact (mentions_delegation_iff f).mp (Stmt.mentions_expr_iff.mp h)
    · exact absurd h (hlogged _ (by rintro e ⟨⟩) hs)

theorem not_mentions_of_mem_propertyMessage {verb : String} {p : Declared.Property}
    {shownValue e : Expr} (hvalue : ¬shownValue.Mentions t)
    (he : .value e ∈ w.propertyMessage verb p shownValue) : ¬e.Mentions t := by
  simp only [propertyMessage, Source.value_mem_ofPieces, List.mem_cons, reduceCtorEq,
    Source.Piece.value.injEq, List.not_mem_nil, or_false, false_or] at he
  rw [he]
  exact hvalue

/-- The accessors of a property mention no type. -/
theorem not_mentions_of_mem_accessor {p : Declared.Property} (hlog : ¬w.log.Mentions t) {s : Stmt}
    (hs : s ∈ w.getterBody p ∨ s ∈ w.setterBody p) : ¬s.Mentions t := by
  have hdelegate : ¬(delegateProperty p).Mentions t := by
    simp [delegateProperty, mentions_dot_iff]
  have hlogged {verb n : String}
      (hs : s ∈ w.logged p.annotations (w.propertyMessage verb p (.name n))) : ¬s.Mentions t :=
    not_mentions_of_mem_logged hlog
      (fun e he => not_mentions_of_mem_propertyMessage Expr.not_mentions_name he) hs
  rcases hs with hs | hs
  · rcases List.mem_append.mp hs with hs | hs
    · rcases List.mem_cons.mp hs with rfl | hs
      · rwa [Stmt.mentions_val_iff]
      · exact hlogged hs
    · rw [List.mem_singleton.mp hs, Stmt.mentions_ret_iff]
      exact Expr.not_mentions_name
  · rcases List.mem_cons.mp hs with rfl | hs
    · simp [hdelegate]
    · exact hlogged hs

/-! ### Types of overrides -/

theorem mentions_of_mem_repeated {marks : List Declared.Annotation} {a : Source.Annotation}
    (ha : a ∈ w.repeated marks) : ∃ mark ∈ marks, mark.toSource = a := by
  obtain ⟨mark, hmark, rfl⟩ := List.mem_map.mp ha
  exact ⟨mark, List.mem_of_mem_filter hmark, rfl⟩

/-- The override of a property has the types of the property. -/
theorem mentions_of_overrideProperty {p : Declared.Property} {q : Source.Property}
    (hlog : ¬w.log.Mentions t) (h : w.overrideProperty p = .ok q) (ht : q.Mentions t) :
    p.Mentions t := by
  obtain ⟨type, htype, rfl⟩ := overrideProperty_eq_ok_iff.mp h
  cases ht with
  | mark ha hmentions =>
    obtain ⟨mark, hmark, rfl⟩ := mentions_of_mem_repeated ha
    exact .mark hmark hmentions
  | type hsame =>
    rw [← hsame]
    exact .type htype
  | initializer hvalue => cases hvalue
  | getter hbody hs hmentions =>
    cases hbody
    exact absurd hmentions (not_mentions_of_mem_accessor hlog (.inl hs))
  | setter hbody hs hmentions =>
    cases hmutable : p.mutable with
    | false => simp [hmutable] at hbody
    | true =>
      simp only [hmutable, if_true, Option.some.injEq] at hbody
      subst hbody
      exact absurd hmentions (not_mentions_of_mem_accessor hlog (.inr hs))

/-- The override of a function has the types of the function. -/
theorem mentions_of_overrideFunction {f : Declared.Function} {g : Source.Function}
    (hlog : ¬w.log.Mentions t) (h : w.overrideFunction f = .ok g) (ht : g.Mentions t) :
    f.Mentions t := by
  obtain ⟨parameters, hparameters, rfl⟩ := overrideFunction_eq_ok_iff.mp h
  cases ht with
  | mark ha hmentions =>
    obtain ⟨mark, hmark, rfl⟩ := mentions_of_mem_repeated ha
    exact .mark hmark hmentions
  | bound hv hbound => exact .bound hv hbound
  | receiver hreceiver => cases hreceiver
  | parameter hq hmentions =>
    obtain ⟨p, hp, hoverride⟩ := Traversal.exists_mem_of_forall₂ hparameters hq
    obtain ⟨type, htype, rfl⟩ := overrideParameter_eq_ok_iff.mp hoverride
    cases hmentions with
    | mark ha => cases ha
    | type hsame =>
      rw [← hsame]
      exact .parameter hp htype
    | default hvalue => cases hvalue
  | returns hreturns => exact .returns (returnedType?_eq_some_iff.mp hreturns).1
  | statement hs hmentions =>
    obtain ⟨v, hv, hname⟩ := exists_of_functionBody hlog hs hmentions
    exact .typeParameter hv hname

end Wrapper

/-! ### Types of extension functions -/

/-- The parameters of a copy have the types of the fields. -/
theorem mentions_of_copyParameter {d : Declaration} {ts : List TypedParameter}
    (hts : constructorFields .copy d = .ok ts) {q : Source.Parameter}
    (hq : q ∈ ts.map copyParameter) (ht : q.Mentions t) : d.Mentions t := by
  obtain ⟨p, hp, rfl⟩ := List.mem_map.mp hq
  cases ht with
  | mark ha => cases ha
  | type hsame =>
    rw [← hsame]
    exact .constructorParameter (constructor?_of_constructorFields hts)
      (List.mem_map_of_mem hp) (types_of_constructorFields hts p hp)
  | default hvalue hmentions =>
    simp only [copyParameter, Option.ite_none_right_eq_some, Option.some.injEq] at hvalue
    rw [← hvalue.2, mentions_dot_iff] at hmentions
    exact absurd hmentions Expr.not_mentions_this

/-- The body of a copy mentions the class that it constructs, and its type parameters. -/
theorem mentions_of_construction {d : Declaration} {ts : List TypedParameter}
    (ht : (construction d ts).Mentions t) : d.Mentions t := by
  simp only [construction, Expr.mentions_call_iff, Expr.mentions_type_iff, mem_typeArguments_iff,
    List.mem_map] at ht
  rcases ht with hpath | ⟨v, hv, hname⟩ | ⟨_, ⟨p, -, rfl⟩, hmentions⟩
  · exact .path hpath
  · exact .typeParameter hv hname
  · exact absurd hmentions Expr.not_mentions_name

/-- The body of a nice string mentions no type. -/
theorem not_mentions_niceTemplate {ctx : Context} {d : Declaration} {ts : List TypedParameter} :
    ¬(Expr.template (niceTemplate ctx d ts)).Mentions t := by
  have hfield (p : TypedParameter) : ¬(fieldValue ctx d.scope p).Mentions t := by
    unfold fieldValue
    split
    · simp [Expr.apply]
    · exact not_mentions_shown _ _
  simp only [Expr.mentions_template_iff, niceTemplate, Source.value_mem_ofPieces, List.mem_append,
    List.mem_singleton, reduceCtorEq, false_or, or_false, value_mem_listing]
  rintro ⟨e, ⟨field, hmem, rfl⟩, hmentions⟩
  obtain ⟨p, -, rfl⟩ := List.mem_map.mp hmem
  exact hfield p hmentions

end Synthesis

/-! ### Types of companions -/

variable {t : TypeExpr}

/-- A mark of provenance mentions its own type only, whatever it is meant for. -/
theorem Provenance.mentions_mark_iff {p : Provenance} {site : Option Source.UseSite} :
    Source.AnnotationOf.Mentions t { p.mark with site } ↔ t = .named p.type := by
  have htext (content : String) : ¬(Source.AnnotationValue.text content).Mentions t := by
    rintro ⟨⟩
  have harray (content : String) : ¬(Source.AnnotationValue.array [.text content]).Mentions t := by
    intro h
    cases h with
    | element hv h =>
      rw [List.mem_singleton.mp hv] at h
      exact htext _ h
  simp [Source.AnnotationOf.Mentions, mark, markOn, htext, harray, eq_comm]

namespace Companion

open Synthesis (Context Generated)

/-- A type in a companion is that of the provenance, `String`, or one of the declaration. -/
theorem mentions_of_generate {ctx : Context} {c : Companion} {d : Declaration}
    {g : Generated TopLevel} (h : c.generate ctx d = .ok g) (ht : g.item.Mentions t) :
    t = .named ctx.provenance.type ∨ t = .named "String" ∨ d.Mentions t := by
  have hmark {a : Source.Annotation} (ha : a ∈ [ctx.provenance.mark]) (hmentions : a.Mentions t) :
      t = .named ctx.provenance.type := by
    rw [List.mem_singleton.mp ha] at hmentions
    exact Provenance.mentions_mark_iff.mp hmentions
  cases c with
  | wrapper =>
    obtain ⟨w, hw, rfl⟩ := Traversal.map_eq_ok_iff.mp h
    obtain ⟨-, -, properties, functions, hproperties, hfunctions, rfl⟩ :=
      Synthesis.wrapper_eq_ok_iff.mp hw
    have hlog : ¬(Synthesis.Wrapper.of ctx d).log.Mentions t :=
      Synthesis.not_mentions_memberChain _
    cases ht with
    | mark ha hmentions => exact .inl (hmark ha hmentions)
    | bound hv hbound => exact .inr (.inr (.bound hv hbound))
    | parameter hq hmentions =>
      rw [List.mem_singleton.mp hq] at hmentions
      cases hmentions with
      | mark ha => cases ha
      | type hsame => exact .inr (.inr (.declared hsame))
      | default hvalue => cases hvalue
    | supertype hs hsame =>
      rw [List.mem_singleton.mp hs] at hsame
      exact .inr (.inr (.declared hsame))
    | property hq hmentions =>
      obtain ⟨p, hp, hoverride⟩ := Traversal.exists_mem_of_forall₂ hproperties hq
      exact .inr (.inr (.property (List.mem_of_mem_filter hp)
        (Synthesis.Wrapper.mentions_of_overrideProperty hlog hoverride hmentions)))
    | function hf hmentions =>
      obtain ⟨f, hf, hoverride⟩ := Traversal.exists_mem_of_forall₂ hfunctions hf
      exact .inr (.inr (.function (List.mem_of_mem_filter hf)
        (Synthesis.Wrapper.mentions_of_overrideFunction hlog hoverride hmentions)))
  | copy =>
    obtain ⟨f, hf, rfl⟩ := Traversal.map_eq_ok_iff.mp h
    obtain ⟨ts, hts, rfl⟩ := Synthesis.copy_eq_ok_iff.mp hf
    cases ht with
    | mark ha hmentions => exact .inl (hmark ha hmentions)
    | bound hv hbound => exact .inr (.inr (.bound hv hbound))
    | receiver hreceiver => exact .inr (.inr (.declared (Option.some.inj hreceiver)))
    | parameter hq hmentions =>
      exact .inr (.inr (Synthesis.mentions_of_copyParameter hts hq hmentions))
    | returns hreturns => exact .inr (.inr (.declared (Option.some.inj hreturns)))
    | statement hs hmentions =>
      rw [List.mem_singleton.mp hs, Source.Stmt.mentions_ret_iff] at hmentions
      exact .inr (.inr (Synthesis.mentions_of_construction hmentions))
  | niceString =>
    obtain ⟨f, hf, rfl⟩ := Traversal.map_eq_ok_iff.mp h
    obtain ⟨ts, -, -, rfl⟩ := Synthesis.niceString_eq_ok_iff.mp hf
    cases ht with
    | mark ha hmentions => exact .inl (hmark ha hmentions)
    | bound hv hbound => exact .inr (.inr (.bound hv hbound))
    | receiver hreceiver => exact .inr (.inr (.declared (Option.some.inj hreceiver)))
    | parameter hq => cases hq
    | returns hreturns => exact .inr (.inl (Option.some.inj hreturns).symm)
    | statement hs hmentions =>
      rw [List.mem_singleton.mp hs, Source.Stmt.mentions_ret_iff] at hmentions
      exact absurd hmentions Synthesis.not_mentions_niceTemplate

end Companion

end CompanionSource
