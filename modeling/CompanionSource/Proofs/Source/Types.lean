import CompanionSource.Proofs.TypeExpr.Parts
import CompanionSource.Source.File

/-! # Types in source

    A node of source **mentions** a type where the type stands in it: in an annotation, in the
    head of a declaration or in a body.  There is one relation for each sort of node, with one
    case for each place.

    A file **has** a type if it mentions it, or another one of which it is a part. -/

namespace CompanionSource.Source

/-! ### Annotations -/

/-- The type stands in the value of an annotation argument. -/
inductive AnnotationValue.Mentions (t : TypeExpr) : AnnotationValue → Prop
  /-- It is the type of a nested annotation. -/
  | nested {arguments : List (AnnotationArgument AnnotationValue)} {site : Option UseSite} :
      Mentions t (.nested ⟨t, arguments, site⟩)
  | argument {inner : AnnotationOf AnnotationValue} {a : AnnotationArgument AnnotationValue}
      (ha : a ∈ inner.arguments) (h : Mentions t a.value) : Mentions t (.nested inner)
  | element {values : List AnnotationValue} {v : AnnotationValue} (hv : v ∈ values)
      (h : Mentions t v) : Mentions t (.array values)

/-- The type stands in the annotation. -/
def AnnotationOf.Mentions (t : TypeExpr) (a : Annotation) : Prop :=
  a.type = t ∨ ∃ argument ∈ a.arguments, argument.value.Mentions t

/-! ### Expressions and statements -/

/-- The type stands in the expression. -/
inductive Expr.Mentions (t : TypeExpr) : Expr → Prop
  | type : Mentions t (.type t)
  | receiver {receiver : Expr} {name : String} {safe : Bool} (h : Mentions t receiver) :
      Mentions t (.member receiver name safe)
  | callee {callee : Expr} {types : List TypeExpr} {arguments : List (Argument Expr)}
      (h : Mentions t callee) : Mentions t (.call callee types arguments)
  | typeArgument {callee : Expr} {types : List TypeExpr} {arguments : List (Argument Expr)}
      (h : t ∈ types) : Mentions t (.call callee types arguments)
  | argument {callee : Expr} {types : List TypeExpr} {arguments : List (Argument Expr)}
      {a : Argument Expr} (ha : a ∈ arguments) (h : Mentions t a.value) :
      Mentions t (.call callee types arguments)
  | piece {pieces : List (Piece Expr)} {e : Expr} (he : .value e ∈ pieces) (h : Mentions t e) :
      Mentions t (.template pieces)

/-- The type stands in the statement. -/
inductive Stmt.Mentions (t : TypeExpr) : Stmt → Prop
  | val {name : String} {value : Expr} (h : value.Mentions t) : Mentions t (.val name value)
  | expr {value : Expr} (h : value.Mentions t) : Mentions t (.expr value)
  | target {target value : Expr} (h : target.Mentions t) : Mentions t (.assign target value)
  | value {target value : Expr} (h : value.Mentions t) : Mentions t (.assign target value)
  | ret {value : Expr} (h : value.Mentions t) : Mentions t (.ret (some value))

/-! ### Members -/

/-- The type stands in the parameter. -/
inductive Parameter.Mentions (t : TypeExpr) (p : Parameter) : Prop
  | mark {a : Annotation} (ha : a ∈ p.annotations) (h : a.Mentions t)
  | type (h : p.type = t)
  | default {value : Expr} (hvalue : p.default = some value) (h : value.Mentions t)

/-- The type stands in the property. -/
inductive Property.Mentions (t : TypeExpr) (p : Property) : Prop
  | mark {a : Annotation} (ha : a ∈ p.annotations) (h : a.Mentions t)
  | type (h : p.type = t)
  | initializer {value : Expr} (hvalue : p.initializer = some value) (h : value.Mentions t)
  | getter {body : List Stmt} {s : Stmt} (hbody : p.getter = some body) (hs : s ∈ body)
      (h : s.Mentions t)
  | setter {body : List Stmt} {s : Stmt} (hbody : p.setter = some body) (hs : s ∈ body)
      (h : s.Mentions t)

/-- The type stands in the function. -/
inductive Function.Mentions (t : TypeExpr) (f : Function) : Prop
  | mark {a : Annotation} (ha : a ∈ f.annotations) (h : a.Mentions t)
  | bound {v : TypeVariable} (hv : v ∈ f.typeVariables) (h : t ∈ v.bounds)
  | receiver (h : f.receiver = some t)
  | parameter {p : Parameter} (hp : p ∈ f.parameters) (h : p.Mentions t)
  | returns (h : f.returns = some t)
  | statement {s : Stmt} (hs : s ∈ f.body) (h : s.Mentions t)

/-- The type stands in the class. -/
inductive Class.Mentions (t : TypeExpr) (c : Class) : Prop
  | mark {a : Annotation} (ha : a ∈ c.annotations) (h : a.Mentions t)
  | bound {v : TypeVariable} (hv : v ∈ c.typeVariables) (h : t ∈ v.bounds)
  | parameter {p : Parameter} (hp : p ∈ c.parameters) (h : p.Mentions t)
  | supertype {s : Supertype} (hs : s ∈ c.supertypes) (h : s.type = t)
  | property {p : Property} (hp : p ∈ c.properties) (h : p.Mentions t)
  | function {f : Function} (hf : f ∈ c.functions) (h : f.Mentions t)

/-! ### Files -/

/-- The type stands in the declaration at the top level. -/
def TopLevel.Mentions (t : TypeExpr) : TopLevel → Prop
  | .ofClass c => c.Mentions t
  | .ofFunction f => f.Mentions t
  | .ofProperty p => p.Mentions t

/-- The type stands in the file. -/
inductive File.Mentions (t : TypeExpr) (f : File) : Prop
  | mark {a : Annotation} (ha : a ∈ f.annotations) (h : a.Mentions t)
  | member {m : TopLevel} (hm : m ∈ f.members) (h : m.Mentions t)

/-- The type stands in the file, or is a part of one that does. -/
def File.HasType (f : File) (t : TypeExpr) : Prop :=
  ∃ whole, f.Mentions whole ∧ whole.HasPart t

/-! ### Types in bodies -/

section bodies
variable {t : TypeExpr}

@[simp] theorem Expr.not_mentions_name {n : String} : ¬(Expr.name n).Mentions t := by
  rintro ⟨⟩

@[simp] theorem Expr.not_mentions_this : ¬Expr.this.Mentions t := by
  rintro ⟨⟩

@[simp] theorem Expr.mentions_type_iff {t' : TypeExpr} : (Expr.type t').Mentions t ↔ t' = t := by
  constructor
  · rintro ⟨⟩
    rfl
  · rintro rfl
    exact .type

@[simp] theorem Expr.mentions_member_iff {receiver : Expr} {n : String} {safe : Bool} :
    (Expr.member receiver n safe).Mentions t ↔ receiver.Mentions t := by
  constructor
  · intro h
    cases h with
    | receiver h => exact h
  · exact .receiver

@[simp] theorem Expr.mentions_call_iff {callee : Expr} {types : List TypeExpr}
    {arguments : List (Argument Expr)} :
    (Expr.call callee types arguments).Mentions t ↔
      callee.Mentions t ∨ t ∈ types ∨ ∃ a ∈ arguments, a.value.Mentions t := by
  constructor
  · intro h
    cases h with
    | callee h => exact .inl h
    | typeArgument h => exact .inr (.inl h)
    | argument ha h => exact .inr (.inr ⟨_, ha, h⟩)
  · rintro (h | h | ⟨a, ha, h⟩)
    · exact .callee h
    · exact .typeArgument h
    · exact .argument ha h

@[simp] theorem Expr.mentions_template_iff {pieces : List (Piece Expr)} :
    (Expr.template pieces).Mentions t ↔ ∃ e, .value e ∈ pieces ∧ e.Mentions t := by
  constructor
  · intro h
    cases h with
    | piece he h => exact ⟨_, he, h⟩
  · rintro ⟨e, he, h⟩
    exact .piece he h

@[simp] theorem Stmt.mentions_val_iff {n : String} {value : Expr} :
    (Stmt.val n value).Mentions t ↔ value.Mentions t := by
  constructor
  · intro h
    cases h with
    | val h => exact h
  · exact .val

@[simp] theorem Stmt.mentions_expr_iff {value : Expr} :
    (Stmt.expr value).Mentions t ↔ value.Mentions t := by
  constructor
  · intro h
    cases h with
    | expr h => exact h
  · exact .expr

@[simp] theorem Stmt.mentions_assign_iff {target value : Expr} :
    (Stmt.assign target value).Mentions t ↔ target.Mentions t ∨ value.Mentions t := by
  constructor
  · intro h
    cases h with
    | target h => exact .inl h
    | value h => exact .inr h
  · rintro (h | h)
    · exact .target h
    · exact .value h

@[simp] theorem Stmt.mentions_ret_iff {value : Expr} :
    (Stmt.ret (some value)).Mentions t ↔ value.Mentions t := by
  constructor
  · intro h
    cases h with
    | ret h => exact h
  · exact .ret

end bodies

end CompanionSource.Source
