import CompanionSource.Proofs.Source.Template
import CompanionSource.Source.Member

/-! # Running generated code

    What the body of a generated function or accessor does when it runs, as the program around it
    sees it:

    - A body runs in a **scope**.  A bare name means the innermost thing of that name: a local
      value, then a parameter, then a field of the instance, then another member of the instance,
      and only then something declared outside.
    - What leaves the body are **events**: calls, reads and writes of members of other objects,
      and calls of what is declared outside.
    - The **world** answers each event.  Its answer may depend on everything that happened
      before.

    A local value, a parameter or a field is looked up without an event, and so is the list of
    the elements of an array. -/

namespace CompanionSource.Execution

open Source (Argument Expr Piece Stmt Template)

/-! ### Values and events -/

/-- A value, over the objects `α` of the program that the generated code is a part of. -/
inductive Value (α : Type) where
  /-- An object of the program. -/
  | object (o : α)
  /-- The instance that `this` refers to. -/
  | self
  /-- A text. -/
  | text (content : String)
  /-- The array that a parameter holds which takes any number of arguments. -/
  | array (elements : List α)
  /-- A list of objects. -/
  | list (elements : List α)
  /-- No object. -/
  | null
  deriving DecidableEq, Repr

/-- What an expression refers to, before it is read, assigned or called. -/
inductive Reference (α : Type) where
  /-- A value. -/
  | value (v : Value α)
  /-- A member of a value. -/
  | member (receiver : Value α) (name : String)
  /-- A type.  To call it is to call its constructor. -/
  | type (type : TypeExpr)
  /-- Something declared outside, by its dotted name. -/
  | outside (path : List String)
  /-- A member of null, reached by a safe access. -/
  | absent

/-- Something that happens between the body and the program around it. -/
inductive Event (α : Type) where
  /-- A call. -/
  | call (callee : Reference α) (types : List TypeExpr) (arguments : List (Argument (Value α)))
  /-- A read. -/
  | read (place : Reference α)
  /-- A write. -/
  | write (place : Reference α) (value : Value α)

/-- The event is a call. -/
def Event.isCall {α : Type} : Event α → Bool
  | .call .. => true
  | _ => false

/-- The program around the generated code. -/
structure World (α : Type) where
  /-- What comes back from an event, given the events before it. -/
  reply : List (Event α) → Event α → Value α
  /-- The text that a value has in a string template. -/
  shown : Value α → String

/-- A computation that appends to the events so far. -/
abbrev Run (α β : Type) : Type := StateM (List (Event α)) β

/-- The event happens, and the world answers it. -/
def World.perform {α : Type} (world : World α) (e : Event α) : Run α (Value α) :=
  fun history => (world.reply history e, history ++ [e])

/-! ### Scopes -/

/-- What names mean in a body. -/
structure Scope (α : Type) where
  /-- The local values, innermost first. -/
  locals : List (String × Value α) := []
  /-- The parameters. -/
  parameters : List (String × Value α) := []
  /-- The fields of the instance that can be read here. -/
  fields : String → Option (Value α) := fun _ => none
  /-- The names of the other members of the instance. -/
  members : List String := []

namespace Scope

variable {α : Type}

/-- The value of a name: of a local value, else of a parameter, else of a field. -/
def lookup (s : Scope α) (name : String) : Option (Value α) :=
  ((s.locals.lookup name).or (s.parameters.lookup name)).or (s.fields name)

/-- What a bare name refers to. -/
def find (s : Scope α) (name : String) : Reference α :=
  match s.lookup name with
  | some v => .value v
  | none => if s.members.contains name then .member .self name else .outside [name]

/-- The scope with one more local value. -/
def declare (s : Scope α) (name : String) (v : Value α) : Scope α :=
  { s with locals := (name, v) :: s.locals }

end Scope

/-! ### Expressions -/

variable {α : Type}

/-- The value of what an expression refers to. -/
def read (world : World α) (s : Scope α) : Reference α → Run α (Value α)
  | .value v => pure v
  | .absent => pure .null
  | .member .self name =>
    match s.fields name with
    | some v => pure v
    | none => world.perform (.read (.member .self name))
  | place => world.perform (.read place)

/-- The member `name` of a value. -/
def memberOf (v : Value α) (name : String) (safe : Bool) : Reference α :=
  match v with
  | .null => if safe then .absent else .member .null name
  | v => .member v name

/-- A call with these arguments.  The list of the elements of an array is known without the
    world. -/
def call (world : World α) (callee : Reference α) (types : List TypeExpr)
    (arguments : List (Argument (Value α))) : Run α (Value α) :=
  match callee with
  | .absent => pure .null
  | .member (.array xs) name =>
    if name = "toList" ∧ arguments.isEmpty then pure (.list xs)
    else world.perform (.call callee types arguments)
  | callee => world.perform (.call callee types arguments)

mutual

/-- What an expression refers to.  Its parts are evaluated from left to right. -/
def refer (world : World α) (s : Scope α) : Expr → Run α (Reference α)
  | .name n => pure (s.find n)
  | .type t => pure (.type t)
  | .this => pure (.value .self)
  | .member receiver n safe => do
    match ← refer world s receiver with
    | .outside path => pure (.outside (path ++ [n]))
    | place => do
      let v ← read world s place
      pure (memberOf v n safe)
  | .call callee types arguments => do
    match ← refer world s callee with
    | .absent => pure (.value .null)
    | place => do
      let given ← passings world s arguments
      let v ← call world place types given
      pure (.value v)
  | .template pieces => do
    let texts ← renderings world s pieces
    pure (.value (.text (String.join texts)))

/-- The values of arguments. -/
def passings (world : World α) (s : Scope α) :
    List (Argument Expr) → Run α (List (Argument (Value α)))
  | [] => pure []
  | a :: as => do
    let v ← passing world s a
    let vs ← passings world s as
    pure (v :: vs)

/-- The value of one argument. -/
def passing (world : World α) (s : Scope α) : Argument Expr → Run α (Argument (Value α))
  | ⟨label, spread, value⟩ => do
    let place ← refer world s value
    let v ← read world s place
    pure ⟨label, spread, v⟩

/-- The texts of the pieces of a template. -/
def renderings (world : World α) (s : Scope α) : List (Piece Expr) → Run α (List String)
  | [] => pure []
  | p :: ps => do
    let t ← rendering world s p
    let ts ← renderings world s ps
    pure (t :: ts)

/-- The text of one piece. -/
def rendering (world : World α) (s : Scope α) : Piece Expr → Run α String
  | .literal text => pure text
  | .value expr => do
    let place ← refer world s expr
    let v ← read world s place
    pure (world.shown v)

end

/-- The value of an expression. -/
def eval (world : World α) (s : Scope α) (e : Expr) : Run α (Value α) := do
  let place ← refer world s e
  read world s place

/-! ### Bodies -/

/-- The statements run in order, up to the first that returns.  The result is the value that is
    returned, if there is one. -/
def execute (world : World α) : Scope α → List Stmt → Run α (Option (Value α))
  | _, [] => pure none
  | s, .val name e :: rest => do
    let v ← eval world s e
    execute world (s.declare name v) rest
  | s, .expr e :: rest => do
    let _ ← eval world s e
    execute world s rest
  | s, .assign target e :: rest => do
    let place ← refer world s target
    let v ← eval world s e
    let _ ← world.perform (.write place v)
    execute world s rest
  | s, .ret (some e) :: _ => do
    let v ← eval world s e
    pure (some v)
  | _, .ret none :: _ => pure none

/-! ### Functions -/

/-- A call of a member function with all its arguments, on an instance with these fields and
    other members. -/
def invoke (world : World α) (fields : String → Option (Value α)) (members : List String)
    (f : Source.Function) (given : List (Value α)) : Run α (Option (Value α)) :=
  execute world { parameters := (f.parameters.map (·.name)).zip given, fields, members } f.body

/-- The parameters take the values given for them, and otherwise those of their defaults.  A
    default sees the parameters before it.  A parameter without either stays unbound. -/
def supply (world : World α) (given : String → Option (Value α)) :
    Scope α → List Source.Parameter → Run α (Scope α)
  | s, [] => pure s
  | s, p :: ps =>
    match given p.name, p.default with
    | some v, _ => supply world given { s with parameters := s.parameters ++ [(p.name, v)] } ps
    | none, some e => do
      let v ← eval world s e
      supply world given { s with parameters := s.parameters ++ [(p.name, v)] } ps
    | none, none => supply world given s ps

/-- A call of an extension function with named arguments, on a receiver with these fields. -/
def extend (world : World α) (fields : String → Option (Value α)) (f : Source.Function)
    (given : String → Option (Value α)) : Run α (Option (Value α)) := do
  let s ← supply world given { fields } f.parameters
  execute world s f.body

/-! ### Evaluation without events

    Most parts of generated bodies only look values up: they evaluate to a value, and nothing
    happens outside. -/

section quiet
variable (world : World α) (s : Scope α)

theorem find_of_lookup {n : String} {v : Value α} (h : s.lookup n = some v) :
    s.find n = .value v := by
  simp [Scope.find, h]

theorem refer_name {n : String} {v : Value α} (h : s.lookup n = some v) :
    refer world s (.name n) = pure (.value v) := by
  rw [refer, find_of_lookup s h]

theorem eval_name {n : String} {v : Value α} (h : s.lookup n = some v) :
    eval world s (.name n) = pure v := by
  rw [eval, refer_name world s h, pure_bind]
  rfl

/-- The member of a value that is at hand is not read yet. -/
theorem refer_dot {e : Expr} {place : Reference α} {v : Value α} (n : String)
    (hplace : refer world s e = pure place) (hinside : ∀ path, place ≠ .outside path)
    (hread : read world s place = pure v) :
    refer world s (Expr.dot e n) = pure (memberOf v n false) := by
  rw [Expr.dot, refer, hplace, pure_bind]
  cases place with
  | outside path => exact absurd rfl (hinside path)
  | _ => simp only [hread, pure_bind]

/-- What is declared outside is not read on the way to what lies in it. -/
theorem refer_dot_outside {e : Expr} {path : List String} (n : String)
    (hplace : refer world s e = pure (.outside path)) :
    refer world s (Expr.dot e n) = pure (.outside (path ++ [n])) := by
  rw [Expr.dot, refer, hplace, pure_bind]

/-- A field is found behind `this`, whatever else its name means. -/
theorem read_this_dot {n : String} {v : Value α} (h : s.fields n = some v) :
    refer world s (Expr.dot .this n) = pure (.member .self n) ∧
      read world s (.member .self n) = pure v := by
  have hthis : refer world s .this = pure (.value .self) := rfl
  constructor
  · exact refer_dot world s n hthis (fun _ => nofun) rfl
  · simp [read, h]

theorem eval_this_dot {n : String} {v : Value α} (h : s.fields n = some v) :
    eval world s (Expr.dot .this n) = pure v := by
  obtain ⟨hplace, hread⟩ := read_this_dot world s h
  rw [eval, hplace, pure_bind, hread]

/-- The elements of an array are listed without the world. -/
theorem eval_toList {e : Expr} {xs : List α} (hplace : refer world s e = pure (.value (.array xs))) :
    eval world s ((Expr.dot e "toList").apply []) = pure (.list xs) := by
  have hcallee : refer world s (Expr.dot e "toList") = pure (.member (.array xs) "toList") :=
    refer_dot world s "toList" hplace (fun _ => nofun) rfl
  rw [eval, Expr.apply, refer, hcallee]
  simp [passings, call, read]

theorem passing_of_eval {e : Expr} {v : Value α} (label : Option String) (spread : Bool)
    (h : eval world s e = pure v) :
    passing world s ⟨label, spread, e⟩ = pure ⟨label, spread, v⟩ := by
  have hpassing : passing world s ⟨label, spread, e⟩ =
      (do let v ← eval world s e; pure ⟨label, spread, v⟩) := by
    simp [passing, eval]
  rw [hpassing, h, pure_bind]

end quiet

/-! ### Texts of templates -/

section texts
variable (world : World α) (s : Scope α)

/-- The text that a template comes to. -/
def textOf (t : List (Piece Expr)) : Run α String := do
  let texts ← renderings world s t
  pure (String.join texts)

theorem textOf_nil : textOf world s [] = pure "" := by
  simp [textOf, renderings, String.join]

theorem textOf_cons (p : Piece Expr) (t : List (Piece Expr)) :
    textOf world s (p :: t) =
      (do let a ← rendering world s p; let b ← textOf world s t; pure (a ++ b)) := by
  simp only [textOf, renderings, bind_assoc, pure_bind, String.join_cons]

theorem textOf_append (t u : List (Piece Expr)) :
    textOf world s (t ++ u) =
      (do let a ← textOf world s t; let b ← textOf world s u; pure (a ++ b)) := by
  induction t with
  | nil => simp only [List.nil_append, textOf_nil, pure_bind, String.empty_append, bind_pure]
  | cons p t ih =>
    rw [List.cons_append, textOf_cons, ih, textOf_cons]
    simp only [bind_assoc, pure_bind, String.append_assoc]

theorem textOf_literal (text : String) : textOf world s [.literal text] = pure text := by
  simp [textOf_cons, textOf_nil, rendering]

theorem rendering_value (e : Expr) :
    rendering world s (.value e) = (do let v ← eval world s e; pure (world.shown v)) := by
  simp [rendering, eval]

theorem textOf_value {e : Expr} {v : Value α} (h : eval world s e = pure v) :
    textOf world s [.value e] = pure (world.shown v) := by
  rw [textOf_cons, rendering_value, h, pure_bind, pure_bind, textOf_nil, pure_bind,
    String.append_empty]

theorem textOf_append_of_pure {t u : List (Piece Expr)} {a b : String}
    (ht : textOf world s t = pure a) (hu : textOf world s u = pure b) :
    textOf world s (t ++ u) = pure (a ++ b) := by
  rw [textOf_append, ht, pure_bind, hu, pure_bind]

theorem textOf_add (t : Template) (p : Piece Expr) :
    textOf world s (t.add p) = textOf world s (t ++ [p]) := by
  have hadds := Source.adds_add t p
  generalize t.add p = t' at hadds
  cases hadds with
  | empty =>
    rw [textOf_append, textOf_literal]
    simp
  | joins hlast =>
    rw [hlast]
    simp only [textOf_append, textOf_literal, bind_assoc, pure_bind, String.append_assoc]
  | ends => rfl

/-- To join literal texts and to leave empty ones out does not change the text. -/
theorem textOf_ofPieces (ps : List (Piece Expr)) :
    textOf world s (Template.ofPieces ps) = textOf world s ps := by
  induction ps using List.reverseRecOn with
  | nil => rfl
  | append_singleton ps p ih => rw [Source.ofPieces_concat, textOf_add, textOf_append, ih, ← textOf_append]

theorem refer_template (t : Template) :
    refer world s (.template t) =
      (do let text ← textOf world s t; pure (.value (.text text))) := by
  simp [refer, textOf]

theorem eval_template {t : Template} {text : String} (h : textOf world s t = pure text) :
    eval world s (.template t) = pure (.text text) := by
  rw [eval, refer_template, h, pure_bind, pure_bind]
  rfl

end texts

end CompanionSource.Execution
