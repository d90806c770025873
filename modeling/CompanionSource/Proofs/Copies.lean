import CompanionSource.Proofs.Arguments
import CompanionSource.Proofs.Eligibility
import CompanionSource.Proofs.Snapshot.Soundness
import CompanionSource.Synthesis.Copy
import Mathlib.Logic.Function.Basic

/-! # Copies construct

    A copy of an instance is one call of the constructor of its class.  Whatever arguments are
    given, each parameter of the constructor receives

    - the value **given** for it, if there is one;
    - the **field** of the instance that has its name otherwise.

    A parameter can be left out exactly if its field is exposed.  If all fields are exposed, a copy
    without arguments passes on every field, and a copy with one argument differs in that field
    only. -/

namespace CompanionSource.Execution

open Source (Argument)
open Synthesis (passed)

variable {α : Type}

/-! ### Arguments and defaults -/

/-- The parameter takes the value: it is given, or else it is that of the default, wherever the
    fields of the receiver can be read. -/
def Takes (world : World α) (fields : String → Option (Value α))
    (given : String → Option (Value α)) (p : Source.Parameter) (v : Value α) : Prop :=
  given p.name = some v ∨
    given p.name = none ∧ ∃ e, p.default = some e ∧
      ∀ s : Scope α, s.fields = fields → eval world s e = pure v

/-- Parameters that take a value are bound to it, in their order and without an event. -/
theorem supply_of_takes (world : World α) {given : String → Option (Value α)} {s : Scope α}
    {ps : List Source.Parameter} {vs : List (Value α)}
    (h : List.Forall₂ (Takes world s.fields given) ps vs) :
    supply world given s ps =
      pure { s with parameters := s.parameters ++ (ps.map (·.name)).zip vs } := by
  induction ps generalizing s vs with
  | nil =>
    rw [List.forall₂_nil_left_iff.mp h, supply, List.map_nil, List.zip_nil_left, List.append_nil]
  | cons p ps ih =>
    obtain ⟨v, vs, hp, hps, rfl⟩ := List.forall₂_cons_left_iff.mp h
    -- The parameter is bound first, and the others in the scope that has it.
    have hrest := ih (s := { s with parameters := s.parameters ++ [(p.name, v)] }) hps
    rw [List.append_assoc] at hrest
    rw [supply]
    rcases hp with hgiven | ⟨hgiven, e, hdefault, he⟩
    · rw [hgiven]
      exact hrest
    · rw [hgiven, hdefault]
      simp only [he s rfl, pure_bind]
      exact hrest

end CompanionSource.Execution

namespace CompanionSource.Synthesis

open Execution
open Source (Argument Expr)

variable {α : Type}

/-! ### What a copy does -/

/-- The call of the constructor of a declaration, with its type parameters as type arguments and
    one argument for each parameter.  An argument for any number of them is spread. -/
def constructorCall (d : Declaration) (ps : List Declared.ConstructorParameter)
    (value : String → Value α) : Event α :=
  .call (.type (.named d.typePath)) (d.typeParameters.map fun v => .named v.name)
    (ps.map fun p => { spread := p.vararg, value := value p.name })

/-- A call of the extension function on a receiver with these fields and with these arguments is
    the event, nothing else, and returns what comes back from it. -/
def CallsOnly (world : World α) (f : Source.Function) (fields given : String → Option (Value α))
    (e : Event α) : Prop :=
  ∀ before, (extend world fields f given).run before =
    (some (world.reply before e), before ++ [e])

/-- The exposed fields of the instance `x` can be read. -/
def Exposes (fields : String → Option (Value α)) (ps : List Declared.ConstructorParameter)
    (x : String → Value α) : Prop :=
  ∀ p ∈ ps, p.isExposed = true → fields p.name = some (x p.name)

/-- There is an argument for each parameter without a default. -/
def Suffices (given : String → Option (Value α)) (f : Source.Function) : Prop :=
  ∀ q ∈ f.parameters, q.default = none → (given q.name).isSome = true

/-! ### The function -/

/-- The function that copies instances of a declaration with these fields. -/
def copyFunction (ctx : Context) (d : Declaration) (ts : List TypedParameter) : Source.Function :=
  { name := copyName
    annotations := [ctx.provenance.mark]
    typeVariables := d.typeParameters
    receiver := some d.declaredType
    parameters := ts.map copyParameter
    returns := some d.declaredType
    body := [.ret (some (construction d ts))] }

theorem copy_eq_ok_iff {ctx : Context} {d : Declaration} {g : Generated Source.Function} :
    copy ctx d = .ok g ↔
      ∃ ts, constructorFields .copy d = .ok ts ∧ g = { item := copyFunction ctx d ts } := by
  unfold copy
  cases constructorFields .copy d with
  | error e => simp
  | ok ts => simp [copyFunction, eq_comm]

/-- A parameter has a default exactly if its field is exposed. -/
theorem default_copyParameter_eq_none_iff {t : TypedParameter} :
    (copyParameter t).default = none ↔ t.parameter.isExposed = false := by
  unfold copyParameter
  cases t.parameter.isExposed <;> simp

section function
variable (world : World α) {fields given : String → Option (Value α)} {x : String → Value α}

theorem takes_copyParameter {t : TypedParameter}
    (hfield : t.parameter.isExposed = true → fields t.parameter.name = some (x t.parameter.name))
    (hgiven : (copyParameter t).default = none → (given t.parameter.name).isSome = true) :
    Takes world fields given (copyParameter t)
      ((given t.parameter.name).getD (x t.parameter.name)) := by
  cases hvalue : given t.parameter.name with
  | some v => exact Or.inl hvalue
  | none =>
    -- Nothing is given, so there is a default, and it reads the field.
    have hexposed : t.parameter.isExposed = true := by
      by_contra hhidden
      rw [Bool.not_eq_true, ← default_copyParameter_eq_none_iff] at hhidden
      have hsome := hgiven hhidden
      rw [hvalue] at hsome
      cases hsome
    refine Or.inr ⟨hvalue, Expr.dot .this t.parameter.name, if_pos hexposed, ?_⟩
    rintro s rfl
    exact eval_this_dot world s (hfield hexposed)

theorem eval_construction (d : Declaration) {ts : List TypedParameter} {s : Scope α}
    {value : String → Value α}
    (h : ∀ t ∈ ts, s.lookup t.parameter.name = some (value t.parameter.name)) :
    eval world s (construction d ts) =
      world.perform (constructorCall d (ts.map (·.parameter)) value) := by
  have hgiven : passings world s
        (ts.map fun t => passed t.parameter.name t.parameter.vararg) =
      pure (ts.map fun t =>
        { spread := t.parameter.vararg, value := value t.parameter.name }) := by
    have hbound : List.Forall₂ (fun p v => s.lookup p.1 = some v)
        (ts.map fun t => (t.parameter.name, t.parameter.vararg))
        (ts.map fun t => value t.parameter.name) := by
      rw [List.forall₂_map_left_iff, List.forall₂_map_right_iff, List.forall₂_same]
      exact h
    have hpassed := passings_passed world hbound
    rw [List.map_map, handedOn, List.zipWith_map, List.zipWith_self] at hpassed
    exact hpassed
  rw [eval, construction, refer, refer, pure_bind, constructorCall, List.map_map]
  simp only [hgiven, pure_bind, bind_assoc]
  exact bind_pure _

/-- A call of the function constructs with what is given, and with the fields of the receiver for
    the rest. -/
theorem callsOnly_copyFunction (ctx : Context) (d : Declaration) {ts : List TypedParameter}
    (hnames : (ts.map fun t => t.parameter.name).Nodup)
    (hfields : Exposes fields (ts.map (·.parameter)) x)
    (hgiven : Suffices given (copyFunction ctx d ts)) :
    CallsOnly world (copyFunction ctx d ts) fields given
      (constructorCall d (ts.map (·.parameter)) fun n => (given n).getD (x n)) := by
  intro before
  -- What each parameter is worth: what is given for it, or else the field.
  let value : String → Value α := fun n => (given n).getD (x n)
  -- The scope of the body, with every parameter bound to its value.
  let s : Scope α :=
    { parameters := ts.map fun t => (t.parameter.name, value t.parameter.name), fields }
  have hsupply : supply world given { fields } (ts.map copyParameter) = pure s := by
    have htakes : List.Forall₂ (Takes world fields given) (ts.map copyParameter)
        (ts.map fun t => value t.parameter.name) := by
      rw [List.forall₂_map_left_iff, List.forall₂_map_right_iff, List.forall₂_same]
      intro t ht
      exact takes_copyParameter world (hfields t.parameter (List.mem_map_of_mem ht))
        (hgiven (copyParameter t) (List.mem_map_of_mem ht))
    rw [supply_of_takes world htakes, List.map_map, List.zip_map']
    rfl
  have hlookup : ∀ t ∈ ts, s.lookup t.parameter.name = some (value t.parameter.name) := by
    intro t ht
    have hkeys : (s.parameters.map Prod.fst).Nodup := by
      rw [List.map_map]
      exact hnames
    have hentry : (t.parameter.name, value t.parameter.name) ∈ s.parameters :=
      List.mem_map_of_mem ht
    rw [Scope.lookup, lookup_of_mem hkeys hentry]
    rfl
  have hcall := eval_construction world d hlookup
  unfold extend
  rw [copyFunction, hsupply, pure_bind, execute, hcall]
  rfl

end function

/-! ### Copies -/

/-- **Copies.**  The copy of a declaration in a snapshot has a default for each parameter of which
    the field is exposed.  Whatever else is given, it calls the constructor once, with what is
    given and with the fields of the receiver for the rest. -/
theorem copy_constructs (world : World α) {ctx : Context} {d : Declaration}
    {g : Generated Source.Function} (hd : d ∈ ctx.snapshot.declarations) (h : copy ctx d = .ok g) :
    ∃ ps, d.constructor? = some ps ∧
      List.Forall₂ (fun p q => q.name = p.name ∧ (q.default = none ↔ p.isExposed = false))
        ps g.item.parameters ∧
      ∀ fields x, Exposes fields ps x →
        (∀ given, Suffices given g.item →
          CallsOnly world g.item fields given
            (constructorCall d ps fun n => (given n).getD (x n))) ∧
        ((∀ p ∈ ps, p.isExposed = true) →
          CallsOnly world g.item fields (fun _ => none) (constructorCall d ps x) ∧
          ∀ f v, CallsOnly world g.item fields (fun n => if n = f then some v else none)
            (constructorCall d ps (Function.update x f v))) := by
  obtain ⟨ts, hts, rfl⟩ := copy_eq_ok_iff.mp h
  have hps := constructor?_of_constructorFields hts
  -- The snapshot has been checked, so no two parameters have the same name.
  have hnames : (ts.map fun t => t.parameter.name).Nodup := by
    have hdistinct := (Snapshot.soundParameters_of_constructor ctx.snapshot hd hps).distinct
    rw [List.map_map, List.map_map] at hdistinct
    exact hdistinct
  refine ⟨ts.map (·.parameter), hps, ?_, ?_⟩
  · rw [copyFunction, List.forall₂_map_left_iff, List.forall₂_map_right_iff, List.forall₂_same]
    exact fun t _ => ⟨rfl, default_copyParameter_eq_none_iff⟩
  · intro fields x hfields
    refine ⟨fun given hgiven => callsOnly_copyFunction world ctx d hnames hfields hgiven, ?_⟩
    intro hexposed
    -- Every parameter has a default, so any arguments will do.
    have hsuffices : ∀ given : String → Option (Value α), Suffices given (copyFunction ctx d ts) := by
      intro given q hq hnone
      obtain ⟨t, ht, rfl⟩ := List.mem_map.mp hq
      rw [default_copyParameter_eq_none_iff, hexposed t.parameter (List.mem_map_of_mem ht)] at hnone
      cases hnone
    refine ⟨callsOnly_copyFunction world ctx d hnames hfields (hsuffices _), ?_⟩
    intro f v
    have hupdate : Function.update x f v = fun n => (if n = f then some v else none).getD (x n) := by
      funext n
      by_cases hn : n = f <;> simp [hn]
    rw [hupdate]
    exact callsOnly_copyFunction world ctx d hnames hfields (hsuffices _)

/-- A class with an exposed field, a private one that has to be given, and any number of arguments
    behind them. -/
theorem copy_constructs_hidden :
    let int : Declared.TypeRef := .resolved (.named "Int")
    let ps : List Declared.ConstructorParameter :=
      [{ name := "size", type := int, binding := .val },
        { name := "key", type := int, binding := .val, visibility := .private_ },
        { name := "rest", type := int, binding := .var, vararg := true }]
    let d : Declaration :=
      { name := "a.Box"
        kind := .class_
        typeParameters := [{ name := "T" }]
        constructor? := some ps }
    let ctx : Context := .of ⟨[d], by decide⟩ {} .newYear2024
    let world : World String := { reply := fun _ _ => .object "copy", shown := fun _ => "" }
    let fields : String → Option (Value String) := fun n =>
      if n = "size" then some (.object "3")
      else if n = "rest" then some (.array ["4", "5"]) else none
    let given : String → Option (Value String) := fun n =>
      if n = "key" then some (.object "7") else none
    ∃ g, d ∈ ctx.snapshot.declarations ∧ copy ctx d = .ok g ∧ Suffices given g.item ∧
      (extend world fields g.item given).run [] =
        (some (.object "copy"),
          [.call (.type (.named "Box")) [.named "T"]
              [{ value := .object "3" }, { value := .object "7" },
                { spread := true, value := .array ["4", "5"] }]]) := by
  intro int ps d ctx world fields given
  have hd : d ∈ ctx.snapshot.declarations := List.mem_singleton.mpr rfl
  let ts : List TypedParameter := ps.map fun p => ⟨p, .named "Int"⟩
  have hg : copy ctx d = .ok { item := copyFunction ctx d ts } := rfl
  have hsuffices : Suffices given (copyFunction ctx d ts) := by
    unfold Suffices
    decide
  refine ⟨_, hd, hg, hsuffices, ?_⟩
  obtain ⟨qs, hqs, -, hcopy⟩ := copy_constructs world hd hg
  have hps : qs = ps := (Option.some.inj hqs).symm
  rw [hps] at hcopy
  let x : String → Value String := fun n => (fields n).getD .null
  have hexposes : Exposes fields ps x := by
    unfold Exposes
    decide
  have hrun := (hcopy fields x hexposes).1 given hsuffices []
  have hpath : d.typePath = "Box" := by decide
  rw [constructorCall, hpath] at hrun
  exact hrun

end CompanionSource.Synthesis
