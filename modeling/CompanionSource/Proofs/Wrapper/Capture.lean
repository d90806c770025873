import CompanionSource.Proofs.Wrapper.Forwarding

/-! # Captured log functions

    A log line calls the configured function by its name, from inside a class that has names of
    its own.  The function is **captured** in a body if the first segment of its name is that of a
    parameter or local value of the body, or of a member of the class: the call goes there then.

    - The names of a body and of a class are read off the generated class.  A name that is not
      captured means what is declared outside, in every scope that the body runs in.
    - A declaration **uses** names in its wrapper: those of the overridden members and of their
      parameters, and the names that wrappers bring along.
    - The log function is captured somewhere in the wrapper exactly if its first segment is among
      the names used.  Nothing rules that out: the wrapper of an interface with a function
      `println` calls itself when it logs. -/

namespace CompanionSource.Source

/-! ### Names of a class -/

/-- A body, with the names of its parameters. -/
structure Body where
  /-- The parameters. -/
  parameters : List String
  /-- The statements. -/
  statements : List Stmt

/-- The local values that statements declare. -/
def localNames : List Stmt → List String
  | [] => []
  | .val name _ :: rest => name :: localNames rest
  | _ :: rest => localNames rest

theorem localNames_append (body rest : List Stmt) :
    localNames (body ++ rest) = localNames body ++ localNames rest := by
  induction body with
  | nil => rfl
  | cons first body ih => cases first <;> simp [localNames, ih]

/-- The local values of a body. -/
def Body.locals (b : Body) : List String := localNames b.statements

/-- The accessors of a property.  A setter is handed the new value. -/
def Property.bodies (p : Property) : List Body :=
  (p.getter.map (Body.mk [])).toList ++ (p.setter.map (Body.mk ["value"])).toList

/-- The body of a function. -/
def Function.toBody (f : Function) : Body := ⟨f.parameters.map (·.name), f.body⟩

namespace Class

/-- The members that a class declares outside its constructor, by their names, each with its
    bodies. -/
def members (c : Class) : List (String × List Body) :=
  c.properties.map (fun p => (p.name, p.bodies)) ++ c.functions.map fun f => (f.name, [f.toBody])

/-- The bodies of a class. -/
def bodies (c : Class) : List Body := c.members.flatMap (·.2)

/-- The parameters of the constructor that are fields. -/
def fieldNames (c : Class) : List String :=
  (c.parameters.filter fun p => p.binding.isSome).map (·.name)

/-- The name is that of a parameter or local value of the body, or of a member of the class. -/
def Captures (c : Class) (b : Body) (name : String) : Prop :=
  name ∈ b.parameters ∨ name ∈ b.locals ∨ name ∈ c.fieldNames ∨ name ∈ c.members.map (·.1)

theorem exists_captures_iff {c : Class} {name : String} (hbodies : ∀ m ∈ c.members, m.2 ≠ []) :
    (∃ b ∈ c.bodies, c.Captures b name) ↔
      ∃ m ∈ c.members, name ∈ c.fieldNames ∨ name = m.1 ∨
        ∃ b ∈ m.2, name ∈ b.parameters ∨ name ∈ b.locals := by
  constructor
  · intro h
    obtain ⟨b, hb, hcaptures⟩ := h
    obtain ⟨m, hm, hbm⟩ := List.mem_flatMap.mp hb
    rcases hcaptures with hparameter | hlocal | hfield | hmember
    · exact ⟨m, hm, Or.inr (Or.inr ⟨b, hbm, Or.inl hparameter⟩)⟩
    · exact ⟨m, hm, Or.inr (Or.inr ⟨b, hbm, Or.inr hlocal⟩)⟩
    · exact ⟨m, hm, Or.inl hfield⟩
    · obtain ⟨n, hn, rfl⟩ := List.mem_map.mp hmember
      exact ⟨n, hn, Or.inr (Or.inl rfl)⟩
  · intro hexists
    obtain ⟨m, hm, h⟩ := hexists
    -- Any body of the member will do for the names that all bodies see.
    obtain ⟨b, hb⟩ := List.exists_mem_of_ne_nil m.2 (hbodies m hm)
    have hin : ∀ b ∈ m.2, b ∈ c.bodies := fun b hb => List.mem_flatMap.mpr ⟨m, hm, hb⟩
    rcases h with hfield | rfl | ⟨b, hb, hparameter | hlocal⟩
    · exact ⟨b, hin b hb, Or.inr (Or.inr (Or.inl hfield))⟩
    · exact ⟨b, hin b hb, Or.inr (Or.inr (Or.inr (List.mem_map_of_mem hm)))⟩
    · exact ⟨b, hin b hb, Or.inl hparameter⟩
    · exact ⟨b, hin b hb, Or.inr (Or.inl hlocal)⟩

end Class

end CompanionSource.Source

namespace CompanionSource.Execution

open Source (Body)

/-! ### Scopes of a class -/

variable {α : Type}

/-- A scope in which the body of a class can run, once all its local values are declared. -/
structure Scope.IsOf (s : Scope α) (c : Source.Class) (b : Body) : Prop where
  locals : ∀ n, n ∈ s.locals.map Prod.fst ↔ n ∈ b.locals
  parameters : ∀ n, n ∈ s.parameters.map Prod.fst ↔ n ∈ b.parameters
  fields : ∀ n, (s.fields n).isSome = true ↔ n ∈ c.fieldNames
  members : ∀ n, n ∈ s.members ↔ n ∈ c.members.map (·.1)

theorem lookup_eq_none_iff_not_mem {entries : List (String × Value α)} {name : String} :
    entries.lookup name = none ↔ name ∉ entries.map Prod.fst := by
  rw [List.lookup_eq_none_iff, List.mem_map]
  constructor
  · intro h hmem
    obtain ⟨entry, hentry, rfl⟩ := hmem
    exact absurd rfl (bne_iff_ne.mp (h entry hentry))
  · intro h entry hentry
    rw [bne_iff_ne]
    intro heq
    subst heq
    exact h ⟨entry, hentry, rfl⟩

section names
variable {s : Scope α} {c : Source.Class} {b : Body} {name : String}

theorem lookup_eq_none_iff_of_isOf (h : s.IsOf c b) :
    s.lookup name = none ↔ name ∉ b.locals ∧ name ∉ b.parameters ∧ name ∉ c.fieldNames := by
  rw [Scope.lookup, Option.or_eq_none_iff, Option.or_eq_none_iff, lookup_eq_none_iff_not_mem,
    lookup_eq_none_iff_not_mem, h.locals, h.parameters, ← h.fields, Option.not_isSome_iff_eq_none,
    and_assoc]

/-- A name means what is declared outside exactly if nothing captures it. -/
theorem find_eq_outside_iff (h : s.IsOf c b) :
    s.find name = .outside [name] ↔ ¬c.Captures b name := by
  have hcaptures : c.Captures b name ↔ s.lookup name ≠ none ∨ name ∈ s.members := by
    rw [ne_eq, lookup_eq_none_iff_of_isOf h, h.members, Source.Class.Captures]
    tauto
  rw [hcaptures, Scope.find]
  cases s.lookup name with
  | some v => simp
  | none => by_cases hmember : name ∈ s.members <;> simp [hmember]

/-- The name of a member that nothing in the body hides means this member of the instance. -/
theorem find_eq_member (h : s.IsOf c b) (hmember : name ∈ c.members.map (·.1))
    (hhidden : name ∉ b.locals ∧ name ∉ b.parameters ∧ name ∉ c.fieldNames) :
    s.find name = .member .self name := by
  rw [← lookup_eq_none_iff_of_isOf h] at hhidden
  rw [← h.members] at hmember
  rw [Scope.find, hhidden]
  exact if_pos (List.contains_iff_mem.mpr hmember)

end names

end CompanionSource.Execution

namespace CompanionSource.Synthesis

open Execution
open Traversal
open Source (Body localNames localNames_append)

/-! ### Names that a declaration uses -/

/-- The names that the override of a property uses. -/
def propertyNames (p : Declared.Property) : List String :=
  [delegateField, p.name, resultLocal] ++ if p.mutable then [setterParameter] else []

/-- The names that the override of a function uses. -/
def functionNames (f : Declared.Function) : List String :=
  [delegateField, f.name] ++ f.parameters.map (·.name)
    ++ if returnsValue f then [Wrapper.functionResult f] else []

/-- The names that the members of a wrapper use. -/
def usedNames (d : Declaration) : List String :=
  (overridableProperties d).flatMap propertyNames ++ (overridableFunctions d).flatMap functionNames

namespace Wrapper

variable {w : Wrapper} {n : String}

/-- Log lines declare no local value. -/
theorem localNames_logged (w : Wrapper) (marks : List Declared.Annotation)
    (message : Source.Template) : localNames (w.logged marks message) = [] := by
  unfold logged
  split <;> rfl

theorem localNames_getterBody (w : Wrapper) (p : Declared.Property) :
    localNames (w.getterBody p) = [resultLocal] := by
  rw [getterBody, List.cons_append, localNames, localNames_append, localNames_logged]
  rfl

theorem localNames_setterBody (w : Wrapper) (p : Declared.Property) :
    localNames (w.setterBody p) = [] := by
  unfold setterBody
  simp [localNames, localNames_logged]

theorem localNames_functionBody (w : Wrapper) (f : Declared.Function) :
    localNames (w.functionBody f) = if returnsValue f then [functionResult f] else [] := by
  rw [functionBody, returnsValue_eq_isSome]
  cases returnedType? f <;> simp [localNames, localNames_append, localNames_logged]

/-- The names of a property are those of the field and of its override. -/
theorem mem_propertyNames_iff {p : Declared.Property} {q : Source.Property}
    (h : w.overrideProperty p = .ok q) :
    n ∈ propertyNames p ↔
      n ∈ [delegateField] ∨ n = q.name ∨ ∃ b ∈ q.bodies, n ∈ b.parameters ∨ n ∈ b.locals := by
  obtain ⟨type, -, rfl⟩ := overrideProperty_eq_ok_iff.mp h
  cases hmutable : p.mutable <;>
    simp [propertyNames, Source.Property.bodies, Body.locals, hmutable, localNames_getterBody,
      localNames_setterBody, setterParameter]

/-- The override of a property has a getter at least. -/
theorem bodies_ne_nil_of_overrideProperty {p : Declared.Property} {q : Source.Property}
    (h : w.overrideProperty p = .ok q) : q.bodies ≠ [] := by
  obtain ⟨type, -, rfl⟩ := overrideProperty_eq_ok_iff.mp h
  exact List.cons_ne_nil _ _

/-- The names of a function are those of the field and of its override. -/
theorem mem_functionNames_iff {f : Declared.Function} {g : Source.Function}
    (h : w.overrideFunction f = .ok g) :
    n ∈ functionNames f ↔
      n ∈ [delegateField] ∨ n = g.name ∨
        ∃ b ∈ [g.toBody], n ∈ b.parameters ∨ n ∈ b.locals := by
  have hbody : (∃ b ∈ [g.toBody], n ∈ b.parameters ∨ n ∈ b.locals) ↔
      n ∈ g.toBody.parameters ∨ n ∈ g.toBody.locals := by
    simp only [List.mem_singleton, exists_eq_left]
  have hnames : g.toBody.parameters = f.parameters.map (·.name) := names_of_overrideFunction h
  have hlocals : g.toBody.locals = if returnsValue f then [functionResult f] else [] := by
    obtain ⟨parameters, -, rfl⟩ := overrideFunction_eq_ok_iff.mp h
    exact localNames_functionBody w f
  have hname : g.name = f.name := by
    obtain ⟨parameters, -, rfl⟩ := overrideFunction_eq_ok_iff.mp h
    rfl
  rw [hbody, hname, hnames, hlocals, functionNames]
  simp only [List.mem_append, List.mem_cons, List.not_mem_nil, or_false, or_assoc]

end Wrapper

/-! ### Wrappers -/

section wrappers
variable {ctx : Context} {d : Declaration} {g : Generated Source.Class} {name : String}

theorem bodies_ne_nil_of_wrapper (h : wrapper ctx d = .ok g) : ∀ m ∈ g.item.members, m.2 ≠ [] := by
  obtain ⟨-, -, properties, functions, hps, -, rfl⟩ := wrapper_eq_ok_iff.mp h
  intro m hm
  rcases List.mem_append.mp hm with hproperty | hfunction
  · obtain ⟨q, hq, rfl⟩ := List.mem_map.mp hproperty
    intro hnil
    have hnone : ∀ p q, (Wrapper.of ctx d).overrideProperty p = .ok q → (False ↔ q.bodies = []) :=
      fun _ _ hq => (iff_false_intro (Wrapper.bodies_ne_nil_of_overrideProperty hq)).symm
    obtain ⟨_, _, hfalse⟩ := (exists_mem_iff_of_forall₂ hnone hps).mpr ⟨q, hq, hnil⟩
    exact hfalse
  · obtain ⟨f, -, rfl⟩ := List.mem_map.mp hfunction
    exact List.cons_ne_nil _ _

/-- Some body of the wrapper captures exactly the names that are used. -/
theorem exists_captures_iff_mem_usedNames (h : wrapper ctx d = .ok g) :
    (∃ b ∈ g.item.bodies, g.item.Captures b name) ↔ name ∈ usedNames d := by
  rw [Source.Class.exists_captures_iff (bodies_ne_nil_of_wrapper h)]
  obtain ⟨-, -, properties, functions, hps, hfs, rfl⟩ := wrapper_eq_ok_iff.mp h
  -- The names are compared member by member: each override uses those of what it overrides.
  rw [usedNames, List.mem_append, List.mem_flatMap, List.mem_flatMap,
    exists_mem_iff_of_forall₂ (fun _ _ hq => Wrapper.mem_propertyNames_iff hq) hps,
    exists_mem_iff_of_forall₂ (fun _ _ hg => Wrapper.mem_functionNames_iff hg) hfs]
  simp only [Source.Class.members, List.mem_append, List.mem_map, or_and_right, exists_or,
    exists_exists_and_eq_and]
  rfl

/-- **Log functions.**  The log function is captured nowhere in the wrapper exactly if the
    declaration does not use the first segment of its name; and where it is not captured, it is
    what has that name outside. -/
theorem log_uncaptured_iff {α : Type} (world : World α) (h : wrapper ctx d = .ok g) :
    ((∀ b ∈ g.item.bodies, ¬g.item.Captures b (leadingSegment ctx.settings.logFunction)) ↔
      leadingSegment ctx.settings.logFunction ∉ usedNames d) ∧
    ∀ b ∈ g.item.bodies, ¬g.item.Captures b (leadingSegment ctx.settings.logFunction) →
      ∀ s : Scope α, s.IsOf g.item b →
        refer world s (memberChain ctx.settings.logFunction) =
          pure (.outside (Name.segments ctx.settings.logFunction)) := by
  constructor
  · rw [← exists_captures_iff_mem_usedNames h, not_exists]
    simp only [not_and]
  · intro b _ hfree s hs
    exact refer_memberChain world s ((find_eq_outside_iff hs).mpr hfree)

/-- A function with a parameter that takes the name of the local result away. -/
theorem log_uncaptured_println :
    let int : Declared.TypeRef := .resolved (.named "Int")
    let d : Declaration :=
      { name := "a.Api"
        kind := .interface
        properties := [{ name := "count", type := int, mutable := true }]
        functions :=
          [{ name := "print", parameters := [{ name := "result", type := int }],
             returns := some int }] }
    let ctx : Context := .of ⟨[], rfl⟩ {} .newYear2024
    let world : World Unit := { reply := fun _ _ => .null, shown := fun _ => "" }
    ∃ g, wrapper ctx d = .ok g ∧
      (∀ b ∈ g.item.bodies, ¬g.item.Captures b (leadingSegment ctx.settings.logFunction)) ∧
      ∀ b ∈ g.item.bodies, ∀ s : Scope Unit, s.IsOf g.item b →
        refer world s (memberChain "println") = pure (.outside ["println"]) := by
  intro int d ctx world
  have hg : wrapper ctx d = .ok _ := rfl
  obtain ⟨hiff, houtside⟩ := log_uncaptured_iff world hg
  have hfree := hiff.mpr (by decide)
  have hsegments : Name.segments "println" = ["println"] := by decide
  refine ⟨_, hg, hfree, fun b hb s hs => ?_⟩
  rw [← hsegments]
  exact houtside b hb (hfree b hb) s hs

/-- An interface with a function that has the name of the log function.  In its wrapper, a log
    line is a call of the wrapper's own function, which logs again. -/
theorem log_captured_println :
    let d : Declaration :=
      { name := "a.Console"
        kind := .interface
        functions :=
          [{ name := "println",
             parameters := [{ name := "line", type := .resolved (.named "String") }] }] }
    let ctx : Context := .of ⟨[], rfl⟩ {} .newYear2024
    ctx.settings.faults = [] ∧
      ∃ g, wrapper ctx d = .ok g ∧ ∃ b ∈ g.item.bodies,
        g.item.Captures b (leadingSegment ctx.settings.logFunction) ∧
        ∀ s : Scope String, s.IsOf g.item b →
          s.find (leadingSegment ctx.settings.logFunction) = .member .self "println" := by
  intro d ctx
  refine ⟨by decide, _, rfl, _, List.mem_cons_self, Or.inr (Or.inr (Or.inr (by decide))), ?_⟩
  intro s hs
  have hlead : leadingSegment ctx.settings.logFunction = "println" := by decide
  rw [hlead]
  exact find_eq_member hs (by decide) (by decide)

end wrappers

end CompanionSource.Synthesis
