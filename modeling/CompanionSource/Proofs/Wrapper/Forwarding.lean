import CompanionSource.Proofs.Arguments
import CompanionSource.Proofs.FreshName
import CompanionSource.Proofs.Wrapper.Basic
import CompanionSource.Proofs.Wrapper.LogLine

/-! # Wrappers forward

    The members of a wrapper run on an instance that stores a delegate.  Whatever the names of
    the parameters are:

    - a **function** makes one call, of the same function of the delegate with the same type
      arguments and arguments, and returns what the delegate returned if that is a value;
    - a **getter** reads the property of the delegate once and returns what it read;
    - a **setter** writes it once;
    - the **log line** comes after that, once, unless the member asks for none. -/

namespace CompanionSource

/-- The parameters of a function, by name and whether they take any number of arguments. -/
def Declared.Function.signature (f : Declared.Function) : List (String × Bool) :=
  f.parameters.map fun p => (p.name, p.vararg)

end CompanionSource

namespace CompanionSource.Synthesis

open Execution
open Source (Expr Stmt Template)

variable {α : Type}

/-! ### What forwarding means -/

/-- The fields of a wrapper that stores the delegate. -/
def wrapperFields (delegate : α) (name : String) : Option (Value α) :=
  if name = delegateField then some (.object delegate) else none

/-- A call of the function returns a value: its return type is known and is not that of no
    value. -/
def returnsValue (f : Declared.Function) : Bool :=
  match f.returns with
  | some (.resolved type) => !type.isUnit
  | _ => false

/-- The call that the delegate receives, with the type parameters as type arguments. -/
def forwardedCall (f : Declared.Function) (delegate : α) (given : List (Value α)) : Event α :=
  .call (.member (.object delegate) f.name) (f.typeParameters.map fun v => .named v.name)
    (handedOn f.signature given)

/-- The text that is logged about a call. -/
def callText (world : World α) (w : Wrapper) (f : Declared.Function) (given : List (Value α))
    (result : Value α) : String :=
  w.tag ++ ": " ++ f.name ++ "(" ++ listed world f.signature given ++ ")"
    ++ if returnsValue f then "->" ++ world.shown result else ""

/-- The text that is logged about an access to a property. -/
def accessText (world : World α) (w : Wrapper) (verb : String) (p : Declared.Property)
    (v : Value α) : String :=
  w.tag ++ ": " ++ verb ++ " " ++ p.name ++ "=" ++ world.shown v

/-- The events after the log line of a member: none of them is new if one of its annotations asks
    for no log line. -/
def LogsUnlessSilent (world : World α) (w : Wrapper) (marks : List Declared.Annotation)
    (s : Scope α) (text : String) (before after : List (Event α)) : Prop :=
  if marks.any fun a => a.isMarker (Directive.noLog.marker w.markers) then after = before
  else LogsOnce world s w.log text before after

/-- The function `g` of a wrapper forwards calls of `f`. -/
def ForwardsCalls (world : World α) (w : Wrapper) (f : Declared.Function)
    (g : Source.Function) : Prop :=
  ∀ (delegate : α) (members : List String) (given : List (Value α)), AllFit f.signature given →
    let forwarded := forwardedCall f delegate given
    let result := world.reply [] forwarded
    let s : Scope α :=
      { locals := if returnsValue f then [(Wrapper.functionResult f, result)] else []
        parameters := (f.parameters.map (·.name)).zip given
        fields := wrapperFields delegate
        members }
    ∃ events,
      (invoke world (wrapperFields delegate) members g given).run [] =
        (if returnsValue f then some result else none, events) ∧
      LogsUnlessSilent world w f.annotations s (callText world w f given result) [forwarded] events

/-- The getter `body` of a wrapper forwards reads of `p`. -/
def ForwardsReads (world : World α) (w : Wrapper) (p : Declared.Property)
    (body : List Stmt) : Prop :=
  ∀ (delegate : α) (members : List String),
    let forwarded : Event α := .read (.member (.object delegate) p.name)
    let result := world.reply [] forwarded
    let s : Scope α := { fields := wrapperFields delegate, members }
    ∃ events,
      (execute world s body).run [] = (some result, events) ∧
      LogsUnlessSilent world w p.annotations (s.declare resultLocal result)
        (accessText world w "get" p result) [forwarded] events

/-- The setter `body` of a wrapper forwards writes of `p`. -/
def ForwardsWrites (world : World α) (w : Wrapper) (p : Declared.Property)
    (body : List Stmt) : Prop :=
  ∀ (delegate : α) (members : List String) (v : Value α),
    let forwarded : Event α := .write (.member (.object delegate) p.name) v
    let s : Scope α :=
      { parameters := [(setterParameter, v)], fields := wrapperFields delegate, members }
    ∃ events,
      (execute world s body).run [] = (none, events) ∧
      LogsUnlessSilent world w p.annotations s (accessText world w "set" p v) [forwarded] events

/-! ### The delegate -/

section delegate
variable (world : World α) {s : Scope α} {delegate : α}

/-- A name that is neither a local value nor a parameter is that of the field. -/
theorem lookup_delegateField (hfields : s.fields = wrapperFields delegate)
    (hlocal : s.locals.lookup delegateField = none)
    (hparameter : s.parameters.lookup delegateField = none) :
    s.lookup delegateField = some (.object delegate) := by
  rw [Scope.lookup, hlocal, hparameter, hfields]
  simp [wrapperFields]

/-- A member of the delegate, under its own name or behind `this`. -/
theorem refer_delegate_dot {e : Expr} (n : String)
    (he : (e = .name delegateField ∧ s.lookup delegateField = some (.object delegate)) ∨
      (e = Expr.dot .this delegateField ∧ s.fields = wrapperFields delegate)) :
    refer world s (Expr.dot e n) = pure (.member (.object delegate) n) := by
  rcases he with ⟨rfl, hlookup⟩ | ⟨rfl, hfields⟩
  · exact refer_dot world s n (refer_name world s hlookup) (fun _ => nofun) rfl
  · have hfield : s.fields delegateField = some (.object delegate) := by
      simp [hfields, wrapperFields]
    obtain ⟨hplace, hread⟩ := read_this_dot world s hfield
    exact refer_dot world s n hplace (fun _ => nofun) hread

end delegate

/-! ### Log lines -/

section logging
variable (world : World α) {w : Wrapper} {s : Scope α} {message : Template} {text : String}

/-- The statement that logs a message is a log line with its text. -/
theorem eval_log (h : textOf world s message = pure text) :
    eval world s (w.log.apply [{ value := .template message }]) =
      logLine world s w.log text := by
  have hgiven : passings world s [{ value := .template message }] =
      pure [{ value := .text text }] := by
    rw [passings, passing_of_eval world s none false (eval_template world s h), pure_bind]
    rfl
  rw [eval, Expr.apply, refer, logLine, bind_assoc]
  congr 1
  funext place
  cases place with
  | absent => rfl
  | _ =>
    simp only [hgiven, pure_bind, bind_assoc]
    exact bind_pure _

/-- Where a log line may stand, it comes before the rest of the body, or there is none. -/
theorem execute_logged (h : textOf world s message = pure text)
    (marks : List Declared.Annotation) (rest : List Stmt) :
    execute world s (w.logged marks message ++ rest) =
      if marks.any fun a => a.isMarker (Directive.noLog.marker w.markers) then
        execute world s rest
      else logLine world s w.log text >>= fun _ => execute world s rest := by
  unfold Wrapper.logged isLogged
  cases marks.any fun a => a.isMarker (Directive.noLog.marker w.markers) with
  | true => rfl
  | false =>
    rw [← eval_log world h]
    rfl

/-- The rest of a body behind a log line decides on the result, and the log line on the
    events. -/
theorem execute_logged_run (h : textOf world s message = pure text)
    (marks : List Declared.Annotation) {rest : List Stmt} {result : Option (Value α)}
    (hrest : execute world s rest = pure result) (before : List (Event α)) :
    ∃ events,
      (execute world s (w.logged marks message ++ rest)).run before = (result, events) ∧
      LogsUnlessSilent world w marks s text before events := by
  rw [execute_logged world h, hrest]
  unfold LogsUnlessSilent
  cases marks.any fun a => a.isMarker (Directive.noLog.marker w.markers) with
  | true => exact ⟨before, rfl, rfl⟩
  | false => exact ⟨_, rfl, logsOnce world s w.log text before⟩

end logging

/-! ### Functions -/

section functions
variable (world : World α) {w : Wrapper} {f : Declared.Function} {s : Scope α}
  {given : List (Value α)}

theorem map_fst_signature (f : Declared.Function) :
    f.signature.map Prod.fst = f.parameters.map (·.name) := by
  rw [Declared.Function.signature, List.map_map]
  rfl

theorem textOf_callMessage (h : s.Holds f.signature given) :
    textOf world s (w.callMessage f none) =
      pure (w.tag ++ ": " ++ f.name ++ "(" ++ listed world f.signature given ++ ")") := by
  -- The message is taken apart into the lead, the parameters and the closing bracket.
  have hlisting := textOf_listing world h
  rw [Declared.Function.signature, List.map_map] at hlisting
  have hlead := textOf_append_of_pure world s
    (textOf_literal world s (w.tag ++ ": " ++ f.name ++ "(")) hlisting
  have hall := textOf_append_of_pure world s hlead (textOf_literal world s ")")
  rw [Wrapper.callMessage, textOf_ofPieces, List.append_nil]
  exact hall

theorem textOf_callMessage_some (h : s.Holds f.signature given) {e : Expr} {v : Value α}
    (he : eval world s e = pure v) :
    textOf world s (w.callMessage f (some e)) =
      pure (w.tag ++ ": " ++ f.name ++ "(" ++ listed world f.signature given ++ ")"
        ++ ("->" ++ world.shown v)) := by
  have hcall := textOf_callMessage world (w := w) h
  rw [Wrapper.callMessage, textOf_ofPieces, List.append_nil] at hcall
  have hresult := textOf_append_of_pure world s (textOf_literal world s "->")
    (textOf_value world s he)
  rw [Wrapper.callMessage, textOf_ofPieces]
  exact textOf_append_of_pure world s hcall hresult

/-- The delegate is found even if a parameter hides the field. -/
theorem refer_delegate_member (delegate : α)
    (hfields : s.fields = wrapperFields delegate) (hlocal : s.locals = [])
    (hparameters : s.parameters = (f.parameters.map (·.name)).zip given) :
    refer world s (Expr.dot (Wrapper.delegate f) f.name) =
      pure (.member (.object delegate) f.name) := by
  apply refer_delegate_dot
  unfold Wrapper.delegate
  split
  · exact Or.inr ⟨rfl, hfields⟩
  · next hshadow =>
    -- No parameter has the name of the field, and nothing else comes before it.
    refine Or.inl ⟨rfl, lookup_delegateField hfields (by rw [hlocal]; rfl) ?_⟩
    rw [hparameters, List.lookup_eq_none_iff]
    rintro ⟨n, v⟩ hmem
    obtain ⟨p, hp, rfl⟩ := List.mem_map.mp (List.of_mem_zip hmem).1
    rw [bne_iff_ne]
    intro heq
    exact hshadow (List.any_eq_true.mpr ⟨p, hp, by simp [heq]⟩)

theorem eval_delegation (delegate : α) (hfields : s.fields = wrapperFields delegate)
    (hlocal : s.locals = []) (hparameters : s.parameters = (f.parameters.map (·.name)).zip given)
    (h : s.Holds f.signature given) :
    eval world s (Wrapper.delegation f) = world.perform (forwardedCall f delegate given) := by
  have hgiven : passings world s (f.parameters.map fun p => passed p.name p.vararg) =
      pure (handedOn f.signature given) := by
    have hsignature := passings_passed world (h.imp fun _ _ hp => hp.1)
    rw [Declared.Function.signature, List.map_map] at hsignature
    exact hsignature
  rw [eval, Wrapper.delegation, refer,
    refer_delegate_member world delegate hfields hlocal hparameters, pure_bind]
  simp only [hgiven, pure_bind, bind_assoc]
  exact bind_pure _

theorem returnsValue_eq_isSome (f : Declared.Function) :
    returnsValue f = (Wrapper.returnedType? f).isSome := by
  unfold returnsValue Wrapper.returnedType?
  cases f.returns with
  | none => rfl
  | some type =>
    cases type with
    | unresolved text => rfl
    | resolved type => cases hunit : type.isUnit <;> simp [hunit]

/-- The parameters have their values in the scope of a body, also behind the local value that
    holds the result. -/
theorem holds_parameters (hnames : (f.parameters.map (·.name)).Nodup)
    (hfit : AllFit f.signature given)
    (hparameters : s.parameters = (f.parameters.map (·.name)).zip given)
    (hlocals : ∀ entry ∈ s.locals, entry.1 = Wrapper.functionResult f) :
    s.Holds f.signature given := by
  rw [← map_fst_signature] at hnames hparameters
  refine holds_of_zip hnames hfit hparameters ?_
  -- The only local value has a fresh name, so it hides no parameter.
  intro p hp
  rw [List.lookup_eq_none_iff]
  intro entry hentry
  rw [bne_iff_ne, hlocals entry hentry]
  intro heq
  have hmem : p.1 ∈ f.parameters.map (·.name) := by
    rw [← map_fst_signature]
    exact List.mem_map_of_mem hp
  rw [heq] at hmem
  exact freshName_not_mem resultLocal _ hmem

theorem forwardsCalls {g : Source.Function} (hg : w.overrideFunction f = .ok g)
    (hnames : (f.parameters.map (·.name)).Nodup) : ForwardsCalls world w f g := by
  intro delegate members given hfit forwarded result s
  have hbody : g.body = w.functionBody f := by
    obtain ⟨parameters, -, rfl⟩ := Wrapper.overrideFunction_eq_ok_iff.mp hg
    rfl
  -- The scope at the beginning of the body, without the local value.
  let start : Scope α :=
    { parameters := (f.parameters.map (·.name)).zip given
      fields := wrapperFields delegate
      members }
  have hstart : start.Holds f.signature given :=
    holds_parameters hnames hfit rfl (List.forall_mem_nil _)
  have hcall := eval_delegation world delegate rfl rfl rfl hstart
  unfold invoke
  rw [Wrapper.names_of_overrideFunction hg, hbody]
  unfold Wrapper.functionBody
  have hvalue := returnsValue_eq_isSome f
  cases hreturns : Wrapper.returnedType? f with
  | none =>
    -- The call stands alone, and the log line is the end of the body.
    rw [hreturns, Option.isSome_none] at hvalue
    have hs : s = start := by
      simp only [s, start, hvalue]
      rfl
    have htext : textOf world start (w.callMessage f none) =
        pure (callText world w f given result) := by
      rw [textOf_callMessage world hstart]
      simp [callText, hvalue]
    have hend : execute world start [] = pure none := rfl
    obtain ⟨events, hrun, hlog⟩ :=
      execute_logged_run world htext f.annotations hend [forwarded]
    rw [List.append_nil] at hrun
    refine ⟨events, ?_, hs ▸ hlog⟩
    rw [execute, hcall, StateT.run_bind, hvalue]
    exact hrun
  | some type =>
    -- The log line and the return see the local value that holds the result.
    rw [hreturns, Option.isSome_some] at hvalue
    have hs : s = start.declare (Wrapper.functionResult f) result := by
      simp only [s, start, hvalue]
      rfl
    have hholds : s.Holds f.signature given := by
      refine holds_parameters hnames hfit rfl ?_
      rw [hs]
      exact List.forall_mem_singleton.mpr rfl
    have hresult : eval world s (.name (Wrapper.functionResult f)) = pure result := by
      refine eval_name world s ?_
      rw [hs, Scope.lookup, Scope.declare, List.lookup_cons_self]
      rfl
    have htext : textOf world s (w.callMessage f (some (.name (Wrapper.functionResult f)))) =
        pure (callText world w f given result) := by
      rw [textOf_callMessage_some world hholds hresult]
      simp [callText, hvalue]
    have hend : execute world s [.ret (some (.name (Wrapper.functionResult f)))] =
        pure (some result) := by
      rw [execute, hresult, pure_bind]
    obtain ⟨events, hrun, hlog⟩ :=
      execute_logged_run world htext f.annotations hend [forwarded]
    refine ⟨events, ?_, hlog⟩
    rw [List.cons_append, execute, hcall, StateT.run_bind, hvalue]
    rw [hs] at hrun
    exact hrun

end functions

/-! ### Properties -/

section properties
variable (world : World α) {w : Wrapper} {p : Declared.Property} {s : Scope α}

theorem refer_delegateProperty {delegate : α}
    (h : s.lookup delegateField = some (.object delegate)) :
    refer world s (Wrapper.delegateProperty p) = pure (.member (.object delegate) p.name) :=
  refer_delegate_dot world p.name (Or.inl ⟨rfl, h⟩)

theorem textOf_propertyMessage (verb : String) {e : Expr} {v : Value α}
    (h : eval world s e = pure v) :
    textOf world s (w.propertyMessage verb p e) = pure (accessText world w verb p v) := by
  rw [Wrapper.propertyMessage, textOf_ofPieces]
  exact textOf_append_of_pure world s (textOf_literal world s _) (textOf_value world s h)

theorem forwardsReads (w : Wrapper) (p : Declared.Property) :
    ForwardsReads world w p (w.getterBody p) := by
  intro delegate members forwarded result s
  have hdelegate : s.lookup delegateField = some (.object delegate) :=
    lookup_delegateField rfl rfl rfl
  have hread : eval world s (Wrapper.delegateProperty p) = world.perform forwarded := by
    rw [eval, refer_delegateProperty world hdelegate, pure_bind]
    rfl
  have hresult : eval world (s.declare resultLocal result) (.name resultLocal) = pure result := by
    refine eval_name world _ ?_
    rw [Scope.lookup, Scope.declare, List.lookup_cons_self]
    rfl
  have hend : execute world (s.declare resultLocal result) [.ret (some (.name resultLocal))] =
      pure (some result) := by
    rw [execute, hresult, pure_bind]
  obtain ⟨events, hrun, hlog⟩ := execute_logged_run world
    (textOf_propertyMessage world "get" hresult) p.annotations hend [forwarded]
  refine ⟨events, ?_, hlog⟩
  rw [Wrapper.getterBody, List.cons_append, execute, hread, StateT.run_bind]
  exact hrun

theorem forwardsWrites (w : Wrapper) (p : Declared.Property) :
    ForwardsWrites world w p (w.setterBody p) := by
  intro delegate members v forwarded s
  have hdelegate : s.lookup delegateField = some (.object delegate) :=
    lookup_delegateField rfl rfl rfl
  have hvalue : eval world s (.name setterParameter) = pure v := eval_name world s rfl
  have hend : execute world s [] = pure none := rfl
  obtain ⟨events, hrun, hlog⟩ := execute_logged_run world
    (textOf_propertyMessage world "set" hvalue) p.annotations hend [forwarded]
  rw [List.append_nil] at hrun
  refine ⟨events, ?_, hlog⟩
  rw [Wrapper.setterBody, execute, refer_delegateProperty world hdelegate, pure_bind, hvalue,
    pure_bind, StateT.run_bind]
  exact hrun

end properties

/-! ### Members -/

/-- **Forwarding.**  The members of a wrapper forward what they override: functions with distinct
    parameters their calls, and properties their reads and, if they can be assigned, their
    writes. -/
theorem members_forward (world : World α) (w : Wrapper) :
    (∀ f g, w.overrideFunction f = .ok g → (f.parameters.map (·.name)).Nodup →
      ForwardsCalls world w f g) ∧
    ∀ p q, w.overrideProperty p = .ok q →
      (∃ body, q.getter = some body ∧ ForwardsReads world w p body) ∧
      (p.mutable = true → ∃ body, q.setter = some body ∧ ForwardsWrites world w p body) ∧
      (p.mutable = false → q.setter = none) := by
  refine ⟨fun f g hg hnames => forwardsCalls world hg hnames, ?_⟩
  intro p q hq
  obtain ⟨type, -, rfl⟩ := Wrapper.overrideProperty_eq_ok_iff.mp hq
  refine ⟨⟨w.getterBody p, rfl, forwardsReads world w p⟩, ?_, ?_⟩
  · intro hmutable
    exact ⟨w.setterBody p, if_pos hmutable, forwardsWrites world w p⟩
  · intro hmutable
    exact if_neg (by rw [hmutable]; nofun)

/-- Parameters called `delegate` and `result`, and any number of arguments behind them. -/
theorem members_forward_hiding_parameters :
    let w : Wrapper :=
      { owner := "a.Api", tag := "Tag", log := memberChain "println", markers := "m" }
    let int : Declared.TypeRef := .resolved (.named "Int")
    let f : Declared.Function :=
      { name := "swap"
        parameters :=
          [{ name := "delegate", type := int }, { name := "result", type := int },
            { name := "rest", type := int, vararg := true }]
        returns := some int }
    let world : World String :=
      { reply := fun _ _ => .object "7"
        shown := fun
          | .object o => o
          | .list xs => "[" ++ ", ".intercalate xs ++ "]"
          | _ => "" }
    ∃ g, w.overrideFunction f = .ok g ∧ (f.parameters.map (·.name)).Nodup ∧
      (invoke world (wrapperFields "wrapped") [] g
          [.object "1", .object "2", .array ["3", "4"]]).run [] =
        (some (.object "7"),
          [.call (.member (.object "wrapped") "swap") []
              [{ value := .object "1" }, { value := .object "2" },
                { spread := true, value := .array ["3", "4"] }],
            .call (.outside ["println"]) []
              [{ value :=
                  .text "Tag: swap(delegate=1, result=2, rest=[3, 4])->7" }]]) := by
  intro w int f world
  refine ⟨_, rfl, by decide, ?_⟩
  have hfit : AllFit f.signature [.object "1", .object "2", .array ["3", "4"]] :=
    .cons nofun (.cons nofun (.cons (fun _ => ⟨_, rfl⟩) .nil))
  obtain ⟨events, hrun, hlog⟩ :=
    (members_forward world w).1 f _ rfl (by decide) "wrapped" [] _ hfit
  rw [hrun]
  have houtside := LogsOnce.outside hlog "println" rfl rfl
  rw [houtside]
  rfl

end CompanionSource.Synthesis
