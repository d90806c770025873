import CompanionSource.Proofs.Execution
import CompanionSource.Synthesis.Wrapper

/-! # Log lines at run time

    A log line is one call of the log function.  The log function is a dotted name, and what it
    refers to depends on its first segment:

    - a segment that means nothing in the body or the wrapper leads **outside**, to the function
      of that dotted name, without any event;
    - any other segment leads to members of what it means there.  On the way there are reads, but
      no calls. -/

namespace CompanionSource.Execution

open Source (Expr)
open Synthesis (memberChain)

variable {α : Type}

/-- The log function is called with the text of a log line. -/
def logLine (world : World α) (s : Scope α) (log : Expr) (text : String) : Run α (Value α) := do
  let place ← refer world s log
  call world place [] [{ value := .text text }]

/-- The first segment of a dotted name. -/
def leadingSegment (name : String) : String := (Name.segments name).headD ""

/-! ### Dotted names -/

section names
variable (world : World α) (s : Scope α)

/-- Whatever an expression refers to, nothing but reads happens on the way. -/
def ReadsOnly (e : Expr) : Prop :=
  ∀ before, ∃ place reads, (refer world s e).run before = (place, before ++ reads) ∧
    place ≠ .absent ∧ ∀ event ∈ reads, event.isCall = false

theorem read_run (place : Reference α) (before : List (Event α)) :
    ∃ v reads, (read world s place).run before = (v, before ++ reads) ∧
      ∀ event ∈ reads, event.isCall = false := by
  -- A read is answered from the scope, or it is the one event.
  have hquiet : ∀ v, ∃ u reads, (pure v : Run α (Value α)).run before = (u, before ++ reads) ∧
      ∀ event ∈ reads, event.isCall = false := by
    intro v
    exact ⟨v, [], by rw [List.append_nil]; rfl, List.forall_mem_nil _⟩
  have hevent : ∀ p, ∃ u reads,
      (world.perform (.read p)).run before = (u, before ++ reads) ∧
        ∀ event ∈ reads, event.isCall = false := by
    intro p
    refine ⟨_, [.read p], rfl, ?_⟩
    rw [List.forall_mem_singleton]
    rfl
  match place with
  | .value v => exact hquiet v
  | .absent => exact hquiet .null
  | .type t => exact hevent _
  | .outside path => exact hevent _
  | .member v name =>
    cases v with
    | self =>
      simp only [read]
      split
      · exact hquiet _
      · exact hevent _
    | _ => exact hevent _

theorem memberOf_ne_absent (v : Value α) (name : String) : memberOf v name false ≠ .absent := by
  cases v <;> simp [memberOf]

theorem refer_dot_run {e : Expr} {place : Reference α} {v : Value α} {name : String}
    {before between after : List (Event α)}
    (hplace : (refer world s e).run before = (place, between))
    (hinside : ∀ path, place ≠ .outside path)
    (hread : (read world s place).run between = (v, after)) :
    (refer world s (Expr.dot e name)).run before = (memberOf v name false, after) := by
  rw [Expr.dot, refer, StateT.run_bind, hplace]
  -- Any place that is not outside is read before its member is looked up.
  cases place with
  | outside path => exact absurd rfl (hinside path)
  | _ =>
    show (read world s _ >>= fun u => pure (memberOf u name false)).run between = _
    rw [StateT.run_bind, hread]
    rfl

theorem ReadsOnly.dot {e : Expr} (h : ReadsOnly world s e) (name : String) :
    ReadsOnly world s (Expr.dot e name) := by
  intro before
  obtain ⟨place, reads, hrun, -, hreads⟩ := h before
  -- Behind something declared outside nothing is read; every other place is read once more.
  by_cases hplace : ∃ path, place = .outside path
  · obtain ⟨path, rfl⟩ := hplace
    refine ⟨.outside (path ++ [name]), reads, ?_, nofun, hreads⟩
    rw [Expr.dot, refer, StateT.run_bind, hrun]
    rfl
  · have hinside : ∀ path, place ≠ .outside path := not_exists.mp hplace
    obtain ⟨v, more, hread, hmore⟩ := read_run world s place (before ++ reads)
    refine ⟨memberOf v name false, reads ++ more, ?_, memberOf_ne_absent v name, ?_⟩
    · rw [refer_dot_run world s hrun hinside hread, List.append_assoc]
    · exact List.forall_mem_append.mpr ⟨hreads, hmore⟩

theorem ReadsOnly.foldl_dot {e : Expr} (h : ReadsOnly world s e) (rest : List String) :
    ReadsOnly world s (rest.foldl Expr.dot e) := by
  induction rest generalizing e with
  | nil => exact h
  | cons name rest ih => exact ih (h.dot world s name)

theorem readsOnly_memberChain (name : String) : ReadsOnly world s (memberChain name) := by
  -- The first segment is looked up without an event, and reads come with the other ones.
  have hname : ∀ n, ReadsOnly world s (.name n) := by
    intro n before
    refine ⟨s.find n, [], by rw [List.append_nil]; rfl, ?_, List.forall_mem_nil _⟩
    unfold Scope.find
    split
    · nofun
    · split <;> nofun
  unfold memberChain
  split
  · exact hname _
  · exact (hname _).foldl_dot world s _

theorem refer_foldl_dot {e : Expr} {path : List String}
    (h : refer world s e = pure (.outside path)) (rest : List String) :
    refer world s (rest.foldl Expr.dot e) = pure (.outside (path ++ rest)) := by
  induction rest generalizing e path with
  | nil => rw [List.append_nil]; exact h
  | cons name rest ih =>
    rw [List.foldl_cons, ih (refer_dot_outside world s name h), List.append_assoc]
    rfl

/-- A dotted name of which the first segment means nothing here refers to what has the name
    outside. -/
theorem refer_memberChain {name : String}
    (h : s.find (leadingSegment name) = .outside [leadingSegment name]) :
    refer world s (memberChain name) = pure (.outside (Name.segments name)) := by
  have hsegments : Name.segments name ≠ [] := by
    simp [Name.segments]
  unfold memberChain leadingSegment at *
  cases hn : Name.segments name with
  | nil => exact absurd hn hsegments
  | cons first rest =>
    rw [hn] at h
    have hfirst : refer world s (.name first) = pure (.outside [first]) := by
      rw [refer]
      exact congrArg pure h
    exact refer_foldl_dot world s hfirst rest

end names

/-! ### The line -/

/-- What the log line `text` adds to the events before it.  It is one call of what the log function
    refers to; only reads come before that call; and the call goes outside, to the function of
    the configured name, if nothing else has the name. -/
structure LogsOnce (world : World α) (s : Scope α) (log : Expr) (text : String)
    (before after : List (Event α)) : Prop where
  /-- The events are those of the call. -/
  runs : ((logLine world s log text).run before).2 = after
  /-- There is one call. -/
  once : ∀ name, log = memberChain name → ∃ place reads,
    after = before ++ reads ++ [.call place [] [{ value := .text text }]] ∧
      ∀ event ∈ reads, event.isCall = false
  /-- The call goes outside. -/
  outside : ∀ name, log = memberChain name →
    s.find (leadingSegment name) = .outside [leadingSegment name] →
      after = before ++ [.call (.outside (Name.segments name)) [] [{ value := .text text }]]

theorem call_text_run (world : World α) {place : Reference α} (hplace : place ≠ .absent)
    (text : String) (before : List (Event α)) :
    ((call world place [] [{ value := .text text }]).run before).2 =
      before ++ [.call place [] [{ value := .text text }]] := by
  match place with
  | .absent => exact absurd rfl hplace
  | .value v => rfl
  | .type t => rfl
  | .outside path => rfl
  | .member v name => cases v <;> simp [call] <;> rfl

theorem logsOnce (world : World α) (s : Scope α) (log : Expr) (text : String)
    (before : List (Event α)) :
    LogsOnce world s log text before ((logLine world s log text).run before).2 where
  runs := rfl
  once := by
    rintro name rfl
    obtain ⟨place, reads, hrun, hplace, hreads⟩ := readsOnly_memberChain world s name before
    refine ⟨place, reads, ?_, hreads⟩
    rw [logLine, StateT.run_bind, hrun]
    exact call_text_run world hplace text (before ++ reads)
  outside := by
    rintro name rfl hfree
    rw [logLine, refer_memberChain world s hfree, pure_bind]
    exact call_text_run world (fun h => by cases h) text before

end CompanionSource.Execution
