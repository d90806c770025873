import CompanionSource.Proofs.Round.Grouping
import CompanionSource.Proofs.Source.Nesting
import CompanionSource.Proofs.Source.TypePrinting
import CompanionSource.Proofs.Traversal
import CompanionSource.Source.Member
import Mathlib.Data.List.Perm.Basic

/-! # Type parameters read back

    The type parameters of a declaration are printed in two places.  The list in brackets has all
    of them, each with its bound if that is the only one.  The `where` clause has the bounds of
    those that have several.

    - Each of the two is **split** at the commas that stand at the top, and an entry at the colon
      that does.  The printer put those there, and no others stand at the top.
    - So the entries of the list and the constraints of the clause are read as they were printed.
      The bounds of a type parameter are the one in the list and those in the clause, and one of
      the two places has none. -/

namespace CompanionSource.Source

open Name (IsWritable)
open Text (skipBlanks)

/-! ### Entries -/

/-- What is read of a type parameter in one place. -/
structure Entry where
  /-- The name of the parameter. -/
  name : String
  /-- The bound that stands behind its name. -/
  bound : Option TypeExpr := none

/-- A name and a bound of it. -/
structure Constraint where
  /-- The name of a type parameter. -/
  name : String
  /-- One of its bounds. -/
  bound : TypeExpr

/-- What an entry says about bounds. -/
def Entry.constraint? (e : Entry) : Option Constraint :=
  e.bound.map (Constraint.mk e.name)

/-- The name that a text is, but for blanks behind it. -/
def readName (cs : List Char) : Option String :=
  match TypeExpr.Parser.identifier cs with
  | .ok ⟨name, rest, _⟩ => if skipBlanks rest = [] then some name else none
  | .error _ => none

/-- The type that a text is. -/
def readType (cs : List Char) : Option TypeExpr :=
  (TypeExpr.parse (String.ofList cs)).toOption

/-- The entry that a text is: a name, and a bound behind a colon if there is one at the top. -/
def readEntry (cs : List Char) : Option Entry :=
  match Nesting.pieces ':' .top cs with
  | [name] => (readName name).map fun name => { name }
  | [name, bound] =>
    (readName name).bind fun name => (readType bound).map fun bound => { name, bound }
  | _ => none

/-- The entries of a text, between the commas at the top. -/
def readEntries (cs : List Char) : Option (List Entry) :=
  ((Nesting.pieces ',' .top cs).map skipBlanks).mapM readEntry

/-- The entries of the list of type parameters, which is nothing or stands in brackets. -/
def readList (code : String) : Option (List Entry) :=
  match code.toList with
  | [] => some []
  | '<' :: inside => if inside.getLast? = some '>' then readEntries inside.dropLast else none
  | _ => none

/-- The constraints of the `where` clause, which is nothing or begins with its word.  Each of them
    has a bound. -/
def readWhere (code : String) : Option (List Constraint) :=
  if code.isEmpty then some []
  else (Text.afterChars " where ".toList code.toList).bind fun cs =>
    (readEntries cs).bind fun entries => entries.mapM Entry.constraint?

/-- The type parameter of an entry: its bounds are the one that stands there, and those that the
    constraints have for its name. -/
def Entry.typeVariable (constraints : List Constraint) (e : Entry) : TypeVariable where
  name := e.name
  bounds := e.bound.toList ++ (constraints.filter (·.name = e.name)).map (·.bound)

/-! ### Printed entries are read -/

/-- The source text of an entry. -/
def Entry.code (e : Entry) : String :=
  match e.bound with
  | none => Name.written e.name
  | some bound => Name.written e.name ++ " : " ++ bound.text

/-- The name and all the names in the bound can be written. -/
def Entry.CanBeWritten (e : Entry) : Prop :=
  IsWritable e.name ∧ ∀ bound ∈ e.bound, bound.WellNamed

theorem readName_written {name : String} (h : IsWritable name) {blanks : List Char}
    (hblanks : ∀ c ∈ blanks, Text.isBlank c) :
    readName ((Name.written name).toList ++ blanks) = some name := by
  have hends : ∀ c ∈ blanks.head?, ¬Text.continuesName c := by
    intro c hc
    rw [Text.not_continuesName_of_isBlank (hblanks c (List.mem_of_mem_head? hc))]
    exact Bool.false_ne_true
  obtain ⟨_, hread⟩ := (TypeExpr.Parser.readsIdentifier_written h hends).took
  have hnothing : skipBlanks blanks = [] := Text.dropWhile_isBlank_eq_nil_iff.mpr hblanks
  simp only [readName, hread, hnothing, if_true]

/-- The blank that a colon leaves in front of a type is skipped. -/
theorem readType_text {t : TypeExpr} (h : t.WellNamed) :
    readType (' ' :: t.text.toList) = some t := by
  have hends : TypeExpr.Parser.EndsType [] := by rintro c ⟨⟩
  have hread := TypeExpr.Parser.reads_text h hends
  rw [List.append_nil] at hread
  have hparse : TypeExpr.parse (String.ofList (' ' :: t.text.toList)) = .ok t := by
    refine TypeExpr.parse_eq_ok_iff.mpr ⟨[], ?_, rfl⟩
    rw [String.toList_ofList]
    exact hread.of_skipBlanks_eq (TypeExpr.Parser.skipBlanks_space _)
  rw [readType, hparse]
  rfl

theorem readEntry_code {e : Entry} (h : e.CanBeWritten) : readEntry e.code.toList = some e := by
  obtain ⟨name, bound⟩ := e
  obtain ⟨hname, hbound⟩ := h
  have hwhole : Nesting.Whole ':' .top (Name.written name) :=
    Nesting.whole_written (by decide) hname.2
  cases bound with
  | none =>
    have hread := readName_written hname (List.forall_mem_nil _)
    rw [List.append_nil] at hread
    show readEntry (Name.written name).toList = _
    simp only [readEntry, hwhole.pieces_eq, hread, Option.map_some]
  | some t =>
    have hnamed := hbound t rfl
    have hfront : Nesting.Whole ':' .top (Name.written name ++ " ") :=
      hwhole.append (Nesting.whole_of_not_mem (by decide) (by decide))
    have hbehind : Nesting.Whole ':' .top (" " ++ t.text) :=
      (Nesting.whole_of_not_mem (by decide) (by decide)).append
        (Nesting.whole_text (by decide) hnamed)
    -- The colon that the printer put there is the only one at the top.
    have hcode : (Entry.mk name (some t)).code.toList =
        (Name.written name ++ " ").toList ++ ':' :: (" " ++ t.text).toList := by
      simp [Entry.code, String.toList_append]
    have hblank : ∀ c ∈ [' '], Text.isBlank c := List.forall_mem_singleton.mpr (by decide)
    have hread := readName_written hname hblank
    have htype := readType_text hnamed
    rw [hcode, readEntry, hfront.pieces_append, hbehind.pieces_eq]
    simp [String.toList_append, hread, htype]

theorem Entry.CanBeWritten.whole {e : Entry} (h : e.CanBeWritten) :
    Nesting.Whole ',' .top e.code := by
  obtain ⟨name, bound⟩ := e
  obtain ⟨hname, hbound⟩ := h
  have hwhole : Nesting.Whole ',' .top (Name.written name) :=
    Nesting.whole_written (by decide) hname.2
  cases bound with
  | none => exact hwhole
  | some t =>
    have hcolon : Nesting.Whole ',' .top " : " := Nesting.whole_of_all (by decide)
    exact (hwhole.append hcolon).append (Nesting.whole_text (by decide) (hbound t rfl))

/-- No blank stands in front of an entry. -/
theorem Entry.CanBeWritten.skipBlanks_eq {e : Entry} (h : e.CanBeWritten) :
    skipBlanks e.code.toList = e.code.toList := by
  obtain ⟨name, bound⟩ := e
  obtain ⟨hname, -⟩ := h
  cases bound with
  | none =>
    have hends : ∀ c ∈ ([] : List Char).head?, ¬Text.continuesName c := by rintro c ⟨⟩
    have hread := TypeExpr.Parser.readsIdentifier_written hname hends
    rw [List.append_nil] at hread
    exact hread.skipBlanks_eq
  | some t =>
    have hends : ∀ c ∈ (' ' :: ':' :: ' ' :: t.text.toList).head?, ¬Text.continuesName c := by
      rintro c ⟨⟩
      decide
    have hcode : (Entry.mk name (some t)).code.toList =
        (Name.written name).toList ++ ' ' :: ':' :: ' ' :: t.text.toList := by
      simp [Entry.code, String.toList_append]
    rw [hcode]
    exact (TypeExpr.Parser.readsIdentifier_written hname hends).skipBlanks_eq

theorem map_skipBlanks_modifyHead (pieces : List (List Char)) :
    (pieces.modifyHead (' ' :: ·)).map skipBlanks = pieces.map skipBlanks := by
  cases pieces with
  | nil => rfl
  | cons piece pieces =>
    rw [List.modifyHead_cons, List.map_cons, List.map_cons, TypeExpr.Parser.skipBlanks_space]

/-- The pieces of a list of entries are the entries: no comma stands at the top but those between
    two of them. -/
theorem map_skipBlanks_pieces {entries : List Entry} (hsome : entries ≠ [])
    (h : ∀ e ∈ entries, e.CanBeWritten) :
    (Nesting.pieces ',' .top (", ".intercalate (entries.map Entry.code)).toList).map skipBlanks =
      entries.map fun e => e.code.toList := by
  induction entries with
  | nil => exact absurd rfl hsome
  | cons first others ih =>
    obtain ⟨hfirst, hothers⟩ := List.forall_mem_cons.mp h
    cases others with
    | nil => simp [hfirst.whole.pieces_eq, hfirst.skipBlanks_eq]
    | cons second others =>
      have hcode : (", ".intercalate ((first :: second :: others).map Entry.code)).toList =
          first.code.toList
            ++ ',' :: (" ".toList ++ (", ".intercalate ((second :: others).map Entry.code)).toList)
          := by
        simp [String.intercalate_cons_cons, String.toList_append]
      have hblank : Nesting.Whole ',' .top " " := Nesting.whole_of_all (by decide)
      rw [hcode, hfirst.whole.pieces_append, hblank, List.map_cons, hfirst.skipBlanks_eq]
      -- The blank behind the comma is skipped with the next piece.
      have hmore := map_skipBlanks_modifyHead
        (Nesting.pieces ',' .top (", ".intercalate ((second :: others).map Entry.code)).toList)
      rw [ih (List.cons_ne_nil _ _) hothers] at hmore
      exact congrArg (first.code.toList :: ·) hmore

theorem readEntries_codes {entries : List Entry} (hsome : entries ≠ [])
    (h : ∀ e ∈ entries, e.CanBeWritten) :
    readEntries (", ".intercalate (entries.map Entry.code)).toList = some entries := by
  rw [readEntries, map_skipBlanks_pieces hsome h]
  exact Traversal.mapM_map_eq_some fun e he => readEntry_code (h e he)

/-! ### The two places -/

/-- What the list has of a type parameter. -/
def listed (v : TypeVariable) : Entry where
  name := v.name
  bound :=
    match v.bounds with
    | [bound] => some bound
    | _ => none

/-- What the `where` clause has of a type parameter. -/
def constrained (v : TypeVariable) : List Constraint :=
  if 1 < v.bounds.length then v.bounds.map (Constraint.mk v.name) else []

/-- A constraint as the entry it is printed as. -/
def Constraint.entry (c : Constraint) : Entry :=
  { name := c.name, bound := some c.bound }

/-- Everything in the type parameter that is printed can be written. -/
def IsPrintable (v : TypeVariable) : Prop :=
  IsWritable v.name ∧ ∀ bound ∈ v.bounds, bound.WellNamed

section places
variable {v : TypeVariable}

/-- By their number, the bounds are all in the list or all in the clause. -/
theorem bounds_cases (v : TypeVariable) :
    (constrained v = [] ∧ (listed v).bound.toList = v.bounds) ∨
      ((listed v).bound = none ∧ constrained v = v.bounds.map (Constraint.mk v.name)) := by
  obtain ⟨name, bounds⟩ := v
  match bounds with
  | [] => exact .inl ⟨rfl, rfl⟩
  | [_] => exact .inl ⟨rfl, rfl⟩
  | _ :: _ :: _ => exact .inr ⟨rfl, by simp [constrained]⟩

theorem IsPrintable.listed (h : IsPrintable v) : (listed v).CanBeWritten := by
  refine ⟨h.1, ?_⟩
  intro bound hbound
  rcases bounds_cases v with ⟨-, hall⟩ | ⟨hnone, -⟩
  · exact h.2 bound (hall ▸ Option.mem_toList.mpr hbound)
  · rw [hnone] at hbound
    cases hbound

/-- A constraint in the clause has the name of its type parameter and one of its bounds. -/
theorem of_mem_constrained {c : Constraint} (hc : c ∈ constrained v) :
    c.name = v.name ∧ c.bound ∈ v.bounds := by
  rcases bounds_cases v with ⟨hnone, -⟩ | ⟨-, hall⟩
  · rw [hnone] at hc
    cases hc
  · rw [hall] at hc
    obtain ⟨bound, hbound, rfl⟩ := List.mem_map.mp hc
    exact ⟨rfl, hbound⟩

theorem IsPrintable.constrained (h : IsPrintable v) {c : Constraint} (hc : c ∈ constrained v) :
    c.entry.CanBeWritten := by
  obtain ⟨hname, hbound⟩ := of_mem_constrained hc
  refine ⟨?_, ?_⟩
  · show IsWritable c.name
    rw [hname]
    exact h.1
  · rintro bound ⟨⟩
    exact h.2 _ hbound

theorem typeVariableCode_eq (v : TypeVariable) : typeVariableCode .empty v = (listed v).code := by
  obtain ⟨name, bounds⟩ := v
  match bounds with
  | [] => rfl
  | [bound] =>
    show Name.written name ++ " : " ++ typeCode .empty bound = _
    rw [typeCode_empty]
    rfl
  | _ :: _ :: _ => rfl

theorem whereConstraints_eq (v : TypeVariable) :
    whereConstraints .empty v = (constrained v).map fun c => c.entry.code := by
  unfold whereConstraints Source.constrained
  split
  · simp only [typeCode_empty, List.map_map]
    rfl
  · rfl

end places

section lists
variable {vs : List TypeVariable}

/-- The printed list is read. -/
theorem readList_typeVariablesCode (h : ∀ v ∈ vs, IsPrintable v) :
    readList (typeVariablesCode .empty vs) = some (vs.map listed) := by
  by_cases hnone : vs = []
  · rw [hnone]
    rfl
  · have hcode : (typeVariablesCode .empty vs).toList =
        '<' :: ((", ".intercalate ((vs.map listed).map Entry.code)).toList ++ ['>']) := by
      have hcodes : vs.map (typeVariableCode .empty) = (vs.map listed).map Entry.code := by
        simp [typeVariableCode_eq]
      simp [typeVariablesCode, hnone, hcodes, String.toList_append]
    have hentries : ∀ e ∈ vs.map listed, e.CanBeWritten :=
      List.forall_mem_map.mpr fun v hv => (h v hv).listed
    have hread := readEntries_codes (by simpa using hnone) hentries
    simp only [readList, hcode, List.getLast?_concat, if_true, List.dropLast_concat, hread]

/-- The printed clause is read. -/
theorem readWhere_whereCode (h : ∀ v ∈ vs, IsPrintable v) :
    readWhere (whereCode .empty vs) = some (vs.flatMap constrained) := by
  have hconstraints : vs.flatMap (whereConstraints .empty) =
      ((vs.flatMap constrained).map Constraint.entry).map Entry.code := by
    simp only [funext whereConstraints_eq, List.map_flatMap, List.map_map]
    rfl
  by_cases hnone : vs.flatMap constrained = []
  · rw [whereCode, hconstraints, hnone]
    rfl
  · have hentries : ∀ e ∈ (vs.flatMap constrained).map Constraint.entry, e.CanBeWritten := by
      refine List.forall_mem_map.mpr ?_
      intro c hc
      obtain ⟨v, hv, hc⟩ := List.mem_flatMap.mp hc
      exact (h v hv).constrained hc
    have hread := readEntries_codes (by simpa using hnone) hentries
    have hcode : whereCode .empty vs = " where "
        ++ ", ".intercalate (((vs.flatMap constrained).map Constraint.entry).map Entry.code) := by
      rw [whereCode, hconstraints, if_neg (by simpa using hnone)]
    have hword : Text.afterChars " where ".toList (whereCode .empty vs).toList =
        some (", ".intercalate
          (((vs.flatMap constrained).map Constraint.entry).map Entry.code)).toList := by
      rw [Text.afterChars_eq_some_iff, hcode, String.toList_append]
    have hbounds : ((vs.flatMap constrained).map Constraint.entry).mapM Entry.constraint? =
        some (vs.flatMap constrained) := Traversal.mapM_map_eq_some fun _ _ => rfl
    have hsome : (whereCode .empty vs).isEmpty = false := by simp [hcode]
    simp only [readWhere, hsome, Bool.false_eq_true, if_false, hword, Option.bind_some, hread,
      hbounds]

/-- What the two places have for one name are the bounds of the type parameter of that name. -/
theorem typeVariable_listed (hdistinct : (vs.map (·.name)).Nodup) {v : TypeVariable}
    (hv : v ∈ vs) : (listed v).typeVariable (vs.flatMap constrained) = v := by
  -- The names are distinct, so no constraint of another parameter has this one's name.
  have hown : (vs.flatMap constrained).filter (·.name = v.name) = constrained v := by
    refine Grouping.filter_flatMap_eq_of_unique hdistinct.of_map hv ?_
    intro w hw c hc
    rw [decide_eq_true_iff, (of_mem_constrained hc).1]
    constructor
    · intro hname
      exact List.inj_on_of_nodup_map hdistinct hw hv hname
    · rintro rfl
      rfl
  have hbounds : (listed v).bound.toList ++ (constrained v).map (·.bound) = v.bounds := by
    rcases bounds_cases v with ⟨hnone, hall⟩ | ⟨hnone, hall⟩
    · rw [hnone, hall]
      simp
    · rw [hnone, hall]
      simp [Function.comp_def]
  show TypeVariable.mk v.name ((listed v).bound.toList
    ++ ((vs.flatMap constrained).filter (·.name = v.name)).map (·.bound)) = v
  rw [hown, hbounds]

/-- The bounds in the list and those in the clause are all the bounds, each once. -/
theorem constraints_perm (vs : List TypeVariable) :
    ((vs.map listed).filterMap Entry.constraint? ++ vs.flatMap constrained).Perm
      (vs.flatMap fun v => v.bounds.map (Constraint.mk v.name)) := by
  have hlisted : (vs.map listed).filterMap Entry.constraint? =
      vs.flatMap fun v => (listed v).constraint?.toList := by
    rw [List.filterMap_map, List.filterMap_eq_flatMap_toList]
    rfl
  have hboth : ∀ v : TypeVariable, (listed v).constraint?.toList ++ constrained v =
      v.bounds.map (Constraint.mk v.name) := by
    intro v
    rcases bounds_cases v with ⟨hnone, hall⟩ | ⟨hnone, hall⟩
    · rw [hnone, ← hall, List.append_nil, Entry.constraint?, Option.toList_map]
      rfl
    · rw [Entry.constraint?, hnone, hall]
      rfl
  rw [hlisted, ← funext hboth]
  exact List.flatMap_append_perm vs _ _

end lists

theorem Imports.eq_empty {imports : Imports} (h : ∀ name, imports.contains name = false) :
    imports = .empty := by
  obtain ⟨names, hascending⟩ := imports
  cases names with
  | nil => rfl
  | cons name names => exact absurd (h name) (by simp [Imports.contains])

/-- **Type parameters are read back.**  Where nothing is imported, the printed list and the printed
    `where` clause are read to the end, and give back the type parameters in order, with their
    bounds in order: the bound behind the name, and then those that the clause has for the name.
    The bounds that are read in the two places are all the bounds of the parameters, each as often
    as it is there. -/
theorem typeVariables_read_back {imports : Imports} {vs : List TypeVariable}
    (himports : ∀ name, imports.contains name = false) (hdistinct : (vs.map (·.name)).Nodup)
    (hnames : ∀ v ∈ vs, IsWritable v.name)
    (hbounds : ∀ v ∈ vs, ∀ bound ∈ v.bounds, bound.WellNamed) :
    ∃ entries constraints,
      readList (typeVariablesCode imports vs) = some entries ∧
      readWhere (whereCode imports vs) = some constraints ∧
      entries.map (Entry.typeVariable constraints) = vs ∧
      (entries.filterMap Entry.constraint? ++ constraints).Perm
        (vs.flatMap fun v => v.bounds.map (Constraint.mk v.name)) := by
  have hprintable : ∀ v ∈ vs, IsPrintable v := fun v hv => ⟨hnames v hv, hbounds v hv⟩
  rw [Imports.eq_empty himports]
  refine ⟨vs.map listed, vs.flatMap constrained, readList_typeVariablesCode hprintable,
    readWhere_whereCode hprintable, ?_, constraints_perm vs⟩
  rw [List.map_map]
  conv_rhs => rw [← List.map_id vs]
  exact List.map_congr_left fun v hv => typeVariable_listed hdistinct hv

/-- Type parameters with no bound, one and several.  In the names and in the bounds there are
    commas, colons, brackets and a keyword. -/
def mixed : List TypeVariable :=
  let map : TypeExpr :=
    { name := "kotlin.Map", arguments := [.of (some .consumed) (.named "x,y"), .star],
      nullable := true }
  [{ name := "T" }, { name := "a:b", bounds := [map] },
    { name := "in", bounds := [.applied "Comparable" ["in"], .named "a.b>c"] }]

theorem typeVariables_read_back_mixed :
    (∀ name, Imports.empty.contains name = false) ∧ (mixed.map (·.name)).Nodup ∧
    (∀ v ∈ mixed, IsWritable v.name) ∧
    (∀ v ∈ mixed, ∀ bound ∈ v.bounds, bound.WellNamed) ∧
    typeVariablesCode .empty mixed = "<T, `a:b` : kotlin.Map<in `x,y`, *>?, `in`>" ∧
    whereCode .empty mixed = " where `in` : Comparable<`in`>, `in` : a.`b>c`" ∧
    ∃ entries constraints,
      readList (typeVariablesCode .empty mixed) = some entries ∧
      readWhere (whereCode .empty mixed) = some constraints ∧
      entries.map (Entry.typeVariable constraints) = mixed ∧
      (entries.filterMap Entry.constraint? ++ constraints).Perm
        (mixed.flatMap fun v => v.bounds.map (Constraint.mk v.name)) := by
  have himports : ∀ name, Imports.empty.contains name = false := fun _ => rfl
  have hdistinct : (mixed.map (·.name)).Nodup := by decide
  have hnames : ∀ v ∈ mixed, IsWritable v.name := by
    rintro v (_ | ⟨_, _ | ⟨_, _ | ⟨_, ⟨⟩⟩⟩⟩) <;> decide
  have hnamed {name : String} (h : Name.AreWritable name) : (TypeExpr.named name).WellNamed :=
    .mk h (by simp)
  have hbounds : ∀ v ∈ mixed, ∀ bound ∈ v.bounds, bound.WellNamed := by
    rintro v (_ | ⟨_, _ | ⟨_, _ | ⟨_, ⟨⟩⟩⟩⟩)
    · rintro bound ⟨⟩
    · rintro bound (_ | ⟨_, ⟨⟩⟩)
      refine .mk (by decide) ?_
      rintro v t (_ | ⟨_, _ | ⟨_, ⟨⟩⟩⟩)
      exact hnamed (by decide)
    · rintro bound (_ | ⟨_, _ | ⟨_, ⟨⟩⟩⟩)
      · refine .mk (by decide) ?_
        rintro v t (_ | ⟨_, ⟨⟩⟩)
        exact hnamed (by decide)
      · exact hnamed (by decide)
  exact ⟨himports, hdistinct, hnames, hbounds, by decide, by decide,
    typeVariables_read_back himports hdistinct hnames hbounds⟩

end CompanionSource.Source
