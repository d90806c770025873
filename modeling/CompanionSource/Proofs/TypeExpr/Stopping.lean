import CompanionSource.Proofs.TypeExpr.Reading

/-! # Where the readers stop

    A reader that does not take anything stops somewhere in its input and complains about what is
    left there.  Here each reader gets the other half of its statement: the inputs it refuses, where
    it stops in them, and why.

    * An **identifier** is refused where it would begin, at the end of a text that leaves it open, or
      behind two backticks with nothing between them.
    * A **name**, a type and arguments are refused in one of their parts, and the parts in front of
      that one have been read.
    * The **mark** behind an argument is looked for behind blanks, and it is refused there.

    What is refused is derived, as what is read is, with one case for each way to come to a stop. -/

namespace CompanionSource.TypeExpr.Parser

open Text (skipBlanks)

/-! ### Identifiers -/

/-- An identifier is refused: where the reader stops, and why. -/
inductive RefusesIdentifier : List Char → List Char → Complaint → Prop
  /-- Nothing that an identifier begins with. -/
  | expected {input : List Char} (hfirst : ∀ c ∈ input.head?, c ≠ '`' ∧ ¬Text.startsName c) :
      RefusesIdentifier input input .identifierExpected
  /-- A backtick, and no other one to close it. -/
  | unterminated {name : List Char} (hopen : '`' ∉ name) :
      RefusesIdentifier ('`' :: name) [] .backticksUnterminated
  /-- Two backticks with nothing between them. -/
  | empty (rest : List Char) : RefusesIdentifier ('`' :: '`' :: rest) rest .backticksEmpty

variable {input rest : List Char} {complaint : Complaint}

theorem untilBacktick_eq_none_iff : untilBacktick input = none ↔ '`' ∉ input := by
  constructor
  · intro h hmem
    -- What stands in front of the first backtick would be found.
    obtain ⟨before, after, rfl, hbefore⟩ := List.eq_append_cons_of_mem hmem
    obtain ⟨_, hfound⟩ := exists_untilBacktick_eq_some hbefore after
    rw [h] at hfound
    cases hfound
  · intro h
    cases hfound : untilBacktick input with
    | none => rfl
    | some taken =>
      obtain ⟨hinput, -⟩ := eq_of_untilBacktick hfound
      exact absurd (hinput ▸ List.mem_append_right _ List.mem_cons_self) h

theorem refusesIdentifier_of_error (h : identifier input = .error ⟨rest, complaint⟩) :
    RefusesIdentifier input rest complaint := by
  unfold identifier at h
  split at h
  · cases h
    exact .expected (by simp)
  · next c cs =>
    split at h
    · next hquote =>
      subst hquote
      split at h
      · next hnone =>
        cases h
        exact .unterminated (untilBacktick_eq_none_iff.mp hnone)
      · next rest' _ hempty =>
        cases h
        obtain ⟨hcs, -⟩ := eq_of_untilBacktick hempty
        rw [hcs]
        exact .empty _
      · cases h
    · next hquote =>
      split at h
      · cases h
      · next hstarts =>
        cases h
        refine .expected ?_
        rintro d ⟨⟩
        exact ⟨hquote, hstarts⟩

theorem RefusesIdentifier.error (h : RefusesIdentifier input rest complaint) :
    identifier input = .error ⟨rest, complaint⟩ := by
  cases h with
  | expected hfirst =>
    cases input with
    | nil => rfl
    | cons c cs =>
      obtain ⟨hquote, hstarts⟩ := hfirst c rfl
      simp only [identifier, hquote, if_false, hstarts]
      rfl
  | unterminated hopen =>
    simp only [identifier, if_true, untilBacktick_eq_none_iff.mpr hopen]
  | empty =>
    have hfound : untilBacktick ('`' :: rest) = some ⟨[], rest, by simp⟩ := by simp [untilBacktick]
    simp only [identifier, if_true, hfound]

/-- What is refused is not read. -/
theorem RefusesIdentifier.not_reads {name : String} {after : List Char}
    (h : RefusesIdentifier input rest complaint) : ¬ReadsIdentifier input name after := by
  intro hread
  obtain ⟨_, htook⟩ := hread.took
  rw [h.error] at htook
  cases htook

/-! ### Names -/

/-- A dotted name is refused. -/
inductive RefusesName : List Char → List Char → Complaint → Prop
  /-- In the segment that stands first. -/
  | here {input rest : List Char} {complaint : Complaint}
      (hfirst : RefusesIdentifier input rest complaint) : RefusesName input rest complaint
  /-- Behind a segment and its dot. -/
  | behind {input more rest : List Char} {first : String} {complaint : Complaint}
      (hfirst : ReadsIdentifier input first ('.' :: more))
      (hothers : RefusesName more rest complaint) : RefusesName input rest complaint

theorem refusesName_of_error {input : List Char}
    (h : dottedName input = .error ⟨rest, complaint⟩) : RefusesName input rest complaint := by
  unfold dottedName at h
  split at h
  · next hidentifier =>
    cases h
    exact .here (refusesIdentifier_of_error hidentifier)
  · next first after _ hidentifier =>
    have hfirst := readsIdentifier_of_took ⟨_, hidentifier⟩
    split at h
    · cases h
    · next more _ hdot =>
      split at h
      · next hothers =>
        cases h
        have hafter : after = '.' :: more := eq_of_symbol hdot
        rw [hafter] at hfirst
        exact .behind hfirst (refusesName_of_error hothers)
      · cases h
termination_by input.length

theorem RefusesName.error (h : RefusesName input rest complaint) :
    dottedName input = .error ⟨rest, complaint⟩ := by
  induction h with
  | here hfirst =>
    unfold dottedName
    simp only [hfirst.error]
  | @behind _ more _ _ _ hfirst _ ih =>
    obtain ⟨_, hidentifier⟩ := hfirst.took
    obtain ⟨_, hdot⟩ := exists_symbol_eq_some (rfl : '.' :: more = '.' :: more)
    unfold dottedName
    simp only [hidentifier, hdot, ih]

/-! ### Types and their arguments -/

/-- What a reader of items looks for. -/
inductive ItemKind where
  /-- A type. -/
  | type
  /-- Type arguments up to the closing bracket. -/
  | arguments
  /-- One type argument. -/
  | argument

/-- An item of some kind is refused. -/
inductive Refuses : List Char → ItemKind → List Char → Complaint → Prop
  /-- A type, in its name. -/
  | name {input rest : List Char} {complaint : Complaint}
      (hname : RefusesName (skipBlanks input) rest complaint) :
      Refuses input .type rest complaint
  /-- A type, in the arguments behind its name. -/
  | inside {input after inside rest : List Char} {name : String} {complaint : Complaint}
      (hname : ReadsName (skipBlanks input) name after) (hbracket : skipBlanks after = '<' :: inside)
      (harguments : Refuses inside .arguments rest complaint) :
      Refuses input .type rest complaint
  /-- Arguments, in the one that stands first. -/
  | first {input rest : List Char} {complaint : Complaint}
      (hargument : Refuses input .argument rest complaint) :
      Refuses input .arguments rest complaint
  /-- Arguments, in those behind the first one and its comma. -/
  | others {input after inside rest : List Char} {a : TypeArgument TypeExpr}
      {complaint : Complaint} (hargument : Reads input (.argument a) after)
      (hcomma : skipBlanks after = ',' :: inside)
      (hothers : Refuses inside .arguments rest complaint) :
      Refuses input .arguments rest complaint
  /-- Arguments, behind the first one: it is neither followed by more nor the last one. -/
  | unclosed {input after : List Char} {a : TypeArgument TypeExpr}
      (hargument : Reads input (.argument a) after) (hcomma : (skipBlanks after).head? ≠ some ',')
      (hclose : (skipBlanks after).head? ≠ some '>') :
      Refuses input .arguments (skipBlanks after) .commaOrCloseExpected
  /-- An argument, in the identifier that it begins with. -/
  | word {input rest : List Char} {complaint : Complaint}
      (hstar : (skipBlanks input).head? ≠ some '*')
      (hword : RefusesIdentifier (skipBlanks input) rest complaint) :
      Refuses input .argument rest complaint
  /-- An argument, in the type behind the word of a projection. -/
  | projected {input after rest : List Char} {word : String} {v : Variance}
      {complaint : Complaint} (hword : ReadsIdentifier (skipBlanks input) word after)
      (hvariance : variance? word after = some v) (htype : Refuses after .type rest complaint) :
      Refuses input .argument rest complaint
  /-- An argument, in the type that stands for itself. -/
  | plain {input after rest : List Char} {word : String} {complaint : Complaint}
      (hword : ReadsIdentifier (skipBlanks input) word after)
      (hvariance : variance? word after = none)
      (htype : Refuses (skipBlanks input) .type rest complaint) :
      Refuses input .argument rest complaint

/-- The reader of such items stops with the complaint. -/
def ItemKind.Stops (kind : ItemKind) (input rest : List Char) (complaint : Complaint) : Prop :=
  match kind with
  | .type => typeExpr input = .error ⟨rest, complaint⟩
  | .arguments => Parser.arguments input = .error ⟨rest, complaint⟩
  | .argument => Parser.argument input = .error ⟨rest, complaint⟩

theorem Refuses.stops {kind : ItemKind} (h : Refuses input kind rest complaint) :
    kind.Stops input rest complaint := by
  induction h with
  | name hname =>
    unfold ItemKind.Stops typeExpr
    simp only [hname.error]
  | inside hname hbracket _ ih =>
    obtain ⟨_, hname⟩ := hname.took
    obtain ⟨_, hbracket⟩ := exists_blanksSymbol_eq_some hbracket
    unfold ItemKind.Stops at ih
    unfold ItemKind.Stops typeExpr
    simp only [hname, hbracket, ih]
  | first _ ih =>
    unfold ItemKind.Stops at ih
    unfold ItemKind.Stops Parser.arguments
    simp only [ih]
  | others hargument hcomma _ ih =>
    obtain ⟨_, hargument⟩ := hargument.took
    obtain ⟨_, hcomma⟩ := exists_blanksSymbol_eq_some hcomma
    unfold ItemKind.Stops at ih
    unfold ItemKind.Stops Parser.arguments
    simp only [hargument, hcomma, ih]
  | unclosed hargument hcomma hclose =>
    obtain ⟨_, hargument⟩ := hargument.took
    unfold ItemKind.Stops Parser.arguments
    simp only [hargument, blanksSymbol_eq_none_iff.mpr hcomma, blanksSymbol_eq_none_iff.mpr hclose]
  | word hstar hword =>
    unfold ItemKind.Stops Parser.argument
    simp only [blanksSymbol_eq_none_iff.mpr hstar, hword.error]
  | projected hword hvariance _ ih =>
    have hstar := blanksSymbol_eq_none_iff.mpr hword.head?_ne_star
    obtain ⟨_, hword⟩ := hword.took
    unfold ItemKind.Stops at ih
    unfold ItemKind.Stops Parser.argument
    simp only [hstar, hword, hvariance, ih]
  | plain hword hvariance _ ih =>
    have hstar := blanksSymbol_eq_none_iff.mpr hword.head?_ne_star
    obtain ⟨_, hword⟩ := hword.took
    unfold ItemKind.Stops at ih
    unfold ItemKind.Stops Parser.argument
    simp only [hstar, hword, hvariance, ih]

mutual

theorem refuses_type_of_error {input : List Char}
    (h : typeExpr input = .error ⟨rest, complaint⟩) : Refuses input .type rest complaint := by
  have hskip := Text.length_skipBlanks_le input
  unfold typeExpr at h
  split at h
  · next hname =>
    cases h
    exact .name (refusesName_of_error hname)
  · next name after _ hdotted =>
    have hname := readsName_of_took ⟨_, hdotted⟩
    split at h
    · cases h
    · next inside _ hbracket =>
      split at h
      · next harguments =>
        cases h
        exact .inside hname (eq_of_blanksSymbol hbracket) (refuses_arguments_of_error harguments)
      · cases h
termination_by 3 * input.length

theorem refuses_arguments_of_error {input : List Char}
    (h : arguments input = .error ⟨rest, complaint⟩) :
    Refuses input .arguments rest complaint := by
  unfold arguments at h
  split at h
  · next hfirst =>
    cases h
    exact .first (refuses_argument_of_error hfirst)
  · next first after _ hfirst =>
    have hargument := reads_argument_of_took ⟨_, hfirst⟩
    split at h
    · next more _ hcomma =>
      split at h
      · next hothers =>
        cases h
        exact .others hargument (eq_of_blanksSymbol hcomma) (refuses_arguments_of_error hothers)
      · cases h
    · next hcomma =>
      split at h
      · cases h
      · next hclose =>
        cases h
        exact .unclosed hargument (blanksSymbol_eq_none_iff.mp hcomma)
          (blanksSymbol_eq_none_iff.mp hclose)
termination_by 3 * input.length + 2

theorem refuses_argument_of_error {input : List Char}
    (h : argument input = .error ⟨rest, complaint⟩) : Refuses input .argument rest complaint := by
  have hskip := Text.length_skipBlanks_le input
  unfold argument at h
  split at h
  · cases h
  · next hstar =>
    split at h
    · next hword =>
      cases h
      exact .word (blanksSymbol_eq_none_iff.mp hstar) (refusesIdentifier_of_error hword)
    · next word after _ hidentifier =>
      have hword := readsIdentifier_of_took ⟨_, hidentifier⟩
      split at h
      · next v hvariance =>
        split at h
        · next htype =>
          cases h
          exact .projected hword hvariance (refuses_type_of_error htype)
        · cases h
      · next hvariance =>
        split at h
        · next htype =>
          cases h
          exact .plain hword hvariance (refuses_type_of_error htype)
        · cases h
termination_by 3 * input.length + 1

end

end CompanionSource.TypeExpr.Parser

namespace CompanionSource.TypeExpr

open Text (skipBlanks)

/-- A whole text is no type. -/
inductive RefusesText : List Char → List Char → Complaint → Prop
  /-- There is no type at its beginning. -/
  | type {text rest : List Char} {complaint : Complaint}
      (htype : Parser.Refuses text .type rest complaint) : RefusesText text rest complaint
  /-- There is one, and more behind it. -/
  | trailing {text after : List Char} {t : TypeExpr} (htype : Parser.Reads text (.type t) after)
      (hmore : skipBlanks after ≠ []) : RefusesText text (skipBlanks after) .inputTrailing

/-- A text that is no type is refused, and the position of the fault is where its reader stops. -/
theorem refusesText_of_error {text : String} {e : ParseError} (h : parse text = .error e) :
    ∃ rest, RefusesText text.toList rest e.complaint ∧
      e.position = text.toList.length - rest.length := by
  unfold parse at h
  split at h
  · next fault htype =>
    cases h
    exact ⟨fault.rest, .type (Parser.refuses_type_of_error htype), rfl⟩
  · next t after _ htype =>
    split at h
    · cases h
    · next more hmore =>
      cases h
      exact ⟨_, .trailing (Parser.reads_type_of_took ⟨_, htype⟩) hmore, rfl⟩

theorem RefusesText.error {text : String} {rest : List Char} {complaint : Complaint}
    (h : RefusesText text.toList rest complaint) :
    parse text = .error ⟨text, text.toList.length - rest.length, complaint⟩ := by
  unfold parse
  cases h with
  | type htype =>
    have hstops : Parser.typeExpr text.toList = .error ⟨rest, complaint⟩ := htype.stops
    simp only [hstops]
  | @trailing after _ htype hmore =>
    obtain ⟨_, htype⟩ := Parser.took_typeExpr_iff.mpr htype
    simp only [htype]

end CompanionSource.TypeExpr
