import CompanionSource.TypeExpr.Parser

/-! # What the readers take

    The readers of type expressions call one another on what is left of the input.  Here each of
    them gets one statement that says all it can do: which values it takes from the front of an
    input, and what it leaves.  Nothing after this looks into a reader again.

    * What may stand in an input is **derived**, with one case for each form: an identifier is
      bare or between backticks, an argument is a star, a projection or a type.
    * A reader that is told to stop by what follows **looks ahead**.  The cases say what it must
      see, and what it must not see.
    * The derivations of types and of their arguments are one relation over the **items** that
      are read, so that a single induction goes through all of them. -/

namespace CompanionSource.TypeExpr.Parser

open Text (skipBlanks)

/-- The reader took the value from the front of its input, and left the rest. -/
def Took {α : Type} {input : List Char} (outcome : Except Fault (Taken α input)) (value : α)
    (rest : List Char) : Prop :=
  ∃ shorter, outcome = .ok ⟨value, rest, shorter⟩

section took
variable {α : Type} {input rest : List Char} {outcome : Except Fault (Taken α input)} {value : α}

theorem Took.shorter (h : Took outcome value rest) : rest.length < input.length := by
  obtain ⟨hshorter, -⟩ := h
  exact hshorter

@[simp] theorem took_ok_iff {taken : Taken α input} :
    Took (.ok taken) value rest ↔ taken.value = value ∧ taken.rest = rest := by
  obtain ⟨v, r, h⟩ := taken
  constructor
  · rintro ⟨_, heq⟩
    cases heq
    exact ⟨rfl, rfl⟩
  · rintro ⟨rfl, rfl⟩
    exact ⟨h, rfl⟩

@[simp] theorem not_took_error {fault : Fault} :
    ¬Took (.error fault : Except Fault (Taken α input)) value rest := by
  rintro ⟨_, heq⟩
  cases heq

end took

/-! ### Marks -/

section marks
variable {c : Char} {input rest : List Char}

theorem symbol_eq_none_iff : symbol c input = none ↔ input.head? ≠ some c := by
  cases input with
  | nil => simp [symbol]
  | cons d ds => by_cases h : d = c <;> simp [symbol, h]

theorem eq_of_symbol {found : { rest : List Char // rest.length < input.length }}
    (h : symbol c input = some found) : input = c :: found.val := by
  cases input with
  | nil => cases h
  | cons d ds =>
    by_cases hd : d = c
    · simp only [symbol, hd, if_true, Option.some.injEq] at h
      rw [← h, hd]
    · simp [symbol, hd] at h

theorem exists_symbol_eq_some (h : input = c :: rest) :
    ∃ hshorter, symbol c input = some ⟨rest, hshorter⟩ := by
  subst h
  exact ⟨by simp, by simp [symbol]⟩

theorem blanksSymbol_eq_none_iff :
    blanksSymbol c input = none ↔ (skipBlanks input).head? ≠ some c := by
  rw [blanksSymbol, Option.map_eq_none_iff, symbol_eq_none_iff]

theorem eq_of_blanksSymbol {found : { rest : List Char // rest.length < input.length }}
    (h : blanksSymbol c input = some found) : skipBlanks input = c :: found.val := by
  obtain ⟨found', hfound', rfl⟩ := Option.map_eq_some_iff.mp h
  exact eq_of_symbol hfound'

theorem exists_blanksSymbol_eq_some (h : skipBlanks input = c :: rest) :
    ∃ hshorter, blanksSymbol c input = some ⟨rest, hshorter⟩ := by
  obtain ⟨_, hfound⟩ := exists_symbol_eq_some h
  have hshorter : rest.length < input.length := by
    have hlength := Text.length_skipBlanks_le input
    rw [h, List.length_cons] at hlength
    omega
  exact ⟨hshorter, by rw [blanksSymbol, hfound]; rfl⟩

end marks

/-! ### Identifiers -/

/-- An identifier at the front of an input. -/
inductive ReadsIdentifier : List Char → String → List Char → Prop
  /-- Between backticks: anything but a backtick, and not nothing. -/
  | quoted {name : List Char} (hclosed : '`' ∉ name) (hnonempty : name ≠ [])
      (rest : List Char) :
      ReadsIdentifier ('`' :: (name ++ '`' :: rest)) (String.ofList name) rest
  /-- Bare: as far as the characters go on with it. -/
  | bare {first : Char} {more rest : List Char} (hfirst : Text.startsName first)
      (hmore : ∀ c ∈ more, Text.continuesName c)
      (hrest : ∀ c ∈ rest.head?, ¬Text.continuesName c) :
      ReadsIdentifier (first :: (more ++ rest)) (String.ofList (first :: more)) rest

theorem exists_untilBacktick_eq_some {name : List Char} (h : '`' ∉ name) (rest : List Char) :
    ∃ hshorter, untilBacktick (name ++ '`' :: rest) = some ⟨name, rest, hshorter⟩ := by
  induction name with
  | nil => exact ⟨by simp, by simp [untilBacktick]⟩
  | cons c name ih =>
    rw [List.mem_cons, not_or] at h
    obtain ⟨hshorter, hname⟩ := ih h.2
    refine ⟨by simp; omega, ?_⟩
    simp only [List.cons_append, untilBacktick, Ne.symm h.1, if_false, hname]

theorem eq_of_untilBacktick {input : List Char} {taken : Taken (List Char) input}
    (h : untilBacktick input = some taken) :
    input = taken.value ++ '`' :: taken.rest ∧ '`' ∉ taken.value := by
  induction input with
  | nil => cases h
  | cons c cs ih =>
    by_cases hc : c = '`'
    · simp only [untilBacktick, hc, if_true, Option.some.injEq] at h
      rw [← h]
      simp [hc]
    · cases hmore : untilBacktick cs with
      | none => simp [untilBacktick, hc, hmore] at h
      | some more =>
        obtain ⟨hcs, hname⟩ := ih hmore
        simp only [untilBacktick, hc, if_false, hmore, Option.some.injEq] at h
        rw [← h]
        exact ⟨congrArg (c :: ·) hcs, by simp [hname, Ne.symm hc]⟩

/-- A backtick does not begin a bare identifier. -/
theorem ne_backtick_of_startsName {c : Char} (h : Text.startsName c) : c ≠ '`' := by
  rintro rfl
  rw [Text.startsName_eq_false (by decide)] at h
  cases h

theorem takeWhile_continues {more rest : List Char} (hmore : ∀ c ∈ more, Text.continuesName c)
    (hrest : ∀ c ∈ rest.head?, ¬Text.continuesName c) :
    (more ++ rest).takeWhile Text.continuesName = more
      ∧ (more ++ rest).dropWhile Text.continuesName = rest := by
  rw [List.takeWhile_append_of_pos hmore, List.dropWhile_append_of_pos hmore]
  cases rest with
  | nil => simp
  | cons c cs =>
    have hc : ¬Text.continuesName c := hrest c rfl
    simp [hc]

theorem readsIdentifier_of_took {input : List Char} {name : String} {rest : List Char}
    (h : Took (identifier input) name rest) : ReadsIdentifier input name rest := by
  unfold identifier at h
  split at h
  · exact absurd h not_took_error
  · next c cs =>
    split at h
    · next hquote =>
      subst hquote
      split at h
      · exact absurd h not_took_error
      · exact absurd h not_took_error
      · next more rest' _ hnonempty hfound =>
        obtain ⟨rfl, rfl⟩ := took_ok_iff.mp h
        obtain ⟨hcs, hclosed⟩ := eq_of_untilBacktick hfound
        show ReadsIdentifier ('`' :: cs) (String.ofList more) rest'
        rw [hcs]
        exact .quoted hclosed (fun hempty => hnonempty hempty) rest'
    · split at h
      · next hfirst =>
        obtain ⟨rfl, rfl⟩ := took_ok_iff.mp h
        have hcs := List.takeWhile_append_dropWhile (p := Text.continuesName) (l := cs)
        conv => arg 1; rw [← hcs]
        refine .bare hfirst (List.all_eq_true.mp List.all_takeWhile) ?_
        intro d hd
        have hhead := List.head?_dropWhile_not Text.continuesName cs
        rw [Option.mem_def.mp hd] at hhead
        simpa using hhead
      · exact absurd h not_took_error

theorem ReadsIdentifier.took {input : List Char} {name : String} {rest : List Char}
    (h : ReadsIdentifier input name rest) : Took (identifier input) name rest := by
  cases h with
  | @quoted name hclosed hnonempty =>
    obtain ⟨_, hfound⟩ := exists_untilBacktick_eq_some hclosed rest
    obtain ⟨c, cs, rfl⟩ := List.exists_cons_of_ne_nil hnonempty
    unfold identifier
    simp only [if_true, hfound]
    exact ⟨_, rfl⟩
  | @bare first more _ hfirst hmore hrest =>
    obtain ⟨htake, hdrop⟩ := takeWhile_continues hmore hrest
    unfold identifier
    simp only [ne_backtick_of_startsName hfirst, if_false, hfirst, if_true, took_ok_iff, htake,
      hdrop, and_self]

/-! ### Dotted names -/

/-- A dotted name at the front of an input. -/
inductive ReadsName : List Char → String → List Char → Prop
  /-- The last segment, with no dot after it. -/
  | single {input : List Char} {name : String} {rest : List Char}
      (hname : ReadsIdentifier input name rest) (hend : rest.head? ≠ some '.') :
      ReadsName input name rest
  /-- A segment, a dot, and the name that goes on behind it. -/
  | dotted {input : List Char} {first others : String} {more rest : List Char}
      (hfirst : ReadsIdentifier input first ('.' :: more)) (hothers : ReadsName more others rest) :
      ReadsName input (first ++ "." ++ others) rest

theorem readsName_of_took {input : List Char} {name : String} {rest : List Char}
    (h : Took (dottedName input) name rest) : ReadsName input name rest := by
  unfold dottedName at h
  split at h
  · exact absurd h not_took_error
  · next first after _ hidentifier =>
    have hfirst := readsIdentifier_of_took ⟨_, hidentifier⟩
    split at h
    · next hend =>
      obtain ⟨rfl, rfl⟩ := took_ok_iff.mp h
      exact .single hfirst (symbol_eq_none_iff.mp hend)
    · next more _ hdot =>
      split at h
      · exact absurd h not_took_error
      · next others rest' _ hothers =>
        obtain ⟨rfl, rfl⟩ := took_ok_iff.mp h
        have hafter : after = '.' :: more := eq_of_symbol hdot
        rw [hafter] at hfirst
        exact .dotted hfirst (readsName_of_took ⟨_, hothers⟩)
termination_by input.length

theorem ReadsName.took {input : List Char} {name : String} {rest : List Char}
    (h : ReadsName input name rest) : Took (dottedName input) name rest := by
  induction h with
  | single hname hend =>
    obtain ⟨_, hidentifier⟩ := hname.took
    unfold dottedName
    simp only [hidentifier, symbol_eq_none_iff.mpr hend, took_ok_iff, and_self]
  | @dotted _ _ _ more _ hfirst _ ih =>
    obtain ⟨_, hidentifier⟩ := hfirst.took
    obtain ⟨_, hdot⟩ := exists_symbol_eq_some (rfl : '.' :: more = '.' :: more)
    obtain ⟨_, hmore⟩ := ih
    unfold dottedName
    simp only [hidentifier, hdot, hmore, took_ok_iff, and_self]

/-! ### Types and their arguments -/

/-- A question mark at the front of an input, after blanks, or none. -/
inductive ReadsQuestion : List Char → Bool → List Char → Prop
  | present {input rest : List Char} (hmark : skipBlanks input = '?' :: rest) :
      ReadsQuestion input true rest
  | absent {input : List Char} (hmark : (skipBlanks input).head? ≠ some '?') :
      ReadsQuestion input false input

theorem questionMark_iff {input : List Char} {nullable : Bool} {rest : List Char} :
    (∃ hshorter, questionMark input = (nullable, ⟨rest, hshorter⟩))
      ↔ ReadsQuestion input nullable rest := by
  unfold questionMark
  constructor
  · rintro ⟨_, h⟩
    split at h
    · next found _ hfound =>
      cases h
      exact .present (eq_of_blanksSymbol hfound)
    · next hnone =>
      cases h
      exact .absent (blanksSymbol_eq_none_iff.mp hnone)
  · intro h
    cases h with
    | present hmark =>
      obtain ⟨_, hfound⟩ := exists_blanksSymbol_eq_some hmark
      exact ⟨_, by rw [hfound]⟩
    | absent hmark => exact ⟨_, by rw [blanksSymbol_eq_none_iff.mpr hmark]⟩

/-- What one of the mutually recursive readers reads. -/
inductive Item where
  /-- A type. -/
  | type (t : TypeExpr)
  /-- Type arguments up to the closing bracket. -/
  | arguments (as : List (TypeArgument TypeExpr))
  /-- One type argument. -/
  | argument (a : TypeArgument TypeExpr)

/-- The item at the front of an input, and what is left behind it. -/
inductive Reads : List Char → Item → List Char → Prop
  /-- A type without arguments: no bracket opens behind its name. -/
  | simple {input : List Char} {name : String} {after : List Char} {nullable : Bool}
      {rest : List Char} (hname : ReadsName (skipBlanks input) name after)
      (hbracket : (skipBlanks after).head? ≠ some '<')
      (hquestion : ReadsQuestion after nullable rest) :
      Reads input (.type ⟨name, [], nullable⟩) rest
  /-- A type with arguments. -/
  | applied {input : List Char} {name : String} {after inside : List Char}
      {as : List (TypeArgument TypeExpr)} {behind : List Char} {nullable : Bool}
      {rest : List Char} (hname : ReadsName (skipBlanks input) name after)
      (hbracket : skipBlanks after = '<' :: inside)
      (harguments : Reads inside (.arguments as) behind)
      (hquestion : ReadsQuestion behind nullable rest) :
      Reads input (.type ⟨name, as, nullable⟩) rest
  /-- The last argument, with the closing bracket behind it. -/
  | last {input : List Char} {a : TypeArgument TypeExpr} {after rest : List Char}
      (hargument : Reads input (.argument a) after) (hclose : skipBlanks after = '>' :: rest) :
      Reads input (.arguments [a]) rest
  /-- An argument that a comma parts from the next ones. -/
  | more {input : List Char} {a : TypeArgument TypeExpr} {after inside : List Char}
      {as : List (TypeArgument TypeExpr)} {rest : List Char}
      (hargument : Reads input (.argument a) after) (hcomma : skipBlanks after = ',' :: inside)
      (hmore : Reads inside (.arguments as) rest) :
      Reads input (.arguments (a :: as)) rest
  /-- Any argument. -/
  | star {input rest : List Char} (hstar : skipBlanks input = '*' :: rest) :
      Reads input (.argument .star) rest
  /-- A projection: its word, and the type behind it. -/
  | projected {input : List Char} {word : String} {after : List Char} {v : Variance}
      {t : TypeExpr} {rest : List Char}
      (hword : ReadsIdentifier (skipBlanks input) word after)
      (hvariance : variance? word after = some v) (htype : Reads after (.type t) rest) :
      Reads input (.argument (.of (some v) t)) rest
  /-- A type that stands for itself: it does not begin with the word of a projection. -/
  | plain {input : List Char} {word : String} {after : List Char} {t : TypeExpr}
      {rest : List Char} (hword : ReadsIdentifier (skipBlanks input) word after)
      (hvariance : variance? word after = none)
      (htype : Reads (skipBlanks input) (.type t) rest) :
      Reads input (.argument (.of none t)) rest

/-- The reader of such items takes this one. -/
def Item.Took (input : List Char) (item : Item) (rest : List Char) : Prop :=
  match item with
  | .type t => Parser.Took (typeExpr input) t rest
  | .arguments as => Parser.Took (Parser.arguments input) as rest
  | .argument a => Parser.Took (Parser.argument input) a rest

/-- No identifier begins with a star. -/
theorem ReadsIdentifier.head?_ne_star {input : List Char} {name : String} {rest : List Char}
    (h : ReadsIdentifier input name rest) : input.head? ≠ some '*' := by
  cases h with
  | quoted => simp
  | bare hfirst =>
    rintro hstar
    obtain rfl : _ = '*' := by simpa using hstar
    rw [Text.startsName_eq_false (by decide)] at hfirst
    cases hfirst

theorem Reads.took {input : List Char} {item : Item} {rest : List Char}
    (h : Reads input item rest) : item.Took input rest := by
  induction h with
  | simple hname hbracket hquestion =>
    obtain ⟨_, hname⟩ := hname.took
    obtain ⟨_, hquestion⟩ := questionMark_iff.mpr hquestion
    unfold Item.Took typeExpr
    simp only [hname, blanksSymbol_eq_none_iff.mpr hbracket, hquestion, took_ok_iff, and_self]
  | applied hname hbracket _ hquestion ih =>
    obtain ⟨_, hname⟩ := hname.took
    obtain ⟨_, hbracket⟩ := exists_blanksSymbol_eq_some hbracket
    obtain ⟨_, harguments⟩ := ih
    obtain ⟨_, hquestion⟩ := questionMark_iff.mpr hquestion
    unfold Item.Took typeExpr
    simp only [hname, hbracket, harguments, hquestion, took_ok_iff, and_self]
  | @last _ _ after _ _ hclose ih =>
    obtain ⟨_, hargument⟩ := ih
    have hcomma : (skipBlanks after).head? ≠ some ',' := by simp [hclose]
    obtain ⟨_, hclose⟩ := exists_blanksSymbol_eq_some hclose
    unfold Item.Took Parser.arguments
    simp only [hargument, blanksSymbol_eq_none_iff.mpr hcomma, hclose, took_ok_iff, and_self]
  | more _ hcomma _ ihargument ihmore =>
    obtain ⟨_, hargument⟩ := ihargument
    obtain ⟨_, hcomma⟩ := exists_blanksSymbol_eq_some hcomma
    obtain ⟨_, hmore⟩ := ihmore
    unfold Item.Took Parser.arguments
    simp only [hargument, hcomma, hmore, took_ok_iff, and_self]
  | star hstar =>
    obtain ⟨_, hstar⟩ := exists_blanksSymbol_eq_some hstar
    unfold Item.Took Parser.argument
    simp only [hstar, took_ok_iff, and_self]
  | projected hword hvariance _ ih =>
    have hstar := blanksSymbol_eq_none_iff.mpr hword.head?_ne_star
    obtain ⟨_, hword⟩ := hword.took
    obtain ⟨_, htype⟩ := ih
    unfold Item.Took Parser.argument
    simp only [hstar, hword, hvariance, htype, took_ok_iff, and_self]
  | plain hword hvariance _ ih =>
    have hstar := blanksSymbol_eq_none_iff.mpr hword.head?_ne_star
    obtain ⟨_, hword⟩ := hword.took
    obtain ⟨_, htype⟩ := ih
    unfold Item.Took Parser.argument
    simp only [hstar, hword, hvariance, htype, took_ok_iff, and_self]

mutual

theorem reads_type_of_took {input : List Char} {t : TypeExpr} {rest : List Char}
    (h : Took (typeExpr input) t rest) : Reads input (.type t) rest := by
  have hskip := Text.length_skipBlanks_le input
  unfold typeExpr at h
  split at h
  · exact absurd h not_took_error
  · next name after _ hdotted =>
    have hname := readsName_of_took ⟨_, hdotted⟩
    split at h
    · next hbracket =>
      split at h
      next nullable rest' _ hquestion =>
      obtain ⟨rfl, rfl⟩ := took_ok_iff.mp h
      exact .simple hname (blanksSymbol_eq_none_iff.mp hbracket)
        (questionMark_iff.mp ⟨_, hquestion⟩)
    · next inside _ hbracket =>
      split at h
      · exact absurd h not_took_error
      · next as behind _ harguments =>
        split at h
        next nullable rest' _ hquestion =>
        obtain ⟨rfl, rfl⟩ := took_ok_iff.mp h
        exact .applied hname (eq_of_blanksSymbol hbracket)
          (reads_arguments_of_took ⟨_, harguments⟩) (questionMark_iff.mp ⟨_, hquestion⟩)
termination_by 3 * input.length

theorem reads_arguments_of_took {input : List Char} {as : List (TypeArgument TypeExpr)}
    {rest : List Char} (h : Took (arguments input) as rest) :
    Reads input (.arguments as) rest := by
  unfold arguments at h
  split at h
  · exact absurd h not_took_error
  · next first after _ hfirst =>
    have hargument := reads_argument_of_took ⟨_, hfirst⟩
    split at h
    · next more _ hcomma =>
      split at h
      · exact absurd h not_took_error
      · next others rest' _ hothers =>
        obtain ⟨rfl, rfl⟩ := took_ok_iff.mp h
        exact .more hargument (eq_of_blanksSymbol hcomma) (reads_arguments_of_took ⟨_, hothers⟩)
    · split at h
      · next rest' _ hclose =>
        obtain ⟨rfl, rfl⟩ := took_ok_iff.mp h
        exact .last hargument (eq_of_blanksSymbol hclose)
      · exact absurd h not_took_error
termination_by 3 * input.length + 2

theorem reads_argument_of_took {input : List Char} {a : TypeArgument TypeExpr}
    {rest : List Char} (h : Took (argument input) a rest) : Reads input (.argument a) rest := by
  have hskip := Text.length_skipBlanks_le input
  unfold argument at h
  split at h
  · next rest' _ hstar =>
    obtain ⟨rfl, rfl⟩ := took_ok_iff.mp h
    exact .star (eq_of_blanksSymbol hstar)
  · split at h
    · exact absurd h not_took_error
    · next word after _ hidentifier =>
      have hword := readsIdentifier_of_took ⟨_, hidentifier⟩
      split at h
      · next v hvariance =>
        split at h
        · exact absurd h not_took_error
        · next t rest' _ htype =>
          obtain ⟨rfl, rfl⟩ := took_ok_iff.mp h
          exact .projected hword hvariance (reads_type_of_took ⟨_, htype⟩)
      · next hvariance =>
        split at h
        · exact absurd h not_took_error
        · next t rest' _ htype =>
          obtain ⟨rfl, rfl⟩ := took_ok_iff.mp h
          exact .plain hword hvariance (reads_type_of_took ⟨_, htype⟩)
termination_by 3 * input.length + 1

end

theorem took_typeExpr_iff {input : List Char} {t : TypeExpr} {rest : List Char} :
    Took (typeExpr input) t rest ↔ Reads input (.type t) rest :=
  ⟨reads_type_of_took, fun h => h.took⟩

end CompanionSource.TypeExpr.Parser

namespace CompanionSource.TypeExpr

/-- A text is the type that can be derived from all of it, up to blanks behind. -/
theorem parse_eq_ok_iff {text : String} {t : TypeExpr} :
    parse text = .ok t
      ↔ ∃ rest, Parser.Reads text.toList (.type t) rest ∧ Text.skipBlanks rest = [] := by
  unfold parse
  constructor
  · intro h
    split at h
    · cases h
    · next t' rest _ htype =>
      split at h
      · next hrest =>
        cases h
        exact ⟨rest, Parser.reads_type_of_took ⟨_, htype⟩, hrest⟩
      · cases h
  · rintro ⟨rest, hreads, hrest⟩
    obtain ⟨_, htype⟩ := Parser.took_typeExpr_iff.mpr hreads
    simp only [htype, hrest]

end CompanionSource.TypeExpr
