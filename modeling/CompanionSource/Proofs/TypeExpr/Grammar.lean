import CompanionSource.Proofs.TypeExpr.RoundTrip

/-! # The grammar of types

    Which texts are types, said without a reader.  A **derivation** cuts a text into words, and
    builds the type that the text writes:

    - a whole text is a type and then blanks;
    - a type is a name, with its arguments in brackets and a question mark if it has them, and
      blanks may stand in front of the name and of each mark;
    - a name is made of identifiers with dots between them;
    - an argument is a star, or the word of a projection and behind a blank a type, or a type.

    Each word stands in front of what **follows** it.  Only two productions look at that.  A bare
    identifier goes as far as it can.  And an argument begins with a projection exactly when the
    word of one is followed by blanks and the beginning of another identifier.

    Which words are known for those of projections is left open.  The reader accepts what can be
    derived, and gives the type that is derived, when such a word may stand bare or between
    backticks. -/

namespace CompanionSource.TypeExpr.Grammar

open Text (skipBlanks)
open TypeExpr.Parser (Item EndsName EndsType ReadsIdentifier ReadsName ReadsQuestion Reads
  nameFollows)

/-! ### Words -/

/-- Blanks, or nothing. -/
def Blanks (word : List Char) : Prop :=
  ∀ c ∈ word, Text.isBlank c

instance (word : List Char) : Decidable (Blanks word) :=
  decidable_of_iff (word.all Text.isBlank = true) List.all_eq_true

/-- At least one blank, and then the beginning of an identifier. -/
def LeadsToName (follow : List Char) : Prop :=
  ∃ blanks first rest, blanks ≠ [] ∧ Blanks blanks ∧ (first = '`' ∨ Text.startsName first) ∧
    follow = blanks ++ first :: rest

/-- A word that is an identifier, with the name that it writes. -/
inductive IsIdentifier : List Char → String → List Char → Prop
  /-- A letter or an underscore, and letters, digits and underscores as far as they go. -/
  | bare {first : Char} {more follow : List Char} (hfirst : Text.startsName first)
      (hmore : ∀ c ∈ more, Text.continuesName c)
      (hmaximal : ∀ c ∈ follow.head?, ¬Text.continuesName c) :
      IsIdentifier (first :: more) (String.ofList (first :: more)) follow
  /-- Anything between backticks that is something and has no backtick. -/
  | quoted {name follow : List Char} (hsome : name ≠ []) (hclosed : '`' ∉ name) :
      IsIdentifier ('`' :: (name ++ ['`'])) (String.ofList name) follow

/-- A word that is a dotted name. -/
inductive IsName : List Char → String → List Char → Prop
  /-- One identifier. -/
  | single {word follow : List Char} {name : String} (hname : IsIdentifier word name follow) :
      IsName word name follow
  /-- An identifier, a dot, and the name that goes on behind it. -/
  | dotted {word more follow : List Char} {first others : String}
      (hfirst : IsIdentifier word first ('.' :: (more ++ follow)))
      (hothers : IsName more others follow) :
      IsName (word ++ '.' :: more) (first ++ "." ++ others) follow

/-- A question mark with blanks in front of it, or nothing. -/
inductive IsQuestion : List Char → Bool → Prop
  | absent : IsQuestion [] false
  | present {blanks : List Char} (hblanks : Blanks blanks) : IsQuestion (blanks ++ ['?']) true

/-- The words that are known for those of projections. -/
abbrev Marks : Type := Variance → List Char → Prop

/-- The word of a projection as it stands. -/
def bareWord : Marks := fun v word => word = v.word.toList

/-- The word of a projection between backticks. -/
def quotedWord (v : Variance) : List Char := '`' :: (v.word.toList ++ ['`'])

/-- The word of a projection, whether it stands bare or between backticks. -/
def anyWord : Marks := fun v word => word = v.word.toList ∨ word = quotedWord v

/-! ### Derivations -/

/-- A text begins with a projection: with the word of one, and behind it another name. -/
def BeginsProjection (marks : Marks) (text : List Char) : Prop :=
  ∃ blanks v word rest, Blanks blanks ∧ marks v word ∧ LeadsToName rest ∧
    text = blanks ++ (word ++ rest)

/-- The word that is derived for an item, in front of what follows. -/
inductive Derives (marks : Marks) : Item → List Char → List Char → Prop
  /-- A type without arguments. -/
  | simple {blanks word question follow : List Char} {name : String} {nullable : Bool}
      (hblanks : Blanks blanks) (hname : IsName word name (question ++ follow))
      (hquestion : IsQuestion question nullable) :
      Derives marks (.type ⟨name, [], nullable⟩) (blanks ++ word ++ question) follow
  /-- A type with arguments. -/
  | applied {blanks word gap inside question follow : List Char} {name : String}
      {as : List (TypeArgument TypeExpr)} {nullable : Bool} (hblanks : Blanks blanks)
      (hname : IsName word name (gap ++ '<' :: (inside ++ (question ++ follow))))
      (hgap : Blanks gap) (harguments : Derives marks (.arguments as) inside (question ++ follow))
      (hquestion : IsQuestion question nullable) :
      Derives marks (.type ⟨name, as, nullable⟩)
        (blanks ++ word ++ gap ++ '<' :: (inside ++ question)) follow
  /-- The last argument, and the closing bracket. -/
  | last {word gap follow : List Char} {a : TypeArgument TypeExpr}
      (hargument : Derives marks (.argument a) word (gap ++ '>' :: follow)) (hgap : Blanks gap) :
      Derives marks (.arguments [a]) (word ++ gap ++ ['>']) follow
  /-- An argument, a comma, and the next arguments. -/
  | more {word gap others follow : List Char} {a : TypeArgument TypeExpr}
      {as : List (TypeArgument TypeExpr)}
      (hargument : Derives marks (.argument a) word (gap ++ ',' :: (others ++ follow)))
      (hgap : Blanks gap) (hothers : Derives marks (.arguments as) others follow) :
      Derives marks (.arguments (a :: as)) (word ++ gap ++ ',' :: others) follow
  /-- Any argument. -/
  | star {blanks follow : List Char} (hblanks : Blanks blanks) :
      Derives marks (.argument .star) (blanks ++ ['*']) follow
  /-- A projection: its word, and behind a blank the type. -/
  | projected {blanks word type follow : List Char} {blank : Char} {v : Variance} {t : TypeExpr}
      (hblanks : Blanks blanks) (hword : marks v word) (hblank : Text.isBlank blank)
      (htype : Derives marks (.type t) (blank :: type) follow) :
      Derives marks (.argument (.of (some v) t)) (blanks ++ word ++ blank :: type) follow
  /-- A type that stands for itself. -/
  | plain {word follow : List Char} {t : TypeExpr} (htype : Derives marks (.type t) word follow)
      (hplain : ¬BeginsProjection marks (word ++ follow)) :
      Derives marks (.argument (.of none t)) word follow

/-- The whole text is derived as the type. -/
def IsType (marks : Marks) (text : List Char) (t : TypeExpr) : Prop :=
  ∃ word blanks, Derives marks (.type t) word blanks ∧ Blanks blanks ∧ text = word ++ blanks

/-! ### Blanks -/

section blanks
variable {blanks follow rest : List Char} {c : Char}

theorem Blanks.skipBlanks_append (h : Blanks blanks) (rest : List Char) :
    skipBlanks (blanks ++ rest) = skipBlanks rest :=
  List.dropWhile_append_of_pos h

theorem skipBlanks_cons (hc : Text.isBlank c = false) (rest : List Char) :
    skipBlanks (c :: rest) = c :: rest := by
  simp [skipBlanks, hc]

/-- A text is blanks, and then what is left when they are skipped. -/
theorem exists_blanks (text : List Char) :
    ∃ blanks, Blanks blanks ∧ text = blanks ++ skipBlanks text :=
  ⟨_, List.all_eq_true.mp List.all_takeWhile, List.takeWhile_append_dropWhile.symm⟩

theorem Blanks.not_mem (h : Blanks blanks) (hc : Text.isBlank c = false) : c ∉ blanks := by
  intro hmem
  rw [h c hmem] at hc
  cases hc

theorem not_isBlank_of_beginsName (h : c = '`' ∨ Text.startsName c) : Text.isBlank c = false := by
  rcases h with rfl | h
  · decide
  · rw [Bool.eq_false_iff]
    intro hblank
    rw [Text.startsName_eq_false (Text.not_continuesName_of_isBlank hblank)] at h
    cases h

/-- The reader looks ahead for what leads to a name. -/
theorem nameFollows_iff : nameFollows follow ↔ LeadsToName follow := by
  constructor
  · intro h
    cases follow with
    | nil => cases h
    | cons blank more =>
      obtain ⟨hblank, hname⟩ := Bool.and_eq_true_iff.mp h
      obtain ⟨blanks, hblanks, hmore⟩ := exists_blanks more
      cases hrest : skipBlanks more with
      | nil => simp [hrest] at hname
      | cons first rest =>
        rw [hrest] at hmore hname
        refine ⟨blank :: blanks, first, rest, List.cons_ne_nil _ _, ?_, by simpa using hname, ?_⟩
        · exact List.forall_mem_cons.mpr ⟨hblank, hblanks⟩
        · rw [hmore, List.cons_append]
  · rintro ⟨blanks, first, rest, hsome, hblanks, hfirst, rfl⟩
    obtain ⟨blank, blanks, rfl⟩ := List.exists_cons_of_ne_nil hsome
    obtain ⟨hblank, hblanks⟩ := List.forall_mem_cons.mp hblanks
    have hskip : skipBlanks (blanks ++ first :: rest) = first :: rest := by
      rw [Blanks.skipBlanks_append hblanks, skipBlanks_cons (not_isBlank_of_beginsName hfirst)]
    rw [List.cons_append]
    simpa [nameFollows, hblank, hskip] using hfirst

theorem LeadsToName.exists_blank (h : LeadsToName follow) :
    ∃ blank rest, Text.isBlank blank ∧ follow = blank :: rest := by
  obtain ⟨blanks, first, rest, hsome, hblanks, -, rfl⟩ := h
  obtain ⟨blank, blanks, rfl⟩ := List.exists_cons_of_ne_nil hsome
  exact ⟨blank, blanks ++ first :: rest, hblanks blank List.mem_cons_self, rfl⟩

/-! ### What follows -/

/-- Behind blanks, the name in front is at its end. -/
theorem head?_of_endsName (h : EndsName (skipBlanks follow)) :
    ∀ c ∈ follow.head?, Text.isBlank c ∨ c ∈ ['<', '?', ',', '>'] := by
  intro c hc
  obtain ⟨rest, rfl⟩ : ∃ rest, follow = c :: rest := by
    cases follow with
    | nil => cases hc
    | cons d rest => exact ⟨rest, by rw [Option.some.inj hc]⟩
  cases hblank : Text.isBlank c with
  | true => exact .inl rfl
  | false =>
    rw [skipBlanks_cons hblank] at h
    exact .inr (h c rfl)

theorem not_continues_of_endsName (h : EndsName (skipBlanks follow)) :
    ∀ c ∈ follow.head?, ¬Text.continuesName c := by
  intro c hc
  rcases head?_of_endsName h c hc with hblank | hends
  · simp [Text.not_continuesName_of_isBlank hblank]
  · simp [Parser.not_continuesName_of_endsName hends]

theorem head?_ne_dot_of_endsName (h : EndsName (skipBlanks follow)) : follow.head? ≠ some '.' := by
  intro hdot
  have hends := head?_of_endsName h '.' hdot
  revert hends
  decide

/-- No other name follows a name that is at its end. -/
theorem not_leadsToName_of_endsName (h : EndsName (skipBlanks follow)) : ¬LeadsToName follow := by
  rintro ⟨blanks, first, rest, -, hblanks, hfirst, rfl⟩
  rw [hblanks.skipBlanks_append, skipBlanks_cons (not_isBlank_of_beginsName hfirst)] at h
  have hends := h first rfl
  rcases hfirst with rfl | hfirst
  · revert hends
    decide
  · rw [Text.startsName_eq_false (Parser.not_continuesName_of_endsName hends)] at hfirst
    cases hfirst

/-- A mark behind blanks ends the name in front of them. -/
theorem endsName_mark (hblanks : Blanks blanks) (hc : c ∈ ['<', '?', ',', '>']) :
    EndsName (skipBlanks (blanks ++ c :: rest)) := by
  rw [hblanks.skipBlanks_append, skipBlanks_cons (Parser.not_isBlank_of_endsName hc)]
  rintro d ⟨⟩
  exact hc

theorem endsType_mark (hblanks : Blanks blanks) (hc : c ∈ [',', '>']) :
    EndsType (skipBlanks (blanks ++ c :: rest)) := by
  have hends : [',', '>'] ⊆ ['<', '?', ',', '>'] := by simp
  rw [hblanks.skipBlanks_append, skipBlanks_cons (Parser.not_isBlank_of_endsName (hends hc))]
  rintro d ⟨⟩
  exact hc

/-- Nothing but blanks ends a type. -/
theorem endsType_blanks (hblanks : Blanks blanks) : EndsType (skipBlanks blanks) := by
  rw [skipBlanks, Text.dropWhile_isBlank_eq_nil_iff.mpr hblanks]
  rintro c ⟨⟩

theorem IsQuestion.endsName {question : List Char} {nullable : Bool}
    (h : IsQuestion question nullable) (hfollow : EndsType (skipBlanks follow)) :
    EndsName (skipBlanks (question ++ follow)) := by
  cases h with
  | absent => exact hfollow.endsName
  | present hblanks =>
    rw [List.append_assoc]
    exact endsName_mark hblanks (by simp)

/-- What must follow the word of an item: behind a type and behind an argument a comma, a closing
    bracket or the end. -/
def Ends : Item → List Char → Prop
  | .type _, follow => EndsType (skipBlanks follow)
  | .arguments _, _ => True
  | .argument _, follow => EndsType (skipBlanks follow)

end blanks

/-! ### Derived types -/

section types
variable {marks : Marks} {t : TypeExpr} {word follow : List Char} {name : String}

/-- A type may have more blanks in front. -/
theorem Derives.of_blanks {blanks : List Char} (h : Derives marks (.type t) word follow)
    (hblanks : Blanks blanks) : Derives marks (.type t) (blanks ++ word) follow := by
  cases h with
  | @simple before word question _ name nullable hbefore hname hquestion =>
    have hboth : Blanks (blanks ++ before) := List.forall_mem_append.mpr ⟨hblanks, hbefore⟩
    have hwhole : Derives marks (.type _) _ _ := .simple hboth hname hquestion
    simpa using hwhole
  | @applied before word gap inside question _ name as nullable hbefore hname hgap hinside
      hquestion =>
    have hboth : Blanks (blanks ++ before) := List.forall_mem_append.mpr ⟨hblanks, hbefore⟩
    simpa using Derives.applied hboth hname hgap hinside hquestion

theorem IsIdentifier.exists_cons (h : IsIdentifier word name follow) :
    ∃ first more, word = first :: more ∧ (first = '`' ∨ Text.startsName first) := by
  cases h with
  | bare hfirst => exact ⟨_, _, rfl, .inr hfirst⟩
  | quoted => exact ⟨_, _, rfl, .inl rfl⟩

theorem IsName.exists_cons (h : IsName word name follow) :
    ∃ first more, word = first :: more ∧ (first = '`' ∨ Text.startsName first) := by
  cases h with
  | single hname => exact hname.exists_cons
  | dotted hfirst =>
    obtain ⟨first, more, rfl, hbegins⟩ := hfirst.exists_cons
    exact ⟨first, _, rfl, hbegins⟩

/-- Behind its blanks, a type begins as its name does, and it can be derived without them. -/
theorem Derives.exists_cons (h : Derives marks (.type t) word follow) :
    ∃ blanks first more, Blanks blanks ∧ (first = '`' ∨ Text.startsName first) ∧
      word = blanks ++ first :: more ∧ Derives marks (.type t) (first :: more) follow := by
  cases h with
  | @simple blanks _ question _ _ _ hblanks hname hquestion =>
    obtain ⟨first, more, rfl, hbegins⟩ := hname.exists_cons
    refine ⟨blanks, first, more ++ question, hblanks, hbegins, by simp, ?_⟩
    exact .simple (List.forall_mem_nil _) hname hquestion
  | @applied blanks _ gap inside question _ _ _ _ hblanks hname hgap hinside hquestion =>
    obtain ⟨first, more, rfl, hbegins⟩ := hname.exists_cons
    refine ⟨blanks, first, more ++ gap ++ '<' :: (inside ++ question), hblanks, hbegins, ?_, ?_⟩
    · simp
    · exact .applied (List.forall_mem_nil _) hname hgap hinside hquestion

/-- A type is not only blanks. -/
theorem Derives.not_blanks (h : Derives marks (.type t) word follow) : ¬Blanks word := by
  obtain ⟨blanks, first, more, -, hbegins, rfl, -⟩ := h.exists_cons
  intro hblanks
  have hblank := hblanks first (List.mem_append_right _ List.mem_cons_self)
  rw [not_isBlank_of_beginsName hbegins] at hblank
  cases hblank

/-- A blank and a type lead to the name of the type. -/
theorem Derives.leadsToName {blank : Char} (h : Derives marks (.type t) (blank :: word) follow)
    (hblank : Text.isBlank blank) : LeadsToName (blank :: word ++ follow) := by
  obtain ⟨blanks, first, more, hblanks, hbegins, hword, -⟩ := h.exists_cons
  refine ⟨blanks, first, more ++ follow, ?_, hblanks, hbegins, ?_⟩
  · rintro rfl
    obtain ⟨rfl, -⟩ := List.cons.inj hword
    rw [not_isBlank_of_beginsName hbegins] at hblank
    cases hblank
  · rw [hword, List.append_assoc, List.cons_append]

end types

/-! ### What is read is derived -/

section sound
variable {input rest : List Char} {name : String}

theorem exists_isIdentifier (h : ReadsIdentifier input name rest) :
    ∃ word, input = word ++ rest ∧ IsIdentifier word name rest := by
  cases h with
  | @quoted cs hclosed hsome => exact ⟨'`' :: (cs ++ ['`']), by simp, .quoted hsome hclosed⟩
  | bare hfirst hmore hrest => exact ⟨_, rfl, .bare hfirst hmore hrest⟩

theorem exists_isName (h : ReadsName input name rest) :
    ∃ word, input = word ++ rest ∧ IsName word name rest := by
  induction h with
  | single hname _ =>
    obtain ⟨word, hinput, hword⟩ := exists_isIdentifier hname
    exact ⟨word, hinput, .single hword⟩
  | dotted hfirst _ ih =>
    obtain ⟨word, hinput, hword⟩ := exists_isIdentifier hfirst
    obtain ⟨others, rfl, hothers⟩ := ih
    exact ⟨word ++ '.' :: others, by simp [hinput], .dotted hword hothers⟩

theorem exists_isQuestion {nullable : Bool} (h : ReadsQuestion input nullable rest) :
    ∃ word, input = word ++ rest ∧ IsQuestion word nullable := by
  cases h with
  | present hmark =>
    obtain ⟨blanks, hblanks, hinput⟩ := exists_blanks input
    exact ⟨blanks ++ ['?'], by simp [← hmark, ← hinput], .present hblanks⟩
  | absent => exact ⟨[], rfl, .absent⟩

/-- An identifier is the word of a projection if it is written as one, bare or between
    backticks. -/
theorem exists_anyWord {v : Variance} (h : ReadsIdentifier input v.word rest) :
    ∃ word, anyWord v word ∧ input = word ++ rest := by
  obtain ⟨word, hinput, hword⟩ := exists_isIdentifier h
  refine ⟨word, ?_, hinput⟩
  generalize hname : v.word = name at hword
  cases hword with
  | bare => exact .inl (by rw [hname, String.toList_ofList])
  | quoted => exact .inr (by rw [quotedWord, hname, String.toList_ofList])

theorem backtick_not_mem_word (v : Variance) : '`' ∉ v.word.toList := by
  cases v <;> decide

/-- In front of another name, the word of a projection is read as an identifier. -/
theorem readsIdentifier_anyWord {v : Variance} {word : List Char} (h : anyWord v word)
    (hrest : LeadsToName rest) : ReadsIdentifier (word ++ rest) v.word rest := by
  obtain ⟨first, more, hword⟩ : ∃ first more, v.word.toList = first :: more := by
    cases v with
    | consumed => exact ⟨_, _, rfl⟩
    | produced => exact ⟨_, _, rfl⟩
  have hname : v.word = String.ofList (first :: more) := by rw [← hword, String.ofList_toList]
  rcases h with rfl | rfl
  · -- A blank follows, so the bare word is not the beginning of a longer one.
    obtain ⟨blank, follow, hblank, rfl⟩ := hrest.exists_blank
    have hplain : Text.startsName first ∧ ∀ c ∈ more, Text.continuesName c := by
      cases v with
      | consumed =>
        cases hword
        exact ⟨by decide, List.all_eq_true.mp (by decide)⟩
      | produced =>
        cases hword
        exact ⟨by decide, List.all_eq_true.mp (by decide)⟩
    rw [hword, hname]
    refine .bare hplain.1 hplain.2 ?_
    rintro c ⟨⟩
    simp [Text.not_continuesName_of_isBlank hblank]
  · have hclosed := backtick_not_mem_word v
    rw [hword] at hclosed
    have hread := ReadsIdentifier.quoted hclosed (List.cons_ne_nil first more) rest
    rw [quotedWord, hword, hname]
    simpa using hread

theorem variance?_eq_some_iff {word : String} {v : Variance} :
    Parser.variance? word rest = some v ↔ LeadsToName rest ∧ word = v.word := by
  rw [← nameFollows_iff]
  cases hfollows : nameFollows rest with
  | false => simp [Parser.variance?, hfollows]
  | true =>
    simp only [Parser.variance?, hfollows, Bool.not_true, Bool.false_eq_true, if_false, true_and]
    by_cases hin : word = "in"
    · cases v <;> simp [hin, Variance.word]
    · cases v <;> simp [hin, Variance.word]

/-- An identifier is read in one way only. -/
theorem readsIdentifier_unique {name' : String} {rest' : List Char}
    (h : ReadsIdentifier input name rest) (h' : ReadsIdentifier input name' rest') :
    name = name' ∧ rest = rest' := by
  obtain ⟨_, htook⟩ := h.took
  obtain ⟨_, htook'⟩ := h'.took
  have hsame := Except.ok.inj (htook.symm.trans htook')
  cases hsame
  exact ⟨rfl, rfl⟩

/-- The reader sees a projection exactly where the text begins with one. -/
theorem beginsProjection_iff {word : String} {after : List Char}
    (h : ReadsIdentifier (skipBlanks input) word after) :
    BeginsProjection anyWord input ↔ ∃ v, Parser.variance? word after = some v := by
  constructor
  · rintro ⟨blanks, v, spelled, follow, hblanks, hspelled, hfollow, rfl⟩
    -- The identifier that is read there can only be the word.
    have hread := readsIdentifier_anyWord hspelled hfollow
    rw [hblanks.skipBlanks_append, hread.skipBlanks_eq] at h
    obtain ⟨rfl, rfl⟩ := readsIdentifier_unique h hread
    exact ⟨v, variance?_eq_some_iff.mpr ⟨hfollow, rfl⟩⟩
  · rintro ⟨v, hvariance⟩
    obtain ⟨hfollow, rfl⟩ := variance?_eq_some_iff.mp hvariance
    obtain ⟨spelled, hspelled, hinput⟩ := exists_anyWord h
    obtain ⟨blanks, hblanks, hskip⟩ := exists_blanks input
    exact ⟨blanks, v, spelled, after, hblanks, hspelled, hfollow, by rw [← hinput, ← hskip]⟩

theorem exists_derives {item : Item} (h : Reads input item rest) :
    ∃ word, input = word ++ rest ∧ Derives anyWord item word rest := by
  -- What the reader skips in front of a name or a mark are the blanks of the derivation.
  induction h with
  | @simple input _ _ _ _ hname _ hquestion =>
    obtain ⟨blanks, hblanks, hinput⟩ := exists_blanks input
    obtain ⟨word, hskip, hword⟩ := exists_isName hname
    obtain ⟨question, rfl, hmark⟩ := exists_isQuestion hquestion
    exact ⟨blanks ++ word ++ question, by simp [← hskip, ← hinput], .simple hblanks hword hmark⟩
  | @applied input _ after _ _ _ _ _ hname hbracket _ hquestion ih =>
    obtain ⟨blanks, hblanks, hinput⟩ := exists_blanks input
    obtain ⟨word, hskip, hword⟩ := exists_isName hname
    obtain ⟨gap, hgap, hafter⟩ := exists_blanks after
    obtain ⟨inside, rfl, hinside⟩ := ih
    obtain ⟨question, rfl, hmark⟩ := exists_isQuestion hquestion
    rw [hbracket] at hafter
    rw [hafter] at hword hskip
    refine ⟨blanks ++ word ++ gap ++ '<' :: (inside ++ question), ?_,
      .applied hblanks hword hgap hinside hmark⟩
    rw [hinput, hskip]
    simp
  | @last _ _ after _ _ hclose ih =>
    obtain ⟨word, rfl, hword⟩ := ih
    obtain ⟨gap, hgap, hafter⟩ := exists_blanks after
    rw [hclose] at hafter
    subst hafter
    exact ⟨word ++ gap ++ ['>'], by simp, .last hword hgap⟩
  | @more _ _ after _ _ _ _ hcomma _ ihargument ihmore =>
    obtain ⟨word, rfl, hword⟩ := ihargument
    obtain ⟨others, rfl, hothers⟩ := ihmore
    obtain ⟨gap, hgap, hafter⟩ := exists_blanks after
    rw [hcomma] at hafter
    subst hafter
    exact ⟨word ++ gap ++ ',' :: others, by simp, .more hword hgap hothers⟩
  | @star input _ hstar =>
    obtain ⟨blanks, hblanks, hinput⟩ := exists_blanks input
    rw [hstar] at hinput
    exact ⟨blanks ++ ['*'], by rw [hinput, List.append_assoc, List.singleton_append],
      .star hblanks⟩
  | @projected input _ after _ _ _ hword hvariance htype ih =>
    obtain ⟨blanks, hblanks, hinput⟩ := exists_blanks input
    obtain ⟨hfollow, rfl⟩ := variance?_eq_some_iff.mp hvariance
    obtain ⟨spelled, hspelled, hskip⟩ := exists_anyWord hword
    obtain ⟨type, rfl, hderives⟩ := ih
    -- A type is something, so the blank behind the word is the first of its own.
    obtain ⟨first, type, rfl⟩ : ∃ first more, type = first :: more := by
      refine List.exists_cons_of_ne_nil ?_
      rintro rfl
      exact Nat.lt_irrefl _ (Parser.took_typeExpr_iff.mpr htype).shorter
    obtain ⟨blank, more, hblank, hmore⟩ := hfollow.exists_blank
    obtain ⟨rfl, -⟩ := List.cons.inj hmore
    refine ⟨blanks ++ spelled ++ first :: type, ?_, .projected hblanks hspelled hblank hderives⟩
    rw [hinput, hskip]
    simp
  | @plain input _ _ _ rest hword hvariance _ ih =>
    obtain ⟨blanks, hblanks, hinput⟩ := exists_blanks input
    obtain ⟨word, hskip, hderives⟩ := ih
    have hwhole : input = blanks ++ word ++ rest := by rw [List.append_assoc, ← hskip, ← hinput]
    refine ⟨blanks ++ word, hwhole, .plain (hderives.of_blanks hblanks) ?_⟩
    rw [← hwhole, beginsProjection_iff hword, hvariance]
    simp

end sound

/-! ### What is derived is read -/

section complete
variable {word follow : List Char} {name : String}

theorem IsIdentifier.reads (h : IsIdentifier word name follow) :
    ReadsIdentifier (word ++ follow) name follow := by
  cases h with
  | bare hfirst hmore hmaximal => exact .bare hfirst hmore hmaximal
  | quoted hsome hclosed => simpa using ReadsIdentifier.quoted hclosed hsome follow

theorem IsName.reads (h : IsName word name follow) (hend : follow.head? ≠ some '.') :
    ReadsName (word ++ follow) name follow := by
  induction h with
  | single hname => exact .single hname.reads hend
  | dotted hfirst _ ih => simpa using ReadsName.dotted hfirst.reads (ih hend)

/-- In front of what ends it, a name is read, also behind blanks. -/
theorem IsName.reads_behind {blanks : List Char} (h : IsName word name follow)
    (hblanks : Blanks blanks) (hend : EndsName (skipBlanks follow)) :
    ReadsName (skipBlanks (blanks ++ (word ++ follow))) name follow := by
  have hread := h.reads (head?_ne_dot_of_endsName hend)
  rwa [hblanks.skipBlanks_append, hread.skipBlanks_eq]

theorem IsQuestion.reads {question : List Char} {nullable : Bool} (h : IsQuestion question nullable)
    (hfollow : EndsType (skipBlanks follow)) :
    ReadsQuestion (question ++ follow) nullable follow := by
  cases h with
  | absent =>
    refine .absent ?_
    intro hmark
    have hends := hfollow '?' hmark
    revert hends
    decide
  | present hblanks =>
    refine .present ?_
    rw [List.append_assoc, hblanks.skipBlanks_append]
    exact skipBlanks_cons (by decide) follow

/-- No bracket opens behind a type. -/
theorem IsQuestion.head?_ne_bracket {question : List Char} {nullable : Bool}
    (h : IsQuestion question nullable) (hfollow : EndsType (skipBlanks follow)) :
    (skipBlanks (question ++ follow)).head? ≠ some '<' := by
  cases h with
  | absent =>
    intro hopen
    have hends := hfollow '<' hopen
    revert hends
    decide
  | present hblanks =>
    rw [List.append_assoc, hblanks.skipBlanks_append, List.singleton_append,
      skipBlanks_cons (by decide)]
    simp

theorem Derives.reads {item : Item} (h : Derives anyWord item word follow)
    (hends : Ends item follow) : Reads (word ++ follow) item follow := by
  induction h with
  | simple hblanks hname hquestion =>
    have hread := hname.reads_behind hblanks (hquestion.endsName hends)
    simp only [List.append_assoc]
    exact .simple hread (hquestion.head?_ne_bracket hends) (hquestion.reads hends)
  | applied hblanks hname hgap _ hquestion ih =>
    have hread := hname.reads_behind hblanks (endsName_mark hgap (by simp))
    have hinside := ih trivial
    simp only [List.append_assoc, List.cons_append]
    refine .applied hread ?_ hinside (hquestion.reads hends)
    rw [hgap.skipBlanks_append]
    exact skipBlanks_cons (by decide) _
  | last _ hgap ih =>
    have hargument := ih (endsType_mark hgap (by simp))
    simp only [List.append_assoc, List.singleton_append]
    refine .last hargument ?_
    rw [hgap.skipBlanks_append]
    exact skipBlanks_cons (by decide) _
  | more _ hgap _ ihargument ihothers =>
    have hargument := ihargument (endsType_mark hgap (by simp))
    simp only [List.append_assoc, List.cons_append]
    refine .more hargument ?_ (ihothers trivial)
    rw [hgap.skipBlanks_append]
    exact skipBlanks_cons (by decide) _
  | star hblanks =>
    rw [List.append_assoc]
    refine .star ?_
    rw [hblanks.skipBlanks_append]
    exact skipBlanks_cons (by decide) _
  | projected hblanks hword hblank htype ih =>
    have hfollow := htype.leadsToName hblank
    have hread := readsIdentifier_anyWord hword hfollow
    rw [List.append_assoc, List.append_assoc]
    refine .projected ?_ (variance?_eq_some_iff.mpr ⟨hfollow, rfl⟩) (ih hends)
    rwa [hblanks.skipBlanks_append, hread.skipBlanks_eq]
  | plain _ hplain ih =>
    have htype := ih hends
    -- The reader has read the first identifier of the type when it looks for a projection.
    obtain ⟨after, hname⟩ := htype.exists_name
    obtain ⟨first, behind, hfirst, -⟩ := hname.exists_identifier
    rw [beginsProjection_iff hfirst] at hplain
    refine .plain hfirst ?_ (htype.of_skipBlanks_eq hname.skipBlanks_eq)
    rw [Option.eq_none_iff_forall_ne_some]
    exact fun v hv => hplain ⟨v, hv⟩

end complete

/-- The reader accepts what can be derived when a word of a projection may stand in backticks. -/
theorem parse_eq_ok_iff_isType {text : String} {t : TypeExpr} :
    parse text = .ok t ↔ IsType anyWord text.toList t := by
  rw [parse_eq_ok_iff]
  constructor
  · rintro ⟨rest, hreads, hrest⟩
    obtain ⟨word, htext, hword⟩ := exists_derives hreads
    exact ⟨word, rest, hword, Text.dropWhile_isBlank_eq_nil_iff.mp hrest, htext⟩
  · rintro ⟨word, blanks, hword, hblanks, htext⟩
    rw [htext]
    exact ⟨blanks, hword.reads (endsType_blanks hblanks),
      Text.dropWhile_isBlank_eq_nil_iff.mpr hblanks⟩

end CompanionSource.TypeExpr.Grammar
