import CompanionSource.Proofs.TypeExpr.RoundTrip
import CompanionSource.Settings

/-! # Dotted identifiers

    Which texts are dotted names that can do without backticks.  Three functions answer that, each
    in its own way: the check of settings, the writer of names and the reader of types.

    * The **class** of these texts is said without any of them: identifiers with one dot between
      any two.
    * The check and the writer **cut** the text at its dots and look at each part.
    * The reader goes **through** the text.  What it takes without making it part of a name, blanks
      or backticks, makes the name shorter than the text.  So it reads a text as that very text
      exactly when there is nothing of this sort in it. -/

namespace CompanionSource

/-! ### The class -/

namespace Name

/-- Bare identifiers with one dot between any two of them. -/
inductive IsDottedBare : List Char → Prop
  /-- One identifier. -/
  | single {word : List Char} (hword : IsBare word) : IsDottedBare word
  /-- An identifier, a dot, and what goes on behind it. -/
  | dotted {word more : List Char} (hword : IsBare word) (hmore : IsDottedBare more) :
      IsDottedBare (word ++ '.' :: more)

theorem IsBare.dot_not_mem {word : List Char} (h : IsBare word) : '.' ∉ word :=
  h.not_mem (by decide)

theorem IsDottedBare.ne_nil {text : List Char} (h : IsDottedBare text) : text ≠ [] := by
  cases h with
  | single hword =>
    obtain ⟨first, more, rfl, -, -⟩ := hword
    exact List.cons_ne_nil _ _
  | dotted => simp

theorem isDottedBare_intercalate {words : List (List Char)} (hsome : words ≠ [])
    (h : ∀ word ∈ words, IsBare word) : IsDottedBare (['.'].intercalate words) := by
  induction words with
  | nil => exact absurd rfl hsome
  | cons first others ih =>
    obtain ⟨hfirst, hothers⟩ := List.forall_mem_cons.mp h
    cases others with
    | nil =>
      rw [List.intercalate_singleton]
      exact .single hfirst
    | cons second others =>
      rw [List.intercalate_cons_cons, List.append_assoc]
      exact .dotted hfirst (ih (List.cons_ne_nil _ _) hothers)

/-- A text is in the class exactly if each part between its dots is a bare identifier. -/
theorem isDottedBare_iff {text : List Char} :
    IsDottedBare text ↔ ∀ part ∈ text.splitOn '.', IsBare part := by
  constructor
  · intro h
    induction h with
    | single hword => simpa [List.splitOn_eq_singleton hword.dot_not_mem] using hword
    | dotted hword _ ih =>
      rw [List.splitOn_append_cons_self, List.splitOn_eq_singleton hword.dot_not_mem]
      exact List.forall_mem_cons.mpr ⟨hword, ih⟩
  · intro h
    have hjoined := isDottedBare_intercalate (List.splitOn_ne_nil '.' text) h
    rwa [List.intercalate_splitOn] at hjoined

/-- The writer takes the segments of a text for identifiers exactly if the text is in the class. -/
theorem forall_isPlain_iff {text : String} :
    (∀ segment ∈ segments text, isPlain segment) ↔ IsDottedBare text.toList := by
  rw [isDottedBare_iff, segments, List.forall_mem_map]
  simp only [isPlain_iff, String.toList_ofList]

end Name

open Name (IsBare IsDottedBare)

/-! ### Settings -/

namespace Settings

/-- The check of settings accepts exactly the texts of the class. -/
theorem isDottedIdentifier_iff {text : String} :
    isDottedIdentifier text ↔ IsDottedBare text.toList := by
  have hpart (part : List Char) :
      (part.head?.any Text.startsName && part.tail.all Text.continuesName) = true ↔
        IsBare part := by
    cases part <;> simp [IsBare]
  have hparts : ((text.toList.splitOn '.').all fun part =>
      part.head?.any Text.startsName && part.tail.all Text.continuesName) = true ↔
        IsDottedBare text.toList := by
    rw [Name.isDottedBare_iff, List.all_eq_true]
    exact forall₂_congr fun part _ => hpart part
  rw [isDottedIdentifier, Bool.and_eq_true, hparts, and_iff_right_iff_imp]
  -- The empty text has an empty part, so it would be refused without being asked for.
  intro hdotted
  simpa using hdotted.ne_nil

/-- The dotted names among the settings are in the class. -/
structure NamesAreBare (settings : Settings) : Prop where
  provenanceType : IsDottedBare settings.provenanceType.toList
  logFunction : IsDottedBare settings.logFunction.toList

theorem namesAreBare_of_faults {settings : Settings} (h : settings.faults = []) :
    settings.NamesAreBare := by
  simp only [faults, List.append_eq_nil_iff] at h
  obtain ⟨⟨⟨⟨⟨-, htype⟩, -⟩, hlog⟩, -⟩, -⟩ := h
  constructor
  · refine isDottedIdentifier_iff.mp ?_
    by_contra hnot
    simp [hnot] at htype
  · refine isDottedIdentifier_iff.mp ?_
    by_contra hnot
    simp [hnot] at hlog

end Settings

/-! ### The reader -/

namespace TypeExpr.Parser

variable {input rest : List Char} {name : String}

/-- An identifier stands bare in front of what is left, or the reader took more than its name. -/
theorem ReadsIdentifier.isBare_or_longer (h : ReadsIdentifier input name rest) :
    IsBare name.toList ∧ input = name.toList ++ rest ∨
      name.toList.length + rest.length < input.length := by
  cases h with
  | quoted =>
    right
    simp only [String.toList_ofList, List.length_cons, List.length_append]
    omega
  | bare hfirst hmore =>
    left
    rw [String.toList_ofList]
    exact ⟨⟨_, _, rfl, hfirst, hmore⟩, rfl⟩

/-- A dotted name stands bare in front of what is left, or the reader took more than the name. -/
theorem ReadsName.isDottedBare_or_longer (h : ReadsName input name rest) :
    IsDottedBare name.toList ∧ input = name.toList ++ rest ∨
      name.toList.length + rest.length < input.length := by
  induction h with
  | single hname => exact hname.isBare_or_longer.imp_left (And.imp_left .single)
  | @dotted input first others more rest hfirst _ ih =>
    have hname : (first ++ "." ++ others).toList = first.toList ++ '.' :: others.toList := by
      simp [String.toList_append]
    rw [hname]
    rcases hfirst.isBare_or_longer with ⟨hbare, rfl⟩ | hlonger <;>
      rcases ih with ⟨hothers, rfl⟩ | hmore
    · exact .inl ⟨.dotted hbare hothers, by simp⟩
    · right
      simp only [List.length_append, List.length_cons]
      omega
    · right
      simp only [List.length_append, List.length_cons] at hlonger ⊢
      omega
    · right
      simp only [List.length_append, List.length_cons] at hlonger ⊢
      omega

/-- A text of the class is read as a name up to its end. -/
theorem readsName_of_isDottedBare {text : List Char} (h : IsDottedBare text) :
    ReadsName text (String.ofList text) [] := by
  induction h with
  | @single word hword =>
    have hread : ReadsIdentifier (word ++ []) (String.ofList word) [] :=
      readsIdentifier_of_isBare hword (by simp)
    rw [List.append_nil] at hread
    exact .single hread (by simp)
  | @dotted word more hword _ ih =>
    have hdot : ∀ c ∈ ('.' :: more).head?, ¬Text.continuesName c := by
      rintro c ⟨⟩
      decide
    have hname : String.ofList (word ++ '.' :: more) =
        String.ofList word ++ "." ++ String.ofList more := by
      simp [← String.toList_inj, String.toList_append]
    rw [hname]
    exact .dotted (readsIdentifier_of_isBare hword hdot) ih

end TypeExpr.Parser

/-- The reader of types takes a text for that very name exactly if the text is in the class. -/
theorem TypeExpr.parse_eq_named_iff {text : String} :
    parse text = .ok (named text) ↔ IsDottedBare text.toList := by
  rw [parse_eq_ok_iff]
  constructor
  · rintro ⟨rest, hreads, -⟩
    obtain ⟨after, hname⟩ := hreads.exists_name
    rcases hname.isDottedBare_or_longer with ⟨hdotted, -⟩ | hlonger
    · exact hdotted
    · -- The name is the whole text, so nothing else can have been taken.
      have hskip := Text.length_skipBlanks_le text.toList
      have hsame : (named text).name = text := rfl
      rw [hsame] at hlonger
      omega
  · intro hdotted
    have hname := Parser.readsName_of_isDottedBare hdotted
    rw [String.ofList_toList] at hname
    refine ⟨[], .simple (hname.skipBlanks_eq.symm ▸ hname) (by simp [Text.skipBlanks]) ?_, rfl⟩
    exact .absent (by simp [Text.skipBlanks])

end CompanionSource
