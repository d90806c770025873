import CompanionSource.Proofs.Text
import CompanionSource.Proofs.TypeExpr.Grammar

/-! # Blanks around a type

    A text writes the same type with blanks around it and without them.

    - In **front** of a type, blanks belong to the derivation, and can be left out of it.
    - **Behind** it they belong to what follows.  A derivation looks at that only for a character
      that goes on with an identifier, and for the beginning of another name, and blanks are
      neither.
    - What is left then begins and ends with a character that is no blank, so it is what
      **trimming** leaves of the text. -/

namespace CompanionSource.TypeExpr.Grammar

open Text (skipBlanks trimChars dropBlankEnd)
open TypeExpr.Parser (Item)

variable {marks : Marks} {word follow follow' : List Char} {name : String} {t : TypeExpr}

/-! ### Blanks behind -/

/-- The two are the same up to the blanks at their ends. -/
def SameButBlanks (follow follow' : List Char) : Prop :=
  ∃ front blanks blanks', Blanks blanks ∧ Blanks blanks' ∧
    follow = front ++ blanks ∧ follow' = front ++ blanks'

theorem Blanks.same (h : Blanks follow) (h' : Blanks follow') : SameButBlanks follow follow' :=
  ⟨[], follow, follow', h, h', rfl, rfl⟩

theorem SameButBlanks.append (h : SameButBlanks follow follow') (word : List Char) :
    SameButBlanks (word ++ follow) (word ++ follow') := by
  obtain ⟨front, blanks, blanks', hblanks, hblanks', rfl, rfl⟩ := h
  exact ⟨word ++ front, blanks, blanks', hblanks, hblanks', by simp, by simp⟩

/-- The one begins like the other, or with a blank. -/
theorem SameButBlanks.head? (h : SameButBlanks follow follow') :
    ∀ c ∈ follow'.head?, c ∈ follow.head? ∨ Text.isBlank c := by
  obtain ⟨front, blanks, blanks', -, hblanks', rfl, rfl⟩ := h
  intro c hc
  cases front with
  | nil => exact .inr (hblanks' c (List.mem_of_mem_head? hc))
  | cons d front => exact .inl hc

/-- What is no blank does not stand in the blanks at the end. -/
theorem Blanks.exists_of_append_eq {text blanks front rest : List Char} {c : Char}
    (hblanks : Blanks blanks) (hc : Text.isBlank c = false)
    (h : text ++ blanks = front ++ c :: rest) : ∃ more, text = front ++ c :: more := by
  rcases List.append_eq_append_iff.mp h with ⟨gap, rfl, hgap⟩ | ⟨more, rfl, hmore⟩
  · have hmem : c ∈ blanks := by
      rw [hgap]
      exact List.mem_append_right _ List.mem_cons_self
    exact absurd hmem (hblanks.not_mem hc)
  · cases more with
    | nil =>
      have hmem : c ∈ blanks := by
        rw [← List.nil_append blanks, ← hmore]
        exact List.mem_cons_self
      exact absurd hmem (hblanks.not_mem hc)
    | cons d more =>
      obtain ⟨rfl, -⟩ := List.cons.inj hmore
      exact ⟨more, rfl⟩

/-- A projection that one of the two begins with is there in the other. -/
theorem SameButBlanks.beginsProjection (h : SameButBlanks follow follow')
    (hbegins : BeginsProjection marks follow') : BeginsProjection marks follow := by
  obtain ⟨front, blanks, blanks', -, hblanks', rfl, rfl⟩ := h
  obtain ⟨before, v, word, rest, hbefore, hword, hrest, htext⟩ := hbegins
  obtain ⟨gap, first, more, hsome, hgap, hfirst, rfl⟩ := hrest
  rw [← List.append_assoc word, ← List.append_assoc before] at htext
  obtain ⟨more', rfl⟩ := hblanks'.exists_of_append_eq (not_isBlank_of_beginsName hfirst) htext
  refine ⟨before, v, word, gap ++ first :: (more' ++ blanks), hbefore, hword, ?_, by simp⟩
  exact ⟨gap, first, more' ++ blanks, hsome, hgap, hfirst, rfl⟩

theorem IsIdentifier.of_same (h : IsIdentifier word name follow)
    (hsame : SameButBlanks follow follow') : IsIdentifier word name follow' := by
  cases h with
  | bare hfirst hmore hmaximal =>
    refine .bare hfirst hmore fun c hc => ?_
    rcases hsame.head? c hc with hc | hblank
    · exact hmaximal c hc
    · simp [Text.not_continuesName_of_isBlank hblank]
  | quoted hsome hclosed => exact .quoted hsome hclosed

theorem IsName.of_same (h : IsName word name follow) (hsame : SameButBlanks follow follow') :
    IsName word name follow' := by
  induction h with
  | single hname => exact .single (hname.of_same hsame)
  | @dotted _ more _ _ _ hfirst _ ih =>
    exact .dotted (hfirst.of_same (hsame.append ('.' :: more))) (ih hsame)

/-- The same is derived in front of other blanks. -/
theorem Derives.of_same {item : Item} (h : Derives marks item word follow)
    (hsame : SameButBlanks follow follow') : Derives marks item word follow' := by
  -- The blanks stay at the end of what follows, whatever is put in front of it.
  induction h generalizing follow' with
  | simple hblanks hname hquestion =>
    exact .simple hblanks (hname.of_same (hsame.append _)) hquestion
  | @applied _ _ gap inside question _ _ _ _ hblanks hname hgap _ hquestion ih =>
    have hbehind := hsame.append question
    have hbracket := (hbehind.append ('<' :: inside)).append gap
    exact .applied hblanks (hname.of_same hbracket) hgap (ih hbehind) hquestion
  | @last _ gap _ _ _ hgap ih =>
    exact .last (ih ((hsame.append ['>']).append gap)) hgap
  | @more _ gap others _ _ _ _ hgap _ ihargument ihothers =>
    exact .more (ihargument ((hsame.append (',' :: others)).append gap)) hgap (ihothers hsame)
  | star hblanks => exact .star hblanks
  | projected hblanks hword hblank _ ih => exact .projected hblanks hword hblank (ih hsame)
  | plain _ hplain ih =>
    exact .plain (ih hsame) fun hbegins => hplain ((hsame.append _).beginsProjection hbegins)

/-! ### The last character -/

/-- A word that ends with a character that is no blank. -/
def EndsSolid (word : List Char) : Prop :=
  ∃ front last, word = front ++ [last] ∧ Text.isBlank last = false

theorem EndsSolid.append (h : EndsSolid word) (front : List Char) : EndsSolid (front ++ word) := by
  obtain ⟨front', last, rfl, hlast⟩ := h
  exact ⟨front ++ front', last, by rw [List.append_assoc], hlast⟩

theorem IsIdentifier.endsSolid (h : IsIdentifier word name follow) : EndsSolid word := by
  cases h with
  | @bare first more _ hfirst hmore =>
    obtain ⟨front, last, hword⟩ := List.eq_nil_or_concat' (first :: more) |>.resolve_left (by simp)
    refine ⟨front, last, hword, ?_⟩
    have hlast : last ∈ first :: more := by simp [hword]
    have hcontinues : Text.continuesName last :=
      Name.IsBare.continues ⟨_, _, rfl, hfirst, hmore⟩ last hlast
    rw [Bool.eq_false_iff]
    intro hblank
    rw [Text.not_continuesName_of_isBlank hblank] at hcontinues
    cases hcontinues
  | @quoted name => exact ⟨'`' :: name, '`', rfl, by decide⟩

theorem IsName.endsSolid (h : IsName word name follow) : EndsSolid word := by
  induction h with
  | single hname => exact hname.endsSolid
  | @dotted word more _ _ _ _ _ ih => exact (ih.append ['.']).append word

/-- A question mark is no blank, so a word still ends with none. -/
theorem IsQuestion.endsSolid {question : List Char} {nullable : Bool}
    (h : IsQuestion question nullable) (hword : EndsSolid word) : EndsSolid (word ++ question) := by
  cases h with
  | absent => rwa [List.append_nil]
  | @present blanks => exact ⟨word ++ blanks, '?', by rw [List.append_assoc], by decide⟩

/-- No blank belongs to the end of what is derived. -/
theorem Derives.endsSolid {item : Item} (h : Derives marks item word follow) :
    EndsSolid word := by
  induction h with
  | @simple blanks _ _ _ _ _ _ hname hquestion =>
    exact hquestion.endsSolid (hname.endsSolid.append blanks)
  | applied _ _ _ _ hquestion ih => exact ((hquestion.endsSolid ih).append ['<']).append _
  | last => exact ⟨_, '>', rfl, by decide⟩
  | more _ _ _ _ ih => exact (ih.append [',']).append _
  | star => exact ⟨_, '*', rfl, by decide⟩
  | projected _ _ _ _ ih => exact ih.append _
  | plain _ _ ih => exact ih

/-! ### Trimming -/

/-- Trimming takes the blanks away up to the first and the last character that are none. -/
theorem trimChars_eq {front more behind : List Char} {c : Char} (hfront : Blanks front)
    (hbehind : Blanks behind) (hc : Text.isBlank c = false) (hsolid : EndsSolid (c :: more)) :
    trimChars (front ++ (c :: more ++ behind)) = c :: more := by
  obtain ⟨core, last, hcore, hlast⟩ := hsolid
  have hend : Blanks behind.reverse := fun d hd => hbehind d (List.mem_reverse.mp hd)
  rw [trimChars, hfront.skipBlanks_append, List.cons_append, skipBlanks_cons hc,
    ← List.cons_append, hcore, dropBlankEnd, List.reverse_append,
    List.dropWhile_append_of_pos hend, List.reverse_concat,
    List.dropWhile_cons_of_neg (by simp [hlast]), List.reverse_cons, List.reverse_reverse]

/-- A trimmed text is a type exactly if the text is. -/
theorem isType_trimChars_iff {text : List Char} :
    IsType marks (trimChars text) t ↔ IsType marks text t := by
  constructor
  · intro h
    obtain ⟨word, blanks, hword, hblanks, htrimmed⟩ := h
    obtain ⟨front, behind, htext, hfront, hbehind⟩ := Text.exists_trimChars_append text
    have hboth : Blanks (blanks ++ behind) := List.forall_mem_append.mpr ⟨hblanks, hbehind⟩
    refine ⟨front ++ word, blanks ++ behind, ?_, hboth, ?_⟩
    · exact (hword.of_blanks hfront).of_same (hblanks.same hboth)
    · rw [htrimmed] at htext
      rw [htext]
      simp
  · intro h
    obtain ⟨word, behind, hword, hbehind, rfl⟩ := h
    obtain ⟨front, first, more, hfront, hbegins, rfl, hcore⟩ := hword.exists_cons
    have hfirst := not_isBlank_of_beginsName hbegins
    rw [List.append_assoc, trimChars_eq hfront hbehind hfirst hcore.endsSolid]
    have hnone : Blanks [] := List.forall_mem_nil _
    exact ⟨first :: more, [], hcore.of_same (hbehind.same hnone), hnone, (List.append_nil _).symm⟩

end CompanionSource.TypeExpr.Grammar

namespace CompanionSource.TypeExpr

/-- **Trimming.**  A text writes the same type when it has been trimmed, or none. -/
theorem parse_trim_eq_ok_iff {text : String} {t : TypeExpr} :
    parse (Text.trim text) = .ok t ↔ parse text = .ok t := by
  rw [Grammar.parse_eq_ok_iff_isType, Grammar.parse_eq_ok_iff_isType, Text.trim,
    String.toList_ofList, Grammar.isType_trimChars_iff]

end CompanionSource.TypeExpr
