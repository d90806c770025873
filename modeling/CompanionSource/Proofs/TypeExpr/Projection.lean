import CompanionSource.Proofs.TypeExpr.Grammar

/-! # Projections in backticks

    Backticks make an ordinary identifier of any word, so the word of a projection should stand
    bare.  The reader does not ask how it stands.  Here this is told apart in the grammar:

    - what can be derived with **bare** words can be derived with any;
    - the other way round, bare words are enough if the text **quotes no projection**: no word of
      one stands in it between backticks and in front of another identifier.

    Whether a text quotes a projection is decided word by word.  A word is **spared** if none begins
    in it, and a text cut in two is spared exactly if both parts are. -/

namespace CompanionSource.TypeExpr.Grammar

open Text (skipBlanks)
open TypeExpr.Parser (Item EndsName EndsType)

/-! ### Spared words -/

/-- Somewhere in the text a word of a projection stands between backticks and in front of another
    name. -/
def QuotesProjection (text : List Char) : Prop :=
  ∃ before v rest, text = before ++ (quotedWord v ++ rest) ∧ LeadsToName rest

/-- Where the text of `QuotesProjection` would begin, the word is over. -/
def Spared (word follow : List Char) : Prop :=
  ∀ before v rest, word ++ follow = before ++ (quotedWord v ++ rest) → LeadsToName rest →
    word.length ≤ before.length

section spared
variable {word more follow : List Char} {name : String}

theorem spared_append_iff :
    Spared (word ++ more) follow ↔ Spared word (more ++ follow) ∧ Spared more follow := by
  constructor
  · intro h
    refine ⟨?_, ?_⟩
    · intro before v rest htext hrest
      have hlength := h before v rest (by rw [List.append_assoc, htext]) hrest
      rw [List.length_append] at hlength
      omega
    · intro before v rest htext hrest
      have hwhole : word ++ more ++ follow = word ++ before ++ (quotedWord v ++ rest) := by
        rw [List.append_assoc, htext, List.append_assoc]
      have hlength := h (word ++ before) v rest hwhole hrest
      simpa using hlength
  · rintro ⟨hword, hmore⟩ before v rest htext hrest
    rw [List.append_assoc] at htext
    -- It begins behind the first word, so the second word has it in front of what follows.
    have hlength := hword before v rest htext hrest
    obtain ⟨behind, rfl⟩ : ∃ behind, before = word ++ behind := by
      have hword := List.prefix_append word (more ++ follow)
      rw [htext] at hword
      have hbegins := List.prefix_of_prefix_length_le hword (List.prefix_append before _) hlength
      exact hbegins.imp fun _ h => h.symm
    rw [List.append_assoc, List.append_cancel_left_eq] at htext
    have hbehind := hmore behind v rest htext hrest
    simpa using hbehind

/-- A word without a backtick is spared. -/
theorem spared_of_not_mem (h : '`' ∉ word) : Spared word follow := by
  intro before v rest htext _
  by_contra hlength
  rw [not_le] at hlength
  have hat : (word ++ follow)[before.length]? = some '`' := by
    rw [htext, List.getElem?_append_right le_rfl]
    simp [quotedWord]
  rw [List.getElem?_append_left hlength] at hat
  exact h (List.mem_of_getElem? hat)

theorem spared_cons_iff {c : Char} (hc : c ≠ '`') :
    Spared (c :: word) follow ↔ Spared word follow := by
  rw [← List.singleton_append, spared_append_iff]
  exact and_iff_right (spared_of_not_mem (by simpa using hc.symm))

theorem Blanks.spared {blanks : List Char} (h : Blanks blanks) : Spared blanks follow :=
  spared_of_not_mem (h.not_mem (by decide))

/-- No identifier quotes a projection, if what follows goes on neither with it nor with another
    name. -/
theorem IsIdentifier.spared (h : IsIdentifier word name follow)
    (hcontinues : ∀ c ∈ follow.head?, ¬Text.continuesName c) (hfollow : ¬LeadsToName follow) :
    Spared word follow := by
  cases h with
  | @bare first more _ hfirst hmore =>
    refine spared_of_not_mem ?_
    exact Name.IsBare.not_mem ⟨_, _, rfl, hfirst, hmore⟩ (by decide)
  | @quoted cs _ hsome hclosed =>
    have hopening : Spared ['`'] (cs ++ (['`'] ++ follow)) := by
      rintro (_ | ⟨c, before⟩) v rest htext hrest
      · -- The word in backticks is this identifier, so another name follows behind it.
        have hquoted : IsIdentifier _ _ follow := .quoted hsome hclosed
        have hread := hquoted.reads
        have hword := readsIdentifier_anyWord (.inr rfl : anyWord v _) hrest
        have hsame : '`' :: (cs ++ ['`']) ++ follow = quotedWord v ++ rest := by simpa using htext
        rw [hsame] at hread
        obtain ⟨-, rfl⟩ := readsIdentifier_unique hread hword
        exact absurd hrest hfollow
      · simp
    have hclosing : Spared ['`'] follow := by
      rintro (_ | ⟨c, before⟩) v rest htext -
      · have hbehind : follow = v.word.toList ++ ('`' :: rest) := by
          simpa [quotedWord] using htext
        cases v with
        | consumed => exact absurd (by decide) (hcontinues 'i' (by rw [hbehind]; rfl))
        | produced => exact absurd (by decide) (hcontinues 'o' (by rw [hbehind]; rfl))
      · simp
    have hinner : Spared cs (['`'] ++ follow) := spared_of_not_mem hclosed
    have hparts : Spared (['`'] ++ (cs ++ ['`'])) follow := by
      rw [spared_append_iff, spared_append_iff, List.append_assoc]
      exact ⟨hopening, hinner, hclosing⟩
    exact hparts

theorem IsName.spared (h : IsName word name follow) (hend : EndsName (skipBlanks follow)) :
    Spared word follow := by
  induction h with
  | single hname =>
    exact hname.spared (not_continues_of_endsName hend) (not_leadsToName_of_endsName hend)
  | @dotted word more follow _ _ hfirst _ ih =>
    rw [spared_append_iff, spared_cons_iff (by decide)]
    refine ⟨hfirst.spared ?_ ?_, ih hend⟩
    · rintro c ⟨⟩
      decide
    · intro hleads
      obtain ⟨blank, rest, hblank, heq⟩ := hleads.exists_blank
      obtain ⟨rfl, -⟩ := List.cons.inj heq
      exact absurd hblank (by decide)

theorem IsQuestion.spared {question : List Char} {nullable : Bool}
    (h : IsQuestion question nullable) : Spared question follow := by
  cases h with
  | absent => exact spared_of_not_mem List.not_mem_nil
  | present hblanks => exact spared_append_iff.mpr ⟨hblanks.spared, spared_of_not_mem (by decide)⟩

/-- What can be derived with bare words quotes no projection. -/
theorem Derives.spared {item : Item} (h : Derives bareWord item word follow)
    (hends : Ends item follow) : Spared word follow := by
  induction h with
  | simple hblanks hname hquestion =>
    simp only [spared_append_iff]
    exact ⟨⟨hblanks.spared, hname.spared (hquestion.endsName hends)⟩, hquestion.spared⟩
  | @applied blanks word gap inside question follow _ _ _ hblanks hname hgap _ hquestion ih =>
    have hword := hname.spared (endsName_mark hgap (by simp))
    have hmark : ('<' : Char) ≠ '`' := by decide
    simp only [spared_append_iff, spared_cons_iff hmark]
    refine ⟨⟨⟨hblanks.spared, ?_⟩, hgap.spared⟩, ih trivial, hquestion.spared⟩
    simpa using hword
  | last _ hgap ih =>
    have hargument := ih (endsType_mark hgap (by simp))
    simp only [spared_append_iff]
    refine ⟨⟨?_, hgap.spared⟩, spared_of_not_mem (by decide)⟩
    simpa using hargument
  | more _ hgap _ ihargument ihothers =>
    have hargument := ihargument (endsType_mark hgap (by simp))
    have hmark : (',' : Char) ≠ '`' := by decide
    simp only [spared_append_iff, spared_cons_iff hmark]
    refine ⟨⟨?_, hgap.spared⟩, ihothers trivial⟩
    simpa using hargument
  | star hblanks =>
    exact spared_append_iff.mpr ⟨hblanks.spared, spared_of_not_mem (by decide)⟩
  | projected hblanks hword _ _ ih =>
    obtain rfl := hword
    simp only [spared_append_iff]
    exact ⟨⟨hblanks.spared, spared_of_not_mem (backtick_not_mem_word _)⟩, ih hends⟩
  | plain _ _ ih => exact ih hends

/-- Where no projection is quoted, a type that begins with a projection begins with a bare word. -/
theorem Derives.beginsProjection_iff {marks : Marks} {t : TypeExpr}
    (h : Derives marks (.type t) word follow) (hspared : Spared word follow) :
    BeginsProjection anyWord (word ++ follow) ↔ BeginsProjection bareWord (word ++ follow) := by
  constructor
  · rintro ⟨blanks, v, spelled, rest, hblanks, rfl | rfl, hrest, htext⟩
    · exact ⟨blanks, v, _, rest, hblanks, rfl, hrest, htext⟩
    · -- The word would be over before the backtick, and so it would be only blanks.
      have hlength := hspared blanks v rest htext hrest
      have hword := List.prefix_append word follow
      rw [htext] at hword
      have hbegins := List.prefix_of_prefix_length_le hword (List.prefix_append blanks _) hlength
      exact absurd (fun c hc => hblanks c (hbegins.subset hc)) h.not_blanks
  · rintro ⟨blanks, v, spelled, rest, hblanks, hspelled, hrest, htext⟩
    exact ⟨blanks, v, spelled, rest, hblanks, .inl hspelled, hrest, htext⟩

/-- What can be derived with bare words can be derived with any. -/
theorem Derives.of_bareWord {item : Item} (h : Derives bareWord item word follow)
    (hends : Ends item follow) : Derives anyWord item word follow := by
  induction h with
  | simple hblanks hname hquestion => exact .simple hblanks hname hquestion
  | applied hblanks hname hgap _ hquestion ih =>
    exact .applied hblanks hname hgap (ih trivial) hquestion
  | last _ hgap ih => exact .last (ih (endsType_mark hgap (by simp))) hgap
  | more _ hgap _ ihargument ihothers =>
    exact .more (ihargument (endsType_mark hgap (by simp))) hgap (ihothers trivial)
  | star hblanks => exact .star hblanks
  | projected hblanks hword hblank _ ih => exact .projected hblanks (.inl hword) hblank (ih hends)
  | plain htype hplain ih =>
    rw [← htype.beginsProjection_iff (htype.spared hends)] at hplain
    exact .plain (ih hends) hplain

/-- Where no projection is quoted, bare words are enough. -/
theorem Derives.to_bareWord {item : Item} (h : Derives anyWord item word follow)
    (hspared : Spared word follow) : Derives bareWord item word follow := by
  induction h with
  | simple hblanks hname hquestion => exact .simple hblanks hname hquestion
  | applied hblanks hname hgap _ hquestion ih =>
    have hmark : ('<' : Char) ≠ '`' := by decide
    simp only [spared_append_iff, spared_cons_iff hmark] at hspared
    exact .applied hblanks hname hgap (ih hspared.2.1) hquestion
  | last _ hgap ih =>
    simp only [spared_append_iff, List.append_assoc, List.singleton_append] at hspared
    exact .last (ih hspared.1) hgap
  | more _ hgap _ ihargument ihothers =>
    have hmark : (',' : Char) ≠ '`' := by decide
    simp only [spared_append_iff, spared_cons_iff hmark, List.append_assoc,
      List.cons_append] at hspared
    exact .more (ihargument hspared.1) hgap (ihothers hspared.2.2)
  | star hblanks => exact .star hblanks
  | @projected blanks word _ _ _ v _ hblanks hword hblank htype ih =>
    rw [spared_append_iff, spared_append_iff] at hspared
    obtain ⟨⟨-, hmark⟩, htail⟩ := hspared
    rcases hword with hbare | rfl
    · exact .projected hblanks hbare hblank (ih htail)
    · -- The type leads to its name, so a word in backticks is not spared in front of it.
      have hlength := hmark [] v _ rfl (htype.leadsToName hblank)
      simp [quotedWord] at hlength
  | plain htype hplain ih =>
    rw [htype.beginsProjection_iff hspared] at hplain
    exact .plain (ih hspared) hplain

theorem spared_blanks_iff {blanks : List Char} (hblanks : Blanks blanks) :
    Spared word blanks ↔ ¬QuotesProjection (word ++ blanks) := by
  have hwhole : Spared word blanks ↔ Spared (word ++ blanks) [] := by
    rw [spared_append_iff, List.append_nil]
    exact (and_iff_left hblanks.spared).symm
  rw [hwhole]
  constructor
  · rintro h ⟨before, v, rest, htext, hrest⟩
    have hlength := h before v rest (by rw [List.append_nil, htext]) hrest
    have hsome : 0 < (quotedWord v).length := List.length_pos_of_ne_nil (by simp [quotedWord])
    rw [htext, List.length_append, List.length_append] at hlength
    omega
  · intro h before v rest htext hrest
    rw [List.append_nil] at htext
    exact absurd ⟨before, v, rest, htext, hrest⟩ h

end spared

/-- A text can be derived with bare words if it can be derived with any and quotes no projection. -/
theorem isType_bareWord_iff {text : List Char} {t : TypeExpr} :
    IsType bareWord text t ↔ IsType anyWord text t ∧ ¬QuotesProjection text := by
  constructor
  · rintro ⟨word, blanks, hword, hblanks, rfl⟩
    have hends := endsType_blanks hblanks
    exact ⟨⟨word, blanks, hword.of_bareWord hends, hblanks, rfl⟩,
      (spared_blanks_iff hblanks).mp (hword.spared hends)⟩
  · rintro ⟨⟨word, blanks, hword, hblanks, rfl⟩, hquotes⟩
    exact ⟨word, blanks, hword.to_bareWord ((spared_blanks_iff hblanks).mpr hquotes), hblanks, rfl⟩

/-! ### The language of the reader -/

/-- **The reader and the grammar.**  A text is read as the type that can be derived from it when
    the word of a projection may stand in backticks.  With bare words the same types can be derived,
    but for the texts in which a word in backticks is taken for a projection. -/
theorem parse_iff_derived (text : String) (t : TypeExpr) :
    (parse text = .ok t ↔ IsType anyWord text.toList t) ∧
      (IsType bareWord text.toList t ↔ parse text = .ok t ∧ ¬QuotesProjection text.toList) := by
  refine ⟨parse_eq_ok_iff_isType, ?_⟩
  rw [parse_eq_ok_iff_isType]
  exact isType_bareWord_iff

/-- A word in backticks is taken for that of a projection. -/
theorem parse_quoted_projection :
    parse "Box<`in` T>" =
        .ok { name := "Box", arguments := [.of (some .consumed) (.named "T")] } ∧
      ∀ t, ¬IsType bareWord "Box<`in` T>".toList t := by
  have hleads : LeadsToName " T>".toList :=
    ⟨[' '], 'T', ['>'], by simp, by decide, .inr (by decide), rfl⟩
  have hbox : IsName "Box".toList "Box" "<`in` T>".toList :=
    .single (.bare (by decide) (List.all_eq_true.mp (by decide)) (by simp; decide))
  have htype : Derives anyWord (.type (.named "T")) " T".toList ">".toList := by
    have hname : IsName "T".toList "T" ">".toList :=
      .single (.bare (by decide) (List.forall_mem_nil _) (by simp; decide))
    exact .simple (by decide : Blanks [' ']) hname .absent
  have hargument : Derives anyWord (.argument (.of (some .consumed) (.named "T")))
      "`in` T".toList ">".toList :=
    .projected (by decide : Blanks []) (.inr rfl) (by decide) htype
  have hbracket : Derives anyWord (.arguments [.of (some .consumed) (.named "T")])
      "`in` T>".toList [] :=
    .last hargument (by decide : Blanks [])
  refine ⟨parse_eq_ok_iff_isType.mpr ⟨"Box<`in` T>".toList, [], ?_, by decide, rfl⟩, ?_⟩
  · exact .applied (by decide : Blanks []) hbox (by decide : Blanks []) hbracket .absent
  · intro t h
    exact (isType_bareWord_iff.mp h).2 ⟨"Box<".toList, .consumed, _, rfl, hleads⟩

end CompanionSource.TypeExpr.Grammar
