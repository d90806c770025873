import CompanionSource.Proofs.TypeExpr.Grammar

/-! # Looking ahead

    What is read from the front of an input does not depend on all that follows it.  A reader looks
    ahead to the next character, and behind blanks to the first that is none, and no further.

    So a part of an input can be put in front of another text, and it is read there as it was, if the
    other text **looks like** the first one: it begins with the same character, and behind blanks too.
    A text that shows the end of a type can follow as well, whatever stood there before.

    Nothing is seen beyond a character that is no blank.  Behind a dot, a bracket or a comma, then,
    the text may change at will. -/

namespace CompanionSource.TypeExpr.Parser

open Text (skipBlanks)
open Grammar (Blanks exists_blanks skipBlanks_cons)

/-! ### What a reader sees -/

/-- To a reader in front of it, one text looks like another: both begin with the same character, and
    behind blanks too; or the one shows the end of a type. -/
inductive LooksLike (other rest : List Char) : Prop
  | same (hfirst : other.head? = rest.head?)
      (hsolid : (skipBlanks other).head? = (skipBlanks rest).head?)
  | ends (hends : EndsType (skipBlanks other))

section ahead
variable {front other rest : List Char} {word : String} {c : Char}

theorem EndsType.head?_ne (h : EndsType rest) (hc : c ∉ [',', '>']) : rest.head? ≠ some c := by
  intro hhead
  exact hc (h c hhead)

/-- A reader does not look beyond something that is no blank. -/
theorem head?_of_not_blanks (h : ¬Blanks front) (rest : List Char) :
    (front ++ rest).head? = front.head?
      ∧ (skipBlanks (front ++ rest)).head? = (skipBlanks front).head? := by
  have hsolid : skipBlanks front ≠ [] := by
    intro hnone
    exact h (Text.dropWhile_isBlank_eq_nil_iff.mp hnone)
  have hsome : front ≠ [] := by
    rintro rfl
    exact hsolid rfl
  have hskip : skipBlanks (front ++ rest) = skipBlanks front ++ rest := by
    rw [skipBlanks, List.dropWhile_append, if_neg, skipBlanks]
    rwa [List.isEmpty_iff]
  rw [hskip]
  exact ⟨List.head?_append_of_ne_nil _ hsome, List.head?_append_of_ne_nil _ hsolid⟩

theorem looksLike_of_not_blanks (h : ¬Blanks front) (other rest : List Char) :
    LooksLike (front ++ other) (front ++ rest) := by
  obtain ⟨hfirst, hsolid⟩ := head?_of_not_blanks h other
  obtain ⟨hfirst', hsolid'⟩ := head?_of_not_blanks h rest
  exact .same (hfirst.trans hfirst'.symm) (hsolid.trans hsolid'.symm)

theorem LooksLike.append (h : LooksLike other rest) (front : List Char) :
    LooksLike (front ++ other) (front ++ rest) := by
  by_cases hblanks : Blanks front
  · cases h with
    | same hfirst hsolid =>
      refine .same ?_ ?_
      · cases front with
        | nil => exact hfirst
        | cons c cs => rfl
      · rwa [hblanks.skipBlanks_append, hblanks.skipBlanks_append]
    | ends hends => exact .ends (by rwa [hblanks.skipBlanks_append])
  · exact looksLike_of_not_blanks hblanks other rest

theorem LooksLike.not_continues (h : LooksLike other rest)
    (hrest : ∀ c ∈ rest.head?, ¬Text.continuesName c) :
    ∀ c ∈ other.head?, ¬Text.continuesName c := by
  cases h with
  | same hfirst => rwa [hfirst]
  | ends hends => exact Grammar.not_continues_of_endsName hends.endsName

theorem LooksLike.head?_ne_dot (h : LooksLike other rest) (hrest : rest.head? ≠ some '.') :
    other.head? ≠ some '.' := by
  cases h with
  | same hfirst => rwa [hfirst]
  | ends hends => exact Grammar.head?_ne_dot_of_endsName hends.endsName

/-- No mark comes about that does not end a type. -/
theorem LooksLike.head?_ne (h : LooksLike other rest) (hc : c ∉ [',', '>'])
    (hrest : (skipBlanks rest).head? ≠ some c) : (skipBlanks other).head? ≠ some c := by
  cases h with
  | same _ hsolid => rwa [hsolid]
  | ends hends => exact hends.head?_ne hc

/-- Whether a name follows is seen by the first character, and the first behind blanks. -/
theorem nameFollows_eq (rest : List Char) :
    nameFollows rest = (rest.head?.any Text.isBlank
      && (skipBlanks rest).head?.any fun d => d == '`' || Text.startsName d) := by
  cases rest with
  | nil => rfl
  | cons c cs =>
    by_cases hc : Text.isBlank c
    · have hskip : skipBlanks (c :: cs) = skipBlanks cs := by simp [skipBlanks, hc]
      rw [hskip, nameFollows, hc]
      cases skipBlanks cs <;> simp [hc]
    · simp [nameFollows, hc]

theorem LooksLike.variance?_eq_none (h : LooksLike other rest)
    (hrest : variance? word rest = none) : variance? word other = none := by
  cases h with
  | same hfirst hsolid =>
    rw [variance?, nameFollows_eq, hfirst, hsolid, ← nameFollows_eq]
    exact hrest
  | ends hends =>
    have hfollows : nameFollows other = false := by
      rw [Bool.eq_false_iff]
      intro hfollows
      exact Grammar.not_leadsToName_of_endsName hends.endsName (Grammar.nameFollows_iff.mp hfollows)
    simp [variance?, hfollows]

theorem variance?_of_not_blanks (h : ¬Blanks front) (other rest : List Char) :
    variance? word (front ++ other) = variance? word (front ++ rest) := by
  obtain ⟨hfirst, hsolid⟩ := head?_of_not_blanks h other
  obtain ⟨hfirst', hsolid'⟩ := head?_of_not_blanks h rest
  rw [variance?, variance?, nameFollows_eq, nameFollows_eq, hfirst, hsolid, hfirst', hsolid']

theorem not_isBlank_of_skipBlanks (h : skipBlanks front = c :: rest) : Text.isBlank c = false := by
  have hhead := List.head?_dropWhile_not Text.isBlank front
  rw [skipBlanks] at h
  simpa [h] using hhead

/-- Whatever stands behind a mark, the mark is found and seen in the same way. -/
theorem looksLike_of_mark (hfront : Blanks front) (hc : Text.isBlank c = false)
    (other rest : List Char) : skipBlanks (front ++ c :: other) = c :: other
      ∧ LooksLike (front ++ c :: other) (front ++ c :: rest) := by
  have hskip : ∀ other, skipBlanks (front ++ c :: other) = c :: other := by
    intro other
    rw [hfront.skipBlanks_append, skipBlanks_cons hc]
  refine ⟨hskip other, .same ?_ ?_⟩
  · cases front <;> rfl
  · rw [hskip, hskip]
    rfl

/-- A mark behind blanks can be found behind the same blanks in another text. -/
theorem exists_gap (h : skipBlanks front = c :: rest) :
    ∃ gap, front = gap ++ c :: rest ∧ ∀ other,
      skipBlanks (gap ++ c :: other) = c :: other ∧ LooksLike (gap ++ c :: other) front := by
  obtain ⟨gap, hgap, hfront⟩ := exists_blanks front
  rw [h] at hfront
  refine ⟨gap, hfront, fun other => ?_⟩
  have hmark := looksLike_of_mark hgap (not_isBlank_of_skipBlanks h) other rest
  rwa [← hfront] at hmark

/-- If only the end of a text is changed, behind its first character, no blanks come about in front
    of it. -/
theorem skipBlanks_of_same_start {input tail : List Char} (h : skipBlanks input = front ++ rest)
    (hrest : rest.head? = some c) : skipBlanks (front ++ c :: tail) = front ++ c :: tail := by
  cases front with
  | nil =>
    obtain ⟨more, rfl⟩ := List.head?_eq_some_iff.mp hrest
    exact skipBlanks_cons (not_isBlank_of_skipBlanks h) tail
  | cons d ds => exact skipBlanks_cons (not_isBlank_of_skipBlanks h) _

theorem not_blanks_of_length (h : rest.length < (skipBlanks (front ++ rest)).length) :
    ¬Blanks front := by
  intro hblanks
  have hrest := Text.length_skipBlanks_le rest
  rw [hblanks.skipBlanks_append] at h
  omega

end ahead

/-! ### What has been read -/

section exchange
variable {input blanks front after rest : List Char} {name word : String}

theorem ReadsIdentifier.behind (h : ReadsIdentifier input name rest) (hblanks : Blanks blanks) :
    ReadsIdentifier (skipBlanks (blanks ++ input)) name rest := by
  rwa [hblanks.skipBlanks_append, h.skipBlanks_eq]

theorem ReadsName.behind (h : ReadsName input name rest) (hblanks : Blanks blanks) :
    ReadsName (skipBlanks (blanks ++ input)) name rest := by
  rwa [hblanks.skipBlanks_append, h.skipBlanks_eq]

theorem ReadsIdentifier.exchange (h : ReadsIdentifier input name rest) :
    ∃ front, input = front ++ rest ∧ ∀ other, LooksLike other rest →
      ReadsIdentifier (front ++ other) name other := by
  cases h with
  | @quoted name hclosed hsome =>
    refine ⟨'`' :: (name ++ ['`']), by simp, fun other _ => ?_⟩
    simpa using ReadsIdentifier.quoted hclosed hsome other
  | @bare first more _ hfirst hmore hrest =>
    refine ⟨first :: more, rfl, fun other hother => ?_⟩
    exact .bare hfirst hmore (hother.not_continues hrest)

theorem ReadsName.exchange (h : ReadsName input name rest) :
    ∃ front, input = front ++ rest ∧ ∀ other, LooksLike other rest →
      ReadsName (front ++ other) name other := by
  induction h with
  | single hname hend =>
    obtain ⟨front, hinput, hfront⟩ := hname.exchange
    refine ⟨front, hinput, fun other hother => ?_⟩
    exact .single (hfront other hother) (hother.head?_ne_dot hend)
  | @dotted _ _ _ _ rest hfirst _ ih =>
    obtain ⟨front, hinput, hfront⟩ := hfirst.exchange
    obtain ⟨others, rfl, hothers⟩ := ih
    refine ⟨front ++ '.' :: others, by simp [hinput], fun other hother => ?_⟩
    -- Behind its dot, nothing can be seen from the first segment.
    have hdot : LooksLike ('.' :: (others ++ other)) ('.' :: (others ++ rest)) :=
      looksLike_of_not_blanks (by decide : ¬Blanks ['.']) _ _
    simpa using ReadsName.dotted (hfront _ hdot) (hothers other hother)

theorem ReadsQuestion.exchange {nullable : Bool} (h : ReadsQuestion input nullable rest) :
    ∃ front, input = front ++ rest ∧ ∀ other, LooksLike other rest →
      ReadsQuestion (front ++ other) nullable other := by
  cases h with
  | present hmark =>
    obtain ⟨gap, hinput, hgap⟩ := exists_gap hmark
    refine ⟨gap ++ ['?'], by simp [hinput], fun other _ => .present ?_⟩
    simpa using (hgap other).1
  | absent hmark =>
    exact ⟨[], rfl, fun other hother => .absent (hother.head?_ne (by decide) hmark)⟩

/-- An identifier that ends before the last character that is no blank is read again in front of
    anything, and what is left of it is seen to follow in the same way. -/
theorem ReadsIdentifier.goes_on (h : ReadsIdentifier (front ++ rest) word after)
    (hpast : rest.length < (skipBlanks after).length) :
    ∃ mid, after = mid ++ rest ∧ ∀ other, ReadsIdentifier (front ++ other) word (mid ++ other)
      ∧ variance? word (mid ++ other) = variance? word after := by
  have hskip := Text.length_skipBlanks_le after
  obtain ⟨spelled, hinput, hspelled⟩ := h.exchange
  obtain ⟨mid, rfl⟩ : ∃ mid, after = mid ++ rest := by
    have hsuffix : rest <:+ after := by
      apply List.suffix_of_suffix_length_le (List.suffix_append front rest)
      · exact ⟨spelled, hinput.symm⟩
      · omega
    exact hsuffix.imp fun _ h => h.symm
  have hmid := not_blanks_of_length hpast
  obtain rfl : front = spelled ++ mid := by
    rwa [← List.append_assoc, List.append_cancel_right_eq] at hinput
  refine ⟨mid, rfl, fun other => ⟨?_, variance?_of_not_blanks hmid other rest⟩⟩
  rw [List.append_assoc]
  exact hspelled _ (looksLike_of_not_blanks hmid other rest)

theorem ReadsName.length_le_of_identifier (h : ReadsName input name rest)
    (hword : ReadsIdentifier input word after) : rest.length ≤ after.length := by
  cases h with
  | single hname =>
    obtain ⟨-, rfl⟩ := Grammar.readsIdentifier_unique hname hword
    exact Nat.le_refl _
  | @dotted _ _ _ more _ hfirst hothers =>
    obtain ⟨-, rfl⟩ := Grammar.readsIdentifier_unique hfirst hword
    have hshorter := hothers.took.shorter
    rw [List.length_cons]
    omega

theorem ReadsQuestion.length_le {nullable : Bool} (h : ReadsQuestion input nullable rest) :
    rest.length ≤ input.length := by
  obtain ⟨front, rfl, -⟩ := h.exchange
  simp

theorem Reads.length_lt {item : Item} (h : Reads input item rest) : rest.length < input.length := by
  have htook := h.took
  cases item with
  | type t => exact Took.shorter htook
  | arguments as => exact Took.shorter htook
  | argument a => exact Took.shorter htook

/-- A mark behind blanks, and what is behind it. -/
theorem length_of_mark {c : Char} (h : skipBlanks input = c :: rest) :
    rest.length < input.length := by
  have hlength := Text.length_skipBlanks_le input
  rw [h, List.length_cons] at hlength
  omega

/-- A type ends where its first identifier does, or behind that. -/
theorem Reads.length_le_of_identifier {t : TypeExpr} (h : Reads input (.type t) rest)
    (hword : ReadsIdentifier (skipBlanks input) word after) : rest.length ≤ after.length := by
  cases h with
  | simple hname _ hquestion =>
    have hname := hname.length_le_of_identifier hword
    have hquestion := hquestion.length_le
    omega
  | applied hname hbracket harguments hquestion =>
    have hname := hname.length_le_of_identifier hword
    have hbracket := length_of_mark hbracket
    have harguments := harguments.length_lt
    have hquestion := hquestion.length_le
    omega

/-- An item that has been read is read again in front of what looks like its old end. -/
theorem Reads.exchange {item : Item} (h : Reads input item rest) :
    ∃ front, input = front ++ rest ∧ ∀ other, LooksLike other rest →
      Reads (front ++ other) item other := by
  induction h with
  | @simple input _ _ _ _ hname hbracket hquestion =>
    obtain ⟨blanks, hblanks, hinput⟩ := exists_blanks input
    obtain ⟨word, hskip, hword⟩ := hname.exchange
    obtain ⟨question, rfl, hmark⟩ := hquestion.exchange
    refine ⟨blanks ++ (word ++ question), by rw [hinput, hskip]; simp, fun other hother => ?_⟩
    have hafter := hother.append question
    simp only [List.append_assoc]
    exact .simple ((hword _ hafter).behind hblanks) (hafter.head?_ne (by decide) hbracket)
      (hmark other hother)
  | @applied input _ _ _ _ _ _ _ hname hbracket _ hquestion ih =>
    obtain ⟨blanks, hblanks, hinput⟩ := exists_blanks input
    obtain ⟨word, hskip, hword⟩ := hname.exchange
    obtain ⟨gap, hafter, hgap⟩ := exists_gap hbracket
    obtain ⟨inside, rfl, hinside⟩ := ih
    obtain ⟨question, rfl, hmark⟩ := hquestion.exchange
    refine ⟨blanks ++ (word ++ (gap ++ '<' :: (inside ++ question))), ?_, fun other hother => ?_⟩
    · rw [hinput, hskip, hafter]
      simp
    · obtain ⟨hopen, hlooks⟩ := hgap (inside ++ (question ++ other))
      simp only [List.append_assoc, List.cons_append]
      exact .applied ((hword _ hlooks).behind hblanks) hopen (hinside _ (hother.append question))
        (hmark other hother)
  | last _ hclose ih =>
    obtain ⟨word, rfl, hword⟩ := ih
    obtain ⟨gap, rfl, hgap⟩ := exists_gap hclose
    refine ⟨word ++ (gap ++ ['>']), by simp, fun other _ => ?_⟩
    obtain ⟨hclose, hlooks⟩ := hgap other
    simp only [List.append_assoc, List.singleton_append]
    exact .last (hword _ hlooks) hclose
  | more _ hcomma _ ihargument ihmore =>
    obtain ⟨word, rfl, hword⟩ := ihargument
    obtain ⟨gap, rfl, hgap⟩ := exists_gap hcomma
    obtain ⟨others, rfl, hothers⟩ := ihmore
    refine ⟨word ++ (gap ++ ',' :: others), by simp, fun other hother => ?_⟩
    obtain ⟨hcomma, hlooks⟩ := hgap (others ++ other)
    simp only [List.append_assoc, List.cons_append]
    exact .more (hword _ hlooks) hcomma (hothers other hother)
  | star hstar =>
    obtain ⟨gap, rfl, hgap⟩ := exists_gap hstar
    refine ⟨gap ++ ['*'], by simp, fun other _ => ?_⟩
    simp only [List.append_assoc, List.singleton_append]
    exact .star (hgap other).1
  | @projected input _ _ _ _ _ hword hvariance htype ih =>
    obtain ⟨blanks, hblanks, hinput⟩ := exists_blanks input
    obtain ⟨word, hskip, hword⟩ := hword.exchange
    obtain ⟨type, rfl, htype'⟩ := ih
    have hsolid : ¬Blanks type := by
      obtain ⟨type', heq, hderives⟩ := Grammar.exists_derives htype
      rw [List.append_cancel_right_eq] at heq
      rw [heq]
      exact hderives.not_blanks
    refine ⟨blanks ++ (word ++ type), by rw [hinput, hskip]; simp, fun other hother => ?_⟩
    simp only [List.append_assoc]
    refine .projected ((hword _ ?_).behind hblanks) ?_ (htype' other hother)
    · exact looksLike_of_not_blanks hsolid _ _
    · rw [← hvariance]
      exact variance?_of_not_blanks hsolid _ _
  | @plain input _ after _ rest hword hvariance htype ih =>
    obtain ⟨blanks, hblanks, hinput⟩ := exists_blanks input
    obtain ⟨type, hskip, htype'⟩ := ih
    obtain ⟨word, hskip', hword'⟩ := hword.exchange
    -- The type begins with the identifier that the reader looked at.
    obtain ⟨mid, rfl⟩ : ∃ mid, after = mid ++ rest := by
      have hlength := htype.length_le_of_identifier (hword.skipBlanks_eq.symm ▸ hword)
      have hsuffix := List.suffix_of_suffix_length_le ⟨type, hskip.symm⟩ ⟨word, hskip'.symm⟩ hlength
      exact hsuffix.imp fun _ h => h.symm
    obtain rfl : type = word ++ mid := by
      rwa [hskip, ← List.append_assoc, List.append_cancel_right_eq] at hskip'
    refine ⟨blanks ++ (word ++ mid), by rw [List.append_assoc, ← hskip, ← hinput], ?_⟩
    intro other hother
    have hmid := hother.append mid
    have htype' := htype' other hother
    have hword' := hword' _ hmid
    rw [List.append_assoc] at htype' ⊢
    rw [List.append_assoc]
    refine .plain (hword'.behind hblanks) (hmid.variance?_eq_none hvariance) ?_
    rwa [hblanks.skipBlanks_append, hword'.skipBlanks_eq]

end exchange

end CompanionSource.TypeExpr.Parser
