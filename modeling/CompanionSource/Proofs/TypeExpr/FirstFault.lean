import CompanionSource.Proofs.TypeExpr.Lookahead
import CompanionSource.Proofs.TypeExpr.Stopping

/-! # The first fault of a text

    A text that is no type is refused at a position.  That position is the best one: what stands in
    front of it is still the beginning of a type, and with the character there it is no more.  Only
    backticks with nothing between them are complained about too late, behind the second one.

    - **Going on.**  What has been read up to the fault is kept, and the part that was refused is put
      in as short as it can be: an identifier, a backtick, a closing bracket.
    - **Staying refused.**  Whatever stands behind the character at the fault, the reader comes to it
      in the same way and stops there again. -/

namespace CompanionSource.TypeExpr.Parser

open Text (skipBlanks)
open Grammar (Blanks exists_blanks skipBlanks_cons)

/-! ### How far a refused input has been seen -/

section seen
variable {input after rest : List Char} {complaint : Complaint} {word : String}

theorem RefusesIdentifier.length_le (h : RefusesIdentifier input rest complaint) :
    rest.length ≤ input.length := by
  cases h with
  | expected => exact Nat.le_refl _
  | unterminated => exact Nat.zero_le _
  | empty =>
    rw [List.length_cons, List.length_cons]
    omega

theorem RefusesName.length_le (h : RefusesName input rest complaint) :
    rest.length ≤ input.length := by
  induction h with
  | here hfirst => exact hfirst.length_le
  | behind hfirst _ ih =>
    have hshorter := hfirst.took.shorter
    rw [List.length_cons] at hshorter
    omega

theorem Refuses.length_le {kind : ItemKind} (h : Refuses input kind rest complaint) :
    rest.length ≤ input.length := by
  induction h with
  | @name input _ _ hname =>
    have hskip := Text.length_skipBlanks_le input
    have hname := hname.length_le
    omega
  | @inside input _ _ _ _ _ hname hbracket _ ih =>
    have hskip := Text.length_skipBlanks_le input
    have hname := hname.took.shorter
    have hbracket := length_of_mark hbracket
    omega
  | first _ ih => exact ih
  | others hargument hcomma _ ih =>
    have hargument := hargument.length_lt
    have hcomma := length_of_mark hcomma
    omega
  | @unclosed _ after _ hargument =>
    have hskip := Text.length_skipBlanks_le after
    have hargument := hargument.length_lt
    omega
  | @word input _ _ _ hword =>
    have hskip := Text.length_skipBlanks_le input
    have hword := hword.length_le
    omega
  | @projected input _ _ _ _ _ hword _ _ ih =>
    have hskip := Text.length_skipBlanks_le input
    have hword := hword.took.shorter
    omega
  | @plain input _ _ _ _ _ _ _ ih =>
    have hskip := Text.length_skipBlanks_le input
    omega

/-- Where a name follows, its first character is taken before a type is refused. -/
theorem Refuses.length_lt_of_nameFollows (h : Refuses input .type rest complaint)
    (hfollows : nameFollows input) : rest.length < (skipBlanks input).length := by
  cases h with
  | name hname =>
    cases hname with
    | here hfirst =>
      obtain ⟨blanks, first, more, -, hblanks, hbegins, rfl⟩ :=
        Grammar.nameFollows_iff.mp hfollows
      rw [hblanks.skipBlanks_append, skipBlanks_cons (Grammar.not_isBlank_of_beginsName hbegins)]
        at hfirst ⊢
      cases hfirst with
      | expected hnone =>
        obtain ⟨hquote, hstarts⟩ := hnone first rfl
        exact absurd hbegins (not_or.mpr ⟨hquote, hstarts⟩)
      | unterminated => simp
      | empty =>
        rw [List.length_cons, List.length_cons]
        omega
    | behind hfirst hothers =>
      have hshorter := hfirst.took.shorter
      have hothers := hothers.length_le
      rw [List.length_cons] at hshorter
      omega
  | inside hname hbracket harguments =>
    have hname := hname.took.shorter
    have hbracket := length_of_mark hbracket
    have harguments := harguments.length_le
    omega

/-- Behind its first identifier, a dot or a bracket is taken before a type is refused. -/
theorem Refuses.length_lt_of_identifier (h : Refuses input .type rest complaint)
    (hword : ReadsIdentifier (skipBlanks input) word after) :
    rest.length < (skipBlanks after).length := by
  cases h with
  | name hname =>
    cases hname with
    | here hfirst => exact absurd hword hfirst.not_reads
    | @behind _ more _ _ _ hfirst hothers =>
      obtain ⟨-, rfl⟩ := Grammar.readsIdentifier_unique hfirst hword
      have hothers := hothers.length_le
      rw [skipBlanks_cons (by decide), List.length_cons]
      omega
  | inside hname hbracket harguments =>
    have harguments := harguments.length_le
    cases hname with
    | single hname =>
      obtain ⟨-, rfl⟩ := Grammar.readsIdentifier_unique hname hword
      rw [hbracket, List.length_cons]
      omega
    | dotted hfirst hothers =>
      obtain ⟨-, rfl⟩ := Grammar.readsIdentifier_unique hfirst hword
      have hothers := hothers.took.shorter
      have hbracket := length_of_mark hbracket
      rw [skipBlanks_cons (by decide), List.length_cons]
      omega

end seen

/-! ### Faults -/

/-- The fault in front of `rest` is the first one.  What stands in front of it can go on, and is read
    then in front of whatever ends a type; and with the character at the fault it is refused, whatever
    stands behind that. -/
structure FirstFault (reads refuses : List Char → List Char → Prop) (front rest : List Char) :
    Prop where
  goesOn : ∃ more, ∀ follow, EndsType (skipBlanks follow) → reads (front ++ (more ++ follow)) follow
  staysRefused : ∀ bad tail, rest.head? = some bad → refuses (front ++ bad :: tail) (bad :: tail)

/-- The first fault of a part is that of the whole, if what can be done with the part behind
    something is done with the whole. -/
theorem FirstFault.behind {reads refuses reads' refuses' : List Char → List Char → Prop}
    {front rest : List Char} (h : FirstFault reads refuses front rest) (before : List Char)
    (hreads : ∀ other follow, EndsType (skipBlanks follow) → reads (front ++ other) follow →
      reads' (before ++ (front ++ other)) follow)
    (hrefuses : ∀ bad tail, rest.head? = some bad → refuses (front ++ bad :: tail) (bad :: tail) →
      refuses' (before ++ (front ++ bad :: tail)) (bad :: tail)) :
    FirstFault reads' refuses' (before ++ front) rest := by
  obtain ⟨⟨more, hmore⟩, hrefused⟩ := h
  refine ⟨⟨more, ?_⟩, ?_⟩
  · intro follow hfollow
    rw [List.append_assoc]
    exact hreads _ follow hfollow (hmore follow hfollow)
  · intro bad tail hbad
    rw [List.append_assoc]
    exact hrefuses bad tail hbad (hrefused bad tail hbad)

/-- Some item of the kind is read. -/
def ItemKind.Reads (kind : ItemKind) (input rest : List Char) : Prop :=
  match kind with
  | .type => ∃ t, Parser.Reads input (.type t) rest
  | .arguments => ∃ as, Parser.Reads input (.arguments as) rest
  | .argument => ∃ a, Parser.Reads input (.argument a) rest

/-- The reader of such items comes to its first fault. -/
def ItemKind.Faults (kind : ItemKind) (input rest : List Char) (complaint : Complaint) : Prop :=
  ∃ front, input = front ++ rest ∧
    FirstFault kind.Reads (fun input rest => Refuses input kind rest complaint) front rest

section faults
variable {input after inside rest : List Char} {complaint : Complaint} {name word : String}
  {a : TypeArgument TypeExpr}

theorem RefusesIdentifier.firstFault (h : RefusesIdentifier input rest complaint)
    (hsome : complaint ≠ .backticksEmpty) :
    ∃ front, input = front ++ rest ∧
      FirstFault (fun input rest => ∃ name, ReadsIdentifier input name rest)
        (fun input rest => RefusesIdentifier input rest complaint) front rest := by
  cases h with
  | expected hfirst =>
    refine ⟨[], rfl, ⟨['a'], ?_⟩, ?_⟩
    · intro follow hfollow
      have hend := Grammar.not_continues_of_endsName hfollow.endsName
      exact ⟨_, .bare (by decide) (List.forall_mem_nil _) hend⟩
    · intro bad tail hbad
      exact .expected (by rwa [hbad] at hfirst)
  | @unterminated name hopen =>
    -- With one more character, there is something between the backticks in any case.
    refine ⟨'`' :: name, by simp, ⟨['a', '`'], ?_⟩, ?_⟩
    · intro follow _
      have hclosed : '`' ∉ name ++ ['a'] := by simp [hopen]
      have hread := ReadsIdentifier.quoted hclosed (by simp) follow
      exact ⟨_, by simpa using hread⟩
    · rintro bad tail ⟨⟩
  | empty => exact absurd rfl hsome

theorem RefusesName.firstFault (h : RefusesName input rest complaint)
    (hsome : complaint ≠ .backticksEmpty) :
    ∃ front, input = front ++ rest ∧
      FirstFault (fun input rest => ∃ name, ReadsName input name rest)
        (fun input rest => RefusesName input rest complaint) front rest := by
  induction h with
  | here hfirst =>
    obtain ⟨front, hinput, hfault⟩ := hfirst.firstFault hsome
    refine ⟨front, hinput, hfault.behind [] ?_ ?_⟩
    · rintro other follow hfollow ⟨name, hname⟩
      exact ⟨name, .single hname (Grammar.head?_ne_dot_of_endsName hfollow.endsName)⟩
    · intro bad tail _ hrefused
      exact .here hrefused
  | @behind _ _ rest first _ hfirst _ ih =>
    obtain ⟨segment, rfl, hsegment⟩ := hfirst.exchange
    obtain ⟨front, rfl, hfault⟩ := ih hsome
    have hdot : ∀ other,
        ReadsIdentifier (segment ++ ['.'] ++ other) first ('.' :: other) := by
      intro other
      rw [List.append_assoc]
      exact hsegment _ (looksLike_of_not_blanks (by decide : ¬Blanks ['.']) other (front ++ rest))
    refine ⟨segment ++ ['.'] ++ front, by simp, hfault.behind _ ?_ ?_⟩
    · rintro other follow _ ⟨others, hothers⟩
      exact ⟨_, .dotted (hdot _) hothers⟩
    · intro bad tail _ hrefused
      exact .behind (hdot _) hrefused

/-- A fault in the name of a type. -/
theorem faults_type_of_name (h : RefusesName (skipBlanks input) rest complaint)
    (hsome : complaint ≠ .backticksEmpty) : ItemKind.type.Faults input rest complaint := by
  obtain ⟨blanks, hblanks, hinput⟩ := exists_blanks input
  obtain ⟨front, hskip, hfault⟩ := h.firstFault hsome
  refine ⟨blanks ++ front, by rw [List.append_assoc, ← hskip, ← hinput], hfault.behind _ ?_ ?_⟩
  · rintro other follow hfollow ⟨name, hname⟩
    exact ⟨_, .simple (hname.behind hblanks) (hfollow.head?_ne (by decide))
      (.absent (hfollow.head?_ne (by decide)))⟩
  · intro bad tail hbad hrefused
    refine .name ?_
    rwa [hblanks.skipBlanks_append, skipBlanks_of_same_start hskip hbad]

/-- A fault in the arguments of a type. -/
theorem faults_type_of_arguments (hname : ReadsName (skipBlanks input) name after)
    (hbracket : skipBlanks after = '<' :: inside)
    (h : ItemKind.arguments.Faults inside rest complaint) :
    ItemKind.type.Faults input rest complaint := by
  obtain ⟨blanks, hblanks, hinput⟩ := exists_blanks input
  obtain ⟨spelled, hskip, hspelled⟩ := hname.exchange
  obtain ⟨gap, hafter, hgap⟩ := exists_gap hbracket
  obtain ⟨front, rfl, hfault⟩ := h
  have hopens : ∀ other, skipBlanks (gap ++ '<' :: other) = '<' :: other ∧
      ReadsName (skipBlanks (blanks ++ spelled ++ gap ++ ['<'] ++ other)) name
        (gap ++ '<' :: other) := by
    intro other
    obtain ⟨hopen, hlooks⟩ := hgap other
    have hname := (hspelled _ hlooks).behind hblanks
    exact ⟨hopen, by simpa using hname⟩
  refine ⟨blanks ++ spelled ++ gap ++ ['<'] ++ front, ?_, hfault.behind _ ?_ ?_⟩
  · rw [hinput, hskip, hafter]
    simp
  · rintro other follow hfollow ⟨as, harguments⟩
    obtain ⟨hopen, hname⟩ := hopens (front ++ other)
    exact ⟨_, .applied hname hopen harguments (.absent (hfollow.head?_ne (by decide)))⟩
  · intro bad tail _ hrefused
    obtain ⟨hopen, hname⟩ := hopens (front ++ bad :: tail)
    exact .inside hname hopen hrefused

/-- A fault in the first of some arguments. -/
theorem faults_arguments_of_first (h : ItemKind.argument.Faults input rest complaint) :
    ItemKind.arguments.Faults input rest complaint := by
  obtain ⟨front, hinput, ⟨more, hmore⟩, hrefused⟩ := h
  refine ⟨front, hinput, ⟨more ++ ['>'], ?_⟩, fun bad tail hbad => .first (hrefused bad tail hbad)⟩
  intro follow _
  have hclose : EndsType (skipBlanks ('>' :: follow)) :=
    Grammar.endsType_mark (List.forall_mem_nil _) (by simp)
  obtain ⟨a, hargument⟩ := hmore ('>' :: follow) hclose
  simp only [List.append_assoc, List.singleton_append]
  exact ⟨_, .last hargument (skipBlanks_cons (by decide) follow)⟩

/-- A fault in the arguments behind the first one. -/
theorem faults_arguments_of_others (hargument : Reads input (.argument a) after)
    (hcomma : skipBlanks after = ',' :: inside)
    (h : ItemKind.arguments.Faults inside rest complaint) :
    ItemKind.arguments.Faults input rest complaint := by
  obtain ⟨spelled, rfl, hspelled⟩ := hargument.exchange
  obtain ⟨gap, rfl, hgap⟩ := exists_gap hcomma
  obtain ⟨front, rfl, hfault⟩ := h
  have hgoes : ∀ other, skipBlanks (gap ++ ',' :: other) = ',' :: other ∧
      Reads (spelled ++ gap ++ [','] ++ other) (.argument a) (gap ++ ',' :: other) := by
    intro other
    obtain ⟨hcomma, hlooks⟩ := hgap other
    have hargument := hspelled _ hlooks
    exact ⟨hcomma, by simpa using hargument⟩
  refine ⟨spelled ++ gap ++ [','] ++ front, by simp, hfault.behind _ ?_ ?_⟩
  · rintro other follow _ ⟨as, hothers⟩
    obtain ⟨hcomma, hargument⟩ := hgoes (front ++ other)
    exact ⟨_, .more hargument hcomma hothers⟩
  · intro bad tail _ hrefused
    obtain ⟨hcomma, hargument⟩ := hgoes (front ++ bad :: tail)
    exact .others hargument hcomma hrefused

/-- A fault behind an argument. -/
theorem faults_arguments_of_unclosed (hargument : Reads input (.argument a) after)
    (hcomma : (skipBlanks after).head? ≠ some ',') (hclose : (skipBlanks after).head? ≠ some '>') :
    ItemKind.arguments.Faults input (skipBlanks after) .commaOrCloseExpected := by
  obtain ⟨spelled, rfl, hspelled⟩ := hargument.exchange
  obtain ⟨gap, hgap, hafter⟩ := exists_blanks after
  refine ⟨spelled ++ gap, by rw [List.append_assoc, ← hafter], ⟨['>'], ?_⟩, ?_⟩
  · intro follow _
    have hends : EndsType (skipBlanks (gap ++ '>' :: follow)) :=
      Grammar.endsType_mark hgap (by simp)
    rw [List.append_assoc]
    refine ⟨_, .last (hspelled _ (.ends hends)) ?_⟩
    rw [hgap.skipBlanks_append]
    exact skipBlanks_cons (by decide) follow
  · intro bad tail hbad
    obtain ⟨rest, hrest⟩ := List.head?_eq_some_iff.mp hbad
    obtain ⟨hskip, hlooks⟩ := looksLike_of_mark hgap (not_isBlank_of_skipBlanks hrest) tail rest
    rw [hrest] at hafter hcomma hclose
    rw [← hafter] at hlooks
    have hrefuse := Refuses.unclosed (hspelled _ hlooks) (by rwa [hskip]) (by rwa [hskip])
    rwa [hskip, ← List.append_assoc] at hrefuse

/-- A fault in the identifier that an argument begins with. -/
theorem faults_argument_of_word (hstar : (skipBlanks input).head? ≠ some '*')
    (h : RefusesIdentifier (skipBlanks input) rest complaint) (hsome : complaint ≠ .backticksEmpty) :
    ItemKind.argument.Faults input rest complaint := by
  obtain ⟨blanks, hblanks, hinput⟩ := exists_blanks input
  obtain ⟨front, hskip, hfault⟩ := h.firstFault hsome
  refine ⟨blanks ++ front, by rw [List.append_assoc, ← hskip, ← hinput], hfault.behind _ ?_ ?_⟩
  · rintro other follow hfollow ⟨name, hname⟩
    have hvariance : variance? name follow = none :=
      (LooksLike.ends hfollow : LooksLike follow []).variance?_eq_none rfl
    have htype : Reads (skipBlanks (blanks ++ (front ++ other))) (.type ⟨name, [], false⟩)
        follow := by
      refine .simple ?_ (hfollow.head?_ne (by decide)) (.absent (hfollow.head?_ne (by decide)))
      rw [hblanks.skipBlanks_append, hname.skipBlanks_eq, hname.skipBlanks_eq]
      exact .single hname (Grammar.head?_ne_dot_of_endsName hfollow.endsName)
    exact ⟨_, .plain (hname.behind hblanks) hvariance htype⟩
  · intro bad tail hbad hrefused
    have hstart : (front ++ bad :: tail).head? = (skipBlanks input).head? := by
      rw [hskip, List.head?_append, List.head?_append, hbad, List.head?_cons]
    have hsame : skipBlanks (blanks ++ (front ++ bad :: tail)) = front ++ bad :: tail := by
      rw [hblanks.skipBlanks_append, skipBlanks_of_same_start hskip hbad]
    exact .word (by rwa [hsame, hstart]) (by rwa [hsame])

/-- A fault in the type behind the word of a projection. -/
theorem faults_argument_of_projected {v : Variance}
    (hword : ReadsIdentifier (skipBlanks input) word after)
    (hvariance : variance? word after = some v) (htype : Refuses after .type rest complaint)
    (h : ItemKind.type.Faults after rest complaint) :
    ItemKind.argument.Faults input rest complaint := by
  obtain ⟨blanks, hblanks, hinput⟩ := exists_blanks input
  obtain ⟨spelled, hskip, hspelled⟩ := hword.exchange
  obtain ⟨front, rfl, hfault⟩ := h
  -- The name that the reader saw behind the word lies in front of the fault.
  have hfollows := Grammar.nameFollows_iff.mpr (Grammar.variance?_eq_some_iff.mp hvariance).1
  have hsolid := not_blanks_of_length (htype.length_lt_of_nameFollows hfollows)
  have hagain : ∀ other, variance? word (front ++ other) = some v ∧
      ReadsIdentifier (skipBlanks (blanks ++ spelled ++ (front ++ other))) word
        (front ++ other) := by
    intro other
    have hword := hspelled _ (looksLike_of_not_blanks hsolid other rest)
    rw [List.append_assoc]
    exact ⟨(variance?_of_not_blanks hsolid other rest).trans hvariance, hword.behind hblanks⟩
  refine ⟨blanks ++ spelled ++ front, by rw [hinput, hskip]; simp, hfault.behind _ ?_ ?_⟩
  · rintro other follow _ ⟨t, hread⟩
    obtain ⟨hvariance, hword⟩ := hagain other
    exact ⟨_, .projected hword hvariance hread⟩
  · intro bad tail _ hrefused
    obtain ⟨hvariance, hword⟩ := hagain (bad :: tail)
    exact .projected hword hvariance hrefused

/-- A fault in the type that an argument is. -/
theorem faults_argument_of_plain (hword : ReadsIdentifier (skipBlanks input) word after)
    (hvariance : variance? word after = none)
    (htype : Refuses (skipBlanks input) .type rest complaint)
    (h : ItemKind.type.Faults (skipBlanks input) rest complaint) :
    ItemKind.argument.Faults input rest complaint := by
  obtain ⟨blanks, hblanks, hinput⟩ := exists_blanks input
  obtain ⟨front, hskip, hfault⟩ := h
  have hpast := htype.length_lt_of_identifier (hword.skipBlanks_eq.symm ▸ hword)
  rw [hskip] at hword
  obtain ⟨mid, rfl, hagain⟩ := hword.goes_on hpast
  have hsame : ∀ other, skipBlanks (blanks ++ (front ++ other)) = front ++ other := by
    intro other
    rw [hblanks.skipBlanks_append, (hagain other).1.skipBlanks_eq]
  refine ⟨blanks ++ front, by rw [List.append_assoc, ← hskip, ← hinput], hfault.behind _ ?_ ?_⟩
  · rintro other follow _ ⟨t, hread⟩
    obtain ⟨hword, hfollows⟩ := hagain other
    exact ⟨_, .plain (hword.behind hblanks) (hfollows.trans hvariance) (by rwa [hsame])⟩
  · intro bad tail _ hrefused
    obtain ⟨hword, hfollows⟩ := hagain (bad :: tail)
    exact .plain (hword.behind hblanks) (hfollows.trans hvariance) (by rwa [hsame])

theorem Refuses.faults {kind : ItemKind} (h : Refuses input kind rest complaint)
    (hsome : complaint ≠ .backticksEmpty) : kind.Faults input rest complaint := by
  induction h with
  | name hname => exact faults_type_of_name hname hsome
  | inside hname hbracket _ ih => exact faults_type_of_arguments hname hbracket (ih hsome)
  | first _ ih => exact faults_arguments_of_first (ih hsome)
  | others hargument hcomma _ ih => exact faults_arguments_of_others hargument hcomma (ih hsome)
  | unclosed hargument hcomma hclose => exact faults_arguments_of_unclosed hargument hcomma hclose
  | word hstar hword => exact faults_argument_of_word hstar hword hsome
  | projected hword hvariance htype ih =>
    exact faults_argument_of_projected hword hvariance htype (ih hsome)
  | plain hword hvariance htype ih =>
    exact faults_argument_of_plain hword hvariance htype (ih hsome)

end faults

end CompanionSource.TypeExpr.Parser

namespace CompanionSource.TypeExpr

open Text (skipBlanks)
open Grammar (exists_blanks)

/-- Some text that begins so is a type. -/
def BeginsType (start : List Char) : Prop :=
  ∃ more t, parse (String.ofList (start ++ more)) = .ok t

theorem beginsType_of_reads {start more rest : List Char} {t : TypeExpr}
    (h : Parser.Reads (start ++ more) (.type t) rest) (hrest : skipBlanks rest = []) :
    BeginsType start := by
  refine ⟨more, t, parse_eq_ok_iff.mpr ⟨rest, ?_, hrest⟩⟩
  rwa [String.toList_ofList]

/-- What stands in front of the fault of a text begins a type, and with the character at the fault
    the text is refused, whatever stands behind that. -/
theorem RefusesText.firstFault {text rest : List Char} {complaint : Complaint}
    (h : RefusesText text rest complaint) (hsome : complaint ≠ .backticksEmpty) :
    ∃ front, text = front ++ rest ∧ BeginsType front ∧
      ∀ bad tail, rest.head? = some bad →
        RefusesText (front ++ bad :: tail) (bad :: tail) complaint := by
  cases h with
  | type htype =>
    obtain ⟨front, htext, ⟨more, hmore⟩, hrefused⟩ := htype.faults hsome
    obtain ⟨t, hread⟩ := hmore [] (Grammar.endsType_blanks (List.forall_mem_nil _))
    refine ⟨front, htext, beginsType_of_reads hread rfl, ?_⟩
    exact fun bad tail hbad => .type (hrefused bad tail hbad)
  | @trailing after _ htype hmore =>
    obtain ⟨word, rfl, hword⟩ := htype.exchange
    obtain ⟨gap, hgap, hafter⟩ := exists_blanks after
    refine ⟨word ++ gap, by rw [List.append_assoc, ← hafter], ?_, ?_⟩
    · have hread := hword gap (.ends (Grammar.endsType_blanks hgap))
      rw [← List.append_nil (word ++ gap)] at hread
      exact beginsType_of_reads hread (Text.dropWhile_isBlank_eq_nil_iff.mpr hgap)
    · intro bad tail hbad
      obtain ⟨rest, hrest⟩ := List.head?_eq_some_iff.mp hbad
      obtain ⟨hskip, hlooks⟩ := Parser.looksLike_of_mark hgap
        (Parser.not_isBlank_of_skipBlanks hrest) tail rest
      rw [hrest] at hafter
      rw [← hafter] at hlooks
      have hrefuse := RefusesText.trailing (hword _ hlooks) (by simp [hskip])
      rwa [hskip, ← List.append_assoc] at hrefuse

/-- **The first bad character.**  The position of a fault lies in the text or at its end.  What
    stands in front of it begins some type; with the character at that position, it begins none.  This
    holds of every fault but backticks with nothing between them. -/
theorem position_first_bad {text : String} {e : ParseError} (h : parse text = .error e)
    (hsome : e.complaint ≠ .backticksEmpty) :
    e.position ≤ text.length ∧ BeginsType (text.toList.take e.position) ∧
      (e.position < text.length → ¬BeginsType (text.toList.take (e.position + 1))) := by
  obtain ⟨rest, hrefuses, hposition⟩ := refusesText_of_error h
  obtain ⟨front, htext, hbegins, hrefused⟩ := hrefuses.firstFault hsome
  have hlength : text.length = front.length + rest.length := by
    rw [← String.length_toList, htext, List.length_append]
  have hfront : e.position = front.length := by
    rw [hposition, htext, List.length_append]
    omega
  refine ⟨by omega, ?_, ?_⟩
  · rwa [hfront, htext, List.take_left]
  · intro hbefore
    rintro ⟨more, t, hparse⟩
    cases rest with
    | nil => simp at hlength; omega
    | cons bad tail =>
      have htake : text.toList.take (e.position + 1) ++ more = front ++ bad :: more := by
        have hbad : text.toList = (front ++ [bad]) ++ tail := by rw [htext]; simp
        rw [hfront, hbad, List.take_left' (by simp), List.append_assoc, List.singleton_append]
      have hagain := hrefused bad more rfl
      rw [← htake, ← String.toList_ofList (l := _ ++ more)] at hagain
      rw [hagain.error] at hparse
      cases hparse

theorem position_first_bad_projection :
    parse "Map<out K, 1>" = .error ⟨"Map<out K, 1>", 11, .identifierExpected⟩ ∧
      Complaint.identifierExpected ≠ .backticksEmpty ∧ 11 ≤ "Map<out K, 1>".length ∧
      BeginsType ("Map<out K, 1>".toList.take 11) ∧
      (11 < "Map<out K, 1>".length → ¬BeginsType ("Map<out K, 1>".toList.take 12)) := by
  have hname : Parser.ReadsName "Map<out K, 1>".toList "Map" "<out K, 1>".toList := by
    have hmap : Parser.ReadsIdentifier "Map<out K, 1>".toList "Map" "<out K, 1>".toList :=
      .bare (by decide) (List.all_eq_true.mp (by decide : ['a', 'p'].all _ = true))
        (by rintro c ⟨⟩; decide)
    exact .single hmap (by decide)
  have hargument : Parser.Reads "out K, 1>".toList (.argument (.of (some .produced) (named "K")))
      ", 1>".toList := by
    have hout : Parser.ReadsIdentifier "out K, 1>".toList "out" " K, 1>".toList :=
      .bare (by decide) (List.all_eq_true.mp (by decide : ['u', 't'].all _ = true))
        (by rintro c ⟨⟩; decide)
    have hk : Parser.ReadsIdentifier "K, 1>".toList "K" ", 1>".toList :=
      .bare (by decide) (List.forall_mem_nil _) (by rintro c ⟨⟩; decide)
    exact .projected hout (by decide) (.simple (.single hk (by decide)) (by decide)
      (.absent (by decide)))
  have hone : Parser.RefusesIdentifier "1>".toList "1>".toList .identifierExpected :=
    .expected (by rintro c ⟨⟩; decide)
  have hrefuses : RefusesText "Map<out K, 1>".toList "1>".toList .identifierExpected :=
    .type (.inside hname rfl (.others hargument rfl (.first (.word (by decide) hone))))
  have hsome : Complaint.identifierExpected ≠ .backticksEmpty := by decide
  exact ⟨hrefuses.error, hsome, position_first_bad hrefuses.error hsome⟩

end CompanionSource.TypeExpr
