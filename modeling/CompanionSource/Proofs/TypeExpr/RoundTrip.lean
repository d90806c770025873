import CompanionSource.Proofs.Name
import CompanionSource.Proofs.TypeExpr.Reading
import Mathlib.Algebra.Group.Nat.Even
import Mathlib.Data.List.DropRight

/-! # Types read back

    A type that is printed and read again is the same type, whatever its names are: a segment
    that cannot stand bare is put between backticks, and an argument never begins with a bare
    word that could be taken for a projection.

    * **Well-named** types are those that can be printed at all: every segment of every name is
      something and has no backtick.
    * **Printing first**: the text of a well-named type is derived from its structure, in front
      of anything that can follow a type inside another one.
    * **Reading first**: what is read is well named, if no dot stands between backticks.  Such a
      dot would part the name in another place than the backticks did. -/

namespace CompanionSource

/-! ### Names -/

namespace Name

/-- The segment can be written: it is something, and it could stand between backticks. -/
def IsWritable (segment : String) : Prop :=
  segment ≠ "" ∧ '`' ∉ segment.toList

instance (segment : String) : Decidable (IsWritable segment) :=
  inferInstanceAs (Decidable (_ ∧ _))

/-- Every segment of the dotted name can be written. -/
def AreWritable (name : String) : Prop :=
  ∀ segment ∈ segments name, IsWritable segment

instance (name : String) : Decidable (AreWritable name) :=
  inferInstanceAs (Decidable (∀ segment ∈ segments name, IsWritable segment))

end Name

/-- Every segment of every name in the type can be written. -/
def TypeExpr.WellNamed (t : TypeExpr) : Prop :=
  t.EveryName Name.AreWritable

namespace TypeExpr.Parser

open Text (skipBlanks)
open Name (IsWritable AreWritable)

/-! ### Printed names are read -/

/-- What can follow a name in the text of a type: an opening bracket, a question mark, a comma,
    a closing bracket, or nothing. -/
def EndsName (rest : List Char) : Prop :=
  ∀ c ∈ rest.head?, c ∈ ['<', '?', ',', '>']

/-- What can follow a type in the text of another one: a comma, a closing bracket, or nothing. -/
def EndsType (rest : List Char) : Prop :=
  ∀ c ∈ rest.head?, c ∈ [',', '>']

section ends
variable {c : Char} {rest : List Char}

theorem not_isBlank_of_endsName (h : c ∈ ['<', '?', ',', '>']) : Text.isBlank c = false := by
  have hall : ['<', '?', ',', '>'].all (fun c => !Text.isBlank c) = true := by decide
  simpa using List.all_eq_true.mp hall c h

theorem not_continuesName_of_endsName (h : c ∈ ['<', '?', ',', '>']) :
    Text.continuesName c = false := by
  refine Text.not_continuesName_of_mem ?_
  simp only [List.mem_cons, List.not_mem_nil, or_false] at h
  rcases h with rfl | rfl | rfl | rfl <;> simp

theorem EndsType.endsName (h : EndsType rest) : EndsName rest := by
  intro c hc
  have hends : [',', '>'] ⊆ ['<', '?', ',', '>'] := by simp
  exact hends (h c hc)

/-- No blanks stand before the end of a name. -/
theorem EndsName.skipBlanks_eq (h : EndsName rest) : skipBlanks rest = rest := by
  cases rest with
  | nil => rfl
  | cons c cs => simp [skipBlanks, not_isBlank_of_endsName (h c rfl)]

theorem EndsName.not_continues (h : EndsName rest) : ∀ c ∈ rest.head?, ¬Text.continuesName c := by
  intro c hc
  simp [not_continuesName_of_endsName (h c hc)]

theorem EndsName.head?_ne_dot (h : EndsName rest) : rest.head? ≠ some '.' := by
  intro hdot
  have hmem := h '.' hdot
  revert hmem
  decide

/-- No other name follows the end of a name. -/
theorem EndsName.not_nameFollows (h : EndsName rest) : nameFollows rest = false := by
  cases rest with
  | nil => rfl
  | cons c cs => simp [nameFollows, not_isBlank_of_endsName (h c rfl)]

end ends

/-- A bare identifier is read in front of what does not go on with it. -/
theorem readsIdentifier_of_isBare {word : List Char} (h : Name.IsBare word) {rest : List Char}
    (hrest : ∀ c ∈ rest.head?, ¬Text.continuesName c) :
    ReadsIdentifier (word ++ rest) (String.ofList word) rest := by
  obtain ⟨first, more, rfl, hfirst, hmore⟩ := h
  exact .bare hfirst hmore hrest

/-- A segment is read back, bare or between backticks. -/
theorem readsIdentifier_written {segment : String} (h : IsWritable segment) {rest : List Char}
    (hrest : ∀ c ∈ rest.head?, ¬Text.continuesName c) :
    ReadsIdentifier ((Name.written segment).toList ++ rest) segment rest := by
  obtain ⟨hnonempty, hclosed⟩ := h
  rcases Name.written_cases segment with hquoted | ⟨hbare, hplain⟩
  · have hread := ReadsIdentifier.quoted hclosed (by simpa using hnonempty) rest
    rw [hquoted]
    simpa [String.toList_append] using hread
  · rw [hbare]
    have hread := readsIdentifier_of_isBare (Name.isPlain_iff.mp hplain) hrest
    rwa [String.ofList_toList] at hread

/-- Segments with dots between them are read back as one name. -/
theorem readsName_intercalate {segments : List String} (hsome : segments ≠ [])
    (h : ∀ segment ∈ segments, IsWritable segment) {rest : List Char} (hrest : EndsName rest) :
    ReadsName ((".".intercalate (segments.map Name.written)).toList ++ rest)
      (".".intercalate segments) rest := by
  induction segments with
  | nil => exact absurd rfl hsome
  | cons first others ih =>
    have hfirst := h first List.mem_cons_self
    cases others with
    | nil =>
      have hread := readsIdentifier_written hfirst hrest.not_continues
      simpa using ReadsName.single hread hrest.head?_ne_dot
    | cons second others =>
      have hothers := ih (List.cons_ne_nil _ _)
        (fun segment hsegment => h segment (List.mem_cons_of_mem _ hsegment))
      -- A segment in front of others ends at its dot, which continues no identifier.
      have hdot : ∀ c ∈ ('.' :: ((".".intercalate ((second :: others).map Name.written)).toList
          ++ rest)).head?, ¬Text.continuesName c := by
        rintro c ⟨⟩
        decide
      have hread := ReadsName.dotted (readsIdentifier_written hfirst hdot) hothers
      simpa [String.intercalate_cons_cons, String.toList_append] using hread

/-- A dotted name is read back as it was. -/
theorem readsName_writtenDotted {name : String} (h : AreWritable name) {rest : List Char}
    (hrest : EndsName rest) :
    ReadsName ((Name.writtenDotted name).toList ++ rest) name rest := by
  have hread := readsName_intercalate (Name.segments_ne_nil name) h hrest
  rwa [Name.intercalate_segments] at hread

/-! ### Printed types are read -/

variable {input rest : List Char} {name : String}

/-- Every item skips the blanks in front of it. -/
theorem Reads.of_skipBlanks_eq {input input' : List Char} {item : Item}
    (h : Reads input item rest) (hskip : skipBlanks input' = skipBlanks input) :
    Reads input' item rest := by
  induction h generalizing input' with
  | simple hname hbracket hquestion => exact .simple (hskip ▸ hname) hbracket hquestion
  | applied hname hbracket harguments hquestion =>
    exact .applied (hskip ▸ hname) hbracket harguments hquestion
  | last _ hclose ih => exact .last (ih hskip) hclose
  | more _ hcomma hmore ih => exact .more (ih hskip) hcomma hmore
  | star hstar => exact .star (hskip.trans hstar)
  | projected hword hvariance htype => exact .projected (hskip ▸ hword) hvariance htype
  | plain hword hvariance htype => exact .plain (hskip ▸ hword) hvariance (hskip ▸ htype)

theorem skipBlanks_space (input : List Char) : skipBlanks (' ' :: input) = skipBlanks input := by
  simp [skipBlanks, show Text.isBlank ' ' = true by decide]

/-- What an identifier begins with. -/
theorem ReadsIdentifier.exists_cons (h : ReadsIdentifier input name rest) :
    ∃ c cs, input = c :: cs ∧ (c = '`' ∨ Text.startsName c) := by
  cases h with
  | quoted => exact ⟨_, _, rfl, .inl rfl⟩
  | bare hfirst => exact ⟨_, _, rfl, .inr hfirst⟩

/-- No blanks stand in front of an identifier. -/
theorem ReadsIdentifier.skipBlanks_eq (h : ReadsIdentifier input name rest) :
    skipBlanks input = input := by
  obtain ⟨c, cs, rfl, hstarts⟩ := h.exists_cons
  have hblank : ¬Text.isBlank c := by
    intro hblank
    rcases hstarts with rfl | hstarts
    · revert hblank
      decide
    · rw [Text.startsName_eq_false (Text.not_continuesName_of_isBlank hblank)] at hstarts
      cases hstarts
  simp [skipBlanks, hblank]

/-- A name begins with an identifier, and behind that a dot follows or the name is at its end. -/
theorem ReadsName.exists_identifier (h : ReadsName input name rest) :
    ∃ word after, ReadsIdentifier input word after ∧ (after = rest ∨ after.head? = some '.') := by
  cases h with
  | single hname => exact ⟨_, _, hname, .inl rfl⟩
  | dotted hfirst => exact ⟨_, _, hfirst, .inr rfl⟩

theorem ReadsName.skipBlanks_eq (h : ReadsName input name rest) : skipBlanks input = input := by
  obtain ⟨_, _, hidentifier, -⟩ := h.exists_identifier
  exact hidentifier.skipBlanks_eq

theorem Reads.exists_name {t : TypeExpr} (h : Reads input (.type t) rest) :
    ∃ after, ReadsName (skipBlanks input) t.name after := by
  cases h with
  | simple hname => exact ⟨_, hname⟩
  | applied hname => exact ⟨_, hname⟩

/-- In front of a space and a type, the word of a projection is read as one. -/
theorem reads_projected (v : Variance) {t : TypeExpr} (h : Reads input (.type t) rest) :
    Reads (v.word.toList ++ ' ' :: input) (.argument (.of (some v) t)) rest := by
  obtain ⟨_, hname⟩ := h.exists_name
  obtain ⟨_, _, hidentifier, -⟩ := hname.exists_identifier
  obtain ⟨c, cs, hinput, hstarts⟩ := hidentifier.exists_cons
  -- The reader looks ahead: behind the word it sees a space and the beginning of a name.
  have hfollows : nameFollows (' ' :: input) = true := by
    simp only [nameFollows, hinput, Bool.and_eq_true, Bool.or_eq_true, beq_iff_eq]
    exact ⟨by decide, hstarts⟩
  have hspace : ∀ c ∈ (' ' :: input).head?, ¬Text.continuesName c := by
    rintro c ⟨⟩
    decide
  have hword : ReadsIdentifier (skipBlanks (v.word.toList ++ ' ' :: input)) v.word
      (' ' :: input) := by
    cases v with
    | consumed =>
      have hin : ReadsIdentifier ('i' :: (['n'] ++ ' ' :: input)) (String.ofList ['i', 'n'])
          (' ' :: input) := .bare (by decide) (List.all_eq_true.mp (by decide)) hspace
      exact hin
    | produced =>
      have hout : ReadsIdentifier ('o' :: (['u', 't'] ++ ' ' :: input))
          (String.ofList ['o', 'u', 't']) (' ' :: input) :=
        .bare (by decide) (List.all_eq_true.mp (by decide)) hspace
      exact hout
  refine .projected hword ?_ (h.of_skipBlanks_eq (skipBlanks_space input))
  cases v <;> simp [variance?, hfollows, Variance.word]

/-- What a nullable type ends with is read back. -/
theorem readsQuestion_text (nullable : Bool) (hrest : EndsType rest) :
    ReadsQuestion ((if nullable then "?" else "").toList ++ rest) nullable rest := by
  cases nullable with
  | false =>
    refine .absent ?_
    show (skipBlanks rest).head? ≠ some '?'
    rw [hrest.endsName.skipBlanks_eq]
    intro hmark
    have hmem := hrest '?' hmark
    revert hmem
    decide
  | true => exact .present rfl

theorem endsName_question (nullable : Bool) (hrest : EndsType rest) :
    EndsName ((if nullable then "?" else "").toList ++ rest) := by
  cases nullable with
  | false => exact hrest.endsName
  | true =>
    rintro c ⟨⟩
    decide

/-- What stands behind the name in the text of a type. -/
def behindName (t : TypeExpr) : List Char :=
  (if t.arguments.isEmpty then ""
    else "<" ++ ", ".intercalate (t.arguments.map argumentText) ++ ">").toList
    ++ (if t.nullable then "?" else "").toList

theorem toList_text (t : TypeExpr) :
    t.text.toList = (Name.writtenDotted t.name).toList ++ behindName t := by
  obtain ⟨name, arguments, nullable⟩ := t
  simp [text, behindName, argumentTexts_eq_map, String.toList_append, apply_ite String.toList]

theorem endsName_behindName (t : TypeExpr) (hrest : EndsType rest) :
    EndsName (behindName t ++ rest) := by
  obtain ⟨name, arguments, nullable⟩ := t
  cases arguments with
  | nil => simpa [behindName] using endsName_question nullable hrest
  | cons a as =>
    intro c hc
    have hopen : c = '<' := by
      simpa [behindName, String.toList_append, eq_comm] using hc
    rw [hopen]
    decide

/-- A printed type begins with its name. -/
theorem readsName_text {t : TypeExpr} (h : t.WellNamed) (hrest : EndsType rest) :
    ReadsName (t.text.toList ++ rest) t.name (behindName t ++ rest) := by
  rw [toList_text, List.append_assoc]
  cases h with
  | mk hname => exact readsName_writtenDotted hname (endsName_behindName _ hrest)

/-- A printed type never begins with the word of a projection: the next name is parted from a
    first one by a mark. -/
theorem reads_plain {t : TypeExpr} (h : t.WellNamed) (hrest : EndsType rest)
    (hread : Reads (t.text.toList ++ rest) (.type t) rest) :
    Reads (t.text.toList ++ rest) (.argument (.of none t)) rest := by
  obtain ⟨word, after, hword, hafter⟩ := (readsName_text h hrest).exists_identifier
  -- Behind the first word it sees a dot or the end of the name, whatever the word is.
  have hfollows : nameFollows after = false := by
    rcases hafter with rfl | hdot
    · exact (endsName_behindName t hrest).not_nameFollows
    · cases after with
      | nil => rfl
      | cons c cs =>
        obtain rfl : c = '.' := by simpa using hdot
        rfl
  have hskip := hword.skipBlanks_eq
  refine .plain (hskip.symm ▸ hword) ?_ (hread.of_skipBlanks_eq (by rw [hskip, hskip]))
  simp [variance?, hfollows]

/-- No bracket opens at the end of a type. -/
theorem head?_question_ne_bracket (nullable : Bool) (hrest : EndsType rest) :
    (skipBlanks ((if nullable then "?" else "").toList ++ rest)).head? ≠ some '<' := by
  rw [(endsName_question nullable hrest).skipBlanks_eq]
  cases nullable with
  | false =>
    intro hopen
    have hmem := hrest '<' hopen
    revert hmem
    decide
  | true => simp

/-- The texts of arguments with commas between them are read back, if each argument is. -/
theorem reads_arguments_text {arguments : List (TypeArgument TypeExpr)} (hsome : arguments ≠ [])
    (h : ∀ a ∈ arguments, ∀ rest, EndsType rest →
      Reads ((argumentText a).toList ++ rest) (.argument a) rest) (rest : List Char) :
    Reads ((", ".intercalate (arguments.map argumentText)).toList ++ '>' :: rest)
      (.arguments arguments) rest := by
  induction arguments with
  | nil => exact absurd rfl hsome
  | cons first others ih =>
    cases others with
    | nil =>
      have hfirst := h first List.mem_cons_self ('>' :: rest) (by rintro c ⟨⟩; decide)
      simpa using Reads.last hfirst rfl
    | cons second others =>
      -- The comma ends the first argument, and the space behind it is skipped before the others.
      have hothers := ih (List.cons_ne_nil _ _) (fun a ha => h a (List.mem_cons_of_mem _ ha))
      have hfirst := h first List.mem_cons_self
        (',' :: ' ' :: ((", ".intercalate ((second :: others).map argumentText)).toList
          ++ '>' :: rest)) (by rintro c ⟨⟩; decide)
      have hread := Reads.more hfirst rfl (hothers.of_skipBlanks_eq (skipBlanks_space _))
      simpa [String.intercalate_cons_cons, String.toList_append] using hread

/-- The texts of the arguments of a type are read back, if those of the types in them are. -/
theorem reads_argumentText {arguments : List (TypeArgument TypeExpr)}
    (hnamed : ∀ v t, .of v t ∈ arguments → t.WellNamed)
    (h : ∀ v t, .of v t ∈ arguments → ∀ rest, EndsType rest →
      Reads (t.text.toList ++ rest) (.type t) rest) :
    ∀ a ∈ arguments, ∀ rest, EndsType rest →
      Reads ((argumentText a).toList ++ rest) (.argument a) rest := by
  intro a ha rest hrest
  cases a with
  | star => exact .star rfl
  | of variance t =>
    have ht := h variance t ha rest hrest
    cases variance with
    | none => exact reads_plain (hnamed none t ha) hrest ht
    | some v => simpa [argumentText, String.toList_append] using reads_projected v ht

/-- The text of a well-named type is read back in front of what can follow a type. -/
theorem reads_text {t : TypeExpr} (h : t.WellNamed) (hrest : EndsType rest) :
    Reads (t.text.toList ++ rest) (.type t) rest := by
  induction h generalizing rest with
  | @mk name arguments nullable hname hnamed ih =>
    have hfront := readsName_text (.mk hname hnamed : WellNamed ⟨name, arguments, nullable⟩) hrest
    rw [← hfront.skipBlanks_eq] at hfront
    -- Behind the name come the arguments, read by the induction hypothesis, and the question mark.
    have hquestion := readsQuestion_text nullable hrest
    cases arguments with
    | nil => exact .simple hfront (head?_question_ne_bracket nullable hrest) hquestion
    | cons a as =>
      have hargument := reads_argumentText hnamed fun v t ht rest hrest => ih v t ht hrest
      have hinside := reads_arguments_text (List.cons_ne_nil a as) hargument
        ((if nullable then "?" else "").toList ++ rest)
      refine .applied hfront ?_ hinside hquestion
      rw [(endsName_behindName _ hrest).skipBlanks_eq]
      simp [behindName, String.toList_append]

/-! ### What is read is well named -/

/-- No dot stands between backticks: the backticks in front of a dot come in pairs. -/
def NoQuotedDot (text : List Char) : Prop :=
  ∀ before after, text = before ++ '.' :: after → Even (before.count '`')

/-- Behind closed backticks, backticks are still paired as before. -/
theorem NoQuotedDot.of_append {front rest : List Char} (h : NoQuotedDot (front ++ rest))
    (hfront : Even (front.count '`')) : NoQuotedDot rest := by
  intro before after hrest
  have heven := h (front ++ before) after (by rw [hrest, List.append_assoc])
  rw [List.count_append, Nat.even_add] at heven
  exact heven.mp hfront

theorem NoQuotedDot.of_cons {c : Char} (h : NoQuotedDot (c :: rest))
    (hc : c ≠ '`') : NoQuotedDot rest :=
  NoQuotedDot.of_append (show NoQuotedDot ([c] ++ rest) from h) (by simp [hc])

theorem NoQuotedDot.skipBlanks (h : NoQuotedDot input) :
    NoQuotedDot (skipBlanks input) := by
  rw [← List.takeWhile_append_dropWhile (p := Text.isBlank) (l := input)] at h
  refine h.of_append ?_
  have hnone : '`' ∉ input.takeWhile Text.isBlank := by
    intro hmem
    have hblank := List.all_eq_true.mp List.all_takeWhile '`' hmem
    revert hblank
    decide
  simp [List.count_eq_zero_of_not_mem hnone]

/-- Behind blanks and a mark, no dot stands between backticks either. -/
theorem NoQuotedDot.behind {c : Char} {input rest : List Char} (h : NoQuotedDot input)
    (hmark : Text.skipBlanks input = c :: rest) (hc : c ≠ '`') : NoQuotedDot rest := by
  have hskip := h.skipBlanks
  rw [hmark] at hskip
  exact hskip.of_cons hc

/-- An identifier is a segment that can be written, without a dot. -/
theorem ReadsIdentifier.isWritable (h : ReadsIdentifier input name rest)
    (hdots : NoQuotedDot input) :
    IsWritable name ∧ '.' ∉ name.toList ∧ NoQuotedDot rest := by
  cases h with
  | @quoted cs hclosed hnonempty =>
    -- The identifier is read with both its backticks, so those behind it stay paired.
    have hpaired : Even (('`' :: (cs ++ ['`'])).count '`') := by
      simp only [List.count_cons, List.count_append, List.count_eq_zero_of_not_mem hclosed]
      decide
    refine ⟨⟨by simpa using hnonempty, by simpa using hclosed⟩, ?_, ?_⟩
    · rw [String.toList_ofList]
      intro hdot
      -- In front of a dot inside there would be one backtick.
      obtain ⟨before, after, rfl⟩ := List.append_of_mem hdot
      have heven := hdots ('`' :: before) (after ++ '`' :: rest) (by simp)
      have hbefore : '`' ∉ before := fun hmem => hclosed (List.mem_append_left _ hmem)
      simp [List.count_eq_zero_of_not_mem hbefore] at heven
    · have hsplit : NoQuotedDot (('`' :: (cs ++ ['`'])) ++ rest) := by simpa using hdots
      exact hsplit.of_append hpaired
  | @bare first more _ hfirst hmore =>
    have hbare : Name.IsBare (first :: more) := ⟨first, more, rfl, hfirst, hmore⟩
    have hclosed : '`' ∉ first :: more := hbare.not_mem (by decide)
    have hdot : '.' ∉ first :: more := hbare.not_mem (by decide)
    have hsplit : NoQuotedDot ((first :: more) ++ rest) := hdots
    refine ⟨⟨by simp, by simpa using hclosed⟩, by simpa using hdot, hsplit.of_append ?_⟩
    simp [List.count_eq_zero_of_not_mem hclosed]

theorem ReadsName.areWritable (h : ReadsName input name rest) (hdots : NoQuotedDot input) :
    AreWritable name ∧ NoQuotedDot rest := by
  induction h with
  | single hname =>
    obtain ⟨hwritable, hdot, hrest⟩ := hname.isWritable hdots
    refine ⟨?_, hrest⟩
    rw [AreWritable, Name.segments_eq_singleton hdot]
    simpa using hwritable
  | dotted hfirst _ ih =>
    obtain ⟨hwritable, hdot, hmore⟩ := hfirst.isWritable hdots
    obtain ⟨hothers, hrest⟩ := ih (hmore.of_cons (by decide))
    refine ⟨?_, hrest⟩
    rw [AreWritable, Name.segments_append hdot]
    intro segment hsegment
    rcases List.mem_cons.mp hsegment with rfl | hsegment
    · exact hwritable
    · exact hothers segment hsegment

theorem ReadsQuestion.noQuotedDot {nullable : Bool} (h : ReadsQuestion input nullable rest)
    (hdots : NoQuotedDot input) : NoQuotedDot rest := by
  cases h with
  | present hmark => exact hdots.behind hmark (by decide)
  | absent => exact hdots

/-- The types in the item are well named. -/
def Item.WellNamed : Item → Prop
  | .type t => t.WellNamed
  | .arguments as => ∀ v t, .of v t ∈ as → t.WellNamed
  | .argument a => ∀ v t, .of v t = a → t.WellNamed

theorem Reads.wellNamed {item : Item} (h : Reads input item rest) (hdots : NoQuotedDot input) :
    item.WellNamed ∧ NoQuotedDot rest := by
  induction h with
  | simple hname _ hquestion =>
    obtain ⟨hwritable, hafter⟩ := hname.areWritable hdots.skipBlanks
    exact ⟨.mk hwritable (by simp), hquestion.noQuotedDot hafter⟩
  | applied hname hbracket _ hquestion ih =>
    obtain ⟨hwritable, hafter⟩ := hname.areWritable hdots.skipBlanks
    obtain ⟨harguments, hbehind⟩ := ih (hafter.behind hbracket (by decide))
    exact ⟨.mk hwritable harguments, hquestion.noQuotedDot hbehind⟩
  | last _ hclose ih =>
    obtain ⟨hargument, hafter⟩ := ih hdots
    refine ⟨?_, hafter.behind hclose (by decide)⟩
    intro v t ht
    exact hargument v t (List.mem_singleton.mp ht)
  | more _ hcomma _ ihargument ihmore =>
    obtain ⟨hargument, hafter⟩ := ihargument hdots
    obtain ⟨hothers, hrest⟩ := ihmore (hafter.behind hcomma (by decide))
    refine ⟨?_, hrest⟩
    intro v t ht
    rcases List.mem_cons.mp ht with ht | ht
    · exact hargument v t ht
    · exact hothers v t ht
  | star hstar =>
    refine ⟨?_, hdots.behind hstar (by decide)⟩
    intro v t ht
    cases ht
  | projected hword _ _ ih =>
    obtain ⟨-, -, hafter⟩ := hword.isWritable hdots.skipBlanks
    obtain ⟨htype, hrest⟩ := ih hafter
    refine ⟨?_, hrest⟩
    rintro v t ⟨⟩
    exact htype
  | plain _ _ _ ih =>
    obtain ⟨htype, hrest⟩ := ih hdots.skipBlanks
    refine ⟨?_, hrest⟩
    rintro v t ⟨⟩
    exact htype

end TypeExpr.Parser

namespace TypeExpr

/-- A well-named type is parsed from its text. -/
theorem parse_text {t : TypeExpr} (h : t.WellNamed) : parse t.text = .ok t := by
  refine parse_eq_ok_iff.mpr ⟨[], ?_, rfl⟩
  have hend : Parser.EndsType [] := by rintro c ⟨⟩
  have hread := Parser.reads_text h hend
  rwa [List.append_nil] at hread

/-- A type that is parsed from a text with no dot between backticks is well named. -/
theorem wellNamed_of_parse {text : String} {t : TypeExpr}
    (hdots : Parser.NoQuotedDot text.toList) (h : parse text = .ok t) : t.WellNamed := by
  obtain ⟨rest, hreads, -⟩ := parse_eq_ok_iff.mp h
  exact (hreads.wellNamed hdots).1

/-- **Types round-trip.**  A type whose names can all be written is parsed from its text; and what
    is parsed from a text with no dot between backticks is such a type, so that printing it and
    parsing again changes nothing. -/
theorem text_parses_back :
    (∀ t : TypeExpr, t.WellNamed → parse t.text = .ok t) ∧
      ∀ (text : String) (t : TypeExpr), Parser.NoQuotedDot text.toList → parse text = .ok t →
        t.WellNamed ∧ parse t.text = .ok t := by
  refine ⟨fun t => parse_text, ?_⟩
  intro text t hdots hparse
  have hnamed := wellNamed_of_parse hdots hparse
  exact ⟨hnamed, parse_text hnamed⟩

/-- A type whose names look like the words of projections. -/
def lookalike : TypeExpr :=
  { name := "kotlin.Map"
    arguments := [.of (some .consumed) { name := "in", nullable := true },
      .of none { name := "out.a b", arguments := [.star] }, .of (some .produced) (named "out")]
    nullable := true }

/-- A type in brackets of its own, written with more blanks and backticks than it needs. -/
def box : TypeExpr := { name := "a.Box", arguments := [.star], nullable := true }

theorem text_parses_back_lookalike :
    (lookalike.WellNamed ∧ lookalike.text = "kotlin.Map<in `in`?, out.`a b`<*>, out out>?"
      ∧ parse lookalike.text = .ok lookalike) ∧
    (Parser.NoQuotedDot " a.`Box` <*> ?".toList ∧ parse " a.`Box` <*> ?" = .ok box
      ∧ box.WellNamed ∧ parse box.text = .ok box) := by
  have hnamed : lookalike.WellNamed := by
    refine .mk (by decide) ?_
    rintro v t (_ | ⟨_, _ | ⟨_, _ | ⟨_, ⟨⟩⟩⟩⟩)
    · exact .mk (by decide) (by simp)
    · exact .mk (by decide) (by simp)
    · exact .mk (by decide) (by simp)
  have hdots : Parser.NoQuotedDot " a.`Box` <*> ?".toList := by
    rintro (_ | ⟨_, _ | ⟨_, _ | ⟨_, before⟩⟩⟩) after h
    · cases h
    · cases h
    · cases h
      decide
    · injection h with _ h
      injection h with _ h
      injection h with _ h
      have hdot : '.' ∈ "`Box` <*> ?".toList := by
        rw [show "`Box` <*> ?".toList = before ++ '.' :: after from h]
        simp
      exact absurd hdot (by decide)
  have hname : Parser.ReadsName "a.`Box` <*> ?".toList "a.Box" " <*> ?".toList := by
    have hbox : Parser.ReadsIdentifier "`Box` <*> ?".toList "Box" " <*> ?".toList :=
      .quoted (by decide : '`' ∉ ['B', 'o', 'x']) (by decide) _
    have ha : Parser.ReadsIdentifier "a.`Box` <*> ?".toList "a" ".`Box` <*> ?".toList :=
      .bare (by decide) (List.forall_mem_nil _) (by rintro c ⟨⟩; decide)
    exact .dotted ha (.single hbox (by decide))
  have hparse : parse " a.`Box` <*> ?" = .ok box := by
    have hstar : Parser.Reads "*> ?".toList (.arguments [.star]) " ?".toList :=
      .last (.star rfl) rfl
    exact parse_eq_ok_iff.mpr ⟨[], .applied hname rfl hstar (.present rfl), rfl⟩
  refine ⟨⟨hnamed, by decide, text_parses_back.1 lookalike hnamed⟩, hdots, hparse, ?_⟩
  exact text_parses_back.2 _ _ hdots hparse

end TypeExpr
end CompanionSource
