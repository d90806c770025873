import CompanionSource.Proofs.Source.Shortening

/-! # The two printers of types

    A type has a text of its own, and in a file it has one that the imports of the file shorten.

    - The text of a type falls into **tokens**: the names that stand in the type, at every depth
      and under every variance, and the marks between them.
    - In a file the same tokens are printed.  The marks stay as they are, and so do the names,
      unless they are imported: then they are written by their last segments.
    - So where nothing is imported the two texts are one. -/

namespace CompanionSource

/-! ### Tokens -/

namespace TypeExpr

/-- A part of the text of a type. -/
inductive Token where
  /-- A name that stands in the type. -/
  | name (name : String)
  /-- What stands between names. -/
  | mark (text : String)
  deriving DecidableEq

mutual

/-- The tokens of a type, in the order of its text. -/
def tokens : TypeExpr → List Token
  | ⟨name, arguments, nullable⟩ =>
    .name name
      :: (if arguments.isEmpty then []
        else .mark "<" :: [.mark ", "].intercalate (tokensOfArguments arguments) ++ [.mark ">"])
      ++ if nullable then [.mark "?"] else []

/-- The tokens of each of the type arguments. -/
def tokensOfArguments : List (TypeArgument TypeExpr) → List (List Token)
  | [] => []
  | a :: as => tokensOfArgument a :: tokensOfArguments as

/-- The tokens of a type argument. -/
def tokensOfArgument : TypeArgument TypeExpr → List Token
  | .star => [.mark "*"]
  | .of (some v) t => .mark (v.word ++ " ") :: tokens t
  | .of none t => tokens t

end

theorem tokensOfArguments_eq_map (as : List (TypeArgument TypeExpr)) :
    tokensOfArguments as = as.map tokensOfArgument := by
  induction as with
  | nil => rfl
  | cons a as ih => rw [tokensOfArguments, ih, List.map_cons]

/-- What is printed for a token, if names are written in this way. -/
def Token.code (write : String → String) : Token → String
  | .name n => write n
  | .mark m => m

/-- What is printed for tokens. -/
def printed (write : String → String) (ts : List Token) : String :=
  String.join (ts.map (Token.code write))

section printed
variable (write : String → String)

theorem printed_cons (t : Token) (ts : List Token) :
    printed write (t :: ts) = t.code write ++ printed write ts := by
  rw [printed, List.map_cons, String.join_cons, printed]

theorem printed_append (ts ts' : List Token) :
    printed write (ts ++ ts') = printed write ts ++ printed write ts' := by
  rw [printed, List.map_append, String.join_append, printed, printed]

theorem printed_singleton (t : Token) : printed write [t] = t.code write := by
  rw [printed_cons]
  exact String.append_empty

/-- Between the tokens of arguments, a mark parts their texts. -/
theorem printed_intercalate (separator : String) (groups : List (List Token)) :
    printed write ([.mark separator].intercalate groups) =
      separator.intercalate (groups.map (printed write)) := by
  induction groups with
  | nil => rfl
  | cons first more ih =>
    cases more with
    | nil => rw [List.intercalate_singleton, List.map_singleton, String.intercalate_singleton]
    | cons second more =>
      rw [List.intercalate_cons_cons, printed_append, printed_append, ih, printed_singleton]
      simp only [List.map_cons, String.intercalate_cons_cons, Token.code]

/-- A type is printed as its name, its arguments in brackets and its question mark. -/
theorem printed_tokens (name : String) (arguments : List (TypeArgument TypeExpr))
    (nullable : Bool) :
    printed write (tokens ⟨name, arguments, nullable⟩) =
      write name
        ++ (if arguments.isEmpty then ""
          else "<" ++ ", ".intercalate (arguments.map fun a => printed write (tokensOfArgument a))
            ++ ">")
        ++ if nullable then "?" else "" := by
  have hquestion : printed write (if nullable then [.mark "?"] else []) =
      if nullable then "?" else "" := by
    cases nullable <;> rfl
  rw [tokens, printed_append, printed_cons, hquestion, Token.code, tokensOfArguments_eq_map]
  split
  · rfl
  · rw [printed_append, printed_cons, printed_intercalate, printed_singleton, List.map_map,
      Token.code, Token.code]
    rfl

end printed

theorem name_mem_intercalate_iff {name separator : String} {groups : List (List Token)} :
    .name name ∈ [.mark separator].intercalate groups ↔ ∃ ts ∈ groups, .name name ∈ ts := by
  induction groups with
  | nil => simp
  | cons first more ih =>
    cases more with
    | nil => simp
    | cons second more =>
      rw [List.intercalate_cons_cons, List.mem_append, List.mem_append, ih]
      simp

/-- The names of a type are its own and those in its arguments. -/
theorem name_mem_tokens_mk_iff {name name' : String} {arguments : List (TypeArgument TypeExpr)}
    {nullable : Bool} :
    .name name' ∈ tokens ⟨name, arguments, nullable⟩ ↔
      name' = name ∨ ∃ a ∈ arguments, .name name' ∈ tokensOfArgument a := by
  have hmark : .name name' ∉ (if nullable then [Token.mark "?"] else []) := by
    cases nullable <;> simp
  cases arguments with
  | nil => simp [tokens, hmark]
  | cons a as =>
    simp [tokens, hmark, tokensOfArguments_eq_map, name_mem_intercalate_iff]

theorem name_mem_tokensOfArgument_iff {name : String} {a : TypeArgument TypeExpr} :
    .name name ∈ tokensOfArgument a ↔ ∃ v t, a = .of v t ∧ .name name ∈ tokens t := by
  cases a with
  | star => simp [tokensOfArgument]
  | of v t => cases v <;> simp [tokensOfArgument]

/-- The names among the tokens of a type are those of its parts. -/
theorem name_mem_tokens_iff {t : TypeExpr} {name : String} :
    .name name ∈ t.tokens ↔ ∃ part, t.HasPart part ∧ part.name = name := by
  induction t using parts_induction with
  | mk own arguments nullable ih =>
    rw [name_mem_tokens_mk_iff]
    constructor
    · rintro (rfl | ⟨a, ha, hname⟩)
      · exact ⟨_, .whole _, rfl⟩
      · obtain ⟨v, t, rfl, hinner⟩ := name_mem_tokensOfArgument_iff.mp hname
        obtain ⟨part, hpart, rfl⟩ := (ih v t ha).mp hinner
        exact ⟨part, .argument ha hpart, rfl⟩
    · rintro ⟨part, hpart, rfl⟩
      cases hpart with
      | whole => exact .inl rfl
      | @argument _ inner _ v hinner hpart =>
        have hname := (ih v inner hinner).mpr ⟨part, hpart, rfl⟩
        exact .inr ⟨.of v inner, hinner, name_mem_tokensOfArgument_iff.mpr ⟨v, inner, rfl, hname⟩⟩

end TypeExpr

/-! ### Types in a file -/

namespace Source

open TypeExpr (Token printed tokensOfArgument mapNames)

/-- How a name is written in a file with these imports. -/
def nameCode (imports : Imports) (name : String) : String :=
  if imports.contains name then Name.written (Name.simple name) else Name.writtenDotted name

/-- What a file prints for a type is printed token by token. -/
theorem typeCode_eq_printed (imports : Imports) (t : TypeExpr) :
    typeCode imports t = printed (nameCode imports) t.tokens := by
  induction t using TypeExpr.parts_induction with
  | mk name arguments nullable ih =>
    have hargument : ∀ a ∈ arguments,
        typeArgumentCode imports a = printed (nameCode imports) (tokensOfArgument a) := by
      intro a ha
      cases a with
      | star => rw [typeArgumentCode, tokensOfArgument, TypeExpr.printed_singleton, Token.code]
      | of v t =>
        cases v with
        | none => exact ih none t ha
        | some v =>
          rw [typeArgumentCode, ih (some v) t ha, tokensOfArgument, TypeExpr.printed_cons,
            Token.code]
    rw [typeCode, TypeExpr.printed_tokens, typeArgumentCodes_eq_map,
      List.map_congr_left hargument]
    rfl

/-- Where nothing is imported, a type is printed as it is anywhere. -/
theorem typeCode_empty (t : TypeExpr) : typeCode .empty t = t.text := by
  have hnames : t.EveryName fun name => shortened .empty name = name :=
    TypeExpr.everyName_iff.mpr fun _ _ => rfl
  rw [typeCode_eq, hnames.mapNames_eq]

theorem text_eq_printed (t : TypeExpr) : t.text = printed Name.writtenDotted t.tokens := by
  rw [← typeCode_empty, typeCode_eq_printed]
  rfl

/-- **Printers of types.**  A file prints a type as the type is printed on its own when each name
    in it that is imported has been replaced by its last segment: the same tokens, those of the
    names at every depth and the marks between them, with other texts for the imported names only.
    Where nothing is imported, both print the same. -/
theorem typeCode_shortens (imports : Imports) (t : TypeExpr) :
    typeCode imports t = (t.mapNames (shortened imports)).text ∧
    (t.text = printed Name.writtenDotted t.tokens ∧
      typeCode imports t = printed (nameCode imports) t.tokens ∧
      ∀ name, .name name ∈ t.tokens ↔ ∃ part, t.HasPart part ∧ part.name = name) ∧
    typeCode .empty t = t.text :=
  ⟨typeCode_eq imports t,
    ⟨text_eq_printed t, typeCode_eq_printed imports t, fun _ => TypeExpr.name_mem_tokens_iff⟩,
    typeCode_empty t⟩

/-- An imported name under a variance, whose last segment is a keyword. -/
example :
    let t : TypeExpr :=
      { name := "a.Map"
        arguments := [.star, .of (some .produced) { name := "a.in", nullable := true }] }
    t.text = "a.Map<*, out a.`in`?>" ∧ typeCode (.ofList ["a.in"]) t = "a.Map<*, out `in`?>" := by
  decide

end Source

end CompanionSource
