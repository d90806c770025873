import CompanionSource.Proofs.Snapshot.Exactness
import CompanionSource.Proofs.TypeExpr.RoundTrip

/-! # Declared names

    A declaration introduces names in several places: those of its type, of its members, and of
    the parameters of both.  What a snapshot says about them:

    - **Blank** names are found in every place but one.  Nothing looks at the type parameters of
      functions.
    - **Quoting**: generated source writes a name bare or between backticks.  That keeps the name
      together exactly if it has no backtick, and nothing rules out a backtick: it would end the
      identifier early, and the rest of the name would be read as source. -/

namespace CompanionSource

/-! ### Places -/

/-- A place where a declaration introduces names. -/
inductive Place where
  /-- A segment of the qualified name. -/
  | segment
  /-- A type parameter of the declaration. -/
  | typeParameter
  /-- A parameter of the primary constructor. -/
  | constructorParameter
  | function
  /-- A type parameter of a function. -/
  | functionTypeParameter
  /-- A parameter of a function. -/
  | functionParameter
  | property
  deriving DecidableEq, Repr

/-- The names that a declaration introduces in a place. -/
def Declaration.namesAt (d : Declaration) : Place → List String
  | .segment => Name.segments d.name
  | .typeParameter => d.typeParameters.map (·.name)
  | .constructorParameter => (d.constructor?.getD []).map (·.name)
  | .function => d.functions.map (·.name)
  | .functionTypeParameter => d.functions.flatMap fun f => f.typeParameters.map (·.name)
  | .functionParameter => d.functions.flatMap fun f => f.parameters.map (·.name)
  | .property => d.properties.map (·.name)

/-! ### Blank names -/

namespace Snapshot

theorem SoundParameters.not_isBlankText {ps : List (String × Bool)} (h : SoundParameters ps)
    {name : String} (hname : name ∈ ps.map Prod.fst) : Text.isBlankText name = false := by
  obtain ⟨p, hp, rfl⟩ := List.mem_map.mp hname
  exact h.named p hp

/-- The checks of a declaration cover every place but the type parameters of functions. -/
theorem SoundDeclaration.not_isBlankText {d : Declaration} (h : SoundDeclaration d) {place : Place}
    (hplace : place ≠ .functionTypeParameter) {name : String} (hname : name ∈ d.namesAt place) :
    Text.isBlankText name = false := by
  cases place with
  | segment => exact h.segments name hname
  | typeParameter =>
    obtain ⟨v, hv, rfl⟩ := List.mem_map.mp hname
    exact h.typeParameters v hv
  | constructorParameter =>
    obtain ⟨p, hp, rfl⟩ := List.mem_map.mp hname
    cases hconstructor : d.constructor? with
    | none => simp [hconstructor] at hp
    | some ps =>
      rw [hconstructor] at hp
      refine (h.constructor ps hconstructor).not_isBlankText ?_
      rw [List.map_map]
      exact List.mem_map_of_mem hp
  | function =>
    obtain ⟨f, hf, rfl⟩ := List.mem_map.mp hname
    exact (h.functions f hf).1
  | functionTypeParameter => exact absurd rfl hplace
  | functionParameter =>
    obtain ⟨f, hf, hparameter⟩ := List.mem_flatMap.mp hname
    refine (h.functions f hf).2.not_isBlankText ?_
    rw [List.map_map]
    exact hparameter
  | property =>
    obtain ⟨p, hp, rfl⟩ := List.mem_map.mp hname
    exact h.properties p hp

theorem soundDeclaration (s : Snapshot) {d : Declaration} (hd : d ∈ s.declarations) :
    SoundDeclaration d :=
  declarationIssues_eq_nil_iff_sound.mp ((issues_eq_nil_iff.mp s.sound).2 d hd)

end Snapshot

/-! ### Quoted names -/

namespace TypeExpr.Parser

/-- No identifier that is read has a backtick in it. -/
theorem ReadsIdentifier.backtick_not_mem {input rest : List Char} {name : String}
    (h : ReadsIdentifier input name rest) : '`' ∉ name.toList := by
  cases h with
  | quoted hclosed =>
    rw [String.toList_ofList]
    exact hclosed
  | bare hfirst hmore =>
    rw [String.toList_ofList]
    exact Name.IsBare.not_mem ⟨_, _, rfl, hfirst, hmore⟩ (by decide)

/-- A name that is something is read back whole from what is written for it exactly if it has no
    backtick. -/
theorem took_written_iff {name : String} (h : name ≠ "") :
    Took (identifier (Name.written name).toList) name [] ↔ '`' ∉ name.toList := by
  constructor
  · intro htook
    exact (readsIdentifier_of_took htook).backtick_not_mem
  · intro hclosed
    have hread : ReadsIdentifier ((Name.written name).toList ++ []) name [] :=
      readsIdentifier_written ⟨h, hclosed⟩ (by rintro c ⟨⟩)
    rw [List.append_nil] at hread
    exact hread.took

/-- The first backtick of a name ends the identifier that is written for it. -/
theorem took_written_broken {front back : String} (hsome : front ≠ "")
    (hfront : '`' ∉ front.toList) :
    Took (identifier (Name.written (front ++ "`" ++ back)).toList) front
      (back.toList ++ ['`']) := by
  have hquoted : Name.written (front ++ "`" ++ back) = "`" ++ (front ++ "`" ++ back) ++ "`" := by
    rcases Name.written_cases (front ++ "`" ++ back) with hquoted | ⟨-, hplain⟩
    · exact hquoted
    · have hmem : '`' ∈ (front ++ "`" ++ back).toList := by simp [String.toList_append]
      exact absurd hmem (Name.not_mem_of_isPlain hplain (by decide))
  have hread := ReadsIdentifier.quoted hfront (by simpa using hsome) (back.toList ++ ['`'])
  rw [String.ofList_toList] at hread
  rw [hquoted]
  refine ReadsIdentifier.took ?_
  simpa [String.toList_append] using hread

end TypeExpr.Parser

namespace Snapshot

open TypeExpr.Parser (Took identifier)

/-- **Quoting contains a name.**  What is written for a declared name is read as this one name, to
    its end, exactly if the name has no backtick.  Otherwise the identifier ends at the first
    backtick, and what follows there is left. -/
theorem written_contained_iff (s : Snapshot) {d : Declaration} (hd : d ∈ s.declarations)
    {place : Place} (hplace : place ≠ .functionTypeParameter) {name : String}
    (hname : name ∈ d.namesAt place) :
    (Took (identifier (Name.written name).toList) name [] ↔ '`' ∉ name.toList) ∧
      ∀ front back, name = front ++ "`" ++ back → front ≠ "" → '`' ∉ front.toList →
        Took (identifier (Name.written name).toList) front (back.toList ++ ['`']) := by
  have hsome : name ≠ "" := by
    intro hempty
    have hblank := (s.soundDeclaration hd).not_isBlankText hplace hname
    rw [hempty] at hblank
    cases hblank
  refine ⟨TypeExpr.Parser.took_written_iff hsome, ?_⟩
  intro front back hbroken hfront hclosed
  rw [hbroken]
  exact TypeExpr.Parser.took_written_broken hfront hclosed

/-- A parameter with the name of a keyword, which is put between backticks. -/
theorem written_contained_keyword :
    let d : Declaration :=
      { name := "a.Api"
        kind := .interface
        functions :=
          [{ name := "find",
             parameters := [{ name := "in", type := .resolved (.named "Int") }] }] }
    ∃ hsound : issues [d] = [],
      d ∈ (⟨[d], hsound⟩ : Snapshot).declarations ∧
        Place.functionParameter ≠ .functionTypeParameter ∧
        "in" ∈ d.namesAt .functionParameter ∧
        Took (identifier (Name.written "in").toList) "in" [] := by
  intro d
  have hsound : issues [d] = [] := by decide
  have hd : d ∈ (⟨[d], hsound⟩ : Snapshot).declarations := List.mem_singleton_self d
  have hplace : Place.functionParameter ≠ .functionTypeParameter := by decide
  have hname : "in" ∈ d.namesAt .functionParameter := by decide
  refine ⟨hsound, hd, hplace, hname, ?_⟩
  exact (written_contained_iff ⟨[d], hsound⟩ hd hplace hname).1.mpr (by decide)

/-- A parameter whose name is read as the name of one parameter, its type and the name of
    another one. -/
theorem written_breaks_out :
    let d : Declaration :=
      { name := "a.Box"
        kind := .class_
        constructor? :=
          some [{ name := "a`: Int, `b", type := .resolved (.named "Int"), binding := .val }] }
    issues [d] = [] ∧ "a`: Int, `b" ∈ d.namesAt .constructorParameter ∧
      Name.written "a`: Int, `b" = "`a`: Int, `b`" ∧
      Took (identifier (Name.written "a`: Int, `b").toList) "a" ": Int, `b`".toList ∧
      ¬Took (identifier (Name.written "a`: Int, `b").toList) "a`: Int, `b" [] := by
  intro d
  have hname : "a`: Int, `b" = "a" ++ "`" ++ ": Int, `b" := by decide
  have hrest : ": Int, `b`".toList = ": Int, `b".toList ++ ['`'] := by decide
  refine ⟨by decide, by decide, by decide, ?_, ?_⟩
  · rw [hname, hrest]
    exact TypeExpr.Parser.took_written_broken (by decide) (by decide)
  · intro hwhole
    have hbacktick : '`' ∈ "a`: Int, `b".toList := by decide
    have hsome : "a`: Int, `b" ≠ "" := by decide
    exact (TypeExpr.Parser.took_written_iff hsome).mp hwhole hbacktick

end Snapshot

end CompanionSource
