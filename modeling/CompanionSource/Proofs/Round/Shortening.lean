import CompanionSource.Proofs.DottedIdentifier
import CompanionSource.Proofs.Round.Collision
import CompanionSource.Proofs.Round.Types
import CompanionSource.Proofs.Source.Shortening

/-! # Shortened types in a round

    The file of a unit imports the type of its provenance, if that is a dotted name, and writes it
    by its last segment, without a look at what else is in the file.

    - A file is **unambiguous** if no two types in it are written alike, and no name without a dot
      in it means the imported type.
    - The file of a unit is so exactly if no type in it is named by that last segment.
    - A type in it that is not the imported one, or `String`, comes from a **declaration** of its
      namespace.  Nothing rules out that it is named so: a class of the same name is enough. -/

namespace CompanionSource

open Source (IsUnquoted shortened typeCode)

/-! ### Names of settings -/

namespace Name

/-- A name has no backtick if no segment has one. -/
theorem isUnquoted_of_segments {name : String} (h : ∀ segment ∈ segments name, IsUnquoted segment) :
    IsUnquoted name := by
  have hjoined (ss : List String) (h : ∀ segment ∈ ss, IsUnquoted segment) :
      IsUnquoted (".".intercalate ss) := by
    induction ss with
    | nil => decide
    | cons first others ih =>
      obtain ⟨hfirst, hothers⟩ := List.forall_mem_cons.mp h
      cases others with
      | nil => simpa using hfirst
      | cons second others =>
        rw [String.intercalate_cons_cons]
        have hothers := ih hothers
        generalize ".".intercalate (second :: others) = rest at hothers
        simp only [IsUnquoted] at hfirst hothers ⊢
        simp [String.toList_append, hfirst, hothers]
  rw [← intercalate_segments name]
  exact hjoined _ h

theorem isUnquoted_of_isPlain {name : String} (h : ∀ segment ∈ segments name, isPlain segment) :
    IsUnquoted name := by
  refine isUnquoted_of_segments ?_
  intro segment hsegment
  exact not_mem_of_isPlain (h segment hsegment) (by decide)

theorem isDotted_simple (name : String) : isDotted (simple name) = false := by
  have hdot := dot_not_mem_of_mem_segments (simple_mem_segments name)
  simpa [isDotted] using hdot

end Name

theorem Settings.isUnquoted_provenanceType {settings : Settings} (h : settings.faults = []) :
    IsUnquoted settings.provenanceType :=
  Name.isUnquoted_of_isPlain
    (Name.forall_isPlain_iff.mpr (namesAreBare_of_faults h).provenanceType)

/-! ### Unambiguous files -/

namespace Source

/-- No two types in the file are written alike, and no name without a dot in it means an imported
    type. -/
structure File.Unambiguous (f : File) : Prop where
  distinct : ∀ t t', f.HasType t → f.HasType t' →
    typeCode f.imports t = typeCode f.imports t' → t = t'
  uncaptured : ∀ t, f.HasType t → Name.isDotted t.name = false →
    ∀ name, f.imports.contains name = true → Name.simple name ≠ t.name

theorem File.HasType.part {f : File} {t part : TypeExpr} (h : f.HasType t)
    (hpart : t.HasPart part) : f.HasType part := by
  obtain ⟨whole, hwhole, ht⟩ := h
  exact ⟨whole, hwhole, ht.trans hpart⟩

/-- A file that imports one dotted name, or none, is unambiguous exactly if no type in it is named
    by the last segment of that name. -/
theorem File.unambiguous_iff_of_imports {f : File} {imported : String}
    (himports : ∀ name, f.imports.contains name = true ↔
      Name.isDotted imported = true ∧ imported = name)
    (hclosed : ∀ t, f.HasType t → IsUnquoted t.name) :
    f.Unambiguous ↔
      (Name.isDotted imported = true → ∀ t, f.HasType t → t.name ≠ Name.simple imported) := by
  constructor
  · intro h hdotted t ht hname
    have hplain : Name.isDotted t.name = false := hname ▸ Name.isDotted_simple imported
    exact h.uncaptured t ht hplain imported ((himports imported).mpr ⟨hdotted, rfl⟩) hname.symm
  · intro h
    constructor
    · intro t t' ht ht'
      -- Shortened names stay apart, because the shortened one is not that of another type.
      have hnames {t : TypeExpr} (ht : f.HasType t) : t.EveryName fun name =>
          IsUnquoted name ∧ (Name.isDotted imported = true → name ≠ Name.simple imported) := by
        rw [TypeExpr.everyName_iff]
        intro part hpart
        exact ⟨hclosed part (ht.part hpart), fun hdotted => h hdotted part (ht.part hpart)⟩
      refine eq_of_typeCode_eq (fun name hname => hname.1) ?_ (hnames ht) (hnames ht')
      intro name name' hname hname' hsame
      simp only [shortened, himports] at hsame
      split at hsame
      · next himported =>
        obtain ⟨hdotted, rfl⟩ := himported
        split at hsame
        · next himported' => exact himported'.2
        · exact absurd hsame.symm (hname'.2 hdotted)
      · split at hsame
        · next himported' =>
          obtain ⟨hdotted, rfl⟩ := himported'
          exact absurd hsame (hname.2 hdotted)
        · exact hsame
    · intro t ht _ name himported hname
      obtain ⟨hdotted, rfl⟩ := (himports name).mp himported
      exact h hdotted t ht hname.symm

end Source

/-! ### Files of a round -/

theorem TypeExpr.hasPart_named_iff {name : String} {part : TypeExpr} :
    (named name).HasPart part ↔ part = named name := by
  constructor
  · intro h
    cases h with
    | whole => rfl
    | argument hinner => cases hinner
  · rintro rfl
    exact .whole _

namespace Plan

open Synthesis (Context)

variable {s : Snapshot} {settings : Settings} {start : Moment} {u : SourceUnit} {t : TypeExpr}

/-- The types in the file of a unit. -/
theorem exists_of_hasType (hu : u ∈ submitted (round (.of s settings start))) {step : Nat}
    (ht : (u.toFile step).HasType t) :
    t = .named settings.provenanceType ∨ t = .named "String" ∨
      ∃ d ∈ s.declarations, d.scope = u.key.scope ∧ ∃ whole, d.Mentions whole ∧ whole.HasPart t := by
  obtain ⟨c, hc⟩ := mem_submitted_round.mp hu
  obtain ⟨whole, hwhole, hpart⟩ := ht
  cases hwhole with
  | mark ha hmentions =>
    rw [List.mem_singleton.mp ha, Provenance.mentions_mark_iff,
      (Companion.plan_follows _ c).provenance u hc] at hmentions
    subst hmentions
    exact .inl (TypeExpr.hasPart_named_iff.mp hpart)
  | member hm hmentions =>
    obtain ⟨d, hmarked, g, hg, hkey, rfl⟩ := Companion.exists_of_mem_members hc hm
    have hd := (Snapshot.mem_markedWith_iff.mp hmarked).1
    rcases Companion.mentions_of_generate hg hmentions with rfl | rfl | hdeclared
    · exact .inl (TypeExpr.hasPart_named_iff.mp hpart)
    · exact .inr (.inl (TypeExpr.hasPart_named_iff.mp hpart))
    · exact .inr (.inr ⟨d, hd, (congrArg UnitKey.scope hkey).symm, whole, hdeclared, hpart⟩)

/-- **Shortening.**  Where the declared types have no backtick in their names, the file of a unit
    is unambiguous exactly if no type in it is named by the last segment of the imported type.
    All that could be named so comes from the declarations of its namespace, or is `String`. -/
theorem unambiguous_iff (hsettings : settings.faults = [])
    (hclosed : ∀ d ∈ s.declarations, ∀ t, d.Mentions t → t.EveryName IsUnquoted)
    (hu : u ∈ submitted (round (.of s settings start))) (step : Nat) :
    ((u.toFile step).Unambiguous ↔
      (Name.isDotted settings.provenanceType = true → ∀ t, (u.toFile step).HasType t →
        t.name ≠ Name.simple settings.provenanceType)) ∧
    ∀ t, (u.toFile step).HasType t →
      t = .named settings.provenanceType ∨ t = .named "String" ∨
        ∃ d ∈ s.declarations, d.scope = u.key.scope ∧
          ∃ whole, d.Mentions whole ∧ whole.HasPart t := by
  refine ⟨Source.File.unambiguous_iff_of_imports ?_ ?_, fun t ht => exists_of_hasType hu ht⟩
  · intro name
    obtain ⟨c, hc⟩ := mem_submitted_round.mp hu
    have hprovenance := (Companion.plan_follows _ c).provenance u hc
    show u.imports.contains name = true ↔ _
    rw [Synthesis.imports_contains_iff, hprovenance]
    rfl
  · intro t ht
    rcases exists_of_hasType hu ht with rfl | rfl | ⟨d, hd, -, whole, hwhole, hpart⟩
    · exact settings.isUnquoted_provenanceType hsettings
    · show IsUnquoted "String"
      decide
    · exact TypeExpr.everyName_iff.mp (hclosed d hd whole hwhole) t hpart

/-- Where a copy is made of a marked declaration, there is a unit with it. -/
theorem exists_unit_of_copy {d : Declaration} {g : Synthesis.Generated Source.Function}
    (hd : d ∈ s.declarations) (hmarked : d.isMarked (settings.marker .copy) = true)
    (hg : Synthesis.copy (.of s settings start) d = .ok g) :
    ∃ u ∈ submitted (round (.of s settings start)), .ofFunction g.item ∈ u.members := by
  have hgenerate : Companion.copy.generate (.of s settings start) d =
      .ok ⟨.ofFunction g.item, g.warnings⟩ := Traversal.map_eq_ok_iff.mpr ⟨g, hg, rfl⟩
  have hplaced := Companion.mem_placements_of_generate (c := .copy) (by decide)
    (Snapshot.mem_markedWith_iff.mpr ⟨hd, hmarked⟩) hgenerate
  obtain ⟨u, hu, -, hitem⟩ := SourceUnit.mem_placements_iff.mp hplaced
  exact ⟨u, mem_submitted_round.mpr ⟨.copy, hu⟩, hitem⟩

/-- A class whose copy mentions no type named as the provenance is written. -/
theorem unambiguous_iff_box :
    let d : Declaration :=
      { name := "a.Box"
        kind := .class_
        annotations := [{ name := "Copy" }]
        constructor? := some [{ name := "x", type := .resolved (.named "Int"), binding := .val }] }
    let settings : Settings := {}
    ∃ hsound : Snapshot.issues [d] = [], settings.faults = [] ∧
      (∀ e ∈ [d], ∀ t, e.Mentions t → t.EveryName IsUnquoted) ∧
      ∃ u ∈ submitted (round (.of ⟨[d], hsound⟩ settings .newYear2024)),
        (u.toFile 4).Unambiguous ∧ ∀ t, (u.toFile 4).HasType t →
          t = .named settings.provenanceType ∨ t = .named "String" ∨
            ∃ e ∈ [d], e.scope = u.key.scope ∧ ∃ whole, e.Mentions whole ∧ whole.HasPart t := by
  intro d settings
  have hsound : Snapshot.issues [d] = [] := by decide
  have hsettings : settings.faults = [] := by decide
  have hpath : d.typePath = "Box" := by decide
  have htypes : ∀ t, d.Mentions t → t = .named "Box" ∨ t = .named "Int" := by
    intro t ht
    cases ht with
    | declared h =>
      left
      rw [← h, Declaration.declaredType, hpath]
      rfl
    | path h =>
      left
      rw [← h, hpath]
    | typeParameter hv => cases hv
    | bound hv => cases hv
    | constructorParameter hps hp h =>
      right
      cases hps
      rw [List.mem_singleton.mp hp] at h
      exact (Declared.TypeRef.resolved.inj h).symm
    | function hf => cases hf
    | property hp => cases hp
  have hclosed : ∀ e ∈ [d], ∀ t, e.Mentions t → t.EveryName IsUnquoted := by
    rintro e he t ht
    rw [List.mem_singleton.mp he] at ht
    rcases htypes t ht with rfl | rfl
    · exact .mk (by decide) (by rintro v t ⟨⟩)
    · exact .mk (by decide) (by rintro v t ⟨⟩)
  have hmarked : d.isMarked (settings.marker .copy) = true := by decide
  obtain ⟨g, hg⟩ : ∃ g, Synthesis.copy (.of ⟨[d], hsound⟩ settings .newYear2024) d = .ok g :=
    ⟨_, rfl⟩
  obtain ⟨u, hu, -⟩ := exists_unit_of_copy (List.mem_singleton_self d) hmarked hg
  obtain ⟨hiff, hall⟩ := unambiguous_iff hsettings hclosed hu 4
  refine ⟨hsound, hsettings, hclosed, u, hu, hiff.mpr ?_, hall⟩
  intro _ t ht
  rcases hall t ht with rfl | rfl | ⟨e, he, -, whole, hwhole, hpart⟩
  · decide
  · decide
  · rw [List.mem_singleton.mp he] at hwhole
    rcases htypes whole hwhole with rfl | rfl
    · rw [TypeExpr.hasPart_named_iff.mp hpart]
      decide
    · rw [TypeExpr.hasPart_named_iff.mp hpart]
      decide

/-- The copy of a class is written as an extension of the annotation that gives its provenance. -/
theorem not_unambiguous_generated :
    let d : Declaration :=
      { name := "a.Generated"
        kind := .class_
        annotations := [{ name := "Copy" }]
        constructor? := some [{ name := "x", type := .resolved (.named "Int"), binding := .val }] }
    let settings : Settings := {}
    ∃ hsound : Snapshot.issues [d] = [], settings.faults = [] ∧
      ∃ u ∈ submitted (round (.of ⟨[d], hsound⟩ settings .newYear2024)),
        (u.toFile 4).HasType (.named "Generated") ∧
        (u.toFile 4).HasType (.named "javax.annotation.processing.Generated") ∧
        typeCode u.imports (.named "Generated") = "Generated" ∧
        typeCode u.imports (.named "javax.annotation.processing.Generated") = "Generated" ∧
        ¬(u.toFile 4).Unambiguous := by
  intro d settings
  have hsound : Snapshot.issues [d] = [] := by decide
  have hpath : d.typePath = "Generated" := by decide
  have hmarked : d.isMarked (settings.marker .copy) = true := by decide
  obtain ⟨g, hg⟩ : ∃ g, Synthesis.copy (.of ⟨[d], hsound⟩ settings .newYear2024) d = .ok g :=
    ⟨_, rfl⟩
  obtain ⟨u, hu, hitem⟩ := exists_unit_of_copy (List.mem_singleton_self d) hmarked hg
  have hprovenance : u.provenance = settings.provenance .newYear2024 := by
    obtain ⟨c, hc⟩ := mem_submitted_round.mp hu
    exact (Companion.plan_follows _ c).provenance u hc
  have himports : u.imports = .ofList ["javax.annotation.processing.Generated"] := by
    rw [SourceUnit.imports, hprovenance]
    exact if_pos (by decide)
  have hreceiver : (u.toFile 4).HasType (.named "Generated") := by
    obtain ⟨ts, -, rfl⟩ := Synthesis.copy_eq_ok_iff.mp hg
    refine ⟨d.declaredType, .member hitem (.receiver rfl), ?_⟩
    rw [Declaration.declaredType, hpath]
    exact .whole _
  have hprovided : (u.toFile 4).HasType (.named "javax.annotation.processing.Generated") := by
    refine ⟨_, .mark (List.mem_singleton_self _) (Provenance.mentions_mark_iff.mpr ?_),
      .whole _⟩
    rw [hprovenance]
    rfl
  refine ⟨hsound, by decide, u, hu, hreceiver, hprovided, ?_, ?_, ?_⟩
  · rw [himports]
    decide
  · rw [himports]
    decide
  · intro h
    refine h.uncaptured _ hreceiver (by decide) "javax.annotation.processing.Generated" ?_
      (by decide)
    show u.imports.contains _ = true
    rw [himports]
    decide

end Plan

end CompanionSource
