import CompanionSource.Proofs.Source.DistinctTypes
import CompanionSource.Proofs.TypeExpr.Parts

/-! # Shortened types

    A file writes the names it imports by their last segments, at every depth of a type, and all
    else as it is.  So the imports are a replacement of names, and two types are written alike
    exactly if they become the same by it: names without a backtick are told apart by their text
    otherwise. -/

namespace CompanionSource.Source

open TypeExpr (mapNames)

/-- The name as it is written in a file with these imports. -/
def shortened (imports : Imports) (name : String) : String :=
  if imports.contains name then Name.simple name else name

theorem writtenDotted_shortened (imports : Imports) (name : String) :
    Name.writtenDotted (shortened imports name) =
      if imports.contains name then Name.written (Name.simple name)
      else Name.writtenDotted name := by
  unfold shortened
  split
  · have hdot := Name.dot_not_mem_of_mem_segments (Name.simple_mem_segments name)
    rw [Name.writtenDotted, Name.segments_eq_singleton hdot, List.map_singleton,
      String.intercalate_singleton]
  · rfl

theorem IsUnquoted.shortened {name : String} (h : IsUnquoted name) (imports : Imports) :
    IsUnquoted (shortened imports name) := by
  unfold Source.shortened
  split
  · exact fun hmem => h (Name.mem_of_mem_segments (Name.simple_mem_segments name) hmem)
  · exact h

/-- A type in a file is written as the type with shortened names is written anywhere. -/
theorem typeCode_eq (imports : Imports) (t : TypeExpr) :
    typeCode imports t = (t.mapNames (shortened imports)).text := by
  induction t using TypeExpr.parts_induction with
  | mk name arguments nullable ih =>
    have hargument : ∀ a ∈ arguments, typeArgumentCode imports a =
        TypeExpr.argumentText (TypeExpr.mapNamesOfArgument (shortened imports) a) := by
      intro a ha
      cases a with
      | star => rfl
      | of v t =>
        cases v with
        | none => exact ih none t ha
        | some v =>
          rw [typeArgumentCode, ih (some v) t ha]
          rfl
    rw [typeCode, mapNames, TypeExpr.text, writtenDotted_shortened, typeArgumentCodes_eq_map,
      TypeExpr.argumentTexts_eq_map, TypeExpr.mapNamesOfArguments_eq_map, List.map_map,
      List.isEmpty_map]
    rw [List.map_congr_left hargument]
    rfl

/-- Types are told apart by what is written for them, if their names are told apart when they are
    shortened, and have no backtick. -/
theorem eq_of_typeCode_eq {imports : Imports} {p : String → Prop}
    (hclosed : ∀ name, p name → IsUnquoted name)
    (hshortened : ∀ name name', p name → p name' →
      shortened imports name = shortened imports name' → name = name')
    {t t' : TypeExpr} (h : t.EveryName p) (h' : t'.EveryName p)
    (heq : typeCode imports t = typeCode imports t') : t = t' := by
  have hunquoted {t : TypeExpr} (h : t.EveryName p) :
      (t.mapNames (shortened imports)).EveryName IsUnquoted :=
    h.mapNames fun name hname => (hclosed name hname).shortened imports
  rw [typeCode_eq, typeCode_eq] at heq
  exact TypeExpr.eq_of_mapNames_eq hshortened h h'
    (TypeExpr.eq_of_text_eq (hunquoted h) (hunquoted h') heq)

end CompanionSource.Source
