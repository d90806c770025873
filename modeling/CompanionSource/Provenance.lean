import CompanionSource.Moment.Basic
import CompanionSource.Source.Annotation

/-! # Provenance

    What generated source says about where it comes from: by whom, when, and a comment. -/

namespace CompanionSource

/-- Who generated a source and when. -/
structure Provenance where
  /-- The generator. -/
  generator : String
  /-- The time of generation. -/
  moment : Moment
  /-- A comment. -/
  comment : String
  /-- The qualified name of the annotation that says all this. -/
  type : String

namespace Provenance

/-- The time of generation, as it is written. -/
def date (p : Provenance) : String := p.moment.text

/-- The annotation with a date. -/
def markOn (date : String) (p : Provenance) : Source.Annotation :=
  { type := .named p.type
    arguments :=
      [{ name := some "value", value := .array [.text p.generator] },
        { name := some "date", value := .text date },
        { name := some "comments", value := .text p.comment }] }

/-- The annotation that every generated declaration carries once. -/
def mark (p : Provenance) : Source.Annotation := p.markOn p.date

end Provenance

end CompanionSource
