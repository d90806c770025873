import CompanionSource.TypeExpr.Parser

/-! # Declared types

    A type as a declaration reports it: read, or left unresolved. -/

namespace CompanionSource.Declared

/-- A declared type. -/
inductive TypeRef where
  /-- A type that could be read. -/
  | resolved (type : TypeExpr)
  /-- The text that stood for a type that could not be resolved. -/
  | unresolved (text : String)

namespace TypeRef

/-- The text that stands for a type that could not be resolved. -/
def unresolvedText : String := "<ERROR TYPE>"

/-- The declared type that the text writes.  Blanks around it do not count. -/
def parse (text : String) : Except TypeExpr.ParseError TypeRef :=
  let trimmed := Text.trim text
  if trimmed = unresolvedText then .ok (.unresolved trimmed)
  else (TypeExpr.parse trimmed).map .resolved

/-- The type, if it is resolved. -/
def type? : TypeRef → Option TypeExpr
  | .resolved t => some t
  | .unresolved _ => none

/-- The type is resolved and admits null. -/
def isNullable (r : TypeRef) : Bool := r.type?.any (·.nullable)

/-- The source text, or the text that stands for it. -/
def text : TypeRef → String
  | .resolved t => t.text
  | .unresolved s => s

end TypeRef

end CompanionSource.Declared
