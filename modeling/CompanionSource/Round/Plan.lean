import CompanionSource.Round.Batch
import CompanionSource.Synthesis.Copy
import CompanionSource.Synthesis.NiceString
import CompanionSource.Synthesis.Wrapper

/-! # Plans

    What a round does is settled by its declarations and settings alone.  The plan of a round is
    the list of all that it reports and submits, in order:

    * the **wrappers**, each reported on and submitted before the next;
    * the **copies**, all reported on first and then submitted by namespace;
    * the **nice strings**, in the same way.

    The first declaration that gets a wrapper claims its name, and later ones with the same name
    in the same namespace are refused. -/

namespace CompanionSource

open Synthesis (Context Generated)

/-- One thing that a round does. -/
inductive Action where
  /-- It tells the user why a declaration gets no companion. -/
  | report (symbol : String) (refusal : Refusal)
  /-- It warns the user about a declaration. -/
  | warn (symbol message : String)
  /-- It submits a unit. -/
  | submit (unit : SourceUnit)

namespace Plan

/-- The warnings about a declaration. -/
def warnings (symbol : String) (messages : List String) : List Action :=
  messages.map (.warn symbol)

/-! ### Wrappers -/

/-- The key of the unit that holds the wrapper of a declaration. -/
def wrapperKey (d : Declaration) : UnitKey := ⟨d.scope, Synthesis.wrapperName d⟩

/-- The refusal of a declaration because `first` has claimed the name of its wrapper. -/
def clash (d : Declaration) (first : String) : Refusal :=
  .nameClash d.name (d.scope ++ "." ++ Synthesis.wrapperName d) first

/-- The unit of a wrapper, in a file with its name. -/
def wrapperUnit? (ctx : Context) (d : Declaration) (c : Source.Class) : Option SourceUnit :=
  SourceUnit.of? ⟨d.scope, c.name⟩ [.ofClass c] ctx.provenance

/-- What is done about wrappers for these declarations, given who has claimed which key. -/
def wrappersFrom (ctx : Context) (claimed : List (UnitKey × String)) :
    List Declaration → List Action
  | [] => []
  | d :: ds =>
    match claimed.lookup (wrapperKey d) with
    | some first => .report d.name (clash d first) :: wrappersFrom ctx claimed ds
    | none =>
      match Synthesis.wrapper ctx d with
      | .error refusal => .report d.name refusal :: wrappersFrom ctx claimed ds
      | .ok generated =>
        warnings d.name generated.warnings
          ++ (wrapperUnit? ctx d generated.item).toList.map .submit
          ++ wrappersFrom ctx ((wrapperKey d, d.name) :: claimed) ds

/-- The declarations with the marker of a directive. -/
def marked (ctx : Context) (directive : Directive) : List Declaration :=
  ctx.snapshot.markedWith (ctx.settings.marker directive)

/-- What is done about wrappers. -/
def wrappers (ctx : Context) : List Action :=
  wrappersFrom ctx [] (marked ctx .loggable)

/-! ### Extension functions -/

/-- A generator of extension functions. -/
abbrev Extension : Type := Context → Declaration → Except Refusal (Generated Source.Function)

/-- What is reported about the extension function of a declaration. -/
def extensionReports (generate : Extension) (ctx : Context) (d : Declaration) : List Action :=
  match generate ctx d with
  | .error refusal => [.report d.name refusal]
  | .ok generated => warnings d.name generated.warnings

/-- The batch with the extension function of a declaration, if it gets one. -/
def addExtension (generate : Extension) (ctx : Context) (b : Batch) (d : Declaration) : Batch :=
  match generate ctx d with
  | .error _ => b
  | .ok generated => b.add d.scope generated.item

/-- What is done about the extension functions that a directive asks for. -/
def extensions (generate : Extension) (file : String) (directive : Directive) (ctx : Context) :
    List Action :=
  let ds := marked ctx directive
  ds.flatMap (extensionReports generate ctx)
    ++ ((ds.foldl (addExtension generate ctx) (.fresh file)).units ctx.provenance).map .submit

/-- What is done about copies. -/
def copies (ctx : Context) : List Action :=
  extensions Synthesis.copy Synthesis.copyFile .copy ctx

/-- What is done about nice strings. -/
def niceStrings (ctx : Context) : List Action :=
  extensions Synthesis.niceString Synthesis.niceStringFile .toNiceString ctx

/-! ### Whole rounds -/

/-- What is done about a directive. -/
def forDirective (ctx : Context) : Directive → List Action
  | .loggable => wrappers ctx
  | .copy => copies ctx
  | .toNiceString => niceStrings ctx
  | .noLog => []

/-- What is done in a round. -/
def round (ctx : Context) : List Action :=
  wrappers ctx ++ copies ctx ++ niceStrings ctx

end Plan

end CompanionSource
