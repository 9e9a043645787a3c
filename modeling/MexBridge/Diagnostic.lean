/-!
# Diagnostics

Generation stops at the first overload, method or class that cannot be emitted.  A diagnostic says
what was wrong and where: its location names as much of class, method and overload as is known,
and its text is one line for the finding and one for each note.
-/

namespace MexBridge

set_option autoImplicit false

/-- A place in the declarations, as far as it is known. -/
structure Site where
  className : Option String := none
  methodName : Option String := none
  overloadIndex : Option Int := none
  deriving DecidableEq

/-- A finding about the declarations. -/
structure Diagnostic where
  message : String
  code : Option String := none
  phase : Option String := none
  severity : String := "error"
  site : Site := {}
  notes : List String := []
  deriving DecidableEq

/-- The place as messages show it; without a class it is the session as a whole. -/
def Site.location (site : Site) : String :=
  match site.className with
  | none => "<session>"
  | some className =>
    let method := match site.methodName with
      | none => ""
      | some methodName => "." ++ methodName
    let overload := match site.overloadIndex with
      | none => ""
      | some index => "[overload " ++ toString index ++ "]"
    className ++ method ++ overload

namespace Diagnostic

/-- The place of the finding. -/
def location (diagnostic : Diagnostic) : String :=
  diagnostic.site.location

/-- The finding in one line, and a line for each note. -/
def render (diagnostic : Diagnostic) : String :=
  diagnostic.location ++ ": " ++ diagnostic.severity ++ ": " ++ diagnostic.message ++
    String.join (diagnostic.notes.map ("\n  note: " ++ ·))

/-- A finding of the emitters. -/
def ofEmission (message : String) (code : Option String) (site : Site) : Diagnostic where
  message := message
  code := code
  phase := some "codegen"
  site := site

end Diagnostic

end MexBridge
