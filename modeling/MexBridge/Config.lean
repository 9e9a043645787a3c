import MexBridge.Magnitude
import MexBridge.Name.Identifier
import MexBridge.Text.Blank
import MexBridge.Text.Quoted

/-!
# Configuration

`Settings` is what a caller asks for and `Config` what the emitters work with.  `Settings.resolve`
checks the names and the indent unit in a fixed order, reports the first fault, and derives the
wrapper's name from the module's name where none is given.

A line at a nesting level begins with so many indent units.  `Config.indentation` is defined at all
levels, and `Config.indentFault?` tells at which of them the text would be too long to be made.
-/

namespace MexBridge

set_option autoImplicit false

/-- The headers that a wrapper file includes unless told otherwise. -/
def defaultIncludes : List String :=
  ["wrap/matlab.h", "stdexcept", "string"]

/-- What a caller asks for; an empty wrapper name asks for the derived one. -/
structure Settings where
  moduleName : String
  wrapperName : String := ""
  usingNamespaces : List String := []
  includes : List String := defaultIncludes
  indent : String := "  "
  deriving DecidableEq

/-- Checked settings, shared by all emitters of a session. -/
structure Config where
  moduleName : String
  wrapperName : String
  usingNamespaces : List String
  includes : List String
  indent : String
  deriving DecidableEq

/-- Why settings are refused. -/
inductive ConfigFault
  | emptyModuleName
  | moduleNameNotIdentifier (name : String)
  | wrapperNameNotIdentifier (name : String)
  | namespaceNotQualifiedName (name : String)
  | indentNotBlank
  deriving DecidableEq

/-- The complaint about a fault. -/
def ConfigFault.message : ConfigFault → String
  | emptyModuleName => "module_name must not be empty"
  | moduleNameNotIdentifier name =>
    "module_name " ++ Text.quoted name ++ " is not an ASCII identifier"
  | wrapperNameNotIdentifier name =>
    "wrapper_name " ++ Text.quoted name ++ " is not an ASCII identifier"
  | namespaceNotQualifiedName name =>
    "using namespace " ++ Text.quoted name ++ " is not a qualified C++ name"
  | indentNotBlank => "indent must be whitespace"

/-- Why an indentation cannot be made. -/
inductive IndentFault
  | levelNotAWord
  | tooLong
  | outOfMemory
  deriving DecidableEq

/-- The complaint about an indentation; exhausted memory has no wording. -/
def IndentFault.message : IndentFault → String
  | levelNotAWord => MagnitudeFault.notAWord.message
  | tooLong => "repeated string is too long"
  | outOfMemory => ""

/-- The number of characters from which on a text is not held in memory. -/
def memoryBound : Nat := 0x100000000

namespace Settings

/-- The wrapper's name: the one asked for, or the module's name with a fixed ending. -/
def resolvedWrapperName (settings : Settings) : String :=
  if settings.wrapperName = "" then settings.moduleName ++ "_wrapper" else settings.wrapperName

/-- The first fault of the settings: module name, wrapper name, namespaces in order, indent. -/
def fault? (settings : Settings) : Option ConfigFault :=
  if settings.moduleName = "" then some .emptyModuleName
  else if !Name.isIdentifier settings.moduleName then
    some (.moduleNameNotIdentifier settings.moduleName)
  else if settings.wrapperName ≠ "" ∧ !Name.isIdentifier settings.wrapperName then
    some (.wrapperNameNotIdentifier settings.wrapperName)
  else match settings.usingNamespaces.find? fun name => !Name.isQualifiedName name with
    | some name => some (.namespaceNotQualifiedName name)
    | none => if Text.allBlank settings.indent then none else some .indentNotBlank

/-- The checked settings. -/
def resolve (settings : Settings) : Except ConfigFault Config :=
  match settings.fault? with
  | some fault => .error fault
  | none => .ok
    { moduleName := settings.moduleName
      wrapperName := settings.resolvedWrapperName
      usingNamespaces := settings.usingNamespaces
      includes := settings.includes
      indent := settings.indent }

end Settings

namespace Config

/-- The indentation of a nesting level; levels below one have none, and an empty unit gives none
at any level. -/
def indentation (config : Config) (level : Int) : String :=
  if config.indent = "" then "" else String.join (List.replicate level.toNat config.indent)

/-- The number of characters in the indentation of a nesting level. -/
def indentationLength (config : Config) (level : Int) : Nat :=
  config.indent.length * level.toNat

/-- Why the indentation of a nesting level cannot be made: the level is looked at first, even
where nothing would be repeated, and then the length. -/
def indentFault? (config : Config) (level : Int) : Option IndentFault :=
  if !fitsWord level then some .levelNotAWord
  else if wordBound ≤ config.indentationLength level then some .tooLong
  else if memoryBound ≤ config.indentationLength level then some .outOfMemory
  else none

/-- The indentation of a nesting level, if it can be made. -/
def checkedIndentation (config : Config) (level : Int) : Except IndentFault String :=
  match config.indentFault? level with
  | some fault => .error fault
  | none => .ok (config.indentation level)

/-- An indentation is its unit, repeated once for each level. -/
theorem indentation_eq_join (config : Config) (level : Int) :
    config.indentation level = String.join (List.replicate level.toNat config.indent) := by
  unfold indentation
  split
  next empty =>
    rw [empty]
    induction level.toNat with
    | zero => rfl
    | succ count ih => rw [List.replicate_succ, String.join_cons, ← ih]; rfl
  next => rfl

end Config

end MexBridge
