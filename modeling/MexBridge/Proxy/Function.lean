import MexBridge.Config
import MexBridge.Name.Symbol
import MexBridge.Signature.Overload

/-!
# Proxy functions

MATLAB callers carry no static types, so the proxy of a static method tests its overloads one
after the other, in the order of registration.  A branch holds when the number of values is its
arity and every value is of the tag at its place; the first branch that holds calls its native
function by number, and when none holds the call is an error.

A proxy function is built as data and printed by `ProxyFunction.lines`.  Every printed line is a
content at a nesting level, so that statements about the text can leave the indent unit aside.
-/

namespace MexBridge

set_option autoImplicit false

/-- A line of a proxy: its content, and how many indent units stand in front of it. -/
structure NestedLine where
  level : Int
  content : String
  deriving DecidableEq

/-- The line as a text. -/
def NestedLine.text (config : Config) (line : NestedLine) : String :=
  config.indentation line.level ++ line.content

/-- Why the outputs of a native function cannot be bound. -/
inductive BindingFault
  | noKind (value : ValueKind)
  deriving DecidableEq

/-- The complaint about a binding. -/
def BindingFault.message : BindingFault → String
  | noKind value => "'" ++ value.written ++ "' object has no attribute 'kind'"

/-- How the outputs of a native function are bound. -/
inductive OutputBinding
  | nothing
  | one
  | two
  deriving DecidableEq

namespace OutputBinding

/-- The left-hand side of the call. -/
def text : OutputBinding → String
  | nothing => ""
  | one => "varargout\x7b1\x7d = "
  | two => "[ varargout\x7b1\x7d varargout\x7b2\x7d ] = "

/-- The binding for a checked result. -/
def ofOutcome : Outcome → OutputBinding
  | .nothing => nothing
  | .one _ => one
  | .two _ _ => two

/-- The binding for a kind of result; an unknown kind binds nothing. -/
def ofKind : ResultKind → OutputBinding
  | .nothing => nothing
  | .single => one
  | .pair => two
  | .unknown _ => nothing

/-- The binding for a declared result that nobody checked; a plain value in its place has no kind
to go by. -/
def ofDeclared : DeclaredResult → Except BindingFault OutputBinding
  | .plain value => .error (.noKind value)
  | .shape declared => .ok (ofKind declared.kind)

/-- A result that can be marshalled is bound in the same way before and after its check. -/
theorem ofDeclared_of_outcome {declared : DeclaredResult} {outcome : Outcome}
    (checked : declared.outcome = .ok outcome) : ofDeclared declared = .ok (ofOutcome outcome) := by
  cases declared with
  | plain value => contradiction
  | shape shape =>
    obtain ⟨kind, slots⟩ := shape
    simp only [DeclaredResult.outcome, ResultShape.outcome, ResultShape.ofSlots] at checked
    split at checked
    all_goals grind [ofDeclared, ofKind, ofOutcome]

end OutputBinding

/-- One branch of a proxy function: the tags it tests, and the call it makes. -/
structure ProxyBranch where
  tags : List String
  binding : OutputBinding
  id : Nat
  deriving DecidableEq

/-- The test that the value at a place, counted from one, is of a class. -/
def classTest (place : Nat) (tag : String) : String :=
  "isa(varargin\x7b" ++ toString place ++ "\x7d,'" ++ tag ++ "')"

/-- The test of a branch: the number of values, and then the class of each. -/
def branchCondition (tags : List String) : String :=
  String.intercalate " && "
    (("length(varargin) == " ++ toString tags.length) ::
      tags.mapIdx fun index tag => classTest (index + 1) tag)

namespace ProxyBranch

/-- The branch of an overload that has a checked result and a number. -/
def ofOverload (overload : Overload) (outcome : Outcome) (id : Nat) : ProxyBranch where
  tags := overload.tags
  binding := .ofOutcome outcome
  id := id

/-- The call of the native function. -/
def call (branch : ProxyBranch) (wrapperName : String) : String :=
  branch.binding.text ++ wrapperName ++ "(" ++ toString branch.id ++ ", varargin\x7b:\x7d);"

/-- The two lines of a branch inside a function at the given level. -/
def lines (branch : ProxyBranch) (wrapperName keyword : String) (level : Int) :
    List NestedLine :=
  [⟨level + 1, keyword ++ " " ++ branchCondition branch.tags⟩,
    ⟨level + 2, branch.call wrapperName⟩]

end ProxyBranch

/-- The proxy of a static method. -/
structure ProxyFunction where
  matlabClass : String
  method : String
  branches : List ProxyBranch
  deriving DecidableEq

namespace ProxyFunction

/-- The name of the function in MATLAB. -/
def name (function : ProxyFunction) : String :=
  Name.capitalized function.method

/-- The word that opens the branch at a position. -/
def keyword (position : Nat) : String :=
  if position = 0 then "if" else "elseif"

/-- The lines of all branches. -/
def branchLines (function : ProxyFunction) (wrapperName : String) (level : Int) :
    List NestedLine :=
  (function.branches.mapIdx fun position branch =>
    branch.lines wrapperName (keyword position) level).flatten

/-- The function with its nesting, at a level. -/
def nestedLines (function : ProxyFunction) (wrapperName : String) (level : Int) :
    List NestedLine :=
  ⟨level, "function varargout = " ++ function.name ++ "(varargin)"⟩ ::
    function.branchLines wrapperName level ++
    [⟨level + 1, "else"⟩,
      ⟨level + 2, "error('Arguments do not match any overload of function " ++
        function.matlabClass ++ "." ++ function.name ++ "');"⟩,
      ⟨level + 1, "end"⟩,
      ⟨level, "end"⟩]

/-- The function as text. -/
def lines (config : Config) (function : ProxyFunction) (level : Int) : List String :=
  (function.nestedLines config.wrapperName level).map (NestedLine.text config)

end ProxyFunction

end MexBridge
