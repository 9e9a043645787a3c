import MexBridge.Signature.Shadowing

/-!
# Log events

Emitters, sessions and the publication of files report what they do.  An `Event` says what
happened; its level, its logger and its wording follow from that, and `Event.record` is the line
that a log shows.
-/

namespace MexBridge

set_option autoImplicit false

/-- The levels of log records. -/
inductive LogLevel
  | debug
  | info
  | warning
  | error
  deriving DecidableEq

/-- The word for a level. -/
def LogLevel.written : LogLevel → String
  | debug => "DEBUG"
  | info => "INFO"
  | warning => "WARNING"
  | error => "ERROR"

/-- What is reported; methods are named with the MATLAB name of their class. -/
inductive Event
  /-- An overload is never taken, because an earlier one has its dispatch key. -/
  | overloadShadowed (matlabClass method : String) (shadowing : Shadowing)
  /-- The native function of an overload was written. -/
  | nativeWritten (symbol matlabClass method : String) (overload : Int)
  /-- The overload got its number. -/
  | overloadNumbered (matlabClass method : String) (overload id : Nat) (symbol : String)
  /-- A session ended well: its proxies, its native functions, the first number and the module. -/
  | generated (proxyCount nativeCount start : Nat) (moduleName : String)
  /-- The files of a session were given up. -/
  | discarded (directory : String)
  deriving DecidableEq

namespace Event

/-- How grave the event is. -/
def level : Event → LogLevel
  | overloadShadowed .. => .warning
  | nativeWritten .. => .debug
  | overloadNumbered .. => .debug
  | generated .. => .info
  | discarded .. => .error

/-- The logger that the event is reported to. -/
def logger : Event → String
  | overloadShadowed .. => "mexwrap.codegen.proxy"
  | nativeWritten .. => "mexwrap.codegen.native"
  | overloadNumbered .. => "mexwrap.codegen.proxy"
  | generated .. => "mexwrap.session"
  | discarded .. => "mexwrap.session"

/-- The wording of the event. -/
def message : Event → String
  | overloadShadowed matlabClass method shadowing =>
    matlabClass ++ "." ++ method ++ ": overload " ++ toString shadowing.shadowed ++
      " has the same arity and argument types as overload " ++ toString shadowing.winner ++
      " and is unreachable"
  | nativeWritten symbol matlabClass method overload =>
    "emitted native wrapper " ++ symbol ++ " for " ++ matlabClass ++ "." ++ method ++
      " overload " ++ toString overload
  | overloadNumbered matlabClass method overload id symbol =>
    matlabClass ++ "." ++ method ++ " overload " ++ toString overload ++ " -> id " ++
      toString id ++ " (" ++ symbol ++ ")"
  | generated proxyCount nativeCount start moduleName =>
    "generated " ++ toString proxyCount ++ " class proxies, " ++ toString nativeCount ++
      " native wrappers (ids " ++ toString start ++ ".." ++
      toString ((start : Int) + nativeCount - 1) ++ ") for module " ++ moduleName
  | discarded directory => "generation aborted; discarded outputs in " ++ directory

/-- The line of the log. -/
def record (event : Event) : String :=
  event.level.written ++ " " ++ event.logger ++ " " ++ event.message

/-- Whether the event is that a native function was written. -/
def isNative : Event → Bool
  | nativeWritten .. => true
  | overloadShadowed .. => false
  | overloadNumbered .. => false
  | generated .. => false
  | discarded .. => false

/-- The part of a log in front of the native function that follows after `count` others, if the
log has so many. -/
def beforeNative? : Nat → List Event → Option (List Event)
  | _, [] => none
  | count, event :: rest =>
    if event.isNative then
      match count with
      | 0 => some []
      | remaining + 1 => (beforeNative? remaining rest).map (event :: ·)
    else (beforeNative? count rest).map (event :: ·)

/-- A log has no part in front of a further native function exactly if it has no more than `count`
of them. -/
theorem beforeNative?_eq_none_iff {count : Nat} {log : List Event} :
    beforeNative? count log = none ↔ log.countP isNative ≤ count := by
  induction log generalizing count with
  | nil => simp [beforeNative?]
  | cons event rest ih =>
    by_cases native : event.isNative = true
    · rw [List.countP_cons_of_pos native]
      cases count with
      | zero => simp [beforeNative?, native]
      | succ remaining => simp [beforeNative?, native, ih]
    · rw [List.countP_cons_of_neg native]
      simp [beforeNative?, native, ih]

end Event

end MexBridge
