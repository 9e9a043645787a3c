/-!
# Names on the two sides

A static method is called by its capitalised name in MATLAB and by an entry symbol on the
native side.  Capitalising follows ASCII alone, so the result never depends on a locale.  An entry
symbol is made of the class, the method and the number of the overload.
-/

namespace MexBridge.Name

set_option autoImplicit false

/-- The name with its first character capitalised; only ASCII small letters have capitals here. -/
def capitalized (name : String) : String :=
  match name.toList with
  | [] => name
  | first :: rest => String.ofList (first.toUpper :: rest)

/-- The native symbol of the overload numbered `id`. -/
def entrySymbol (matlabClass method : String) (id : Int) : String :=
  matlabClass ++ "_" ++ method ++ "_" ++ toString id

end MexBridge.Name
