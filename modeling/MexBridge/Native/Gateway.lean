import MexBridge.Config
import MexBridge.FunctionTable

/-!
# The gateway of the wrapper file

MATLAB calls one compiled function, with the number of the wanted native function as first input.
`Gateway.lines` prints that function: a switch with one case for every entry of the function
table, in the order of the numbers, which passes the remaining inputs on.  `Gateway.prologue`
heads the wrapper file.
-/

namespace MexBridge.Gateway

set_option autoImplicit false

/-- The head of the wrapper file: what it is, what it includes, and an empty line. -/
def prologue (config : Config) : List String :=
  ["// " ++ config.wrapperName ++ ".cpp: MEX wrappers for module " ++ config.moduleName] ++
    config.includes.map (fun header => "#include <" ++ header ++ ">") ++ [""]

/-- The case of one entry of the function table. -/
def caseLines (id : Nat) (symbol : String) : List String :=
  ["    case " ++ toString id ++ ":",
    "      " ++ symbol ++ "(nargout, out, nargin-1, in+1);",
    "      break;"]

/-- The gateway up to its first case. -/
def opening : List String :=
  ["void mexFunction(int nargout, mxArray *out[], int nargin, const mxArray *in[])",
    "\x7b",
    "  mstream mout;",
    "  std::streambuf *outbuf = std::cout.rdbuf(&mout);",
    "",
    "  int id = unwrap<int>(in[0]);",
    "",
    "  try \x7b",
    "    switch(id) \x7b"]

/-- The gateway after its last case: an unknown number is an error, and errors reach MATLAB under
the name of the module. -/
def closing (config : Config) : List String :=
  ["    default:",
    "      throw std::invalid_argument(\"Unknown function id \" + std::to_string(id));",
    "    \x7d",
    "  \x7d catch(const std::exception& e) \x7b",
    "    mexErrMsgTxt((\"Exception from " ++ config.moduleName ++
      ":\\n\" + std::string(e.what()) + \"\\n\").c_str());",
    "  \x7d",
    "",
    "  std::cout.rdbuf(outbuf);",
    "\x7d"]

/-- The cases of all entries, in the order of their numbers. -/
def cases (table : FunctionTable) : List String :=
  table.entries.flatMap fun (id, symbol) => caseLines id symbol

/-- The gateway function. -/
def lines (config : Config) (table : FunctionTable) : List String :=
  opening ++ cases table ++ closing config

end MexBridge.Gateway
