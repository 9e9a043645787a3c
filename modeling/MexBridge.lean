import MexBridge.Text.Blank
import MexBridge.Text.Buffer
import MexBridge.Text.Literal
import MexBridge.Text.Quoted
import MexBridge.Magnitude
import MexBridge.OrderedMap
import MexBridge.Name.Identifier
import MexBridge.Name.Symbol
import MexBridge.Diagnostic
import MexBridge.Config
import MexBridge.Signature.Overload
import MexBridge.Signature.Shadowing
import MexBridge.FunctionTable
import MexBridge.FunctionTable.Request
import MexBridge.Registry.Basic
import MexBridge.Registry.Call
import MexBridge.Native.Function
import MexBridge.Native.Gateway
import MexBridge.Proxy.ClassFile
import MexBridge.Emission.Method
import MexBridge.Session
import MexBridge.FileSystem.Operations
import MexBridge.Publication
import MexBridge.Proofs.Name.EntrySymbol
import MexBridge.Proofs.Signature.WellFormed
import MexBridge.Proofs.Signature.Shadowing
import MexBridge.Proofs.Traversal.Station
import MexBridge.Proofs.Traversal.Passage
import MexBridge.Proofs.Traversal.Listing
import MexBridge.Proofs.Emission.Following
import MexBridge.Proofs.Emission.ClassFiles
import MexBridge.Proofs.Emission.Placing
import MexBridge.Proofs.Emission.ProxyText
import MexBridge.Proofs.Emission.MethodStops
import MexBridge.Proofs.Emission.MethodCourse
import MexBridge.Proofs.Session.Run
import MexBridge.Proofs.Session.Outcome
import MexBridge.Proofs.Session.Trace
import MexBridge.Proofs.Session.Reach
import MexBridge.Proofs.Text.Between
import MexBridge.Proofs.Text.Pieces
import MexBridge.Proofs.Text.Outline
import MexBridge.Proofs.Reading.Wrapper
import MexBridge.Proofs.Name.LeadingWord
import MexBridge.Proofs.Name.Words
import MexBridge.Proofs.Config.Acceptance
import MexBridge.Proofs.Reading.Proxy
import MexBridge.Proofs.Reading.Blocks
import MexBridge.Proofs.Proxy.Nesting
import MexBridge.Proofs.Proxy.Faces
import MexBridge.Proofs.Session.Artifacts
import MexBridge.Proofs.Session.Numbering
import MexBridge.Proofs.Session.Dependence
import MexBridge.Proofs.Session.StartNumber
import MexBridge.Proofs.Native.Statements
import MexBridge.Proofs.Proxy.Dispatch
import MexBridge.Proofs.Proxy.Selection
import MexBridge.Proofs.Proxy.NumericClasses
import MexBridge.Proofs.Proxy.BranchConditions
import MexBridge.Proofs.Session.Agreement
import MexBridge.Proofs.Session.Composition
import MexBridge.Proofs.Registry.Log
import MexBridge.Proofs.Registry.Refinement
import MexBridge.Proofs.Registry.Registrations
import MexBridge.Proofs.FunctionTable.Numbering
import MexBridge.Proofs.FunctionTable.History
import MexBridge.Proofs.FunctionTable.EntrySymbols
import MexBridge.Proofs.Session.Registered
import MexBridge.Proofs.Native.HandleAliases
import MexBridge.Proofs.Native.LocalNames
import MexBridge.Proofs.Session.ClassNames
import MexBridge.Proofs.Session.HandleNames
import MexBridge.Proofs.FileSystem.Directories
import MexBridge.Proofs.FileSystem.Children
import MexBridge.Proofs.Publication.Course
import MexBridge.Proofs.Publication.AllOrNone
import MexBridge.Proofs.Publication.Complete
import MexBridge.Proofs.Publication.Abort
