import MexBridge.Proofs.Proxy.Faces
import MexBridge.Proofs.Session.Numbering
import MexBridge.Proofs.Session.Reach
import MexBridge.Proofs.Text.Outline

/-!
# Sessions that differ in their first number

The first number of a session decides no more than the numbers in its files.  What a session writes
is filled into one `GenerationOutline` for every first number (`exists_outline`), and the holes of
that outline are known: the calls of the class files, the signatures of the native functions and the
cases of the gateway.  Failures do not depend on the first number either, as far as the numbers can
be written; `Session.equivariance` says so for two sessions.

`Session.equivariance_small_last` shows what happens where a number cannot be written.
-/

set_option autoImplicit false

namespace MexBridge

/-! ## Class files -/

/-- Where the number stands in the line that calls an overload. -/
def OverloadFace.callHole (config : Config) (face : OverloadFace) (offset : Nat) : NumberHole where
  front := config.indentation (ClassFile.functionLevel + 2) ++ face.binding.text ++
    config.wrapperName ++ "("
  offset := offset
  back := ", varargin\x7b:\x7d);"

namespace Outlined

variable (config : Config) (matlabClass : String)

/-- The branches of a function, the first of which is behind so many others. -/
theorem branches (overloads : List OverloadFace) (offset position : Nat) :
    Outlined
      (fun first => (((overloads.zipIdx (first + offset)).map fun (overload, id) =>
        overload.branch id).zipIdx position).flatMap fun (branch, place) =>
          (branch.lines config.wrapperName (ProxyFunction.keyword place)
            ClassFile.functionLevel).map (NestedLine.text config))
      ((overloads.zipIdx offset).map fun (overload, place) =>
        overload.callHole config place) := by
  induction overloads generalizing offset position with
  | nil => exact fixed []
  | cons overload rest ih =>
    -- the keyword goes by the place in the function, which no first number moves
    have test := fixed [NestedLine.text config ⟨ClassFile.functionLevel + 1,
      ProxyFunction.keyword position ++ " " ++ branchCondition overload.dispatchKey.2⟩]
    have call : Outlined
        (fun first => [NestedLine.text config ⟨ClassFile.functionLevel + 2,
          (overload.branch (first + offset)).call config.wrapperName⟩])
        [overload.callHole config offset] := (hole _).congr fun first => by
      simp [NestedLine.text, ProxyBranch.call, OverloadFace.branch, OverloadFace.callHole,
        NumberHole.filled, String.append_assoc]
    exact ((test.append call).append (ih (offset + 1) (position + 1))).congr fun first => by
      rw [List.zipIdx_cons, List.map_cons, List.zipIdx_cons, List.flatMap_cons, Nat.add_assoc]
      rfl

theorem proxyFunction (face : MethodFace) (offset : Nat) :
    Outlined
      (fun first => (face.proxyFunction matlabClass (first + offset)).lines config
        ClassFile.functionLevel)
      ((face.overloads.zipIdx offset).map fun (overload, place) =>
        overload.callHole config place) := by
  have opening := fixed [NestedLine.text config ⟨ClassFile.functionLevel,
    "function varargout = " ++ Name.capitalized face.name ++ "(varargin)"⟩]
  have closing := fixed ([⟨ClassFile.functionLevel + 1, "else"⟩,
    ⟨ClassFile.functionLevel + 2, "error('Arguments do not match any overload of function " ++
      matlabClass ++ "." ++ Name.capitalized face.name ++ "');"⟩,
    ⟨ClassFile.functionLevel + 1, "end"⟩,
    ⟨ClassFile.functionLevel, "end"⟩].map (NestedLine.text config))
  have whole := (opening.append (branches config face.overloads offset 0)).append closing
  rw [List.append_nil] at whole
  refine whole.congr fun first => ?_
  rw [ProxyFunction.lines, ProxyFunction.nestedLines, ProxyFunction.branchLines,
    List.mapIdx_eq_zipIdx_map, ← List.flatMap_def, List.map_append, List.map_cons,
    List.map_flatMap]
  rfl

/-- The functions behind the first one, each with an empty line in front of it. -/
theorem furtherLines (faces : List MethodFace) (offset : Nat) :
    Outlined
      (fun first => (ClassFile.furtherLines config.wrapperName
        (MethodFace.proxyFunctions matlabClass (first + offset) faces)).map
          (NestedLine.text config))
      (((faces.flatMap MethodFace.overloads).zipIdx offset).map fun (overload, place) =>
        overload.callHole config place) := by
  induction faces generalizing offset with
  | nil => exact fixed []
  | cons face rest ih =>
    have separator := fixed [ClassFile.separator.text config]
    have whole := (separator.append (proxyFunction config matlabClass face offset)).append
      (ih (offset + face.overloads.length))
    rw [List.nil_append, ← List.map_append, ← List.zipIdx_append, ← List.flatMap_cons] at whole
    refine whole.congr fun first => ?_
    rw [MethodFace.proxyFunctions, ClassFile.furtherLines, List.flatMap_cons, List.map_append,
      List.map_cons, Nat.add_assoc]
    rfl

/-- **A class file is outlined**, with a hole for each overload of its class. -/
theorem classFile (naming : ClassNaming) (faces : List MethodFace) (offset : Nat) :
    Outlined
      (fun first => ClassFile.lines config naming
        (MethodFace.proxyFunctions matlabClass (first + offset) faces))
      (((faces.flatMap MethodFace.overloads).zipIdx offset).map fun (overload, place) =>
        overload.callHole config place) := by
  have header := fixed ((ClassFile.header naming).map (NestedLine.text config))
  have closing := fixed [ClassFile.closing.text config]
  cases faces with
  | nil =>
    refine (header.append closing).congr fun first => ?_
    rw [ClassFile.lines, ClassFile.nestedLines, List.map_append, List.map_append]
    rfl
  | cons face rest =>
    have opening := fixed [ClassFile.blockOpening.text config]
    have blockEnd := fixed [ClassFile.blockClosing.text config]
    have functions := (proxyFunction config matlabClass face offset).append
      (furtherLines config matlabClass rest (offset + face.overloads.length))
    rw [← List.map_append, ← List.zipIdx_append, ← List.flatMap_cons] at functions
    have whole := (header.append ((opening.append functions).append blockEnd)).append closing
    rw [List.nil_append, List.append_nil, List.append_nil, List.nil_append] at whole
    refine whole.congr fun first => ?_
    rw [ClassFile.lines, ClassFile.nestedLines, MethodFace.proxyFunctions, ClassFile.blockLines,
      List.map_append, List.map_append, List.map_cons, List.map_append, List.map_append,
      Nat.add_assoc]
    rfl

end Outlined

/-- The outline of the files of a session: the forms of the lines of each class file, under the name
of its class, and those of the wrapper file. -/
structure GenerationOutline where
  proxies : List (String × List LineForm)
  wrapper : List LineForm

namespace GenerationOutline

/-- The holes of the class files, in order. -/
def proxyHoles (outline : GenerationOutline) : List NumberHole :=
  outline.proxies.flatMap fun (_, forms) => forms.filterMap LineForm.hole?

/-- The holes of the wrapper file, in order. -/
def wrapperHoles (outline : GenerationOutline) : List NumberHole :=
  outline.wrapper.filterMap LineForm.hole?

/-- Files are those of an outline, with the numbers from the first one on filled in. -/
structure Fills (outline : GenerationOutline) (first : Nat) (generated : Generated) : Prop where
  proxies : generated.proxies =
    outline.proxies.map fun (name, forms) => (name, ⟨forms.map (LineForm.filled first)⟩)
  wrapper : generated.wrapper.lines = outline.wrapper.map (LineForm.filled first)

end GenerationOutline

/-- The class files of a snapshot are filled from forms, with a hole for each overload. -/
theorem exists_proxyForms (config : Config) (faces : List ClassFace) (offset : Nat) :
    ∃ proxies : List (String × List LineForm),
      (∀ first, classFiles config (ClassFace.functions (first + offset) faces) =
        proxies.map fun (name, forms) => (name, ⟨forms.map (LineForm.filled first)⟩)) ∧
      (proxies.flatMap fun (_, forms) => forms.filterMap LineForm.hole?) =
        ((faces.flatMap fun face => face.methods.flatMap MethodFace.overloads).zipIdx offset).map
          fun (overload, place) => overload.callHole config place := by
  induction faces generalizing offset with
  | nil => exact ⟨[], fun _ => rfl, rfl⟩
  | cons face rest ih =>
    obtain ⟨forms, filled, holes⟩ :=
      Outlined.classFile config face.matlabName face.naming face.methods offset
    obtain ⟨others, filledOthers, otherHoles⟩ := ih (offset + face.overloadCount)
    refine ⟨(face.matlabName, forms) :: others, fun first => ?_, ?_⟩
    · have later := filledOthers first
      rw [← Nat.add_assoc] at later
      exact congrArg₂ List.cons (Prod.ext rfl (congrArg TextBuffer.mk (filled first))) later
    · rw [List.flatMap_cons, List.flatMap_cons, List.zipIdx_append, List.map_append]
      exact congrArg₂ (· ++ ·) holes otherHoles

/-! ## The wrapper file -/

namespace ListedOverload

/-- The entry symbol of an overload up to its number. -/
def symbolPrefix (listed : ListedOverload) : String :=
  listed.naming.matlabName ++ "_" ++ listed.method ++ "_"

theorem symbol_eq (listed : ListedOverload) (id : Nat) :
    listed.symbol id = listed.symbolPrefix ++ toString id := rfl

/-- Where the number stands in the signature of the native function. -/
def signatureHole (listed : ListedOverload) (offset : Nat) : NumberHole where
  front := "void " ++ listed.symbolPrefix
  offset := offset
  back := "(" ++ NativeFunction.boundaryParameters ++ ")"

/-- Where the number stands in the two lines of a case. -/
def caseHoles (listed : ListedOverload) (offset : Nat) : List NumberHole :=
  [⟨"    case ", offset, ":"⟩,
    ⟨"      " ++ listed.symbolPrefix, offset, "(nargout, out, nargin-1, in+1);"⟩]

end ListedOverload

namespace Outlined

/-- A native function has its number in its signature alone. -/
theorem nativeFunction (config : Config) (placement : Placement) (offset : Nat) :
    Outlined (fun first => (placement.function config (first + offset)).lines)
      [placement.listed.signatureHole offset] := by
  have body := fixed (["\x7b"] ++ (placement.function config 0).body.map (fun statement =>
    NativeFunction.margin ++ statement.text) ++ ["\x7d", ""])
  refine ((hole (placement.listed.signatureHole offset)).append body).congr fun first => ?_
  have signature : "void " ++ placement.symbol (first + offset) ++ "(" ++
      NativeFunction.boundaryParameters ++ ")" =
        (placement.listed.signatureHole offset).filled first := by
    change "void " ++ (placement.listed.symbolPrefix ++ toString (first + offset)) ++ "(" ++ _ ++
      ")" = _
    simp [ListedOverload.signatureHole, NumberHole.filled, String.append_assoc]
  rw [← signature]
  rfl

/-- A case of the gateway has its number in its label and in the symbol that it calls. -/
theorem gatewayCase (listed : ListedOverload) (offset : Nat) :
    Outlined (fun first => Gateway.caseLines (first + offset) (listed.symbol (first + offset)))
      (listed.caseHoles offset) := by
  have label := hole ⟨"    case ", offset, ":"⟩
  have call := hole ⟨"      " ++ listed.symbolPrefix, offset, "(nargout, out, nargin-1, in+1);"⟩
  refine ((label.append call).append (fixed ["      break;"])).congr fun first => ?_
  simp [Gateway.caseLines, NumberHole.filled, ListedOverload.symbol_eq, String.append_assoc]

/-- The lines of placements that are numbered through. -/
theorem placements (lines : Placement → Nat → List String)
    (holes : ListedOverload → Nat → List NumberHole)
    (each : ∀ placement offset,
      Outlined (fun first => lines placement (first + offset)) (holes placement.listed offset))
    (placements : List Placement) :
    Outlined (fun first => (Placement.numbered lines first placements).flatten)
      ((placements.map Placement.listed).zipIdx.flatMap fun (listed, place) =>
        holes listed place) := by
  have outlined := numbered_flatMap lines (fun placement place => holes placement.listed place)
    (fun placement (_ : placement ∈ placements) => each placement) 0
  rw [List.zipIdx_map, List.flatMap_map]
  refine outlined.congr fun first => ?_
  rw [Placement.numbered, ← List.flatMap_def]
  rfl

/-- **The wrapper file is outlined**, with a hole for each signature and two for each case. -/
theorem wrapper (config : Config) (placements : List Placement) :
    Outlined
      (fun first => Gateway.prologue config ++
        (Placement.numbered (Placement.function config) first placements).flatMap
          NativeFunction.lines ++
        (Gateway.opening ++
          (Placement.numbered (fun placement id => (id, placement.symbol id)) first
            placements).flatMap (fun (id, symbol) => Gateway.caseLines id symbol) ++
          Gateway.closing config))
      (((placements.map Placement.listed).zipIdx.map fun (listed, place) =>
          listed.signatureHole place) ++
        (placements.map Placement.listed).zipIdx.flatMap fun (listed, place) =>
          listed.caseHoles place) := by
  have functions := Outlined.placements (fun placement id => (placement.function config id).lines)
    (fun listed place => [listed.signatureHole place]) (nativeFunction config) placements
  have cases := Outlined.placements
    (fun placement id => Gateway.caseLines id (placement.symbol id))
    ListedOverload.caseHoles (fun placement => gatewayCase placement.listed) placements
  have whole := ((fixed (Gateway.prologue config)).append functions).append
    (((fixed Gateway.opening).append cases).append (fixed (Gateway.closing config)))
  rw [List.nil_append, List.nil_append, List.append_nil, ← List.map_eq_flatMap] at whole
  refine whole.congr fun first => ?_
  rw [List.flatMap_def, List.flatMap_def, Placement.map_numbered, Placement.map_numbered]

end Outlined

/-! ## Sessions -/

/-- The overloads of the faces of a snapshot are those of its listed classes. -/
theorem Snapshot.overloads_faces (snapshot : Snapshot) :
    (snapshot.faces.flatMap fun face => face.methods.flatMap MethodFace.overloads) =
      snapshot.listedOverloads.map fun listed => listed.overload.face := by
  have own : ∀ (naming : ClassNaming) (declared : StaticMethod),
      declared.face.overloads =
        (declared.listed naming).map fun listed => listed.overload.face := by
    intro naming declared
    rw [StaticMethod.face, ← declared.map_overload_listed naming, List.map_map]
    rfl
  rw [faces, List.flatMap_map, listedOverloads, List.map_flatMap]
  refine List.flatMap_congr fun naming _ => ?_
  rw [List.flatMap_map, List.map_flatMap]
  exact List.flatMap_congr fun declared _ => own naming declared

namespace Session

/-- The session with another first number. -/
def numberedFrom (session : Session) (first : Nat) : Session :=
  { session with startId := first }

variable {session : Session}

/-- **The files of a session are filled from one outline**, whatever the first number. -/
theorem exists_outline (clear : ∀ station ∈ session.snapshot.stations, station.Clear) :
    ∃ outline : GenerationOutline,
      (∀ first, outline.Fills first (session.numberedFrom first).assembled) ∧
      outline.proxyHoles = (session.snapshot.listedOverloads.zipIdx.map fun (listed, place) =>
        listed.overload.face.callHole session.config place) ∧
      outline.wrapperHoles =
        (session.snapshot.listedOverloads.zipIdx.map fun (listed, place) =>
          listed.signatureHole place) ++
        session.snapshot.listedOverloads.zipIdx.flatMap fun (listed, place) =>
          listed.caseHoles place := by
  obtain ⟨proxies, filled, holes⟩ := exists_proxyForms session.config session.snapshot.faces 0
  obtain ⟨wrapper, filledWrapper, wrapperHoles⟩ :=
    Outlined.wrapper session.config session.placements
  have listed : session.placements.map Placement.listed = session.snapshot.listedOverloads :=
    Snapshot.placements_stations clear
  rw [listed] at wrapperHoles
  refine ⟨⟨proxies, wrapper⟩, fun first => ⟨?_, ?_⟩, ?_, wrapperHoles⟩
  · rw [← filled first]
    exact classFiles_eq_ofFaces rfl rfl first clear
  · rw [← filledWrapper first, assembled, Gateway.lines, Gateway.cases, entries_table]
    rfl
  · rw [GenerationOutline.proxyHoles, holes, Snapshot.overloads_faces, List.zipIdx_map,
      List.map_map]
    rfl

/-- The entries of the table of a session without a hindrance. -/
theorem entries_numberedFrom (clear : ∀ station ∈ session.snapshot.stations, station.Clear)
    (first : Nat) :
    (session.numberedFrom first).assembled.table.entries =
      session.snapshot.listedOverloads.zipIdx.map fun (listed, place) =>
        (first + place, listed.symbolPrefix ++ toString (first + place)) := by
  have entries : (session.numberedFrom first).assembled.table.entries = _ := entries_listed clear
  have start : (session.numberedFrom first).first = first := rfl
  rw [entries, start, List.zipIdx_eq_map_add, List.map_map]
  rfl

/-- The outcome of a session from a first number on. -/
theorem fst_runWritable_numberedFrom (session : Session) (first : Nat) :
    (session.numberedFrom first).runWritable.1 =
      if session.snapshot.reach ≤ writingBound - first then
        match session.snapshot.hindrance? with
        | some violation => .error (.violation violation)
        | none => .ok (session.numberedFrom first).assembled
      else .error (.number .tooManyDigits) :=
  fst_runWritable (Int.natCast_nonneg first)

/-- The outcome of a session that comes to no number that cannot be written. -/
theorem fst_runWritable_of_writable {first : Nat}
    (writable : (session.numberedFrom first).runWritable.1 ≠ .error (.number .tooManyDigits)) :
    (session.numberedFrom first).runWritable.1 = match session.snapshot.hindrance? with
      | some violation => .error (.violation violation)
      | none => .ok (session.numberedFrom first).assembled := by
  have outcome := session.fst_runWritable_numberedFrom first
  split at outcome
  next => exact outcome
  next => exact absurd outcome writable

/-- **The first number decides no more than the numbers.**  Two sessions that differ in their first
numbers, and come to no number that cannot be written, fail for the same cause or both end well.  If
they end well, their files are filled from one outline, each with its own numbers: the class files
have the same names and the same lines, but for a number in the call of each overload; the wrapper
files have the same lines, but for a number in the signature of each native function and in the
label and the call of each case; and the tables have the same symbols up to their numbers. -/
theorem equivariance {s t : Nat}
    (writable : (session.numberedFrom s).runWritable.1 ≠ .error (.number .tooManyDigits))
    (otherWritable : (session.numberedFrom t).runWritable.1 ≠ .error (.number .tooManyDigits)) :
    (∀ fault, (session.numberedFrom s).runWritable.1 = .error fault ↔
      (session.numberedFrom t).runWritable.1 = .error fault) ∧
    ∀ first second, (session.numberedFrom s).runWritable.1 = .ok first →
      (session.numberedFrom t).runWritable.1 = .ok second →
      ∃ outline : GenerationOutline, outline.Fills s first ∧ outline.Fills t second ∧
        outline.proxyHoles = (session.snapshot.listedOverloads.zipIdx.map fun (listed, place) =>
          listed.overload.face.callHole session.config place) ∧
        outline.wrapperHoles =
          (session.snapshot.listedOverloads.zipIdx.map fun (listed, place) =>
            listed.signatureHole place) ++
          (session.snapshot.listedOverloads.zipIdx.flatMap fun (listed, place) =>
            listed.caseHoles place) ∧
        (first.table.entries = session.snapshot.listedOverloads.zipIdx.map fun (listed, place) =>
          (s + place, listed.symbolPrefix ++ toString (s + place))) ∧
        second.table.entries = session.snapshot.listedOverloads.zipIdx.map fun (listed, place) =>
          (t + place, listed.symbolPrefix ++ toString (t + place)) := by
  have own := fst_runWritable_of_writable writable
  have other := fst_runWritable_of_writable otherWritable
  cases hindrance : session.snapshot.hindrance? with
  | some violation =>
    simp only [hindrance] at own other
    rw [own, other]
    refine ⟨fun _ => Iff.rfl, ?_⟩
    rintro first second ⟨⟩
  | none =>
    have clear := Snapshot.hindrance?_eq_none_iff.1 hindrance
    simp only [hindrance] at own other
    rw [own, other]
    refine ⟨fun _ => ⟨nofun, nofun⟩, ?_⟩
    rintro first second ⟨⟩ ⟨⟩
    obtain ⟨outline, fills, proxyHoles, wrapperHoles⟩ := exists_outline clear
    exact ⟨outline, fills s, fills t, proxyHoles, wrapperHoles, entries_numberedFrom clear s,
      entries_numberedFrom clear t⟩

theorem reach_small : (small 0).snapshot.reach = 2 := by
  decide

theorem hindrance?_small : (small 0).snapshot.hindrance? = none := by
  decide

/-- The small session ends well from every number that leaves room for two. -/
theorem fst_runWritable_small {first : Nat} (room : 2 ≤ writingBound - first) :
    ((small 0).numberedFrom first).runWritable.1 =
      .ok ((small 0).numberedFrom first).assembled := by
  rw [fst_runWritable_numberedFrom, reach_small, if_pos room, hindrance?_small]

/-- Two overloads, numbered from zero and from seven on: the symbols are the same up to the
numbers. -/
theorem equivariance_small :
    ((small 0).numberedFrom 0).runWritable.1 ≠ .error (.number .tooManyDigits) ∧
    ((small 0).numberedFrom 7).runWritable.1 ≠ .error (.number .tooManyDigits) ∧
    ∃ first second, ((small 0).numberedFrom 0).runWritable.1 = .ok first ∧
      ((small 0).numberedFrom 7).runWritable.1 = .ok second ∧
      first.table.entries = [(0, "Box_scaled_0"), (1, "Box_scaled_1")] ∧
      second.table.entries = [(7, "Box_scaled_7"), (8, "Box_scaled_8")] := by
  have nine : 9 ≤ writingBound := by decide +kernel
  have fromZero := fst_runWritable_small (show 2 ≤ writingBound - 0 by omega)
  have fromSeven := fst_runWritable_small (show 2 ≤ writingBound - 7 by omega)
  have writable : ((small 0).numberedFrom 0).runWritable.1 ≠ .error (.number .tooManyDigits) := by
    rw [fromZero]
    exact nofun
  have otherWritable :
      ((small 0).numberedFrom 7).runWritable.1 ≠ .error (.number .tooManyDigits) := by
    rw [fromSeven]
    exact nofun
  obtain ⟨_, _, _, _, _, entries, otherEntries⟩ :=
    (equivariance writable otherWritable).2 _ _ fromZero fromSeven
  exact ⟨writable, otherWritable, _, _, fromZero, fromSeven, entries.trans (by decide),
    otherEntries.trans (by decide)⟩

/-- From zero on two overloads are numbered and the session ends well; from the last number on that
can be written the second overload has none, and the same session fails. -/
theorem equivariance_small_last :
    Settings.resolve { moduleName := "shop" } = .ok (small 0).config ∧
    (∃ generated, ((small 0).numberedFrom 0).runWritable.1 = .ok generated) ∧
    ((small 0).numberedFrom (writingBound - 1)).runWritable.1 =
      .error (.number .tooManyDigits) := by
  have two : 2 ≤ writingBound := by decide +kernel
  refine ⟨resolve_small 0, ⟨_, fst_runWritable_small (by omega)⟩, ?_⟩
  have beyond : ¬ 2 ≤ writingBound - (writingBound - 1) := by omega
  rw [fst_runWritable_numberedFrom, reach_small, if_neg beyond]

end Session

end MexBridge
