import MexBridge.Proofs.Name.LeadingWord

/-!
# Words and chains of words

A word is spelled here without regard to how names are checked: an ASCII letter or an underscore,
and then letters, digits and underscores.  A name is accepted exactly if it is a word with one line
end at most behind it (`isIdentifier_iff`), and a qualified name exactly if it is a chain of such
lines (`isQualifiedName_iff`).  A line is a word, and a chain of lines is a chain of words, exactly
if no line end is in it.
-/

set_option autoImplicit false

namespace MexBridge.Name

/-! ## Words -/

/-- The characters that begin a word. -/
def IsLetter (character : Char) : Prop :=
  'A' ≤ character ∧ character ≤ 'Z' ∨ 'a' ≤ character ∧ character ≤ 'z' ∨ character = '_'

/-- The characters behind the first one of a word. -/
def IsLetterOrDigit (character : Char) : Prop :=
  IsLetter character ∨ '0' ≤ character ∧ character ≤ '9'

/-- A plain ASCII identifier, all of it. -/
def IsWord (text : String) : Prop :=
  ∃ first rest, text.toList = first :: rest ∧ IsLetter first ∧
    ∀ character ∈ rest, IsLetterOrDigit character

/-- A word, or a word with a line end behind it. -/
def IsWordLine (text : String) : Prop :=
  IsWord text ∨ ∃ word, IsWord word ∧ text = word ++ "\n"

theorem isInitial_iff {character : Char} : isInitial character = true ↔ IsLetter character := by
  change ((decide ('A'.val ≤ character.val ∧ character.val ≤ 'Z'.val) ||
    (decide ('a'.val ≤ character.val) && decide (character.val ≤ 'z'.val))) ||
      character == '_') = true ↔ _
  simp only [Bool.or_eq_true, Bool.and_eq_true, decide_eq_true_eq, beq_iff_eq, IsLetter,
    Char.le_def, or_assoc]

theorem isContinuing_iff {character : Char} :
    isContinuing character = true ↔ IsLetterOrDigit character := by
  have digit : character.isDigit = true ↔ '0' ≤ character ∧ character ≤ '9' := by
    simp only [Char.isDigit, Bool.and_eq_true, decide_eq_true_eq, Char.le_def]
  have parts : isContinuing character = true ↔
      isInitial character = true ∨ character.isDigit = true := by
    simp only [isContinuing, isInitial, Char.isAlphanum, Bool.or_eq_true]
    tauto
  rw [parts, isInitial_iff, digit]
  rfl

theorem IsLetterOrDigit.ne_lineEnd {character : Char} (letter : IsLetterOrDigit character) :
    character ≠ '\n' := by
  rintro rfl
  exact absurd (isContinuing_iff.2 letter) (by decide)

theorem IsLetterOrDigit.ne_colon {character : Char} (letter : IsLetterOrDigit character) :
    character ≠ ':' := by
  rintro rfl
  exact absurd (isContinuing_iff.2 letter) (by decide)

theorem IsWord.letters {text : String} (word : IsWord text) :
    ∀ character ∈ text.toList, IsLetterOrDigit character := by
  obtain ⟨first, rest, characters, initial, letters⟩ := word
  rw [characters]
  exact List.forall_mem_cons.2 ⟨.inl initial, letters⟩

theorem IsWord.append {text ending : String} (word : IsWord text)
    (letters : ∀ character ∈ ending.toList, IsLetterOrDigit character) :
    IsWord (text ++ ending) := by
  obtain ⟨first, rest, characters, initial, inside⟩ := word
  refine ⟨first, rest ++ ending.toList, ?_, initial, List.forall_mem_append.2 ⟨inside, letters⟩⟩
  rw [String.toList_append, characters]
  rfl

/-- A word has no line end in it. -/
theorem IsWord.lineEnd_not_mem {text : String} (word : IsWord text) : '\n' ∉ text.toList :=
  fun member => (word.letters _ member).ne_lineEnd rfl

/-- A line is a word exactly if it has no line end. -/
theorem IsWordLine.isWord_iff {text : String} (line : IsWordLine text) :
    IsWord text ↔ '\n' ∉ text.toList := by
  refine ⟨IsWord.lineEnd_not_mem, fun ended => ?_⟩
  rcases line with word | ⟨word, _, rfl⟩
  · exact word
  · exact absurd (by simp) ended

theorem IsWordLine.colon_not_mem {text : String} (line : IsWordLine text) : ':' ∉ text.toList := by
  rcases line with word | ⟨word, spelled, rfl⟩
  · exact fun member => (word.letters _ member).ne_colon rfl
  · rw [String.toList_append, List.mem_append]
    rintro (member | ending)
    · exact (spelled.letters _ member).ne_colon rfl
    · exact absurd ending (by decide)

/-! ## Identifiers -/

theorem continuesToEnd_of_word {word ending : List Char}
    (letters : ∀ character ∈ word, isContinuing character = true)
    (ends : ending = [] ∨ ending = ['\n']) : continuesToEnd (word ++ ending) = true := by
  induction word with
  | nil => rcases ends with rfl | rfl <;> rfl
  | cons character rest ih =>
    obtain ⟨letter, later⟩ := List.forall_mem_cons.1 letters
    simp [continuesToEnd, letter, ih later]

theorem areIdentifier_of_word {text : String} (word : IsWord text) {ending : List Char}
    (ends : ending = [] ∨ ending = ['\n']) : areIdentifier (text.toList ++ ending) = true := by
  obtain ⟨first, rest, characters, initial, letters⟩ := word
  rw [characters, List.cons_append, areIdentifier, isInitial_iff.2 initial, Bool.true_and]
  exact continuesToEnd_of_word
    (fun letter member => isContinuing_iff.2 (letters letter member)) ends

/-- **A name is accepted exactly if it is the line of a word.** -/
theorem isIdentifier_iff {text : String} : isIdentifier text = true ↔ IsWordLine text := by
  unfold isIdentifier
  constructor
  · intro identifier
    cases characters : text.toList with
    | nil =>
      rw [characters] at identifier
      cases identifier
    | cons first rest =>
      rw [characters, areIdentifier, Bool.and_eq_true] at identifier
      obtain ⟨word, continuing, shape⟩ := exists_word_of_continuesToEnd identifier.2
      have letters : ∀ character ∈ word, IsLetterOrDigit character :=
        fun letter member => isContinuing_iff.1 (continuing letter member)
      rcases shape with rfl | rfl
      · exact .inl ⟨first, rest, characters, isInitial_iff.1 identifier.1, letters⟩
      · refine .inr ⟨String.ofList (first :: word),
          ⟨first, word, String.toList_ofList, isInitial_iff.1 identifier.1, letters⟩, ?_⟩
        apply String.toList_inj.1
        rw [characters, String.toList_append, String.toList_ofList]
        rfl
  · rintro (word | ⟨word, spelled, rfl⟩)
    · have identifier := areIdentifier_of_word word (.inl rfl)
      rwa [List.append_nil] at identifier
    · rw [String.toList_append]
      exact areIdentifier_of_word spelled (.inr rfl)

/-- A word is a name that is accepted and has no line end in it. -/
theorem isWord_iff {text : String} :
    IsWord text ↔ isIdentifier text = true ∧ '\n' ∉ text.toList := by
  rw [isIdentifier_iff]
  constructor
  · intro word
    exact ⟨.inl word, word.lineEnd_not_mem⟩
  · rintro ⟨line, unended⟩
    exact line.isWord_iff.2 unended

instance : DecidablePred IsWord := fun _ => decidable_of_iff _ isWord_iff.symm

/-! ## Qualified names -/

/-- A chain of one or more texts with `::` between them. -/
def IsChainOf (word : String → Prop) (text : String) : Prop :=
  ∃ parts : List String, parts ≠ [] ∧ (∀ part ∈ parts, word part) ∧
    text = String.intercalate "::" parts

theorem toList_chain (parts : List String) :
    (String.intercalate "::" parts).toList = joinScopes (parts.map String.toList) :=
  String.toList_intercalate

theorem splitScopes_cons {character : Char} (other : character ≠ ':') (rest : List Char) :
    splitScopes (character :: rest) = Text.prependToFirst character (splitScopes rest) := by
  cases rest with
  | nil => simp [splitScopes]
  | cons => simp [splitScopes, other]

/-- A piece without a colon is cut off at the first mark behind it. -/
theorem splitScopes_append {piece : List Char} (free : ':' ∉ piece) (rest : List Char) :
    splitScopes (piece ++ ':' :: ':' :: rest) = piece :: splitScopes rest := by
  induction piece with
  | nil => rfl
  | cons character others ih =>
    rw [List.mem_cons, not_or] at free
    rw [List.cons_append, splitScopes_cons (Ne.symm free.1), ih free.2]
    rfl

theorem splitScopes_of_free {piece : List Char} (free : ':' ∉ piece) :
    splitScopes piece = [piece] := by
  induction piece with
  | nil => rfl
  | cons character others ih =>
    rw [List.mem_cons, not_or] at free
    rw [splitScopes_cons (Ne.symm free.1), ih free.2]
    rfl

/-- Pieces without colons are found again between the marks. -/
theorem splitScopes_joinScopes {pieces : List (List Char)} (nonempty : pieces ≠ [])
    (free : ∀ piece ∈ pieces, ':' ∉ piece) : splitScopes (joinScopes pieces) = pieces := by
  induction pieces with
  | nil => exact absurd rfl nonempty
  | cons piece rest ih =>
    obtain ⟨own, others⟩ := List.forall_mem_cons.1 free
    cases rest with
    | nil =>
      rw [joinScopes, List.intercalate_singleton]
      exact splitScopes_of_free own
    | cons second further =>
      have later := ih (List.cons_ne_nil _ _) others
      rw [joinScopes, List.intercalate_cons_cons, List.append_assoc]
      change splitScopes (piece ++ ':' :: ':' :: joinScopes (second :: further)) = _
      rw [splitScopes_append own, later]

/-- **A qualified name is accepted exactly if it is a chain of such lines.** -/
theorem isQualifiedName_iff {text : String} :
    isQualifiedName text = true ↔ IsChainOf IsWordLine text := by
  rw [isQualifiedName, List.all_eq_true]
  constructor
  · intro each
    refine ⟨(splitScopes text.toList).map String.ofList, ?_, ?_, ?_⟩
    · exact fun empty => splitScopes_ne_nil _ (List.map_eq_nil_iff.1 empty)
    · intro part member
      obtain ⟨piece, among, rfl⟩ := List.mem_map.1 member
      rw [← isIdentifier_iff, isIdentifier, String.toList_ofList]
      exact each piece among
    · apply String.toList_inj.1
      rw [toList_chain, List.map_map]
      have same : String.toList ∘ String.ofList = id := funext fun _ => String.toList_ofList
      rw [same, List.map_id, joinScopes_splitScopes]
  · rintro ⟨parts, nonempty, lines, rfl⟩
    rw [toList_chain, splitScopes_joinScopes]
    · intro piece member
      obtain ⟨part, among, rfl⟩ := List.mem_map.1 member
      exact isIdentifier_iff.2 (lines part among)
    · exact fun empty => nonempty (List.map_eq_nil_iff.1 empty)
    · intro piece member
      obtain ⟨part, among, rfl⟩ := List.mem_map.1 member
      exact (lines part among).colon_not_mem

/-- The characters of joined pieces, the marks apart, are those of the pieces. -/
theorem mem_joinScopes_iff {character : Char} (other : character ≠ ':')
    {pieces : List (List Char)} :
    character ∈ joinScopes pieces ↔ ∃ piece ∈ pieces, character ∈ piece := by
  induction pieces with
  | nil => simp [joinScopes]
  | cons piece rest ih =>
    cases rest with
    | nil => simp [joinScopes]
    | cons second further =>
      have parts : joinScopes (piece :: second :: further) =
          piece ++ [':', ':'] ++ joinScopes (second :: further) := by
        rw [joinScopes, List.intercalate_cons_cons]
        rfl
      rw [parts, List.mem_append, List.mem_append, ih, List.exists_mem_cons_iff]
      simp [other]

/-- Removing the marks between pieces without colons leaves the pieces. -/
theorem filter_joinScopes {pieces : List (List Char)} (free : ∀ piece ∈ pieces, ':' ∉ piece) :
    (joinScopes pieces).filter (fun character => character ≠ ':') = pieces.flatten := by
  have kept : ∀ piece : List Char, ':' ∉ piece →
      piece.filter (fun character => character ≠ ':') = piece := by
    intro piece own
    rw [List.filter_eq_self]
    intro character member
    rw [decide_eq_true_eq]
    exact fun same => own (same ▸ member)
  induction pieces with
  | nil => rfl
  | cons piece rest ih =>
    obtain ⟨own, others⟩ := List.forall_mem_cons.1 free
    have later := ih others
    cases rest with
    | nil =>
      rw [joinScopes, List.intercalate_singleton, kept piece own, List.flatten_singleton]
    | cons second further =>
      have marks : [':', ':'].filter (fun character => character ≠ ':') = [] := by decide
      rw [joinScopes] at later ⊢
      rw [List.intercalate_cons_cons, List.filter_append, List.filter_append, kept piece own,
        marks, List.append_nil, later]
      rfl

/-- A chain of lines is one of words exactly if no line end is in it. -/
theorem isChainOf_isWord_iff {text : String} :
    IsChainOf IsWord text ↔ IsChainOf IsWordLine text ∧ '\n' ∉ text.toList := by
  have ended : ∀ parts : List String, '\n' ∈ (String.intercalate "::" parts).toList ↔
      ∃ part ∈ parts, '\n' ∈ part.toList := by
    intro parts
    rw [toList_chain, mem_joinScopes_iff (by decide)]
    simp
  constructor
  · rintro ⟨parts, nonempty, words, rfl⟩
    refine ⟨⟨parts, nonempty, fun part member => .inl (words part member), rfl⟩, ?_⟩
    rw [ended]
    rintro ⟨part, member, lineEnd⟩
    exact (words part member).lineEnd_not_mem lineEnd
  · rintro ⟨⟨parts, nonempty, lines, rfl⟩, unended⟩
    rw [ended] at unended
    exact ⟨parts, nonempty, fun part member =>
      (lines part member).isWord_iff.2 fun lineEnd => unended ⟨part, member, lineEnd⟩, rfl⟩

end MexBridge.Name
