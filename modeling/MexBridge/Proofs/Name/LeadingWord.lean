import MexBridge.Config
import MexBridge.Proofs.Text.Between

/-!
# The word at the beginning of a line

Generated lines are told apart by their first word and the character behind it
(`Name.afterWord`): a text that is read after an opening has the character of the opening there
(`between?_of_afterWord`).

The name of the wrapper is asked for or derived, and in both cases it begins with a word that
nothing but a line end can follow.  `Name.LeadsWithWord` says this, and
`leadsWithWord_wrapperName` shows it for accepted settings.
-/

set_option autoImplicit false

namespace MexBridge.Name

/-- The character behind the word with which a text begins. -/
def afterWord (text : String) : Option Char :=
  (text.toList.dropWhile isContinuing).head?

/-- What comes after the word does not depend on what follows further behind. -/
theorem afterWord_append {front back : String} {character : Char}
    (found : afterWord front = some character) : afterWord (front ++ back) = some character := by
  unfold afterWord at found ⊢
  obtain ⟨rest, dropped⟩ := List.head?_eq_some_iff.1 found
  have whole : front.toList = front.toList.takeWhile isContinuing ++ character :: rest := by
    rw [← dropped, List.takeWhile_append_dropWhile]
  have word : ∀ letter ∈ front.toList.takeWhile isContinuing, isContinuing letter = true :=
    List.all_eq_true.1 List.all_takeWhile
  have stops : isContinuing character = false := by
    have first := List.head?_dropWhile_not isContinuing front.toList
    rw [dropped] at first
    simpa using first
  rw [String.toList_append, whole, List.append_assoc, List.dropWhile_append_of_pos word,
    List.cons_append, List.dropWhile_cons_of_neg (by simp [stops])]
  rfl

/-- A text with another character behind its first word than the opening is not read. -/
theorem between?_of_afterWord {opening closing text : String} {character : Char}
    (found : afterWord opening = some character) (different : afterWord text ≠ some character) :
    Text.between? opening closing text = none := by
  refine Text.between?_eq_none_iff.2 fun inner same => different ?_
  rw [same, String.append_assoc]
  exact afterWord_append found

/-- A text that begins with a word, and has nothing or a line end behind it. -/
def LeadsWithWord (text : String) : Prop :=
  ∃ (first : Char) (word tail : List Char), text.toList = first :: word ++ tail ∧
    isInitial first = true ∧ (∀ letter ∈ word, isContinuing letter = true) ∧
    (tail = [] ∨ tail.head? = some '\n')

theorem isContinuing_of_isInitial {character : Char} (initial : isInitial character = true) :
    isContinuing character = true := by
  simp only [isInitial, isContinuing, Char.isAlphanum, Bool.or_eq_true] at initial ⊢
  rcases initial with letter | mark
  · exact .inl (.inl letter)
  · exact .inr mark

theorem isBlank_of_isInitial {character : Char} (initial : isInitial character = true) :
    Text.isBlank character = false := by
  have range : 65 ≤ character.toNat ∧ character.toNat ≤ 122 := by
    change ((decide ('A'.val ≤ character.val ∧ character.val ≤ 'Z'.val) ||
      (decide ('a'.val ≤ character.val) && decide (character.val ≤ 'z'.val))) ||
        character == '_') = true at initial
    simp only [Bool.or_eq_true, Bool.and_eq_true, decide_eq_true_eq, beq_iff_eq,
      UInt32.le_iff_toNat_le] at initial
    rcases initial with (⟨low, high⟩ | ⟨low, high⟩) | rfl
    · exact ⟨low, Nat.le_trans high (by decide)⟩
    · exact ⟨Nat.le_trans (by decide) low, high⟩
    · decide
  rw [Text.isBlank, ← Bool.not_eq_true, CodeRange.inAny_iff]
  rintro ⟨blank, member, low, high⟩
  simp only [Text.blankRanges, List.mem_cons, List.not_mem_nil, or_false] at member
  rcases member with rfl | rfl | rfl | rfl | rfl | rfl | rfl | rfl | rfl | rfl <;> simp at low high
  all_goals omega

theorem LeadsWithWord.begins {text : String} (leads : LeadsWithWord text) (rest : String) :
    ∃ first, (text ++ rest).toList.head? = some first ∧ isInitial first = true := by
  obtain ⟨first, word, tail, characters, initial, _⟩ := leads
  exact ⟨first, by rw [String.toList_append, characters]; rfl, initial⟩

/-- Behind the leading word comes what is appended, or a line end. -/
theorem LeadsWithWord.afterWord_append {text : String} (leads : LeadsWithWord text)
    (rest : String) (character : Char) (begins : rest.toList.head? = some character)
    (stops : isContinuing character = false) :
    afterWord (text ++ rest) = some character ∨ afterWord (text ++ rest) = some '\n' := by
  obtain ⟨first, word, tail, characters, initial, letters, ending⟩ := leads
  obtain ⟨others, list⟩ := List.head?_eq_some_iff.1 begins
  have whole : ∀ letter ∈ first :: word, isContinuing letter = true :=
    List.forall_mem_cons.2 ⟨isContinuing_of_isInitial initial, letters⟩
  unfold afterWord
  rw [String.toList_append, characters, List.append_assoc, List.dropWhile_append_of_pos whole]
  rcases ending with rfl | lineEnd
  · left
    rw [list, List.nil_append, List.dropWhile_cons_of_neg (by simp [stops])]
    rfl
  · right
    obtain ⟨later, rfl⟩ := List.head?_eq_some_iff.1 lineEnd
    rw [List.cons_append, List.dropWhile_cons_of_neg (by decide)]
    rfl

/-- Characters that continue an identifier to its end are a word, with one line end at most. -/
theorem exists_word_of_continuesToEnd {characters : List Char}
    (continues : continuesToEnd characters = true) :
    ∃ word, (∀ letter ∈ word, isContinuing letter = true) ∧
      (characters = word ∨ characters = word ++ ['\n']) := by
  induction characters with
  | nil => exact ⟨[], by simp, .inl rfl⟩
  | cons character rest ih =>
    simp only [continuesToEnd, Bool.or_eq_true, Bool.and_eq_true, beq_iff_eq,
      List.isEmpty_iff] at continues
    rcases continues with ⟨letter, later⟩ | ⟨rfl, rfl⟩
    · obtain ⟨word, letters, rfl | rfl⟩ := ih later
      · exact ⟨character :: rest, List.forall_mem_cons.2 ⟨letter, letters⟩, .inl rfl⟩
      · exact ⟨character :: word, List.forall_mem_cons.2 ⟨letter, letters⟩, .inr rfl⟩
    · exact ⟨[], by simp, .inr rfl⟩

/-- The characters of an identifier continue it, or end its line. -/
theorem isContinuing_or_lineEnd {name : String} (identifier : isIdentifier name = true)
    {letter : Char} (member : letter ∈ name.toList) :
    isContinuing letter = true ∨ letter = '\n' := by
  unfold isIdentifier at identifier
  cases characters : name.toList with
  | nil =>
    rw [characters] at identifier
    cases identifier
  | cons first rest =>
    rw [characters, areIdentifier, Bool.and_eq_true] at identifier
    rw [characters] at member
    obtain ⟨word, continuing, shape⟩ := exists_word_of_continuesToEnd identifier.2
    rcases List.mem_cons.1 member with rfl | later
    · exact .inl (isContinuing_of_isInitial identifier.1)
    · rcases shape with rfl | rfl
      · exact .inl (continuing letter later)
      · rcases List.mem_append.1 later with inside | lineEnd
        · exact .inl (continuing letter inside)
        · exact .inr (List.mem_singleton.1 lineEnd)

/-- An identifier leads with a word, also when more letters are appended. -/
theorem leadsWithWord_append {name : String} (identifier : isIdentifier name = true)
    (ending : String) (letters : ∀ letter ∈ ending.toList, isContinuing letter = true) :
    LeadsWithWord (name ++ ending) := by
  unfold isIdentifier at identifier
  cases characters : name.toList with
  | nil =>
    rw [characters] at identifier
    cases identifier
  | cons first rest =>
    rw [characters, areIdentifier, Bool.and_eq_true] at identifier
    obtain ⟨word, continuing, rfl | rfl⟩ := exists_word_of_continuesToEnd identifier.2
    · refine ⟨first, rest ++ ending.toList, [], ?_, identifier.1, ?_, .inl rfl⟩
      · simp [characters]
      · exact List.forall_mem_append.2 ⟨continuing, letters⟩
    · refine ⟨first, word, '\n' :: ending.toList, ?_, identifier.1, continuing, .inr rfl⟩
      simp [characters]

end MexBridge.Name

namespace MexBridge.Settings

variable {settings : Settings} {config : Config}

theorem fault?_of_resolve (accepted : settings.resolve = .ok config) : settings.fault? = none := by
  unfold resolve at accepted
  cases found : settings.fault? with
  | none => rfl
  | some fault =>
    rw [found] at accepted
    cases accepted

/-- What accepted settings promise of the names and the indent unit. -/
theorem names_of_resolve (accepted : settings.resolve = .ok config) :
    Name.isIdentifier settings.moduleName = true ∧
      (settings.wrapperName = "" ∨ Name.isIdentifier settings.wrapperName = true) ∧
      Text.allBlank settings.indent = true := by
  have unfaulty := fault?_of_resolve accepted
  unfold fault? at unfaulty
  grind

theorem config_of_resolve (accepted : settings.resolve = .ok config) :
    config.wrapperName = settings.resolvedWrapperName ∧ config.indent = settings.indent := by
  rw [resolve, fault?_of_resolve accepted] at accepted
  cases accepted
  exact ⟨rfl, rfl⟩

/-- The indentations of accepted settings are blank. -/
theorem allBlank_indentation (accepted : settings.resolve = .ok config) (level : Int) :
    Text.allBlank (config.indentation level) = true := by
  have unit : Text.allBlank config.indent = true := by
    rw [(config_of_resolve accepted).2]
    exact (names_of_resolve accepted).2.2
  rw [Config.indentation_eq_join]
  induction level.toNat with
  | zero => rfl
  | succ count ih =>
    rw [List.replicate_succ, String.join_cons, Text.allBlank, String.toList_append,
      List.all_append, Bool.and_eq_true]
    exact ⟨unit, ih⟩

/-- The wrapper's name of accepted settings has only characters that continue an identifier, or
end a line. -/
theorem isContinuing_or_lineEnd_wrapperName (accepted : settings.resolve = .ok config)
    {letter : Char} (member : letter ∈ config.wrapperName.toList) :
    Name.isContinuing letter = true ∨ letter = '\n' := by
  obtain ⟨moduleName, wrapper, _⟩ := names_of_resolve accepted
  rw [(config_of_resolve accepted).1, resolvedWrapperName] at member
  by_cases derived : settings.wrapperName = ""
  · rw [if_pos derived, String.toList_append, List.mem_append] at member
    rcases member with inModule | inEnding
    · exact Name.isContinuing_or_lineEnd moduleName inModule
    · exact .inl (List.all_eq_true.1 (by decide : "_wrapper".toList.all Name.isContinuing = true)
        letter inEnding)
  · rw [if_neg derived] at member
    exact Name.isContinuing_or_lineEnd (wrapper.resolve_left derived) member

/-- The wrapper's name of accepted settings leads with a word. -/
theorem leadsWithWord_wrapperName (accepted : settings.resolve = .ok config) :
    Name.LeadsWithWord config.wrapperName := by
  obtain ⟨moduleName, wrapper, _⟩ := names_of_resolve accepted
  rw [(config_of_resolve accepted).1, resolvedWrapperName]
  by_cases derived : settings.wrapperName = ""
  · rw [if_pos derived]
    exact Name.leadsWithWord_append moduleName "_wrapper" (List.all_eq_true.1 (by decide))
  · rw [if_neg derived]
    have leads := Name.leadsWithWord_append (wrapper.resolve_left derived) "" (by simp)
    rwa [String.append_empty] at leads

end MexBridge.Settings
