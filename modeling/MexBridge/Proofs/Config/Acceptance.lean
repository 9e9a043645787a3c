import MexBridge.Proofs.Name.Words

/-!
# Which settings are accepted

`Settings.Spelled` says how settings have to be written, with one notion of a word for all names in
them.  Settings are accepted exactly if they are spelled with lines of words, and they are spelled
with words exactly if they are accepted and no name in them has a line end: this is
`Settings.acceptance`.  A line end that was let through is in the wrapper's name, too, where that
is derived from the module's name or asked for with it.
-/

set_option autoImplicit false

namespace MexBridge.Settings

open Name (IsWord IsWordLine IsChainOf)

/-- Settings whose names are spelled with words: the module's name is one, the wrapper's name is one
or missing, a namespace is a chain of them, and the indent unit is white space. -/
structure Spelled (word : String → Prop) (settings : Settings) : Prop where
  moduleName : word settings.moduleName
  wrapperName : settings.wrapperName = "" ∨ word settings.wrapperName
  usingNamespaces : ∀ name ∈ settings.usingNamespaces, IsChainOf word name
  indent : ∀ character ∈ settings.indent.toList, Text.isBlank character = true

/-- No name of the settings has a line end in it. -/
structure OnOneLine (settings : Settings) : Prop where
  moduleName : '\n' ∉ settings.moduleName.toList
  wrapperName : '\n' ∉ settings.wrapperName.toList
  usingNamespaces : ∀ name ∈ settings.usingNamespaces, '\n' ∉ name.toList

variable {settings : Settings}

/-- The empty text is no word and no line of one. -/
theorem ne_empty_of_line {text : String} (line : IsWordLine text) : text ≠ "" := by
  rintro rfl
  exact absurd (Name.isIdentifier_iff.2 line) (by decide)

theorem find?_namespace_eq_none_iff :
    (settings.usingNamespaces.find? fun name => !Name.isQualifiedName name) = none ↔
      ∀ name ∈ settings.usingNamespaces, IsChainOf IsWordLine name := by
  simp [List.find?_eq_none, Name.isQualifiedName_iff]

/-- Accepted settings are spelled with lines of words. -/
theorem spelled_of_resolve {config : Config} (accepted : settings.resolve = .ok config) :
    settings.Spelled IsWordLine := by
  obtain ⟨moduleName, wrapperName, indent⟩ := names_of_resolve accepted
  have namespaces : (settings.usingNamespaces.find? fun name => !Name.isQualifiedName name) =
      none := by
    have unfaulty := fault?_of_resolve accepted
    unfold fault? at unfaulty
    grind
  exact {
    moduleName := Name.isIdentifier_iff.1 moduleName
    wrapperName := wrapperName.imp_right Name.isIdentifier_iff.1
    usingNamespaces := find?_namespace_eq_none_iff.1 namespaces
    indent := List.all_eq_true.1 indent }

/-- Settings that are spelled with lines of words have no fault. -/
theorem unfaulty_of_spelled (spelled : settings.Spelled IsWordLine) : settings.fault? = none := by
  have nonempty := ne_empty_of_line spelled.moduleName
  have moduleName : Name.isIdentifier settings.moduleName = true :=
    Name.isIdentifier_iff.2 spelled.moduleName
  have wrapperName : ¬ (settings.wrapperName ≠ "" ∧
      (!Name.isIdentifier settings.wrapperName) = true) := by
    rintro ⟨given, other⟩
    rw [Name.isIdentifier_iff.2 (spelled.wrapperName.resolve_left given)] at other
    cases other
  have indent : Text.allBlank settings.indent = true := List.all_eq_true.2 spelled.indent
  rw [fault?, if_neg nonempty, moduleName, if_neg (by decide), if_neg wrapperName,
    find?_namespace_eq_none_iff.2 spelled.usingNamespaces]
  exact if_pos indent

theorem resolve_isOk_iff :
    (∃ config, settings.resolve = .ok config) ↔ settings.Spelled IsWordLine := by
  constructor
  · rintro ⟨config, accepted⟩
    exact spelled_of_resolve accepted
  · intro spelled
    rw [resolve, unfaulty_of_spelled spelled]
    exact ⟨_, rfl⟩

/-- Settings are spelled with words exactly if they are spelled with lines of words and no line end
is in a name. -/
theorem spelled_isWord_iff :
    settings.Spelled IsWord ↔ settings.Spelled IsWordLine ∧ settings.OnOneLine := by
  constructor
  · rintro ⟨moduleName, wrapperName, namespaces, indent⟩
    refine ⟨⟨.inl moduleName, wrapperName.imp_right .inl, ?_, indent⟩,
      ⟨moduleName.lineEnd_not_mem, ?_, ?_⟩⟩
    · exact fun name member => (Name.isChainOf_isWord_iff.1 (namespaces name member)).1
    · rcases wrapperName with derived | word
      · rw [derived]
        exact List.not_mem_nil
      · exact word.lineEnd_not_mem
    · exact fun name member => (Name.isChainOf_isWord_iff.1 (namespaces name member)).2
  · rintro ⟨lines, unended⟩
    refine ⟨lines.moduleName.isWord_iff.2 unended.moduleName, ?_, ?_, lines.indent⟩
    · exact lines.wrapperName.imp_right fun line => line.isWord_iff.2 unended.wrapperName
    · exact fun name member => Name.isChainOf_isWord_iff.2
        ⟨lines.usingNamespaces name member, unended.usingNamespaces name member⟩

/-- The wrapper's name of accepted settings is a word exactly if it has no line end. -/
theorem isWord_wrapperName_iff {config : Config} (accepted : settings.resolve = .ok config) :
    IsWord config.wrapperName ↔ '\n' ∉ config.wrapperName.toList := by
  have spelled := resolve_isOk_iff.1 ⟨config, accepted⟩
  rw [(config_of_resolve accepted).1, resolvedWrapperName]
  by_cases derived : settings.wrapperName = ""
  · rw [if_pos derived]
    refine ⟨IsWord.lineEnd_not_mem, fun unended => ?_⟩
    have word : IsWord settings.moduleName := spelled.moduleName.isWord_iff.2 fun member =>
      unended (by rw [String.toList_append]; exact List.mem_append_left _ member)
    refine word.append fun character member => Name.isContinuing_iff.1 ?_
    exact List.all_eq_true.1 (by decide : "_wrapper".toList.all Name.isContinuing = true)
      character member
  · rw [if_neg derived]
    exact (spelled.wrapperName.resolve_left derived).isWord_iff

/-- **Which settings are accepted.**  Settings are accepted exactly if the module's name is the line
of a word, the wrapper's name is empty or one, every namespace is a chain of such lines, and the
indent unit is white space; otherwise they are refused with a fault.  They are as documented, that
is with words in place of the lines of words, exactly if besides no name in them has a line end.
The wrapper's name that is stored is a word exactly if it has no line end. -/
theorem acceptance (settings : Settings) :
    ((∃ config, settings.resolve = .ok config) ↔ settings.Spelled IsWordLine) ∧
    ((∃ fault, settings.resolve = .error fault) ↔ ¬ settings.Spelled IsWordLine) ∧
    (settings.Spelled IsWord ↔ (∃ config, settings.resolve = .ok config) ∧ settings.OnOneLine) ∧
    ∀ config, settings.resolve = .ok config →
      (IsWord config.wrapperName ↔ '\n' ∉ config.wrapperName.toList) := by
  refine ⟨resolve_isOk_iff, ?_, ?_, fun _ => isWord_wrapperName_iff⟩
  · rw [← resolve_isOk_iff]
    cases settings.resolve with
    | ok config => simp
    | error fault => simp
  · rw [resolve_isOk_iff]
    exact spelled_isWord_iff

/-- A module's name with a line end is accepted, although it is no word, and the wrapper's name that
is derived from it is none either. -/
theorem acceptance_shop_lineEnd :
    (∃ config, Settings.resolve { moduleName := "shop\n" } = .ok config ∧
      config.wrapperName = "shop\n_wrapper" ∧ ¬ IsWord config.wrapperName) ∧
    ¬ Spelled IsWord { moduleName := "shop\n" } := by
  refine ⟨⟨_, rfl, rfl, fun word => absurd word.lineEnd_not_mem (by decide)⟩, fun spelled => ?_⟩
  exact absurd spelled.moduleName.lineEnd_not_mem (by decide)

end MexBridge.Settings
