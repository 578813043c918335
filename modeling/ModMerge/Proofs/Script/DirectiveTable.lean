import ModMerge.Directive

/-!
# Facts about the table of directives

A word that creates or selects content has one meaning only, so the block that it stands in
does not matter. Words with several meanings merely use content, and reading a mod passes
over them.
-/

namespace ModMerge

theorem refsOfWord_of_isDefinition : ∀ ref ∈ directiveTable, ref.rule.role.isDefinition = true →
    ∀ word ∈ ref.rule.words, refsOfWord word = [ref] := by
  decide +kernel

theorem of_opensBlock : ∀ ref ∈ directiveTable, ref.rule.opensBlock = true →
    ref.rule.acceptsPositive = true ∧ ref.rule.role.isDefinition = true := by
  decide +kernel

theorem opensBlock_of_new : ∀ ref ∈ directiveTable, ref.rule.role = .new →
    ref.rule.opensBlock = true := by
  decide +kernel

/-- Every word that replaces a creating directive selects content of the same type. -/
theorem exists_select_of_implicitSelect : ∀ ref ∈ directiveTable,
    ∀ word ∈ ref.rule.implicitSelect, ∃ select ∈ directiveTable, select.type = ref.type ∧
      select.rule.role = .select ∧ select.rule.opensBlock = true ∧ word ∈ select.rule.words := by
  decide +kernel

theorem Role.isDefinition_iff (role : Role) : role.isDefinition = true ↔ role ≠ .usage := by
  cases role <;> decide

/-- Two meanings of a word are the same, or both merely use content. -/
theorem eq_or_usage_of_mem_refsOfWord {word : String} {first second : DirectiveRef}
    (isFirst : first ∈ refsOfWord word) (isSecond : second ∈ refsOfWord word) :
    first = second ∨ first.rule.role = .usage ∧ second.rule.role = .usage := by
  have single : ∀ {ref other : DirectiveRef}, ref ∈ refsOfWord word → other ∈ refsOfWord word →
      ref.rule.role ≠ .usage → other = ref := by
    intro ref other isRef isOther defines
    obtain ⟨inTable, isWord⟩ := (mem_refsOfWord word ref).1 isRef
    rw [refsOfWord_of_isDefinition ref inTable ((Role.isDefinition_iff _).2 defines) word
      isWord] at isOther
    exact List.mem_singleton.1 isOther
  by_cases firstUses : first.rule.role = .usage
  · by_cases secondUses : second.rule.role = .usage
    · exact .inr ⟨firstUses, secondUses⟩
    · exact .inl (single isSecond isFirst secondUses)
  · exact .inl (single isFirst isSecond firstUses).symm

/-- Whether a word has a meaning does not depend on the block. -/
theorem pickRef_eq_none_iff {refs : List DirectiveRef} {activeType : Option EntityType} :
    pickRef refs activeType = none ↔ refs = [] := by
  cases activeType with
  | none => simp [pickRef]
  | some type =>
      rw [pickRef, Option.or_eq_none_iff, List.head?_eq_none_iff]
      exact ⟨fun both => both.2, fun empty => ⟨by rw [empty]; rfl, empty⟩⟩

/-- In two blocks a word has no meaning, the same, or meanings that merely use content. -/
theorem pickRef_cases (word : String) (first second : Option EntityType) :
    (pickRef (refsOfWord word) first = none ∧ pickRef (refsOfWord word) second = none) ∨
    ∃ ref other, pickRef (refsOfWord word) first = some ref ∧
      pickRef (refsOfWord word) second = some other ∧
      (ref = other ∨ ref.rule.role = .usage ∧ other.rule.role = .usage) := by
  cases pickedFirst : pickRef (refsOfWord word) first with
  | none =>
      refine .inl ⟨rfl, ?_⟩
      rw [pickRef_eq_none_iff] at pickedFirst ⊢
      exact pickedFirst
  | some ref =>
      cases pickedSecond : pickRef (refsOfWord word) second with
      | none =>
          rw [pickRef_eq_none_iff] at pickedSecond
          rw [pickedSecond, pickRef_eq_none_iff.2 rfl] at pickedFirst
          cases pickedFirst
      | some other =>
          refine .inr ⟨ref, other, rfl, rfl, ?_⟩
          exact eq_or_usage_of_mem_refsOfWord (pickRef_mem _ _ _ pickedFirst)
            (pickRef_mem _ _ _ pickedSecond)

/-- A word of a directive that opens a block opens it with that directive. -/
theorem blockStartRef?_of_mem {word : String} {ref : DirectiveRef} (inTable : ref ∈ directiveTable)
    (opens : ref.rule.opensBlock = true) (isWord : word ∈ ref.rule.words) :
    blockStartRef? (refsOfWord word) = some ref := by
  rw [refsOfWord_of_isDefinition ref inTable (of_opensBlock ref inTable opens).2 word isWord,
    blockStartRef?, List.find?_singleton, if_pos opens]

end ModMerge
