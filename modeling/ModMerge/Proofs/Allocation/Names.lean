import ModMerge.Proofs.Allocation.Steps
import ModMerge.Proofs.Fold

/-!
# Resolving names after allocation

Resolving the names of a mod records what each of them stands for and touches nothing else
of the mapping. In an allocation each mod is resolved once, from the mapping that placing
its ids left behind.
-/

namespace ModMerge

namespace ModMapping

/-- Record what one name stands for, if it stands for an id. -/
def resolveEntry (mapping : ModMapping) (entry : EntityType × String × NameBinding) :
    Except FrozenError ModMapping :=
  match mapping.resolveBinding? entry.2.2 with
  | some id => mapping.bindName entry.1 entry.2.1 id
  | none => .ok mapping

/-- The parts of a mapping that resolving names does not touch. -/
structure SameBesidesNames (first second : ModMapping) : Prop where
  remapped : second.remapped = first.remapped
  implicit : second.implicit = first.implicit

theorem SameBesidesNames.trans {first second third : ModMapping}
    (earlier : first.SameBesidesNames second) (later : second.SameBesidesNames third) :
    first.SameBesidesNames third :=
  ⟨later.remapped.trans earlier.remapped, later.implicit.trans earlier.implicit⟩

theorem SameBesidesNames.resolveBinding? {first second : ModMapping}
    (same : first.SameBesidesNames second) (binding : NameBinding) :
    second.resolveBinding? binding = first.resolveBinding? binding := by
  simp only [ModMapping.resolveBinding?, implicitId?, newId, same.remapped, same.implicit]

theorem sameBesidesNames_resolveEntry {mapping after : ModMapping}
    {entry : EntityType × String × NameBinding}
    (resolved : mapping.resolveEntry entry = .ok after) : mapping.SameBesidesNames after := by
  rw [resolveEntry] at resolved
  split at resolved
  · rw [bindName, change] at resolved
    split at resolved
    · cases resolved
    · obtain rfl := Except.ok.inj resolved
      exact ⟨rfl, rfl⟩
  · obtain rfl := Except.ok.inj resolved
    exact ⟨rfl, rfl⟩

/-- What a name stands for once an entry has been resolved. -/
theorem getElem?_names_resolveEntry {mapping after : ModMapping}
    {entry : EntityType × String × NameBinding}
    (resolved : mapping.resolveEntry entry = .ok after) (type : EntityType) (key : String) :
    (after.names.get type)[key]? =
      if entry.1 = type ∧ nameKey entry.2.1 = key then
        (mapping.resolveBinding? entry.2.2).or (mapping.names.get type)[key]?
      else (mapping.names.get type)[key]? := by
  rw [resolveEntry] at resolved
  split at resolved
  · next id standsFor =>
      rw [bindName, change] at resolved
      split at resolved
      · cases resolved
      · obtain rfl := Except.ok.inj resolved
        simp only [recordName, EntityTable.modify, EntityTable.get_set, standsFor,
          Option.some_or]
        by_cases sameType : entry.1 = type
        · subst sameType
          simp [Std.TreeMap.getElem?_insert]
        · simp [sameType]
  · next nothing =>
      obtain rfl := Except.ok.inj resolved
      simp [nothing]

/-- Entries for different names are resolved independently of each other. -/
theorem getElem?_names_foldlM {mapping after : ModMapping}
    {entries : List (EntityType × String × NameBinding)}
    (distinct : entries.Pairwise fun first second =>
      first.1 = second.1 → nameKey first.2.1 ≠ nameKey second.2.1)
    (resolved : entries.foldlM resolveEntry mapping = .ok after) :
    mapping.SameBesidesNames after ∧
    (∀ entry ∈ entries, (after.names.get entry.1)[nameKey entry.2.1]? =
      (mapping.resolveBinding? entry.2.2).or
        (mapping.names.get entry.1)[nameKey entry.2.1]?) ∧
    ∀ type key, (∀ entry ∈ entries, entry.1 = type → nameKey entry.2.1 ≠ key) →
      (after.names.get type)[key]? = (mapping.names.get type)[key]? := by
  induction entries generalizing mapping with
  | nil =>
      obtain rfl := Except.ok.inj resolved
      exact ⟨⟨rfl, rfl⟩, by simp, fun _ _ _ => rfl⟩
  | cons first rest inductionHypothesis =>
      obtain ⟨middle, resolvedFirst, resolvedRest⟩ := bind_eq_ok.1 resolved
      rw [List.pairwise_cons] at distinct
      obtain ⟨same, here, elsewhere⟩ := inductionHypothesis distinct.2 resolvedRest
      have sameFirst := sameBesidesNames_resolveEntry resolvedFirst
      have namesFirst := getElem?_names_resolveEntry resolvedFirst
      refine ⟨sameFirst.trans same, ?_, ?_⟩
      · intro entry member
        rcases List.mem_cons.1 member with rfl | inRest
        · have notLater : ∀ other ∈ rest, other.1 = entry.1 →
              nameKey other.2.1 ≠ nameKey entry.2.1 :=
            fun other member sameType sameKey =>
              distinct.1 other member sameType.symm sameKey.symm
          rw [elsewhere _ _ notLater, namesFirst, if_pos ⟨rfl, rfl⟩]
        · have different : ¬ (first.1 = entry.1 ∧ nameKey first.2.1 = nameKey entry.2.1) :=
            fun same => distinct.1 entry inRest same.1 same.2
          rw [here entry inRest, sameFirst.resolveBinding?, namesFirst, if_neg different]
      · intro type key untouched
        have different : ¬ (first.1 = type ∧ nameKey first.2.1 = key) :=
          fun same => untouched first List.mem_cons_self same.1 same.2
        rw [elsewhere type key fun entry member => untouched entry (List.mem_cons_of_mem _ member),
          namesFirst, if_neg different]

theorem resolveNames_eq (mapping : ModMapping) (definition : ModDefinition) :
    mapping.resolveNames definition =
      (definition.names.entries.foldlM resolveEntry mapping).map freeze := by
  change (definition.names.entries.foldlM resolveEntry mapping >>= fun named =>
    pure named.freeze) = _
  cases definition.names.entries.foldlM resolveEntry mapping <;> rfl

end ModMapping

/-- Names are bound under the keys by which they are looked up. -/
def ModDefinition.NamesKeyed (definition : ModDefinition) : Prop :=
  ∀ type key, key ∈ definition.names.get type → nameKey key = key

theorem NameTable.mem_entries {Value : Type} {names : NameTable Value} {type : EntityType}
    {key : String} {value : Value} :
    (type, key, value) ∈ names.entries ↔ (names.get type)[key]? = some value := by
  simp only [entries, List.mem_flatMap, List.mem_map, Prod.mk.injEq, Prod.exists]
  constructor
  · rintro ⟨other, -, otherKey, otherValue, member, rfl, rfl, rfl⟩
    exact Std.TreeMap.mem_toList_iff_getElem?_eq_some.1 member
  · intro bound
    exact ⟨type, EntityType.mem_all type, key, value,
      Std.TreeMap.mem_toList_iff_getElem?_eq_some.2 bound, rfl, rfl, rfl⟩

/-- No two entries of a table are for the same name. -/
theorem NameTable.pairwise_entries {Value : Type} (names : NameTable Value) :
    names.entries.Pairwise fun first second => first.1 = second.1 → first.2.1 ≠ second.2.1 := by
  refine List.pairwise_flatMap.2 ⟨?_, ?_⟩
  · intro type _
    rw [List.pairwise_map]
    have distinct : (names.get type).toList.Pairwise fun first second =>
        ¬ compare first.1 second.1 = .eq := Std.TreeMap.distinct_keys_toList
    refine distinct.imp ?_
    intro first second different _ same
    exact different (Std.LawfulEqCmp.compare_eq_iff_eq.2 same)
  · refine EntityType.nodup_all.imp ?_
    intro type other different first inFirst second inSecond same
    obtain ⟨_, _, rfl⟩ := List.mem_map.1 inFirst
    obtain ⟨_, _, rfl⟩ := List.mem_map.1 inSecond
    exact absurd same different

/-- Resolving the names of a mod lets each name stand for what it is bound to. -/
theorem ModMapping.names_of_resolveNames {mapping after : ModMapping}
    {definition : ModDefinition} (keyed : definition.NamesKeyed)
    (resolved : mapping.resolveNames definition = .ok after) :
    mapping.SameBesidesNames after ∧
    ∀ type (key : String), (after.names.get type)[key]? =
      ((definition.names.get type)[key]?.bind mapping.resolveBinding?).or
        (mapping.names.get type)[key]? := by
  rw [resolveNames_eq] at resolved
  obtain ⟨named, run, rfl⟩ := map_eq_ok.1 resolved
  have keyOf : ∀ entry ∈ definition.names.entries, nameKey entry.2.1 = entry.2.1 := by
    intro entry member
    apply keyed entry.1
    have bound := NameTable.mem_entries.1 member
    rw [← Std.TreeMap.isSome_getElem?_iff_mem, bound, Option.isSome_some]
  have distinct : definition.names.entries.Pairwise fun first second =>
      first.1 = second.1 → nameKey first.2.1 ≠ nameKey second.2.1 := by
    refine definition.names.pairwise_entries.imp_of_mem ?_
    intro first second inFirst inSecond different
    rwa [keyOf first inFirst, keyOf second inSecond]
  obtain ⟨same, here, elsewhere⟩ := getElem?_names_foldlM distinct run
  refine ⟨⟨same.remapped, same.implicit⟩, fun type key => ?_⟩
  cases bound : (definition.names.get type)[key]? with
  | none =>
      refine elsewhere type key fun entry member sameType sameKey => ?_
      have known := NameTable.mem_entries.1 member
      rw [keyOf entry member] at sameKey
      rw [sameType, sameKey, bound] at known
      cases known
  | some binding =>
      have member := NameTable.mem_entries.2 bound
      have resolvedHere := here _ member
      rwa [keyOf _ member] at resolvedHere

/-- The moved ids and the fresh ids of a mod stay as they are when names are resolved. -/
theorem ModMapping.sameBesidesNames_of_resolveNames {mapping after : ModMapping}
    {definition : ModDefinition} (resolved : mapping.resolveNames definition = .ok after) :
    mapping.SameBesidesNames after := by
  rw [resolveNames_eq] at resolved
  obtain ⟨named, run, rfl⟩ := map_eq_ok.1 resolved
  have same := invariant_of_foldlM (fun _ _ state => mapping.SameBesidesNames state)
    (fun _ _ _ _ _ before stepped => before.trans (sameBesidesNames_resolveEntry stepped))
    ⟨rfl, rfl⟩ run
  exact ⟨same.remapped, same.implicit⟩

/-- Each mod is resolved once, from the mapping that it had. -/
theorem getElem?_of_resolveAllNames {mappings after : Std.TreeMap String ModMapping}
    {definitions : List ModDefinition} (distinct : (definitions.map (·.modName)).Nodup)
    (resolved : resolveAllNames mappings definitions = .ok after) :
    (∀ definition ∈ definitions, ∀ mapping, mappings[definition.modName]? = some mapping →
      ∃ named, mapping.resolveNames definition = .ok named ∧
        after[definition.modName]? = some named) ∧
    ∀ modName, modName ∉ definitions.map (·.modName) → after[modName]? = mappings[modName]? := by
  induction definitions generalizing mappings with
  | nil =>
      obtain rfl := Except.ok.inj resolved
      simp
  | cons definition rest inductionHypothesis =>
      obtain ⟨middle, resolvedFirst, resolvedRest⟩ := bind_eq_ok.1 resolved
      rw [List.map_cons, List.nodup_cons] at distinct
      obtain ⟨here, elsewhere⟩ := inductionHypothesis distinct.2 resolvedRest
      have others : ∀ modName, definition.modName ≠ modName →
          middle[modName]? = mappings[modName]? := by
        intro modName different
        beta_reduce at resolvedFirst
        split at resolvedFirst
        · next mapping found =>
            obtain ⟨named, -, rfl⟩ := map_eq_ok.1 resolvedFirst
            simp [Std.TreeMap.getElem?_insert, different]
        · obtain rfl := Except.ok.inj resolvedFirst
          rfl
      refine ⟨?_, ?_⟩
      · intro other member mapping found
        rcases List.mem_cons.1 member with rfl | inRest
        · simp only [found] at resolvedFirst
          obtain ⟨named, run, rfl⟩ := map_eq_ok.1 resolvedFirst
          refine ⟨named, run, ?_⟩
          rw [elsewhere _ distinct.1, Std.TreeMap.getElem?_insert_self]
        · have different : definition.modName ≠ other.modName := fun same =>
            distinct.1 (same ▸ List.mem_map_of_mem inRest)
          exact here other inRest mapping ((others _ different).trans found)
      · intro modName unknown
        simp only [List.map_cons, List.mem_cons, not_or] at unknown
        rw [elsewhere modName unknown.2, others modName (Ne.symm unknown.1)]

end ModMerge
