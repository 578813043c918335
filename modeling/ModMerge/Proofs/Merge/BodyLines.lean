import ModMerge.Merge.Body
import ModMerge.Proofs.Merge.HeaderLines
import ModMerge.Proofs.Mod.SameMeaning

/-!
# Reading the body of a merged file

Whoever reads the body of a merged file finds one mod after another, each where the allocation
has moved it to, and in the end the union of them all. One mod goes over into the next: a block
that a mod leaves open is ended by the next one, but a spell block does not end so. Hence every
mod but the last has to end outside of spell blocks.
-/

namespace ModMerge

/-! ### The union of mods -/

/-- A definition with the content of all the mods, every id where it is in the end. -/
structure AllocationResult.GatheredIn (result : AllocationResult)
    (definitions : List ModDefinition) (read : ModDefinition) : Prop where
  definedIds : ∀ type id, id ∈ read.definedIds type ↔
    ∃ definition ∈ definitions, id ∈ result.finalIds definition type
  vanillaEditedIds : ∀ type id, id ∈ (read.entity type).vanillaEditedIds ↔
    ∃ definition ∈ definitions, id ∈ (definition.entity type).vanillaEditedIds
  implicitCount : ∀ type, (read.entity type).implicitCount = 0

namespace AllocationResult.GatheredIn

variable {result : AllocationResult} {definitions : List ModDefinition}
  {base definition read other : ModDefinition}

theorem of_sameContent (gathered : result.GatheredIn definitions read)
    (same : other.SameContent read) : result.GatheredIn definitions other := by
  obtain ⟨definedIds, vanillaEditedIds, implicitCount⟩ := gathered
  simp only [ModDefinition.definedIds, ModDefinition.entity, same.entities] at *
  exact ⟨definedIds, vanillaEditedIds, implicitCount⟩

theorem of_onlyNamed (result : AllocationResult) {modName : String} {survey : Survey}
    (named : Survey.OnlyNamed modName survey) : result.GatheredIn [] survey.definition := by
  obtain ⟨displayName, rfl⟩ := named
  refine ⟨fun type id => ?_, fun type id => ?_, fun type => ?_⟩
  · simp [ModDefinition.definedIds, EntityDefinition.definedIds, ModDefinition.entity,
      EntityTable.get_uniform, IdSet.mem_ids]
  · simp [EntityDefinition.vanillaEditedIds, ModDefinition.entity, EntityTable.get_uniform,
      IdSet.mem_ids]
  · simp [ModDefinition.entity, EntityTable.get_uniform]

/-- One further mod. -/
theorem concat (gathered : result.GatheredIn definitions base)
    (provides : (result.mappingOf definition.modName).Provides definition)
    (mirrors : definition.Mirrors (result.mappingOf definition.modName) base read) :
    result.GatheredIn (definitions ++ [definition]) read where
  definedIds type id := by
    rw [mirrors.mem_definedIds provides, gathered.definedIds]
    simp [AllocationResult.finalIds, or_and_right, exists_or]
  vanillaEditedIds type id := by
    have edited := mirrors.vanillaEdited type id
    have before := gathered.vanillaEditedIds type id
    simp only [EntityDefinition.vanillaEditedIds, IdSet.mem_ids, ModDefinition.entity] at before ⊢
    rw [edited, before]
    simp [or_and_right, exists_or]
  implicitCount type :=
    (mirrors.implicitCount type).trans (gathered.implicitCount type)

end AllocationResult.GatheredIn

/-! ### One mod -/

theorem Survey.definition_closeBlock_of_noSpell {survey : Survey}
    (noSpell : survey.context.spell = none) :
    survey.closeBlock.definition = survey.definition := by
  simp only [closeBlock, noSpell]

theorem ModMapping.Provides.of_freeze {mapping : ModMapping} {definition : ModDefinition}
    (provides : mapping.Provides definition.freeze) : mapping.Provides definition :=
  ⟨provides.sound, provides.implicitIds, provides.names⟩

section

variable {result : AllocationResult} {modName : String} {script : List Char} {start : Survey}
  {definition : ModDefinition} {renumbered : RenumberedMod} {lines : List Line}
  {done : List ModDefinition}

/-- Reading a mod that has been renumbered goes on from wherever reading has come. -/
theorem exists_leadsFrom_of_renumber {mapping : ModMapping} (provides : mapping.Provides definition)
    (parsed : ModDefinition.parse modName script = .ok definition)
    (renumberEq : mapping.renumber modName script = .ok renumbered) :
    ∃ last, Survey.ofScript modName script = .ok last ∧ last.finish = definition ∧
      ∀ start : Survey, start.context.Consistent → start.context.inDescription = false →
        start.context.spell = none → renumbered.LeadsFrom False mapping last start := by
  obtain ⟨last, surveyed, -, rfl⟩ := ModDefinition.parse_eq_ok_iff.1 parsed
  -- Only the first line of a file can lose a mark, so nothing is asked of these lines.
  exact ⟨last, surveyed, rfl, leadsFrom_of_provides provides (fun first : False => first.elim)
    surveyed renumberEq⟩

/-- The lines of a renumbered mod are read as they were written. -/
theorem plain_of_renumber {mapping : ModMapping} (provides : mapping.Provides definition)
    (parsed : ModDefinition.parse modName script = .ok definition)
    (renumberEq : mapping.renumber modName script = .ok renumbered) :
    ∀ line ∈ renumbered.lines, Plain line := by
  obtain ⟨last, -, -, leads⟩ := exists_leadsFrom_of_renumber provides parsed renumberEq
  have fresh := leads { definition := { modName } } ParseContext.consistent_initial rfl rfl
  exact fun line member => fresh.legible.plain member

/-- The lines that a merged file has for a mod. -/
def sectionLines (modName : String) (renumbered : RenumberedMod) : List Line :=
  [[], ("-- Begin content from mod: " ++ modName).toList] ++ renumbered.lines ++
    [("-- End content from mod: " ++ modName).toList]

theorem map_correctChar_comment (text : String) :
    ("--" ++ text).toList.map correctChar = '-' :: '-' :: readChars text := by
  rw [String.toList_append, List.map_append]
  rfl

/-- A mod adds what it defines, and it leaves a spell block open only if its script does. -/
theorem reaches_lines
    (provides : (result.mappingOf definition.modName).Provides definition.freeze)
    (parsed : ModDefinition.parse definition.modName script = .ok definition)
    (renumberEq : (result.mappingOf definition.modName).renumber definition.modName script =
      .ok renumbered)
    (consistent : start.context.Consistent) (outside : start.context.inDescription = false)
    (noSpell : start.context.spell = none)
    (gathered : result.GatheredIn done start.closeBlock.definition) :
    start.Reaches renumbered.lines fun read =>
      (leavesSpellOpen definition.modName script = false → read.context.spell = none) ∧
      result.GatheredIn (done ++ [definition.freeze]) read.closeBlock.definition := by
  obtain ⟨last, surveyed, finished, leads⟩ :=
    exists_leadsFrom_of_renumber provides.of_freeze parsed renumberEq
  have lastConsistent := Survey.consistent_of_ofScript surveyed
  refine (leads start consistent outside noSpell).reaches.mono ?_
  rintro read ⟨sameSpell, mirrors⟩
  constructor
  · intro closed
    simp only [leavesSpellOpen, surveyed, lastConsistent.inSpellBlock_eq] at closed
    rw [closed] at sameSpell
    exact Option.not_isSome_iff_eq_none.1 (by rw [sameSpell]; exact Bool.false_ne_true)
  · rw [Survey.definition_closeBlock_of_noSpell noSpell] at gathered
    have same := last.sameContent_finish lastConsistent
    rw [finished] at same
    exact gathered.concat provides
      (mirrors.definition.of_sameContent ⟨same.entities, same.references, same.names⟩
        ⟨rfl, rfl, rfl⟩)

/-- The same with the comments around the lines of the mod. -/
theorem reaches_sectionLines (definition : ModDefinition)
    (reaches : start.Reaches lines fun read =>
      read.context.spell = none ∧ result.GatheredIn done read.closeBlock.definition)
    (provides : (result.mappingOf definition.modName).Provides definition.freeze)
    (parsed : ModDefinition.parse definition.modName script = .ok definition)
    (renumberEq : (result.mappingOf definition.modName).renumber definition.modName script =
      .ok renumbered) :
    start.Reaches
      (lines ++ (sectionLines definition.modName renumbered).map (·.map correctChar))
      fun read =>
        (leavesSpellOpen definition.modName script = false → read.context.spell = none) ∧
        result.GatheredIn (done ++ [definition.freeze]) read.closeBlock.definition := by
  have unchanged : renumbered.lines.map (·.map correctChar) = renumbered.lines := by
    rw [List.map_congr_left fun line member =>
      (plain_of_renumber provides.of_freeze parsed renumberEq line member).map_correctChar,
      List.map_id']
  have begins : ("-- Begin content from mod: " ++ definition.modName).toList.map correctChar =
      '-' :: '-' :: readChars (" Begin content from mod: " ++ definition.modName) :=
    map_correctChar_comment (" Begin content from mod: " ++ definition.modName)
  have ends : ("-- End content from mod: " ++ definition.modName).toList.map correctChar =
      '-' :: '-' :: readChars (" End content from mod: " ++ definition.modName) :=
    map_correctChar_comment (" End content from mod: " ++ definition.modName)
  have entered := reaches.blank.comment
    (readChars (" Begin content from mod: " ++ definition.modName))
  have passed := entered.append fun read consistent outside holds =>
    reaches_lines provides parsed renumberEq consistent outside holds.1 holds.2
  have left := passed.comment (readChars (" End content from mod: " ++ definition.modName))
  rw [← begins, ← ends] at left
  rw [sectionLines]
  simp only [List.map_append, List.map_cons, List.map_nil, unchanged]
  simpa only [List.append_assoc, List.cons_append, List.nil_append] using left

/-! ### All mods -/

/-- A mod of a merge: its script has been read, and there are ids for all that it defines. -/
structure BodyItem.Ready (result : AllocationResult) (item : BodyItem) : Prop where
  parsed : ∃ definition, ModDefinition.parse item.definition.modName item.script =
    .ok definition ∧ item.definition = definition.freeze
  provides : (result.mappingOf item.definition.modName).Provides item.definition

/-- What has come of the mods that have been written. -/
structure MergedBody.Written (result : AllocationResult) (start : Survey) (header : List Line)
    (done rest : List BodyItem) (body : MergedBody) : Prop where
  mappings : ∀ item ∈ rest, body.mappings.getD item.definition.modName
    { modName := item.definition.modName } = result.mappingOf item.definition.modName
  unbroken : ∀ line ∈ body.lines.toList, Text.Unbroken line
  reaches : start.Reaches (header ++ body.lines.toList.map (·.map correctChar)) fun read =>
    (rest ≠ [] → read.context.spell = none) ∧
    result.GatheredIn (done.map (·.definition)) read.closeBlock.definition

theorem unbroken_of_mem_sectionLines {mapping : ModMapping}
    (provides : mapping.Provides definition)
    (parsed : ModDefinition.parse modName script = .ok definition)
    (renumberEq : mapping.renumber modName script = .ok renumbered) (named : Quotable modName)
    {line : Line} (member : line ∈ sectionLines modName renumbered) : Text.Unbroken line := by
  simp only [sectionLines, List.mem_append, List.mem_cons, List.not_mem_nil, or_false] at member
  rcases member with ((rfl | rfl) | isLine) | rfl
  · exact fun _ inLine => by cases inLine
  · exact Text.unbroken_append (by decide +kernel) named.unbroken
  · exact (plain_of_renumber provides parsed renumberEq line isLine).unbroken
  · exact Text.unbroken_append (by decide +kernel) named.unbroken

theorem MergedBody.Written.addMod {header : List Line} {item : BodyItem}
    {done rest : List BodyItem} {body after : MergedBody}
    (written : body.Written result start header done (item :: rest)) (ready : item.Ready result)
    (named : Quotable item.definition.modName)
    (different : ∀ other ∈ rest, other.definition.modName ≠ item.definition.modName)
    (closed : rest ≠ [] → leavesSpellOpen item.definition.modName item.script = false)
    (added : body.addMod item = .ok after) :
    after.Written result start header (done ++ [item]) rest := by
  obtain ⟨renumbered, renumberEq, finished⟩ := bind_eq_ok.1 added
  obtain rfl := Except.ok.inj finished
  rw [written.mappings item List.mem_cons_self] at renumberEq
  obtain ⟨⟨definition, parsed, isFrozen⟩, provides⟩ := ready
  obtain ⟨script, frozen⟩ := item
  obtain rfl : frozen = definition.freeze := isFrozen
  have added : (body.lines ++ sectionLines definition.modName renumbered).toList =
      body.lines.toList ++ sectionLines definition.modName renumbered := by
    simp
  refine ⟨fun other member => ?_, fun line member => ?_, ?_⟩
  · have unequal : definition.modName ≠ other.definition.modName :=
      (different other member).symm
    rw [Std.TreeMap.getD_insert, if_neg (by rwa [compare_eq_iff_eq])]
    exact written.mappings other (List.mem_cons_of_mem _ member)
  · change line ∈ (body.lines ++ sectionLines definition.modName renumbered).toList at member
    rw [added] at member
    rcases List.mem_append.1 member with before | inSection
    · exact written.unbroken line before
    · exact unbroken_of_mem_sectionLines provides.of_freeze parsed renumberEq named inSection
  · have entered := written.reaches.mono fun read holds =>
      show read.context.spell = none ∧ result.GatheredIn (done.map (·.definition))
        read.closeBlock.definition from ⟨holds.1 (by simp), holds.2⟩
    have passed := reaches_sectionLines definition entered provides parsed renumberEq
    change start.Reaches (header ++
      (body.lines ++ sectionLines definition.modName renumbered).toList.map _) _
    rw [added, List.map_append, ← List.append_assoc, List.map_append]
    exact passed.mono fun read holds => ⟨fun more => holds.1 (closed more), holds.2⟩

/-- Reading the body of a merged file, all of which are lines, gathers all of its mods. -/
theorem MergedBody.reaches_write {header : List Line} {items : List BodyItem} {body : MergedBody}
    (ready : ∀ item ∈ items, item.Ready result)
    (named : ∀ item ∈ items, Quotable item.definition.modName)
    (distinct : (items.map (·.definition.modName)).Nodup)
    (closed : ∀ item ∈ items.dropLast,
      leavesSpellOpen item.definition.modName item.script = false)
    (reaches : start.Reaches header fun read =>
      read.context.spell = none ∧ result.GatheredIn [] read.closeBlock.definition)
    (written : MergedBody.write result.mappings items = .ok body) :
    (∀ line ∈ body.lines.toList, Text.Unbroken line) ∧
    start.Reaches (header ++ body.lines.toList.map (·.map correctChar)) fun read =>
      result.GatheredIn (items.map (·.definition)) read.closeBlock.definition := by
  have preserved : ∀ done item rest (before after : MergedBody),
      (done ++ item :: rest = items ∧ before.Written result start header done (item :: rest)) →
      before.addMod item = .ok after →
      (done ++ [item]) ++ rest = items ∧
      after.Written result start header (done ++ [item]) rest := by
    rintro done item rest before after ⟨split, holds⟩ stepped
    have member : item ∈ items := by simp [← split]
    refine ⟨by simp [← split], holds.addMod (ready item member) (named item member) ?_ ?_ stepped⟩
    · intro other isOther same
      rw [← split, List.map_append, List.map_cons, List.nodup_append, List.nodup_cons] at distinct
      refine distinct.2.1.1 ?_
      rw [← same]
      exact List.mem_map_of_mem isOther
    · intro more
      refine closed item ?_
      rw [← split, List.dropLast_append_of_ne_nil (List.cons_ne_nil item rest),
        List.dropLast_cons_of_ne_nil more]
      simp
  obtain ⟨all, added, finished⟩ := bind_eq_ok.1 written
  obtain rfl := Except.ok.inj finished
  have begins : ({ mappings := result.mappings } : MergedBody).Written result start header []
      items := by
    refine ⟨fun _ _ => rfl, fun line member => absurd member List.not_mem_nil, ?_⟩
    simpa using reaches.mono fun read holds => ⟨fun _ => holds.1, holds.2⟩
  obtain ⟨-, writtenAll⟩ := invariant_of_foldlM
    (fun done rest (body : MergedBody) => done ++ rest = items ∧
      body.Written result start header done rest)
    preserved ⟨List.nil_append items, begins⟩ added
  have lines : (all.lines ++ [[], endMark.toList]).toList =
      all.lines.toList ++ [[], endMark.toList] := by
    simp
  change (∀ line ∈ (all.lines ++ [[], endMark.toList]).toList, _) ∧ start.Reaches (header ++
    (all.lines ++ [[], endMark.toList]).toList.map _) _
  rw [lines]
  constructor
  · intro line member
    rcases List.mem_append.1 member with before | isLast
    · exact writtenAll.unbroken line before
    · have blankOrMark : ∀ last ∈ [[], endMark.toList], Text.Unbroken last := by
        decide +kernel
      exact blankOrMark line isLast
  · have passed := writtenAll.reaches.mono fun read holds => holds.2
    have ended := passed.blank.comment (readChars " MOD MERGER: End merged content")
    have mark : endMark.toList.map correctChar =
        '-' :: '-' :: readChars " MOD MERGER: End merged content" := by
      decide +kernel
    rw [← mark] at ended
    simpa using ended

end

end ModMerge
