import Mathlib.Data.List.Induction
import ModMerge.Proofs.Allocation.ExplicitPass

/-!
# Collisions along the pass over numbered ids

When a run moves, each of its ids that is taken is noted together with the mod that has it.
`CollisionProgress`, which holds between any two steps, tells who that is: an id that a run
meets was kept by an earlier step, whose mod is still its owner, since ids that are handed out
later are never kept ones. So what has been noted are the ids of moved runs that earlier runs
kept, each of them once and under the names of both mods.
-/

namespace ModMerge

/-! ### Noting -/

/-- The mods of a collision and the type of the ids that they collide over. -/
def Collision.parties (collision : Collision) : EntityType × String × String :=
  (collision.type, collision.owner, collision.claimant)

/-- An id has been noted for some parties. -/
def Noted (collisions : List Collision) (parties : EntityType × String × String) (id : Int) :
    Prop :=
  ∃ collision ∈ collisions, collision.parties = parties ∧ id ∈ collision.ids

/-- There is one collision for all ids of the same parties, and each id is listed once. -/
structure WellGrouped (collisions : List Collision) : Prop where
  parties : (collisions.map Collision.parties).Nodup
  notEmpty : ∀ collision ∈ collisions, collision.ids ≠ []
  nodup : ∀ collision ∈ collisions, collision.ids.Nodup

/-- The ids of a collision are those that were noted for its parties. -/
theorem WellGrouped.mem_ids_iff {collisions : List Collision} (grouped : WellGrouped collisions)
    {collision : Collision} (member : collision ∈ collisions) {id : Int} :
    id ∈ collision.ids ↔ Noted collisions collision.parties id := by
  constructor
  · exact fun inIds => ⟨collision, member, rfl, inIds⟩
  · rintro ⟨other, otherMember, same, inIds⟩
    obtain rfl := List.inj_on_of_nodup_map grouped.parties otherMember member same
    exact inIds

/-- A further id joins the collision of its parties or, if there is none, begins one. -/
theorem noteCollision_cases (type : EntityType) (owner claimant : String) (id : Int)
    (collisions : List Collision) :
    (∃ front collision back, collisions = front ++ collision :: back ∧
      collision.parties = (type, owner, claimant) ∧
      noteCollision type owner claimant id collisions =
        front ++ { collision with ids := collision.ids ++ [id] } :: back) ∨
    ((type, owner, claimant) ∉ collisions.map Collision.parties ∧
      noteCollision type owner claimant id collisions =
        collisions ++ [⟨type, owner, claimant, [id]⟩]) := by
  induction collisions with
  | nil => exact .inr ⟨List.not_mem_nil, rfl⟩
  | cons collision others inductionHypothesis =>
      rw [noteCollision]
      split
      · next same =>
          refine .inl ⟨[], collision, others, rfl, ?_, rfl⟩
          rw [Collision.parties, same.1, same.2.1, same.2.2]
      · next different =>
          have otherParties : (type, owner, claimant) ≠ collision.parties := by
            rintro same
            obtain ⟨rfl, rfl, rfl⟩ : collision.type = type ∧ collision.owner = owner ∧
                collision.claimant = claimant := by
              simpa [Collision.parties, eq_comm] using same
            exact different ⟨rfl, rfl, rfl⟩
          rcases inductionHypothesis with ⟨front, joined, back, split, same, noted⟩ | ⟨new, noted⟩
          · exact .inl ⟨collision :: front, joined, back, by rw [split, List.cons_append], same,
              by rw [noted, List.cons_append]⟩
          · refine .inr ⟨?_, by rw [noted, List.cons_append]⟩
            rw [List.map_cons, List.mem_cons, not_or]
            exact ⟨otherParties, new⟩

theorem noted_noteCollision_iff {type : EntityType} {owner claimant : String} {id other : Int}
    {collisions : List Collision} {parties : EntityType × String × String} :
    Noted (noteCollision type owner claimant id collisions) parties other ↔
      (parties = (type, owner, claimant) ∧ other = id) ∨ Noted collisions parties other := by
  rcases noteCollision_cases type owner claimant id collisions with
    ⟨front, joined, back, rfl, same, noted⟩ | ⟨-, noted⟩
  · have sameParties : ({ joined with ids := joined.ids ++ [id] } : Collision).parties =
        joined.parties := rfl
    simp only [noted, Noted, List.mem_append, List.mem_cons, or_and_right, exists_or,
      exists_eq_left, sameParties, List.not_mem_nil, or_false, same]
    grind
  · simp only [noted, Noted, List.mem_append, List.mem_singleton, or_and_right, exists_or,
      exists_eq_left, Collision.parties]
    grind

theorem wellGrouped_noteCollision {type : EntityType} {owner claimant : String} {id : Int}
    {collisions : List Collision} (grouped : WellGrouped collisions)
    (new : ¬ Noted collisions (type, owner, claimant) id) :
    WellGrouped (noteCollision type owner claimant id collisions) := by
  rcases noteCollision_cases type owner claimant id collisions with
    ⟨front, joined, back, rfl, same, noted⟩ | ⟨noParties, noted⟩
  · rw [noted]
    refine ⟨?_, fun collision member => ?_, fun collision member => ?_⟩
    · have parties := grouped.parties
      rw [List.map_append, List.map_cons] at parties ⊢
      exact parties
    · rcases List.mem_append.1 member with inFront | member
      · exact grouped.notEmpty collision (by simp [inFront])
      · rcases List.mem_cons.1 member with rfl | inBack
        · simp
        · exact grouped.notEmpty collision (by simp [inBack])
    · rcases List.mem_append.1 member with inFront | member
      · exact grouped.nodup collision (by simp [inFront])
      · rcases List.mem_cons.1 member with rfl | inBack
        · refine List.nodup_append'.2 ⟨grouped.nodup joined (by simp), List.nodup_singleton id, ?_⟩
          rw [List.disjoint_singleton]
          exact fun inIds => new ⟨joined, by simp, same, inIds⟩
        · exact grouped.nodup collision (by simp [inBack])
  · rw [noted]
    refine ⟨?_, fun collision member => ?_, fun collision member => ?_⟩
    · rw [List.map_append, List.map_singleton]
      refine List.nodup_append'.2 ⟨grouped.parties, List.nodup_singleton _, ?_⟩
      rw [List.disjoint_singleton]
      exact noParties
    · rcases List.mem_append.1 member with before | isNew
      · exact grouped.notEmpty collision before
      · rw [List.mem_singleton.1 isNew]
        simp
    · rcases List.mem_append.1 member with before | isNew
      · exact grouped.nodup collision before
      · rw [List.mem_singleton.1 isNew]
        exact List.nodup_singleton id

/-- Several ids of one claimant, each with its owner. -/
def noteAll (type : EntityType) (ownerOf : Int → String) (claimant : String) (ids : List Int)
    (collisions : List Collision) : List Collision :=
  ids.foldl (fun collisions id => noteCollision type (ownerOf id) claimant id collisions)
    collisions

theorem noted_noteAll_iff {type : EntityType} {ownerOf : Int → String} {claimant : String}
    {ids : List Int} {other : Int} {collisions : List Collision}
    {parties : EntityType × String × String} :
    Noted (noteAll type ownerOf claimant ids collisions) parties other ↔
      (parties = (type, ownerOf other, claimant) ∧ other ∈ ids) ∨
        Noted collisions parties other := by
  induction ids generalizing collisions with
  | nil => simp [noteAll]
  | cons id rest inductionHypothesis =>
      rw [noteAll, List.foldl_cons, ← noteAll, inductionHypothesis, noted_noteCollision_iff,
        List.mem_cons]
      grind

theorem wellGrouped_noteAll {type : EntityType} {ownerOf : Int → String} {claimant : String}
    {ids : List Int} {collisions : List Collision} (grouped : WellGrouped collisions)
    (nodup : ids.Nodup)
    (new : ∀ id ∈ ids, ∀ owner, ¬ Noted collisions (type, owner, claimant) id) :
    WellGrouped (noteAll type ownerOf claimant ids collisions) := by
  induction ids generalizing collisions with
  | nil => exact grouped
  | cons id rest inductionHypothesis =>
      rw [List.nodup_cons] at nodup
      refine inductionHypothesis
        (wellGrouped_noteCollision grouped (new id List.mem_cons_self _)) nodup.2 ?_
      intro other member owner
      rw [noted_noteCollision_iff, not_or]
      refine ⟨?_, new other (List.mem_cons_of_mem id member) owner⟩
      rintro ⟨-, rfl⟩
      exact nodup.1 member

/-! ### Who kept what -/

/-- Some step and the steps before it are in a relation. -/
def SomeStep (holds : List ExplicitStep → ExplicitStep → Prop) (steps : List ExplicitStep) :
    Prop :=
  ∃ earlier step later, steps = earlier ++ step :: later ∧ holds earlier step

theorem someStep_snoc {holds : List ExplicitStep → ExplicitStep → Prop}
    {steps : List ExplicitStep} {step : ExplicitStep} :
    SomeStep holds (steps ++ [step]) ↔ SomeStep holds steps ∨ holds steps step := by
  constructor
  · rintro ⟨earlier, other, later, split, holdsThere⟩
    rcases List.eq_nil_or_concat later with rfl | ⟨front, last, rfl⟩
    · obtain ⟨rfl, same⟩ := List.append_inj' split rfl
      obtain rfl := List.singleton_inj.1 same
      exact .inr holdsThere
    · have parts : steps ++ [step] = (earlier ++ other :: front) ++ [last] := by
        simpa using split
      exact .inl ⟨earlier, other, front, (List.append_inj' parts rfl).1, holdsThere⟩
  · rintro (⟨earlier, other, later, rfl, holdsThere⟩ | holdsNow)
    · exact ⟨earlier, other, later ++ [step], by simp, holdsThere⟩
    · exact ⟨steps, step, [], rfl, holdsNow⟩

/-- A mod has kept an id: it is in a run of the mod that stayed. -/
def KeptByMod (modName : String) (type : EntityType) (id : Int) : List ExplicitStep → Prop :=
  SomeStep fun earlier step =>
    ∃ ids, step = .run modName type ids ∧ ¬ step.Moves earlier ∧ id ∈ ids

/-- Two mods collide over an id: it is in a run of the claimant that moved, and the owner had
kept it. -/
def CollidesOver (type : EntityType) (owner claimant : String) (id : Int) :
    List ExplicitStep → Prop :=
  SomeStep fun earlier step => ∃ ids, step = .run claimant type ids ∧ step.Moves earlier ∧
    id ∈ ids ∧ KeptByMod owner type id earlier

theorem mem_keptIds_iff {type : EntityType} {id : Int} {steps : List ExplicitStep} :
    id ∈ keptIds type steps ↔ ∃ modName, KeptByMod modName type id steps := by
  induction steps using List.reverseRecOn with
  | nil => simp [keptIds, KeptByMod, SomeStep]
  | append_singleton steps step inductionHypothesis =>
      simp only [KeptByMod, someStep_snoc, exists_or] at inductionHypothesis ⊢
      rw [← inductionHypothesis]
      by_cases moves : step.Moves steps
      · rw [keptIds_snoc_of_moves moves]
        simp [moves]
      · cases step with
        | outOfRange modName other ids => exact absurd trivial moves
        | run modName other ids =>
            by_cases same : other = type
            · subst same
              rw [keptIds_snoc_run moves, List.mem_append]
              simp [moves]
            · have different : (ExplicitStep.run modName other ids).type ≠ type := same
              rw [keptIds_snoc, keepIds_of_type_ne _ different]
              simp [same]

theorem getElem?_own (ledger : TypeLedger) (modName : String) (ids : List Int) (id : Int) :
    (ledger.own modName ids).owners[id]? =
      if id ∈ ids then some modName else ledger.owners[id]? := by
  suffices general : ∀ owners : Std.TreeMap Int String,
      (ids.foldl (fun owners id => owners.insert id modName) owners)[id]? =
        if id ∈ ids then some modName else owners[id]? from general ledger.owners
  induction ids with
  | nil => simp
  | cons first rest inductionHypothesis =>
      intro owners
      rw [List.foldl_cons, inductionHypothesis, Std.TreeMap.getElem?_insert]
      simp only [Std.LawfulEqCmp.compare_eq_iff_eq, List.mem_cons]
      grind

namespace Allocation

/-- What the pass knows of owners and collisions after some steps. -/
structure CollisionProgress (done : List ExplicitStep) (allocation : Allocation) : Prop where
  owners : ∀ modName type id, KeptByMod modName type id done →
    (allocation.ledgers.get type).owners[id]? = some modName
  noted_iff : ∀ type owner claimant id,
    Noted allocation.collisions (type, owner, claimant) id ↔
      CollidesOver type owner claimant id done
  grouped : WellGrouped allocation.collisions

namespace CollisionProgress

variable {ranges : RangeTable} {modNames : List String} {modName : String} {type : EntityType}
  {done rest : List ExplicitStep} {step : ExplicitStep} {before after : Allocation}
  {ids newIds fresh : List Int}

/-- Owners of kept ids remain the same when a mod comes to own ids that nobody kept. -/
theorem owners_of_own (progress : before.CollisionProgress done) {ledger : TypeLedger}
    (ledgers : after.ledgers = before.ledgers.set type ledger)
    (owners : ledger.owners = ((before.ledgers.get type).own modName ids).owners)
    (unkept : ∀ id ∈ ids, id ∉ keptIds type done) :
    ∀ keeper other id, KeptByMod keeper other id done →
      (after.ledgers.get other).owners[id]? = some keeper := by
  intro keeper other id kept
  by_cases same : type = other
  · subst same
    have notIn : id ∉ ids := fun member => unkept id member (mem_keptIds_iff.2 ⟨keeper, kept⟩)
    rw [ledgers, EntityTable.get_set_self, owners, getElem?_own, if_neg notIn]
    exact progress.owners keeper type id kept
  · rw [ledgers, EntityTable.get_set_of_ne _ _ same]
    exact progress.owners keeper other id kept

/-- A run that stays. -/
theorem ofStays (progress : before.CollisionProgress done)
    (stays : ¬ (ExplicitStep.run modName type ids).Moves done)
    (ledgers : after.ledgers = before.ledgers.set type
      ((before.ledgers.get type).claimAll modName ids))
    (collisions : after.collisions = before.collisions) :
    after.CollisionProgress (done ++ [.run modName type ids]) where
  owners keeper other id kept := by
    rcases someStep_snoc.1 kept with earlier | ⟨_, same, -, member⟩
    · exact progress.owners_of_own ledgers rfl
        (fun id member inKept => stays ⟨id, member, inKept⟩) keeper other id earlier
    · obtain ⟨rfl, rfl, rfl⟩ := ExplicitStep.run.inj same
      rw [ledgers, EntityTable.get_set_self, TypeLedger.claimAll, getElem?_own, if_pos member]
  noted_iff other owner claimant id := by
    rw [collisions, progress.noted_iff, CollidesOver, someStep_snoc, or_iff_left]
    rintro ⟨_, -, moves, -⟩
    exact stays moves
  grouped := by
    rw [collisions]
    exact progress.grouped

/-- Ids out of range that are replaced. -/
theorem ofReplaced (progress : before.CollisionProgress done)
    (unkept : ∀ id ∈ newIds, id ∉ keptIds type done) {ledger : TypeLedger}
    (ledgers : after.ledgers = before.ledgers.set type ledger)
    (owners : ledger.owners = ((before.ledgers.get type).own modName newIds).owners)
    (collisions : after.collisions = before.collisions) :
    after.CollisionProgress (done ++ [.outOfRange modName type ids]) where
  owners keeper other id kept := by
    rcases someStep_snoc.1 kept with earlier | ⟨_, same, -⟩
    · exact progress.owners_of_own ledgers owners unkept keeper other id earlier
    · cases same
  noted_iff other owner claimant id := by
    rw [collisions, progress.noted_iff, CollidesOver, someStep_snoc, or_iff_left]
    rintro ⟨_, same, -⟩
    cases same
  grouped := by
    rw [collisions]
    exact progress.grouped

/-- A run that moves, and whose ids are noted if they are taken. -/
theorem ofMoves (progress : before.CollisionProgress done)
    (moves : (ExplicitStep.run modName type ids).Moves done) (nodup : ids.Nodup)
    (apart : ∀ earlier ∈ done, earlier.modName = modName → earlier.type = type →
      earlier.ids.Disjoint ids)
    {used : Int → Bool} (usedIff : ∀ id ∈ ids, used id = true ↔ id ∈ keptIds type done)
    (unkept : ∀ id ∈ newIds, id ∉ keptIds type done) {ledger : TypeLedger}
    (ledgers : after.ledgers = before.ledgers.set type ledger)
    (owners : ledger.owners = ((before.ledgers.get type).own modName newIds).owners)
    (collisions : after.collisions =
      noteAll type (fun id => (before.ledgers.get type).owners.getD id "?") modName
        (ids.filter used) before.collisions) :
    after.CollisionProgress (done ++ [.run modName type ids]) where
  owners keeper other id kept := by
    rcases someStep_snoc.1 kept with earlier | ⟨_, -, stays, -⟩
    · exact progress.owners_of_own ledgers owners unkept keeper other id earlier
    · exact absurd moves stays
  noted_iff other owner claimant id := by
    have ownerOf : ∀ keeper, KeptByMod keeper type id done →
        (before.ledgers.get type).owners.getD id "?" = keeper := by
      intro keeper kept
      rw [Std.TreeMap.getD_eq_getD_getElem?, progress.owners keeper type id kept,
        Option.getD_some]
    rw [collisions, noted_noteAll_iff, progress.noted_iff, CollidesOver, someStep_snoc, or_comm]
    refine or_congr_right ⟨?_, ?_⟩
    · rintro ⟨same, member⟩
      obtain ⟨inIds, isUsed⟩ := List.mem_filter.1 member
      obtain ⟨keeper, kept⟩ := mem_keptIds_iff.1 ((usedIff id inIds).1 isUsed)
      rw [ownerOf keeper kept] at same
      obtain ⟨rfl, sameMods⟩ := Prod.mk.inj same
      obtain ⟨rfl, rfl⟩ := Prod.mk.inj sameMods
      exact ⟨ids, rfl, moves, inIds, kept⟩
    · rintro ⟨_, same, -, inIds, kept⟩
      obtain ⟨rfl, rfl, rfl⟩ := ExplicitStep.run.inj same
      rw [ownerOf owner kept]
      exact ⟨rfl, List.mem_filter.2 ⟨inIds, (usedIff id inIds).2 (mem_keptIds_iff.2 ⟨_, kept⟩)⟩⟩
  grouped := by
    rw [collisions]
    refine wellGrouped_noteAll progress.grouped (nodup.filter _) fun id member owner noted => ?_
    obtain ⟨earlier, _, later, split, ids', rfl, -, inEarlier, -⟩ :=
      (progress.noted_iff _ _ _ _).1 noted
    have isDone : .run modName type ids' ∈ done := by simp [split]
    exact apart _ isDone rfl rfl inEarlier (List.mem_filter.1 member).1

end CollisionProgress

/-- Each step keeps what is known of owners and collisions. -/
theorem collisionProgress_step {ranges : RangeTable} {modNames : List String}
    {done rest : List ExplicitStep} {step : ExplicitStep} {before after : Allocation}
    (sound : SoundSteps ranges modNames (done ++ step :: rest))
    (progress : ∀ type, ∃ fresh, before.Progress ranges modNames type done (step :: rest) fresh)
    (collisions : before.CollisionProgress done)
    (stepped : before.placeExplicit step = .ok after) :
    after.CollisionProgress (done ++ [step]) := by
  have present : step ∈ done ++ step :: rest := by simp
  obtain ⟨fresh, progress⟩ := progress step.type
  have unkept : ∀ {newIds waiting : List Int} {ledger : TypeLedger},
      ledger.Accounts (ranges.get step.type) (keptIds step.type done) (fresh ++ newIds) waiting →
      ∀ id ∈ newIds, id ∉ keptIds step.type done :=
    fun accounts id isNew isKept =>
      (List.nodup_append'.1 accounts.nodup).2.2 isKept (List.mem_append_right _ isNew)
  cases placed_of_placeExplicit stepped with
  | @kept modName type ids free =>
      have progress : before.Progress ranges modNames type done
        (.run modName type ids :: rest) fresh := progress
      exact collisions.ofStays (progress.stays_of_free free) rfl rfl
  | @moved modName type ids newIds assigned _ taken assign ledgers _ noted _ =>
      have progress : before.Progress ranges modNames type done
        (.run modName type ids :: rest) fresh := progress
      obtain ⟨⟨handed, allocator⟩, -, finished⟩ := map_eq_ok.1 assign
      obtain ⟨rfl, rfl⟩ := Prod.mk.inj finished
      refine collisions.ofMoves (progress.moves_iff.2 taken) (sound.nodup _ present)
        sound.disjoint_earlier (fun id member => ?_)
        (unkept (progress.accounts.assign assign).1) ledgers rfl noted
      rw [Std.TreeSet.contains_iff_mem]
      exact progress.accounts.mem_used_of_waiting (by simp [ExplicitStep.waitingIds, member])
  | @replaced modName type ids newIds allocator _ handed ledgers _ noted _ =>
      have progress : before.Progress ranges modNames type done
        (.outOfRange modName type ids :: rest) fresh := progress
      obtain ⟨handsOut, -⟩ := IdAllocator.handsOut_of_allocateSingles handed
      exact collisions.ofReplaced (unkept (progress.accounts.handOut handsOut)) ledgers rfl noted

/-- After all passes the collisions that were noted are those that there are. -/
theorem collisionProgress_allocateAll {ranges : RangeTable} {ordered : List ModDefinition}
    (distinct : (ordered.map (·.modName)).Nodup) {placed : Allocation}
    (allocated : allocateAll ranges ordered = .ok placed) :
    placed.CollisionProgress (ordered.flatMap (·.explicitSteps ranges)) := by
  obtain ⟨start, started, run⟩ := bind_eq_ok.1 allocated
  have initially : start.CollisionProgress [] := by
    have nothing := (noted_allocateImplicit started).1
    refine ⟨?_, ?_, ?_⟩
    · rintro modName type id ⟨earlier, step, later, split, -⟩
      simp at split
    · simp [nothing, Noted, CollidesOver, SomeStep]
    · rw [nothing]
      exact ⟨List.nodup_nil, by simp, by simp⟩
  have progress : ∀ type, ∃ fresh, start.Progress ranges (ordered.map (·.modName)) type []
      (ordered.flatMap (·.explicitSteps ranges) ++ []) fresh := by
    intro type
    obtain ⟨fresh, progress⟩ := implicitProgress_allocateImplicit distinct started type
    exact ⟨fresh, by rw [List.append_nil]; exact progress_initial progress⟩
  have sound := soundSteps_explicitSteps ranges distinct
  rw [← List.append_nil (ordered.flatMap _)] at sound
  exact (invariant_of_placeExplicit sound (fun done allocation => allocation.CollisionProgress done)
    (fun done next rest before after whole progress collisions stepped =>
      collisionProgress_step (whole ▸ sound) progress collisions stepped)
    progress initially run).2

end Allocation
end ModMerge
