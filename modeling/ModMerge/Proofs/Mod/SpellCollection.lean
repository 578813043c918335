import Mathlib.Data.List.Perm.Basic
import ModMerge.Proofs.Mod.SpellRuns

/-!
# What the lines of a spell block tell together

A spell block is told its effect, its damage value and the spell that it copies by lines of
their own. If there is at most one line of each kind, then their order does not matter: what
the block has come to depends only on what it has been told (`foldl_after`), lines of different
kinds tell their parts independently (`foldl_told_eq_of_perm`), and wherever the damage value is
settled, it means what it means to the whole block (`exists_settlement`).
-/

namespace ModMerge

namespace LineMeaning

/-- Whether a line names a spell that the block copies. -/
def isCopySpell : LineMeaning → Bool
  | .spellContent .copySpell _ _ => true
  | _ => false

/-- Whether a line tells a spell block its effect, its damage value or the spell that it
copies. -/
def tellsSpell (meaning : LineMeaning) : Bool :=
  meaning.isEffect || meaning.damage?.isSome || meaning.isCopySpell

theorem exists_spellContent {meaning : LineMeaning} (tells : meaning.tellsSpell = true) :
    ∃ directive ref argument, meaning = .spellContent directive ref argument := by
  cases meaning with
  | spellContent directive ref argument => exact ⟨directive, ref, argument, rfl⟩
  | _ => cases tells

/-- There is at most one line of each of the three kinds. -/
structure TellOnce (meanings : List LineMeaning) : Prop where
  effect : meanings.countP (·.isEffect) ≤ 1
  damage : meanings.countP (·.damage?.isSome) ≤ 1
  copySpell : meanings.countP (·.isCopySpell) ≤ 1

end LineMeaning

theorem LineMeaning.TellOnce.of_perm {meanings others : List LineMeaning}
    (once : LineMeaning.TellOnce meanings) (perm : others.Perm meanings) :
    LineMeaning.TellOnce others :=
  ⟨perm.countP_eq _ ▸ once.effect, perm.countP_eq _ ▸ once.damage,
    perm.countP_eq _ ▸ once.copySpell⟩

/-- Of a kind of which there is one at most, all members are the same. -/
theorem eq_of_countP_le_one {Value : Type} {isKind : Value → Bool} {values : List Value}
    (once : values.countP isKind ≤ 1) {first second : Value} (isFirst : first ∈ values)
    (isSecond : second ∈ values) (firstKind : isKind first = true)
    (secondKind : isKind second = true) : first = second := by
  rw [List.countP_eq_length_filter] at once
  have inFirst := List.mem_filter.2 ⟨isFirst, firstKind⟩
  have inSecond := List.mem_filter.2 ⟨isSecond, secondKind⟩
  match kept : values.filter isKind, once with
  | [], _ => rw [kept] at inFirst; cases inFirst
  | [only], _ =>
      rw [kept, List.mem_singleton] at inFirst inSecond
      exact inFirst.trans inSecond.symm

namespace SpellBlock

variable {spell : SpellBlock} {meaning : LineMeaning} {meanings : List LineMeaning}

/-- The spell block after it has been told what a line says, and before it deals with that. -/
def told (spell : SpellBlock) : LineMeaning → SpellBlock
  | .spellContent directive _ argument => spell.read directive argument
  | _ => spell

/-- The spell block after it has dealt with its damage value if it has an effect. -/
def dealt (spell : SpellBlock) : SpellBlock :=
  { spell with resolved := spell.effect.isSome && spell.damage.isSome }

/-- What the block has been told and what the lines tell it yet come to at most one effect and one
damage value. -/
structure ToldOnce (spell : SpellBlock) (meanings : List LineMeaning) : Prop where
  effect : spell.effect.isSome.toNat + meanings.countP (·.isEffect) ≤ 1
  damage : spell.damage.isSome.toNat + meanings.countP (·.damage?.isSome) ≤ 1

/-! ### One line -/

theorem effect_told (notEffect : meaning.isEffect = false) (spell : SpellBlock) :
    (spell.told meaning).effect = spell.effect := by
  cases meaning with
  | spellContent directive ref argument =>
      refine effect_read ?_ spell argument
      rintro rfl
      cases notEffect
  | _ => rfl

theorem damage_told (noDamage : meaning.damage? = none) (spell : SpellBlock) :
    (spell.told meaning).damage = spell.damage := by
  cases meaning with
  | spellContent directive ref argument =>
      have noNumber := LineMeaning.isSome_damage?_spellContent directive ref argument
      rw [noDamage] at noNumber
      exact damage_read noNumber.symm spell
  | _ => rfl

theorem told_withResolved (spell : SpellBlock) (resolved : Bool) (meaning : LineMeaning) :
    ({ spell with resolved } : SpellBlock).told meaning = { spell.told meaning with resolved } := by
  cases meaning with
  | spellContent directive ref argument => cases directive <;> cases argument <;> rfl
  | _ => rfl

/-- Lines of different kinds tell their parts independently of each other. -/
theorem told_told_comm {first second : LineMeaning} (spell : SpellBlock)
    (effect : ¬(first.isEffect = true ∧ second.isEffect = true))
    (damage : ¬(first.damage?.isSome = true ∧ second.damage?.isSome = true))
    (copySpell : ¬(first.isCopySpell = true ∧ second.isCopySpell = true)) :
    (spell.told first).told second = (spell.told second).told first := by
  cases first with
  | spellContent directive ref argument =>
      cases second with
      | spellContent otherDirective otherRef otherArgument =>
          cases directive <;> cases otherDirective <;> cases argument <;> cases otherArgument <;>
            first
              | rfl
              | exact absurd ⟨rfl, rfl⟩ effect
              | exact absurd ⟨rfl, rfl⟩ damage
              | exact absurd ⟨rfl, rfl⟩ copySpell
      | _ => rfl
  | _ => rfl

/-! ### What a block is told once -/

namespace ToldOnce

/-- A block that has an effect is told no other. -/
theorem not_effect (once : spell.ToldOnce meanings) (hasEffect : spell.effect.isSome = true) :
    ∀ meaning ∈ meanings, meaning.isEffect = false := by
  have noOther := once.effect
  rw [hasEffect, Bool.toNat_true] at noOther
  have zero : meanings.countP (·.isEffect) = 0 := by omega
  simpa using List.countP_eq_zero.1 zero

/-- A block that has a damage value is told no other. -/
theorem not_damage (once : spell.ToldOnce meanings) (hasDamage : spell.damage.isSome = true) :
    ∀ meaning ∈ meanings, meaning.damage? = none := by
  have noOther := once.damage
  rw [hasDamage, Bool.toNat_true] at noOther
  have zero : meanings.countP (·.damage?.isSome) = 0 := by omega
  simpa using List.countP_eq_zero.1 zero

theorem told (once : spell.ToldOnce (meaning :: meanings)) :
    (spell.told meaning).ToldOnce meanings := by
  obtain ⟨effect, damage⟩ := once
  rw [List.countP_cons] at effect damage
  refine ⟨?_, ?_⟩
  · cases isEffect : meaning.isEffect with
    | true =>
        have atMostOne := Bool.toNat_le (spell.told meaning).effect.isSome
        rw [isEffect, if_pos rfl] at effect
        omega
    | false =>
        rw [isEffect, if_neg Bool.false_ne_true] at effect
        rwa [effect_told isEffect]
  · cases isDamage : meaning.damage? with
    | some value =>
        have atMostOne := Bool.toNat_le (spell.told meaning).damage.isSome
        rw [isDamage, Option.isSome_some, if_pos rfl] at damage
        omega
    | none =>
        rw [isDamage, Option.isSome_none, if_neg Bool.false_ne_true] at damage
        rwa [damage_told isDamage]

theorem foldl_told {front : List LineMeaning} (once : spell.ToldOnce (front ++ meanings)) :
    (front.foldl SpellBlock.told spell).ToldOnce meanings := by
  induction front generalizing spell with
  | nil => exact once
  | cons first rest inductionHypothesis => exact inductionHypothesis once.told

theorem of_append {back : List LineMeaning} (once : spell.ToldOnce (meanings ++ back)) :
    spell.ToldOnce meanings := by
  obtain ⟨effect, damage⟩ := once
  rw [List.countP_append] at effect damage
  exact ⟨by omega, by omega⟩

theorem withResolved (once : spell.ToldOnce meanings) (resolved : Bool) :
    ({ spell with resolved } : SpellBlock).ToldOnce meanings :=
  ⟨once.effect, once.damage⟩

end ToldOnce

/-- A block that has not been told anything is told its effect and its damage value once by lines
that tell each once. -/
theorem toldOnce_of_tellOnce (waits : spell.Waits) (noDamage : spell.damage = none)
    (once : LineMeaning.TellOnce meanings) : spell.ToldOnce meanings := by
  refine ⟨?_, ?_⟩
  · rw [waits.effect, Option.isSome_none, Bool.toNat_false, Nat.zero_add]
    exact once.effect
  · rw [noDamage, Option.isSome_none, Bool.toNat_false, Nat.zero_add]
    exact once.damage

/-! ### All lines -/

theorem dealt_of_withResolved (spell : SpellBlock) {resolved : Bool}
    (both : resolved = true → (spell.effect.isSome && spell.damage.isSome) = true) :
    (if ({ spell with resolved } : SpellBlock).ready then { spell with resolved := true }
      else { spell with resolved }) = spell.dealt := by
  cases resolved with
  | true =>
      rw [dealt, both rfl]
      rfl
  | false =>
      rw [ready, dealt]
      cases hasBoth : spell.effect.isSome && spell.damage.isSome <;> simp [hasBoth]

/-- After a line, the block has dealt with what it has been told. -/
theorem after_dealt (once : spell.ToldOnce (meaning :: meanings)) :
    spell.dealt.after meaning = (spell.told meaning).dealt := by
  cases meaning with
  | spellContent directive ref argument =>
      have readEq : spell.dealt.read directive argument = { spell.read directive argument with
          resolved := spell.effect.isSome && spell.damage.isSome } :=
        told_withResolved spell _ (.spellContent directive ref argument)
      simp only [after, readEq]
      refine dealt_of_withResolved (spell.told (.spellContent directive ref argument))
        fun both => ?_
      obtain ⟨hasEffect, hasDamage⟩ := Bool.and_eq_true_iff.1 both
      rwa [effect_told (once.not_effect hasEffect _ List.mem_cons_self),
        damage_told (once.not_damage hasDamage _ List.mem_cons_self)]
  | _ => rfl

theorem foldl_after_dealt (once : spell.ToldOnce meanings) :
    meanings.foldl after spell.dealt = (meanings.foldl told spell).dealt := by
  induction meanings generalizing spell with
  | nil => rfl
  | cons meaning rest inductionHypothesis =>
      rw [List.foldl_cons, after_dealt once, inductionHypothesis once.told, List.foldl_cons]

/-- A block that waits has nothing to deal with. -/
theorem dealt_of_waits (waits : spell.Waits) : spell.dealt = spell := by
  rw [dealt, waits.effect, Option.isSome_none, Bool.false_and, ← waits.effect, ← waits.unresolved]

/-- What a block has come to depends only on what it has been told. -/
theorem foldl_after (waits : spell.Waits) (once : spell.ToldOnce meanings) :
    meanings.foldl after spell = (meanings.foldl told spell).dealt := by
  rw [← foldl_after_dealt once, dealt_of_waits waits]

theorem foldl_told_withResolved (spell : SpellBlock) (resolved : Bool)
    (meanings : List LineMeaning) : meanings.foldl told { spell with resolved } =
      { meanings.foldl told spell with resolved } := by
  induction meanings generalizing spell with
  | nil => rfl
  | cons meaning rest inductionHypothesis =>
      rw [List.foldl_cons, told_withResolved, inductionHypothesis, List.foldl_cons]

/-- In which order a block is told its parts does not matter. -/
theorem foldl_told_eq_of_perm {others : List LineMeaning} (perm : others.Perm meanings)
    (once : LineMeaning.TellOnce meanings) (spell : SpellBlock) :
    others.foldl told spell = meanings.foldl told spell := by
  refine (perm.symm.foldl_eq' (fun first isFirst second isSecond spell => ?_) spell).symm
  by_cases same : first = second
  · rw [same]
  · exact told_told_comm spell
      (fun both => same (eq_of_countP_le_one once.effect isFirst isSecond both.1 both.2))
      (fun both => same (eq_of_countP_le_one once.damage isFirst isSecond both.1 both.2))
      (fun both => same (eq_of_countP_le_one once.copySpell isFirst isSecond both.1 both.2))

/-- Lines in another order make the same of a block. -/
theorem foldl_after_eq_of_perm {others : List LineMeaning} (perm : others.Perm meanings)
    (waits : spell.Waits) (noDamage : spell.damage = none)
    (once : LineMeaning.TellOnce meanings) :
    others.foldl after spell = meanings.foldl after spell := by
  rw [foldl_after waits (toldOnce_of_tellOnce waits noDamage (once.of_perm perm)),
    foldl_after waits (toldOnce_of_tellOnce waits noDamage once),
    foldl_told_eq_of_perm perm once]

/-! ### The meaning of the damage value -/

/-- Once there is an effect, other lines do not bear on what the damage value means. -/
theorem damageTarget_told (hasEffect : spell.effect.isSome = true)
    (notEffect : meaning.isEffect = false) (noDamage : meaning.damage? = none) :
    (spell.told meaning).damageTarget = spell.damageTarget := by
  obtain ⟨effect, isEffect⟩ := Option.isSome_iff_exists.1 hasEffect
  rw [damageTarget, damageTarget, damage_told noDamage, effect_told notEffect, isEffect]
  rfl

theorem damageTarget_foldl_told (hasEffect : spell.effect.isSome = true)
    (others : ∀ meaning ∈ meanings, meaning.isEffect = false ∧ meaning.damage? = none) :
    (meanings.foldl told spell).damageTarget = spell.damageTarget := by
  induction meanings generalizing spell with
  | nil => rfl
  | cons meaning rest inductionHypothesis =>
      obtain ⟨notEffect, noDamage⟩ := others meaning List.mem_cons_self
      rw [List.foldl_cons, inductionHypothesis (by rwa [effect_told notEffect])
        fun other member => others other (List.mem_cons_of_mem meaning member),
        damageTarget_told hasEffect notEffect noDamage]

/-- A damage value that no other follows is settled, and it means what it means to the whole
block. -/
theorem ToldOnce.exists_settlement (once : spell.ToldOnce meanings)
    (unresolved : spell.resolved = false) (hasDamage : spell.damage.isSome = true)
    (notEnd : ∀ meaning ∈ meanings, meaning ≠ .blockEnd) (later : List LineMeaning) :
    ∃ settled, spell.settlement (meanings ++ .blockEnd :: later) = some settled ∧
      settled.damageTarget = (meanings.foldl SpellBlock.told spell).damageTarget := by
  induction meanings generalizing spell with
  | nil =>
      refine ⟨spell, ?_, rfl⟩
      rw [List.nil_append, settlement_blockEnd]
      cases ready : spell.ready with
      | true => exact settlement_of_ready ready []
      | false => rw [settlement_nil ready, unresolved, if_neg Bool.false_ne_true]
  | cons meaning rest inductionHypothesis =>
      have noDamage := once.not_damage hasDamage meaning List.mem_cons_self
      cases ready : spell.ready with
      | true =>
          have hasEffect : spell.effect.isSome = true := by
            rw [SpellBlock.ready, Bool.and_eq_true, Bool.and_eq_true] at ready
            exact ready.1.2
          exact ⟨spell, settlement_of_ready ready _,
            (damageTarget_foldl_told hasEffect fun other member =>
              ⟨once.not_effect hasEffect other member,
                once.not_damage hasDamage other member⟩).symm⟩
      | false =>
          have goesOn : spell.settlement (meaning :: rest ++ .blockEnd :: later) =
              (spell.told meaning).settlement (rest ++ .blockEnd :: later) := by
            cases meaning with
            | spellContent directive ref argument =>
                rw [List.cons_append, settlement_spellContent ready,
                  ← LineMeaning.isSome_damage?_spellContent directive ref argument, noDamage]
                rfl
            | _ => exact settlement_cons (notEnd _ List.mem_cons_self) (by simp) _
          rw [goesOn, List.foldl_cons]
          refine inductionHypothesis once.told ?_ ?_ fun other member =>
            notEnd other (List.mem_cons_of_mem meaning member)
          · rw [← unresolved]
            cases meaning with
            | spellContent directive ref argument => exact resolved_read spell directive argument
            | _ => rfl
          · rwa [damage_told noDamage]

/-- Wherever in a block the line with its damage value stands, the value is settled and means what
it means to the whole block. -/
theorem exists_settlement_of_tellOnce (waits : spell.Waits) (noDamage : spell.damage = none)
    {front back : List LineMeaning} {directive : SpellDirective} {ref : Option DirectiveRef}
    {damage : Int} (isDamage : directive.isDamage = true)
    (once : LineMeaning.TellOnce (front ++ .spellContent directive ref (.number damage) :: back))
    (notEnd : ∀ meaning ∈ back, meaning ≠ .blockEnd) (later : List LineMeaning) :
    ∃ settled, ((front.foldl after spell).read directive (.number damage)).settlement
        (back ++ .blockEnd :: later) = some settled ∧
      settled.damage = some damage ∧
      settled.damageTarget = ((front ++ .spellContent directive ref (.number damage) :: back).foldl
        after spell).damageTarget := by
  have toldOnce := toldOnce_of_tellOnce waits noDamage once
  rw [foldl_after waits toldOnce, foldl_after waits toldOnce.of_append, List.foldl_append,
    List.foldl_cons]
  have onceHere := toldOnce.foldl_told
  generalize front.foldl told spell = before at onceHere
  have gives : (LineMeaning.spellContent directive ref (.number damage)).damage? = some damage :=
    LineMeaning.damage?_eq_some_iff.2 ⟨directive, ref, isDamage, rfl⟩
  have noneBefore : before.damage.isSome = false := by
    rw [Bool.eq_false_iff]
    intro hasDamage
    cases gives.symm.trans (onceHere.not_damage hasDamage _ List.mem_cons_self)
  have readEq : before.dealt.read directive (.number damage) =
      { before.read directive (.number damage) with
        resolved := before.effect.isSome && before.damage.isSome } :=
    told_withResolved before _ (.spellContent directive ref (.number damage))
  have hasDamage : (before.dealt.read directive (.number damage)).damage = some damage := by
    rw [read_of_isDamage isDamage]
  obtain ⟨settled, settles, target⟩ :=
    (onceHere.told.withResolved (before.effect.isSome && before.damage.isSome)).exists_settlement
      (by rw [noneBefore, Bool.and_false]) (Option.isSome_of_eq_some (readEq ▸ hasDamage)) notEnd
      later
  refine ⟨settled, readEq ▸ settles, ?_, ?_⟩
  · rw [← hasDamage, readEq]
    exact damage_of_settlement settles
  · rw [target, foldl_told_withResolved]
    rfl

end SpellBlock
end ModMerge
