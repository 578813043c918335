import ModMerge.Proofs.Fold
import ModMerge.Proofs.Text.Numerals
import ModMerge.Settings.Basic

/-!
# Settings that are texts

Any value of a setting has a text, but it can only be written if no integer in it has too many
digits. Of settings that have been checked this is known of those that the check looks at.
-/

namespace ModMerge

/-- The text of a value can be written. -/
def SettingValue.Writable (value : SettingValue) : Prop :=
  ∀ number ∈ value.numbers, Text.Short number

instance (value : SettingValue) : Decidable value.Writable :=
  inferInstanceAs (Decidable (∀ number ∈ value.numbers, Text.Short number))

namespace MergeSettings

theorem requireTexts_eq_ok_iff {values : List SettingValue} :
    requireTexts values = .ok () ↔ ∀ value ∈ values, value.Writable := by
  rw [requireTexts, mapError_eq_ok, Text.requireWritable_eq_ok_iff, List.forall_mem_flatMap]
  rfl

/-- Checking settings has written three of them. -/
theorem writable_of_problems {settings : MergeSettings} {problems : List SettingsProblem}
    (found : settings.problems = .ok problems) :
    ∀ value ∈ [settings.modName, settings.displayName, settings.logLevel], value.Writable := by
  obtain ⟨⟨⟩, written, -⟩ := bind_eq_ok.1 found
  exact requireTexts_eq_ok_iff.1 written

end MergeSettings
end ModMerge
