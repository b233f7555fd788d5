/-
# The statuses of a configuration

A reader that returns nothing has written an error. So a configuration that is
returned has an appearance for every status of its document, and among them are
the two that the program itself names.
-/

import PixelStatus.Core.Config.DeclaredAppearances
import PixelStatus.Core.Config.Load
import PixelStatus.Core.State

namespace PixelStatus

open Logged

section

variable {round : Rounding}

/-- A status of the document joins the statuses, which keep what they had. -/
theorem parseStatus_ensures {statuses : Statuses} {status : Bytes × Json} :
    Ensures (fun result : Statuses => status.1 ∈ result ∧ ∀ other ∈ statuses, other ∈ result)
      (parseStatus round statuses status) := by
  unfold parseStatus
  dsimp only
  split
  · exact ensures_addError_bind
  · split
    · apply parseAppearance_returns.bind
      intro appearance _
      apply Ensures.pure
      refine ⟨?_, ?_⟩
      · exact UnorderedMap.mem_emplace.mpr (Or.inl rfl)
      · exact fun other member => UnorderedMap.mem_emplace.mpr (Or.inr member)
    · exact ensures_addError_bind

/-- Every status that is written comes to be defined. -/
theorem foldlM_parseStatus_ensures {fields : Members} {statuses : Statuses} :
    Ensures (fun result : Statuses =>
        (∀ field ∈ fields, field.1 ∈ result) ∧ ∀ other ∈ statuses, other ∈ result)
      (fields.foldlM (parseStatus round) statuses) := by
  induction fields generalizing statuses with
  | nil => exact Ensures.pure ⟨List.forall_mem_nil _, fun _ member => member⟩
  | cons field fields ih =>
      rw [List.foldlM_cons]
      apply parseStatus_ensures.bind
      intro next added
      apply ih.mono
      intro result kept
      refine ⟨?_, ?_⟩
      · exact List.forall_mem_cons.mpr ⟨kept.2 field.1 added.1, kept.1⟩
      · exact fun other member => kept.2 other (added.2 other member)

/-- The statuses that the program itself names have an appearance. -/
structure RequiredStatuses (statuses : Statuses) : Prop where
  unknown : bytes "unknown" ∈ statuses
  stale : staleStatus ∈ statuses

/-- A status that the document has is defined. -/
theorem mem_of_contains {fields : Members} {key : String} {statuses : Statuses}
    (each : ∀ field ∈ fields, field.1 ∈ statuses) (contained : fields.contains key = true) :
    bytes key ∈ statuses := by
  obtain ⟨value, found⟩ := Option.isSome_iff_exists.mp contained
  obtain ⟨before, after, rfl, _⟩ := List.lookup_eq_some_iff.mp found
  exact each (bytes key, value) (by simp)

/-- The two statuses that the program needs are defined. -/
theorem parseStatuses_ensures {root : Members} :
    Ensures RequiredStatuses (parseStatuses round root) := by
  unfold parseStatuses
  split
  · split
    · exact ensures_addError_bind
    · split
      · exact ensures_addError_bind
      next fields _ _ _ =>
        apply foldlM_parseStatus_ensures.bind
        intro statuses kept
        by_cases unknown : Members.contains fields "unknown" = true
        · by_cases stale : Members.contains fields "stale" = true
          · rw [unknown, stale]
            exact Ensures.pure ⟨mem_of_contains kept.1 unknown, mem_of_contains kept.1 stale⟩
          · rw [unknown, Bool.eq_false_of_not_eq_true stale]
            exact ensures_addError_bind
        · rw [Bool.eq_false_of_not_eq_true unknown]
          exact ensures_addError_bind
  · exact ensures_addError_bind

/-- So they are in every configuration that is read. -/
theorem parseConfig_requires {platform : Platform} {root : Members} :
    Ensures (fun config => RequiredStatuses config.statuses) (parseConfig platform round root) := by
  apply Ensures.step
  intro _
  apply Ensures.step
  intro schemaVersion
  apply Ensures.step
  intro display
  apply parseStatuses_ensures.bind
  intro statuses required
  apply Ensures.step
  intro monitors
  apply Ensures.step
  intro contents
  exact Ensures.pure required

/-- A configuration that is returned has the required statuses. -/
theorem requiredStatuses_of_loadConfigFile {platform : Platform} {parse : Bytes → Option Json}
    {path : Bytes} {file : ConfigFile} {config : AppConfig}
    (loaded : (loadConfigFile platform round parse path file).config = some config) :
    RequiredStatuses config.statuses := by
  obtain ⟨root, silent, rfl⟩ := parseConfig_of_loadConfigFile loaded
  exact parseConfig_requires.value silent

end

end PixelStatus
