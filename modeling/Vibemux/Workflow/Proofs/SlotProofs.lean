import Vibemux.Workflow.Slots

/-!
# Eligibility under stricter requests
-/

namespace Vibemux

open List SortDedup

theorem reasonIf_eq_nil {found : Prop} [Decidable found] {reason : Ineligibility} :
    reasonIf found reason = [] ↔ ¬found := by simp [reasonIf]

/-- To require more, to exclude more or to withdraw the opt-in never makes a slot eligible. -/
theorem eligibleSlots_stricter (slots : List SlotFacts) (request : EligibilityRequest)
    (required : List (SlotCapability × EvidenceLevel)) (excluded : List SpecIdentifier) (allow : Bool) :
    eligibleSlots slots { request with
      required := request.required ++ required
      excludedSlots := request.excludedSlots ++ excluded
      allowUnknownQuota := request.allowUnknownQuota && allow } ⊆ eligibleSlots slots request := by
  have hquota (h : reasonIf ((request.allowUnknownQuota && allow) = false) .quotaUnknownNotAllowed = []) :
      reasonIf (request.allowUnknownQuota = false) .quotaUnknownNotAllowed = [] := by
    rw [reasonIf_eq_nil, Bool.not_eq_false] at h ⊢
    exact (Bool.and_eq_true_iff.1 h).1
  intro id hid
  simp only [eligibleSlots, mem_sort, mem_map, mem_filter, decide_eq_true_eq, ineligibility,
    sortDedup_eq_nil, append_eq_nil_iff, flatMap_eq_nil_iff] at hid ⊢
  obtain ⟨slot, ⟨hmem, ⟨⟨⟨⟨⟨hneeds, hmode⟩, hhealth⟩, hcooldown⟩, hleased⟩, hslot⟩, hbudget⟩, rfl⟩ := hid
  refine ⟨slot, ⟨hmem, ⟨⟨⟨⟨⟨fun entry hentry => hneeds entry (mem_append_left _ hentry), hmode⟩, ?_⟩,
    hcooldown⟩, hleased⟩, ?_⟩, ?_⟩, rfl⟩
  · cases h : slot.health <;> rw [h] at hhealth
    case quotaUnknown => exact hquota hhealth
    all_goals exact hhealth
  · rw [reasonIf_eq_nil] at hslot ⊢
    exact fun hmem => hslot (mem_append_left _ hmem)
  · rcases h : slot.budget with _ | (_ | _) | _ <;> rw [h] at hbudget
    · exact hquota hbudget
    all_goals exact hbudget

end Vibemux
