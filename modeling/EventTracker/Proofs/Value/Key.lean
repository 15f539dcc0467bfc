import EventTracker.Proofs.Value.Induction
import EventTracker.Value.Key

/-!
# Which keys are the same

What cannot be a key is the same as no key, and a text is the same key as itself only.
-/

namespace EventTracker.Value

theorem hashable_eq_isSome_fingerprint (v : Value) : v.hashable = v.fingerprint.isSome := by
  induction v using containerInduction with
  | tuple items ih =>
    have all : allHashable items = (fingerprints items).isSome := by
      induction items with
      | nil => rfl
      | cons v rest ihRest =>
        rw [allHashable, fingerprints, ih v List.mem_cons_self,
          ihRest fun w mem => ih w (List.mem_cons_of_mem _ mem)]
        cases v.fingerprint <;> cases fingerprints rest <;> rfl
    rw [hashable, fingerprint, Option.isSome_map, all]
  | float d => cases d <;> rfl
  | _ => rfl

theorem sameKey_self {key : Value} (h : key.hashable = true) : key.sameKey key = true := by
  rw [hashable_eq_isSome_fingerprint, Option.isSome_iff_exists] at h
  obtain ⟨parts, found⟩ := h
  exact sameKey_iff.2 ⟨parts, found, found⟩

theorem sameKey_of_not_hashable {key : Value} (h : key.hashable = false) (other : Value) :
    other.sameKey key = false := by
  rw [hashable_eq_isSome_fingerprint, Option.isSome_eq_false_iff, Option.isNone_iff_eq_none] at h
  unfold sameKey
  rw [h]
  cases other.fingerprint <;> rfl

theorem fingerprint_eq_text_iff {key : Value} {t : Text} :
    key.fingerprint = some [.text t] ↔ key = .str t := by
  constructor
  · intro h
    cases key with
    | str t =>
      cases h
      rfl
    | float d =>
      cases d with
      | nan payload => cases h
      | signed negative rank =>
        rw [fingerprint] at h
        · cases whole : (Double.signed negative rank).whole? <;> rw [whole] at h <;> cases h
        · simp
    | datetime t =>
      rw [fingerprint] at h
      split at h <;> cases h
    | tuple items =>
      rw [fingerprint] at h
      cases parts : fingerprints items <;> rw [parts] at h <;> cases h
    | _ => cases h
  · rintro rfl
    rfl

theorem sameKey_str_iff {key : Value} {t : Text} :
    key.sameKey (.str t) = true ↔ key = .str t := by
  rw [sameKey_iff, ← fingerprint_eq_text_iff]
  constructor
  · rintro ⟨x, here, there⟩
    cases there
    exact here
  · intro here
    exact ⟨_, here, rfl⟩

end EventTracker.Value
