import Scrip.Credential.Username
import Scrip.Proofs.Text.Trimmed

/-!
# Canonical usernames

The canonical spelling of a name is its own canonical spelling, blanks around a name make no
difference to it, and an accepted name is accepted as it is kept (`usernames_settled`).
-/

namespace Scrip.Credential

open Text

theorem toList_canonicalUsername (raw : String) :
    (canonicalUsername raw).toList = Normal.nfcChars (trimChars raw.toList) := by
  simp only [canonicalUsername, Normal.nfc, trim, String.toList_ofList]

/-- A canonical spelling stays as it is. -/
theorem canonicalUsername_idem (raw : String) :
    canonicalUsername (canonicalUsername raw) = canonicalUsername raw := by
  rw [← String.toList_inj]
  simp only [toList_canonicalUsername, Normal.trimChars_nfcChars, Normal.nfcChars_nfcChars]

/-- The name that is accepted is the canonical one. -/
theorem normalizeUsername_eq_ok {raw name : String} (h : normalizeUsername raw = .ok name) :
    name = canonicalUsername raw := by
  unfold normalizeUsername at h
  dsimp only at h
  split at h
  · exact (Except.ok.inj h).symm
  · cases h

/-- A name that is accepted has a length within bounds. -/
theorem length_of_normalizeUsername {raw name : String} (h : normalizeUsername raw = .ok name) :
    usernameBounds.1 ≤ name.length ∧ name.length ≤ usernameBounds.2 := by
  rw [normalizeUsername_eq_ok h]
  unfold normalizeUsername at h
  dsimp only at h
  split at h
  · assumption
  · cases h

theorem normalizeUsername_of_fits {raw : String}
    (h : usernameBounds.1 ≤ (canonicalUsername raw).length ∧
      (canonicalUsername raw).length ≤ usernameBounds.2) :
    normalizeUsername raw = .ok (canonicalUsername raw) := by
  unfold normalizeUsername
  exact if_pos h

theorem canonicalUsername_accepted {raw name : String} (h : normalizeUsername raw = .ok name) :
    canonicalUsername name = name := by
  rw [normalizeUsername_eq_ok h, canonicalUsername_idem]

/-- An accepted name is accepted as it is kept. -/
theorem normalizeUsername_accepted {raw name : String} (h : normalizeUsername raw = .ok name) :
    normalizeUsername name = .ok name := by
  have same := canonicalUsername_accepted h
  have fits := length_of_normalizeUsername h
  rw [normalizeUsername_of_fits (same.symm ▸ fits), same]

/-- Blanks around a name make no difference. -/
theorem canonicalUsername_blanks {before after : String}
    (hb : ∀ c ∈ before.toList, isBlank c = true) (ha : ∀ c ∈ after.toList, isBlank c = true)
    (raw : String) : canonicalUsername (before ++ raw ++ after) = canonicalUsername raw := by
  rw [← String.toList_inj]
  simp only [toList_canonicalUsername, String.toList_append]
  rw [trimChars_append_blank ha, trimChars_blank_append hb]

/-- Names are settled by being spelled canonically once: the canonical spelling is its own, an
accepted name is its own canonical spelling and accepted as it is, and blanks around a name make no
difference. -/
theorem usernames_settled :
    (∀ raw, canonicalUsername (canonicalUsername raw) = canonicalUsername raw) ∧
    (∀ raw name, normalizeUsername raw = .ok name →
      canonicalUsername name = name ∧ normalizeUsername name = .ok name) ∧
    ∀ before after : String, (∀ c ∈ before.toList, isBlank c = true) →
      (∀ c ∈ after.toList, isBlank c = true) →
      ∀ raw, canonicalUsername (before ++ raw ++ after) = canonicalUsername raw := by
  refine ⟨canonicalUsername_idem, fun raw name h => ?_, fun before after hb ha => ?_⟩
  · exact ⟨canonicalUsername_accepted h, normalizeUsername_accepted h⟩
  · exact canonicalUsername_blanks hb ha

/-- A name between blanks of several kinds, with two marks out of order after one letter. -/
theorem usernames_settled_marks :
    let raw := "\u00a0\tnga\u0301\u0323\u3000"
    let name := "ng\u1ea1\u0301"
    normalizeUsername raw = .ok name ∧ (∀ c ∈ "\u00a0\t".toList, isBlank c = true) ∧
      (∀ c ∈ "\u3000".toList, isBlank c = true) ∧
      canonicalUsername name = name ∧ normalizeUsername name = .ok name ∧
      canonicalUsername ("\u00a0\t" ++ "nga\u0301\u0323" ++ "\u3000") =
        canonicalUsername "nga\u0301\u0323" := by
  intro raw name
  have spelled : canonicalUsername raw = name := by decide +kernel
  have accepted : normalizeUsername raw = .ok name := by
    rw [normalizeUsername_of_fits (by rw [spelled]; decide), spelled]
  have before : ∀ c ∈ "\u00a0\t".toList, isBlank c = true :=
    List.all_eq_true.mp (by decide)
  have after : ∀ c ∈ "\u3000".toList, isBlank c = true := List.all_eq_true.mp (by decide)
  obtain ⟨-, kept, around⟩ := usernames_settled
  exact ⟨accepted, before, after, (kept raw name accepted).1, (kept raw name accepted).2,
    around _ _ before after _⟩

end Scrip.Credential
