import Cesr.Stream.FramerLimits

set_option autoImplicit false

namespace Cesr.Stream

open Base64 Checks Calls Resume

-- One complete group at the head of the input: its span, and the signatures
-- the bounded walk counts in it, those of its enclosures included.
def FrameLimits.scanGroupV1 (limits : FrameLimits) (input : Bytes) : Except ParseError (Nat × Nat) := do
  let fresh ← GroupFrameCursor.newV1 input
  limits.checkElements fresh
  let advanced := exec (GroupFrameCursor.advanceLimited limits.maxAttachmentBytes limits.maxGroupElements limits.maxSignatures input)
    fresh
  let len ← advanced.1
  let direct := advanced.2.signatureTotal
  let nested ← limits.scanPayload advanced.2 input direct
  pure (len, saturatingAdd direct nested)

variable (limits : FrameLimits)

-- A group is scanned exactly when it fits the limits, and the scan counts all its signatures.
theorem scan_group_ok (small : limits.maxSignatures ≤ usizeMax) (input : Bytes) (len count : Nat) :
    limits.scanGroupV1 input = .ok (len, count) ↔
      ∃ attached : Attached, CesrGroup.sizedOf .v1 input = .ok (attached.group, len) ∧ attached.Encloses ∧ attached.Fits limits ∧
        len ≤ limits.maxAttachmentBytes ∧ attached.signatures ≤ limits.maxSignatures ∧ count = attached.signatures := by
  have whole := fun fresh after read => group_whole limits input fresh limits.maxAttachmentBytes 0 limits 0 len after read small
    (Nat.zero_le _) (Nat.zero_add _) rfl rfl rfl
  have plain : ∀ value, value ≤ usizeMax → saturatingAdd 0 value = value := by
    intro value few
    rw [saturating_small 0 value (by omega), Nat.zero_add]
  unfold FrameLimits.scanGroupV1
  simp only [bind_ok, exists_done, pure_ok, Prod.mk.injEq]
  apply Iff.intro
  · intro found
    obtain ⟨fresh, read, counted, long, framed, nested, scanned, same, total⟩ := found
    generalize ran : exec (GroupFrameCursor.advanceLimited limits.maxAttachmentBytes limits.maxGroupElements limits.maxSignatures
      input) fresh = advanced at framed scanned total
    obtain ⟨answer, final⟩ := advanced
    dsimp only at framed scanned total
    rw [framed, same] at ran
    obtain ⟨group, sized, reached⟩ := limited_framed _ _ _ .v1 input fresh final len read ran
    obtain ⟨group', sized', _, holds⟩ := (group_limited _ _ _ .v1 input fresh len read).mp ⟨final, ran⟩
    rw [sized] at sized'
    cases sized'
    have direct : final.signatureTotal ≤ limits.maxSignatures := by
      rw [reached.signatures]
      exact holds.signatures
    obtain ⟨attached, sized'', encloses, fits, bytes, signatures, after⟩ := (whole fresh _ read).mp
      ⟨counted, final, nested, ran, by rw [plain _ (Nat.le_trans direct small)]; exact scanned, rfl⟩
    refine ⟨attached, sized'', encloses, fits, by omega, by omega, ?_⟩
    rw [← total, saturating_small _ _ (by omega)]
    omega
  · intro found
    obtain ⟨attached, sized, encloses, fits, bytes, signatures, total⟩ := found
    obtain ⟨fresh, read⟩ := sized_of_head .v1 _ _ sized
    obtain ⟨counted, final, nested, framed, scanned, after⟩ := (whole fresh _ read).mpr
      ⟨attached, sized, encloses, fits, by omega, by omega, rfl⟩
    have ran : exec (GroupFrameCursor.advanceLimited limits.maxAttachmentBytes limits.maxGroupElements limits.maxSignatures input)
        fresh = (.ok len, final) := framed
    rw [plain _ (by omega)] at scanned
    refine ⟨fresh, read, counted, len, by rw [ran], nested, by rw [ran]; exact scanned, rfl, ?_⟩
    rw [ran, total, saturating_small _ _ (by dsimp only; omega)]
    dsimp only
    omega

end Cesr.Stream
