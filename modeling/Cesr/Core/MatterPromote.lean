import Cesr.Core.MatterCode

set_option autoImplicit false

namespace Cesr

open Checks

inductive PromotionError where
  | incompatiblePromotion (code : String)
  | invalidPromotionTarget (code : String) (lead : Nat)
  | invalidPromotionResult (source target : String)
deriving DecidableEq, Repr

def smallVarSizes : List Char := ['4', '5', '6']

def largeVarSizes : List Char := ['7', '8', '9']

def codeChars (code : MatterCode) (start stop : Nat) : List Char := (code.asStr.toList.take stop).drop start

def promoteTo (matterCode : MatterCode) (codeMap : List Char) (lead : Nat) (tail : List Char) : Except PromotionError MatterCode :=
  match codeMap[lead]? with
  | none => .error (.invalidPromotionTarget matterCode.asStr lead)
  | some s =>
      let code := String.ofList (s :: tail)
      match MatterCode.fromStr code with
      | some promoted => .ok promoted
      | none => .error (.invalidPromotionResult matterCode.asStr code)

def promoteSameSize (matterCode : MatterCode) (codeMap : List Char) (lead hs : Nat) : Except PromotionError MatterCode :=
  promoteTo matterCode codeMap lead (codeChars matterCode 1 hs)

def promoteSmallToLarge (matterCode : MatterCode) (codeMap : List Char) (lead hs : Nat) : Except PromotionError MatterCode :=
  promoteTo matterCode codeMap lead (List.replicate (hs - 2) 'A' ++ codeChars matterCode 1 2)

def MatterCode.promote (self : MatterCode) (size lead : Nat) : Except PromotionError MatterCode :=
  match self.getSizage.fs with
  | .small =>
      if size < 64 ^ 2 then promoteSameSize self smallVarSizes lead 2
      else if size < 64 ^ 4 then promoteSmallToLarge self largeVarSizes lead 4
      else .error (.incompatiblePromotion self.asStr)
  | .large =>
      if size < 64 ^ 4 - 1 then promoteSameSize self largeVarSizes lead 4
      else .error (.incompatiblePromotion self.asStr)
  | .fixed _ => .error (.incompatiblePromotion self.asStr)

-- The lead bytes that fill the last triplet of a raw value, and the triplets, each a quadlet of text.
def getLeadSize (rawLen : Nat) : Nat := (3 - rawLen % 3) % 3

def getSize (rawLen leadLen : Nat) : Nat := (rawLen + leadLen) / 3

-- A family of codes of variable size: two widths of the soft field by three leads.
inductive VarFamily where
  | strB64
  | bytes
  | x25519Cipher
  | x25519CipherQB64
  | x25519CipherQB2
  | hpkeBaseCipher
  | decimal
deriving DecidableEq, Repr

inductive Lead where
  | l0
  | l1
  | l2
deriving DecidableEq, Repr

def Lead.size : Lead → Nat
  | .l0 => 0
  | .l1 => 1
  | .l2 => 2

def VarFamily.small : VarFamily → Lead → MatterCode
  | .strB64, .l0 => .strB64_L0
  | .strB64, .l1 => .strB64_L1
  | .strB64, .l2 => .strB64_L2
  | .bytes, .l0 => .bytes_L0
  | .bytes, .l1 => .bytes_L1
  | .bytes, .l2 => .bytes_L2
  | .x25519Cipher, .l0 => .x25519Cipher_L0
  | .x25519Cipher, .l1 => .x25519Cipher_L1
  | .x25519Cipher, .l2 => .x25519Cipher_L2
  | .x25519CipherQB64, .l0 => .x25519CipherQB64_L0
  | .x25519CipherQB64, .l1 => .x25519CipherQB64_L1
  | .x25519CipherQB64, .l2 => .x25519CipherQB64_L2
  | .x25519CipherQB2, .l0 => .x25519CipherQB2_L0
  | .x25519CipherQB2, .l1 => .x25519CipherQB2_L1
  | .x25519CipherQB2, .l2 => .x25519CipherQB2_L2
  | .hpkeBaseCipher, .l0 => .hpkeBaseCipher_L0
  | .hpkeBaseCipher, .l1 => .hpkeBaseCipher_L1
  | .hpkeBaseCipher, .l2 => .hpkeBaseCipher_L2
  | .decimal, .l0 => .decimal_L0
  | .decimal, .l1 => .decimal_L1
  | .decimal, .l2 => .decimal_L2

def VarFamily.big : VarFamily → Lead → MatterCode
  | .strB64, .l0 => .strB64Big_L0
  | .strB64, .l1 => .strB64Big_L1
  | .strB64, .l2 => .strB64Big_L2
  | .bytes, .l0 => .bytesBig_L0
  | .bytes, .l1 => .bytesBig_L1
  | .bytes, .l2 => .bytesBig_L2
  | .x25519Cipher, .l0 => .x25519CipherBig_L0
  | .x25519Cipher, .l1 => .x25519CipherBig_L1
  | .x25519Cipher, .l2 => .x25519CipherBig_L2
  | .x25519CipherQB64, .l0 => .x25519CipherQB64Big_L0
  | .x25519CipherQB64, .l1 => .x25519CipherQB64Big_L1
  | .x25519CipherQB64, .l2 => .x25519CipherQB64Big_L2
  | .x25519CipherQB2, .l0 => .x25519CipherQB2Big_L0
  | .x25519CipherQB2, .l1 => .x25519CipherQB2Big_L1
  | .x25519CipherQB2, .l2 => .x25519CipherQB2Big_L2
  | .hpkeBaseCipher, .l0 => .hpkeBaseCipherBig_L0
  | .hpkeBaseCipher, .l1 => .hpkeBaseCipherBig_L1
  | .hpkeBaseCipher, .l2 => .hpkeBaseCipherBig_L2
  | .decimal, .l0 => .decimalBig_L0
  | .decimal, .l1 => .decimalBig_L1
  | .decimal, .l2 => .decimalBig_L2

theorem small_sizage (family : VarFamily) (lead : Lead) : (family.small lead).getSizage = ⟨2, 2, 0, .small, lead.size⟩ := by
  cases family <;> cases lead <;> rfl

theorem big_sizage (family : VarFamily) (lead : Lead) : (family.big lead).getSizage = ⟨4, 4, 0, .large, lead.size⟩ := by
  cases family <;> cases lead <;> rfl

theorem small_text (family : VarFamily) (lead lead' : Lead) (mark : Char) (marked : smallVarSizes[lead'.size]? = some mark) :
    (family.small lead').asStr = String.ofList (mark :: codeChars (family.small lead) 1 2) := by
  cases lead' <;> cases marked <;> cases family <;> cases lead <;> rfl

theorem big_text (family : VarFamily) (lead lead' : Lead) (mark : Char) (marked : largeVarSizes[lead'.size]? = some mark) :
    (family.big lead').asStr = String.ofList (mark :: codeChars (family.big lead) 1 4) := by
  cases lead' <;> cases marked <;> cases family <;> cases lead <;> rfl

theorem grown_text (family : VarFamily) (lead lead' : Lead) (mark : Char) (marked : largeVarSizes[lead'.size]? = some mark) :
    (family.big lead').asStr = String.ofList (mark :: (List.replicate 2 'A' ++ codeChars (family.small lead) 1 2)) := by
  cases lead' <;> cases marked <;> cases family <;> cases lead <;> rfl

theorem promote_to_ok (matterCode promoted : MatterCode) (codeMap : List Char) (lead : Nat) (tail : List Char) (mark : Char)
    (marked : codeMap[lead]? = some mark) (spelled : promoted.asStr = String.ofList (mark :: tail)) :
    promoteTo matterCode codeMap lead tail = .ok promoted := by
  have read := (from_str_some _ promoted).mpr spelled
  unfold promoteTo
  simp only [marked, read]

theorem marks_exist (lead : Lead) : (∃ mark, smallVarSizes[lead.size]? = some mark) ∧ ∃ mark, largeVarSizes[lead.size]? = some mark := by
  cases lead with
  | l0 => exact ⟨⟨'4', rfl⟩, ⟨'7', rfl⟩⟩
  | l1 => exact ⟨⟨'5', rfl⟩, ⟨'8', rfl⟩⟩
  | l2 => exact ⟨⟨'6', rfl⟩, ⟨'9', rfl⟩⟩

theorem small_promote (family : VarFamily) (lead lead' : Lead) (size : Nat) :
    (family.small lead).promote size lead'.size =
      if size < 64 ^ 2 then .ok (family.small lead')
      else if size < 64 ^ 4 then .ok (family.big lead')
      else .error (.incompatiblePromotion (family.small lead).asStr) := by
  obtain ⟨⟨mark, marked⟩, mark', marked'⟩ := marks_exist lead'
  unfold MatterCode.promote
  rw [small_sizage]
  simp only
  rw [promoteSameSize, promote_to_ok _ _ _ _ _ mark marked (small_text family lead lead' mark marked), promoteSmallToLarge,
    promote_to_ok _ _ _ _ _ mark' marked' (grown_text family lead lead' mark' marked')]

theorem big_promote (family : VarFamily) (lead lead' : Lead) (size : Nat) :
    (family.big lead).promote size lead'.size =
      if size < 64 ^ 4 - 1 then .ok (family.big lead')
      else .error (.incompatiblePromotion (family.big lead).asStr) := by
  obtain ⟨_, mark, marked⟩ := marks_exist lead'
  unfold MatterCode.promote
  rw [big_sizage]
  simp only
  rw [promoteSameSize, promote_to_ok _ _ _ _ _ mark marked (big_text family lead lead' mark marked)]

theorem lead_of_raw (rawLen : Nat) : ∃ lead : Lead, lead.size = getLeadSize rawLen := by
  have few : getLeadSize rawLen < 3 := Nat.mod_lt _ (by decide)
  rcases Nat.lt_or_ge (getLeadSize rawLen) 1 with none' | some'
  · exact ⟨.l0, (Nat.lt_one_iff.mp none').symm⟩
  · rcases Nat.lt_or_ge (getLeadSize rawLen) 2 with one | two
    · exact ⟨.l1, Nat.le_antisymm some' (Nat.lt_succ_iff.mp one)⟩
    · exact ⟨.l2, Nat.le_antisymm two (Nat.lt_succ_iff.mp few)⟩

theorem small_promote_raw (family : VarFamily) (start : Lead) (rawLen : Nat) (lead : Lead) (leads : lead.size = getLeadSize rawLen) :
    (family.small start).promote (getSize rawLen (getLeadSize rawLen)) (getLeadSize rawLen) =
      if getSize rawLen (getLeadSize rawLen) < 64 ^ 2 then .ok (family.small lead)
      else if getSize rawLen (getLeadSize rawLen) < 64 ^ 4 then .ok (family.big lead)
      else .error (.incompatiblePromotion (family.small start).asStr) := by
  rw [← leads]
  exact small_promote family start lead _

theorem big_promote_raw (family : VarFamily) (start : Lead) (rawLen : Nat) (lead : Lead) (leads : lead.size = getLeadSize rawLen) :
    (family.big start).promote (getSize rawLen (getLeadSize rawLen)) (getLeadSize rawLen) =
      if getSize rawLen (getLeadSize rawLen) < 64 ^ 4 - 1 then .ok (family.big lead)
      else .error (.incompatiblePromotion (family.big start).asStr) := by
  rw [← leads]
  exact big_promote family start lead _

theorem lead_size_injective (lead lead' : Lead) (same : lead.size = lead'.size) : lead = lead' := by
  cases lead <;> cases lead' <;> first | rfl | cases same

def VarFamily.Has (family : VarFamily) (code : MatterCode) : Prop := ∃ lead, code = family.small lead ∨ code = family.big lead

-- A member can stand for a raw value: it has its lead and its soft field holds the count.
def Fitting (family : VarFamily) (rawLen : Nat) (code : MatterCode) : Prop :=
  family.Has code ∧ code.getSizage.ls = getLeadSize rawLen ∧ getSize rawLen (getLeadSize rawLen) < 64 ^ code.getSizage.ss

-- Promotion gives the member that fits, of the starting width where that holds the count, and fails
-- only past the widest field.
def PromotesFitting (family : VarFamily) (code : MatterCode) (rawLen : Nat) : Prop :=
  (∀ promoted, code.promote (getSize rawLen (getLeadSize rawLen)) (getLeadSize rawLen) = .ok promoted →
    Fitting family rawLen promoted ∧ ∀ other, Fitting family rawLen other →
      (getSize rawLen (getLeadSize rawLen) < 64 ^ code.getSizage.ss → other.getSizage.ss = code.getSizage.ss) → other = promoted) ∧
  ((∃ error, code.promote (getSize rawLen (getLeadSize rawLen)) (getLeadSize rawLen) = .error error) ↔
    64 ^ 4 - 1 < getSize rawLen (getLeadSize rawLen))

-- Where only the wide field holds the count, every start gives the same member.
def StartsAgree (family : VarFamily) (code : MatterCode) (rawLen : Nat) : Prop :=
  64 ^ 2 ≤ getSize rawLen (getLeadSize rawLen) → ∀ other, family.Has other →
    (code.promote (getSize rawLen (getLeadSize rawLen)) (getLeadSize rawLen)).toOption =
      (other.promote (getSize rawLen (getLeadSize rawLen)) (getLeadSize rawLen)).toOption

theorem fitting_small (family : VarFamily) (rawLen : Nat) (lead : Lead) (leads : lead.size = getLeadSize rawLen) :
    Fitting family rawLen (family.small lead) ↔ getSize rawLen (getLeadSize rawLen) < 64 ^ 2 := by
  unfold Fitting
  rw [small_sizage]
  exact ⟨fun fits => fits.2.2, fun few => ⟨⟨lead, .inl rfl⟩, leads, few⟩⟩

theorem fitting_big (family : VarFamily) (rawLen : Nat) (lead : Lead) (leads : lead.size = getLeadSize rawLen) :
    Fitting family rawLen (family.big lead) ↔ getSize rawLen (getLeadSize rawLen) < 64 ^ 4 := by
  unfold Fitting
  rw [big_sizage]
  exact ⟨fun fits => fits.2.2, fun few => ⟨⟨lead, .inr rfl⟩, leads, few⟩⟩

theorem fitting_cases (family : VarFamily) (rawLen : Nat) (lead : Lead) (leads : lead.size = getLeadSize rawLen) (other : MatterCode)
    (fits : Fitting family rawLen other) : other = family.small lead ∨ other = family.big lead := by
  obtain ⟨⟨lead', member⟩, led, _⟩ := fits
  have same : lead' = lead := by
    apply lead_size_injective
    rcases member with small | big
    · rw [small, small_sizage] at led
      exact led.trans leads.symm
    · rw [big, big_sizage] at led
      exact led.trans leads.symm
  rw [← same]
  exact member

theorem small_promotes_fitting (family : VarFamily) (start : Lead) (rawLen : Nat) :
    PromotesFitting family (family.small start) rawLen := by
  obtain ⟨lead, leads⟩ := lead_of_raw rawLen
  unfold PromotesFitting
  rw [small_promote_raw family start rawLen lead leads, small_sizage]
  by_cases few : getSize rawLen (getLeadSize rawLen) < 64 ^ 2
  · rw [if_pos few]
    apply And.intro
    · intro promoted same
      rw [← Except.ok.inj same, fitting_small family rawLen lead leads]
      refine ⟨few, ?_⟩
      intro other fits narrow
      rcases fitting_cases family rawLen lead leads other fits with small | big
      · exact small
      · have width := narrow few
        rw [big, big_sizage] at width
        cases width
    · simp only [reduceCtorEq, exists_false, false_iff]
      omega
  · rw [if_neg few]
    by_cases many : getSize rawLen (getLeadSize rawLen) < 64 ^ 4
    · rw [if_pos many]
      apply And.intro
      · intro promoted same
        rw [← Except.ok.inj same, fitting_big family rawLen lead leads]
        refine ⟨many, ?_⟩
        intro other fits _
        rcases fitting_cases family rawLen lead leads other fits with small | big
        · rw [small, fitting_small family rawLen lead leads] at fits
          exact absurd fits few
        · exact big
      · simp only [reduceCtorEq, exists_false, false_iff]
        omega
    · rw [if_neg many]
      apply And.intro
      · intro promoted same
        cases same
      · exact ⟨fun _ => by omega, fun _ => ⟨_, rfl⟩⟩

theorem big_promotes_fitting (family : VarFamily) (start : Lead) (rawLen : Nat) :
    PromotesFitting family (family.big start) rawLen ↔ getSize rawLen (getLeadSize rawLen) ≠ 64 ^ 4 - 1 := by
  obtain ⟨lead, leads⟩ := lead_of_raw rawLen
  unfold PromotesFitting
  rw [big_promote_raw family start rawLen lead leads, big_sizage]
  by_cases many : getSize rawLen (getLeadSize rawLen) < 64 ^ 4 - 1
  · rw [if_pos many]
    refine iff_of_true ⟨?_, ?_⟩ (Nat.ne_of_lt many)
    · intro promoted same
      rw [← Except.ok.inj same, fitting_big family rawLen lead leads]
      refine ⟨Nat.lt_of_lt_of_le many (Nat.sub_le _ _), ?_⟩
      intro other fits wide
      rcases fitting_cases family rawLen lead leads other fits with small | big
      · have width := wide (Nat.lt_of_lt_of_le many (Nat.sub_le _ _))
        rw [small, small_sizage] at width
        cases width
      · exact big
    · simp only [reduceCtorEq, exists_false, false_iff]
      omega
  · rw [if_neg many]
    apply Iff.intro
    · intro promotes edge
      have beyond := promotes.2.mp ⟨_, rfl⟩
      omega
    · intro apart
      apply And.intro
      · intro promoted same
        cases same
      · exact ⟨fun _ => by omega, fun _ => ⟨_, rfl⟩⟩

theorem starts_agree_iff (family : VarFamily) (code : MatterCode) (member : family.Has code) (rawLen : Nat) :
    StartsAgree family code rawLen ↔ getSize rawLen (getLeadSize rawLen) ≠ 64 ^ 4 - 1 := by
  obtain ⟨lead, leads⟩ := lead_of_raw rawLen
  unfold StartsAgree
  apply Iff.intro
  · intro agree edge
    have agrees := agree (by omega)
    obtain ⟨start, here⟩ := member
    have small := agrees (family.small .l0) ⟨.l0, .inl rfl⟩
    have big := agrees (family.big .l0) ⟨.l0, .inr rfl⟩
    have both := small.symm.trans big
    rw [small_promote_raw family _ rawLen lead leads, big_promote_raw family _ rawLen lead leads, edge, if_neg (by decide), if_pos (by decide), if_neg (by decide)] at both
    cases both
  · intro apart large other inside
    have result : ∀ some', family.Has some' →
        (some'.promote (getSize rawLen (getLeadSize rawLen)) (getLeadSize rawLen)).toOption =
          if getSize rawLen (getLeadSize rawLen) < 64 ^ 4 then some (family.big lead) else none := by
      intro some' has
      obtain ⟨start, small | big⟩ := has
      · rw [small, small_promote_raw family start rawLen lead leads, if_neg (Nat.not_lt.mpr large)]
        by_cases many : getSize rawLen (getLeadSize rawLen) < 64 ^ 4
        · rw [if_pos many, if_pos many]
          rfl
        · rw [if_neg many, if_neg many]
          rfl
      · rw [big, big_promote_raw family start rawLen lead leads]
        by_cases many : getSize rawLen (getLeadSize rawLen) < 64 ^ 4
        · rw [if_pos many, if_pos (by omega)]
          rfl
        · rw [if_neg many, if_neg (by omega)]
          rfl
    rw [result code member, result other inside]

theorem promotion_canonical_exactly (family : VarFamily) (code : MatterCode) (member : family.Has code) (rawLen : Nat) :
    (PromotesFitting family code rawLen ↔
      ¬ (code.getSizage.fs = .large ∧ getSize rawLen (getLeadSize rawLen) = 64 ^ 4 - 1)) ∧
    (StartsAgree family code rawLen ↔ getSize rawLen (getLeadSize rawLen) ≠ 64 ^ 4 - 1) := by
  refine ⟨?_, starts_agree_iff family code member rawLen⟩
  obtain ⟨start, small | big⟩ := member
  · rw [small, small_sizage]
    refine iff_of_true (small_promotes_fitting family start rawLen) ?_
    intro edge
    cases edge.1
  · rw [big, big_sizage, big_promotes_fitting]
    exact ⟨fun apart edge => apart edge.2, fun apart edge => apart ⟨rfl, edge⟩⟩

theorem promotion_canonical_exactly_bytes :
    (PromotesFitting .bytes .bytes_L1 12287 ↔
      ¬ (MatterCode.bytes_L1.getSizage.fs = .large ∧ getSize 12287 (getLeadSize 12287) = 64 ^ 4 - 1)) ∧
    (StartsAgree .bytes .bytes_L1 12287 ↔ getSize 12287 (getLeadSize 12287) ≠ 64 ^ 4 - 1) ∧
    64 ^ 2 ≤ getSize 12287 (getLeadSize 12287) := by
  obtain ⟨promotes, agree⟩ := promotion_canonical_exactly .bytes .bytes_L1 ⟨.l1, .inl rfl⟩ 12287
  exact ⟨promotes, agree, by decide⟩

theorem big_refuses_edge :
    ¬ ∀ (family : VarFamily) (code : MatterCode), family.Has code → ∀ rawLen, PromotesFitting family code rawLen ∧
      StartsAgree family code rawLen := by
  intro canonical
  have promotes := (canonical .bytes .bytesBig_L0 ⟨.l0, .inr rfl⟩ (3 * (64 ^ 4 - 1))).1
  exact absurd (by decide) ((big_promotes_fitting .bytes .l0 _).mp promotes)

end Cesr
