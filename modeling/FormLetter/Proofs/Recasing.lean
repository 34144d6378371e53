import FormLetter.Proofs.DottedName
import Mathlib.Data.List.Forall2

/-!
# Letters in two cases

Texts are compared with their letters in whatever case. Only the letters of ASCII have two cases,
and every other character has to be the same.
-/

namespace FormLetter

/-- A letter of ASCII in its two cases. -/
structure IsCapitalOf (capital small : Char) : Prop where
  least : 'A' ≤ capital
  greatest : capital ≤ 'Z'
  toNat_small : small.toNat = capital.toNat + 32

/-- One and the same character, or one letter in its two cases. -/
inductive SameLetter : Char → Char → Prop where
  | same (c : Char) : SameLetter c c
  | lowered {capital small : Char} (h : IsCapitalOf capital small) : SameLetter capital small
  | raised {capital small : Char} (h : IsCapitalOf capital small) : SameLetter small capital

/-- The same text, with letters of ASCII in whatever case. -/
abbrev Recased : List Char → List Char → Prop :=
  List.Forall₂ SameLetter

theorem isUpper_iff_toNat {c : Char} : c.isUpper = true ↔ 65 ≤ c.toNat ∧ c.toNat ≤ 90 :=
  Name.isUpper_iff

theorem toLower_of_not_isUpper {c : Char} (h : ¬c.isUpper = true) : c.toLower = c :=
  dif_neg (mt isUpper_iff_toNat.mpr h)

theorem toNat_toLower_of_isUpper {c : Char} (h : c.isUpper = true) :
    c.toLower.toNat = c.toNat + 32 := by
  have hbounds := isUpper_iff_toNat.mp h
  have hcapital : c.val ≥ 'A'.val ∧ c.val ≤ 'Z'.val := hbounds
  have hlower : c.toLower.val = c.val + 32 := congrArg Char.val (dif_pos hcapital)
  have hfits : c.toNat + 32 < 2 ^ 32 := by omega
  rw [← Char.toNat_val, hlower, UInt32.toNat_add, Char.toNat_val]
  exact Nat.mod_eq_of_lt hfits

theorem toLower_toLower (c : Char) : c.toLower.toLower = c.toLower := by
  refine toLower_of_not_isUpper fun hlower => ?_
  by_cases hupper : c.isUpper = true
  · have hbounds := isUpper_iff_toNat.mp hupper
    have hlowered := isUpper_iff_toNat.mp hlower
    rw [toNat_toLower_of_isUpper hupper] at hlowered
    omega
  · rw [toLower_of_not_isUpper hupper] at hlower
    exact hupper hlower

theorem isCapitalOf_iff {capital small : Char} :
    IsCapitalOf capital small ↔ capital.isUpper = true ∧ small = capital.toLower := by
  constructor
  · rintro ⟨hleast, hgreatest, hsmall⟩
    have hupper := Name.isUpper_iff.mpr ⟨hleast, hgreatest⟩
    exact ⟨hupper, Char.toNat_inj.mp (hsmall.trans (toNat_toLower_of_isUpper hupper).symm)⟩
  · rintro ⟨hupper, rfl⟩
    obtain ⟨hleast, hgreatest⟩ := Name.isUpper_iff.mp hupper
    exact ⟨hleast, hgreatest, toNat_toLower_of_isUpper hupper⟩

theorem SameLetter.toLower_eq {a b : Char} (h : SameLetter a b) : a.toLower = b.toLower := by
  cases h with
  | same => rfl
  | lowered hcapital => rw [(isCapitalOf_iff.mp hcapital).2, toLower_toLower]
  | raised hcapital => rw [(isCapitalOf_iff.mp hcapital).2, toLower_toLower]

theorem SameLetter.of_toLower_eq {a b : Char} (h : a.toLower = b.toLower) : SameLetter a b := by
  by_cases ha : a.isUpper = true
  · by_cases hb : b.isUpper = true
    · have hnat := congrArg Char.toNat h
      rw [toNat_toLower_of_isUpper ha, toNat_toLower_of_isUpper hb] at hnat
      exact Char.toNat_inj.mp (Nat.add_right_cancel hnat) ▸ .same a
    · rw [toLower_of_not_isUpper hb] at h
      exact .lowered (isCapitalOf_iff.mpr ⟨ha, h.symm⟩)
  · rw [toLower_of_not_isUpper ha] at h
    by_cases hb : b.isUpper = true
    · exact .raised (isCapitalOf_iff.mpr ⟨hb, h⟩)
    · rw [toLower_of_not_isUpper hb] at h
      exact h ▸ .same a

theorem recased_iff {text other : List Char} :
    Recased text other ↔ text.map Char.toLower = other.map Char.toLower := by
  have hletter : SameLetter = fun a b => a.toLower = b.toLower :=
    funext₂ fun _ _ => propext ⟨SameLetter.toLower_eq, SameLetter.of_toLower_eq⟩
  rw [← List.forall₂_eq_eq_eq, List.forall₂_map_left_iff, List.forall₂_map_right_iff, Recased,
    hletter]

end FormLetter
