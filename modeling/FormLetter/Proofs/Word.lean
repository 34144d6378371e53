import FormLetter.Word
import Mathlib.Algebra.Group.Int.Defs

/-!
# Numbers of 64 bits as integers

A 64-bit number stands for one integer, which has room, and what is reckoned comes to the number for
the result or, where that has no room, to nothing.
-/

namespace FormLetter

theorem fitsWord_toInt (a : Int64) : FitsWord a.toInt :=
  ⟨a.le_toInt, a.toInt_lt⟩

namespace Word

variable {n : Int} {a b result : Int64}

theorem toInt_ofInt (h : FitsWord n) : (Int64.ofInt n).toInt = n :=
  Int64.toInt_ofInt_of_le h.1 h.2

theorem ofInt?_eq_some_iff : ofInt? n = some result ↔ result.toInt = n := by
  rw [ofInt?]
  split
  next h => rw [Option.some.injEq, ← Int64.toInt_inj, toInt_ofInt h, eq_comm]
  next h =>
    refine iff_of_false nofun fun heq => h ?_
    rw [← heq]
    exact fitsWord_toInt result

theorem ofInt?_eq_none_iff : ofInt? n = none ↔ ¬FitsWord n := by
  rw [ofInt?]
  split
  next h => exact iff_of_false nofun (not_not_intro h)
  next h => exact iff_of_true rfl h

theorem exists_toInt_eq_iff : (∃ a : Int64, a.toInt = n) ↔ FitsWord n := by
  constructor
  · rintro ⟨a, rfl⟩
    exact fitsWord_toInt a
  · intro h
    exact ⟨_, toInt_ofInt h⟩

theorem add?_eq_some_iff : add? a b = some result ↔ result.toInt = a.toInt + b.toInt :=
  ofInt?_eq_some_iff

theorem sub?_eq_some_iff : sub? a b = some result ↔ result.toInt = a.toInt - b.toInt :=
  ofInt?_eq_some_iff

theorem mul?_eq_some_iff : mul? a b = some result ↔ result.toInt = a.toInt * b.toInt :=
  ofInt?_eq_some_iff

theorem exists_add? (h : FitsWord (a.toInt + b.toInt)) :
    ∃ result, add? a b = some result ∧ result.toInt = a.toInt + b.toInt := by
  obtain ⟨result, hresult⟩ := exists_toInt_eq_iff.mpr h
  exact ⟨result, add?_eq_some_iff.mpr hresult, hresult⟩

theorem exists_sub?_one (h : 1 ≤ a.toInt) :
    ∃ result, sub? a 1 = some result ∧ result.toInt = a.toInt - 1 := by
  have hbound := (fitsWord_toInt a).2
  have hroom : FitsWord (a.toInt - 1) := ⟨by omega, by omega⟩
  obtain ⟨result, hresult⟩ := exists_toInt_eq_iff.mpr hroom
  exact ⟨result, sub?_eq_some_iff.mpr hresult, hresult⟩

end Word

section Bounds

variable (a b : Int64)

theorem toInt_max : (max a b).toInt = max a.toInt b.toInt := by
  change (if a ≤ b then b else a).toInt = _
  by_cases h : a ≤ b
  · have hle := Int64.le_iff_toInt_le.mp h
    rw [if_pos h]
    omega
  · have hlt := mt Int64.le_iff_toInt_le.mpr h
    rw [if_neg h]
    omega

theorem toInt_min : (min a b).toInt = min a.toInt b.toInt := by
  change (if a ≤ b then a else b).toInt = _
  by_cases h : a ≤ b
  · have hle := Int64.le_iff_toInt_le.mp h
    rw [if_pos h]
    omega
  · have hlt := mt Int64.le_iff_toInt_le.mpr h
    rw [if_neg h]
    omega

end Bounds

end FormLetter
