import FormLetter.Page
import FormLetter.Proofs.Word
import Mathlib.Order.Bounds.Basic

/-!
# Pages in numbers

What the 64-bit numbers of a page come to as integers: clamping is exact, the offset is the product
unless that is too large for any table, and the number of pages is the quotient rounded up, told as
long as there is room for rounding.
-/

namespace FormLetter

theorem toInt_saturatingMul (a b : Int64) :
    (saturatingMul a b).toInt = max (-2 ^ 63) (min (a.toInt * b.toInt) (2 ^ 63 - 1)) := by
  unfold saturatingMul
  have hmin : Int64.minValue.toInt = -2 ^ 63 := Int64.toInt_minValue
  have hmax : Int64.maxValue.toInt = 2 ^ 63 - 1 := Int64.toInt_maxValue
  generalize a.toInt * b.toInt = product
  simp only [hmin, hmax]
  split
  · omega
  · split
    · omega
    · rw [Int64.toInt_ofInt_of_le (by omega) (by omega)]
      omega

theorem toInt_clampLimit (limit : Option Int64) (default most : Int64) :
    (clampLimit limit default most).toInt =
      min (max (limit.getD default).toInt 1) most.toInt := by
  rw [clampLimit, toInt_min, toInt_max]
  rfl

theorem toInt_clampPage (page : Option Int64) :
    (clampPage page).toInt = max (page.getD 1).toInt 1 := by
  rw [clampPage, toInt_max]
  rfl

namespace PageRequest

variable (page limit : Option Int64)

theorem toInt_page_of : (PageRequest.of page limit).page.toInt = max (page.getD 1).toInt 1 :=
  toInt_clampPage page

theorem toInt_limit_of :
    (PageRequest.of page limit).limit.toInt = min (max (limit.getD 10).toInt 1) 100 :=
  toInt_clampLimit limit defaultLimit greatestLimit

theorem one_le_page_of : 1 ≤ (PageRequest.of page limit).page.toInt := by
  rw [toInt_page_of]
  omega

theorem limit_of_bounds :
    1 ≤ (PageRequest.of page limit).limit.toInt ∧
      (PageRequest.of page limit).limit.toInt ≤ 100 := by
  rw [toInt_limit_of]
  omega

theorem product_nonneg_of :
    0 ≤ ((PageRequest.of page limit).page.toInt - 1) *
      (PageRequest.of page limit).limit.toInt := by
  have hpage := one_le_page_of page limit
  have hlimit := (limit_of_bounds page limit).1
  exact Int.mul_nonneg (by omega) (by omega)

theorem exists_offset?_of :
    ∃ offset, (PageRequest.of page limit).offset? = some offset ∧
      offset.toInt = min (((PageRequest.of page limit).page.toInt - 1) *
        (PageRequest.of page limit).limit.toInt) (2 ^ 63 - 1) := by
  have hpage := one_le_page_of page limit
  have hproduct := product_nonneg_of page limit
  obtain ⟨before, hbefore, hless⟩ := Word.exists_sub?_one hpage
  refine ⟨saturatingMul before (PageRequest.of page limit).limit, ?_, ?_⟩
  · rw [offset?, hbefore]
    rfl
  · rw [toInt_saturatingMul, hless]
    omega

end PageRequest

/-! ## The number of pages -/

section LastPage

variable {total limit : Int64}

theorem lastPage?_of_nonpos (htotal : total.toInt ≤ 0) : lastPage? total limit = some 0 := by
  rw [lastPage?, if_pos]
  rw [Int64.le_iff_toInt_le, Int64.toInt_zero]
  exact htotal

theorem lastPage?_of_pos (htotal : 0 < total.toInt) (hlimit : 1 ≤ limit.toInt) :
    lastPage? total limit =
      (Word.add? total limit).bind fun sum => (Word.sub? sum 1).map fun sum => sum / limit := by
  have hpos : ¬total ≤ 0 := by
    rw [Int64.le_iff_toInt_le, Int64.toInt_zero]
    omega
  have hkeep : max limit 1 = limit := by
    rw [← Int64.toInt_inj, toInt_max, Int64.toInt_one]
    omega
  simp only [lastPage?, if_neg hpos, hkeep, Option.map_eq_bind]
  rfl

theorem lastPage?_eq_none (hlimit : 1 ≤ limit.toInt) (hover : 2 ^ 63 ≤ total.toInt + limit.toInt) :
    lastPage? total limit = none := by
  have hbound := limit.toInt_lt
  have hsum : Word.add? total limit = none :=
    Word.ofInt?_eq_none_iff.mpr fun hfits => absurd hfits.2 (Int.not_lt.mpr hover)
  rw [lastPage?_of_pos (by omega) hlimit, hsum, Option.bind_none]

theorem exists_lastPage? (htotal : 0 ≤ total.toInt) (hlimit : 1 ≤ limit.toInt)
    (hroom : total.toInt + limit.toInt < 2 ^ 63) :
    ∃ count, lastPage? total limit = some count ∧
      count.toInt = (total.toInt + limit.toInt - 1) / limit.toInt := by
  rcases Int.lt_or_eq_of_le htotal with hpos | hnone
  · obtain ⟨sum, hsum, hsumInt⟩ := Word.exists_add? (a := total) (b := limit) ⟨by omega, by omega⟩
    obtain ⟨rows, hrows, hrowsInt⟩ := Word.exists_sub?_one (a := sum) (by omega)
    rw [hsumInt] at hrowsInt
    have hdivisor : limit ≠ -1 := by
      rintro rfl
      exact absurd hlimit (by decide)
    refine ⟨rows / limit, ?_, ?_⟩
    · rw [lastPage?_of_pos hpos hlimit, hsum, Option.bind_some, hrows, Option.map_some]
    · rw [Int64.toInt_div_of_ne_right _ _ hdivisor, hrowsInt]
      exact Int.tdiv_eq_ediv_of_nonneg (by omega)
  · refine ⟨0, lastPage?_of_nonpos (by omega), ?_⟩
    rw [Int64.toInt_zero, ← hnone]
    exact (Int.ediv_eq_zero_of_lt (by omega) (by omega)).symm

/-- How many pages of a size it takes at least to hold all rows. -/
def IsPageCount (total limit count : Int) : Prop :=
  IsLeast {n | 0 ≤ n ∧ total ≤ n * limit} count

theorem exists_isPageCount_lastPage? (hlimit : 1 ≤ limit.toInt)
    (hroom : total.toInt + limit.toInt < 2 ^ 63) :
    ∃ count, lastPage? total limit = some count ∧
      IsPageCount total.toInt limit.toInt count.toInt := by
  by_cases htotal : total.toInt ≤ 0
  · exact ⟨0, lastPage?_of_nonpos htotal, ⟨Int.le_refl 0, by simpa using htotal⟩, fun n hn => hn.1⟩
  · obtain ⟨count, hcount, hquotient⟩ := exists_lastPage? (by omega) hlimit hroom
    have hpos : 0 < limit.toInt := by omega
    refine ⟨count, hcount, ?_⟩
    rw [hquotient]
    refine ⟨⟨Int.ediv_nonneg (by omega) (by omega), ?_⟩, fun n hn => ?_⟩
    · have hlast := Int.lt_ediv_add_one_mul_self (total.toInt + limit.toInt - 1) hpos
      rw [Int.add_mul, Int.one_mul] at hlast
      omega
    · have henough := hn.2
      rw [Int.ediv_le_iff_le_mul hpos]
      omega

theorem Page.of?_eq_map {α : Type} (data : List α) (total : Int64) (request : PageRequest) :
    Page.of? data total request = (lastPage? total request.limit).map fun count =>
      { data := data, total := total, page := request.page, limit := request.limit,
        lastPage := count } := by
  rw [Page.of?]
  cases lastPage? total request.limit <;> rfl

end LastPage

/-- **The numbers of a page are exact but for the rounding of the number of pages.** For all that
can be asked for, the page and its size lie within their bounds and the offset is the product, or
the greatest number where that is too large. As long as the rows of one more page leave their number
below `2 ^ 63`, the number of pages is told, and it is the least that holds all rows. Otherwise
there is no room to round it up, and no page is told at all. -/
theorem page_numbers_exact_unless_rounding_overflows {α : Type} (page limit : Option Int64)
    (data : List α) (total : Int64) :
    let request := PageRequest.of page limit
    let rounded := total.toInt + request.limit.toInt
    1 ≤ request.page.toInt ∧ 1 ≤ request.limit.toInt ∧ request.limit.toInt ≤ 100 ∧
      (∃ offset, request.offset? = some offset ∧ 0 ≤ offset.toInt ∧
        offset.toInt = min ((request.page.toInt - 1) * request.limit.toInt) (2 ^ 63 - 1)) ∧
      (rounded < 2 ^ 63 → ∃ told, Page.of? data total request = some told ∧
        told.data = data ∧ told.total = total ∧ told.page = request.page ∧
        told.limit = request.limit ∧
        IsPageCount total.toInt request.limit.toInt told.lastPage.toInt) ∧
      (2 ^ 63 ≤ rounded → Page.of? data total request = none) := by
  intro request rounded
  obtain ⟨hlimit, hmost⟩ := PageRequest.limit_of_bounds page limit
  have hproduct : 0 ≤ (request.page.toInt - 1) * request.limit.toInt :=
    PageRequest.product_nonneg_of page limit
  obtain ⟨offset, hoffset, hexact⟩ : ∃ offset, request.offset? = some offset ∧
      offset.toInt = min ((request.page.toInt - 1) * request.limit.toInt) (2 ^ 63 - 1) :=
    PageRequest.exists_offset?_of page limit
  refine ⟨PageRequest.one_le_page_of page limit, hlimit, hmost, ⟨offset, hoffset, ?_, hexact⟩,
    fun hroom => ?_, fun hover => ?_⟩
  · rw [hexact]
    omega
  · obtain ⟨count, hcount, hleast⟩ := exists_isPageCount_lastPage? hlimit hroom
    exact ⟨_, by rw [Page.of?_eq_map, hcount, Option.map_some], rfl, rfl, rfl, rfl, hleast⟩
  · rw [Page.of?_eq_map, lastPage?_eq_none hlimit hover, Option.map_none]

/-- All rows that can be told, a hundred to a page. Their pages can be counted, and yet none is
told. -/
theorem greatest_total_has_no_page :
    let request := PageRequest.of none (some 100)
    Page.of? ([] : List Unit) Int64.maxValue request = none ∧
      IsPageCount Int64.maxValue.toInt request.limit.toInt 92233720368547759 ∧
      FitsWord 92233720368547759 ∧ Word.add? Int64.maxValue request.limit = none := by
  intro request
  have htotal : Int64.maxValue.toInt = 9223372036854775807 := by decide
  have hlimit : request.limit.toInt = 100 := by decide
  rw [htotal, hlimit]
  refine ⟨by decide, ⟨⟨by decide, by decide⟩, fun n hn => ?_⟩, by decide, by decide⟩
  have henough := hn.2
  omega

end FormLetter
