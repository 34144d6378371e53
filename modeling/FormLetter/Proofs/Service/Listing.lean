import FormLetter.Proofs.Page
import FormLetter.Proofs.Service.Run
import FormLetter.Proofs.Store.Table
import Mathlib.Algebra.Group.Nat.Defs
import Mathlib.Data.List.Basic

/-!
# Pages of the stored templates

The pages from the first to the last are neighbouring slices of the rows. All of them but the last
are full, so put together they are the rows, and past the last page there is nothing to show.
-/

namespace FormLetter

section Slices

variable {α : Type} (items : List α) (size i : Nat)

/-- One of the neighbouring parts of a list that have one length, as far as the list goes. -/
def slice : List α :=
  (items.drop (i * size)).take size

def sliceCount : Nat :=
  (items.length + size - 1) / size

theorem flatMap_slice (count : Nat) :
    (List.range count).flatMap (slice items size) = items.take (count * size) := by
  induction count with
  | zero => simp
  | succ count ih =>
      rw [List.range_succ, List.flatMap_append, ih, Nat.succ_mul, List.take_add]
      simp [slice]

theorem length_slice : (slice items size i).length = min size (items.length - i * size) := by
  simp [slice]

variable {size}

theorem sliceCount_le_iff (hsize : 1 ≤ size) :
    sliceCount items size ≤ i ↔ items.length ≤ i * size := by
  have hlt : sliceCount items size ≤ i ↔ items.length + size - 1 < (i + 1) * size := by
    rw [sliceCount, ← Nat.div_lt_iff_lt_mul hsize, Nat.lt_succ_iff]
  rw [hlt, Nat.succ_mul]
  omega

theorem flatMap_slice_sliceCount (hsize : 1 ≤ size) :
    (List.range (sliceCount items size)).flatMap (slice items size) = items := by
  rw [flatMap_slice]
  exact List.take_of_length_le ((sliceCount_le_iff items _ hsize).mp (Nat.le_refl _))

theorem length_slice_of_lt (hsize : 1 ≤ size) (h : i + 1 < sliceCount items size) :
    (slice items size i).length = size := by
  have hleft := mt (sliceCount_le_iff items (i + 1) hsize).mpr (by omega)
  rw [Nat.succ_mul] at hleft
  rw [length_slice]
  omega

theorem length_slice_pos (hsize : 1 ≤ size) (h : i < sliceCount items size) :
    1 ≤ (slice items size i).length := by
  have hleft := mt (sliceCount_le_iff items i hsize).mpr (by omega)
  rw [length_slice]
  omega

theorem slice_eq_nil (hsize : 1 ≤ size) (h : sliceCount items size ≤ i) :
    slice items size i = [] := by
  have hnone := (sliceCount_le_iff items i hsize).mp h
  rw [slice, List.drop_eq_nil_of_le hnone, List.take_nil]

theorem sliceCount_le_length (hsize : 1 ≤ size) : sliceCount items size ≤ items.length :=
  (sliceCount_le_iff items _ hsize).mpr (Nat.le_mul_of_pos_right _ hsize)

theorem sliceCount_eq_zero_iff (hsize : 1 ≤ size) : sliceCount items size = 0 ↔ items = [] := by
  have hzero := sliceCount_le_iff items 0 hsize
  rw [Nat.zero_mul, Nat.le_zero, Nat.le_zero, List.length_eq_zero_iff] at hzero
  exact hzero

end Slices

namespace Templates

open Service

variable (memory : Memory) (page limit : Option Int64)

/-- What is told of the page that is asked for. -/
def pageAt? : Option (Page Template) :=
  let request := PageRequest.of page limit
  request.offset?.bind fun offset =>
    Page.of? (memory.templates.list request.limit offset) memory.templates.total request

/-- How many rows a page holds for the limit that is asked for. -/
def pageSize (limit : Option Int64) : Nat :=
  (min (max (limit.getD 10).toInt 1) 100).toNat

theorem pageSize_pos : 1 ≤ pageSize limit := by
  unfold pageSize
  omega

theorem pageSize_le : pageSize limit ≤ 100 := by
  unfold pageSize
  omega

theorem toInt_limit_eq_pageSize : (PageRequest.of page limit).limit.toInt = pageSize limit := by
  rw [PageRequest.toInt_limit_of, pageSize]
  omega

theorem pageAt?_of_not_pos {number : Int64} (h : number.toInt ≤ 0) :
    pageAt? memory (some number) limit = pageAt? memory (some 1) limit := by
  have hpage : clampPage (some number) = clampPage (some 1) := by
    rw [← Int64.toInt_inj, toInt_clampPage, toInt_clampPage, Option.getD_some, Option.getD_some,
      Int64.toInt_one]
    omega
  simp only [pageAt?, PageRequest.of, hpage]

variable {memory}

theorem exists_offset?_list_eq (hroom : memory.templates.rows.length < 2 ^ 63 - 1)
    (number : Int64) :
    ∃ offset, (PageRequest.of (some number) limit).offset? = some offset ∧
      memory.templates.list (PageRequest.of (some number) limit).limit offset =
        slice memory.templates.rows (pageSize limit) ((max number.toInt 1).toNat - 1) := by
  have hsize := toInt_limit_eq_pageSize (some number) limit
  obtain ⟨before, hbefore⟩ : ∃ n : Nat, max number.toInt 1 = n + 1 :=
    ⟨(max number.toInt 1).toNat - 1, by omega⟩
  obtain ⟨offset, htold, hoffset⟩ := PageRequest.exists_offset?_of (some number) limit
  rw [PageRequest.toInt_page_of, Option.getD_some, hsize, hbefore, Int.add_sub_cancel] at hoffset
  have hskipped : offset.toInt.toNat = min (before * pageSize limit) (2 ^ 63 - 1) := by omega
  refine ⟨offset, htold, ?_⟩
  change (memory.templates.rows.drop _).take _ = _
  rw [hskipped, hsize, hbefore, slice]
  simp only [Int.toNat_natCast, Int.toNat_natCast_add_one, Nat.add_sub_cancel]
  -- Where the product has no room in 64 bits, the table ends before either offset.
  by_cases hlarge : before * pageSize limit ≤ 2 ^ 63 - 1
  · rw [Nat.min_eq_left hlarge]
  · rw [List.drop_eq_nil_of_le (by omega), List.drop_eq_nil_of_le (by omega)]

theorem exists_lastPage?_eq_sliceCount (hroom : memory.templates.rows.length + 100 < 2 ^ 63) :
    ∃ count, lastPage? memory.templates.total (PageRequest.of page limit).limit = some count ∧
      count.toInt = sliceCount memory.templates.rows (pageSize limit) := by
  have htotal : memory.templates.total.toInt = memory.templates.rows.length :=
    Int64.toInt_ofNat_of_lt (by omega)
  have hsize := toInt_limit_eq_pageSize page limit
  have hpos := pageSize_pos limit
  have hle := pageSize_le limit
  have hroom : memory.templates.total.toInt + (PageRequest.of page limit).limit.toInt < 2 ^ 63 := by
    omega
  obtain ⟨count, hcount, hquotient⟩ := exists_lastPage? (by omega) (by omega) hroom
  refine ⟨count, hcount, ?_⟩
  have hsum : (memory.templates.rows.length + pageSize limit - 1 : Int) =
      (memory.templates.rows.length + pageSize limit - 1 : Nat) := by omega
  rw [hquotient, htotal, hsize, hsum, sliceCount]
  rfl

/-- As long as the number of templates has room to be rounded up, every page is told, and it holds
the slice with its number. -/
theorem exists_pageAt? (hroom : memory.templates.rows.length + 100 < 2 ^ 63) (number : Int64) :
    ∃ page, pageAt? memory (some number) limit = some page ∧
      page.data = slice memory.templates.rows (pageSize limit) ((max number.toInt 1).toNat - 1) ∧
      page.total.toInt = memory.templates.rows.length ∧
      page.lastPage.toInt = sliceCount memory.templates.rows (pageSize limit) := by
  have hsmall : memory.templates.rows.length < 2 ^ 63 - 1 := by omega
  obtain ⟨offset, hoffset, hlist⟩ := exists_offset?_list_eq limit hsmall number
  obtain ⟨count, hcount, hexact⟩ := exists_lastPage?_eq_sliceCount (some number) limit hroom
  have htotal : memory.templates.total.toInt = memory.templates.rows.length :=
    Int64.toInt_ofNat_of_lt (by omega)
  let request := PageRequest.of (some number) limit
  let page : Page Template :=
    { data := memory.templates.list request.limit offset
      total := memory.templates.total
      page := request.page
      limit := request.limit
      lastPage := count }
  have htold : pageAt? memory (some number) limit = some page := by
    simp only [pageAt?, hoffset, Option.bind_some, Page.of?_eq_map, hcount, Option.map_some]
    rfl
  exact ⟨page, htold, hlist, htotal, hexact⟩

/-- The rows of the pages from the first on, so many pages, put together. -/
def joined (page : Int64 → Page Template) (count : Nat) : List Template :=
  (List.range count).flatMap fun i => (page (Int64.ofNat (i + 1))).data

/-- **Pages partition the templates.** Put together, the pages from the first to the last are all
stored templates, each once, from the newest to the oldest. All pages but the last are full, the
last is not empty, and after it come only empty pages. What is not a number from one on stands for
the first page, and every page tells how many templates there are. -/
theorem pages_partition_templates (memory : Memory) (limit : Option Int64)
    (hroom : (memory.templates.rows.length : Int) ≤ Int64.maxValue.toInt - 100) :
    ∃ (page : Int64 → Page Template) (last : Nat),
      (∀ now number, exec now (list (.of (some number) limit)) memory =
        (.ok (some (page number)), memory)) ∧
      (∀ now, exec now (list (.of none limit)) memory = (.ok (some (page 1)), memory)) ∧
      (∀ number : Int64, number.toInt ≤ 0 → page number = page 1) ∧
      (∀ number, (page number).total.toInt = memory.templates.rows.length) ∧
      (∀ number, (page number).lastPage.toInt = last) ∧
      (last = 0 ↔ memory.templates.rows = []) ∧
      (joined page last).Pairwise (fun newer older => older.id < newer.id) ∧
      (∀ template, template ∈ joined page last ↔
        memory.templates.find? template.id = some template) ∧
      (∀ number : Int64, 1 ≤ number.toInt → number.toInt < last →
        (page number).data.length = pageSize limit) ∧
      (∀ number : Int64, 1 ≤ number.toInt → number.toInt = last →
        1 ≤ (page number).data.length ∧ (page number).data.length ≤ pageSize limit) ∧
      ∀ number : Int64, last < number.toInt → (page number).data = [] := by
  rw [Int64.toInt_maxValue] at hroom
  have hsize := pageSize_pos limit
  choose page hpage hdata htotal hlast using @exists_pageAt? memory limit (by omega)
  have hcount := sliceCount_le_length memory.templates.rows hsize
  have hjoined : joined page (sliceCount memory.templates.rows (pageSize limit)) =
      memory.templates.rows := by
    have hslices : ∀ i ∈ List.range (sliceCount memory.templates.rows (pageSize limit)),
        (page (Int64.ofNat (i + 1))).data = slice memory.templates.rows (pageSize limit) i := by
      intro i hi
      have hlt := List.mem_range.mp hi
      have hnumber : (Int64.ofNat (i + 1)).toInt = (i + 1 : Nat) :=
        Int64.toInt_ofNat_of_lt (by omega)
      rw [hdata, hnumber]
      congr 1
      omega
    rw [joined, List.flatMap_congr hslices]
    exact flatMap_slice_sliceCount memory.templates.rows hsize
  have htold : ∀ now number, exec now (list (.of (some number) limit)) memory =
      (.ok (some (page number)), memory) := by
    intro now number
    rw [← hpage number]
    exact exec_list now memory _
  refine ⟨page, sliceCount memory.templates.rows (pageSize limit), htold,
    fun now => htold now 1, fun number h => ?_, htotal, hlast,
    sliceCount_eq_zero_iff memory.templates.rows hsize, ?_, fun template => ?_,
    fun number hpos hlt => ?_, fun number hpos heq => ?_, fun number hlt => ?_⟩
  · have hsame := pageAt?_of_not_pos memory limit h
    rw [hpage, hpage] at hsame
    exact Option.some.inj hsame
  · rw [hjoined]
    exact memory.templates.sorted
  · rw [hjoined, TemplateTable.find?_eq_some_iff]
    exact (and_iff_left rfl).symm
  · rw [hdata]
    exact length_slice_of_lt _ _ hsize (by omega)
  · rw [hdata]
    refine ⟨length_slice_pos _ _ hsize (by omega), ?_⟩
    rw [length_slice]
    exact Nat.min_le_left _ _
  · rw [hdata]
    exact slice_eq_nil _ _ hsize (by omega)

/-- Four letters of which the second was deleted, two on a page. -/
theorem three_letters_on_two_pages :
    let letter : NewTemplate :=
      { title := "Letter", description := none, content := .plain "Dear", category := .other }
    let add (table : TemplateTable) : TemplateTable := (table.create letter ⟨0, 0⟩).2
    let memory : Memory := ⟨((add (add (add (add .empty)))).delete 2).2, .empty⟩
    (memory.templates.rows.length : Int) ≤ Int64.maxValue.toInt - 100 ∧
      ∃ page : Int64 → Page Template,
        (∀ number, (exec ⟨1, 0⟩ (list (.of (some number) (some 2))) memory).1 =
          .ok (some (page number))) ∧
        (page 1).data.length = 2 ∧ (page 3).data = [] ∧
        (joined page 2).Pairwise fun newer older => older.id < newer.id := by
  intro letter add memory
  have hroom : (memory.templates.rows.length : Int) ≤ Int64.maxValue.toInt - 100 := by decide
  obtain ⟨page, last, hlist, -, -, -, hlast, -, hsorted, -, hfull, -, hempty⟩ :=
    pages_partition_templates memory (some 2) hroom
  have hfirst : some (page 1) = pageAt? memory (some 1) (some 2) :=
    Except.ok.inj (congrArg Prod.fst ((hlist ⟨1, 0⟩ 1).symm.trans (exec_list _ memory _)))
  have htwo : last = 2 := by
    have hcount : (pageAt? memory (some 1) (some 2)).map (fun page => page.lastPage.toInt) =
        some 2 := by decide
    rw [← hfirst, Option.map_some, Option.some.injEq, hlast] at hcount
    omega
  subst htwo
  exact ⟨hroom, page, fun number => congrArg Prod.fst (hlist _ number),
    hfull 1 (by decide) (by decide), hempty 3 (by decide), hsorted⟩

end Templates

end FormLetter
