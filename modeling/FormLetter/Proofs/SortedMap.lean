import FormLetter.SortedMap
import Mathlib.Data.List.Sort

/-!
# Looking up in sorted maps

A map holds under a name what was last put there, and the names of a list of entries are the names
of the map that is made of it.
-/

namespace FormLetter

namespace SortedMap

variable {β : Type}

theorem lookup_cons (entry : String × β) (entries : List (String × β)) (name : String) :
    (entry :: entries).lookup name =
      if name = entry.1 then some entry.2 else entries.lookup name := by
  rw [List.lookup_cons]
  by_cases heq : name = entry.1
  · rw [if_pos heq, beq_iff_eq.mpr heq]
  · rw [if_neg heq, beq_eq_false_iff_ne.mpr heq]

theorem lookup_put (name other : String) (value : β) (entries : List (String × β)) :
    (put name value entries).lookup other =
      if other = name then some value else entries.lookup other := by
  induction entries with
  | nil => exact lookup_cons (name, value) [] other
  | cons head rest ih =>
      rw [put]
      split
      next => exact lookup_cons (name, value) (head :: rest) other
      next hnlt =>
        split
        next hlt =>
          have hne : head.1 ≠ name := fun heq => String.lt_irrefl name (heq ▸ hlt)
          rw [lookup_cons, lookup_cons, ih]
          by_cases hhead : other = head.1
          · rw [if_pos hhead, if_neg (hhead ▸ hne), if_pos hhead]
          · rw [if_neg hhead, if_neg hhead]
        next hngt =>
          have hhead : head.1 = name :=
            String.le_antisymm (String.not_lt.mp hnlt) (String.not_lt.mp hngt)
          rw [lookup_cons, lookup_cons, hhead]
          by_cases heq : other = name
          · rw [if_pos heq, if_pos heq]
          · rw [if_neg heq, if_neg heq, if_neg heq]

@[simp]
theorem get?_empty (name : String) : (empty : SortedMap β).get? name = none :=
  rfl

@[simp]
theorem get?_insert (m : SortedMap β) (name other : String) (value : β) :
    (m.insert name value).get? other = if other = name then some value else m.get? other :=
  lookup_put name other value m.entries

theorem get?_foldl_insert (m : SortedMap β) (entries : List (String × β)) (name : String) :
    (entries.foldl (fun m entry => m.insert entry.1 entry.2) m).get? name =
      (entries.reverse.lookup name).or (m.get? name) := by
  induction entries generalizing m with
  | nil => rfl
  | cons entry rest ih =>
      rw [List.foldl_cons, ih, get?_insert, List.reverse_cons, List.lookup_append, lookup_cons,
        Option.or_assoc]
      by_cases heq : name = entry.1
      · rw [if_pos heq, if_pos heq, Option.some_or]
      · rw [if_neg heq, if_neg heq, List.lookup_nil, Option.none_or]

/-- Of several values under one name the last counts. -/
theorem get?_ofList (entries : List (String × β)) (name : String) :
    (ofList entries).get? name = entries.reverse.lookup name := by
  rw [ofList, get?_foldl_insert, get?_empty, Option.or_none]

theorem put_of_forall_lt {name : String} {entries : List (String × β)} (value : β)
    (h : ∀ entry ∈ entries, entry.1 < name) :
    put name value entries = entries ++ [(name, value)] := by
  induction entries with
  | nil => rfl
  | cons head rest ih =>
      have hhead := h head List.mem_cons_self
      have hnlt : ¬name < head.1 := fun hlt => String.lt_irrefl name (String.lt_trans hlt hhead)
      rw [put, if_neg hnlt, if_pos hhead,
        ih fun entry hentry => h entry (List.mem_cons_of_mem _ hentry), List.cons_append]

theorem entries_foldl_insert (m : SortedMap β) {entries : List (String × β)}
    (h : (m.entries ++ entries).Pairwise (fun left right => left.1 < right.1)) :
    (entries.foldl (fun m entry => m.insert entry.1 entry.2) m).entries = m.entries ++ entries := by
  induction entries generalizing m with
  | nil => exact (List.append_nil _).symm
  | cons entry rest ih =>
      have hput : (m.insert entry.1 entry.2).entries = m.entries ++ [entry] :=
        put_of_forall_lt entry.2 fun other hother =>
          (List.pairwise_append.mp h).2.2 other hother entry List.mem_cons_self
      rw [List.foldl_cons, ih, hput, List.append_assoc, List.singleton_append]
      rwa [hput, List.append_assoc, List.singleton_append]

@[simp]
theorem ofList_entries (m : SortedMap β) : ofList m.entries = m :=
  ext (entries_foldl_insert empty m.sorted)

theorem mem_map_fst_put {name other : String} {value : β} {entries : List (String × β)} :
    other ∈ (put name value entries).map Prod.fst ↔
      other = name ∨ other ∈ entries.map Prod.fst := by
  induction entries with
  | nil => simp [put]
  | cons head rest ih =>
      rw [put]
      split
      next => simp
      next hnlt =>
        split
        next =>
          rw [List.map_cons, List.mem_cons, ih, List.map_cons, List.mem_cons, or_left_comm]
        next hngt =>
          have hhead : head.1 = name :=
            String.le_antisymm (String.not_lt.mp hnlt) (String.not_lt.mp hngt)
          simp [hhead]

theorem mem_keys_insert {m : SortedMap β} {name other : String} {value : β} :
    other ∈ (m.insert name value).keys ↔ other = name ∨ other ∈ m.keys :=
  mem_map_fst_put

theorem mem_keys_foldl_insert {m : SortedMap β} {entries : List (String × β)} {name : String} :
    name ∈ (entries.foldl (fun m entry => m.insert entry.1 entry.2) m).keys ↔
      name ∈ m.keys ∨ name ∈ entries.map Prod.fst := by
  induction entries generalizing m with
  | nil => simp
  | cons entry rest ih =>
      rw [List.foldl_cons, ih, mem_keys_insert, List.map_cons, List.mem_cons, or_assoc,
        or_left_comm]

theorem mem_keys_ofList {entries : List (String × β)} {name : String} :
    name ∈ (ofList entries).keys ↔ name ∈ entries.map Prod.fst := by
  have hempty : name ∉ (empty : SortedMap β).keys := List.not_mem_nil
  rw [ofList, mem_keys_foldl_insert, or_iff_right hempty]

end SortedMap

theorem pairwise_sortedNames (names : List String) :
    (sortedNames names).Pairwise (fun left right => left < right) :=
  List.pairwise_map.mpr (SortedMap.ofList _).sorted

/-- Names in order are told by which names they are. -/
theorem eq_of_sorted_of_mem_iff {left right : List String}
    (hleft : left.Pairwise (fun left right => left < right))
    (hright : right.Pairwise (fun left right => left < right))
    (h : ∀ name, name ∈ left ↔ name ∈ right) : left = right := by
  have hirrefl : Std.Irrefl (fun left right : String => left < right) := ⟨String.lt_irrefl⟩
  have hantisymm : Std.Antisymm (fun left right : String => left < right) :=
    ⟨fun _ _ hlt hgt => absurd hgt (String.lt_asymm hlt)⟩
  exact hleft.eq_of_mem_iff hright h

/-- Putting names in order neither loses nor adds one. -/
theorem mem_sortedNames {names : List String} {name : String} :
    name ∈ sortedNames names ↔ name ∈ names := by
  rw [sortedNames, SortedMap.mem_keys_ofList, List.map_map]
  simp [Function.comp_def]

end FormLetter
