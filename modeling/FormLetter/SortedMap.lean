/-!
# Sorted maps

The order of the names is part of the type, so two maps with the same values under the same names
are equal.
-/

namespace FormLetter

/-- A finite map from names to values, listed in the order of the names. -/
structure SortedMap (β : Type) where
  entries : List (String × β)
  sorted : entries.Pairwise (fun left right => left.1 < right.1)

namespace SortedMap

variable {β γ : Type}

@[ext]
theorem ext {m n : SortedMap β} (h : m.entries = n.entries) : m = n := by
  cases m
  cases n
  cases h
  rfl

instance [DecidableEq β] : DecidableEq (SortedMap β) :=
  fun m n => decidable_of_iff (m.entries = n.entries) ⟨ext, congrArg entries⟩

def empty : SortedMap β :=
  ⟨[], .nil⟩

def keys (m : SortedMap β) : List String :=
  m.entries.map Prod.fst

def get? (m : SortedMap β) (name : String) : Option β :=
  m.entries.lookup name

/-- Puts a value under a name in its place, over the value that the name had. -/
def put (name : String) (value : β) : List (String × β) → List (String × β)
  | [] => [(name, value)]
  | entry :: rest =>
    if name < entry.1 then (name, value) :: entry :: rest
    else if entry.1 < name then entry :: put name value rest
    else (name, value) :: rest

theorem mem_put {name : String} {value : β} {entries : List (String × β)} {entry : String × β}
    (h : entry ∈ put name value entries) : entry = (name, value) ∨ entry ∈ entries := by
  induction entries with
  | nil => exact .inl (List.mem_singleton.mp h)
  | cons head rest ih =>
    rw [put] at h
    split at h
    · exact List.mem_cons.mp h
    · split at h
      · rcases List.mem_cons.mp h with h | h
        · exact .inr (h ▸ List.mem_cons_self)
        · exact (ih h).imp_right (List.mem_cons_of_mem _)
      · exact (List.mem_cons.mp h).imp_right (List.mem_cons_of_mem _)

theorem pairwise_put (name : String) (value : β) {entries : List (String × β)}
    (h : entries.Pairwise (fun left right => left.1 < right.1)) :
    (put name value entries).Pairwise (fun left right => left.1 < right.1) := by
  induction entries with
  | nil => simp [put]
  | cons head rest ih =>
    have hhead := (List.pairwise_cons.mp h).1
    have hrest := (List.pairwise_cons.mp h).2
    rw [put]
    split
    next hlt =>
      refine List.pairwise_cons.mpr ⟨fun entry hentry => ?_, h⟩
      rcases List.mem_cons.mp hentry with rfl | hentry
      · exact hlt
      · exact String.lt_trans hlt (hhead entry hentry)
    next hnlt =>
      split
      next hlt =>
        refine List.pairwise_cons.mpr ⟨fun entry hentry => ?_, ih hrest⟩
        rcases mem_put hentry with rfl | hentry
        · exact hlt
        · exact hhead entry hentry
      next hngt =>
        have heq : name = head.1 :=
          String.le_antisymm (String.not_lt.mp hngt) (String.not_lt.mp hnlt)
        exact List.pairwise_cons.mpr ⟨fun entry hentry => heq ▸ hhead entry hentry, hrest⟩

def insert (m : SortedMap β) (name : String) (value : β) : SortedMap β :=
  ⟨put name value m.entries, pairwise_put name value m.sorted⟩

/-- Of several values under one name the last stays. -/
def ofList (entries : List (String × β)) : SortedMap β :=
  entries.foldl (fun m entry => m.insert entry.1 entry.2) empty

def map (f : β → γ) (m : SortedMap β) : SortedMap γ where
  entries := m.entries.map fun entry => (entry.1, f entry.2)
  sorted := List.pairwise_map.mpr m.sorted

end SortedMap

/-- The distinct names of a list, in order. -/
def sortedNames (names : List String) : List String :=
  (SortedMap.ofList (names.map fun name => (name, ()))).keys

end FormLetter
