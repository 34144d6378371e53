import FormLetter.Proofs.Except
import FormLetter.Proofs.Json.Record
import Mathlib.Algebra.Group.Int.Defs

/-!
# Records of many fields

A field of a record is read as it would be if it were the only one: what the other fields hold has
no say in it, so long as they can be read. So the laws of records of one field tell what a record
gathers, field by field.
-/

namespace FormLetter.Json

/-! ## What readers take -/

theorem Numeral.le_of_number? {numeral : Numeral} {value : Int}
    (h : numeral.number? = some (.integer value)) : -2 ^ 63 ≤ value := by
  simp only [number?, Bool.and_eq_true, decide_eq_true_iff] at h
  split at h
  next =>
    cases h
    omega
  next =>
    split at h
    next hnegative =>
      cases h
      have hsmall := hnegative.2
      simp only [Nat.pow_eq] at hsmall
      omega
    next =>
      obtain ⟨_, -, hfloat⟩ := Option.map_eq_some_iff.mp h
      cases hfloat

/-- A label by itself, or as the only key of an object, with null under it. -/
inductive Node.SpellsLabel (label : String) : Node → Prop where
  | text : SpellsLabel label (.string (.ok label))
  | key : SpellsLabel label (.object [(.ok label, .null)] none)

theorem Node.SpellsLabel.unique {label other : String} {node : Node} (h : node.SpellsLabel label)
    (hother : node.SpellsLabel other) : label = other := by
  cases h with
  | text =>
      cases hother
      rfl
  | key =>
      cases hother
      rfl

namespace Reader

variable {depth : Nat} {node : Node}

theorem string_eq_ok_iff {text : String} :
    string depth node = .ok text ↔ node = .string (.ok text) := by
  unfold string
  split
  next => simp
  next hne => exact iff_of_false Node.refuse_ne_ok fun h => hne _ h

theorem int64_eq_ok_iff {value : Int64} :
    int64 depth node = .ok value ↔
      ∃ numeral, node = .number numeral ∧ numeral.number? = some (.integer value.toInt) := by
  constructor
  · intro h
    unfold int64 at h
    split at h
    next numeral =>
      split at h
      next spelled hspelled =>
        split at h
        next hle =>
          cases h
          have hleast := Numeral.le_of_number? hspelled
          have hmax : Int64.maxValue.toInt = 2 ^ 63 - 1 := Int64.toInt_maxValue
          refine ⟨numeral, rfl, ?_⟩
          rw [hspelled, Int64.toInt_ofInt_of_le hleast (by omega)]
        next => exact absurd h Node.refuse_ne_ok
      next => exact absurd h Node.refuse_ne_ok
    next => exact absurd h Node.refuse_ne_ok
  · rintro ⟨numeral, rfl, hnumber⟩
    simp only [int64, hnumber, if_pos value.toInt_le, Int64.ofInt_toInt]

theorem oneOf_eq_ok_iff {labels : List String} {label given : String} :
    oneOf labels label = .ok given ↔ label ∈ labels ∧ given = label := by
  rw [oneOf]
  by_cases h : label ∈ labels <;> simp [h, eq_comm]

theorem spellsLabel_of_label {labels : List String} {given : String}
    (h : label labels depth node = .ok given) : node.SpellsLabel given := by
  rw [label.eq_def] at h
  split at h
  next =>
    obtain ⟨-, rfl⟩ := oneOf_eq_ok_iff.mp h
    exact .text
  next => cases h
  next => cases h
  next => cases h
  next =>
    split at h
    next => cases h
    next hlabel =>
      obtain ⟨-, rfl⟩ := oneOf_eq_ok_iff.mp hlabel
      split at h
      next hempty =>
        obtain ⟨rfl, rfl⟩ := endedBy_eq_ok_iff.mp h
        rw [List.isEmpty_iff.mp hempty]
        exact .key
      next => cases h
    next => exact absurd h Node.refuse_ne_ok
  next => cases h

end Reader

/-- What the reader takes ends before the text does. -/
def Reader.ReadsToEnd {α : Type} (read : Reader α) : Prop :=
  ∀ {depth : Nat} {node : Node} {result : α}, read depth node = .ok result → node.ending? = none

namespace Reader

theorem readsToEnd_string : ReadsToEnd string := by
  intro depth node text h
  rw [string_eq_ok_iff.mp h]
  rfl

theorem readsToEnd_int64 : ReadsToEnd int64 := by
  intro depth node value h
  obtain ⟨numeral, rfl, -⟩ := int64_eq_ok_iff.mp h
  rfl

theorem readsToEnd_label (labels : List String) : ReadsToEnd (label labels) := by
  intro depth node given h
  cases spellsLabel_of_label h <;> rfl

theorem ReadsToEnd.optional {α : Type} {read : Reader α} (h : read.ReadsToEnd) :
    (Reader.optional read).ReadsToEnd := by
  intro depth node given hread
  rcases optional_eq_ok_iff.mp hread with ⟨rfl, -⟩ | ⟨-, value, hvalue, -⟩
  · rfl
  · exact h hvalue

end Reader

theorem Node.itemsStop?_of_ending {depth : Nat} (fault : SyntaxFault) (items : List Node) :
    itemsStop? depth (some fault) items ≠ none := by
  induction items with
  | nil => simp [itemsStop?]
  | cons item items ih => exact fun h => ih (itemsStop?_cons_eq_none_iff.mp h).2

theorem Node.membersStop?_of_ending {depth : Nat} (fault : SyntaxFault)
    (members : List (Except Stop String × Node)) :
    membersStop? depth (some fault) members ≠ none := by
  induction members with
  | nil => simp [membersStop?]
  | cons member members ih => exact fun h => ih (membersStop?_cons_eq_none_iff.mp h).2.2

/-- A node that can be read as a whole ends before the text does. -/
theorem Node.ending?_of_stop?_eq_none {depth : Nat} {node : Node} (h : node.stop? depth = none) :
    node.ending? = none := by
  cases node with
  | null | bool | number | string => rfl
  | broken fault => cases h
  | array items ending =>
      cases depth with
      | zero => cases h
      | succ depth =>
          cases ending with
          | none => rfl
          | some fault => exact absurd h (itemsStop?_of_ending fault items)
  | object members ending =>
      cases depth with
      | zero => cases h
      | succ depth =>
          cases ending with
          | none => rfl
          | some fault => exact absurd h (membersStop?_of_ending fault members)

/-! ## One field among others -/

theorem ValuesUnder.mem_iff {name : String} {members : List (Except Stop String × Node)}
    {values : List Node} (h : ValuesUnder name members values) {value : Node} :
    value ∈ values ↔ (.ok name, value) ∈ members := by
  induction h with
  | nil => simp
  | under _ ih => simp [ih]
  | other hkey _ _ ih => simp [ih, Ne.symm hkey]

section

variable {σ β : Type}

/-- A field that is read into nothing but its value. -/
def Field.alone {α : Type} (name : String) (mayBeCut : Bool) (read : Reader α) : Field (Option α) :=
  .of name mayBeCut read fun value _ => some value

/-- What the field does to the part of what is gathered that is viewed: it puts there what the lone
field puts, or has another name and leaves that part alone. -/
inductive Field.ShownBy (field : Field σ) (lone : Field β) (view : σ → β) : Prop where
  | own (hname : field.name = lone.name)
      (hread : ∀ {depth : Nat} {node : Node} {put : σ → σ}, field.read depth node = .ok put →
        ∃ lonePut, lone.read depth node = .ok lonePut ∧ ∀ s, view (put s) = lonePut (view s))
  | other (hname : field.name ≠ lone.name)
      (hread : ∀ {depth : Nat} {node : Node} {put : σ → σ}, field.read depth node = .ok put →
        ∀ s, view (put s) = view s)

theorem Field.of_read_eq_ok_iff {α : Type} {name : String} {mayBeCut : Bool} {read : Reader α}
    {set : α → σ → σ} {depth : Nat} {node : Node} {put : σ → σ} :
    (Field.of name mayBeCut read set).read depth node = .ok put ↔
      ∃ value, read depth node = .ok value ∧ set value = put :=
  except_map_eq_ok_iff

theorem Field.readsToEnd_of {α : Type} {name : String} {mayBeCut : Bool} {read : Reader α}
    {set : α → σ → σ} (h : read.ReadsToEnd) :
    Reader.ReadsToEnd (Field.of name mayBeCut read set).read := by
  intro depth node put hread
  obtain ⟨value, hvalue, -⟩ := of_read_eq_ok_iff.mp hread
  exact h hvalue

theorem Field.ShownBy.of_same {α : Type} {name : String} {mayBeCut cut : Bool} {read : Reader α}
    {set : α → σ → σ} {setLone : α → β → β} {view : σ → β}
    (h : ∀ value s, view (set value s) = setLone value (view s)) :
    ShownBy (.of name mayBeCut read set) (.of name cut read setLone) view := by
  refine .own rfl fun hread => ?_
  obtain ⟨value, hvalue, rfl⟩ := of_read_eq_ok_iff.mp hread
  exact ⟨setLone value, of_read_eq_ok_iff.mpr ⟨value, hvalue, rfl⟩, h value⟩

theorem Field.ShownBy.of_ne {α : Type} {name : String} {mayBeCut : Bool} {read : Reader α}
    {set : α → σ → σ} {lone : Field β} {view : σ → β} (hname : name ≠ lone.name)
    (h : ∀ value s, view (set value s) = view s) :
    ShownBy (.of name mayBeCut read set) lone view := by
  refine .other hname fun hread => ?_
  obtain ⟨value, -, rfl⟩ := of_read_eq_ok_iff.mp hread
  exact h value

namespace Record

variable {fields : List (Field σ)} {lone : Field β} {view : σ → β} {depth : Nat}
  {ending : Option SyntaxFault} {members : List (Except Stop String × Node)}

/-- A member is passed over, or read for the field of its name, which was not seen before. -/
theorem gatherMembers_cons_cases {member : Except Stop String × Node} {seen : List String}
    {gathered result : σ}
    (h : gatherMembers fields depth ending seen (member :: members) gathered = .ok result) :
    (∃ key, member.1 = .ok key ∧ (∀ field ∈ fields, field.name ≠ key) ∧
      member.2.ending? = none ∧
      gatherMembers fields depth ending seen members gathered = .ok result) ∨
    ∃ field ∈ fields, member.1 = .ok field.name ∧ field.name ∉ seen ∧
      ∃ put, field.read depth member.2 = .ok put ∧
        gatherMembers fields depth ending (field.name :: seen) members (put gathered) =
          .ok result := by
  obtain ⟨key | key, value⟩ := member
  · cases h
  rw [gatherMembers] at h
  split at h
  next hnone =>
    split at h
    next hends =>
      refine .inl ⟨key, rfl, fun field hfield => ?_, hends, h⟩
      simpa using List.find?_eq_none.mp hnone field hfield
    next => cases h
  next field hfound =>
    obtain rfl : field.name = key := by simpa using List.find?_some hfound
    split at h
    next => cases h
    next hnew =>
      split at h
      next gathered' hput =>
        obtain ⟨put, hread, rfl⟩ := Field.readAt_eq_ok_iff.mp hput
        have hfresh : field.name ∉ seen := by simpa using hnew
        exact .inr ⟨field, List.mem_of_find?_eq_some hfound, rfl, hfresh, put, hread, h⟩
      next => cases h

theorem ending?_of_gatherMembers
    (hends : ∀ field ∈ fields, Reader.ReadsToEnd field.read) {seen : List String}
    {gathered result : σ}
    (h : gatherMembers fields depth ending seen members gathered = .ok result) :
    ∀ member ∈ members, member.2.ending? = none := by
  induction members generalizing seen gathered with
  | nil => exact nofun
  | cons member members ih =>
      rw [List.forall_mem_cons]
      rcases gatherMembers_cons_cases h with
        ⟨_, -, -, hvalue, hrest⟩ | ⟨field, hfield, -, -, _, hread, hrest⟩
      · exact ⟨hvalue, ih hrest⟩
      · exact ⟨hends field hfield hread, ih hrest⟩

/-- **A field is read among others as it is alone.** -/
theorem gatherMembers_alone (hshown : ∀ field ∈ fields, field.ShownBy lone view)
    (hlisted : ∃ field ∈ fields, field.name = lone.name)
    (hends : ∀ member ∈ members, member.2.ending? = none) {seen seenAlone : List String}
    (hseen : lone.name ∈ seenAlone → lone.name ∈ seen) {gathered result : σ}
    (h : gatherMembers fields depth ending seen members gathered = .ok result) :
    gatherMembers [lone] depth ending seenAlone members (view gathered) = .ok (view result) := by
  -- Whatever is seen by the lone field is seen among all, so what is new to all is new to it.
  induction members generalizing seen seenAlone gathered with
  | nil =>
      obtain ⟨rfl, rfl⟩ := endedBy_eq_ok_iff.mp h
      rfl
  | cons member members ih =>
      rw [List.forall_mem_cons] at hends
      obtain ⟨name, value⟩ := member
      rcases gatherMembers_cons_cases h with
        ⟨key, rfl, hnone, -, hrest⟩ | ⟨field, hfield, rfl, hnew, put, hread, hrest⟩
      · obtain ⟨field, hfield, hname⟩ := hlisted
        have hother : key ≠ lone.name := fun hkey => hnone field hfield (hname.trans hkey.symm)
        exact (gatherMembers_other hother).mpr ⟨hends.1, ih hends.2 hseen hrest⟩
      · cases hshown field hfield with
        | own hname hown =>
            obtain ⟨lonePut, hlone, hview⟩ := hown hread
            rw [hname] at hnew hrest ⊢
            refine (gatherMembers_own (mt hseen hnew)).mpr ⟨lonePut, hlone, ?_⟩
            rw [← hview]
            exact ih hends.2 (fun _ => List.mem_cons_self) hrest
        | other hname hother =>
            refine (gatherMembers_other hname).mpr ⟨hends.1, ?_⟩
            rw [← hother hread gathered]
            exact ih hends.2 (fun hmem => List.mem_cons_of_mem _ (hseen hmem)) hrest

/-- The one node that a field is read from, where the field has to be there. -/
theorem exists_value_of_gatherMembers {α : Type} {name : String} {mayBeCut : Bool}
    {read : Reader α} {view : σ → Option α}
    (hshown : ∀ field ∈ fields, field.ShownBy (.alone name mayBeCut read) view)
    (hlisted : ∃ field ∈ fields, field.name = name)
    (hends : ∀ member ∈ members, member.2.ending? = none) {gathered result : σ} {value : α}
    (h : gatherMembers fields depth ending [] members gathered = .ok result)
    (hstart : view gathered = none) (hresult : view result = some value) :
    ∃ node, ValuesUnder name members [node] ∧ read depth node = .ok value := by
  have halone : gatherMembers [.alone name mayBeCut read] depth ending [] members (view gathered) =
      .ok (view result) := gatherMembers_alone hshown hlisted hends id h
  obtain ⟨-, values, hvalues, hputs⟩ := gatherMembers_eq_ok_iff.mp halone
  rw [hstart, hresult] at hputs
  generalize hput : some value = put at hputs
  cases hputs with
  | nothing => cases hput
  | once hread =>
      obtain ⟨given, hgiven, rfl⟩ := Field.of_read_eq_ok_iff.mp hread
      cases hput
      exact ⟨_, hvalues, hgiven⟩

/-! ### Lists of fields -/

section Items

variable {expected : String} {position : Nat} {field : Field σ} {items : List Node}
  {gathered result : σ}

theorem gatherItems_nil_eq_ok_iff :
    gatherItems expected depth ending position ([] : List (Field σ)) items gathered = .ok result ↔
      items = [] ∧ ending = none ∧ result = gathered := by
  cases items <;> simp [gatherItems, endedBy_eq_ok_iff]

theorem gatherItems_cons_eq_ok_iff {item : Node} :
    gatherItems expected depth ending position (field :: fields) (item :: items) gathered =
        .ok result ↔
      ∃ put, field.read depth item = .ok put ∧
        gatherItems expected depth ending (position + 1) fields items (put gathered) =
          .ok result := by
  simp only [gatherItems, Field.readAt]
  cases field.read depth item <;> simp

/-- Where a field cannot be left out, there is an item for it. -/
theorem gatherItems_kept_eq_ok_iff (hkept : field.mayBeCut = false) :
    gatherItems expected depth ending position (field :: fields) items gathered = .ok result ↔
      ∃ item more put, items = item :: more ∧ field.read depth item = .ok put ∧
        gatherItems expected depth ending (position + 1) fields more (put gathered) =
          .ok result := by
  cases items with
  | nil =>
      refine iff_of_false (fun h => ?_) fun ⟨_, _, _, hitems, _⟩ => absurd hitems (by simp)
      simp only [gatherItems, hkept] at h
      split at h
      · cases h
      · cases h
  | cons item items =>
      rw [gatherItems_cons_eq_ok_iff]
      constructor
      · rintro ⟨put, hread, hrest⟩
        exact ⟨item, items, put, rfl, hread, hrest⟩
      · rintro ⟨_, _, put, hitems, hread, hrest⟩
        cases hitems
        exact ⟨put, hread, hrest⟩

/-- Items that are read for other fields leave what is viewed as it was. -/
theorem view_of_gatherItems (hshown : ∀ field ∈ fields, field.ShownBy lone view)
    (hother : ∀ field ∈ fields, field.name ≠ lone.name)
    (h : gatherItems expected depth ending position fields items gathered = .ok result) :
    view result = view gathered := by
  induction fields generalizing position items gathered with
  | nil => rw [(gatherItems_nil_eq_ok_iff.mp h).2.2]
  | cons field fields ih =>
      rw [List.forall_mem_cons] at hshown hother
      cases items with
      | nil =>
          simp only [gatherItems] at h
          split at h
          next => cases h
          next =>
            split at h
            next => exact ih hshown.2 hother.2 h
            next => cases h
      | cons item items =>
          obtain ⟨put, hread, hrest⟩ := gatherItems_cons_eq_ok_iff.mp h
          cases hshown.1 with
          | own hname => exact absurd hname hother.1
          | other _ hkeeps => rw [ih hshown.2 hother.2 hrest, hkeeps hread]

end Items

end Record

end

end FormLetter.Json
