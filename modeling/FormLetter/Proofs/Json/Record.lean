import FormLetter.Json.Record
import FormLetter.Proofs.Json.Scan

/-!
# Records of one field

What is read of such a record is read of the one node that stands for the field. In an object that
is the value of the member with its name, in a list the item. There may be other members, so long as
their keys are text and their values end, but there may be no second node for the field.
-/

namespace FormLetter.Json

/-! ## What stands for the field -/

/-- The members of an object with their keys, as the values under one name and others that are
passed over. -/
inductive ValuesUnder (name : String) : List (Except Stop String × Node) → List Node → Prop where
  | nil : ValuesUnder name [] []
  | under {value : Node} {members : List (Except Stop String × Node)} {values : List Node}
      (hmembers : ValuesUnder name members values) :
      ValuesUnder name ((.ok name, value) :: members) (value :: values)
  | other {key : String} {value : Node} {members : List (Except Stop String × Node)}
      {values : List Node} (hkey : key ≠ name) (hends : value.ending? = none)
      (hmembers : ValuesUnder name members values) :
      ValuesUnder name ((.ok key, value) :: members) values

/-- The nodes that stand for the only field of a record. -/
inductive Node.StandingFor (name : String) : Node → List Node → Prop where
  | members {members : List (Except Stop String × Node)} {values : List Node}
      (h : ValuesUnder name members values) : StandingFor name (.object members none) values
  | items (items : List Node) : StandingFor name (.array items none) items

theorem ValuesUnder.unique {name : String} {members : List (Except Stop String × Node)}
    {values others : List Node} (h : ValuesUnder name members values)
    (hothers : ValuesUnder name members others) : values = others := by
  induction h generalizing others with
  | nil =>
      cases hothers
      rfl
  | under _ ih =>
      cases hothers with
      | under hmembers => rw [ih hmembers]
      | other hkey => exact absurd rfl hkey
  | other hkey _ _ ih =>
      cases hothers with
      | under => exact absurd rfl hkey
      | other _ _ hmembers => exact ih hmembers

theorem Node.StandingFor.unique {name : String} {node : Node} {values others : List Node}
    (h : node.StandingFor name values) (hothers : node.StandingFor name others) :
    values = others := by
  cases h with
  | members hvalues =>
      cases hothers with
      | members hmembers => exact hvalues.unique hmembers
  | items =>
      cases hothers
      rfl

/-- What the nodes for a field put to what has been gathered. -/
inductive Field.Puts {σ : Type} (field : Field σ) (depth : Nat) (gathered : σ) :
    List Node → σ → Prop where
  | nothing : field.Puts depth gathered [] gathered
  | once {node : Node} {put : σ → σ} (hread : field.read depth node = .ok put) :
      field.Puts depth gathered [node] (put gathered)

theorem endedBy_eq_ok_iff {α : Type} {ending : Option SyntaxFault} {given result : α} :
    endedBy ending given = .ok result ↔ ending = none ∧ result = given := by
  cases ending with
  | none => simp [endedBy, eq_comm]
  | some fault => simp [endedBy]

theorem Node.refuse_ne_ok {α : Type} {node : Node} {expected : String} {result : α} :
    node.refuse expected ≠ .ok result := by
  rw [refuse]
  split <;> exact nofun

theorem Field.readAt_eq_ok_iff {σ : Type} {field : Field σ} {step : Step} {depth : Nat}
    {node : Node} {gathered result : σ} :
    field.readAt step depth node gathered = .ok result ↔
      ∃ put, field.read depth node = .ok put ∧ put gathered = result := by
  rw [readAt]
  cases field.read depth node <;> simp

namespace Record

section

variable {σ : Type} {field : Field σ} {depth : Nat} {ending : Option SyntaxFault}
  {gathered result : σ}

theorem find?_field (key : String) :
    [field].find? (fun field => field.name == key) =
      if key = field.name then some field else none := by
  by_cases heq : key = field.name
  · simp [heq]
  · simp [heq, Ne.symm heq]

theorem gatherMembers_other {key : String} {value : Node} {seen : List String}
    {members : List (Except Stop String × Node)} (hkey : key ≠ field.name) :
    gatherMembers [field] depth ending seen ((.ok key, value) :: members) gathered = .ok result ↔
      value.ending? = none ∧
        gatherMembers [field] depth ending seen members gathered = .ok result := by
  simp only [gatherMembers, find?_field, if_neg hkey]
  cases value.ending? <;> simp

theorem gatherMembers_own {value : Node} {seen : List String}
    {members : List (Except Stop String × Node)} (hnew : field.name ∉ seen) :
    gatherMembers [field] depth ending seen ((.ok field.name, value) :: members) gathered =
        .ok result ↔
      ∃ put, field.read depth value = .ok put ∧
        gatherMembers [field] depth ending (field.name :: seen) members (put gathered) =
          .ok result := by
  have hfresh : seen.contains field.name = false := by simpa using hnew
  simp only [gatherMembers, find?_field, if_pos, hfresh, Field.readAt]
  cases field.read depth value <;> simp

/-- Once the field has been read, its name may not come again. -/
theorem gatherMembers_of_seen {members : List (Except Stop String × Node)} :
    gatherMembers [field] depth ending [field.name] members gathered = .ok result ↔
      ending = none ∧ ValuesUnder field.name members [] ∧ result = gathered := by
  induction members with
  | nil =>
      rw [gatherMembers, endedBy_eq_ok_iff]
      exact and_congr_right fun _ => (and_iff_right .nil).symm
  | cons member members ih =>
      obtain ⟨key | key, value⟩ := member
      · exact iff_of_false nofun fun ⟨_, h, _⟩ => nomatch h
      · by_cases hkey : key = field.name
        · subst hkey
          refine iff_of_false ?_ ?_
          · simp [gatherMembers]
          · rintro ⟨-, h, -⟩
            cases h with
            | other hne => exact hne rfl
        · rw [gatherMembers_other hkey, ih]
          constructor
          · rintro ⟨hends, hending, hmembers, hresult⟩
            exact ⟨hending, .other hkey hends hmembers, hresult⟩
          · rintro ⟨hending, hmembers, hresult⟩
            cases hmembers with
            | other _ hends hmembers => exact ⟨hends, hending, hmembers, hresult⟩

theorem gatherMembers_eq_ok_iff {members : List (Except Stop String × Node)} :
    gatherMembers [field] depth ending [] members gathered = .ok result ↔
      ending = none ∧
        ∃ values, ValuesUnder field.name members values ∧
          field.Puts depth gathered values result := by
  induction members with
  | nil =>
      rw [gatherMembers, endedBy_eq_ok_iff]
      refine and_congr_right fun _ => ⟨?_, ?_⟩
      · rintro rfl
        exact ⟨[], .nil, .nothing⟩
      · rintro ⟨values, hvalues, hputs⟩
        cases hvalues
        cases hputs
        rfl
  | cons member members ih =>
      obtain ⟨key | key, value⟩ := member
      · exact iff_of_false nofun fun ⟨_, _, h, _⟩ => nomatch h
      · by_cases hkey : key = field.name
        · subst hkey
          rw [gatherMembers_own List.not_mem_nil]
          constructor
          · rintro ⟨put, hread, hrest⟩
            obtain ⟨hending, hmembers, rfl⟩ := gatherMembers_of_seen.mp hrest
            exact ⟨hending, [value], .under hmembers, .once hread⟩
          · rintro ⟨hending, values, hvalues, hputs⟩
            cases hvalues with
            | under hmembers =>
                cases hputs with
                | once hread =>
                    exact ⟨_, hread, gatherMembers_of_seen.mpr ⟨hending, hmembers, rfl⟩⟩
            | other hne => exact absurd rfl hne
        · rw [gatherMembers_other hkey, ih]
          constructor
          · rintro ⟨hends, hending, values, hmembers, hputs⟩
            exact ⟨hending, values, .other hkey hends hmembers, hputs⟩
          · rintro ⟨hending, values, hmembers, hputs⟩
            cases hmembers with
            | under => exact absurd rfl hkey
            | other _ hends hmembers => exact ⟨hends, hending, values, hmembers, hputs⟩

theorem gatherItems_eq_ok_iff {expected : String} {items : List Node}
    (hcut : field.mayBeCut = true) :
    gatherItems expected depth ending 0 [field] items gathered = .ok result ↔
      ending = none ∧ field.Puts depth gathered items result := by
  rcases items with _ | ⟨item, items⟩
  · cases ending with
    | some fault => exact iff_of_false nofun fun h => nomatch h.1
    | none =>
        simp only [gatherItems, if_pos hcut, List.isEmpty_nil, if_true, endedBy_eq_ok_iff]
        refine and_congr_right fun _ => ⟨?_, ?_⟩
        · rintro rfl
          exact .nothing
        · intro hputs
          cases hputs
          rfl
  · have hstep : gatherItems expected depth ending 0 [field] (item :: items) gathered =
        .ok result ↔
          ∃ put, field.read depth item = .ok put ∧ items = [] ∧ ending = none ∧
            result = put gathered := by
      simp only [gatherItems, Field.readAt]
      cases field.read depth item with
      | error error => simp
      | ok put => cases items <;> simp [endedBy_eq_ok_iff]
    rw [hstep]
    constructor
    · rintro ⟨put, hread, rfl, hending, rfl⟩
      exact ⟨hending, .once hread⟩
    · rintro ⟨hending, hputs⟩
      cases hputs with
      | once hread => exact ⟨_, hread, rfl, hending, rfl⟩

end

section

variable {σ α : Type} {record : Record σ α} {depth : Nat} {result : α}

theorem read_object_eq_ok_iff {members : List (Except Stop String × Node)}
    {ending : Option SyntaxFault} :
    record.read (depth + 1) (.object members ending) = .ok result ↔
      ∃ gathered,
        gatherMembers record.fields depth ending [] members record.start = .ok gathered ∧
          record.finish gathered = .ok result := by
  simp only [read]
  cases gatherMembers record.fields depth ending [] members record.start with
  | error error => simp
  | ok gathered => cases hfinish : record.finish gathered <;> simp [hfinish]

theorem read_array_eq_ok_iff {items : List Node} {ending : Option SyntaxFault} :
    record.read (depth + 1) (.array items ending) = .ok result ↔
      ∃ gathered,
        gatherItems record.expectedList depth ending 0 record.fields items record.start =
            .ok gathered ∧
          record.finish gathered = .ok result := by
  simp only [read]
  cases gatherItems record.expectedList depth ending 0 record.fields items record.start with
  | error error => simp
  | ok gathered => cases hfinish : record.finish gathered <;> simp [hfinish]

/-- **A record of one field is read exactly where at most one node stands for the field**, and is
what that node is read as. -/
theorem read_eq_ok_iff {field : Field σ} (hfields : record.fields = [field])
    (hcut : field.mayBeCut = true) {node : Node} :
    record.read (depth + 1) node = .ok result ↔
      ∃ values gathered, node.StandingFor field.name values ∧
        field.Puts depth record.start values gathered ∧ record.finish gathered = .ok result := by
  cases node with
  | object members ending =>
      rw [read_object_eq_ok_iff, hfields]
      constructor
      · rintro ⟨gathered, hgathered, hfinish⟩
        obtain ⟨rfl, values, hvalues, hputs⟩ := gatherMembers_eq_ok_iff.mp hgathered
        exact ⟨values, gathered, .members hvalues, hputs, hfinish⟩
      · rintro ⟨values, gathered, hstanding, hputs, hfinish⟩
        cases hstanding with
        | members hvalues =>
            exact ⟨gathered, gatherMembers_eq_ok_iff.mpr ⟨rfl, values, hvalues, hputs⟩, hfinish⟩
  | array items ending =>
      rw [read_array_eq_ok_iff, hfields]
      constructor
      · rintro ⟨gathered, hgathered, hfinish⟩
        obtain ⟨rfl, hputs⟩ := (gatherItems_eq_ok_iff hcut).mp hgathered
        exact ⟨items, gathered, .items items, hputs, hfinish⟩
      · rintro ⟨values, gathered, hstanding, hputs, hfinish⟩
        cases hstanding with
        | items => exact ⟨gathered, (gatherItems_eq_ok_iff hcut).mpr ⟨rfl, hputs⟩, hfinish⟩
  | null | bool | number | string | broken =>
      refine iff_of_false ?_ ?_
      · simp only [read]
        exact Node.refuse_ne_ok
      · rintro ⟨values, gathered, hstanding, -⟩
        cases hstanding

end

end Record

theorem Document.read_eq_ok_iff {α : Type} {document : Document} {read : Reader α} {result : α} :
    document.read read = .ok result ↔
      document.ending = none ∧ read nestingLimit document.root = .ok result := by
  rw [Document.read]
  cases read nestingLimit document.root with
  | error error => simp
  | ok value => rw [endedBy_eq_ok_iff, Except.ok.injEq, eq_comm (a := result)]

theorem Reader.optional_eq_ok_iff {α : Type} {read : Reader α} {depth : Nat} {node : Node}
    {given : Option α} :
    Reader.optional read depth node = .ok given ↔
      node = .null ∧ given = none ∨
        node ≠ .null ∧ ∃ value, read depth node = .ok value ∧ given = some value := by
  cases node with
  | null => simp [Reader.optional, eq_comm]
  | bool | number | string | array | object | broken =>
      simp only [Reader.optional, reduceCtorEq, false_and, false_or, ne_eq, not_false_eq_true,
        true_and]
      cases read depth _ <;> simp [Except.map, eq_comm]

end FormLetter.Json
