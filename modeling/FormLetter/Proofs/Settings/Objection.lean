import FormLetter.Proofs.Recasing
import FormLetter.Proofs.Settings

/-!
# Objections to settings

The variables are consulted one after the other, those of the database only where there is one. The
settings are what the variables say when each that is consulted is acceptable. Otherwise the first
one that is not is told of, whatever the others say.
-/

namespace FormLetter

namespace Settings

/-- A variable that can say what is not acceptable. -/
inductive Entry where
  | number (name : String) (range : IntegerRange) (default : Int)
  | backend
  | databaseUrl
  | secret

namespace Entry

def ofDatabase : List Entry :=
  [.databaseUrl, .number "DB_MAX_CONNECTIONS" (.unsigned 32) 20]

@[simp]
theorem mem_ofDatabase_iff {entry : Entry} : entry ∈ ofDatabase ↔
    entry = .databaseUrl ∨ entry = .number "DB_MAX_CONNECTIONS" (.unsigned 32) 20 :=
  List.mem_pair

/-- All that can say what is not acceptable, in the order in which they are consulted. -/
def inOrder : List Entry :=
  [.number "PORT" (.unsigned 16) 3000, .number "REQUEST_TIMEOUT_SECS" (.unsigned 64) 30,
    .number "MIN_PASSWORD_LENGTH" (.unsigned 64) 8, .backend] ++ ofDatabase ++
    [.secret, .number "JWT_EXPIRY_MINS" (.signed 64) 60]

end Entry

end Settings

open Settings

namespace Environment

/-- The backend is asked for by its name with the letters in any case, or by saying nothing. -/
def AsksFor (environment : Environment) (kind : String) : Prop :=
  Recased ((environment "STORE_BACKEND").getD "postgres").toList kind.toList

/-- The variables of the database are consulted only where there is one. -/
def Consults (environment : Environment) (entry : Entry) : Prop :=
  entry ∈ Entry.ofDatabase → environment.AsksFor "postgres"

def Acceptable (environment : Environment) : Entry → Prop
  | .number name range default => ∃ value, environment.StandsFor name range default value
  | .backend => environment.AsksFor "postgres" ∨ environment.AsksFor "memory"
  | .databaseUrl => ∃ url, environment "DATABASE_URL" = some url
  | .secret => ∃ secret, environment "JWT_SECRET" = some secret ∧ secret ≠ ""

/-- What is told of a variable that is not acceptable. The text of a number is quoted as it is, that
of a backend with its letters in small case. -/
inductive Objection (environment : Environment) : Entry → SettingsError → Prop where
  | number {name text : String} {range : IntegerRange} {default : Int} {fault : IntegerFault}
      (given : environment name = some text)
      (misspelled : range.Misspells (trim text).toList fault) :
      Objection environment (.number name range default) (.invalid name text fault.message)
  | backend {text : String} (given : environment "STORE_BACKEND" = some text)
      (unknown : ∀ kind ∈ ["postgres", "memory"], ¬Recased text.toList kind.toList) :
      Objection environment .backend
        (.invalid "STORE_BACKEND" (text.map Char.toLower) "expected `postgres` or `memory`")
  | databaseUrl (unset : environment "DATABASE_URL" = none) :
      Objection environment .databaseUrl (.missing "DATABASE_URL")
  | secret (empty : ∀ secret, environment "JWT_SECRET" = some secret → secret = "") :
      Objection environment .secret (.missing "JWT_SECRET")

/-- Nothing is said against any of the variables. -/
def Clears (environment : Environment) (entries : List Entry) : Prop :=
  ∀ entry ∈ entries, environment.Consults entry → environment.Acceptable entry

/-- What is told of the first of the variables that is not acceptable. -/
def FirstObjection (environment : Environment) (entries : List Entry) (error : SettingsError) :
    Prop :=
  ∃ before entry after, entries = before ++ entry :: after ∧ environment.Clears before ∧
    environment.Consults entry ∧ environment.Objection entry error

/-- What is read from the variables: something when nothing is said against any of them, and
otherwise what is told of the first. -/
structure Reads {α : Type} (environment : Environment) (entries : List Entry)
    (result : Except SettingsError α) : Prop where
  succeeds_iff : (∃ value, result = .ok value) ↔ environment.Clears entries
  fails_iff : ∀ error, result = .error error ↔ environment.FirstObjection entries error

section

variable {environment : Environment}

theorem objection_of_integer {name : String} {range : IntegerRange} {default : Int}
    {error : SettingsError} (hgreatest : 0 ≤ range.greatest)
    (h : environment.integer name range default = .error error) :
    environment.Objection (.number name range default) error := by
  cases hgiven : environment name with
  | none =>
      rw [integer_of_unset hgiven] at h
      cases h
  | some text =>
      rw [integer_of_given hgiven, except_mapError_eq_error_iff] at h
      obtain ⟨fault, hfault, rfl⟩ := h
      exact .number hgiven (((IntegerRange.readChars_eq_iff hgreatest _).2 fault).mp hfault)

theorem Objection.not_acceptable {entry : Entry} {error : SettingsError}
    (h : environment.Objection entry error) : ¬environment.Acceptable entry := by
  intro hacceptable
  cases h with
  | number hgiven hmisspelled =>
      obtain ⟨value, hvalue⟩ := hacceptable
      cases hvalue with
      | unset hunset => exact nomatch hgiven.symm.trans hunset
      | spelled hsame hspelled =>
          obtain rfl := Option.some.inj (hgiven.symm.trans hsame)
          exact nomatch hmisspelled.readChars_eq.symm.trans hspelled.readChars_eq
  | backend hgiven hunknown =>
      unfold Acceptable AsksFor at hacceptable
      rw [hgiven, Option.getD_some] at hacceptable
      rcases hacceptable with h | h
      · exact hunknown "postgres" (by simp) h
      · exact hunknown "memory" (by simp) h
  | databaseUrl hunset =>
      obtain ⟨url, hgiven⟩ := hacceptable
      exact nomatch hgiven.symm.trans hunset
  | secret hempty =>
      obtain ⟨secret, hgiven, hne⟩ := hacceptable
      exact hne (hempty secret hgiven)

theorem Objection.unique {entry : Entry} {error other : SettingsError}
    (h : environment.Objection entry error) (hother : environment.Objection entry other) :
    error = other := by
  cases h with
  | number hgiven hmisspelled =>
      cases hother with
      | number hsame hother =>
          obtain rfl := Option.some.inj (hgiven.symm.trans hsame)
          have hread := hmisspelled.readChars_eq
          rw [hother.readChars_eq] at hread
          cases hread
          rfl
  | backend hgiven =>
      cases hother with
      | backend hsame =>
          obtain rfl := Option.some.inj (hgiven.symm.trans hsame)
          rfl
  | databaseUrl =>
      cases hother
      rfl
  | secret =>
      cases hother
      rfl

theorem consults_of_not_mem {entry : Entry} (h : entry ∉ Entry.ofDatabase) :
    environment.Consults entry :=
  fun hmem => absurd hmem h

theorem clears_cons_iff {entry : Entry} {entries : List Entry} :
    environment.Clears (entry :: entries) ↔
      (environment.Consults entry → environment.Acceptable entry) ∧ environment.Clears entries :=
  List.forall_mem_cons

theorem clears_append_iff {entries others : List Entry} :
    environment.Clears (entries ++ others) ↔
      environment.Clears entries ∧ environment.Clears others :=
  List.forall_mem_append

theorem not_firstObjection_nil {error : SettingsError} :
    ¬environment.FirstObjection [] error := by
  rintro ⟨before, entry, after, h, -⟩
  exact List.append_ne_nil_of_right_ne_nil before (List.cons_ne_nil entry after) h.symm

theorem firstObjection_cons_iff {entry : Entry} {entries : List Entry} {error : SettingsError} :
    environment.FirstObjection (entry :: entries) error ↔
      (environment.Consults entry ∧ environment.Objection entry error) ∨
        (environment.Consults entry → environment.Acceptable entry) ∧
          environment.FirstObjection entries error := by
  constructor
  · rintro ⟨before, other, after, hsplit, hbefore, hobjection⟩
    cases before with
    | nil =>
        obtain ⟨rfl, -⟩ := List.cons_eq_cons.mp hsplit
        exact Or.inl hobjection
    | cons first before =>
        obtain ⟨rfl, rfl⟩ := List.cons_eq_cons.mp hsplit
        obtain ⟨hfirst, hbefore⟩ := List.forall_mem_cons.mp hbefore
        exact Or.inr ⟨hfirst, before, other, after, rfl, hbefore, hobjection⟩
  · rintro (hobjection | ⟨hentry, before, other, after, rfl, hbefore, hobjection⟩)
    · exact ⟨[], entry, entries, rfl, List.forall_mem_nil _, hobjection⟩
    · exact ⟨entry :: before, other, after, rfl, List.forall_mem_cons.mpr ⟨hentry, hbefore⟩,
        hobjection⟩

theorem firstObjection_append_iff {entries others : List Entry} {error : SettingsError} :
    environment.FirstObjection (entries ++ others) error ↔
      environment.FirstObjection entries error ∨
        environment.Clears entries ∧ environment.FirstObjection others error := by
  induction entries with
  | nil =>
      have hclears : environment.Clears [] := List.forall_mem_nil _
      rw [List.nil_append, or_iff_right not_firstObjection_nil, and_iff_right hclears]
  | cons entry entries ih =>
      rw [List.cons_append, firstObjection_cons_iff, firstObjection_cons_iff, ih, clears_cons_iff,
        and_or_left, or_assoc, and_assoc]

namespace Reads

variable {α β : Type} {entries others : List Entry} {result : Except SettingsError α}

theorem nil (value : α) : environment.Reads [] (.ok value) where
  succeeds_iff := iff_of_true ⟨value, rfl⟩ (List.forall_mem_nil _)
  fails_iff := fun _ => iff_of_false nofun not_firstObjection_nil

theorem passed {entry : Entry} (hentry : environment.Consults entry → environment.Acceptable entry)
    (hresult : environment.Reads entries result) :
    environment.Reads (entry :: entries) result where
  succeeds_iff := by
    rw [hresult.succeeds_iff, clears_cons_iff, and_iff_right hentry]
  fails_iff := by
    intro error
    have hnone : ¬(environment.Consults entry ∧ environment.Objection entry error) :=
      fun h => h.2.not_acceptable (hentry h.1)
    rw [firstObjection_cons_iff, or_iff_right hnone, and_iff_right hentry]
    exact hresult.fails_iff error

theorem not_consulted (h : ∀ entry ∈ entries, ¬environment.Consults entry) (value : α) :
    environment.Reads entries (.ok value) := by
  induction entries with
  | nil => exact nil value
  | cons entry entries ih =>
      obtain ⟨hentry, hentries⟩ := List.forall_mem_cons.mp h
      exact passed (fun hconsults => absurd hconsults hentry) (ih hentries)

theorem refused {entry : Entry} {error : SettingsError} (hconsults : environment.Consults entry)
    (hobjection : environment.Objection entry error) :
    environment.Reads (entry :: entries) (.error error : Except SettingsError α) where
  succeeds_iff := by
    refine iff_of_false nofun fun h => ?_
    exact hobjection.not_acceptable (h entry List.mem_cons_self hconsults)
  fails_iff := by
    intro other
    rw [firstObjection_cons_iff, Except.error.injEq]
    constructor
    · rintro rfl
      exact Or.inl ⟨hconsults, hobjection⟩
    · rintro (⟨-, h⟩ | ⟨h, -⟩)
      · exact hobjection.unique h
      · exact absurd (h hconsults) hobjection.not_acceptable

/-- What is read after other variables is read only if nothing is said against those. -/
theorem bind {next : α → Except SettingsError β} (hresult : environment.Reads entries result)
    (hnext : ∀ value, result = .ok value → environment.Reads others (next value)) :
    environment.Reads (entries ++ others) (result >>= next) := by
  cases result with
  | ok value =>
      have hentries : environment.Clears entries := hresult.succeeds_iff.mp ⟨value, rfl⟩
      have hothers := hnext value rfl
      refine ⟨?_, fun error => ?_⟩
      · rw [clears_append_iff, and_iff_right hentries]
        exact hothers.succeeds_iff
      · have hnone : ¬environment.FirstObjection entries error :=
          fun h => nomatch (hresult.fails_iff error).mpr h
        rw [firstObjection_append_iff, or_iff_right hnone, and_iff_right hentries]
        exact hothers.fails_iff error
  | error first =>
      have hentries : ¬environment.Clears entries := by
        intro h
        obtain ⟨_, hok⟩ := hresult.succeeds_iff.mpr h
        cases hok
      refine ⟨?_, fun error => ?_⟩
      · rw [clears_append_iff]
        exact iff_of_false (fun ⟨_, h⟩ => nomatch h) fun h => hentries h.1
      · rw [firstObjection_append_iff, or_iff_left fun h => hentries h.1]
        change (Except.error first : Except SettingsError β) = .error error ↔ _
        rw [← hresult.fails_iff, Except.error.injEq, Except.error.injEq]

theorem map (hresult : environment.Reads entries result) (f : α → β) :
    environment.Reads entries (result.map f) where
  succeeds_iff := by
    rw [← hresult.succeeds_iff]
    simp only [except_map_eq_ok_iff]
    constructor
    · rintro ⟨_, value, h, -⟩
      exact ⟨value, h⟩
    · rintro ⟨value, h⟩
      exact ⟨_, value, h, rfl⟩
  fails_iff := by
    intro error
    rw [except_map_eq_error_iff, hresult.fails_iff]

end Reads

theorem reads_integer {name : String} {range : IntegerRange} {default : Int}
    (hgreatest : 0 ≤ range.greatest)
    (hconsults : environment.Consults (.number name range default)) :
    environment.Reads [.number name range default] (environment.integer name range default) := by
  cases hread : environment.integer name range default with
  | ok value =>
      have hstands := (integer_eq_ok_iff hgreatest).mp hread
      exact Reads.passed (fun _ => ⟨value, hstands⟩) (Reads.nil value)
  | error error => exact Reads.refused hconsults (objection_of_integer hgreatest hread)

theorem reads_natural {name : String} {bits default : Nat}
    (hconsults : environment.Consults (.number name (.unsigned bits) default)) :
    environment.Reads [.number name (.unsigned bits) default]
      (environment.natural name bits default) :=
  (reads_integer (IntegerRange.zero_le_greatest_unsigned bits) hconsults).map Int.toNat

theorem asksFor_iff {kind : String} (hkind : kind.map Char.toLower = kind) :
    environment.AsksFor kind ↔
      ((environment "STORE_BACKEND").getD "postgres").map Char.toLower = kind := by
  rw [AsksFor, recased_iff, ← String.toList_map, ← String.toList_map, String.toList_inj, hkind]

theorem asksFor_postgres_iff : environment.AsksFor "postgres" ↔
    ((environment "STORE_BACKEND").getD "postgres").map Char.toLower = "postgres" :=
  asksFor_iff (by decide +kernel)

theorem asksFor_memory_iff : environment.AsksFor "memory" ↔
    ((environment "STORE_BACKEND").getD "postgres").map Char.toLower = "memory" :=
  asksFor_iff (by decide +kernel)

/-- What is read of the database. -/
theorem backend_of_postgres (h : environment.AsksFor "postgres") :
    environment.backend =
      match environment "DATABASE_URL" with
      | none => .error (.missing "DATABASE_URL")
      | some url => (environment.natural "DB_MAX_CONNECTIONS" 32 20).map (.postgres url) := by
  rw [backend, asksFor_postgres_iff.mp h]
  rfl

theorem backend_of_memory (h : environment.AsksFor "memory") :
    environment.backend = .ok .memory := by
  rw [backend, asksFor_memory_iff.mp h]
  rfl

theorem backend_of_unknown (hpostgres : ¬environment.AsksFor "postgres")
    (hmemory : ¬environment.AsksFor "memory") :
    ∃ text, environment "STORE_BACKEND" = some text ∧
      environment.backend = .error
        (.invalid "STORE_BACKEND" (text.map Char.toLower) "expected `postgres` or `memory`") := by
  cases hgiven : environment "STORE_BACKEND" with
  | none =>
      refine absurd (asksFor_postgres_iff.mpr ?_) hpostgres
      rw [hgiven]
      decide +kernel
  | some text =>
      rw [asksFor_postgres_iff, hgiven, Option.getD_some] at hpostgres
      rw [asksFor_memory_iff, hgiven, Option.getD_some] at hmemory
      refine ⟨text, rfl, ?_⟩
      rw [backend, hgiven, Option.getD_some]
      simp only [beq_iff_eq, if_neg hpostgres, if_neg hmemory]

theorem reads_database (h : environment.AsksFor "postgres") :
    environment.Reads Entry.ofDatabase environment.backend := by
  rw [backend_of_postgres h]
  cases hgiven : environment "DATABASE_URL" with
  | none => exact Reads.refused (fun _ => h) (.databaseUrl hgiven)
  | some url => exact Reads.passed (fun _ => ⟨url, hgiven⟩) ((reads_natural fun _ => h).map _)

theorem reads_backend : environment.Reads (.backend :: Entry.ofDatabase) environment.backend := by
  have hconsults : environment.Consults .backend := consults_of_not_mem (by simp)
  by_cases hpostgres : environment.AsksFor "postgres"
  · exact Reads.passed (fun _ => Or.inl hpostgres) (reads_database hpostgres)
  · -- Nothing is consulted but the name of the backend.
    by_cases hmemory : environment.AsksFor "memory"
    · rw [backend_of_memory hmemory]
      exact Reads.passed (fun _ => Or.inr hmemory) <|
        Reads.not_consulted (fun _ hmem hconsults => hpostgres (hconsults hmem)) _
    · obtain ⟨text, hgiven, hbackend⟩ := backend_of_unknown hpostgres hmemory
      rw [hbackend]
      refine Reads.refused hconsults (.backend hgiven fun kind hkind hrecased => ?_)
      unfold AsksFor at hpostgres hmemory
      rw [hgiven, Option.getD_some] at hpostgres hmemory
      rcases List.mem_pair.mp hkind with rfl | rfl
      · exact hpostgres hrecased
      · exact hmemory hrecased

theorem reads_token :
    environment.Reads [.secret, .number "JWT_EXPIRY_MINS" (.signed 64) 60] environment.token := by
  have hconsults : environment.Consults .secret := consults_of_not_mem (by simp)
  rw [token]
  by_cases hsecret : (environment "JWT_SECRET").getD "" = ""
  · simp only [hsecret, beq_self_eq_true, if_true]
    refine Reads.refused hconsults (.secret fun secret hgiven => ?_)
    rwa [hgiven] at hsecret
  · simp only [beq_iff_eq, if_neg hsecret]
    refine Reads.passed (fun _ => ?_) ?_
    · cases hgiven : environment "JWT_SECRET" with
      | none => exact absurd (by rw [hgiven]; rfl) hsecret
      | some secret =>
          rw [hgiven] at hsecret
          exact ⟨secret, hgiven, hsecret⟩
    · exact (reads_integer (by decide) (consults_of_not_mem (by simp))).bind
        fun _ _ => Reads.nil _

theorem reads_settings : environment.Reads Entry.inOrder (Settings.ofEnvironment environment) := by
  rw [Settings.ofEnvironment]
  -- The variables are consulted step by step, which puts the list of them together.
  refine (reads_natural (consults_of_not_mem (by simp))).bind fun _ _ => ?_
  refine (reads_natural (consults_of_not_mem (by simp))).bind fun _ _ => ?_
  refine (reads_natural (consults_of_not_mem (by simp))).bind fun _ _ => ?_
  exact reads_backend.bind fun _ _ => reads_token.bind fun _ _ => Reads.nil _

end

end Environment

end FormLetter
