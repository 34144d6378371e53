import FormLetter.Http.Endpoint
import FormLetter.Proofs.Password
import FormLetter.Proofs.Service.Lifetime
import Mathlib.Algebra.Group.Nat.Defs
import Mathlib.Data.List.Nodup

/-!
# Histories of accounts

What the account service is asked for, one operation after the other, from the empty stores on. The
table of accounts holds one row for each registration that was taken, under the number of that
registration, and no two of them share a username. So every later answer can be told from the
registrations that were taken.
-/

namespace FormLetter.Accounts

open Http (AccessPolicy)

/-- What the account service can be asked for. With a registration goes the salt for its password,
and with a login the time and the identifier for its token. -/
inductive Operation where
  | register (salt : List UInt8) (request : Credentials)
  | login (seconds : Int64) (jti : String) (request : Credentials)

/-- A registration that was taken: what it asked for, and what it was told of the account. -/
structure Registration where
  salt : List UInt8
  request : Credentials
  profile : Profile
  deriving DecidableEq

def Registration.account (derive : Password.Derivation) (registration : Registration) :
    Account where
  id := registration.profile.id
  username := registration.request.username
  passwordHash := Password.hash derive registration.salt registration.request.password
  createdAt := registration.profile.createdAt
  updatedAt := registration.profile.createdAt

namespace Operation

def Answer : Operation → Type
  | .register _ _ => Profile
  | .login _ _ _ => Option Grant

def service (access : AccessPolicy) : (operation : Operation) → Service operation.Answer
  | .register salt request =>
    Accounts.register access.derive access.minPasswordLength salt request
  | .login seconds jti request => Accounts.login access.derive access.token seconds jti request

def leaves (access : AccessPolicy) (now : Timestamp) (operation : Operation) (memory : Memory) :
    Memory :=
  (Service.exec now (operation.service access) memory).2

/-- The registration that an operation brings about, if it succeeds as one. -/
def taken? (access : AccessPolicy) (now : Timestamp) (memory : Memory) :
    Operation → Option Registration
  | .register salt request =>
    (Service.exec now
      (Accounts.register access.derive access.minPasswordLength salt request) memory).1.toOption.map
        fun profile => ⟨salt, request, profile⟩
  | .login _ _ _ => none

end Operation

abbrev History : Type :=
  List (Timestamp × Operation)

namespace History

def after (access : AccessPolicy) (history : History) (memory : Memory) : Memory :=
  history.foldl (fun memory step => step.2.leaves access step.1 memory) memory

/-- The registrations that are taken in a history, in order. -/
def registrations (access : AccessPolicy) : History → Memory → List Registration
  | [], _ => []
  | (now, operation) :: rest, memory =>
    (operation.taken? access now memory).toList ++
      registrations access rest (operation.leaves access now memory)

end History

section Register

variable {minLength : Nat} {request : Credentials}

/-- What is asked of a username and of a password, whatever accounts there are. -/
def IsFit (minLength : Nat) (request : Credentials) : Prop :=
  (3 ≤ request.username.length ∧ request.username.length ≤ 64) ∧
    minLength ≤ request.password.length

theorem accept_of_isFit (h : IsFit minLength request)
    (derive : Password.Derivation) (salt : List UInt8) :
    accept derive minLength salt request =
      .ok ⟨request.username, Password.hash derive salt request.password⟩ := by
  have hstrong : ¬request.password.length < minLength := Nat.not_lt.mpr h.2
  rw [accept, checkUsername, if_pos h.1, Password.checkStrength, if_neg hstrong]
  rfl

theorem accept_of_not_isFit (h : ¬IsFit minLength request)
    (derive : Password.Derivation) (salt : List UInt8) :
    ∃ failure, accept derive minLength salt request = .error failure := by
  by_cases hname : 3 ≤ request.username.length ∧ request.username.length ≤ 64
  · have hweak : request.password.length < minLength :=
      Nat.lt_of_not_le fun hle => h ⟨hname, hle⟩
    rw [accept, checkUsername, if_pos hname, Password.checkStrength, if_pos hweak]
    exact ⟨_, rfl⟩
  · rw [accept, checkUsername, if_neg hname]
    exact ⟨_, rfl⟩

theorem exec_register_cases (access : AccessPolicy) (now : Timestamp) (memory : Memory)
    (salt : List UInt8) (request : Credentials) :
    let outcome := Service.exec now
      (register access.derive access.minPasswordLength salt request) memory
    let registration : Registration :=
      ⟨salt, request, ⟨memory.accounts.lastId + 1, request.username, now⟩⟩
    ((IsFit access.minPasswordLength request ∧
        memory.accounts.find? request.username = none) ∧
      outcome = (.ok registration.profile,
        { memory with
          accounts :=
            ⟨memory.accounts.lastId + 1,
              registration.account access.derive :: memory.accounts.rows⟩ })) ∨
    ¬(IsFit access.minPasswordLength request ∧
        memory.accounts.find? request.username = none) ∧
      ∃ failure, outcome = (.error failure, memory) := by
  intro outcome registration
  have houtcome : outcome = _ :=
    exec_register access.derive now memory access.minPasswordLength salt request
  by_cases hfit : IsFit access.minPasswordLength request
  · rw [accept_of_isFit hfit] at houtcome
    simp only [AccountTable.create] at houtcome
    cases hfind : memory.accounts.find? request.username with
    | none =>
        rw [hfind] at houtcome
        exact Or.inl ⟨⟨hfit, rfl⟩, houtcome⟩
    | some account =>
        rw [hfind] at houtcome
        exact Or.inr ⟨fun h => (nomatch h.2), _, houtcome⟩
  · obtain ⟨failure, haccept⟩ := accept_of_not_isFit hfit access.derive salt
    rw [haccept] at houtcome
    exact Or.inr ⟨fun h => hfit h.1, failure, houtcome⟩

end Register

/-- How the table of accounts stands to the registrations that were taken. -/
structure Records (derive : Password.Derivation) (registrations : List Registration)
    (table : AccountTable) : Prop where
  rows : table.rows = (registrations.map (Registration.account derive)).reverse
  lastId : table.lastId = registrations.length
  numbered : ∀ (k : Nat) registration, registrations[k]? = some registration →
    registration.profile.id = (k : Int) + 1 ∧
      registration.profile.username = registration.request.username
  distinct : (registrations.map fun registration => registration.request.username).Nodup

namespace Records

variable {derive : Password.Derivation} {registrations : List Registration} {table : AccountTable}
  {registration : Registration} {username password : String}

theorem empty (derive : Password.Derivation) : Records derive [] .empty where
  rows := rfl
  lastId := rfl
  numbered := fun _ _ h => nomatch h
  distinct := List.nodup_nil

theorem mem_rows_iff (h : Records derive registrations table) {account : Account} :
    account ∈ table.rows ↔
      ∃ registration ∈ registrations, registration.account derive = account := by
  rw [h.rows, List.mem_reverse, List.mem_map]

theorem find?_eq_none_iff (h : Records derive registrations table) :
    table.find? username = none ↔
      ∀ registration ∈ registrations, registration.request.username ≠ username := by
  rw [AccountTable.find?, h.rows, List.find?_eq_none]
  simp [Registration.account]

theorem exists_of_find? (h : Records derive registrations table) {account : Account}
    (hfind : table.find? username = some account) :
    ∃ registration ∈ registrations,
      registration.request.username = username ∧ registration.account derive = account := by
  have hmem := List.mem_of_find?_eq_some hfind
  have hname := List.find?_some hfind
  obtain ⟨registration, hregistration, rfl⟩ := h.mem_rows_iff.mp hmem
  exact ⟨registration, hregistration, eq_of_beq hname, rfl⟩

theorem eq_of_username_eq (h : Records derive registrations table) {other : Registration}
    (hleft : registration ∈ registrations) (hright : other ∈ registrations)
    (heq : registration.request.username = other.request.username) : registration = other :=
  List.inj_on_of_nodup_map h.distinct hleft hright heq

theorem username_profile (h : Records derive registrations table)
    (hmem : registration ∈ registrations) :
    registration.profile.username = registration.request.username := by
  obtain ⟨k, hk⟩ := List.mem_iff_getElem?.mp hmem
  exact (h.numbered k registration hk).2

theorem toInt_ofInt_id (h : Records derive registrations table)
    (hmem : registration ∈ registrations) (hroom : registrations.length < 2 ^ 63) :
    (Int64.ofInt registration.profile.id).toInt = registration.profile.id := by
  obtain ⟨k, hk⟩ := List.mem_iff_getElem?.mp hmem
  obtain ⟨hk', -⟩ := List.getElem?_eq_some_iff.mp hk
  have hid := (h.numbered k registration hk).1
  exact Word.toInt_ofInt ⟨by omega, by omega⟩

theorem append_singleton (h : Records derive registrations table)
    (hnew : ∀ earlier ∈ registrations, earlier.request.username ≠ registration.request.username)
    (hprofile : registration.profile.id = registrations.length + 1 ∧
      registration.profile.username = registration.request.username) :
    Records derive (registrations ++ [registration])
      ⟨table.lastId + 1, registration.account derive :: table.rows⟩ where
  rows := by
    rw [h.rows]
    simp
  lastId := by
    rw [h.lastId]
    simp
  numbered := by
    intro k other hother
    by_cases hk : k < registrations.length
    · rw [List.getElem?_append_left hk] at hother
      exact h.numbered k other hother
    · rw [List.getElem?_append_right (Nat.not_lt.mp hk), List.getElem?_singleton] at hother
      split at hother
      next hfirst =>
        cases hother
        have hlast : k = registrations.length := by omega
        rw [hlast]
        exact hprofile
      next => cases hother
  distinct := by
    rw [List.map_append, List.map_singleton, List.nodup_append]
    refine ⟨h.distinct, List.nodup_singleton _, ?_⟩
    intro name hname other hother
    obtain ⟨earlier, hearlier, rfl⟩ := List.mem_map.mp hname
    rw [List.mem_singleton.mp hother]
    exact hnew earlier hearlier

theorem step {access : AccessPolicy} {memory : Memory}
    (h : Records access.derive registrations memory.accounts) (now : Timestamp)
    (operation : Operation) :
    Records access.derive (registrations ++ (operation.taken? access now memory).toList)
      (operation.leaves access now memory).accounts := by
  cases operation with
  | register salt request =>
      rcases exec_register_cases access now memory salt request with
        ⟨⟨-, hfree⟩, houtcome⟩ | ⟨-, failure, houtcome⟩
      · have hleaves : Operation.leaves access now (.register salt request) memory = _ :=
          congrArg Prod.snd houtcome
        have hnext := congrArg (· + 1) h.lastId
        rw [Operation.taken?, houtcome, hleaves]
        exact h.append_singleton (h.find?_eq_none_iff.mp hfree) ⟨hnext, rfl⟩
      · have hleaves : Operation.leaves access now (.register salt request) memory = memory :=
          congrArg Prod.snd houtcome
        rw [Operation.taken?, houtcome, hleaves]
        simpa [Except.toOption] using h
  | login seconds jti request =>
      have hleaves : Operation.leaves access now (.login seconds jti request) memory = memory :=
        congrArg Prod.snd
          (exec_login access.derive now memory access.token seconds jti request)
      rw [hleaves]
      simpa [Operation.taken?] using h

theorem run {access : AccessPolicy} {memory : Memory}
    (h : Records access.derive registrations memory.accounts) (history : History) :
    Records access.derive (registrations ++ history.registrations access memory)
      (history.after access memory).accounts := by
  induction history generalizing registrations memory with
  | nil => simpa [History.registrations, History.after] using h
  | cons step rest ih =>
      rw [History.registrations, ← List.append_assoc]
      exact ih (h.step step.1 step.2)

/-- All that a login comes to, where every hash tells the password that it was made of from the one
that is asked about. -/
theorem open?_cases (h : Records derive registrations table)
    (hverify : ∀ registration ∈ registrations,
      ∀ asked ∈ [password, registration.request.password],
        Password.verify? derive asked
            (Password.hash derive registration.salt registration.request.password) = some true ↔
          asked = registration.request.password) :
    (∃ registration ∈ registrations,
      (registration.request.username = username ∧ registration.request.password = password) ∧
        open? derive password (table.find? username) = .ok (registration.account derive)) ∨
    (∀ registration ∈ registrations,
      ¬(registration.request.username = username ∧
        registration.request.password = password)) ∧
      open? derive password (table.find? username) = .error loginRefused := by
  cases hfind : table.find? username with
  | none =>
      refine Or.inr ⟨fun registration hmem heq => ?_, rfl⟩
      exact h.find?_eq_none_iff.mp hfind registration hmem heq.1
  | some account =>
      obtain ⟨registration, hmem, hname, rfl⟩ := h.exists_of_find? hfind
      -- The hash tells the registered password, so it can be read and tells the one that is asked
      -- about from it.
      have hpassword := hverify registration hmem
      rw [List.forall_mem_cons, List.forall_mem_singleton] at hpassword
      have hanswer := Password.verify?_eq_decide hpassword.1 (hpassword.2.mpr rfl)
      simp only [open?, Registration.account] at hanswer ⊢
      by_cases heq : password = registration.request.password
      · rw [decide_eq_true heq] at hanswer
        refine Or.inl ⟨registration, hmem, ⟨hname, heq.symm⟩, ?_⟩
        rw [hanswer]
      · rw [decide_eq_false heq] at hanswer
        refine Or.inr ⟨fun other hother hsame => ?_, ?_⟩
        · have hone := h.eq_of_username_eq hmem hother (hname.trans hsame.1.symm)
          rw [hone] at heq
          exact heq hsame.2.symm
        · rw [hanswer]

end Records

theorem History.records (access : AccessPolicy) (history : History) :
    Records access.derive (history.registrations access .empty)
      (history.after access .empty).accounts := by
  have hstart : Records access.derive [] Memory.empty.accounts := .empty access.derive
  exact hstart.run history

/-- **The life of accounts.** Registrations are numbered as they are taken, and one is taken exactly
if its username and its password are fit and no earlier one took the username. Where the times of
tokens have room, a login is granted exactly for the username and the password of a registration
that was taken. Its token tells the id and the username of that registration and makes them known to
whom it is sent, and all other logins are refused alike. -/
theorem answers_reflect_registrations (access : AccessPolicy) (history : History) (now : Timestamp)
    (request : Credentials) :
    let memory := history.after access .empty
    let registrations := history.registrations access .empty
    (∀ (k : Nat) registration, registrations[k]? = some registration →
      registration.profile.id = k + 1 ∧
        registration.profile.username = registration.request.username) ∧
    (∀ salt,
      (∃ profile, (Service.exec now
        (register access.derive access.minPasswordLength salt request) memory).1 = .ok profile) ↔
      (3 ≤ request.username.length ∧ request.username.length ≤ 64) ∧
        access.minPasswordLength ≤ request.password.length ∧
        ∀ earlier ∈ registrations, earlier.request.username ≠ request.username) ∧
    ((∀ registration ∈ registrations, ∀ asked ∈ [request.password, registration.request.password],
        Password.verify? access.derive asked
            (Password.hash access.derive registration.salt registration.request.password) =
          some true ↔ asked = registration.request.password) →
      ∀ (seconds : Int64) jti, FitsWord (60 * access.token.expiryMinutes.toInt) →
        FitsWord (seconds.toInt + 60 * access.token.expiryMinutes.toInt) →
        let answer := (Service.exec now
          (login access.derive access.token seconds jti request) memory).1
        ((∃ grant, answer = .ok (some grant)) ↔ ∃ registration ∈ registrations,
          registration.request.username = request.username ∧
            registration.request.password = request.password) ∧
        (∀ grant, answer = .ok (some grant) → ∃ registration ∈ registrations,
          registration.request.username = request.username ∧
            registration.request.password = request.password ∧
            ∃ claims, Token.Conveys access.token.secret grant.token claims ∧
              claims.sub = Int64.ofInt registration.profile.id ∧
              (registrations.length < 2 ^ 63 → claims.sub.toInt = registration.profile.id) ∧
              claims.username = registration.profile.username ∧ claims.iat = seconds ∧
              claims.exp.toInt = seconds.toInt + 60 * access.token.expiryMinutes.toInt) ∧
        ((∀ grant, answer ≠ .ok (some grant)) →
          answer = .error (.unauthorized "Invalid username or password"))) := by
  intro memory registrations
  have hrecords : Records access.derive registrations memory.accounts := history.records access
  refine ⟨hrecords.numbered, fun salt => ?_, fun hverify seconds jti hlifetime hexpiry => ?_⟩
  · rw [← hrecords.find?_eq_none_iff, ← and_assoc]
    rcases exec_register_cases access now memory salt request with
      ⟨hfit, houtcome⟩ | ⟨hunfit, failure, houtcome⟩
    · rw [houtcome]
      exact iff_of_true ⟨_, rfl⟩ hfit
    · rw [houtcome]
      exact iff_of_false (fun h => nomatch h) hunfit
  · intro answer
    have hanswer : answer = _ := congrArg Prod.fst
      (exec_login access.derive now memory access.token seconds jti request)
    rcases hrecords.open?_cases hverify with
      ⟨registration, hmem, hsame, hopen⟩ | ⟨hnone, hopen⟩
    · rw [hopen] at hanswer
      obtain ⟨grant, hgrant⟩ := exists_grant?_iff.mpr ⟨hlifetime, hexpiry⟩
      have hgranted : answer = .ok (some grant) := hanswer.trans (congrArg Except.ok hgrant)
      refine ⟨iff_of_true ⟨grant, hgranted⟩ ⟨registration, hmem, hsame⟩, fun other hother => ?_,
        fun hnone => absurd hgranted (hnone grant)⟩
      obtain rfl : grant = other :=
        Option.some.inj (Except.ok.inj (hgranted.symm.trans hother))
      obtain ⟨hexact, claims, hconveys, hsub, hname, hissued, hapart⟩ := conveys_of_grant? hgrant
      refine ⟨registration, hmem, hsame.1, hsame.2, claims, hconveys, hsub, fun hroom => ?_,
        hname.trans (hrecords.username_profile hmem).symm, hissued, ?_⟩
      · rw [hsub]
        exact hrecords.toInt_ofInt_id hmem hroom
      · rw [hexact, hissued] at hapart
        omega
    · rw [hopen] at hanswer
      have hrefused : answer = .error loginRefused := hanswer
      have hno : ∀ grant, answer ≠ .ok (some grant) := by
        intro grant hgranted
        exact nomatch hgranted.symm.trans hrefused
      refine ⟨iff_of_false (fun h => hno _ h.choose_spec) ?_, fun grant h => absurd h (hno grant),
        fun _ => hrefused⟩
      rintro ⟨registration, hmem, hsame⟩
      exact hnone registration hmem hsame

/-- The second anna is turned away and takes no number, and her password opens nothing. -/
theorem first_password_of_anna_opens :
    let derive : Password.Derivation := fun _ length password _ =>
      (password ++ List.replicate length 0).take length
    let access : AccessPolicy :=
      { token := { secret := "secret", expiryMinutes := 60 }
        minPasswordLength := 8
        derive := derive }
    let salt : List UInt8 := [1, 2, 3, 4, 5, 6, 7, 8]
    let first : Credentials := ⟨"anna", "correct horse"⟩
    let second : Credentials := ⟨"anna", "battery staple"⟩
    let other : Credentials := ⟨"Anna", "battery staple"⟩
    let history : History :=
      [(⟨0, 0⟩, .register salt first), (⟨1, 0⟩, .register salt second),
        (⟨2, 0⟩, .register salt other)]
    let taken : List Registration :=
      [⟨salt, first, ⟨1, "anna", ⟨0, 0⟩⟩⟩, ⟨salt, other, ⟨2, "Anna", ⟨2, 0⟩⟩⟩]
    let answer (request : Credentials) :=
      (Service.exec ⟨3, 0⟩ (login access.derive access.token 3 "id" request)
        (history.after access .empty)).1
    history.registrations access .empty = taken ∧
      (∃ grant claims, answer first = .ok (some grant) ∧
        Token.Conveys "secret" grant.token claims ∧ claims.sub.toInt = 1 ∧
        claims.username = "anna" ∧
        Token.validate "secret" 3600 grant.token = .ok claims) ∧
      answer second = .error (.unauthorized "Invalid username or password") := by
  intro derive access salt first second other history taken answer
  have hregistrations : history.registrations access .empty = taken := by decide +kernel
  have hverify : ∀ request ∈ [first, second],
      ∀ registration ∈ history.registrations access .empty,
      ∀ asked ∈ [request.password, registration.request.password],
        Password.verify? access.derive asked
            (Password.hash access.derive registration.salt registration.request.password) =
          some true ↔ asked = registration.request.password := by
    have hsalts : ∀ registration ∈ taken, registration.salt.length = 8 := by decide
    have hlength : ∀ password salt,
        (access.derive Password.defaultCost Password.digestLength password salt).length =
          Password.digestLength := by
      intro password salt
      simp [access, derive]
    have hapart : ∀ request ∈ [first, second], ∀ registration ∈ taken,
        ∀ asked ∈ [request.password, registration.request.password],
          access.derive Password.defaultCost Password.digestLength (Utf8.encode asked)
                registration.salt =
              access.derive Password.defaultCost Password.digestLength
                (Utf8.encode registration.request.password) registration.salt ↔
            asked = registration.request.password := by
      decide +kernel
    rw [hregistrations]
    intro request hrequest registration hregistration asked hasked
    have hsalt := hsalts registration hregistration
    rw [Password.verify?_hash_eq_true_iff (by omega) (by omega) (hlength _ _)]
    exact hapart request hrequest registration hregistration asked hasked
  rw [List.forall_mem_cons, List.forall_mem_singleton] at hverify
  have hlifetime : FitsWord (60 * access.token.expiryMinutes.toInt) := by decide
  have hexpiry : FitsWord ((3 : Int64).toInt + 60 * access.token.expiryMinutes.toInt) := by decide
  obtain ⟨hgranted, htold, -⟩ := (answers_reflect_registrations access history ⟨3, 0⟩ first).2.2
    hverify.1 3 "id" hlifetime hexpiry
  obtain ⟨hother, -, hrefused⟩ := (answers_reflect_registrations access history ⟨3, 0⟩ second).2.2
    hverify.2 3 "id" hlifetime hexpiry
  rw [hregistrations] at hgranted htold hother
  refine ⟨hregistrations, ?_, ?_⟩
  · obtain ⟨grant, hgrant⟩ := hgranted.mpr ⟨_, List.mem_cons_self, rfl, rfl⟩
    obtain ⟨registration, hmem, hname, -, claims, hconveys, -, hid, husername, -, hexpires⟩ :=
      htold grant hgrant
    have hfirst : registration = ⟨salt, first, ⟨1, "anna", ⟨0, 0⟩⟩⟩ := by
      have hnames : ∀ registration ∈ taken, registration.request.username = first.username →
          registration = ⟨salt, first, ⟨1, "anna", ⟨0, 0⟩⟩⟩ := by
        decide +kernel
      exact hnames registration hmem hname
    subst hfirst
    have hseconds : claims.exp.toInt = 3603 := hexpires
    exact ⟨grant, claims, hgrant, hconveys, hid (by decide), husername,
      hconveys.validate_eq (by omega) 3600 (by rw [hseconds]; decide)⟩
  · refine hrefused fun grant hgrant => ?_
    obtain ⟨registration, hmem, hsame⟩ := hother.mp ⟨grant, hgrant⟩
    have hnone : ∀ registration ∈ taken,
        ¬(registration.request.username = second.username ∧
          registration.request.password = second.password) := by
      decide
    exact hnone registration hmem hsame

end FormLetter.Accounts
