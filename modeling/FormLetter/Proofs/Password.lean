import FormLetter.Password
import FormLetter.Proofs.Base64

/-!
# Password hashes, there and back

A hash that is written for a password is read back as it was written, so whether a password belongs
to it depends on the digests alone.
-/

namespace FormLetter

theorem Phc.splitOn_flatMap_cons {parts : List (List Char)} (h : ∀ part ∈ parts, '$' ∉ part) :
    (parts.flatMap ('$' :: ·)).splitOn '$' = [] :: parts := by
  have hjoin : ∀ head : List Char,
      head ++ parts.flatMap ('$' :: ·) = ['$'].intercalate (head :: parts) := by
    clear h
    induction parts with
    | nil => intro head; simp
    | cons part parts ih =>
        intro head
        rw [List.intercalate_cons_cons, ← ih, List.flatMap_cons]
        simp
  have hnil := hjoin []
  rw [List.nil_append] at hnil
  rw [hnil]
  apply List.splitOn_intercalate _ _ (List.cons_ne_nil _ _)
  exact List.forall_mem_cons.mpr ⟨List.not_mem_nil, h⟩

namespace Password

variable {derive : Derivation} {salt : List UInt8}

/-- What is written down of a password. -/
def written (derive : Derivation) (salt : List UInt8) (password : String) : Phc where
  function := "argon2id"
  version := some 19
  settings := [("m", "19456"), ("t", "2"), ("p", "1")]
  salt := some (String.ofList (Base64.encode .standard salt))
  digest := some (derive defaultCost digestLength (Utf8.encode password) salt)

theorem hash_eq_text_written (password : String) :
    hash derive salt password = (written derive salt password).text := by
  have hsettings : writtenSettings defaultCost = [("m", "19456"), ("t", "2"), ("p", "1")] := by
    decide
  rw [hash, hsettings]
  rfl

theorem isValueChar_of_mem_encode (bytes : List UInt8) :
    ∀ c ∈ Base64.encode .standard bytes, Phc.isValueChar c :=
  Base64.forall_mem_encode (by decide) bytes

theorem dollar_not_mem_encode (bytes : List UInt8) : '$' ∉ Base64.encode .standard bytes := by
  intro hmem
  have hvalue := isValueChar_of_mem_encode bytes _ hmem
  revert hvalue
  decide

theorem readSalt?_encode (hshort : 3 ≤ salt.length) (hlong : salt.length ≤ 48) :
    Phc.readSalt? (Base64.encode .standard salt) =
      some (String.ofList (Base64.encode .standard salt)) := by
  have hlength := Base64.length_encode .standard salt
  have hleast : 4 ≤ (Base64.encode .standard salt).length := by omega
  have hmost : (Base64.encode .standard salt).length ≤ 64 := by omega
  have hvalue : Phc.isValue (Base64.encode .standard salt) = true := by
    rw [Phc.isValue, Bool.and_eq_true, decide_eq_true_iff, List.all_eq_true]
    exact ⟨hmost, isValueChar_of_mem_encode salt⟩
  simp [Phc.readSalt?, hleast, hvalue]

theorem readDigest?_encode {digest : List UInt8} (hshort : 10 ≤ digest.length)
    (hlong : digest.length ≤ 64) :
    Phc.readDigest? (Base64.encode .standard digest) = some digest := by
  rw [Phc.readDigest?, Base64.decode?_encode Base64.Alphabet.readable_standard]
  simp [hshort, hlong]

theorem parts_written (password : String) :
    (written derive salt password).parts =
      ["v=19".toList, "m=19456,t=2,p=1".toList, Base64.encode .standard salt,
        Base64.encode .standard
          (derive defaultCost digestLength (Utf8.encode password) salt)] := by
  have hdigits : Nat.toDigits 10 19 = ['1', '9'] := by decide
  simp [written, Phc.parts, Phc.settingsChars, Phc.settingChars, hdigits]

theorem takeVersion?_default (parts : List (List Char)) :
    Phc.takeVersion? ("v=19".toList :: parts) = some (some 19, parts) := by
  have hread : Phc.readVersion? ("v=19".toList.drop 2) = some 19 := by decide
  rw [Phc.takeVersion?, if_pos (by decide), hread, Option.map_some]

theorem takeSettings?_default (parts : List (List Char)) :
    Phc.takeSettings? ("m=19456,t=2,p=1".toList :: parts) =
      some ([("m", "19456"), ("t", "2"), ("p", "1")], parts) := by
  have hread : Phc.readSettings? "m=19456,t=2,p=1".toList =
      some [("m", "19456"), ("t", "2"), ("p", "1")] := by decide
  rw [Phc.takeSettings?, if_pos (by decide), hread, Option.map_some]

theorem read?_hash (hshort : 3 ≤ salt.length) (hlong : salt.length ≤ 48) {password : String}
    (hdigest : (derive defaultCost digestLength (Utf8.encode password) salt).length =
      digestLength) :
    Phc.read? (hash derive salt password) = some (written derive salt password) := by
  have hsalt := readSalt?_encode hshort hlong
  have hread : Phc.readDigest? (Base64.encode .standard
      (derive defaultCost digestLength (Utf8.encode password) salt)) = some _ :=
    readDigest?_encode (by rw [hdigest]; decide) (by rw [hdigest]; decide)
  have hname : Phc.isName "argon2id".toList = true := by decide
  rw [hash_eq_text_written, Phc.read?, Phc.text, String.toList_ofList, parts_written,
    Phc.splitOn_flatMap_cons]
  · simp only [Phc.ofParts?, takeVersion?_default, takeSettings?_default, Phc.takeSalt?, hsalt,
      Phc.takeDigest?, hread, Option.map_some, Option.bind_eq_bind, Option.bind_some]
    rw [written, hname]
    simp
  · simp [written, dollar_not_mem_encode]

theorem readCost?_written (password : String) :
    readCost? (written derive salt password) = some defaultCost := by
  have hvariant : Argon2.Variant.ofName? "argon2id" = some .id := by decide
  have hcost : ([("m", "19456"), ("t", "2"), ("p", "1")].foldlM readSetting? defaultCost >>=
      fun cost => if cost.isFeasible then some cost else none) = some defaultCost := by decide
  rw [readCost?, written, hvariant]
  exact hcost

theorem saltBytes?_encode (hshort : 8 ≤ salt.length) :
    saltBytes? (String.ofList (Base64.encode .standard salt)) = some salt := by
  rw [saltBytes?, String.toList_ofList, Base64.decode?_encode Base64.Alphabet.readable_standard]
  exact if_pos hshort

/-- **A password belongs to the hash of another exactly if the digests agree.** -/
theorem verify?_hash (hshort : 8 ≤ salt.length) (hlong : salt.length ≤ 48) {registered : String}
    (hdigest : (derive defaultCost digestLength (Utf8.encode registered) salt).length =
      digestLength) (password : String) :
    verify? derive password (hash derive salt registered) =
      some (derive defaultCost digestLength (Utf8.encode password) salt ==
        derive defaultCost digestLength (Utf8.encode registered) salt) := by
  rw [verify?, read?_hash (by omega) hlong hdigest]
  simp only [readCost?_written]
  simp only [written, hdigest]
  rw [saltBytes?_encode hshort]
  rfl

theorem verify?_hash_eq_true_iff (hshort : 8 ≤ salt.length) (hlong : salt.length ≤ 48)
    {registered : String}
    (hdigest : (derive defaultCost digestLength (Utf8.encode registered) salt).length =
      digestLength) (password : String) :
    verify? derive password (hash derive salt registered) = some true ↔
      derive defaultCost digestLength (Utf8.encode password) salt =
        derive defaultCost digestLength (Utf8.encode registered) salt := by
  rw [verify?_hash hshort hlong hdigest, Option.some.injEq, beq_iff_eq]

/-- Whether there is any telling from a written hash does not depend on the password. -/
theorem isSome_verify? (left right hash : String) :
    (verify? derive left hash).isSome = (verify? derive right hash).isSome := by
  unfold verify?
  split
  · rfl
  · split
    next salt _ _ _ =>
      cases readCost? _ with
      | none => rfl
      | some cost =>
          cases saltBytes? salt with
          | none => rfl
          | some bytes => rfl
    · rfl

theorem verify?_eq_decide {asked registered hash : String}
    (hasked : verify? derive asked hash = some true ↔ asked = registered)
    (hregistered : verify? derive registered hash = some true) :
    verify? derive asked hash = some (decide (asked = registered)) := by
  have hsome : (verify? derive asked hash).isSome = (verify? derive registered hash).isSome :=
    isSome_verify? asked registered hash
  rw [hregistered] at hsome
  obtain ⟨answer, hanswer⟩ := Option.isSome_iff_exists.mp hsome
  rw [hanswer] at hasked ⊢
  by_cases heq : asked = registered
  · rw [hasked.mpr heq, decide_eq_true heq]
  · rw [decide_eq_false heq]
    cases answer with
    | true => exact absurd (hasked.mp rfl) heq
    | false => rfl

end Password

end FormLetter
