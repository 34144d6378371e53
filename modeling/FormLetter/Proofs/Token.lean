import FormLetter.Proofs.Base64
import FormLetter.Proofs.Json.Print
import FormLetter.Proofs.Text
import FormLetter.Proofs.Word
import FormLetter.Token

/-!
# Tokens in writing

What is written into each part of a token is read back out of it, and a token is issued as long as
its times have room.
-/

namespace FormLetter.Token

open Json (Node Prints PrintsMembers Spells Reader)

/-! ## Parts -/

theorem readPart_encode {α : Type} {text : String} {node : Node} {read : Reader α} {result : α}
    (h : Spells text node) (hread : read Json.nestingLimit node = .ok result) :
    readPart read (Utf8.encode text) = .ok result := by
  rw [readPart, h.document_encode_eq, Json.Document.read_of_ending_none, hread]

theorem dot_not_mem_encode (bytes : List UInt8) : '.' ∉ Base64.encode .urlSafe bytes := by
  intro hdot
  have hsymbol : ∀ c ∈ Base64.encode .urlSafe bytes, c ≠ '.' :=
    Base64.forall_mem_encode (by decide) bytes
  exact hsymbol '.' hdot rfl

/-! ## The header -/

theorem readPart_header :
    readPart Header.record.read (Utf8.encode header.text) = .ok "HS256" := by
  have hprints : Prints header _ :=
    .object (.cons "typ" (.string "JWT") (.cons "alg" (.string "HS256") .nil))
  exact readPart_encode hprints.spells rfl

/-! ## The claims -/

/-- The claims, as they are read in a token. -/
def Claims.node (claims : Claims) : Node :=
  .object
    [(.ok "sub", .number (.ofInt claims.sub.toInt)),
     (.ok "username", .string (.ok claims.username)),
     (.ok "exp", .number (.ofInt claims.exp.toInt)),
     (.ok "iat", .number (.ofInt claims.iat.toInt)),
     (.ok "jti", .string (.ok claims.jti))] none

theorem Claims.prints (claims : Claims) : Prints claims.toJson claims.node :=
  .object (.cons "sub" (.integer _) (.cons "username" (.string _) (.cons "exp" (.integer _)
    (.cons "iat" (.integer _) (.cons "jti" (.string _) .nil)))))

theorem number?_ofInt_toInt (value : Int64) :
    (Json.Numeral.ofInt value.toInt).number? = some (.integer value.toInt) := by
  have hleast := value.le_toInt
  have hgreatest := value.toInt_lt
  exact Json.Numeral.number?_ofInt (by omega) (by omega)

theorem int64_ofInt_toInt (depth : Nat) (value : Int64) :
    Reader.int64 depth (.number (.ofInt value.toInt)) = .ok value := by
  simp only [Reader.int64, number?_ofInt_toInt]
  rw [if_pos value.toInt_le, Int64.ofInt_toInt]

theorem Claims.read_node (claims : Claims) :
    Claims.record.read Json.nestingLimit claims.node = .ok claims := by
  simp [Claims.record, Json.Record.read, Claims.node, Json.nestingLimit,
    Json.Record.gatherMembers, Json.Field.readAt, Json.Field.of, int64_ofInt_toInt, Reader.string,
    Except.map, Json.endedBy, Claims.Draft.finish]

theorem stop?_ofInt_toInt (depth : Nat) (value : Int64) :
    (Node.number (.ofInt value.toInt)).stop? depth = none := by
  rw [Node.stop?, number?_ofInt_toInt]
  rfl

theorem Registered.subject_ofInt_toInt (depth : Nat) (value : Int64) :
    subject depth (.number (.ofInt value.toInt)) = .ok () := by
  simp [subject, stop?_ofInt_toInt]

theorem Registered.time_ofInt_toInt (depth : Nat) (value : Int64) :
    time depth (.number (.ofInt value.toInt)) =
      .ok (if 0 ≤ value.toInt then some value.toInt.toNat else none) := by
  simp [time, stop?_ofInt_toInt, seconds?, number?_ofInt_toInt]

theorem Registered.read_node (claims : Claims) :
    Registered.record.read Json.nestingLimit claims.node =
      .ok ⟨if 0 ≤ claims.exp.toInt then some claims.exp.toInt.toNat else none, false⟩ := by
  simp [Registered.record, Json.Record.read, Claims.node, Json.nestingLimit,
    Json.Record.gatherMembers, Json.Field.readAt, Json.Field.of, subject_ofInt_toInt,
    time_ofInt_toInt, Node.ending?, Except.map, Json.endedBy]

/-! ## Tokens -/

/-- What holds of the symbols of Base64 and of the dot holds throughout a token. -/
theorem forall_mem_sign {P : Char → Prop} (hsymbol : ∀ n < 64, P (Base64.Alphabet.urlSafe.symbol n))
    (hdot : P '.') (secret : String) (claims : Claims) :
    ∀ c ∈ (sign secret claims).toList, P c := by
  have hpart (bytes : List UInt8) : ∀ c ∈ Base64.encode .urlSafe bytes, P c :=
    Base64.forall_mem_encode hsymbol bytes
  simp only [sign, String.toList_ofList, encodePart, signature, List.forall_mem_append,
    List.forall_mem_cons]
  exact ⟨⟨hpart _, hdot, hpart _⟩, hdot, hpart _⟩

/-! ## Tokens that are issued -/

section Issue

variable {settings : TokenSettings} {now userId : Int64} {jti username token : String}

theorem lifetime?_eq_some_iff {lifetime : Int64} :
    settings.lifetime? = some lifetime ↔ lifetime.toInt = 60 * settings.expiryMinutes.toInt := by
  have hsixty : (60 : Int64).toInt = 60 := rfl
  rw [TokenSettings.lifetime?, Word.mul?_eq_some_iff, hsixty, Int.mul_comm]

theorem exists_lifetime?_iff :
    (∃ lifetime, settings.lifetime? = some lifetime) ↔
      FitsWord (60 * settings.expiryMinutes.toInt) := by
  simp only [lifetime?_eq_some_iff, Word.exists_toInt_eq_iff]

/-- A token is issued for claims with an exact time of expiry, provided that the lifetime has room
on its own. -/
theorem issue?_eq_some_iff :
    issue? settings now jti userId username = some token ↔
      FitsWord (60 * settings.expiryMinutes.toInt) ∧
        ∃ expiry : Int64, expiry.toInt = now.toInt + 60 * settings.expiryMinutes.toInt ∧
          token = sign settings.secret ⟨userId, username, expiry, now, jti⟩ := by
  rw [issue?, ← exists_lifetime?_iff]
  constructor
  · intro h
    obtain ⟨lifetime, hlifetime, h⟩ := Option.bind_eq_some_iff.mp h
    obtain ⟨expiry, hexpiry, h⟩ := Option.bind_eq_some_iff.mp h
    rw [Word.add?_eq_some_iff, lifetime?_eq_some_iff.mp hlifetime] at hexpiry
    exact ⟨⟨lifetime, hlifetime⟩, expiry, hexpiry, (Option.some.inj h).symm⟩
  · rintro ⟨⟨lifetime, hlifetime⟩, expiry, hexpiry, rfl⟩
    rw [← lifetime?_eq_some_iff.mp hlifetime] at hexpiry
    have hsum : Word.add? now lifetime = some expiry := Word.add?_eq_some_iff.mpr hexpiry
    rw [hlifetime]
    exact Option.bind_eq_some_iff.mpr ⟨lifetime, rfl, Option.bind_eq_some_iff.mpr
      ⟨expiry, hsum, rfl⟩⟩

theorem exists_issue?_iff :
    (∃ token, issue? settings now jti userId username = some token) ↔
      FitsWord (60 * settings.expiryMinutes.toInt) ∧
        FitsWord (now.toInt + 60 * settings.expiryMinutes.toInt) := by
  simp only [issue?_eq_some_iff, exists_and_left]
  refine and_congr_right fun _ => ?_
  rw [← Word.exists_toInt_eq_iff]
  constructor
  · rintro ⟨_, expiry, hexpiry, -⟩
    exact ⟨expiry, hexpiry⟩
  · rintro ⟨expiry, hexpiry⟩
    exact ⟨_, expiry, hexpiry, rfl⟩

end Issue

end FormLetter.Token
