import FormLetter.Base64
import FormLetter.Proofs.DottedName

/-!
# Base64, there and back

Bytes that are written in an alphabet are read back, provided that the alphabet tells its symbols
apart. Nothing but what is written for bytes is read at all.
-/

namespace FormLetter.Base64

/-- Every symbol is read as the value that it is written for. -/
def Alphabet.Readable (alphabet : Alphabet) : Prop :=
  ∀ n < 64, alphabet.value? (alphabet.symbol n) = some n

theorem Alphabet.readable_standard : standard.Readable := by
  unfold Readable
  decide

theorem Alphabet.readable_urlSafe : urlSafe.Readable := by
  unfold Readable
  decide

variable {alphabet : Alphabet}

theorem decode?_encode (halphabet : alphabet.Readable) (bytes : List UInt8) :
    decode? alphabet (encode alphabet bytes) = some bytes := by
  induction bytes using encode.induct with
  | case1 => rfl
  | case2 a =>
      have ha := a.toNat_lt
      have hw := halphabet (a.toNat * 16 / 64) (by omega)
      have hx := halphabet (a.toNat * 16 % 64) (by omega)
      have hn : a.toNat * 16 / 64 * 64 + a.toNat * 16 % 64 = a.toNat * 16 := by omega
      simp [encode, decode?, hw, hx, hn]
  | case3 a b =>
      have ha := a.toNat_lt
      have hb := b.toNat_lt
      simp only [encode, decode?]
      generalize hn : (a.toNat * 256 + b.toNat) * 4 = n
      have hw := halphabet (n / 4096) (by omega)
      have hx := halphabet (n / 64 % 64) (by omega)
      have hy := halphabet (n % 64) (by omega)
      have hsum : (n / 4096 * 64 + n / 64 % 64) * 64 + n % 64 = n := by omega
      have ha' : n / 4 / 256 = a.toNat := by omega
      have hb' : n / 4 % 256 = b.toNat := by omega
      have hzero : n % 4 = 0 := by omega
      simp [hw, hx, hy, hsum, hzero, ha', hb']
  | case4 a b c bytes ih =>
      have ha := a.toNat_lt
      have hb := b.toNat_lt
      have hc := c.toNat_lt
      simp only [encode, decode?]
      generalize hn : (a.toNat * 256 + b.toNat) * 256 + c.toNat = n
      have hw := halphabet (n / 262144) (by omega)
      have hx := halphabet (n / 4096 % 64) (by omega)
      have hy := halphabet (n / 64 % 64) (by omega)
      have hz := halphabet (n % 64) (by omega)
      have hsum : ((n / 262144 * 64 + n / 4096 % 64) * 64 + n / 64 % 64) * 64 + n % 64 = n := by
        omega
      have ha' : n / 65536 = a.toNat := by omega
      have hb' : n / 256 % 256 = b.toNat := by omega
      have hc' : n % 256 = c.toNat := by omega
      simp [hw, hx, hy, hz, hsum, ha', hb', hc', ih]

theorem encode_injective (halphabet : alphabet.Readable) :
    Function.Injective (encode alphabet) := by
  intro left right h
  have hdecode := congrArg (decode? alphabet) h
  rw [decode?_encode halphabet, decode?_encode halphabet] at hdecode
  exact Option.some.inj hdecode

theorem length_encode (alphabet : Alphabet) (bytes : List UInt8) :
    (encode alphabet bytes).length = (4 * bytes.length + 2) / 3 := by
  induction bytes using encode.induct with
  | case1 | case2 | case3 => simp [encode]
  | case4 a b c bytes ih =>
      simp only [encode, List.length_cons, ih]
      omega

/-- What holds of all symbols holds of all that is written. -/
theorem forall_mem_encode {P : Char → Prop} (hsymbol : ∀ n < 64, P (alphabet.symbol n))
    (bytes : List UInt8) : ∀ c ∈ encode alphabet bytes, P c := by
  induction bytes using encode.induct with
  | case1 => exact fun _ hc => absurd hc List.not_mem_nil
  | case2 a =>
      have ha := a.toNat_lt
      simp only [encode, List.forall_mem_cons]
      exact ⟨hsymbol _ (by omega), hsymbol _ (by omega), nofun⟩
  | case3 a b =>
      have ha := a.toNat_lt
      have hb := b.toNat_lt
      simp only [encode, List.forall_mem_cons]
      exact ⟨hsymbol _ (by omega), hsymbol _ (by omega), hsymbol _ (by omega), nofun⟩
  | case4 a b c bytes ih =>
      have ha := a.toNat_lt
      have hb := b.toNat_lt
      have hc := c.toNat_lt
      simp only [encode, List.forall_mem_cons]
      exact ⟨hsymbol _ (by omega), hsymbol _ (by omega), hsymbol _ (by omega),
        hsymbol _ (by omega), ih⟩

/-- A symbol that has a value is the one that is written for it. -/
theorem Alphabet.symbol_of_value? {c : Char} {n : Nat} (h : alphabet.value? c = some n) :
    n < 64 ∧ alphabet.symbol n = c := by
  have hchar {m : Nat} (hm : m = c.toNat) : Char.ofNat m = c := by
    rw [hm, Char.ofNat_toNat]
  unfold value? at h
  split at h
  next hupper =>
    have hbounds : 65 ≤ c.toNat ∧ c.toNat ≤ 90 := Name.isUpper_iff.mp hupper
    cases h
    refine ⟨by omega, ?_⟩
    rw [symbol, if_pos (by omega)]
    exact hchar (by omega)
  next =>
  split at h
  next hlower =>
    have hbounds : 97 ≤ c.toNat ∧ c.toNat ≤ 122 := Name.isLower_iff.mp hlower
    cases h
    refine ⟨by omega, ?_⟩
    rw [symbol, if_neg (by omega), if_pos (by omega)]
    exact hchar (by omega)
  next =>
  split at h
  next hdigit =>
    have hbounds : 48 ≤ c.toNat ∧ c.toNat ≤ 57 := Name.isDigit_iff.mp hdigit
    cases h
    refine ⟨by omega, ?_⟩
    rw [symbol, if_neg (by omega), if_neg (by omega), if_pos (by omega)]
    exact hchar (by omega)
  next =>
  split at h
  next heq =>
    cases h
    exact ⟨by decide, heq.symm⟩
  next =>
  split at h
  next heq =>
    cases h
    exact ⟨by decide, heq.symm⟩
  next => cases h

/-- Nothing is read but what is written for the bytes. -/
theorem eq_encode_of_decode? {text : List Char} {bytes : List UInt8}
    (h : decode? alphabet text = some bytes) : text = encode alphabet bytes := by
  induction text using decode?.induct generalizing bytes with
  | case1 =>
      cases h
      rfl
  | case2 => cases h
  | case3 w x =>
      simp only [decode?, Option.bind_eq_bind, Option.bind_eq_some_iff] at h
      obtain ⟨a, hw, b, hx, h⟩ := h
      obtain ⟨ha, rfl⟩ := Alphabet.symbol_of_value? hw
      obtain ⟨hb, rfl⟩ := Alphabet.symbol_of_value? hx
      split at h
      next hzero =>
        cases h
        have hbyte : (UInt8.ofNat ((a * 64 + b) / 16)).toNat * 16 = a * 64 + b := by
          rw [UInt8.toNat_ofNat']
          omega
        have hfirst : (a * 64 + b) / 64 = a := by omega
        have hsecond : (a * 64 + b) % 64 = b := by omega
        simp only [encode, hbyte, hfirst, hsecond]
      next => cases h
  | case4 w x y =>
      simp only [decode?, Option.bind_eq_bind, Option.bind_eq_some_iff] at h
      obtain ⟨a, hw, b, hx, c, hy, h⟩ := h
      obtain ⟨ha, rfl⟩ := Alphabet.symbol_of_value? hw
      obtain ⟨hb, rfl⟩ := Alphabet.symbol_of_value? hx
      obtain ⟨hc, rfl⟩ := Alphabet.symbol_of_value? hy
      split at h
      next hzero =>
        cases h
        generalize hn : (a * 64 + b) * 64 + c = n at hzero
        have hbytes : ((UInt8.ofNat (n / 4 / 256)).toNat * 256 +
            (UInt8.ofNat (n / 4 % 256)).toNat) * 4 = n := by
          rw [UInt8.toNat_ofNat', UInt8.toNat_ofNat']
          omega
        have hfirst : n / 4096 = a := by omega
        have hsecond : n / 64 % 64 = b := by omega
        have hthird : n % 64 = c := by omega
        simp only [encode, hbytes, hfirst, hsecond, hthird]
      next => cases h
  | case5 w x y z text ih =>
      simp only [decode?, Option.bind_eq_bind, Option.bind_eq_some_iff] at h
      obtain ⟨a, hw, b, hx, c, hy, d, hz, bytes, hrest, h⟩ := h
      obtain ⟨ha, rfl⟩ := Alphabet.symbol_of_value? hw
      obtain ⟨hb, rfl⟩ := Alphabet.symbol_of_value? hx
      obtain ⟨hc, rfl⟩ := Alphabet.symbol_of_value? hy
      obtain ⟨hd, rfl⟩ := Alphabet.symbol_of_value? hz
      cases h
      generalize hn : ((a * 64 + b) * 64 + c) * 64 + d = n
      have hbytes : ((UInt8.ofNat (n / 65536)).toNat * 256 +
          (UInt8.ofNat (n / 256 % 256)).toNat) * 256 + (UInt8.ofNat (n % 256)).toNat = n := by
        rw [UInt8.toNat_ofNat', UInt8.toNat_ofNat', UInt8.toNat_ofNat']
        omega
      have hfirst : n / 262144 = a := by omega
      have hsecond : n / 4096 % 64 = b := by omega
      have hthird : n / 64 % 64 = c := by omega
      have hfourth : n % 64 = d := by omega
      simp only [encode, hbytes, hfirst, hsecond, hthird, hfourth, ← ih hrest]

end FormLetter.Base64
