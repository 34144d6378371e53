import FormLetter.Proofs.Except
import FormLetter.Proofs.Json.Grammar

/-!
# Scanning strings and numbers

The scanner finds in a text exactly the strings and the numbers that the grammar has there.
-/

namespace FormLetter.Json

namespace Grammar

/-! ## Blanks -/

theorem Space.refl (text : List Symbol) : Space text text :=
  ⟨[], rfl, nofun⟩

theorem space_skipSpace (text : List Symbol) : Space text (skipSpace text) := by
  refine ⟨text.takeWhile isSpace, List.takeWhile_append_dropWhile.symm, fun blank hblank => ?_⟩
  exact List.all_eq_true.mp List.all_takeWhile blank hblank

theorem Space.skipSpace_eq {text rest : List Symbol} (h : Space text rest) :
    skipSpace text = skipSpace rest := by
  obtain ⟨blanks, rfl, hblanks⟩ := h
  exact List.dropWhile_append_of_pos hblanks

theorem Space.length_le {text rest : List Symbol} (h : Space text rest) :
    rest.length ≤ text.length := by
  obtain ⟨blanks, rfl, -⟩ := h
  simp

end Grammar

@[simp]
theorem skipSpace_skipSpace (text : List Symbol) : skipSpace (skipSpace text) = skipSpace text :=
  (Grammar.space_skipSpace text).skipSpace_eq.symm

theorem skipSpace_cons {symbol : Symbol} (h : isSpace symbol = false) (text : List Symbol) :
    skipSpace (symbol :: text) = symbol :: text :=
  List.dropWhile_cons_of_neg (by simp [h])

/-! ## Strings -/

/-- What the scanner takes off a string in one step. -/
inductive PieceAt : List Symbol → Piece → List Symbol → Prop where
  | plain {c : Char} {more : List Symbol} (hcontrol : 0x20 ≤ c.toNat) (hquote : c ≠ '"')
      (hbackslash : c ≠ '\\') : PieceAt (.char c :: more) (.char c) more
  | escaped {letter c : Char} {more : List Symbol} (hescape : (letter, c) ∈ Grammar.escapes) :
      PieceAt (.char '\\' :: .char letter :: more) (.char c) more
  | code {w x y z : Symbol} {code : Nat} {more : List Symbol}
      (hcode : hexCode? w x y z = some code) :
      PieceAt (.char '\\' :: .char 'u' :: w :: x :: y :: z :: more) (.code code) more
  | stray {more : List Symbol} : PieceAt (.stray :: more) .stray more

theorem escapedChar?_eq_some_iff {letter c : Char} :
    escapedChar? letter = some c ↔ (letter, c) ∈ Grammar.escapes := by
  constructor
  · intro h
    unfold escapedChar? at h
    split at h
    case h_9 => cases h
    all_goals
      cases h
      decide
  · intro h
    simp only [Grammar.escapes, List.mem_cons, Prod.mk.injEq, List.not_mem_nil, or_false] at h
    rcases h with ⟨rfl, rfl⟩ | ⟨rfl, rfl⟩ | ⟨rfl, rfl⟩ | ⟨rfl, rfl⟩ | ⟨rfl, rfl⟩ | ⟨rfl, rfl⟩ |
      ⟨rfl, rfl⟩ | ⟨rfl, rfl⟩ <;> rfl

theorem PieceAt.scanPieces_eq {text more : List Symbol} {piece : Piece}
    (h : PieceAt text piece more) : scanPieces text = prependPiece piece (scanPieces more) := by
  cases h with
  | plain hcontrol hquote hbackslash =>
      simp [scanPieces, hbackslash, Nat.not_lt.mpr hcontrol]
  | @escaped letter c more hescape =>
      have hletter : letter ≠ 'u' := by
        rintro rfl
        revert hescape
        simp [Grammar.escapes]
      simp [scanPieces, hletter, escapedChar?_eq_some_iff.mpr hescape]
  | code hcode => simp [scanPieces, hcode]
  | stray => rfl

/-- A string is at its closing quote, goes on with a piece, or breaks off. -/
theorem scanPieces_cases (text : List Symbol) :
    (∃ rest, text = .char '"' :: rest) ∨ (∃ piece more, PieceAt text piece more) ∨
      ∃ fault, scanPieces text = ([], .error fault) := by
  fun_cases scanPieces text with
  | case1 => exact .inr (.inr ⟨_, rfl⟩)
  | case2 text => exact .inl ⟨text, rfl⟩
  | case3 w x y z text code hcode => exact .inr (.inl ⟨_, _, .code hcode⟩)
  | case4 w x y z text hcode => exact .inr (.inr ⟨_, rfl⟩)
  | case5 text hshort => exact .inr (.inr ⟨_, rfl⟩)
  | case6 letter text _ hletter c hescape =>
      exact .inr (.inl ⟨_, _, .escaped (escapedChar?_eq_some_iff.mp hescape)⟩)
  | case7 letter text _ hletter hescape => exact .inr (.inr ⟨_, rfl⟩)
  | case8 text => exact .inr (.inr ⟨_, rfl⟩)
  | case9 => exact .inr (.inr ⟨_, rfl⟩)
  | case10 c text hquote _ _ hescape hstray hend hcontrol => exact .inr (.inr ⟨_, rfl⟩)
  | case11 c text hquote _ _ hescape hstray hend hcontrol =>
      have hbackslash : c ≠ '\\' := by
        rcases text with _ | ⟨letter | _, text⟩
        · exact hend rfl
        · exact hescape letter text rfl
        · exact hstray text rfl
      exact .inr (.inl ⟨_, _, .plain (Nat.not_lt.mp hcontrol) hquote hbackslash⟩)
  | case12 text => exact .inr (.inl ⟨_, _, .stray⟩)

/-- The first piece of a scanned string stands at its beginning. -/
theorem PieceAt.of_scanPieces {text rest : List Symbol} {piece : Piece} {pieces : List Piece}
    (h : scanPieces text = (piece :: pieces, .ok rest)) :
    ∃ more, PieceAt text piece more ∧ scanPieces more = (pieces, .ok rest) := by
  rcases scanPieces_cases text with ⟨rest', rfl⟩ | ⟨piece', more, hpiece⟩ | ⟨fault, hfault⟩
  · rw [scanPieces] at h
    cases h
  · rw [hpiece.scanPieces_eq] at h
    rcases hmore : scanPieces more with ⟨others, scanned⟩
    rw [hmore] at h
    cases h
    exact ⟨more, hpiece, hmore⟩
  · rw [hfault] at h
    cases h

theorem eq_quote_of_scanPieces {text rest : List Symbol}
    (h : scanPieces text = ([], .ok rest)) : text = .char '"' :: rest := by
  rcases scanPieces_cases text with ⟨rest', rfl⟩ | ⟨piece, more, hpiece⟩ | ⟨fault, hfault⟩
  · rw [scanPieces] at h
    cases h
    rfl
  · rw [hpiece.scanPieces_eq] at h
    cases h
  · rw [hfault] at h
    cases h

/-! ### Characters spelled in digits -/

theorem hexValue?_lt {c : Char} {value : Nat} (h : hexValue? c = some value) : value < 16 := by
  have hdigit : '0'.toNat = 48 ∧ '9'.toNat = 57 := ⟨rfl, rfl⟩
  have hsmall : 'a'.toNat = 97 ∧ 'f'.toNat = 102 := ⟨rfl, rfl⟩
  have hcapital : 'A'.toNat = 65 ∧ 'F'.toNat = 70 := ⟨rfl, rfl⟩
  simp only [hexValue?, Char.isDigit_iff_toNat, Char.le_def, UInt32.le_iff_toNat_le,
    Char.toNat_val] at h
  split at h
  · cases h
    omega
  · split at h
    · cases h
      omega
    · split at h
      · cases h
        omega
      · cases h

theorem Symbol.hexValue?_lt {symbol : Symbol} {value : Nat} (h : symbol.hexValue? = some value) :
    value < 16 := by
  cases symbol with
  | char c => exact Json.hexValue?_lt h
  | stray => cases h

theorem hexCode?_lt {w x y z : Symbol} {code : Nat} (h : hexCode? w x y z = some code) :
    code < 0x10000 := by
  simp only [hexCode?, Option.bind_eq_bind, Option.bind_eq_some_iff, Option.pure_def,
    Option.some.injEq] at h
  obtain ⟨a, ha, b, hb, c, hc, d, hd, rfl⟩ := h
  have ha := Symbol.hexValue?_lt ha
  have hb := Symbol.hexValue?_lt hb
  have hc := Symbol.hexValue?_lt hc
  have hd := Symbol.hexValue?_lt hd
  omega

theorem isHighHalf_iff {code : Nat} : isHighHalf code = true ↔ 0xD800 ≤ code ∧ code < 0xDC00 := by
  simp [isHighHalf]

theorem isLowHalf_iff {code : Nat} : isLowHalf code = true ↔ 0xDC00 ≤ code ∧ code < 0xE000 := by
  simp [isLowHalf]

theorem isHighHalf_eq_false_iff {code : Nat} :
    isHighHalf code = false ↔ code < 0xD800 ∨ 0xDC00 ≤ code := by
  rw [← Bool.not_eq_true, isHighHalf_iff]
  omega

theorem isLowHalf_eq_false_iff {code : Nat} :
    isLowHalf code = false ↔ code < 0xDC00 ∨ 0xE000 ≤ code := by
  rw [← Bool.not_eq_true, isLowHalf_iff]
  omega

theorem toNat_cases (c : Char) : c.toNat < 0xD800 ∨ 0xDFFF < c.toNat ∧ c.toNat < 0x110000 :=
  c.valid

theorem toNat_ofNat {code : Nat} (h : code < 0xD800 ∨ 0xDFFF < code ∧ code < 0x110000) :
    (Char.ofNat code).toNat = code := by
  rw [Char.ofNat, dif_pos h]
  rfl

theorem toNat_joinHalves {high low : Nat} (hhigh : isHighHalf high = true)
    (hlow : isLowHalf low = true) :
    (joinHalves high low).toNat = 0x10000 + (high - 0xD800) * 0x400 + (low - 0xDC00) := by
  rw [isHighHalf_iff] at hhigh
  rw [isLowHalf_iff] at hlow
  exact toNat_ofNat (by omega)

/-- How pieces spell a character, and which of them are left. -/
inductive SpelledBy : List Piece → Char → List Piece → Prop where
  | char {c : Char} {pieces : List Piece} : SpelledBy (.char c :: pieces) c pieces
  | code {code : Nat} {pieces : List Piece} (hlow : isLowHalf code = false)
      (hhigh : isHighHalf code = false) :
      SpelledBy (.code code :: pieces) (Char.ofNat code) pieces
  | halves {high low : Nat} {pieces : List Piece} (hhigh : isHighHalf high = true)
      (hlow : isLowHalf low = true) :
      SpelledBy (.code high :: .code low :: pieces) (joinHalves high low) pieces

theorem SpelledBy.of_toNat (c : Char) (pieces : List Piece) :
    SpelledBy (.code c.toNat :: pieces) c pieces := by
  have hvalid := toNat_cases c
  have hspelled : SpelledBy (.code c.toNat :: pieces) (Char.ofNat c.toNat) pieces :=
    .code (isLowHalf_eq_false_iff.mpr (by omega)) (isHighHalf_eq_false_iff.mpr (by omega))
  rwa [Char.ofNat_toNat] at hspelled

theorem SpelledBy.of_large {c : Char} (hlarge : 0x10000 ≤ c.toNat) (pieces : List Piece) :
    SpelledBy
      (.code (0xD800 + (c.toNat - 0x10000) / 0x400) ::
        .code (0xDC00 + (c.toNat - 0x10000) % 0x400) :: pieces) c pieces := by
  have hvalid := toNat_cases c
  have hhigh : isHighHalf (0xD800 + (c.toNat - 0x10000) / 0x400) = true :=
    isHighHalf_iff.mpr (by omega)
  have hlow : isLowHalf (0xDC00 + (c.toNat - 0x10000) % 0x400) = true :=
    isLowHalf_iff.mpr (by omega)
  have hjoin := toNat_joinHalves hhigh hlow
  have hcode : (joinHalves (0xD800 + (c.toNat - 0x10000) / 0x400)
      (0xDC00 + (c.toNat - 0x10000) % 0x400)).toNat = c.toNat := by omega
  have hspelled := @SpelledBy.halves _ _ pieces hhigh hlow
  rwa [Char.toNat_inj.mp hcode] at hspelled

theorem SpelledBy.spell_eq {pieces others : List Piece} {c : Char} (h : SpelledBy pieces c others)
    (ending : Option SyntaxFault) : spell ending pieces = (spell ending others).map (c :: ·) := by
  cases h with
  | char => rw [spell]
  | code hlow hhigh =>
      rw [spell.eq_def]
      simp [hlow, hhigh]
  | halves hhigh hlow =>
      have hnotLow : isLowHalf _ = false :=
        isLowHalf_eq_false_iff.mpr (.inl (isHighHalf_iff.mp hhigh).2)
      rw [spell]
      simp [hnotLow, hhigh, hlow]

theorem SpelledBy.of_spell {piece : Piece} {pieces : List Piece} {chars : List Char}
    (h : spell none (piece :: pieces) = .ok chars) :
    ∃ c others, SpelledBy (piece :: pieces) c others := by
  cases piece with
  | char c => exact ⟨c, pieces, .char⟩
  | stray =>
      rw [spell] at h
      split at h <;> cases h
  | code code =>
      rw [spell.eq_def] at h
      cases hlow : isLowHalf code with
      | true => simp [hlow] at h
      | false =>
          cases hhigh : isHighHalf code with
          | false => exact ⟨_, pieces, .code hlow hhigh⟩
          | true =>
              simp only [hlow, hhigh, Bool.false_eq_true, if_false, if_true] at h
              split at h
              · cases h
              next low others =>
                split at h
                next hlow => exact ⟨_, others, .halves hhigh hlow⟩
                · cases h
              · cases h

/-! ### Strings as a whole -/

namespace Grammar

theorem Character.scan {text more : List Symbol} {c : Char} {pieces : List Piece}
    {scanned : Except SyntaxFault (List Symbol)} (h : Character text c more)
    (hmore : scanPieces more = (pieces, scanned)) :
    ∃ all, scanPieces text = (all, scanned) ∧ SpelledBy all c pieces := by
  cases h with
  | plain hcontrol hquote hbackslash =>
      refine ⟨.char c :: pieces, ?_, .char⟩
      rw [(PieceAt.plain hcontrol hquote hbackslash).scanPieces_eq, hmore]
      rfl
  | escaped hescape =>
      refine ⟨.char c :: pieces, ?_, .char⟩
      rw [(PieceAt.escaped hescape).scanPieces_eq, hmore]
      rfl
  | code hcode =>
      refine ⟨.code c.toNat :: pieces, ?_, .of_toNat c pieces⟩
      rw [(PieceAt.code hcode).scanPieces_eq, hmore]
      rfl
  | halves hlarge hhigh hlow =>
      refine ⟨_, ?_, .of_large hlarge pieces⟩
      rw [(PieceAt.code hhigh).scanPieces_eq, (PieceAt.code hlow).scanPieces_eq, hmore]
      rfl

theorem Character.of_scan {text rest : List Symbol} {all pieces : List Piece} {c : Char}
    (h : SpelledBy all c pieces) (hscan : scanPieces text = (all, .ok rest)) :
    ∃ more, Character text c more ∧ scanPieces more = (pieces, .ok rest) := by
  cases h with
  | char =>
      obtain ⟨more, hpiece, hmore⟩ := PieceAt.of_scanPieces hscan
      refine ⟨more, ?_, hmore⟩
      cases hpiece with
      | plain hcontrol hquote hbackslash => exact .plain hcontrol hquote hbackslash
      | escaped hescape => exact .escaped hescape
  | code hlow hhigh =>
      obtain ⟨more, hpiece, hmore⟩ := PieceAt.of_scanPieces hscan
      refine ⟨more, ?_, hmore⟩
      cases hpiece with
      | code hcode =>
          have hbits := hexCode?_lt hcode
          rw [isLowHalf_eq_false_iff] at hlow
          rw [isHighHalf_eq_false_iff] at hhigh
          exact .code (by rw [hcode, toNat_ofNat (by omega)])
  | @halves high low _ hhigh hlow =>
      obtain ⟨middle, hfirst, hmiddle⟩ := PieceAt.of_scanPieces hscan
      obtain ⟨more, hsecond, hmore⟩ := PieceAt.of_scanPieces hmiddle
      refine ⟨more, ?_, hmore⟩
      cases hfirst with
      | code hhighCode =>
          cases hsecond with
          | code hlowCode =>
              have hjoin := toNat_joinHalves hhigh hlow
              rw [isHighHalf_iff] at hhigh
              rw [isLowHalf_iff] at hlow
              have hhighHalf :
                  0xD800 + ((joinHalves high low).toNat - 0x10000) / 0x400 = high := by omega
              have hlowHalf :
                  0xDC00 + ((joinHalves high low).toNat - 0x10000) % 0x400 = low := by omega
              exact .halves (by omega) (by rw [hhighHalf, hhighCode]) (by rw [hlowHalf, hlowCode])

theorem Characters.scan {text rest : List Symbol} {chars : List Char}
    (h : Characters text chars rest) :
    ∃ pieces, scanPieces text = (pieces, .ok rest) ∧ spell none pieces = .ok chars := by
  induction h with
  | done => exact ⟨[], rfl, rfl⟩
  | cons hhead htail ih =>
      obtain ⟨pieces, hscan, hspell⟩ := ih
      obtain ⟨all, hall, hspelled⟩ := hhead.scan hscan
      refine ⟨all, hall, ?_⟩
      rw [hspelled.spell_eq, hspell]
      rfl

theorem Character.length_lt {text more : List Symbol} {c : Char} (h : Character text c more) :
    more.length < text.length := by
  cases h <;> simp only [List.length_cons] <;> omega

-- A character takes one piece or two, so the induction is on the length of the text.
theorem Characters.of_scan {text rest : List Symbol} {pieces : List Piece} {chars : List Char}
    (hscan : scanPieces text = (pieces, .ok rest)) (hspell : spell none pieces = .ok chars) :
    Characters text chars rest := by
  induction hlength : text.length using Nat.strongRecOn generalizing text pieces chars with
  | ind length ih =>
      cases pieces with
      | nil =>
          cases hspell
          rw [eq_quote_of_scanPieces hscan]
          exact .done
      | cons piece pieces =>
          obtain ⟨c, others, hspelled⟩ := SpelledBy.of_spell hspell
          obtain ⟨more, hhead, hmore⟩ := Character.of_scan hspelled hscan
          rw [hspelled.spell_eq] at hspell
          obtain ⟨tail, htail, rfl⟩ := except_map_eq_ok_iff.mp hspell
          exact .cons hhead (ih _ (hlength ▸ hhead.length_lt) hmore htail rfl)

end Grammar

/-- **The scanner reads strings as the grammar has them**, wherever they spell a text. -/
theorem scanString_eq_ok_iff {text rest : List Symbol} {value : String} :
    scanString text = (.ok value, .ok rest) ↔
      ∃ chars, Grammar.Characters text chars rest ∧ value = String.ofList chars := by
  constructor
  · intro h
    rcases hscan : scanPieces text with ⟨pieces, scanned⟩
    simp only [scanString, hscan, Prod.mk.injEq] at h
    obtain ⟨htext, rfl⟩ := h
    obtain ⟨chars, hspell, rfl⟩ := except_map_eq_ok_iff.mp htext
    exact ⟨chars, .of_scan hscan hspell, rfl⟩
  · rintro ⟨chars, hchars, rfl⟩
    obtain ⟨pieces, hscan, hspell⟩ := hchars.scan
    simp [scanString, hscan, hspell, faultOf?, Except.map]

/-! ## Numbers -/

theorem ne_of_isDigit {c d : Char} (hc : c.isDigit = true) (hd : d.isDigit = false) : c ≠ d := by
  rintro rfl
  rw [hc] at hd
  cases hd

/-- No digit comes next. -/
def NoDigit (text : List Symbol) : Prop :=
  ∀ symbol ∈ text.head?, symbol.isDigit = false

/-- What makes a number longer where it comes next. -/
def continuesNumber (symbol : Symbol) : Bool :=
  symbol.isDigit || symbol == .char '.' || symbol == .char 'e' || symbol == .char 'E'

def EndsNumber (text : List Symbol) : Prop :=
  ∀ symbol ∈ text.head?, continuesNumber symbol = false

theorem EndsNumber.noDigit {text : List Symbol} (h : EndsNumber text) : NoDigit text := by
  intro symbol hsymbol
  have hends := h symbol hsymbol
  simp only [continuesNumber, Bool.or_eq_false_iff] at hends
  exact hends.1.1.1

theorem EndsNumber.head?_ne {text : List Symbol} (h : EndsNumber text) {symbol : Symbol}
    (hsymbol : continuesNumber symbol = true) : text.head? ≠ some symbol := by
  intro hhead
  rw [h symbol hhead] at hsymbol
  cases hsymbol

namespace Grammar

theorem Digits.scan {digits rest : List Symbol} (h : Digits digits) (hrest : NoDigit rest) :
    scanDigits (digits ++ rest) = .ok (digits, rest) := by
  have hnone : rest.takeWhile Symbol.isDigit = [] ∧ rest.dropWhile Symbol.isDigit = rest := by
    cases rest with
    | nil => exact ⟨rfl, rfl⟩
    | cons symbol rest =>
        have hsymbol := hrest symbol rfl
        simp [hsymbol]
  have htake : (digits ++ rest).takeWhile Symbol.isDigit = digits := by
    rw [List.takeWhile_append_of_pos h.isDigit, hnone.1, List.append_nil]
  have hdrop : (digits ++ rest).dropWhile Symbol.isDigit = rest := by
    rw [List.dropWhile_append_of_pos h.isDigit, hnone.2]
  rw [scanDigits, htake, hdrop]
  cases digits with
  | nil => exact absurd rfl h.ne_nil
  | cons => rfl

theorem Digits.of_scan {text digits rest : List Symbol} (h : scanDigits text = .ok (digits, rest)) :
    Digits digits ∧ text = digits ++ rest := by
  rw [scanDigits] at h
  split at h
  · cases h
  next hne =>
    cases h
    refine ⟨⟨hne, fun digit hdigit => ?_⟩, List.takeWhile_append_dropWhile.symm⟩
    exact List.all_eq_true.mp List.all_takeWhile digit hdigit

theorem Whole.scan {digits rest : List Symbol} (h : Whole digits) (hrest : NoDigit rest) :
    scanWhole (digits ++ rest) = .ok (digits, rest) := by
  rw [scanWhole, h.toDigits.scan hrest]
  split
  next heq =>
    cases heq
    exact absurd (h.eq_nil_of_zero _ rfl) (List.cons_ne_nil _ _)
  · rfl

theorem Whole.of_scan {text digits rest : List Symbol} (h : scanWhole text = .ok (digits, rest)) :
    Whole digits ∧ text = digits ++ rest := by
  rw [scanWhole] at h
  split at h
  · cases h
  next hnot =>
    obtain ⟨hdigits, htext⟩ := Digits.of_scan h
    refine ⟨⟨hdigits, fun more hmore => ?_⟩, htext⟩
    cases more with
    | nil => rfl
    | cons digit more => exact absurd (hmore ▸ h) (hnot digit more rest)

theorem Fraction.scan {text rest : List Symbol} {fraction : Option (List Symbol)}
    (h : Fraction text fraction) (hdigit : NoDigit rest)
    (hpoint : rest.head? ≠ some (.char '.')) :
    scanFraction (text ++ rest) = .ok (fraction, rest) := by
  cases h with
  | absent =>
      rw [List.nil_append, scanFraction.eq_def]
      split
      · exact absurd rfl hpoint
      · rfl
  | written hdigits => simp [scanFraction, hdigits.scan hdigit, Except.map]

theorem Fraction.of_scan {text rest : List Symbol} {fraction : Option (List Symbol)}
    (h : scanFraction text = .ok (fraction, rest)) :
    ∃ written, Fraction written fraction ∧ text = written ++ rest := by
  rw [scanFraction.eq_def] at h
  split at h
  next text =>
    obtain ⟨⟨digits, rest⟩, hscan, hresult⟩ := except_map_eq_ok_iff.mp h
    cases hresult
    obtain ⟨hdigits, rfl⟩ := Digits.of_scan hscan
    exact ⟨_, .written hdigits, rfl⟩
  · cases h
    exact ⟨[], .absent, rfl⟩

theorem Digits.head {digits : List Symbol} (h : Digits digits) :
    ∃ c more, digits = .char c :: more ∧ c.isDigit = true := by
  obtain ⟨hne, hdigit⟩ := h
  rcases digits with _ | ⟨c | _, more⟩
  · exact absurd rfl hne
  · exact ⟨c, more, rfl, hdigit _ List.mem_cons_self⟩
  · exact nomatch hdigit _ List.mem_cons_self

theorem Signed.scan {text rest : List Symbol} {value : Int} (h : Signed text value)
    (hrest : NoDigit rest) : scanSigned (text ++ rest) = .ok (value, rest) := by
  cases h with
  | bare hdigits =>
      have hscan := hdigits.scan hrest
      obtain ⟨c, more, rfl, hc⟩ := hdigits.head
      rw [List.cons_append] at hscan ⊢
      simp [scanSigned, ne_of_isDigit hc (d := '-') rfl, ne_of_isDigit hc (d := '+') rfl, hscan,
        Except.map]
  | plus hdigits | minus hdigits => simp [scanSigned, hdigits.scan hrest, Except.map]

theorem Signed.of_scan {text rest : List Symbol} {value : Int}
    (h : scanSigned text = .ok (value, rest)) :
    ∃ written, Signed written value ∧ text = written ++ rest := by
  rw [scanSigned.eq_def] at h
  split at h
  all_goals
    obtain ⟨⟨digits, rest⟩, hscan, hresult⟩ := except_map_eq_ok_iff.mp h
    cases hresult
    obtain ⟨hdigits, rfl⟩ := Digits.of_scan hscan
  · exact ⟨_, .minus hdigits, rfl⟩
  · exact ⟨_, .plus hdigits, rfl⟩
  · exact ⟨_, .bare hdigits, rfl⟩

theorem Exponent.scan {text rest : List Symbol} {exponent : Option Int}
    (h : Exponent text exponent) (hrest : EndsNumber rest) :
    scanExponent (text ++ rest) = .ok (exponent, rest) := by
  cases h with
  | absent =>
      rw [List.nil_append, scanExponent.eq_def]
      split
      · exact absurd rfl (hrest.head?_ne rfl)
      · exact absurd rfl (hrest.head?_ne rfl)
      · rfl
  | small hsigned | capital hsigned =>
      simp [scanExponent, hsigned.scan hrest.noDigit, Except.map]

theorem Exponent.of_scan {text rest : List Symbol} {exponent : Option Int}
    (h : scanExponent text = .ok (exponent, rest)) :
    ∃ written, Exponent written exponent ∧ text = written ++ rest := by
  rw [scanExponent.eq_def] at h
  split at h
  · obtain ⟨⟨value, rest⟩, hscan, hresult⟩ := except_map_eq_ok_iff.mp h
    cases hresult
    obtain ⟨written, hsigned, rfl⟩ := Signed.of_scan hscan
    exact ⟨_, .small hsigned, rfl⟩
  · obtain ⟨⟨value, rest⟩, hscan, hresult⟩ := except_map_eq_ok_iff.mp h
    cases hresult
    obtain ⟨written, hsigned, rfl⟩ := Signed.of_scan hscan
    exact ⟨_, .capital hsigned, rfl⟩
  · cases h
    exact ⟨[], .absent, rfl⟩

theorem Exponent.noDigit_noPoint_append {text rest : List Symbol} {exponent : Option Int}
    (h : Exponent text exponent) (hrest : EndsNumber rest) :
    NoDigit (text ++ rest) ∧ (text ++ rest).head? ≠ some (.char '.') := by
  cases h with
  | absent => exact ⟨hrest.noDigit, hrest.head?_ne rfl⟩
  | small hsigned | capital hsigned =>
      refine ⟨fun symbol hsymbol => ?_, by simp⟩
      cases hsymbol
      rfl

theorem Fraction.noDigit_append {text rest : List Symbol} {fraction : Option (List Symbol)}
    (h : Fraction text fraction) (hrest : NoDigit rest) : NoDigit (text ++ rest) := by
  cases h with
  | absent => exact hrest
  | written hdigits =>
      intro symbol hsymbol
      cases hsymbol
      rfl

theorem Magnitude.scan {negative : Bool} {text rest : List Symbol} {numeral : Numeral}
    (h : Magnitude negative text numeral) (hrest : EndsNumber rest) :
    scanMagnitude negative (text ++ rest) = .ok (numeral, rest) := by
  obtain ⟨hwhole, hfraction, hexponent⟩ := h
  have hnext := hexponent.noDigit_noPoint_append hrest
  have hscanWhole := hwhole.scan (hfraction.noDigit_append hnext.1)
  have hscanFraction := hfraction.scan hnext.1 hnext.2
  have hscanExponent := hexponent.scan hrest
  rw [List.append_assoc, List.append_assoc, scanMagnitude]
  refine except_bind_eq_ok_iff.mpr ⟨_, hscanWhole, ?_⟩
  refine except_bind_eq_ok_iff.mpr ⟨_, hscanFraction, ?_⟩
  exact except_bind_eq_ok_iff.mpr ⟨_, hscanExponent, rfl⟩

theorem Magnitude.of_scan {negative : Bool} {text rest : List Symbol} {numeral : Numeral}
    (h : scanMagnitude negative text = .ok (numeral, rest)) :
    ∃ written, Magnitude negative written numeral ∧ text = written ++ rest := by
  rw [scanMagnitude] at h
  obtain ⟨⟨whole, afterWhole⟩, hscanWhole, h⟩ := except_bind_eq_ok_iff.mp h
  obtain ⟨⟨fraction, afterFraction⟩, hscanFraction, h⟩ := except_bind_eq_ok_iff.mp h
  obtain ⟨⟨exponent, afterExponent⟩, hscanExponent, h⟩ := except_bind_eq_ok_iff.mp h
  cases h
  obtain ⟨hwhole, rfl⟩ := Whole.of_scan hscanWhole
  obtain ⟨fractionText, hfraction, rfl⟩ := Fraction.of_scan hscanFraction
  obtain ⟨exponentText, hexponent, rfl⟩ := Exponent.of_scan hscanExponent
  exact ⟨_, .mk hwhole hfraction hexponent, by simp only [List.append_assoc]⟩

theorem Magnitude.head {negative : Bool} {text : List Symbol} {numeral : Numeral}
    (h : Magnitude negative text numeral) :
    ∃ c more, text = .char c :: more ∧ c.isDigit = true := by
  obtain ⟨hwhole, hfraction, hexponent⟩ := h
  obtain ⟨c, more, rfl, hc⟩ := hwhole.toDigits.head
  exact ⟨c, _, rfl, hc⟩

theorem Number.scan {text rest : List Symbol} {numeral : Numeral} (h : Number text numeral)
    (hrest : EndsNumber rest) : scanNumeral (text ++ rest) = .ok (numeral, rest) := by
  cases h with
  | plain h =>
      have hscan := h.scan hrest
      obtain ⟨c, more, rfl, hc⟩ := h.head
      rw [List.cons_append] at hscan ⊢
      simp [scanNumeral, ne_of_isDigit hc (d := '-') rfl, hscan]
  | negative h => exact h.scan hrest

theorem Number.of_scan {text rest : List Symbol} {numeral : Numeral}
    (h : scanNumeral text = .ok (numeral, rest)) :
    ∃ written, Number written numeral ∧ text = written ++ rest := by
  rw [scanNumeral.eq_def] at h
  split at h
  · obtain ⟨written, hmagnitude, rfl⟩ := Magnitude.of_scan h
    exact ⟨_, .negative hmagnitude, rfl⟩
  · obtain ⟨written, hmagnitude, rfl⟩ := Magnitude.of_scan h
    exact ⟨_, .plain hmagnitude, rfl⟩

theorem Number.head {text : List Symbol} {numeral : Numeral} (h : Number text numeral) :
    ∃ c more, text = .char c :: more ∧ Node.startsNumber (.char c) = true := by
  cases h with
  | plain h =>
      obtain ⟨c, more, rfl, hc⟩ := h.head
      exact ⟨c, more, rfl, by simp [Node.startsNumber, hc]⟩
  | negative h => exact ⟨'-', _, rfl, rfl⟩

end Grammar

end FormLetter.Json
