import FormLetter.Json.Reader
import FormLetter.Proofs.Json.Lexeme
import FormLetter.Proofs.Text

/-!
# Scanning values

Whatever the grammar takes a text for, the scanner finds in it; and what the scanner finds, if
nothing is wrong with it, is what the grammar takes the text for.
-/

namespace FormLetter.Json

theorem eq_append_of_scanWord {word : List Char} {text rest : List Symbol}
    (h : scanWord word text = .ok rest) : text = word.map .char ++ rest := by
  induction word generalizing text with
  | nil =>
      cases h
      rfl
  | cons c word ih =>
      cases text with
      | nil => cases h
      | cons symbol text =>
          rw [scanWord] at h
          split at h
          next hsymbol => rw [ih h, hsymbol, List.map_cons, List.cons_append]
          · cases h

/-- A value has ended, and all blanks after it. -/
def Delimited (text : List Symbol) : Prop :=
  ∀ symbol ∈ text.head?, symbol = .char ',' ∨ symbol = .char ']' ∨ symbol = .char '\x7d'

theorem Delimited.skipSpace_eq {text : List Symbol} (h : Delimited text) :
    skipSpace text = text := by
  cases text with
  | nil => rfl
  | cons symbol text =>
      have hsymbol : isSpace symbol = false := by
        rcases h symbol rfl with rfl | rfl | rfl <;> rfl
      exact skipSpace_cons hsymbol text

theorem Delimited.endsNumber {text more : List Symbol} (h : Delimited more)
    (hspace : Grammar.Space text more) : EndsNumber text := by
  obtain ⟨blanks, rfl, hblanks⟩ := hspace
  intro symbol hsymbol
  cases blanks with
  | nil => rcases h symbol hsymbol with rfl | rfl | rfl <;> rfl
  | cons blank blanks =>
      cases hsymbol
      have hblank := hblanks symbol List.mem_cons_self
      simp only [isSpace, Bool.or_eq_true, beq_iff_eq] at hblank
      rcases hblank with ((rfl | rfl) | rfl) | rfl <;> rfl

theorem Node.ne_of_startsNumber {c d : Char} (hc : startsNumber (.char c) = true)
    (hd : startsNumber (.char d) = false) : c ≠ d := by
  rintro rfl
  rw [hc] at hd
  cases hd

theorem Node.isSpace_of_startsNumber {c : Char} (hc : startsNumber (.char c) = true) :
    isSpace (.char c) = false := by
  simp [isSpace, ne_of_startsNumber hc (d := ' ') rfl, ne_of_startsNumber hc (d := '\t') rfl,
    ne_of_startsNumber hc (d := '\n') rfl, ne_of_startsNumber hc (d := '\r') rfl]

namespace Grammar

/-! ## Where values begin and end -/

theorem Characters.length_lt {text rest : List Symbol} {chars : List Char}
    (h : Characters text chars rest) : rest.length < text.length := by
  induction h with
  | done => exact Nat.lt_succ_self _
  | cons hhead htail ih => exact Nat.lt_trans ih hhead.length_lt

theorem Key.length_lt {text rest : List Symbol} {key : List Char} (h : Key text key rest) :
    rest.length < text.length := by
  obtain ⟨hbefore, hkey, hafter⟩ := h
  have hbefore := hbefore.length_le
  have hkey := hkey.length_lt
  have hafter := hafter.length_le
  simp only [List.length_cons] at hbefore hafter
  omega

mutual

theorem Value.length_lt {text rest : List Symbol} {node : Node} (h : Value text node rest) :
    rest.length < text.length := by
  match h with
  | .null | .yes | .no =>
      simp only [List.length_append]
      exact Nat.lt_add_of_pos_left (by decide)
  | .number h =>
      obtain ⟨c, more, rfl, -⟩ := h.head
      simp only [List.length_append, List.length_cons]
      omega
  | .string h => exact Nat.lt_succ_of_lt h.length_lt
  | .emptyArray h | .emptyObject h =>
      have hinner := h.length_le
      simp only [List.length_cons] at hinner ⊢
      omega
  | .array h => exact Nat.lt_succ_of_lt h.length_lt
  | .object h => exact Nat.lt_succ_of_lt h.length_lt

theorem Element.length_lt {text rest : List Symbol} {node : Node} (h : Element text node rest) :
    rest.length < text.length := by
  match h with
  | .mk hbefore hvalue hafter =>
      have hbefore := hbefore.length_le
      have hvalue := hvalue.length_lt
      have hafter := hafter.length_le
      omega

theorem Items.length_lt {text rest : List Symbol} {items : List Node} (h : Items text items rest) :
    rest.length < text.length := by
  match h with
  | .last hitem => exact Nat.lt_of_succ_lt hitem.length_lt
  | .cons hitem hitems => exact Nat.lt_trans hitems.length_lt (Nat.lt_of_succ_lt hitem.length_lt)

theorem Members.length_lt {text rest : List Symbol} {members : List (Except Stop String × Node)}
    (h : Members text members rest) : rest.length < text.length := by
  match h with
  | .last hkey hvalue => exact Nat.lt_trans (Nat.lt_of_succ_lt hvalue.length_lt) hkey.length_lt
  | .cons hkey hvalue hmembers =>
      have hinner := Nat.lt_trans (Nat.lt_of_succ_lt hvalue.length_lt) hkey.length_lt
      exact Nat.lt_trans hmembers.length_lt hinner

end

/-- A value starts with a character that is neither blank nor the end of an array. -/
theorem Value.head {text rest : List Symbol} {node : Node} (h : Value text node rest) :
    ∃ c more, text = .char c :: more ∧ isSpace (.char c) = false ∧ c ≠ ']' := by
  cases h with
  | number h =>
      obtain ⟨c, more, rfl, hc⟩ := h.head
      exact ⟨c, _, rfl, Node.isSpace_of_startsNumber hc, Node.ne_of_startsNumber hc rfl⟩
  | null | yes | no => exact ⟨_, _, rfl, rfl, by decide⟩
  | string | emptyArray | array | emptyObject | object => exact ⟨_, _, rfl, rfl, by decide⟩

theorem Element.head {text rest : List Symbol} {node : Node} (h : Element text node rest) :
    ∃ c more, skipSpace text = .char c :: more ∧ c ≠ ']' := by
  obtain ⟨hbefore, hvalue, hafter⟩ := h
  obtain ⟨c, more, rfl, hspace, hc⟩ := hvalue.head
  exact ⟨c, more, by rw [hbefore.skipSpace_eq, skipSpace_cons hspace], hc⟩

theorem Items.head {text rest : List Symbol} {items : List Node} (h : Items text items rest) :
    ∃ c more, skipSpace text = .char c :: more ∧ c ≠ ']' := by
  cases h with
  | last hitem => exact hitem.head
  | cons hitem hitems => exact hitem.head

theorem Key.head {text rest : List Symbol} {key : List Char} (h : Key text key rest) :
    ∃ more, skipSpace text = .char '"' :: more := by
  obtain ⟨hbefore, hkey, hafter⟩ := h
  exact ⟨_, by rw [hbefore.skipSpace_eq, skipSpace_cons rfl]⟩

theorem Members.head {text rest : List Symbol} {members : List (Except Stop String × Node)}
    (h : Members text members rest) : ∃ more, skipSpace text = .char '"' :: more := by
  cases h with
  | last hkey hvalue => exact hkey.head
  | cons hkey hvalue hmembers => exact hkey.head

end Grammar

namespace Node

/-! ## What the grammar has, the scanner finds -/

theorem scan_skipSpace (fuel : Nat) (text : List Symbol) :
    scan fuel (skipSpace text) = scan fuel text := by
  cases fuel with
  | zero => rfl
  | succ fuel => rw [scan, scan, skipSpace_skipSpace]

theorem scanItems_skipSpace (fuel : Nat) (text : List Symbol) :
    scanItems fuel (skipSpace text) = scanItems fuel text := by
  cases fuel with
  | zero => rfl
  | succ fuel => rw [scanItems, scanItems, scan_skipSpace]

theorem scanMembers_skipSpace (fuel : Nat) (text : List Symbol) :
    scanMembers fuel (skipSpace text) = scanMembers fuel text := by
  cases fuel with
  | zero => rfl
  | succ fuel => rw [scanMembers, scanMembers, skipSpace_skipSpace]

theorem scan_array {text rest more : List Symbol} {items : List Node} {c : Char} {fuel : Nat}
    (hhead : skipSpace text = .char c :: more) (hc : c ≠ ']')
    (hscan : scanItems fuel text = (items, .ok rest)) :
    scan (fuel + 1) (.char '[' :: text) = (.array items none, .ok rest) := by
  have hopen : skipSpace (.char '[' :: text) = .char '[' :: text := skipSpace_cons rfl text
  rw [← scanItems_skipSpace, hhead] at hscan
  simp [scan, hopen, hhead, hc, hscan, faultOf?]

theorem scan_object {text rest more : List Symbol} {members : List (Except Stop String × Node)}
    {fuel : Nat} (hhead : skipSpace text = .char '"' :: more)
    (hscan : scanMembers fuel text = (members, .ok rest)) :
    scan (fuel + 1) (.char '\x7b' :: text) = (.object members none, .ok rest) := by
  have hopen : skipSpace (.char '\x7b' :: text) = .char '\x7b' :: text := skipSpace_cons rfl text
  rw [← scanMembers_skipSpace, hhead] at hscan
  simp [scan, hopen, hhead, hscan, faultOf?]

theorem scan_scalar {c : Char} {text : List Symbol} {fuel : Nat}
    (hspace : isSpace (.char c) = false) (harray : c ≠ '[') (hobject : c ≠ '\x7b') :
    scan (fuel + 1) (.char c :: text) = scanScalar (.char c :: text) := by
  have hskip : skipSpace (.char c :: text) = .char c :: text := skipSpace_cons hspace text
  rw [scan, hskip]
  simp [harray, hobject]

theorem scan_number {c : Char} {text : List Symbol} {fuel : Nat}
    (hc : startsNumber (.char c) = true) :
    scan (fuel + 1) (.char c :: text) = scannedNumber (scanNumeral (.char c :: text)) := by
  rw [scan_scalar (isSpace_of_startsNumber hc) (ne_of_startsNumber hc rfl)
    (ne_of_startsNumber hc rfl)]
  have hquote := ne_of_startsNumber (d := '"') hc rfl
  have hnull := ne_of_startsNumber (d := 'n') hc rfl
  have htrue := ne_of_startsNumber (d := 't') hc rfl
  have hfalse := ne_of_startsNumber (d := 'f') hc rfl
  simp [scanScalar, hquote, hnull, htrue, hfalse, hc]

end Node

namespace Grammar

theorem Key.scan {text rest : List Symbol} {key : List Char} (h : Key text key rest) :
    ∃ inner more, skipSpace text = .char '"' :: inner ∧
      scanString inner = (.ok (String.ofList key), .ok more) ∧
      skipSpace more = .char ':' :: rest := by
  obtain ⟨hbefore, hkey, hafter⟩ := h
  exact ⟨_, _, hbefore.skipSpace_eq.trans (skipSpace_cons rfl _),
    scanString_eq_ok_iff.mpr ⟨_, hkey, rfl⟩, hafter.skipSpace_eq.trans (skipSpace_cons rfl _)⟩

mutual

theorem Value.scan {text rest : List Symbol} {node : Node} {fuel : Nat}
    (h : Value text node rest) (hrest : EndsNumber rest) (hfuel : 2 * text.length < fuel) :
    Node.scan fuel text = (node, .ok rest) := by
  obtain ⟨fuel, rfl⟩ : ∃ less, fuel = less + 1 := ⟨fuel - 1, by omega⟩
  match h with
  | .null | .yes | .no =>
      refine (Node.scan_scalar rfl (by decide) (by decide)).trans ?_
      simp [Node.scanScalar, Node.scannedWord, scanWord]
  | .number h =>
      have hscan := h.scan hrest
      obtain ⟨c, more, rfl, hc⟩ := h.head
      rw [List.cons_append] at hscan ⊢
      rw [Node.scan_number hc, hscan]
      rfl
  | .string h =>
      refine (Node.scan_scalar rfl (by decide) (by decide)).trans ?_
      simp [Node.scanScalar, Node.scannedString, scanString_eq_ok_iff.mpr ⟨_, h, rfl⟩]
  | .emptyArray h =>
      have hopen := skipSpace_cons (show isSpace (.char '[') = false from rfl)
      have hclose := h.skipSpace_eq.trans (skipSpace_cons rfl _)
      simp [Node.scan, hopen, hclose]
  | .emptyObject h =>
      have hopen := skipSpace_cons (show isSpace (.char '\x7b') = false from rfl)
      have hclose := h.skipSpace_eq.trans (skipSpace_cons rfl _)
      simp [Node.scan, hopen, hclose]
  | .array h =>
      obtain ⟨c, more, hhead, hc⟩ := h.head
      simp only [List.length_cons] at hfuel
      exact Node.scan_array hhead hc (h.scan (by omega))
  | .object h =>
      obtain ⟨more, hhead⟩ := h.head
      simp only [List.length_cons] at hfuel
      exact Node.scan_object hhead (h.scan (by omega))

theorem Element.scan {text rest : List Symbol} {node : Node} {fuel : Nat}
    (h : Element text node rest) (hrest : Delimited rest) (hfuel : 2 * text.length < fuel) :
    ∃ more, Node.scan fuel text = (node, .ok more) ∧ skipSpace more = rest := by
  match h with
  | .mk hbefore hvalue hafter =>
      have hlength := hbefore.length_le
      have hscan := hvalue.scan (hrest.endsNumber hafter) (Nat.lt_of_le_of_lt (by omega) hfuel)
      refine ⟨_, ?_, hafter.skipSpace_eq.trans hrest.skipSpace_eq⟩
      rw [← Node.scan_skipSpace, hbefore.skipSpace_eq, Node.scan_skipSpace, hscan]

theorem Items.scan {text rest : List Symbol} {items : List Node} {fuel : Nat}
    (h : Items text items rest) (hfuel : 2 * text.length + 1 < fuel) :
    Node.scanItems fuel text = (items, .ok rest) := by
  obtain ⟨fuel, rfl⟩ : ∃ less, fuel = less + 1 := ⟨fuel - 1, by omega⟩
  match h with
  | .last hitem =>
      obtain ⟨more, hscan, hmore⟩ := hitem.scan (by simp [Delimited]) (show _ < fuel by omega)
      simp [Node.scanItems, hscan, hmore]
  | .cons hitem hitems =>
      have hlength := hitem.length_lt
      obtain ⟨more, hscan, hmore⟩ := hitem.scan (by simp [Delimited]) (show _ < fuel by omega)
      obtain ⟨c, others, hhead, hc⟩ := hitems.head
      simp only [List.length_cons] at hlength
      have hitems := hitems.scan (show _ < fuel by omega)
      rw [← Node.scanItems_skipSpace, hhead] at hitems
      simp [Node.scanItems, hscan, hmore, hhead, hc, hitems]

theorem Members.scan {text rest : List Symbol} {members : List (Except Stop String × Node)}
    {fuel : Nat} (h : Members text members rest) (hfuel : 2 * text.length + 1 < fuel) :
    Node.scanMembers fuel text = (members, .ok rest) := by
  obtain ⟨fuel, rfl⟩ : ∃ less, fuel = less + 1 := ⟨fuel - 1, by omega⟩
  match h with
  | .last hkey hvalue =>
      have hlength := hkey.length_lt
      obtain ⟨inner, more, hopen, hname, hcolon⟩ := hkey.scan
      obtain ⟨after, hscan, hclose⟩ := hvalue.scan (by simp [Delimited]) (show _ < fuel by omega)
      simp [Node.scanMembers, hopen, hname, hcolon, hscan, hclose]
  | .cons hkey hvalue hmembers =>
      have hkeyLength := hkey.length_lt
      have hvalueLength := hvalue.length_lt
      simp only [List.length_cons] at hvalueLength
      obtain ⟨inner, more, hopen, hname, hcolon⟩ := hkey.scan
      obtain ⟨after, hscan, hcomma⟩ := hvalue.scan (by simp [Delimited]) (show _ < fuel by omega)
      have hmembers := hmembers.scan (show _ < fuel by omega)
      simp [Node.scanMembers, hopen, hname, hcolon, hscan, hcomma, hmembers]

end

end Grammar

/-! ## What the scanner finds, the grammar has -/

namespace Node

theorem itemsStop?_cons_eq_none_iff {depth : Nat} {ending : Option SyntaxFault} {item : Node}
    {items : List Node} :
    itemsStop? depth ending (item :: items) = none ↔
      item.stop? depth = none ∧ itemsStop? depth ending items = none := by
  rw [itemsStop?]
  cases item.stop? depth <;> simp

theorem membersStop?_cons_eq_none_iff {depth : Nat} {ending : Option SyntaxFault}
    {key : Except Stop String} {value : Node} {members : List (Except Stop String × Node)} :
    membersStop? depth ending ((key, value) :: members) = none ↔
      (∃ name, key = .ok name) ∧ value.stop? depth = none ∧
        membersStop? depth ending members = none := by
  cases key with
  | error stop => simp [membersStop?]
  | ok name =>
      rw [membersStop?]
      cases value.stop? depth <;> simp

theorem scannedWord_eq_ok_iff {node found : Node} {rest : List Symbol}
    {scanned : Except SyntaxFault (List Symbol)} :
    scannedWord node scanned = (found, .ok rest) ↔ scanned = .ok rest ∧ found = node := by
  cases scanned <;> simp [scannedWord, eq_comm, and_comm]

end Node

namespace Grammar

theorem Value.of_scanScalar {text rest : List Symbol} {node : Node} {depth : Nat}
    (h : Node.scanScalar text = (node, .ok rest)) (hsound : node.stop? depth = none) :
    Value text node rest := by
  rw [Node.scanScalar.eq_def] at h
  split at h
  · cases h
  next inner =>
    rcases hstring : scanString inner with ⟨text, scanned⟩
    rw [hstring, Node.scannedString] at h
    cases h
    cases text with
    | error stop => cases hsound
    | ok value =>
        obtain ⟨chars, hchars, rfl⟩ := scanString_eq_ok_iff.mp hstring
        exact .string hchars
  next text =>
    obtain ⟨hword, rfl⟩ := Node.scannedWord_eq_ok_iff.mp h
    rw [eq_append_of_scanWord hword]
    exact .null
  next text =>
    obtain ⟨hword, rfl⟩ := Node.scannedWord_eq_ok_iff.mp h
    rw [eq_append_of_scanWord hword]
    exact .yes
  next text =>
    obtain ⟨hword, rfl⟩ := Node.scannedWord_eq_ok_iff.mp h
    rw [eq_append_of_scanWord hword]
    exact .no
  next symbol text _ _ _ _ =>
    split at h
    · cases hnumeral : scanNumeral (symbol :: text) with
      | error fault =>
          rw [hnumeral] at h
          cases h
      | ok scanned =>
          rw [hnumeral] at h
          cases h
          obtain ⟨written, hnumber, htext⟩ := Number.of_scan hnumeral
          rw [htext]
          exact .number hnumber
    · cases h

theorem Key.of_scan {text inner more rest : List Symbol} {name : String}
    (hopen : skipSpace text = .char '"' :: inner) (hname : scanString inner = (.ok name, .ok more))
    (hcolon : skipSpace more = .char ':' :: rest) :
    ∃ key, Key text key rest ∧ name = String.ofList key := by
  obtain ⟨key, hkey, rfl⟩ := scanString_eq_ok_iff.mp hname
  exact ⟨key, .mk (hopen ▸ space_skipSpace text) hkey (hcolon ▸ space_skipSpace more), rfl⟩

mutual

theorem Value.of_scan : ∀ (fuel : Nat) {text rest : List Symbol} {node : Node} {depth : Nat},
    Node.scan fuel text = (node, .ok rest) → node.stop? depth = none →
      ∃ inner, Space text inner ∧ Value inner node rest
  | 0, _, _, _, _, hscan, _ => nomatch hscan
  | fuel + 1, text, rest, node, depth, hscan, hsound => by
      refine ⟨skipSpace text, space_skipSpace text, ?_⟩
      rw [Node.scan.eq_def] at hscan
      simp only at hscan
      split at hscan
      next inner htext =>
        rw [htext]
        split at hscan
        · cases hscan
        next rest hinner =>
          cases hscan
          exact .emptyArray (hinner ▸ space_skipSpace inner)
        next =>
          rw [Node.scanItems_skipSpace] at hscan
          rcases hitems : Node.scanItems fuel inner with ⟨items, scanned⟩
          rw [hitems] at hscan
          cases hscan
          cases depth with
          | zero => cases hsound
          | succ depth => exact .array (Items.of_scan fuel hitems hsound)
      next inner htext =>
        rw [htext]
        split at hscan
        · cases hscan
        next rest hinner =>
          cases hscan
          exact .emptyObject (hinner ▸ space_skipSpace inner)
        next =>
          rw [Node.scanMembers_skipSpace] at hscan
          rcases hmembers : Node.scanMembers fuel inner with ⟨members, scanned⟩
          rw [hmembers] at hscan
          cases hscan
          cases depth with
          | zero => cases hsound
          | succ depth => exact .object (Members.of_scan fuel hmembers hsound)
      · exact .of_scanScalar hscan hsound

theorem Items.of_scan : ∀ (fuel : Nat) {text rest : List Symbol} {items : List Node} {depth : Nat},
    Node.scanItems fuel text = (items, .ok rest) → Node.itemsStop? depth none items = none →
      Items text items rest
  | 0, _, _, _, _, hscan, _ => nomatch hscan
  | fuel + 1, text, rest, items, depth, hscan, hsound => by
      rw [Node.scanItems.eq_def] at hscan
      simp only at hscan
      split at hscan
      · cases hscan
      next item more hitem =>
        split at hscan
        · cases hscan
        next hclose =>
          cases hscan
          obtain ⟨inner, hbefore, hvalue⟩ :=
            Value.of_scan fuel hitem (Node.itemsStop?_cons_eq_none_iff.mp hsound).1
          exact .last (.mk hbefore hvalue (hclose ▸ space_skipSpace more))
        next afterComma hcomma =>
          split at hscan
          · cases hscan
          next =>
            rw [Node.scanItems_skipSpace] at hscan
            rcases hitems : Node.scanItems fuel afterComma with ⟨items, scanned⟩
            rw [hitems] at hscan
            cases hscan
            obtain ⟨hitemSound, hitemsSound⟩ := Node.itemsStop?_cons_eq_none_iff.mp hsound
            obtain ⟨inner, hbefore, hvalue⟩ := Value.of_scan fuel hitem hitemSound
            exact .cons (.mk hbefore hvalue (hcomma ▸ space_skipSpace more))
              (Items.of_scan fuel hitems hitemsSound)
        · cases hscan

theorem Members.of_scan : ∀ (fuel : Nat) {text rest : List Symbol}
    {members : List (Except Stop String × Node)} {depth : Nat},
    Node.scanMembers fuel text = (members, .ok rest) →
      Node.membersStop? depth none members = none → Members text members rest
  | 0, _, _, _, _, hscan, _ => nomatch hscan
  | fuel + 1, text, rest, members, depth, hscan, hsound => by
      rw [Node.scanMembers.eq_def] at hscan
      simp only at hscan
      split at hscan
      · cases hscan
      · cases hscan
      next inner hopen =>
        split at hscan
        · cases hscan
        next key more hname =>
          split at hscan
          · cases hscan
          next afterColon hcolon =>
            split at hscan
            · cases hscan
            next value after hvalue =>
              split at hscan
              · cases hscan
              next hclose =>
                cases hscan
                obtain ⟨⟨name, rfl⟩, hvalueSound, -⟩ :=
                  Node.membersStop?_cons_eq_none_iff.mp hsound
                obtain ⟨chars, hkey, rfl⟩ := Key.of_scan hopen hname hcolon
                obtain ⟨inner, hbefore, hvalue⟩ := Value.of_scan fuel hvalue hvalueSound
                exact .last hkey (.mk hbefore hvalue (hclose ▸ space_skipSpace after))
              next afterComma hcomma =>
                rcases hmembers : Node.scanMembers fuel afterComma with ⟨members, scanned⟩
                rw [hmembers] at hscan
                cases hscan
                obtain ⟨⟨name, rfl⟩, hvalueSound, hmembersSound⟩ :=
                  Node.membersStop?_cons_eq_none_iff.mp hsound
                obtain ⟨chars, hkey, rfl⟩ := Key.of_scan hopen hname hcolon
                obtain ⟨inner, hbefore, hvalue⟩ := Value.of_scan fuel hvalue hvalueSound
                exact .cons hkey (.mk hbefore hvalue (hcomma ▸ space_skipSpace after))
                  (Members.of_scan fuel hmembers hmembersSound)
              · cases hscan
          · cases hscan
      · cases hscan

end

end Grammar

/-! ## Documents -/

theorem Spells.document_eq {text : String} {node : Node} (h : Spells text node) :
    Document.ofText text = ⟨node, none⟩ := by
  obtain ⟨more, hscan, hmore⟩ :=
    Grammar.Element.scan h nofun (show _ < 2 * (Symbol.ofText text).length + 2 by omega)
  simp [Document.ofText, Document.ofSymbols, hscan, Document.endingAfter, hmore]

theorem Spells.document_encode_eq {text : String} {node : Node} (h : Spells text node) :
    Document.ofBytes (Utf8.encode text) = ⟨node, none⟩ := by
  rw [Document.ofBytes, Symbol.ofBytes_encode]
  exact h.document_eq

theorem Document.read_of_ending_none {α : Type} (node : Node) (read : Reader α) :
    Document.read ⟨node, none⟩ read = read nestingLimit node := by
  rw [Document.read]
  cases read nestingLimit node <;> rfl

/-- Of a text that is JSON, a reader makes what it makes of the node that the text spells. -/
theorem Spells.run_eq {α : Type} {text : String} {node : Node} (h : Spells text node)
    (read : Reader α) : read.run text = read nestingLimit node := by
  rw [Reader.run, h.document_eq, Document.read_of_ending_none]

/-- A text spells one node at most. -/
theorem Spells.unique {text : String} {node other : Node} (h : Spells text node)
    (hother : Spells text other) : node = other := by
  have heq := h.document_eq.symm.trans hother.document_eq
  exact congrArg Document.root heq

/-- **A text that is read to its end without a fault is JSON.** -/
theorem Spells.of_document {text : String} {depth : Nat}
    (hsound : (Document.ofText text).root.stop? depth = none)
    (hending : (Document.ofText text).ending = none) :
    Spells text (Document.ofText text).root := by
  rw [Document.ofText, Document.ofSymbols] at hsound hending ⊢
  rcases hscan : Node.scan (2 * (Symbol.ofText text).length + 2) (Symbol.ofText text) with
    ⟨node, scanned⟩
  rw [hscan] at hsound hending
  cases scanned with
  | error fault => cases hending
  | ok rest =>
      obtain ⟨inner, hbefore, hvalue⟩ := Grammar.Value.of_scan _ hscan hsound
      have hafter : skipSpace rest = [] := by
        simpa [Document.endingAfter] using hending
      exact .mk hbefore hvalue (hafter ▸ Grammar.space_skipSpace rest)

/-- A reader that only takes nodes without a fault reads only JSON. -/
theorem Spells.of_run_ok {α : Type} {read : Reader α}
    (hread : ∀ {depth : Nat} {node : Node} {result : α},
      read depth node = .ok result → node.stop? depth = none)
    {text : String} {result : α} (h : read.run text = .ok result) :
    Spells text (Document.ofText text).root := by
  rw [Reader.run, Document.read] at h
  split at h
  next hresult =>
    refine .of_document (hread hresult) ?_
    cases hending : (Document.ofText text).ending with
    | none => rfl
    | some fault =>
        rw [hending] at h
        cases h
  · cases h

end FormLetter.Json
