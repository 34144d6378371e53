import FormLetter.Proofs.Json.Fields
import FormLetter.Proofs.Token

/-!
# Accepted tokens

Every check stands in the way of every token, so an accepted one is made as a signed one is: of a
header that names the one algorithm, of claims in an object, and of the one signature that the
secret gives to both. Only the last check looks at the time, and time only ever turns it against a
token.

The registered claims are read apart from the others, and from a list they would be read in another
order, an identifier in the place of the time of expiry. No list is accepted all the same, since the
text that it has to end with stands where the audience is looked for.
-/

namespace FormLetter.Token

open Json (Node Reader Field Record Stop ValuesUnder Document)

/-! ## The header -/

theorem Key.readsToEnd_reader : Key.reader.ReadsToEnd := by
  intro depth node result h
  unfold reader at h
  split at h
  next => cases h
  next hsound => exact Node.ending?_of_stop?_eq_none hsound
  next hsound => exact Node.ending?_of_stop?_eq_none hsound

namespace Header

/-- What names an algorithm in a header: a member with that key, or the second item of a list. -/
inductive Names (algorithm : String) : Node → Prop where
  | member {members : List (Except Stop String × Node)} {value : Node}
      (hmember : (.ok "alg", value) ∈ members) (hspells : value.SpellsLabel algorithm)
      (ending : Option Json.SyntaxFault) : Names algorithm (.object members ending)
  | item {value : Node} (hspells : value.SpellsLabel algorithm) (first : Node)
      (items : List Node) (ending : Option Json.SyntaxFault) :
      Names algorithm (.array (first :: value :: items) ending)

theorem readsToEnd_texts : texts.ReadsToEnd := by
  intro depth node result h
  unfold texts at h
  split at h
  next => cases h
  next hsound => exact Node.ending?_of_stop?_eq_none hsound

theorem readsToEnd_fields : ∀ field ∈ record.fields, Reader.ReadsToEnd field.read := by
  have hspare {α : Type} {name : String} {read : Reader α} (h : read.ReadsToEnd) :
      Reader.ReadsToEnd (spareField name read).read := Field.readsToEnd_of h.optional
  have htext (name : String) : Reader.ReadsToEnd (spareField name Reader.string).read :=
    hspare Reader.readsToEnd_string
  simp only [record, List.forall_mem_cons]
  exact ⟨htext _, Field.readsToEnd_of (Reader.readsToEnd_label _), htext _, htext _,
    hspare Key.readsToEnd_reader, htext _, htext _, hspare readsToEnd_texts, htext _, htext _,
    List.forall_mem_nil _⟩

theorem shownBy_algorithm : ∀ field ∈ record.fields,
    field.ShownBy (.alone "alg" false (.label algorithms)) id := by
  have hspare {α : Type} {name : String} (read : Reader α) (h : name ≠ "alg") :
      (spareField name read).ShownBy (.alone "alg" false (.label algorithms)) id :=
    .of_ne h fun _ _ => rfl
  simp only [record, List.forall_mem_cons]
  refine ⟨hspare _ ?_, .of_same fun _ _ => rfl, hspare _ ?_, hspare _ ?_, hspare _ ?_, hspare _ ?_,
    hspare _ ?_, hspare _ ?_, hspare _ ?_, hspare _ ?_, List.forall_mem_nil _⟩
  all_goals decide

theorem finish_eq_ok_iff {gathered : Option String} {algorithm : String} :
    record.finish gathered = .ok algorithm ↔ gathered = some algorithm := by
  cases gathered <;> simp [record]

/-- A header that can be read names one algorithm. -/
theorem names_iff_of_read {depth : Nat} {header : Node} {algorithm : String}
    (h : record.read (depth + 1) header = .ok algorithm) (name : String) :
    Names name header ↔ name = algorithm := by
  cases header with
  | object members ending =>
      obtain ⟨gathered, hgather, hfinish⟩ := Record.read_object_eq_ok_iff.mp h
      have hends := Record.ending?_of_gatherMembers readsToEnd_fields hgather
      obtain ⟨value, hvalue, hread⟩ := Record.exists_value_of_gatherMembers shownBy_algorithm
        ⟨_, List.mem_cons_of_mem _ List.mem_cons_self, rfl⟩ hends hgather rfl
        (finish_eq_ok_iff.mp hfinish)
      have hspells := Reader.spellsLabel_of_label hread
      constructor
      · rintro (⟨hmember, hother, -⟩ | _)
        rw [← hvalue.mem_iff, List.mem_singleton] at hmember
        subst hmember
        exact hother.unique hspells
      · rintro rfl
        exact .member (hvalue.mem_iff.mp List.mem_cons_self) hspells ending
  | array items ending =>
      obtain ⟨gathered, hgather, hfinish⟩ := Record.read_array_eq_ok_iff.mp h
      obtain ⟨first, more, _, rfl, -, hgather⟩ := (Record.gatherItems_kept_eq_ok_iff rfl).mp hgather
      obtain ⟨value, others, _, rfl, hread, hgather⟩ :=
        (Record.gatherItems_kept_eq_ok_iff rfl).mp hgather
      obtain ⟨given, hgiven, rfl⟩ := Field.of_read_eq_ok_iff.mp hread
      have hspells := Reader.spellsLabel_of_label hgiven
      have hlater := Record.view_of_gatherItems
        (fun field hfield => shownBy_algorithm field
          (List.mem_cons_of_mem _ (List.mem_cons_of_mem _ hfield)))
        (by simp [spareField, Field.of, Field.alone]) hgather
      have hsame : algorithm = given := by
        rw [finish_eq_ok_iff.mp hfinish] at hlater
        exact Option.some.inj hlater
      subst hsame
      constructor
      · rintro (_ | ⟨hother, -⟩)
        exact hother.unique hspells
      · rintro rfl
        exact .item hspells first others ending
  | null | bool | number | string | broken =>
      simp only [Record.read] at h
      exact absurd h Node.refuse_ne_ok

end Header

/-! ## The claims -/

/-- The one value under the name is a number that spells the integer. -/
def TellsInteger (name : String) (members : List (Except Stop String × Node)) (value : Int) :
    Prop :=
  ∃ numeral, ValuesUnder name members [.number numeral] ∧
    numeral.number? = some (.integer value)

def TellsText (name : String) (members : List (Except Stop String × Node)) (text : String) : Prop :=
  ValuesUnder name members [.string (.ok text)]

namespace Claims

/-- Every claim stands among the members, once and under its name. -/
structure ToldBy (members : List (Except Stop String × Node)) (claims : Claims) : Prop where
  sub : TellsInteger "sub" members claims.sub.toInt
  username : TellsText "username" members claims.username
  exp : TellsInteger "exp" members claims.exp.toInt
  iat : TellsInteger "iat" members claims.iat.toInt
  jti : TellsText "jti" members claims.jti

theorem readsToEnd_fields : ∀ field ∈ record.fields, Reader.ReadsToEnd field.read := by
  have hinteger {name : String} {set : Int64 → Draft → Draft} :
      Reader.ReadsToEnd (Field.of name false .int64 set).read :=
    Field.readsToEnd_of Reader.readsToEnd_int64
  have htext {name : String} {set : String → Draft → Draft} :
      Reader.ReadsToEnd (Field.of name false .string set).read :=
    Field.readsToEnd_of Reader.readsToEnd_string
  simp only [record, List.forall_mem_cons]
  exact ⟨hinteger, htext, hinteger, hinteger, htext, List.forall_mem_nil _⟩

theorem finish_eq_ok_iff {draft : Draft} {claims : Claims} :
    record.finish draft = .ok claims ↔
      draft = ⟨some claims.sub, some claims.username, some claims.exp, some claims.iat,
        some claims.jti⟩ := by
  obtain ⟨sub, username, exp, iat, jti⟩ := draft
  cases claims
  cases sub <;> cases username <;> cases exp <;> cases iat <;> cases jti <;>
    simp [record, Draft.finish]

theorem shownBy_fields :
    (∀ field ∈ record.fields, field.ShownBy (.alone "sub" false .int64) Draft.sub) ∧
    (∀ field ∈ record.fields, field.ShownBy (.alone "username" false .string) Draft.username) ∧
    (∀ field ∈ record.fields, field.ShownBy (.alone "exp" false .int64) Draft.exp) ∧
    (∀ field ∈ record.fields, field.ShownBy (.alone "iat" false .int64) Draft.iat) ∧
    ∀ field ∈ record.fields, field.ShownBy (.alone "jti" false .string) Draft.jti := by
  simp only [record, List.forall_mem_cons]
  have hnone {p : Json.Field Draft → Prop} : ∀ field ∈ [], p field := List.forall_mem_nil _
  refine ⟨⟨.of_same ?_, .of_ne ?_ ?_, .of_ne ?_ ?_, .of_ne ?_ ?_, .of_ne ?_ ?_, hnone⟩,
    ⟨.of_ne ?_ ?_, .of_same ?_, .of_ne ?_ ?_, .of_ne ?_ ?_, .of_ne ?_ ?_, hnone⟩,
    ⟨.of_ne ?_ ?_, .of_ne ?_ ?_, .of_same ?_, .of_ne ?_ ?_, .of_ne ?_ ?_, hnone⟩,
    ⟨.of_ne ?_ ?_, .of_ne ?_ ?_, .of_ne ?_ ?_, .of_same ?_, .of_ne ?_ ?_, hnone⟩,
    .of_ne ?_ ?_, .of_ne ?_ ?_, .of_ne ?_ ?_, .of_ne ?_ ?_, .of_same ?_, hnone⟩
  all_goals simp [Field.alone, Field.of]

section Members

variable {depth : Nat} {members : List (Except Stop String × Node)}
  {ending : Option Json.SyntaxFault} {claims : Claims}

theorem tellsInteger_of_node {name : String} {value : Int64}
    (h : ∃ node, ValuesUnder name members [node] ∧ Reader.int64 depth node = .ok value) :
    TellsInteger name members value.toInt := by
  obtain ⟨node, hnode, hread⟩ := h
  obtain ⟨numeral, rfl, hnumber⟩ := Reader.int64_eq_ok_iff.mp hread
  exact ⟨numeral, hnode, hnumber⟩

theorem tellsText_of_node {name text : String}
    (h : ∃ node, ValuesUnder name members [node] ∧ Reader.string depth node = .ok text) :
    TellsText name members text := by
  obtain ⟨node, hnode, hread⟩ := h
  rw [Reader.string_eq_ok_iff.mp hread] at hnode
  exact hnode

theorem exists_field_of_mem {name : String}
    (h : name ∈ ["sub", "username", "exp", "iat", "jti"]) :
    ∃ field ∈ record.fields, field.name = name := by
  simpa [record, Field.of, eq_comm] using h

theorem toldBy_of_read (h : record.read (depth + 1) (.object members ending) = .ok claims) :
    claims.ToldBy members ∧ ∀ member ∈ members, member.2.ending? = none := by
  obtain ⟨draft, hgather, hfinish⟩ := Record.read_object_eq_ok_iff.mp h
  have hends := Record.ending?_of_gatherMembers readsToEnd_fields hgather
  have hnode {α : Type} {name : String} {read : Reader α} {view : Draft → Option α} {value : α}
      (hshown : ∀ field ∈ record.fields, field.ShownBy (.alone name false read) view)
      (hname : name ∈ ["sub", "username", "exp", "iat", "jti"]) (hstart : view record.start = none)
      (hvalue : view draft = some value) :
      ∃ node, ValuesUnder name members [node] ∧ read depth node = .ok value :=
    Record.exists_value_of_gatherMembers hshown (exists_field_of_mem hname) hends hgather hstart
      hvalue
  obtain ⟨hsub, husername, hexp, hiat, hjti⟩ := shownBy_fields
  obtain rfl := finish_eq_ok_iff.mp hfinish
  exact
    ⟨{ sub := tellsInteger_of_node (hnode hsub (by decide) rfl rfl)
       username := tellsText_of_node (hnode husername (by decide) rfl rfl)
       exp := tellsInteger_of_node (hnode hexp (by decide) rfl rfl)
       iat := tellsInteger_of_node (hnode hiat (by decide) rfl rfl)
       jti := tellsText_of_node (hnode hjti (by decide) rfl rfl) }, hends⟩

/-- Claims in a list end with a text. -/
theorem exists_items_of_read {items : List Node}
    (h : record.read (depth + 1) (.array items ending) = .ok claims) :
    ∃ first second third fourth text,
      items = [first, second, third, fourth, .string (.ok text)] := by
  obtain ⟨draft, hgather, -⟩ := Record.read_array_eq_ok_iff.mp h
  obtain ⟨first, _, _, rfl, -, hgather⟩ := (Record.gatherItems_kept_eq_ok_iff rfl).mp hgather
  obtain ⟨second, _, _, rfl, -, hgather⟩ := (Record.gatherItems_kept_eq_ok_iff rfl).mp hgather
  obtain ⟨third, _, _, rfl, -, hgather⟩ := (Record.gatherItems_kept_eq_ok_iff rfl).mp hgather
  obtain ⟨fourth, _, _, rfl, -, hgather⟩ := (Record.gatherItems_kept_eq_ok_iff rfl).mp hgather
  obtain ⟨fifth, _, _, rfl, hread, hgather⟩ := (Record.gatherItems_kept_eq_ok_iff rfl).mp hgather
  obtain ⟨text, htext, -⟩ := Field.of_read_eq_ok_iff.mp hread
  obtain ⟨rfl, -, -⟩ := Record.gatherItems_nil_eq_ok_iff.mp hgather
  exact ⟨first, second, third, fourth, text, by rw [Reader.string_eq_ok_iff.mp htext]⟩

end Members

end Claims

/-! ## The registered claims -/

namespace Registered

theorem check_eq_ok_iff {now : Int64} {claims : Registered} :
    claims.check now = .ok () ↔
      ∃ expires : Nat, claims.expires = some expires ∧ now.toInt - leeway ≤ expires ∧
        claims.hasAudience = false := by
  rw [check]
  cases claims.expires with
  | none => simp
  | some expires =>
      simp only [Option.some.injEq, exists_eq_left']
      by_cases hexpired : (expires : Int) < now.toInt - leeway
      · rw [if_pos hexpired]
        exact iff_of_false (by simp) fun h => absurd h.1 (Int.not_le.mpr hexpired)
      · rw [if_neg hexpired]
        have hcurrent := Int.not_lt.mp hexpired
        cases claims.hasAudience with
        | false => exact iff_of_true rfl ⟨hcurrent, rfl⟩
        | true => exact iff_of_false (by simp) fun h => absurd h.2 (by decide)

theorem check_eq_expired_iff {now : Int64} {claims : Registered} :
    claims.check now = .error .expired ↔
      ∃ expires : Nat, claims.expires = some expires ∧ (expires : Int) < now.toInt - leeway := by
  rw [check]
  cases claims.expires with
  | none => simp
  | some expires =>
      simp only [Option.some.injEq, exists_eq_left']
      by_cases hexpired : (expires : Int) < now.toInt - leeway
      · rw [if_pos hexpired]
        exact iff_of_true rfl hexpired
      · rw [if_neg hexpired]
        cases claims.hasAudience with
        | false | true => exact iff_of_false (by simp) hexpired

/-- Of a list, the last item counts as the audience. -/
theorem hasAudience_of_read_items {depth : Nat} {first second third fourth : Node} {text : String}
    {ending : Option Json.SyntaxFault} {claims : Registered}
    (h : record.read (depth + 1)
      (.array [first, second, third, fourth, .string (.ok text)] ending) = .ok claims) :
    claims.hasAudience = true := by
  obtain ⟨gathered, hgather, hfinish⟩ := Record.read_array_eq_ok_iff.mp h
  cases hfinish
  obtain ⟨_, -, hgather⟩ := Record.gatherItems_cons_eq_ok_iff.mp hgather
  obtain ⟨_, -, hgather⟩ := Record.gatherItems_cons_eq_ok_iff.mp hgather
  obtain ⟨_, -, hgather⟩ := Record.gatherItems_cons_eq_ok_iff.mp hgather
  obtain ⟨_, -, hgather⟩ := Record.gatherItems_cons_eq_ok_iff.mp hgather
  obtain ⟨_, hread, hgather⟩ := Record.gatherItems_cons_eq_ok_iff.mp hgather
  obtain ⟨named, hnamed, rfl⟩ := Field.of_read_eq_ok_iff.mp hread
  obtain ⟨-, -, rfl⟩ := Record.gatherItems_nil_eq_ok_iff.mp hgather
  cases hnamed
  rfl

theorem time_number {depth : Nat} {numeral : Json.Numeral} {value : Int}
    (h : numeral.number? = some (.integer value)) :
    time depth (.number numeral) = .ok (if 0 ≤ value then some value.toNat else none) := by
  simp [time, Node.stop?, seconds?, h]

theorem shownBy_expires : ∀ field ∈ record.fields,
    field.ShownBy (.of "exp" true time fun expires _ => expires) Registered.expires := by
  simp only [record, List.forall_mem_cons]
  refine ⟨.of_same ?_, .of_ne ?_ ?_, .of_ne ?_ ?_, .of_ne ?_ ?_, .of_ne ?_ ?_,
    List.forall_mem_nil _⟩
  all_goals simp [Field.of]

theorem expires_of_read {depth : Nat} {members : List (Except Stop String × Node)}
    {ending : Option Json.SyntaxFault} {claims : Registered} {value : Int}
    (hends : ∀ member ∈ members, member.2.ending? = none)
    (hexp : TellsInteger "exp" members value)
    (h : record.read (depth + 1) (.object members ending) = .ok claims) :
    claims.expires = if 0 ≤ value then some value.toNat else none := by
  obtain ⟨gathered, hgather, hfinish⟩ := Record.read_object_eq_ok_iff.mp h
  cases hfinish
  have halone := Record.gatherMembers_alone shownBy_expires
    ⟨_, List.mem_cons_self, rfl⟩ hends id hgather
  obtain ⟨-, values, hvalues, hputs⟩ := Record.gatherMembers_eq_ok_iff.mp halone
  obtain ⟨numeral, hnumeral, hnumber⟩ := hexp
  rw [hvalues.unique hnumeral] at hputs
  generalize hview : claims.expires = expires at hputs
  cases hputs with
  | once hread =>
      obtain ⟨given, hgiven, rfl⟩ := Field.of_read_eq_ok_iff.mp hread
      rw [time_number hnumber] at hgiven
      cases hgiven
      rfl

end Registered

/-! ## Tokens -/

/-- Three parts with dots between them. -/
def ofParts (header claims signature : List Char) : String :=
  String.ofList (header ++ '.' :: claims ++ '.' :: signature)

theorem decodePart_eq_ok_iff {part : List Char} {bytes : List UInt8} :
    decodePart part = .ok bytes ↔ part = Base64.encode .urlSafe bytes := by
  constructor
  · intro h
    unfold decodePart at h
    split at h
    next => cases h
    next hdecode =>
      cases h
      exact Base64.eq_encode_of_decode? hdecode
  · rintro rfl
    rw [decodePart, Base64.decode?_encode Base64.Alphabet.readable_urlSafe]

theorem readPart_eq_ok_iff {α : Type} {read : Reader α} {bytes : List UInt8} {result : α} :
    readPart read bytes = .ok result ↔
      (Document.ofBytes bytes).ending = none ∧
        read Json.nestingLimit (Document.ofBytes bytes).root = .ok result := by
  rw [← Document.read_eq_ok_iff, readPart]
  cases (Document.ofBytes bytes).read read <;> simp

/-- A token whose signature is right for the secret, with what is read in it. Time has no say in
this. -/
inductive Opens (secret : String) : String → Claims → Registered → Prop where
  | mk {header payload : List UInt8} {claims : Claims} {registered : Registered}
      (hheader : readPart Header.record.read header = .ok "HS256")
      (hclaims : readPart Claims.record.read payload = .ok claims)
      (hregistered : readPart Registered.record.read payload = .ok registered) :
      Opens secret
        (ofParts (Base64.encode .urlSafe header) (Base64.encode .urlSafe payload)
          (signature secret
            (Base64.encode .urlSafe header ++ '.' :: Base64.encode .urlSafe payload)))
        claims registered

/-- A signed token is opened by its secret, and tells its claims. -/
theorem opens_sign (secret : String) (claims : Claims) :
    Opens secret (sign secret claims) claims
      ⟨if 0 ≤ claims.exp.toInt then some claims.exp.toInt.toNat else none, false⟩ :=
  .mk readPart_header (readPart_encode claims.prints.spells claims.read_node)
    (readPart_encode claims.prints.spells (Registered.read_node claims))

/-- The reasons to refuse a token that are found before its times are looked at. -/
inductive Refusal.IsEarly : Refusal → Prop where
  | notThreeParts : IsEarly .notThreeParts
  | notBase64 : IsEarly .notBase64
  | notJson : IsEarly .notJson
  | wrongAlgorithm : IsEarly .wrongAlgorithm
  | wrongSignature : IsEarly .wrongSignature

def EndsEarly {α : Type} (result : Except Refusal α) : Prop :=
  ∃ refusal, result = .error refusal ∧ refusal.IsEarly

theorem Refusal.IsEarly.endsEarly {α : Type} {refusal : Refusal} (h : refusal.IsEarly) :
    EndsEarly (.error refusal : Except Refusal α) :=
  ⟨refusal, rfl, h⟩

/-- What holds if all steps are taken holds, or one of the steps is an early end. -/
theorem or_endsEarly_bind {α β : Type} {P : Prop} {step : Except Refusal α}
    {rest : α → Except Refusal β} (hstep : ∀ refusal, step = .error refusal → refusal.IsEarly)
    (hrest : ∀ a, step = .ok a → P ∨ EndsEarly (rest a)) : P ∨ EndsEarly (step >>= rest) := by
  cases step with
  | ok a => exact hrest a rfl
  | error refusal => exact .inr (hstep refusal rfl).endsEarly

theorem isEarly_of_decodePart {part : List Char} {refusal : Refusal}
    (h : decodePart part = .error refusal) : refusal.IsEarly := by
  unfold decodePart at h
  split at h
  next =>
    cases h
    exact .notBase64
  next => cases h

theorem isEarly_of_readPart {α : Type} {read : Reader α} {bytes : List UInt8} {refusal : Refusal}
    (h : readPart read bytes = .error refusal) : refusal.IsEarly := by
  unfold readPart at h
  split at h
  next => cases h
  next =>
    cases h
    exact .notJson

section Validation

variable {secret token : String} {now : Int64} {claims : Claims} {registered : Registered}

theorem Opens.validate_eq (h : Opens secret token claims registered) (now : Int64) :
    validate secret now token = (registered.check now).map fun _ => claims := by
  obtain @⟨header, payload, _, _, hheader, hclaims, hregistered⟩ := h
  have hinner : splitAtLast? '.'
      (Base64.encode .urlSafe header ++ '.' :: Base64.encode .urlSafe payload) =
        some (Base64.encode .urlSafe header, Base64.encode .urlSafe payload) :=
    splitAtLast?_append (dot_not_mem_encode _)
  have hdecode (bytes : List UInt8) : decodePart (Base64.encode .urlSafe bytes) = .ok bytes :=
    decodePart_eq_ok_iff.mpr rfl
  rw [ofParts]
  generalize Base64.encode .urlSafe header ++ '.' :: Base64.encode .urlSafe payload = signed
    at hinner ⊢
  have houter : splitAtLast? '.' (signed ++ '.' :: signature secret signed) =
      some (signed, signature secret signed) := splitAtLast?_append (dot_not_mem_encode _)
  simp only [validate, String.toList_ofList, houter, hinner, hdecode, hheader, hclaims, hregistered,
    bind, Except.bind, bne_self_eq_false, Bool.false_eq_true, if_false]
  cases registered.check now <;> rfl

theorem Registered.check_of_expires (now : Int64) (expires : Int) :
    check now ⟨if 0 ≤ expires then some expires.toNat else none, false⟩ =
      if expires < 0 then .error .noExpiry
      else if expires < now.toInt - leeway then .error .expired
      else .ok () := by
  rw [check]
  by_cases h : 0 ≤ expires
  · rw [if_pos h, if_neg (Int.not_lt.mpr h)]
    simp [Int.toNat_of_nonneg h]
  · rw [if_neg h, if_pos (Int.not_le.mp h)]

/-- **A signed token tells its claims** to whoever knows the secret, unless their time of expiry
cannot be read or has passed. -/
theorem validate_sign (secret : String) (now : Int64) (claims : Claims) :
    validate secret now (sign secret claims) =
      if claims.exp.toInt < 0 then .error .noExpiry
      else if claims.exp.toInt < now.toInt - leeway then .error .expired
      else .ok claims := by
  rw [(opens_sign secret claims).validate_eq, Registered.check_of_expires]
  split
  next => rfl
  next => split <;> rfl

theorem opens_or_early (secret token : String) (now : Int64) :
    (∃ claims registered, Opens secret token claims registered) ∨
      EndsEarly (validate secret now token) := by
  unfold validate
  split
  rotate_left
  next => exact .inr Refusal.IsEarly.notThreeParts.endsEarly
  next signed signatureText houter =>
  split
  rotate_left
  next => exact .inr Refusal.IsEarly.notThreeParts.endsEarly
  next headerText claimsText hinner =>
  refine or_endsEarly_bind (fun _ => isEarly_of_decodePart) fun header hheaderText => ?_
  refine or_endsEarly_bind (fun _ => isEarly_of_readPart) fun algorithm hheader => ?_
  split
  next => exact .inr Refusal.IsEarly.wrongAlgorithm.endsEarly
  next halgorithm =>
  split
  next => exact .inr Refusal.IsEarly.wrongSignature.endsEarly
  next hsignature =>
  refine or_endsEarly_bind (fun _ => isEarly_of_decodePart) fun payload hclaimsText => ?_
  refine or_endsEarly_bind (fun _ => isEarly_of_readPart) fun claims hclaims => ?_
  refine or_endsEarly_bind (fun _ => isEarly_of_readPart) fun registered hregistered => ?_
  -- All steps are taken, so each part is what is written for the bytes that were read in it.
  refine .inl ⟨claims, registered, ?_⟩
  obtain ⟨htoken, -⟩ := splitAtLast?_eq_some_iff.mp houter
  obtain ⟨rfl, -⟩ := splitAtLast?_eq_some_iff.mp hinner
  obtain rfl := decodePart_eq_ok_iff.mp hheaderText
  obtain rfl := decodePart_eq_ok_iff.mp hclaimsText
  rw [Bool.not_eq_true, bne_eq_false_iff_eq] at halgorithm hsignature
  subst halgorithm hsignature
  have hopens := @Opens.mk secret _ _ _ _ hheader hclaims hregistered
  rw [ofParts, ← htoken, String.ofList_toList] at hopens
  exact hopens

theorem validate_eq_iff {outcome : Except Refusal Claims} (hlate : ¬EndsEarly outcome) :
    validate secret now token = outcome ↔
      ∃ claims registered, Opens secret token claims registered ∧
        (registered.check now).map (fun _ => claims) = outcome := by
  constructor
  · rintro rfl
    obtain ⟨claims, registered, hopens⟩ := (opens_or_early secret token now).resolve_right hlate
    exact ⟨claims, registered, hopens, (hopens.validate_eq now).symm⟩
  · rintro ⟨claims, registered, hopens, houtcome⟩
    exact (hopens.validate_eq now).trans houtcome

theorem validate_eq_ok_iff :
    validate secret now token = .ok claims ↔
      ∃ registered, Opens secret token claims registered ∧ registered.check now = .ok () := by
  have hlate : ¬EndsEarly (.ok claims : Except Refusal Claims) := by
    rintro ⟨_, herror, -⟩
    cases herror
  rw [validate_eq_iff hlate]
  constructor
  · rintro ⟨_, registered, hopens, houtcome⟩
    obtain ⟨_, hcheck, rfl⟩ := except_map_eq_ok_iff.mp houtcome
    exact ⟨registered, hopens, hcheck⟩
  · rintro ⟨registered, hopens, hcheck⟩
    exact ⟨claims, registered, hopens, except_map_eq_ok_iff.mpr ⟨(), hcheck, rfl⟩⟩

theorem validate_eq_expired_iff :
    validate secret now token = .error .expired ↔
      ∃ claims registered, Opens secret token claims registered ∧
        registered.check now = .error .expired := by
  have hlate : ¬EndsEarly (.error .expired : Except Refusal Claims) := by
    rintro ⟨_, herror, hearly⟩
    cases herror
    cases hearly
  rw [validate_eq_iff hlate]
  simp only [except_map_eq_error_iff]

theorem validate_earlier {earlier : Int64} (hle : earlier ≤ now)
    (h : validate secret now token = .ok claims) : validate secret earlier token = .ok claims := by
  rw [Int64.le_iff_toInt_le] at hle
  obtain ⟨registered, hopens, hcheck⟩ := validate_eq_ok_iff.mp h
  obtain ⟨expires, hexpires, hcurrent, haudience⟩ := Registered.check_eq_ok_iff.mp hcheck
  refine validate_eq_ok_iff.mpr ⟨registered, hopens, Registered.check_eq_ok_iff.mpr ?_⟩
  exact ⟨expires, hexpires, by omega, haudience⟩

theorem validate_later {later : Int64} (hle : now ≤ later)
    (h : validate secret now token = .error .expired) :
    validate secret later token = .error .expired := by
  rw [Int64.le_iff_toInt_le] at hle
  obtain ⟨claims, registered, hopens, hcheck⟩ := validate_eq_expired_iff.mp h
  obtain ⟨expires, hexpires, hpassed⟩ := Registered.check_eq_expired_iff.mp hcheck
  refine validate_eq_expired_iff.mpr ⟨claims, registered, hopens, ?_⟩
  exact Registered.check_eq_expired_iff.mpr ⟨expires, hexpires, by omega⟩

end Validation

/-! ## What an accepted token is made of -/

/-- A token whose header is JSON and names the one algorithm, whose claims are an object in JSON
that tells each of them once and has not expired, and that ends with the keyed digest of both. -/
inductive Genuine (secret : String) (now : Int64) : String → Claims → Prop where
  | mk {header payload : List UInt8} {headerNode : Node}
      {members : List (Except Stop String × Node)} {claims : Claims}
      (hheader : Document.ofBytes header = ⟨headerNode, none⟩)
      (halgorithm : ∀ name, Header.Names name headerNode ↔ name = "HS256")
      (hpayload : Document.ofBytes payload = ⟨.object members none, none⟩)
      (hclaims : claims.ToldBy members) (hreadable : 0 ≤ claims.exp.toInt)
      (hcurrent : now.toInt - 60 ≤ claims.exp.toInt) :
      Genuine secret now
        (ofParts (Base64.encode .urlSafe header) (Base64.encode .urlSafe payload)
          (Base64.encode .urlSafe (Sha256.hmac (Utf8.encode secret) (Utf8.encode (String.ofList
            (Base64.encode .urlSafe header ++ '.' :: Base64.encode .urlSafe payload)))))) claims

section Acceptance

variable {secret token : String} {now : Int64} {claims : Claims} {registered : Registered}

theorem exists_members_of_check {depth : Nat} {payload : Node}
    (hclaims : Claims.record.read (depth + 1) payload = .ok claims)
    (hregistered : Registered.record.read (depth + 1) payload = .ok registered)
    (hcheck : registered.check now = .ok ()) :
    ∃ members, payload = .object members none ∧ claims.ToldBy members ∧ 0 ≤ claims.exp.toInt ∧
      now.toInt - 60 ≤ claims.exp.toInt := by
  obtain ⟨expires, hexpires, hcurrent, haudience⟩ := Registered.check_eq_ok_iff.mp hcheck
  cases payload with
  | object members ending =>
      obtain ⟨htold, hends⟩ := Claims.toldBy_of_read hclaims
      have hending : ending = none := by
        obtain ⟨_, hgather, -⟩ := Record.read_object_eq_ok_iff.mp hclaims
        have halone := Record.gatherMembers_alone Claims.shownBy_fields.1
          ⟨_, List.mem_cons_self, rfl⟩ hends id hgather
        exact (Record.gatherMembers_eq_ok_iff.mp halone).1
      have hexpiry := Registered.expires_of_read hends htold.exp hregistered
      rw [hexpires] at hexpiry
      split at hexpiry
      next hreadable =>
        have hvalue := Option.some.inj hexpiry
        rw [leeway] at hcurrent
        exact ⟨members, by rw [hending], htold, hreadable, by omega⟩
      next => cases hexpiry
  | array items ending =>
      -- The identifier of the token stands where the audience is looked for.
      obtain ⟨first, second, third, fourth, text, rfl⟩ := Claims.exists_items_of_read hclaims
      rw [Registered.hasAudience_of_read_items hregistered] at haudience
      cases haudience
  | null | bool | number | string | broken =>
      simp only [Record.read] at hclaims
      exact absurd hclaims Node.refuse_ne_ok

theorem genuine_of_validate (h : validate secret now token = .ok claims) :
    Genuine secret now token claims := by
  obtain ⟨registered, hopens, hcheck⟩ := validate_eq_ok_iff.mp h
  obtain @⟨header, payload, _, _, hheader, hclaims, hregistered⟩ := hopens
  obtain ⟨hheaderEnding, halgorithm⟩ := readPart_eq_ok_iff.mp hheader
  obtain ⟨hpayloadEnding, hclaims⟩ := readPart_eq_ok_iff.mp hclaims
  obtain ⟨-, hregistered⟩ := readPart_eq_ok_iff.mp hregistered
  obtain ⟨members, hmembers, htold, hreadable, hcurrent⟩ :=
    exists_members_of_check hclaims hregistered hcheck
  have hdocument {document : Document} {node : Node} (hroot : document.root = node)
      (hending : document.ending = none) : document = ⟨node, none⟩ := by
    cases document
    cases hroot
    cases hending
    rfl
  exact .mk (hdocument rfl hheaderEnding) (Header.names_iff_of_read halgorithm)
    (hdocument hmembers hpayloadEnding) htold hreadable hcurrent

theorem eq_of_ofParts_eq {header payload signature header' payload' signature' : List Char}
    (h : ofParts header payload signature = ofParts header' payload' signature')
    (hheader : '.' ∉ header') (hpayload : '.' ∉ payload') (hsignature : '.' ∉ signature') :
    header = header' ∧ payload = payload' ∧ signature = signature' := by
  have hchars := String.ofList_injective h
  -- There are two dots, and so none but the two that join the parts.
  have hcount := congrArg (List.count '.') hchars
  simp only [List.count_append, List.count_cons_self, List.count_eq_zero.mpr hheader,
    List.count_eq_zero.mpr hpayload, List.count_eq_zero.mpr hsignature] at hcount
  have hsignatureDots : '.' ∉ signature := List.count_eq_zero.mp (by omega)
  have hpayloadDots : '.' ∉ payload := List.count_eq_zero.mp (by omega)
  have houter := congrArg (splitAtLast? '.') hchars
  rw [splitAtLast?_append hsignatureDots, splitAtLast?_append hsignature] at houter
  obtain ⟨hsigned, rfl⟩ := Prod.mk.inj (Option.some.inj houter)
  have hinner := congrArg (splitAtLast? '.') hsigned
  rw [splitAtLast?_append hpayloadDots, splitAtLast?_append hpayload] at hinner
  obtain ⟨rfl, rfl⟩ := Prod.mk.inj (Option.some.inj hinner)
  exact ⟨rfl, rfl, rfl⟩

/-- Whether a token is accepted at a time, whatever it claims. -/
def Accepts (secret : String) (now : Int64) (token : String) : Prop :=
  ∃ claims, validate secret now token = .ok claims

theorem Opens.signature_eq {header payload signatureText : List Char}
    (h : Opens secret (ofParts header payload signatureText) claims registered) :
    signatureText = signature secret (header ++ '.' :: payload) := by
  generalize htoken : ofParts header payload signatureText = token at h
  cases h with
  | mk =>
      obtain ⟨rfl, rfl, rfl⟩ := eq_of_ofParts_eq htoken (dot_not_mem_encode _)
        (dot_not_mem_encode _) (dot_not_mem_encode _)
      rfl

theorem Accepts.signature_unique {later : Int64} {header payload left right : List Char}
    (hleft : Accepts secret now (ofParts header payload left))
    (hright : Accepts secret later (ofParts header payload right)) : left = right := by
  obtain ⟨_, hleft⟩ := hleft
  obtain ⟨_, hright⟩ := hright
  obtain ⟨_, hfirst, -⟩ := validate_eq_ok_iff.mp hleft
  obtain ⟨_, hsecond, -⟩ := validate_eq_ok_iff.mp hright
  calc
    left = signature secret (header ++ '.' :: payload) := hfirst.signature_eq
    _ = right := hsecond.signature_eq.symm

theorem Accepts.algorithm_eq {header : List UInt8} {payload signatureText : List Char}
    {name : String}
    (h : Accepts secret now (ofParts (Base64.encode .urlSafe header) payload signatureText))
    (hname : Header.Names name (Document.ofBytes header).root) : name = "HS256" := by
  obtain ⟨claims, hvalid⟩ := h
  have hgenuine := genuine_of_validate hvalid
  generalize htoken : ofParts (Base64.encode .urlSafe header) payload signatureText = token
    at hgenuine
  cases hgenuine with
  | mk hheader halgorithm =>
      obtain ⟨hsame, -, -⟩ := eq_of_ofParts_eq htoken (dot_not_mem_encode _)
        (dot_not_mem_encode _) (dot_not_mem_encode _)
      obtain rfl := Base64.encode_injective Base64.Alphabet.readable_urlSafe hsame
      rw [hheader] at hname
      exact (halgorithm name).mp hname

end Acceptance

end FormLetter.Token
