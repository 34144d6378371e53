import FormLetter.Content
import FormLetter.Proofs.Json.Print
import FormLetter.Proofs.SortedMap

/-!
# The format of contents

A content is written as a string or as an object of strings. What is written is read back, and
nothing but these two shapes is read.
-/

namespace FormLetter

open Json (Node Spells Prints PrintsMembers Stop)

/-- An object of strings. -/
def Json.Node.ofTexts (members : List (String × String)) : Node :=
  .object (members.map fun member => (.ok member.1, .string (.ok member.2))) none

namespace Content

theorem membersStop?_texts (depth : Nat) (ending : Option Json.SyntaxFault)
    (members : List (String × String)) :
    Node.membersStop? depth ending
        (members.map fun member => (.ok member.1, .string (.ok member.2))) =
      ending.map (⟨·, false⟩) := by
  induction members with
  | nil => rfl
  | cons member members ih => simpa [Node.membersStop?, Node.stop?] using ih

theorem memberTexts?_texts (members : List (String × String)) :
    memberTexts? (members.map fun member => (.ok member.1, .string (.ok member.2))) =
      some members := by
  induction members with
  | nil => rfl
  | cons member members ih => simp [memberTexts?, ih]

theorem eq_texts_of_memberTexts? {members : List (Except Stop String × Node)}
    {texts : List (String × String)} (h : memberTexts? members = some texts) :
    members = texts.map fun member => (.ok member.1, .string (.ok member.2)) := by
  fun_induction memberTexts? members generalizing texts with
  | case1 =>
      cases h
      rfl
  | case2 key text members ih =>
      obtain ⟨others, hothers, rfl⟩ := Option.map_eq_some_iff.mp h
      rw [List.map_cons, ← ih hothers]
  | case3 => cases h

theorem reader_string (depth : Nat) (text : String) :
    reader depth (.string (.ok text)) = .ok (.plain text) :=
  rfl

theorem reader_ofTexts (depth : Nat) (members : List (String × String)) :
    reader (depth + 1) (.ofTexts members) = .ok (.fields (SortedMap.ofList members)) := by
  have hsound : (Node.ofTexts members).stop? (depth + 1) = none :=
    membersStop?_texts depth none members
  have hcontent : ofNode? (.ofTexts members) = some (.fields (SortedMap.ofList members)) := by
    rw [Node.ofTexts, ofNode?, memberTexts?_texts, Option.map_some]
  rw [reader, hsound, hcontent]

theorem stop?_of_reader_ok {depth : Nat} {node : Node} {content : Content}
    (h : reader depth node = .ok content) : node.stop? depth = none := by
  rw [reader] at h
  split at h
  · cases h
  next hsound => exact hsound

/-- Only of strings and of objects of strings a content is made. -/
theorem shape_of_reader_ok {depth : Nat} {node : Node} {content : Content}
    (h : reader depth node = .ok content) :
    (∃ text, node = .string (.ok text)) ∨ ∃ members, node = .ofTexts members := by
  have hsound := stop?_of_reader_ok h
  simp only [reader, hsound] at h
  split at h
  next content hcontent =>
    rw [ofNode?.eq_def] at hcontent
    split at hcontent
    next text => exact .inl ⟨text, rfl⟩
    next members ending =>
      obtain ⟨texts, htexts, -⟩ := Option.map_eq_some_iff.mp hcontent
      rw [eq_texts_of_memberTexts? htexts] at hsound ⊢
      refine .inr ⟨texts, ?_⟩
      cases depth with
      | zero => cases hsound
      | succ depth =>
          rw [Node.stop?, membersStop?_texts, Option.map_eq_none_iff] at hsound
          rw [hsound, Node.ofTexts]
    · cases hcontent
  · cases h

/-! ## What is written -/

theorem printsMembers_texts (members : List (String × String)) :
    PrintsMembers (members.map fun member => (member.1, .string member.2))
      (members.map fun member => (.ok member.1, .string (.ok member.2))) := by
  induction members with
  | nil => exact .nil
  | cons member members ih => exact .cons member.1 (.string member.2) ih

theorem run_toJson (content : Content) : reader.run content.toJson.text = .ok content := by
  cases content with
  | plain text => rw [toJson, (Prints.string text).spells.run_eq, reader_string]
  | fields texts =>
      have hprints := Prints.object (printsMembers_texts texts.entries)
      rw [toJson, SortedMap.map, hprints.spells.run_eq]
      exact (reader_ofTexts _ texts.entries).trans (by rw [SortedMap.ofList_entries])

/-- **The format of contents is JSON, is read back as it was written, and holds nothing else than
strings and objects of strings.** Of several members under one name the last counts. -/
theorem format_round_trips :
    (∀ content : Content, reader.run content.toJson.text = .ok content) ∧
      (∀ (text : String) (content : Content), reader.run text = .ok content →
        (∃ node, Spells text node) ∧ reader.run content.toJson.text = .ok content) ∧
      ∀ (text : String) (node : Node), Spells text node →
        ((∃ content, reader.run text = .ok content) ↔
          (∃ plain, node = .string (.ok plain)) ∨ ∃ members, node = .ofTexts members) ∧
        (∀ plain, node = .string (.ok plain) → reader.run text = .ok (.plain plain)) ∧
        ∀ members, node = .ofTexts members →
          ∃ texts, reader.run text = .ok (.fields texts) ∧
            ∀ name, texts.get? name = members.reverse.lookup name := by
  refine ⟨run_toJson, fun text content hread => ⟨?_, run_toJson content⟩, ?_⟩
  · exact ⟨_, Spells.of_run_ok stop?_of_reader_ok hread⟩
  · intro text node hspells
    rw [hspells.run_eq]
    have hplain {plain : String} (hnode : node = .string (.ok plain)) :
        reader Json.nestingLimit node = .ok (.plain plain) := by
      rw [hnode, reader_string]
    have hfields {members : List (String × String)} (hnode : node = .ofTexts members) :
        reader Json.nestingLimit node = .ok (.fields (SortedMap.ofList members)) := by
      rw [hnode, Json.nestingLimit, reader_ofTexts]
    refine ⟨⟨fun ⟨_, hread⟩ => shape_of_reader_ok hread, ?_⟩, fun _ => hplain, ?_⟩
    · rintro (⟨plain, hnode⟩ | ⟨members, hnode⟩)
      · exact ⟨_, hplain hnode⟩
      · exact ⟨_, hfields hnode⟩
    · intro members hnode
      exact ⟨_, hfields hnode, SortedMap.get?_ofList members⟩

theorem last_of_repeated_fields_counts :
    Spells "\x7b\"b\":\"x\",\"a\":\"\\u0001\",\"b\":\"y\"\x7d"
        (.ofTexts [("b", "x"), ("a", "\x01"), ("b", "y")]) ∧
      ∃ texts,
        reader.run "\x7b\"b\":\"x\",\"a\":\"\\u0001\",\"b\":\"y\"\x7d" =
            .ok (.fields texts) ∧
          texts.get? "a" = some "\x01" ∧ texts.get? "b" = some "y" := by
  have htext :
      (Json.Value.object [("b", .string "x"), ("a", .string "\x01"), ("b", .string "y")]).text =
        "\x7b\"b\":\"x\",\"a\":\"\\u0001\",\"b\":\"y\"\x7d" := by
    decide
  have hspells := htext ▸
    (Prints.object (printsMembers_texts [("b", "x"), ("a", "\x01"), ("b", "y")])).spells
  obtain ⟨texts, hread, hget⟩ := (format_round_trips.2.2 _ _ hspells).2.2 _ rfl
  exact ⟨hspells, texts, hread, hget "a", hget "b"⟩

end Content

end FormLetter
