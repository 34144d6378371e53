import FormLetter.Placeholder.Check
import FormLetter.Proofs.DottedName
import FormLetter.Proofs.Occurrence
import Mathlib.Data.Nat.Find

/-!
# What the checks find

The verdict on a text rests on the tokens that stand in it and on nothing else. A blank text is
refused whatever it is made of. Then the first token without a name counts, even behind a token with
a bad name, and then the first token with a bad name. Looking for a placeholder from the left is
looking for the token at the least position, since placeholders are listed by position.
-/

namespace FormLetter

open Segment

namespace Placeholder

/-- The name in a token with the body: what comes before the first bar, or all of the body where
there is no bar, without the blanks around it. -/
inductive HasName : List Char → String → Prop where
  | bare {body : List Char} (no_bar : '|' ∉ body) : HasName body (trim (String.ofList body))
  | barred {front clause : List Char} (no_bar : '|' ∉ front) :
      HasName (front ++ '|' :: clause) (trim (String.ofList front))

theorem hasName_ofBody (body : List Char) : HasName body (ofBody body).name := by
  by_cases hbar : '|' ∈ body
  · obtain ⟨front, clause, rfl, hfront⟩ := List.eq_append_cons_of_mem hbar
    rw [(ofBody_of_bar hfront clause).1]
    exact .barred hfront
  · rw [name_ofBody_of_no_bar hbar]
    exact .bare hbar

theorem HasName.name_ofBody {body : List Char} {name : String} (h : HasName body name) :
    (ofBody body).name = name := by
  cases h with
  | bare no_bar => exact name_ofBody_of_no_bar no_bar
  | barred no_bar => exact (ofBody_of_bar no_bar _).1

theorem hasName_iff {body : List Char} {name : String} :
    HasName body name ↔ (ofBody body).name = name :=
  ⟨HasName.name_ofBody, fun h => h ▸ hasName_ofBody body⟩

def IsBadlyNamed (body : List Char) : Prop :=
  ∃ name, HasName body name ∧ ¬Name.IsDotted name

theorem isBadlyNamed_iff {body : List Char} :
    IsBadlyNamed body ↔ ¬Name.IsDotted (ofBody body).name := by
  constructor
  · rintro ⟨name, hname, hbad⟩
    rw [hname.name_ofBody]
    exact hbad
  · intro hbad
    exact ⟨(ofBody body).name, hasName_ofBody body, hbad⟩

/-- Of the tokens that meet a condition, the one at the least position. -/
structure FirstToken (text : List Char) (P : List Char → Prop) (position : Nat)
    (body : List Char) : Prop where
  occurs : Occurs text position body
  holds : P body
  first : ∀ earlier other, Occurs text earlier other → earlier < position → ¬P other

theorem exists_firstToken {text : List Char} {P : List Char → Prop}
    (h : ∃ position body, Occurs text position body ∧ P body) :
    ∃ position body, FirstToken text P position body := by
  classical
  obtain ⟨body, hoccurs, hholds⟩ := Nat.find_spec h
  refine ⟨Nat.find h, body, hoccurs, hholds, ?_⟩
  intro earlier other hother hlt hP
  exact Nat.find_min h hlt ⟨other, hother, hP⟩

/-- Where places stand in order, the first one found is the one at the least position. -/
theorem find?_eq_some_iff_least {places : List (Nat × List Char)}
    (hsorted : places.Pairwise fun earlier later => earlier.1 < later.1)
    {p : Nat × List Char → Bool} {place : Nat × List Char} :
    places.find? p = some place ↔
      place ∈ places ∧ p place = true ∧
        ∀ earlier ∈ places, earlier.1 < place.1 → p earlier = false := by
  rw [List.find?_eq_some_iff_append]
  constructor
  · rintro ⟨hplace, before, after, rfl, hbefore⟩
    refine ⟨by simp, hplace, ?_⟩
    intro earlier hmem hlt
    rcases List.mem_append.mp hmem with hmem | hmem
    · simpa using hbefore earlier hmem
    · have hafter := (List.pairwise_cons.mp (List.pairwise_append.mp hsorted).2.1).1
      rcases List.mem_cons.mp hmem with rfl | hmem
      · omega
      · have hgt := hafter earlier hmem
        omega
  · rintro ⟨hmem, hplace, hleast⟩
    obtain ⟨before, after, rfl⟩ := List.append_of_mem hmem
    refine ⟨hplace, before, after, rfl, ?_⟩
    intro earlier hearlier
    have hlt := (List.pairwise_append.mp hsorted).2.2 earlier hearlier place List.mem_cons_self
    simp [hleast earlier (List.mem_append_left _ hearlier) hlt]

theorem mem_places_iff {text body : List Char} {position : Nat} :
    (position, body) ∈ placed 0 (scan text) ↔ Occurs text position body := by
  simp [mem_placed_scan_iff]

section Find

variable {text : String} {P : List Char → Prop} {q : Placeholder → Bool}

theorem find?_all (text : String) (q : Placeholder → Bool) :
    (all text).find? q =
      ((placed 0 (scan text.toList)).find? fun place => q (ofBody place.2)).map
        fun place => ofBody place.2 := by
  rw [all, filterMap_ofSegment? _ 0, List.find?_map]
  rfl

theorem find?_all_eq_some_iff (hq : ∀ body, q (ofBody body) = true ↔ P body) {p : Placeholder} :
    (all text).find? q = some p ↔
      ∃ position body, FirstToken text.toList P position body ∧ ofBody body = p := by
  rw [find?_all, Option.map_eq_some_iff]
  simp only [find?_eq_some_iff_least (pairwise_placed _ _), Prod.exists, Prod.forall,
    mem_places_iff, hq, ← Bool.not_eq_true]
  constructor
  · rintro ⟨position, body, ⟨hoccurs, hholds, hfirst⟩, rfl⟩
    exact ⟨position, body, ⟨hoccurs, hholds, hfirst⟩, rfl⟩
  · rintro ⟨position, body, ⟨hoccurs, hholds, hfirst⟩, rfl⟩
    exact ⟨position, body, ⟨hoccurs, hholds, hfirst⟩, rfl⟩

theorem find?_all_eq_none_iff (hq : ∀ body, q (ofBody body) = true ↔ P body) :
    (all text).find? q = none ↔
      ∀ position body, Occurs text.toList position body → ¬P body := by
  rw [find?_all, Option.map_eq_none_iff, List.find?_eq_none]
  simp only [Prod.forall, mem_places_iff, hq]

end Find

end Placeholder

open Placeholder

/-- What there is to say about a text: the first that applies of blank, without a name in some
token, with a bad name in some token, and fit. -/
inductive Verdict (text : String) : Except TextFault Unit → Prop where
  | empty (blank : IsBlankText text) : Verdict text (.error .empty)
  | nameless {position : Nat} {body : List Char} (not_blank : ¬IsBlankText text)
      (first : FirstToken text.toList (HasName · "") position body) :
      Verdict text (.error (.nameless (String.ofList (tokenText body))))
  | badName {position : Nat} {body : List Char} {name : String} (not_blank : ¬IsBlankText text)
      (named : ∀ position body, Occurs text.toList position body → ¬HasName body "")
      (first : FirstToken text.toList IsBadlyNamed position body) (has_name : HasName body name) :
      Verdict text (.error (.badName name))
  | fit (not_blank : ¬IsBlankText text)
      (dotted : ∀ position body, Occurs text.toList position body →
        ∃ name, HasName body name ∧ Name.IsDotted name) :
      Verdict text (.ok ())

theorem name_beq_empty_iff (body : List Char) :
    ((ofBody body).name == "") = true ↔ HasName body "" := by
  rw [beq_iff_eq, hasName_iff]

theorem not_decide_isDotted_iff (body : List Char) :
    (!decide (Name.IsDotted (ofBody body).name)) = true ↔ IsBadlyNamed body := by
  rw [isBadlyNamed_iff]
  simp

theorem verdict_checkText (text : String) : Verdict text (checkText text) := by
  rw [checkText]
  split
  next hblank => exact .empty hblank
  next hblank =>
    split
    next p hp =>
      obtain ⟨position, body, hfirst, rfl⟩ := (find?_all_eq_some_iff name_beq_empty_iff).mp hp
      exact .nameless hblank hfirst
    next hnameless =>
      have hnamed := (find?_all_eq_none_iff name_beq_empty_iff).mp hnameless
      split
      next p hp =>
        obtain ⟨position, body, hfirst, rfl⟩ :=
          (find?_all_eq_some_iff not_decide_isDotted_iff).mp hp
        exact .badName hblank hnamed hfirst (hasName_ofBody body)
      next hbad =>
        have hgood := (find?_all_eq_none_iff not_decide_isDotted_iff).mp hbad
        refine .fit hblank fun position body hoccurs => ⟨_, hasName_ofBody body, ?_⟩
        exact not_not.mp fun hname => hgood position body hoccurs (isBadlyNamed_iff.mpr hname)

theorem Verdict.checkText_eq {text : String} {verdict : Except TextFault Unit}
    (h : Verdict text verdict) : checkText text = verdict := by
  have hnamed : (∀ position body, Occurs text.toList position body → ¬HasName body "") →
      (all text).find? (fun p => p.name == "") = none :=
    (find?_all_eq_none_iff name_beq_empty_iff).mpr
  rw [checkText]
  cases h with
  | empty blank => rw [if_pos blank]
  | @nameless position body not_blank first =>
      have hfind : (all text).find? (fun p => p.name == "") = some (ofBody body) :=
        (find?_all_eq_some_iff name_beq_empty_iff).mpr ⟨position, body, first, rfl⟩
      rw [if_neg not_blank, hfind]
      rfl
  | @badName position body name not_blank named first has_name =>
      have hfind : (all text).find? (fun p => !decide (Name.IsDotted p.name)) =
          some (ofBody body) :=
        (find?_all_eq_some_iff not_decide_isDotted_iff).mpr ⟨position, body, first, rfl⟩
      rw [if_neg not_blank, hnamed named, hfind, ← has_name.name_ofBody]
  | fit not_blank dotted =>
      have hgood : ∀ position body, Occurs text.toList position body → ¬IsBadlyNamed body := by
        intro position body hoccurs hbad
        obtain ⟨name, hname, hdotted⟩ := dotted position body hoccurs
        rw [isBadlyNamed_iff, hname.name_ofBody] at hbad
        exact hbad hdotted
      have hnameless : ∀ position body, Occurs text.toList position body → ¬HasName body "" := by
        intro position body hoccurs hempty
        have hnot : ¬Name.IsDotted "" := by decide
        exact hgood position body hoccurs ⟨"", hempty, hnot⟩
      have hfind : (all text).find? (fun p => !decide (Name.IsDotted p.name)) = none :=
        (find?_all_eq_none_iff not_decide_isDotted_iff).mpr hgood
      rw [if_neg not_blank, hnamed hnameless, hfind]

theorem checkText_eq_iff_verdict {text : String} {verdict : Except TextFault Unit} :
    checkText text = verdict ↔ Verdict text verdict :=
  ⟨fun h => h ▸ verdict_checkText text, Verdict.checkText_eq⟩

theorem checkText_eq_empty_iff {text : String} :
    checkText text = .error .empty ↔ IsBlankText text := by
  constructor
  · intro h
    cases checkText_eq_iff_verdict.mp h with
    | empty blank => exact blank
  · intro blank
    exact checkText_eq_iff_verdict.mpr (.empty blank)

theorem exists_nameless_iff {text : String} :
    (∃ token, checkText text = .error (.nameless token)) ↔
      ¬IsBlankText text ∧
        ∃ position body, Occurs text.toList position body ∧ HasName body "" := by
  constructor
  · rintro ⟨token, htoken⟩
    cases checkText_eq_iff_verdict.mp htoken with
    | nameless not_blank first => exact ⟨not_blank, _, _, first.occurs, first.holds⟩
  · rintro ⟨not_blank, htoken⟩
    obtain ⟨position, body, hfirst⟩ := exists_firstToken htoken
    exact ⟨_, checkText_eq_iff_verdict.mpr (.nameless not_blank hfirst)⟩

theorem exists_badName_iff {text : String} :
    (∃ name, checkText text = .error (.badName name)) ↔
      ¬IsBlankText text ∧
        (∀ position body, Occurs text.toList position body → ¬HasName body "") ∧
        ∃ position body, Occurs text.toList position body ∧ IsBadlyNamed body := by
  constructor
  · rintro ⟨name, hname⟩
    cases checkText_eq_iff_verdict.mp hname with
    | badName not_blank named first has_name =>
        exact ⟨not_blank, named, _, _, first.occurs, first.holds⟩
  · rintro ⟨not_blank, named, htoken⟩
    obtain ⟨position, body, hfirst⟩ := exists_firstToken htoken
    exact ⟨_, checkText_eq_iff_verdict.mpr
      (.badName not_blank named hfirst (hasName_ofBody body))⟩

/-- **The checks judge a text by its tokens.** The verdict is the one that the tokens give, a name
is missing or bad exactly when it is so in some token, and dotted names are words with dots between
them. -/
theorem checkText_decided_by_tokens (text : String) :
    (∀ verdict, checkText text = verdict ↔ Verdict text verdict) ∧
    (checkText text = .error .empty ↔ IsBlankText text) ∧
    ((∃ token, checkText text = .error (.nameless token)) ↔
      ¬IsBlankText text ∧
        ∃ position body, Occurs text.toList position body ∧ HasName body "") ∧
    ((∃ name, checkText text = .error (.badName name)) ↔
      ¬IsBlankText text ∧
        (∀ position body, Occurs text.toList position body → ¬HasName body "") ∧
        ∃ position body, Occurs text.toList position body ∧ IsBadlyNamed body) ∧
    (∀ name, Name.IsDotted name ↔ ∀ word ∈ name.toList.splitOn '.', Name.IsWord word) ∧
    (∀ left right, ¬Name.IsDotted ("." ++ right) ∧ ¬Name.IsDotted (left ++ ".") ∧
      ¬Name.IsDotted (left ++ ".." ++ right)) ∧
    ∀ name, Name.IsDotted name → ∀ c ∈ name.toList, c = '.' ∨ Name.IsWordChar c := by
  refine ⟨fun _ => checkText_eq_iff_verdict, checkText_eq_empty_iff, exists_nameless_iff,
    exists_badName_iff, fun _ => Name.isDotted_iff, ?_, fun _ => Name.isWordChar_of_accepts⟩
  intro left right
  exact ⟨Name.not_isDotted_dot_append right, Name.not_isDotted_append_dot left,
    Name.not_isDotted_append_dots_append left right⟩

/-- A missing name counts before a bad one that comes earlier. -/
example : checkText "{{ 1st }} and {{ | none }}" = .error (.nameless "{{ | none }}") := by
  decide +kernel

end FormLetter
