import FormLetter.Proofs.Substitution
import FormLetter.Proofs.Text

/-!
# Blanks inside tokens

The blanks around the name and around the default of a token may be changed without a change to
anything that is read in the text. The token stays a token, so its neighbours are cut as before, and
name and default are trimmed wherever they are used. Only a complaint about a token without a name
quotes the token as it is written. So every token may be written with single blanks.
-/

namespace FormLetter

open Placeholder Segment

/-- The core with blanks around it. -/
inductive Padded (core : List Char) : List Char → Prop where
  | mk {before after : List Char} (before_blank : ∀ c ∈ before, isBlank c = true)
      (after_blank : ∀ c ∈ after, isBlank c = true) : Padded core (before ++ core ++ after)

namespace Padded

variable {core text : List Char}

theorem trimChars_eq (h : Padded core text) : trimChars text = trimChars core := by
  obtain ⟨before_blank, after_blank⟩ := h
  exact trimChars_append_append before_blank after_blank

theorem not_mem {c : Char} (h : Padded core text) (hcore : c ∉ core) (hc : isBlank c = false) :
    c ∉ text := by
  obtain ⟨before_blank, after_blank⟩ := h
  simp only [List.mem_append, not_or]
  exact ⟨⟨fun hmem => by simp [before_blank c hmem] at hc, hcore⟩,
    fun hmem => by simp [after_blank c hmem] at hc⟩

theorem mem {c : Char} (h : Padded core text) (hcore : c ∈ core) : c ∈ text := by
  obtain ⟨-, -⟩ := h
  simp [hcore]

theorem braceFree_core (h : Padded core text) (htext : BraceFree text) : BraceFree core :=
  fun c hc => htext c (h.mem hc)

theorem braceFree (h : Padded core text) (hcore : BraceFree core) : BraceFree text := by
  have hopen : '{' ∉ text := h.not_mem (fun hmem => (hcore _ hmem).1 rfl) (by decide)
  have hclose : '}' ∉ text := h.not_mem (fun hmem => (hcore _ hmem).2 rfl) (by decide)
  exact fun c hc => ⟨fun heq => hopen (heq ▸ hc), fun heq => hclose (heq ▸ hc)⟩

theorem trimmed (text : List Char) : Padded (trimChars text) text := by
  obtain ⟨before, after, heq, before_blank, after_blank⟩ := exists_eq_append_trimChars_append text
  have hpadded : Padded (trimChars text) (before ++ trimChars text ++ after) :=
    ⟨before_blank, after_blank⟩
  rwa [← heq] at hpadded

theorem of_all {before after : List Char} (hbefore : before.all isBlank = true)
    (hafter : after.all isBlank = true) : Padded core (before ++ core ++ after) :=
  ⟨List.all_eq_true.mp hbefore, List.all_eq_true.mp hafter⟩

theorem one_blank (core : List Char) : Padded core (' ' :: (core ++ [' '])) := by
  have hpadded : Padded core ([' '] ++ core ++ [' ']) := of_all rfl rfl
  exact hpadded

end Padded

/-- The bodies of two tokens that differ at most in the blanks around the name and, where there is
one, around the default. -/
inductive Respaced : List Char → List Char → Prop where
  | bare {core name other : List Char} (no_bar : '|' ∉ core) (padded : Padded core name)
      (respaced : Padded core other) : Respaced name other
  | barred {core name other core' clause clause' : List Char} (no_bar : '|' ∉ core)
      (padded : Padded core name) (respaced : Padded core other) (padded' : Padded core' clause)
      (respaced' : Padded core' clause') :
      Respaced (name ++ '|' :: clause) (other ++ '|' :: clause')

theorem Segment.braceFree_append_cons_iff {left right : List Char} {c : Char} :
    BraceFree (left ++ c :: right) ↔
      BraceFree left ∧ (c ≠ '{' ∧ c ≠ '}') ∧ BraceFree right := by
  unfold BraceFree
  rw [List.forall_mem_append, List.forall_mem_cons]

namespace Respaced

variable {body other : List Char}

theorem braceFree (h : Respaced body other) (hbody : BraceFree body) : BraceFree other := by
  cases h with
  | bare no_bar padded respaced => exact respaced.braceFree (padded.braceFree_core hbody)
  | barred no_bar padded respaced padded' respaced' =>
      obtain ⟨hname, hbar, hclause⟩ := braceFree_append_cons_iff.mp hbody
      exact braceFree_append_cons_iff.mpr ⟨respaced.braceFree (padded.braceFree_core hname), hbar,
        respaced'.braceFree (padded'.braceFree_core hclause)⟩

theorem not_bar_mem {core text : List Char} (h : Padded core text) (no_bar : '|' ∉ core) :
    '|' ∉ text :=
  h.not_mem no_bar (by decide)

theorem name_and_default?_eq (h : Respaced body other) :
    (ofBody other).name = (ofBody body).name ∧
      (ofBody other).default? = (ofBody body).default? := by
  cases h with
  | bare no_bar padded respaced =>
      have hbody := not_bar_mem padded no_bar
      have hother := not_bar_mem respaced no_bar
      rw [name_ofBody_of_no_bar hbody, name_ofBody_of_no_bar hother,
        default?_ofBody_of_no_bar hbody, default?_ofBody_of_no_bar hother, trim_ofList, trim_ofList,
        padded.trimChars_eq, respaced.trimChars_eq]
      exact ⟨rfl, rfl⟩
  | barred no_bar padded respaced padded' respaced' =>
      obtain ⟨hname, hdefault⟩ := ofBody_of_bar (not_bar_mem padded no_bar) _
      obtain ⟨hname', hdefault'⟩ := ofBody_of_bar (not_bar_mem respaced no_bar) _
      rw [hname, hname', hdefault, hdefault', trim_ofList, trim_ofList, trim_ofList, trim_ofList,
        padded.trimChars_eq, respaced.trimChars_eq, padded'.trimChars_eq, respaced'.trimChars_eq]
      exact ⟨rfl, rfl⟩

end Respaced

/-- In the place of the one token the other is as good: the names and defaults in the text, what it
is rendered to and what is found about it are the same, but that each of the two is quoted as it is
written. -/
structure Interchangeable (left right token other : String) : Prop where
  placeholders : (all (left ++ other ++ right)).map (fun p => (p.name, p.default?)) =
    (all (left ++ token ++ right)).map fun p => (p.name, p.default?)
  names : variableNames (left ++ other ++ right) = variableNames (left ++ token ++ right)
  rendering : ∀ values,
    render (left ++ other ++ right) values = render (left ++ token ++ right) values
  verdict : checkText (left ++ other ++ right) = checkText (left ++ token ++ right) ∨
    checkText (left ++ token ++ right) = .error (.nameless token) ∧
      checkText (left ++ other ++ right) = .error (.nameless other)

/-- What the checks find about placeholders: the first without a name, else the first with a bad
name. -/
def checkPlaceholders (placeholders : List Placeholder) : Except TextFault Unit :=
  match placeholders.find? (fun p => p.name == "") with
  | some p => .error (.nameless p.token)
  | none =>
    match placeholders.find? (fun p => !decide (Name.IsDotted p.name)) with
    | some p => .error (.badName p.name)
    | none => .ok ()

theorem checkText_of_not_isBlankText {text : String} (h : ¬IsBlankText text) :
    checkText text = checkPlaceholders (all text) :=
  if_neg h

section Replace

variable {p q : Placeholder}

theorem checkPlaceholders_replace (hname : q.name = p.name) (before after : List Placeholder) :
    checkPlaceholders (before ++ q :: after) = checkPlaceholders (before ++ p :: after) ∨
      checkPlaceholders (before ++ p :: after) = .error (.nameless p.token) ∧
        checkPlaceholders (before ++ q :: after) = .error (.nameless q.token) := by
  unfold checkPlaceholders
  simp only [List.find?_append, List.find?_cons, hname]
  cases before.find? (fun r => r.name == "") with
  | some r => exact Or.inl rfl
  | none =>
      cases hempty : p.name == "" with
      | true => exact Or.inr ⟨rfl, rfl⟩
      | false =>
          -- With the bad names only the names are told, and they are the same.
          refine Or.inl ?_
          cases after.find? (fun r => r.name == "") with
          | some r => rfl
          | none =>
              cases before.find? (fun r => !decide (Name.IsDotted r.name)) with
              | some r => rfl
              | none => cases hbad : !decide (Name.IsDotted p.name) <;> simp [hname]

theorem Placeholder.IsToken.not_isBlankText (hp : p.IsToken) (left right : String) :
    ¬IsBlankText (left ++ p.token ++ right) := by
  obtain ⟨body, hbody, rfl⟩ := hp
  intro hblank
  have hmem : '{' ∈ (left ++ (ofBody body).token ++ right).toList := by
    simp [toList_token_ofBody, tokenText]
  have hbrace : isBlank '{' = true := hblank '{' hmem
  cases hbrace

theorem Placeholder.fill_congr_of_eq (hname : q.name = p.name) (hdefault : q.default? = p.default?)
    (values : Variables) : q.fill values = p.fill values := by
  rw [fill, fill, hname, hdefault]

theorem interchangeable_of_eq (hp : p.IsToken) (hq : q.IsToken) (hname : q.name = p.name)
    (hdefault : q.default? = p.default?) (left right : String) :
    Interchangeable left right p.token q.token where
  placeholders := by
    rw [hp.all_append_append, hq.all_append_append, List.map_append, List.map_append, List.map_cons,
      List.map_cons, hname, hdefault]
  names := by
    rw [variableNames, variableNames, hp.all_append_append, hq.all_append_append, List.map_append,
      List.map_append, List.map_cons, List.map_cons, hname]
  rendering values := by
    rw [hp.render_append_append, hq.render_append_append, fill_congr_of_eq hname hdefault]
  verdict := by
    rw [checkText_of_not_isBlankText (hp.not_isBlankText left right),
      checkText_of_not_isBlankText (hq.not_isBlankText left right), hp.all_append_append,
      hq.all_append_append]
    exact checkPlaceholders_replace hname _ _

end Replace

namespace Placeholder

/-- The token as it is written with single blanks. -/
def spelling (p : Placeholder) : String :=
  match p.default? with
  | none => "\x7b\x7b " ++ p.name ++ " \x7d\x7d"
  | some text => "\x7b\x7b " ++ p.name ++ " | " ++ text ++ " \x7d\x7d"

/-- Writing a token with single blanks changes nothing but blanks. -/
theorem exists_respaced_spelling (body : List Char) :
    ∃ other, Respaced body other ∧ (ofBody body).spelling = (ofBody other).token := by
  by_cases hbar : '|' ∈ body
  · obtain ⟨name, clause, rfl, hname⟩ := List.eq_append_cons_of_mem hbar
    have hcore : '|' ∉ trimChars name := fun hmem => hname ((Padded.trimmed name).mem hmem)
    refine ⟨_, .barred hcore (.trimmed name) (.one_blank _) (.trimmed clause) (.one_blank _), ?_⟩
    rw [spelling, (ofBody_of_bar hname clause).1, (ofBody_of_bar hname clause).2,
      ← String.toList_inj, toList_token_ofBody, trim_ofList, trim_ofList]
    simp [tokenText]
  · have hcore : '|' ∉ trimChars body := fun hmem => hbar ((Padded.trimmed body).mem hmem)
    refine ⟨_, .bare hcore (.trimmed body) (.one_blank _), ?_⟩
    rw [spelling, default?_ofBody_of_no_bar hbar, name_ofBody_of_no_bar hbar, ← String.toList_inj,
      toList_token_ofBody, trim_ofList]
    simp [tokenText]

end Placeholder

/-- **Blanks inside a token do not matter.** A token with other blanks around its name and its
default is a token again, and in any text it may stand in the place of the first one. So may the
token written with single blanks. -/
theorem blanks_in_token_do_not_matter {body other : List Char} (hbody : BraceFree body)
    (h : Respaced body other) (left right : String) :
    Occurs (left ++ (ofBody other).token ++ right).toList left.toList.length other ∧
      Interchangeable left right (ofBody body).token (ofBody other).token ∧
      Interchangeable left right (ofBody body).token (ofBody body).spelling := by
  have hreplace : ∀ {respaced}, Respaced body respaced →
      Interchangeable left right (ofBody body).token (ofBody respaced).token := by
    intro respaced hrespaced
    obtain ⟨hname, hdefault⟩ := hrespaced.name_and_default?_eq
    exact interchangeable_of_eq ⟨body, hbody, rfl⟩ ⟨respaced, hrespaced.braceFree hbody, rfl⟩ hname
      hdefault left right
  obtain ⟨spelled, hspelled, heq⟩ := exists_respaced_spelling body
  have htoken : Occurs (tokenText other ++ right.toList) 0 other :=
    ⟨h.braceFree hbody, right.toList, rfl⟩
  refine ⟨?_, hreplace h, heq ▸ hreplace hspelled⟩
  rw [String.append_assoc, String.toList_append, String.toList_append, toList_token_ofBody]
  exact (occurs_append_left_iff left.toList).mpr htoken

/-- Between braces that belong to no token, and before a token with a bad name. -/
theorem greeting_respaced :
    let name := "name".toList
    let friend := "friend".toList
    let body := ([' '] ++ name ++ []) ++ '|' :: (['\n'] ++ friend ++ [' '])
    let other := ([] ++ name ++ ['\u2003']) ++ '|' :: ([' ', '\t'] ++ friend ++ [])
    BraceFree body ∧ Respaced body other ∧ (ofBody body).spelling = "{{ name | friend }}" ∧
      Interchangeable "\x7b" "\x7d {{ 1st }}" (ofBody body).token (ofBody other).token ∧
      Interchangeable "\x7b" "\x7d {{ 1st }}" (ofBody body).token "{{ name | friend }}" := by
  intro name friend body other
  have hbody : BraceFree body := by decide +kernel
  have hbar : '|' ∉ name := by decide +kernel
  have hrespaced : Respaced body other :=
    .barred hbar (.of_all rfl rfl) (.of_all rfl rfl) (.of_all rfl rfl) (.of_all rfl rfl)
  have hspelling : (ofBody body).spelling = "{{ name | friend }}" := by decide +kernel
  obtain ⟨-, hother, hspelled⟩ :=
    blanks_in_token_do_not_matter hbody hrespaced "\x7b" "\x7d {{ 1st }}"
  exact ⟨hbody, hrespaced, hspelling, hother, hspelling ▸ hspelled⟩

end FormLetter
