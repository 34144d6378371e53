import FormLetter.Proofs.Occurrence

/-!
# Texts joined at a seam

Where no token reaches from one part of a text into the next, the parts can be cut apart on their
own. The two ends of a token are such places, since tokens do not overlap.
-/

namespace FormLetter.Segment

/-- No token of the joined text begins in the first part and ends in the second. -/
def Seam (left right : List Char) : Prop :=
  ∀ start body, Occurs (left ++ right) start body → start < left.length →
    start + (tokenText body).length ≤ left.length

theorem Seam.of_append (before : List Char) {left right : List Char}
    (h : Seam (before ++ left) right) : Seam left right := by
  intro start body hoccurs hlt
  have hlonger : Occurs (before ++ left ++ right) (before.length + start) body := by
    rw [List.append_assoc]
    exact (occurs_append_left_iff before).mpr hoccurs
  have hle := h (before.length + start) body hlonger (by rw [List.length_append]; omega)
  rw [List.length_append] at hle
  omega

/-- Across a seam, a text without a token at its beginning does not get one from what follows. -/
theorem Seam.tokenAt?_append_eq_none {left right : List Char} (h : Seam left right)
    (hleft : left ≠ []) (hnone : tokenAt? left = none) : tokenAt? (left ++ right) = none := by
  cases hat : tokenAt? (left ++ right) with
  | none => rfl
  | some found =>
      obtain ⟨body, rest⟩ := found
      obtain ⟨hbody, htext⟩ := tokenAt?_eq_some_iff.mp hat
      have hoccurs : Occurs (left ++ right) 0 body := occurs_iff_tokenAt?.mpr ⟨rest, hat⟩
      have hle := h 0 body hoccurs (List.length_pos_iff.mpr hleft)
      rw [Nat.zero_add] at hle
      have hprefix : tokenText body <+: left :=
        List.prefix_of_prefix_length_le ⟨rest, htext.symm⟩ (List.prefix_append left right) hle
      obtain ⟨remainder, rfl⟩ := hprefix
      rw [tokenAt?_tokenText_append hbody] at hnone
      cases hnone

/-- Cutting goes through part by part across a seam. -/
theorem scan_append {left right : List Char} (h : Seam left right) :
    scan (left ++ right) = scan left ++ scan right := by
  fun_induction scan left with
  | case1 => rfl
  | case2 c text body rest hat ih =>
      obtain ⟨hbody, htext⟩ := tokenAt?_eq_some_iff.mp hat
      rw [htext] at h ⊢
      rw [List.append_assoc, scan_eq_of_tokenAt?_eq_some (tokenAt?_tokenText_append hbody _),
        ih (h.of_append _), List.cons_append]
  | case3 c text hnone ih =>
      have hrest : Seam text right := Seam.of_append [c] h
      have hjoined := h.tokenAt?_append_eq_none (List.cons_ne_nil c text) hnone
      rw [List.cons_append] at hjoined ⊢
      rw [scan_cons_of_tokenAt?_eq_none hjoined, ih hrest, List.cons_append]

theorem seam_tokenText_right {body : List Char} (hbody : BraceFree body) (left rest : List Char) :
    Seam left (tokenText body ++ rest) := by
  intro start inner hoccurs hlt
  have htoken : Occurs (left ++ (tokenText body ++ rest)) (left.length + 0) body :=
    (occurs_append_left_iff left).mpr ⟨hbody, rest, rfl⟩
  exact hoccurs.disjoint htoken hlt

/-- A token is cut out of the text around it. -/
theorem scan_append_tokenText_append {body : List Char} (hbody : BraceFree body)
    (left rest : List Char) :
    scan (left ++ (tokenText body ++ rest)) = scan left ++ .token body :: scan rest := by
  rw [scan_append (seam_tokenText_right hbody left rest),
    scan_eq_of_tokenAt?_eq_some (tokenAt?_tokenText_append hbody rest)]

end FormLetter.Segment
