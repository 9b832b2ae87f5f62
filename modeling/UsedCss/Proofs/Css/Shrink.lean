import UsedCss.Proofs.Css.Verbatim
/-!
# Filtering only takes away

Of any kind of characters that the printed sheet's own blanks are not of, a filtered sheet has at most
as many as its source (`countP_filter`), and fewer when the source has a comment or a carriage return
that reading drops.
-/

namespace UsedCss.Css

open UsedCss.Text

variable {target : ClassSet} {p : Char → Bool} {css o : List Char}

/-- How many characters of a kind texts have together. -/
def total (p : Char → Bool) (ls : List (List Char)) : Nat := ls.flatten.countP p

@[simp] theorem total_nil : total p [] = 0 := rfl

@[simp] theorem total_cons (l : List Char) (ls : List (List Char)) :
    total p (l :: ls) = l.countP p + total p ls := by
  simp [total]

/-! ## Reading -/

/-- A carriage return in front of a newline ends a line, or it is in the rest. -/
theorem return_cases {l rest : List Char} (hl : '\n' ∉ l)
    (h : ['\r', '\n'] <:+: l ++ '\n' :: rest) :
    l.getLast? = some '\r' ∨ ['\r', '\n'] <:+: rest := by
  induction l with
  | nil =>
    rcases List.infix_cons_iff.1 h with h | h
    · exact absurd (List.cons_prefix_cons.1 h).1 (by decide)
    · exact .inr h
  | cons c l ih =>
    simp only [List.mem_cons, not_or] at hl
    rcases List.infix_cons_iff.1 h with h | h
    · obtain ⟨hc, hp⟩ := List.cons_prefix_cons.1 h
      cases l with
      | nil => exact .inl (by rw [← hc]; rfl)
      | cons d l =>
        have hd := (List.cons_prefix_cons.1 hp).1
        simp [← hd] at hl
    · rcases ih hl.2 h with h | h
      · exact .inl (by rw [List.getLast?_cons, h]; rfl)
      · exact .inr h

theorem total_lines (hn : p '\n' = false) (cs : List Char) :
    total p (lines cs) ≤ cs.countP p ∧
      (p '\r' = true → occurs ['\r', '\n'] cs = true → total p (lines cs) < cs.countP p) := by
  induction cs using lines_induction with
  | single l hl =>
    have e : total p (lines l) = l.countP p := by
      rw [lines_of_line hl]
      cases l <;> simp
    refine ⟨e.le, fun _ h => absurd ?_ hl⟩
    exact (occurs_iff.1 h).mem (by simp)
  | cons l rest hl ih =>
    have hd : (dropReturn l).countP p ≤ l.countP p := by
      rcases dropReturn_cases l with e | e
      · rw [e]
      · conv_rhs => rw [e, List.countP_append]
        omega
    have hc : (l ++ '\n' :: rest).countP p = l.countP p + rest.countP p := by simp [hn]
    rw [lines_append_newline hl, total_cons, hc]
    refine ⟨by omega, fun hp h => ?_⟩
    rcases return_cases hl (occurs_iff.1 h) with hr | hr
    · obtain ⟨r, rfl⟩ := List.getLast?_eq_some_iff.1 hr
      have e : dropReturn (r ++ ['\r']) = r := by simp [dropReturn]
      rw [e, List.countP_append, List.countP_singleton, if_pos hp]
      omega
    · have := ih.2 hp (occurs_iff.2 hr)
      omega

/-! ## Taking out comments -/

theorem countP_cutComments_lt (hs : p '/' = true) {inside : Bool} (out : List Char) {cs : List Char}
    (hi : inside = false) (h : occurs commentOpen cs = true) :
    (cutComments inside out cs).1.countP p < out.countP p + cs.countP p := by
  fun_induction cutComments inside out cs with
  | case1 out cs =>
    have := (cutComments_sublist true out cs).countP_le (p := p)
    rw [List.countP_append, List.countP_reverse] at this
    rw [List.countP_cons_of_pos hs, List.countP_cons]
    omega
  | case2 out c cs hne ih =>
    have hcs : occurs commentOpen cs = true := by
      rw [occurs, Bool.or_eq_true, List.isPrefixOf_iff_prefix] at h
      apply h.resolve_left
      intro hp
      obtain ⟨t, ht⟩ := hp
      cases ht
      exact hne t rfl rfl
    have := ih hi hcs
    rw [List.countP_cons] at this ⊢
    omega
  | case3 out cs => cases hi
  | case4 out c cs => cases hi
  | case5 inside out => cases h

/-- A line in which a comment starts loses its opener. -/
theorem countP_stripLine_lt (hs : p '/' = true) {l : List Char} (h : occurs commentOpen l = true) :
    (stripLine false l).1.countP p < l.countP p := by
  have e : (stripLine false l).1 = trimEnd (cutComments false [] l).1 := by simp [stripLine, h]
  have hcut := countP_cutComments_lt hs [] rfl h
  have hend := (trimEnd_isPrefix (cutComments false [] l).1).sublist.countP_le (p := p)
  rw [e]
  simp only [List.countP_nil] at hcut
  omega

theorem total_stripLines (inside : Bool) (ls : List (List Char)) :
    total p (stripLines inside ls) ≤ total p ls :=
  (flatten_stripLines_sublist inside ls).countP_le

/-- The first comment of a text is taken out. -/
theorem total_stripLines_lt (hs : p '/' = true) {ls : List (List Char)}
    (h : ∃ l ∈ ls, occurs commentOpen l = true) :
    total p (stripLines false ls) < total p ls := by
  induction ls with
  | nil => simp at h
  | cons l ls ih =>
    rw [stripLines, total_cons, total_cons]
    cases hl : occurs commentOpen l with
    | true =>
      have := countP_stripLine_lt hs hl
      have := total_stripLines (p := p) (stripLine false l).2 ls
      omega
    | false =>
      have e : stripLine false l = (l, false) := by simp [stripLine, hl]
      have hrest : ∃ m ∈ ls, occurs commentOpen m = true := by simpa [hl] using h
      have := ih hrest
      rw [e]
      exact Nat.add_lt_add_left this _

/-! ## Filtering -/

/-- A filtered sheet has no more characters of a kind than the source's code. -/
theorem countP_filter (hb : p ' ' = false) (hn : p '\n' = false)
    (h : filter css target { maxBytes := none } = .ok o) :
    o.countP p ≤ total p (stripLines false (lines css)) := by
  rw [total, List.countP_eq_length_filter, List.countP_eq_length_filter]
  exact (output_sublist hb hn h).length_le

end UsedCss.Css
