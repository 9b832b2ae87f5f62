import UsedCss.Proofs.Text.Ends
import UsedCss.Proofs.Text.Find
import UsedCss.Proofs.Text.Trim
import UsedCss.Text.Basic
/-!
# Lines of a text

A text is read through its filled lines, the ones that are not blank. Cutting at a newline,
joining by newlines and trimming act on them in the obvious way, and for a text without
carriage returns in front of newlines they are all that reading it by lines gives.
-/

namespace UsedCss.Text

/-! ## Pieces -/

theorem pieces_of_forall {α : Type} {p : α → Bool} {cs : List α} (h : ∀ c ∈ cs, p c = false) :
    pieces p cs = [cs] := by
  induction cs with
  | nil => rfl
  | cons c cs ih =>
    rw [pieces_cons, ih (fun x hx => h x (List.mem_cons_of_mem _ hx)), h c List.mem_cons_self]
    rfl

theorem pieces_append_cons {α : Type} {p : α → Bool} {x : α} (hx : p x = true) (a b : List α) :
    pieces p (a ++ x :: b) = pieces p a ++ pieces p b := by
  induction a with
  | nil => simp [pieces_cons, hx]
  | cons c a ih =>
    obtain ⟨q, qs, e⟩ := List.exists_cons_of_ne_nil (pieces_ne_nil p a)
    rw [List.cons_append, pieces_cons, pieces_cons, ih, e]
    split <;> simp

/-- What is added to a list is added to its last piece. -/
theorem exists_pieces_append {α : Type} (p : α → Bool) (a b : List α) :
    ∃ q qs, pieces p (a ++ b) = (pieces p a).dropLast ++ q :: qs := by
  induction a with
  | nil => exact List.exists_cons_of_ne_nil (pieces_ne_nil p b)
  | cons c a ih =>
    obtain ⟨q, qs, e⟩ := ih
    rw [List.cons_append, pieces_cons, pieces_cons, e]
    cases p c with
    | true => exact ⟨q, qs, by simp [List.dropLast_cons_of_ne_nil (pieces_ne_nil p a)]⟩
    | false =>
      cases hp : pieces p a with
      | nil => exact absurd hp (pieces_ne_nil p a)
      | cons x xs => cases xs <;> simp

/-- Lines that are joined by newlines are the pieces between these. -/
theorem pieces_joinWith {ls : List (List Char)} (hne : ls ≠ []) (h : ∀ l ∈ ls, '\n' ∉ l) :
    pieces (· == '\n') (joinWith ['\n'] ls) = ls := by
  induction ls with
  | nil => exact absurd rfl hne
  | cons l ls ih =>
    rw [List.forall_mem_cons] at h
    have hl : pieces (· == '\n') l = [l] :=
      pieces_of_forall fun c hc => by simpa using ne_of_mem_of_not_mem hc h.1
    cases ls with
    | nil => rw [joinWith_singleton, hl]
    | cons m ls =>
      rw [joinWith_cons_cons, List.append_assoc, List.singleton_append,
        pieces_append_cons (x := '\n') rfl, hl, ih (by simp) h.2]
      rfl

/-- A text is a line, or a line, a newline and a text. -/
theorem lines_induction {P : List Char → Prop} (single : ∀ l, '\n' ∉ l → P l)
    (cons : ∀ l rest, '\n' ∉ l → P rest → P (l ++ '\n' :: rest)) (cs : List Char) : P cs := by
  induction h : cs.length using Nat.strong_induction_on generalizing cs with
  | _ n ih =>
    by_cases hc : '\n' ∈ cs
    · obtain ⟨l, rest, rfl, hl⟩ := List.eq_append_cons_of_mem hc
      exact cons l rest hl (ih rest.length (by simp at h; omega) rest rfl)
    · exact single cs hc

/-! ## Lines -/

theorem lines_of_line {l : List Char} (h : '\n' ∉ l) : lines l = if l.isEmpty then [] else [l] := by
  have e : pieces (· == '\n') l = [l] :=
    pieces_of_forall (fun c hc => by simpa using ne_of_mem_of_not_mem hc h)
  simp [lines, e]

theorem lines_append_newline {l : List Char} (h : '\n' ∉ l) (rest : List Char) :
    lines (l ++ '\n' :: rest) = dropReturn l :: lines rest := by
  have e : pieces (· == '\n') l = [l] :=
    pieces_of_forall (fun c hc => by simpa using ne_of_mem_of_not_mem hc h)
  obtain ⟨q, qs, e'⟩ := List.exists_cons_of_ne_nil (pieces_ne_nil (· == '\n') rest)
  simp only [lines, pieces_append_cons (p := (· == '\n')) (x := '\n') rfl, e, e']
  rfl

/-- Only a carriage return, which is blank, is dropped. -/
theorem dropReturn_cases (l : List Char) : dropReturn l = l ∨ l = dropReturn l ++ ['\r'] := by
  unfold dropReturn
  split
  · next h => exact .inr (List.dropLast_append_getLast? _ (by simpa using h)).symm
  · exact .inl rfl

theorem isBlankText_dropReturn (l : List Char) : isBlankText (dropReturn l) = isBlankText l := by
  rcases dropReturn_cases l with h | h
  · rw [h]
  · conv_rhs => rw [h]
    simp [show isBlank '\r' = true from by decide]

theorem trim_dropReturn (l : List Char) : trim (dropReturn l) = trim l := by
  rcases dropReturn_cases l with h | h
  · rw [h]
  · conv_rhs => rw [h, trim_append_of_blank (by decide)]

theorem dropReturn_of_not_occurs {l rest : List Char}
    (h : occurs ['\r', '\n'] (l ++ '\n' :: rest) = false) :
    dropReturn l = l := by
  rcases dropReturn_cases l with e | e
  · exact e
  · have hi : dropReturn l ++ ['\r', '\n'] ++ rest = l ++ '\n' :: rest := by
      conv_rhs => rw [e]
      simp
    exact absurd ⟨_, _, hi⟩ (occurs_eq_false_iff.1 h)

/-! ## Filled lines -/

/-- The lines of a text that are not blank, each with all that stands before its newline. -/
def filledLines (cs : List Char) :
    List (List Char) := (pieces (· == '\n') cs).filter fun l => !isBlankText l

/-- The lines that are not blank. -/
def filled (ls : List (List Char)) : List (List Char) := ls.filter fun l => !isBlankText l

@[simp] theorem filled_append (ls ms : List (List Char)) :
    filled (ls ++ ms) = filled ls ++ filled ms :=
  List.filter_append ..

theorem filled_eq_self {ls : List (List Char)} (h : ∀ l ∈ ls, isBlankText l = false) :
    filled ls = ls :=
  List.filter_eq_self.2 fun l hl => by simp [h l hl]

theorem filledLines_of_line {l : List Char} (h : '\n' ∉ l) : filledLines l = filled [l] := by
  have e : pieces (· == '\n') l = [l] :=
    pieces_of_forall (fun c hc => by simpa using ne_of_mem_of_not_mem hc h)
  rw [filledLines, e, filled]

theorem filledLines_append_newline (a b : List Char) :
    filledLines (a ++ '\n' :: b) = filledLines a ++ filledLines b := by
  simp only [filledLines, pieces_append_cons (p := (· == '\n')) (x := '\n') rfl, List.filter_append]

theorem filledLines_flatMap_cons (ls : List (List Char)) (a : List Char) :
    filledLines (a ++ ls.flatMap ('\n' :: ·)) = filledLines a ++ ls.flatMap filledLines := by
  induction ls generalizing a with
  | nil => simp
  | cons l ls ih =>
    rw [List.flatMap_cons, List.cons_append, filledLines_append_newline, ih, List.flatMap_cons]

theorem filledLines_joinWith (ls : List (List Char)) :
    filledLines (joinWith ['\n'] ls) = ls.flatMap filledLines := by
  cases ls with
  | nil => rfl
  | cons l ls =>
    exact (congrArg filledLines (joinWith_cons ..)).trans (filledLines_flatMap_cons ls l)

/-- Blank lines between texts do not count. -/
theorem filledLines_joinWith_blank (ts : List (List Char)) :
    filledLines (joinWith ['\n', '\n'] ts) = ts.flatMap filledLines := by
  cases ts with
  | nil => rfl
  | cons t ts =>
    have e : ts.flatMap (['\n', '\n'] ++ ·) =
        (ts.map ('\n' :: ·)).flatMap ('\n' :: ·) := by simp [List.flatMap_map]
    have hn : ∀ u, filledLines ('\n' :: u) = filledLines u :=
      fun u => filledLines_append_newline [] u
    rw [joinWith_cons, e, filledLines_flatMap_cons, List.flatMap_map, List.flatMap_cons]
    simp only [hn]

theorem flatMap_filledLines {ls : List (List Char)} (h : ∀ l ∈ ls, '\n' ∉ l) :
    ls.flatMap filledLines = filled ls := by
  induction ls with
  | nil => rfl
  | cons l ls ih =>
    rw [List.flatMap_cons, filledLines_of_line (h l List.mem_cons_self),
      ih (fun m hm => h m (List.mem_cons_of_mem _ hm)), ← filled_append]
    rfl

/-- A filled line is not blank, has no newline and is a part of the text. -/
theorem mem_filledLines {cs l : List Char} (h : l ∈ filledLines cs) :
    isBlankText l = false ∧ '\n' ∉ l ∧ l <:+: cs := by
  induction cs using lines_induction with
  | single m hm =>
    rw [filledLines_of_line hm, filled] at h
    obtain ⟨h, hb⟩ := List.mem_filter.1 h
    obtain rfl := List.mem_singleton.1 h
    exact ⟨by simpa using hb, hm, List.infix_rfl⟩
  | cons m rest hm ih =>
    rw [filledLines_append_newline, List.mem_append] at h
    rcases h with h | h
    · rw [filledLines_of_line hm, filled] at h
      obtain ⟨h, hb⟩ := List.mem_filter.1 h
      obtain rfl := List.mem_singleton.1 h
      exact ⟨by simpa using hb, hm, (List.prefix_append _ _).isInfix⟩
    · obtain ⟨hb, hn, hi⟩ := ih h
      exact ⟨hb, hn, hi.trans ((List.suffix_cons '\n' rest).trans (List.suffix_append m _)).isInfix⟩

theorem filledLines_eq_nil {cs : List Char} : filledLines cs = [] ↔ isBlankText cs = true := by
  induction cs using lines_induction with
  | single l hl => cases h : isBlankText l <;> simp [filledLines_of_line hl, filled, h]
  | cons l rest hl ih =>
    rw [filledLines_append_newline, List.append_eq_nil_iff, ih, filledLines_of_line hl]
    cases h : isBlankText l <;> simp [filled, h, show isBlank '\n' = true from by decide]

/-- A needle stands in a text if and only if it stands in one of its filled lines. -/
theorem occurs_filledLines {needle : List Char} (hn : isNeedle needle = true) (cs : List Char) :
    occurs needle cs = (filledLines cs).any (occurs needle) := by
  have line : ∀ l, occurs needle l = (filled [l]).any (occurs needle) := by
    intro l
    cases h : isBlankText l with
    | true => simp [filled, h, occurs_of_blank hn h]
    | false => simp [filled, h]
  induction cs using lines_induction with
  | single l hl => rw [filledLines_of_line hl, line]
  | cons l rest hl ih =>
    rw [occurs_append_cons ((isNeedle_iff.1 hn).2 _ rfl), filledLines_append_newline,
      List.any_append, ← ih, filledLines_of_line hl, ← line]

/-! ## Reading by lines -/

theorem mem_lines {cs l : List Char} (h : l ∈ lines cs) : '\n' ∉ l ∧ l <:+: cs := by
  induction cs using lines_induction with
  | single m hm =>
    rw [lines_of_line hm] at h
    split at h
    · cases h
    · obtain rfl := List.mem_singleton.1 h
      exact ⟨hm, List.infix_rfl⟩
  | cons m rest hm ih =>
    rw [lines_append_newline hm, List.mem_cons] at h
    rcases h with rfl | h
    · have hp : dropReturn m <+: m := by
        rcases dropReturn_cases m with e | e
        · rw [e]
        · exact ⟨_, e.symm⟩
      exact ⟨fun hc => hm (hp.mem hc), (hp.trans (List.prefix_append m _)).isInfix⟩
    · obtain ⟨hn, hi⟩ := ih h
      exact ⟨hn, hi.trans ((List.suffix_cons '\n' rest).trans (List.suffix_append m _)).isInfix⟩

theorem filled_lines_of_line {l : List Char} (h : '\n' ∉ l) : filled (lines l) = filledLines l := by
  rw [lines_of_line h, filledLines_of_line h]
  cases l <;> rfl

/-- Up to trimming, carriage returns do not matter. -/
theorem filled_lines_map_trim (cs : List Char) :
    (filled (lines cs)).map trim = (filledLines cs).map trim := by
  induction cs using lines_induction with
  | single l hl => rw [filled_lines_of_line hl]
  | cons l rest hl ih =>
    rw [lines_append_newline hl, filledLines_append_newline, filledLines_of_line hl,
      List.map_append, ← ih]
    cases h : isBlankText l <;> simp [filled, isBlankText_dropReturn, h, trim_dropReturn]

/-- Lines that are joined by newlines are read back, apart from their blank ends. -/
theorem lines_joinWith_map_trim {ls : List (List Char)}
    (h : ∀ l ∈ ls, isBlankText l = false ∧ '\n' ∉ l) :
    (lines (joinWith ['\n'] ls)).map trim = ls.map trim := by
  induction ls with
  | nil => rfl
  | cons l ls ih =>
    rw [List.forall_mem_cons] at h
    cases ls with
    | nil =>
      have hne : l.isEmpty = false := by
        rw [List.isEmpty_eq_false_iff]
        rintro rfl
        exact absurd h.1.1 (by decide)
      rw [joinWith_singleton, lines_of_line h.1.2, hne]
      rfl
    | cons m ls =>
      rw [joinWith_cons_cons, List.append_assoc, List.singleton_append, lines_append_newline h.1.2,
        List.map_cons, trim_dropReturn, ih h.2, List.map_cons (l := m :: ls)]

/-- Without carriage returns at the ends of its filled lines, a text is read as it stands. -/
theorem filled_lines_eq {cs : List Char} (h : ∀ l ∈ filledLines cs, l.getLast? ≠ some '\r') :
    filled (lines cs) = filledLines cs := by
  induction cs using lines_induction with
  | single l hl => exact filled_lines_of_line hl
  | cons l rest hl ih =>
    rw [filledLines_append_newline, filledLines_of_line hl] at h
    rw [lines_append_newline hl, filledLines_append_newline, filledLines_of_line hl,
      ← ih (fun m hm => h m (List.mem_append_right _ hm))]
    cases hb : isBlankText l with
    | true => simp [filled, isBlankText_dropReturn, hb]
    | false =>
      have e : dropReturn l = l := if_neg (h l (List.mem_append_left _ (by simp [filled, hb])))
      simp [filled, e, hb]

theorem filled_lines_of_not_occurs {cs : List Char} (h : occurs ['\r', '\n'] cs = false) :
    filled (lines cs) = filledLines cs := by
  induction cs using lines_induction with
  | single l hl => exact filled_lines_of_line hl
  | cons l rest hl ih =>
    have hr := occurs_part ((List.suffix_cons '\n' rest).trans (List.suffix_append l _)).isInfix h
    rw [lines_append_newline hl, filledLines_append_newline, filledLines_of_line hl, ← ih hr,
      dropReturn_of_not_occurs h]
    exact filled_append [l] (lines rest)

/-- A needle stands in a text if and only if it stands in one of its lines. -/
theorem occurs_lines {needle : List Char} (hn : isNeedle needle = true) (cs : List Char) :
    occurs needle cs = (lines cs).any (occurs needle) := by
  induction cs using lines_induction with
  | single l hl =>
    rw [lines_of_line hl]
    cases l with
    | nil => exact occurs_nil hn
    | cons c l => simp
  | cons l rest hl ih =>
    rw [occurs_append_cons ((isNeedle_iff.1 hn).2 _ rfl), lines_append_newline hl, List.any_cons,
      ← ih, ← occurs_trim hn l, ← trim_dropReturn, occurs_trim hn]

/-! ## Trimming by lines -/

/-- The first text without its blank start and the last one without its blank end. -/
def trimOuter (ts : List (List Char)) : List (List Char) :=
  (ts.modifyHead trimStart).modifyLast trimEnd

theorem filledLines_trimStart (cs : List Char) :
    filledLines (trimStart cs) = (filledLines cs).modifyHead trimStart := by
  induction cs using lines_induction with
  | single l hl =>
    have hs : '\n' ∉ trimStart l := fun h => hl ((trimStart_isSuffix l).mem h)
    cases h : isBlankText l <;> simp [filledLines_of_line hl, filledLines_of_line hs, filled, h]
  | cons l rest hl ih =>
    rw [filledLines_append_newline, filledLines_of_line hl]
    cases h : isBlankText l with
    | true =>
      -- the whole first line goes, with its newline
      have hn : isBlankText (l ++ ['\n']) = true := by
        simp [h, show isBlank '\n' = true from by decide]
      rw [List.append_cons, trimStart_append_of_blank hn, ih]
      simp [filled, h]
    | false =>
      have hs : '\n' ∉ trimStart l := fun h => hl ((trimStart_isSuffix l).mem h)
      rw [trimStart_append h, filledLines_append_newline, filledLines_of_line hs]
      simp [filled, h]

theorem filledLines_trimEnd (cs : List Char) :
    filledLines (trimEnd cs) = (filledLines cs).modifyLast trimEnd := by
  induction cs using lines_induction with
  | single l hl =>
    have hs : '\n' ∉ trimEnd l := fun h => hl ((trimEnd_isPrefix l).mem h)
    cases h : isBlankText l <;> simp [filledLines_of_line hl, filledLines_of_line hs, filled, h]
    · exact (List.modifyLast_concat trimEnd l []).symm
    · rfl
  | cons l rest hl ih =>
    rw [filledLines_append_newline]
    cases h : isBlankText rest with
    | true =>
      have hn : isBlankText ('\n' :: rest) = true := by
        simp [h, show isBlank '\n' = true from by decide]
      have hs : '\n' ∉ trimEnd l := fun h => hl ((trimEnd_isPrefix l).mem h)
      rw [trimEnd_append_of_blank hn, filledLines_eq_nil.2 h, List.append_nil,
        filledLines_of_line hl, filledLines_of_line hs]
      cases hb : isBlankText l <;> simp [filled, hb]
      · exact (List.modifyLast_concat trimEnd l []).symm
      · rfl
    | false =>
      have e : trimEnd (l ++ '\n' :: rest) = l ++ '\n' :: trimEnd rest := by
        rw [List.append_cons, trimEnd_append h, ← List.append_cons]
      rw [e, filledLines_append_newline, ih,
        List.modifyLast_append_of_right_ne_nil _ _ _ (by simp [filledLines_eq_nil, h])]

/-- Trimming a text trims its first filled line at the start and its last one at the end. -/
theorem filledLines_trim (cs : List Char) : filledLines (trim cs) = trimOuter (filledLines cs) := by
  rw [trim, filledLines_trimEnd, filledLines_trimStart, trimOuter]

theorem trimOuter_concat {ts : List (List Char)} (h : ts ≠ []) (t : List Char) :
    trimOuter (ts ++ [t]) = ts.modifyHead trimStart ++ [trimEnd t] := by
  obtain ⟨u, ts, rfl⟩ := List.exists_cons_of_ne_nil h
  exact List.modifyLast_concat trimEnd t (trimStart u :: ts)

theorem map_trim_trimOuter (ls : List (List Char)) : (trimOuter ls).map trim = ls.map trim := by
  rw [trimOuter, map_modifyLast_eq trim_trimEnd, map_modifyHead_eq trim_trimStart]

theorem joinWith_modifyHead_trimStart {ls : List (List Char)}
    (h : ∀ l ∈ ls, isBlankText l = false) :
    joinWith ['\n'] (ls.modifyHead trimStart) = trimStart (joinWith ['\n'] ls) := by
  cases ls with
  | nil => rfl
  | cons l ls =>
    rw [List.modifyHead_cons, joinWith_cons, joinWith_cons,
      trimStart_append (h l List.mem_cons_self)]

theorem joinWith_modifyLast_trimEnd {ls : List (List Char)} (h : ∀ l ∈ ls, isBlankText l = false) :
    joinWith ['\n'] (ls.modifyLast trimEnd) = trimEnd (joinWith ['\n'] ls) := by
  rcases List.eq_nil_or_concat ls with rfl | ⟨ls, l, rfl⟩
  · rfl
  · rw [List.concat_eq_append] at h ⊢
    rw [List.modifyLast_concat]
    rcases eq_or_ne ls [] with rfl | hne
    · simp
    · rw [joinWith_concat _ hne, joinWith_concat _ hne, trimEnd_append (h l (by simp))]

theorem joinWith_trimOuter {ls : List (List Char)} (h : ∀ l ∈ ls, isBlankText l = false) :
    joinWith ['\n'] (trimOuter ls) = trim (joinWith ['\n'] ls) := by
  rw [trimOuter,
    joinWith_modifyLast_trimEnd (forall_mem_modifyHead (fun l hl => by simpa using hl) h),
    joinWith_modifyHead_trimStart h, trim]

end UsedCss.Text
