import UsedCss.Proofs.Css.Code
/-!
# The state of a scanner

A scanner goes on after an unbalanced brace with the state that the line has left, in which more
braces may be closed than open. Whatever it has been fed, its state agrees with the text that it
holds (`Consistent`), and a line is answered by a construct only where nothing is left of it
(`feed_consistent`).
-/

namespace UsedCss.Css

open UsedCss.Text

namespace Scanner

variable {s : Scanner} {lines pending : List (List Char)} {code : List Char} {layout : Layout}

/-- Takes lines one after another, whatever they are answered by. -/
def feedEach (s : Scanner) (lines : List (List Char)) : Scanner :=
  lines.foldl (fun s line => (s.feed line).1) s

/-- The lines pending have no brace, none of them is blank, and the first one is a line that has
been taken. In a rule and in an at-rule the depth is that of the text; a rule has its first brace,
an at-rule knows whether it has, and with that brace the depth is not 0. -/
def Consistent (s : Scanner) : Prop :=
  match s.progress with
  | .between pending line =>
    Braceless (s.textOf pending) ∧ (∀ l ∈ pending, isBlankText l = false) ∧
      (pending = [] ∨ isBlankText (s.textOf pending) = false) ∧
      (pending ≠ [] → 1 ≤ line ∧ line ≤ s.line)
  | .inRule lines depth _ =>
    '{' ∈ s.textOf lines ∧ depth = braceDelta (s.textOf lines) ∧ depth ≠ 0
  | .inAtRule lines depth opened _ =>
    s.layout = .sheet ∧ depth = braceDelta (s.textOf lines) ∧
      (opened = true ↔ '{' ∈ s.textOf lines) ∧ (opened = true → depth ≠ 0)

/-- Whether a line's answer suits the state after it: with a construct nothing is left, and an error
names the line and leaves more braces closed than open, or else what was pending before. -/
def Answers (s : Scanner) (r : Outcome) : Prop :=
  match r.2 with
  | .ok none => True
  | .ok (some _) => r.1.progress = .none
  | .error e =>
    e.line = r.1.line ∧
      (r.1.progress.depth < 0 ∨
        ∃ pending line, s.progress = .between pending line ∧ r.1.progress = .between pending line)

/-! ## The text held -/

theorem braceless_separator (layout : Layout) : Braceless layout.separator :=
  .of_blank (isBlankText_separator layout)

@[simp] theorem textOf_nil (s : Scanner) : s.textOf [] = [] := rfl

@[simp] theorem textOf_singleton (s : Scanner) (code : List Char) : s.textOf [code] = code :=
  joinWith_singleton _ _

/-- One more line. -/
theorem textOf_cons (s : Scanner) (code : List Char) (h : lines ≠ []) :
    s.textOf (code :: lines) = s.textOf lines ++ s.layout.separator ++ code := by
  rw [textOf, textOf, List.reverse_cons, joinWith_concat _ (by simpa using h)]

theorem braceDelta_textOf_cons (s : Scanner) (code : List Char) (lines : List (List Char)) :
    braceDelta (s.textOf (code :: lines)) = braceDelta (s.textOf lines) + braceDelta code := by
  cases lines with
  | nil => simp
  | cons l ls =>
    rw [textOf_cons s code (by simp), braceDelta_append, braceDelta_append,
      (braceless_separator s.layout).delta, Int.add_zero]

theorem mem_textOf_cons {c : Char} (hc : isBlank c = false) (s : Scanner) (code : List Char)
    (lines : List (List Char)) :
    c ∈ s.textOf (code :: lines) ↔ c ∈ s.textOf lines ∨ c ∈ code := by
  cases lines with
  | nil => simp
  | cons l ls =>
    rw [textOf_cons s code (by simp)]
    simp [not_mem_of_blank hc (isBlankText_separator s.layout)]

theorem braceless_textOf_cons (s : Scanner) (code : List Char) (lines : List (List Char)) :
    Braceless (s.textOf (code :: lines)) ↔ Braceless (s.textOf lines) ∧ Braceless code := by
  simp only [Braceless, mem_textOf_cons (show isBlank '{' = false by decide),
    mem_textOf_cons (show isBlank '}' = false by decide), not_or]
  exact and_and_and_comm

theorem isBlankText_textOf_cons (s : Scanner) (h : isBlankText code = false)
    (lines : List (List Char)) : isBlankText (s.textOf (code :: lines)) = false := by
  cases lines with
  | nil => simpa using h
  | cons l ls => simp [textOf_cons s code (List.cons_ne_nil l ls), h]

/-! ## One line -/

/-- A construct in progress whose depth and first brace are those of its text, be it complete or
not. -/
def Counted (s : Scanner) : Prop :=
  match s.progress with
  | .between .. => False
  | .inRule lines depth _ => '{' ∈ s.textOf lines ∧ depth = braceDelta (s.textOf lines)
  | .inAtRule lines depth opened _ =>
    s.layout = .sheet ∧ depth = braceDelta (s.textOf lines) ∧ (opened = true ↔ '{' ∈ s.textOf lines)

theorem consistent_of_none (h : s.progress = .none) : s.Consistent := by
  simp [Consistent, h, Progress.none, Braceless]

/-- What is complete is handed back, and what is not stays consistent. -/
theorem close_consistent (h : s.Counted) (before : Scanner) :
    s.close.1.Consistent ∧ before.Answers s.close := by
  obtain ⟨layout, progress, inComment, line⟩ := s
  cases progress with
  | between pending k => exact h.elim
  | inRule lines depth k =>
    obtain ⟨hopen, hdepth⟩ := h
    unfold close
    dsimp only
    split
    · next hneg => exact ⟨⟨hopen, hdepth, Int.ne_of_lt hneg⟩, rfl, .inl hneg⟩
    split
    · exact ⟨consistent_of_none rfl, rfl⟩
    · next hne => exact ⟨⟨hopen, hdepth, hne⟩, trivial⟩
  | inAtRule lines depth opened k =>
    obtain ⟨hlayout, hdepth, hopened⟩ := h
    unfold close
    dsimp only
    split
    · next hneg => exact ⟨⟨hlayout, hdepth, hopened, fun _ => Int.ne_of_lt hneg⟩, rfl, .inl hneg⟩
    split
    · exact ⟨consistent_of_none rfl, rfl⟩
    · next hne => exact ⟨⟨hlayout, hdepth, hopened, by simpa using hne⟩, trivial⟩

/-- A line of code leaves the state consistent, whatever it is answered by. -/
theorem take_consistent (h : s.Consistent) (hline : 1 ≤ s.line) (hcode : isBlankText code = false) :
    (s.take code).1.Consistent ∧ s.Answers (s.take code) := by
  obtain ⟨layout, progress, inComment, line⟩ := s
  cases progress with
  | inRule lines depth k =>
    obtain ⟨hopen, hdepth, -⟩ := h
    refine close_consistent ?_ _
    refine ⟨?_, ?_⟩
    · exact (mem_textOf_cons (by decide) ..).2 (.inl hopen)
    · exact hdepth ▸ (braceDelta_textOf_cons ..).symm
  | inAtRule lines depth opened k =>
    obtain ⟨hlayout, hdepth, hopened, -⟩ := h
    refine close_consistent ?_ _
    refine ⟨hlayout, ?_, ?_⟩
    · exact hdepth ▸ (braceDelta_textOf_cons ..).symm
    · rw [Bool.or_eq_true, List.contains_iff_mem]
      exact (or_congr_left hopened).trans (mem_textOf_cons (by decide) ..).symm
  | between pending k =>
    obtain ⟨hbraceless, hfilled, hblank, hk⟩ := h
    have hfirst : 1 ≤ (if pending.isEmpty then line else k) ∧
        (if pending.isEmpty then line else k) ≤ line := by
      cases pending with
      | nil => exact ⟨hline, Nat.le_refl _⟩
      | cons => exact hk (by simp)
    unfold take
    dsimp only
    split
    · next hat =>
      refine close_consistent ?_ _
      refine ⟨?_, ?_, ?_⟩
      · simpa using (Bool.and_eq_true_iff.1 hat).1
      · simp
      · simp
    next hat =>
    split
    · next ho =>
      refine close_consistent ?_ _
      refine ⟨?_, ?_⟩
      · exact (mem_textOf_cons (by decide) ..).2 (.inr (by simpa using ho))
      · have hdepth := braceDelta_textOf_cons ⟨layout, .between pending k, inComment, line⟩ code pending
        rw [hbraceless.delta, Int.zero_add] at hdepth
        exact hdepth.symm
    next ho =>
    split
    · exact ⟨⟨hbraceless, hfilled, hblank, hk⟩, rfl, .inr ⟨pending, k, rfl, rfl⟩⟩
    next hc =>
    split
    · exact ⟨consistent_of_none rfl, trivial⟩
    · have hcodeBraceless : Braceless code := ⟨by simpa using ho, by simpa using hc⟩
      refine ⟨⟨?_, ?_, ?_, fun _ => hfirst⟩, trivial⟩
      · exact (braceless_textOf_cons ..).2 ⟨hbraceless, hcodeBraceless⟩
      · exact List.forall_mem_cons.2 ⟨hcode, hfilled⟩
      · exact .inr (isBlankText_textOf_cons _ hcode pending)

/-- A line that is counted, and whose comment is remembered, is not taken yet. -/
theorem Consistent.read (h : s.Consistent) (inComment : Bool) :
    ({ s with inComment, line := s.line + 1 } : Scanner).Consistent := by
  obtain ⟨layout, progress, _, line⟩ := s
  cases progress with
  | between pending k =>
    obtain ⟨hbraceless, hfilled, hblank, hk⟩ := h
    exact ⟨hbraceless, hfilled, hblank, fun hne => ⟨(hk hne).1, Nat.le_succ_of_le (hk hne).2⟩⟩
  | inRule lines depth k => exact h
  | inAtRule lines depth opened k => exact h

/-- A line is counted, and the layout stays. -/
theorem feed_keeps (s : Scanner) (line : List Char) :
    (s.feed line).1.layout = s.layout ∧ (s.feed line).1.line = s.line + 1 := by
  rw [feed_eq]
  dsimp only
  split
  · exact ⟨rfl, rfl⟩
  · rw [(take_eq _ _).2]
    exact ⟨rfl, rfl⟩

theorem isBlankText_shape (layout : Layout) (code : List Char) :
    isBlankText (layout.shape code) = isBlankText code := by
  cases layout with
  | sheet => rfl
  | body => simp [Layout.shape, trim]

theorem step_consistent (h : s.Consistent) (line : List Char) :
    (s.feed line).1.Consistent ∧ s.Answers (s.feed line) := by
  rw [feed_eq]
  dsimp only
  split
  · exact ⟨h.read _, trivial⟩
  · next hcode =>
    exact take_consistent (h.read _) (Nat.le_add_left 1 s.line) (by simpa [isBlankText_shape] using hcode)

/-! ## Any number of lines -/

theorem feedEach_keeps (s : Scanner) (lines : List (List Char)) :
    (s.feedEach lines).layout = s.layout ∧ (s.feedEach lines).line = s.line + lines.length := by
  induction lines generalizing s with
  | nil => exact ⟨rfl, rfl⟩
  | cons l ls ih =>
    obtain ⟨hlayout, hline⟩ := feed_keeps s l
    have hnext : s.feedEach (l :: ls) = (s.feed l).1.feedEach ls := rfl
    rw [hnext, (ih _).1, (ih _).2, hlayout, hline, List.length_cons]
    exact ⟨rfl, by omega⟩

theorem feedEach_consistent (h : s.Consistent) (lines : List (List Char)) :
    (s.feedEach lines).Consistent := by
  induction lines generalizing s with
  | nil => exact h
  | cons l ls ih => exact ih (step_consistent h l).1

/-- Whatever lines a scanner of either kind has been fed, with errors among them or not, one more
line leaves it consistent and of its kind, and is answered accordingly; an error names the number of
that line. -/
theorem feed_consistent (layout : Layout) (before : List (List Char)) (line : List Char) :
    let s := (start layout).feedEach before
    let r := s.feed line
    s.Consistent ∧ r.1.Consistent ∧ s.Answers r ∧ r.1.layout = layout ∧
      r.1.line = before.length + 1 := by
  intro s r
  have hs : s.Consistent := feedEach_consistent (consistent_of_none rfl) before
  obtain ⟨hlayout, hline⟩ := feedEach_keeps (start layout) before
  obtain ⟨hlayout', hline'⟩ := feed_keeps s line
  obtain ⟨hr, hanswer⟩ := step_consistent hs line
  refine ⟨hs, hr, hanswer, hlayout'.trans hlayout, ?_⟩
  rw [hline', hline]
  exact congrArg (· + 1) (Nat.zero_add _)

/-- After a rule has closed too much, a line that opens as much again completes it. -/
example :
    let s := (start .sheet).feedEach [".a \x7b".toList, "\x7d\x7d".toList]
    s.progress.depth = -1 ∧ s.feed "\x7b".toList =
      ({ start .sheet with line := 3 }, .ok (some ⟨.rule, ".a \x7b\n\x7d\x7d\n\x7b".toList, 1⟩)) := by
  decide +kernel

end Scanner

end UsedCss.Css
