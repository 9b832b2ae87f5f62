import UsedCss.Proofs.Text.Lines
/-!
# Trimmed lines

`trimmedLines` is what a text says when indentation, blank lines and line endings do not count.
Texts with the same trimmed lines hold the same characters, blanks apart, and where both are cut at
the first or at the last place of a character, the parts have the same trimmed lines too.
-/

namespace UsedCss.Text

variable {a a' b b' cs l w : List Char} {x : Char}

/-- The lines of a text that are not blank, trimmed. -/
def trimmedLines (cs : List Char) : List (List Char) := (filled (lines cs)).map trim

theorem trimmedLines_eq (cs : List Char) : trimmedLines cs = (filledLines cs).map trim :=
  filled_lines_map_trim cs

theorem trimmedLines_append_newline (a b : List Char) :
    trimmedLines (a ++ '\n' :: b) = trimmedLines a ++ trimmedLines b := by
  simp only [trimmedLines_eq, filledLines_append_newline, List.map_append]

theorem trimmedLines_of_line (h : '\n' ∉ l) : trimmedLines l = (filled [l]).map trim := by
  rw [trimmedLines_eq, filledLines_of_line h]

/-- A line that is not blank. -/
theorem trimmedLines_of_filled (h : '\n' ∉ l) (hb : isBlankText l = false) :
    trimmedLines l = [trim l] := by
  simp [trimmedLines_of_line h, filled, hb]

theorem trimmedLines_eq_nil : trimmedLines cs = [] ↔ isBlankText cs = true := by
  rw [trimmedLines_eq, List.map_eq_nil_iff, filledLines_eq_nil]

@[simp] theorem trimmedLines_trim (cs : List Char) : trimmedLines (trim cs) = trimmedLines cs := by
  rw [trimmedLines_eq, trimmedLines_eq, filledLines_trim, map_trim_trimOuter]

theorem trimmedLines_congr (h : trim a = trim b) : trimmedLines a = trimmedLines b := by
  rw [← trimmedLines_trim a, h, trimmedLines_trim]

@[simp] theorem trimmedLines_trimStart (cs : List Char) :
    trimmedLines (trimStart cs) = trimmedLines cs :=
  trimmedLines_congr (trim_trimStart cs)

@[simp] theorem trimmedLines_trimEnd (cs : List Char) :
    trimmedLines (trimEnd cs) = trimmedLines cs :=
  trimmedLines_congr (trim_trimEnd cs)

theorem trimmedLines_of_blank_append (h : isBlankText w = true) (cs : List Char) :
    trimmedLines (w ++ cs) = trimmedLines cs :=
  trimmedLines_congr (trim_of_blank_append h cs)

/-- Texts that are joined by a newline and blanks keep their lines. -/
theorem trimmedLines_joinWith (h : isBlankText w = true) (ts : List (List Char)) :
    trimmedLines (joinWith ('\n' :: w) ts) = ts.flatMap trimmedLines := by
  induction ts with
  | nil => rfl
  | cons t ts ih =>
    cases ts with
    | nil => simp
    | cons u ts =>
      rw [joinWith_cons_cons, List.append_assoc, List.cons_append, trimmedLines_append_newline,
        trimmedLines_of_blank_append h, ih, List.flatMap_cons (x := t)]

theorem mem_trimmedLines (h : l ∈ trimmedLines cs) :
    isBlankText l = false ∧ '\n' ∉ l ∧ trim l = l := by
  rw [trimmedLines_eq] at h
  obtain ⟨m, hm, rfl⟩ := List.mem_map.1 h
  obtain ⟨hb, hn, -⟩ := mem_filledLines hm
  obtain ⟨u, v, -, -, e⟩ := exists_trim m
  refine ⟨by simpa using hb, fun hl => hn ?_, trim_trim m⟩
  rw [e]
  simp [hl]

/-- Trimmed lines stay as they are. -/
theorem flatMap_trimmedLines (cs : List Char) :
    (trimmedLines cs).flatMap trimmedLines = trimmedLines cs := by
  have h : ∀ l ∈ trimmedLines cs, trimmedLines l = [l] := by
    intro l hl
    obtain ⟨hb, hn, ht⟩ := mem_trimmedLines hl
    rw [trimmedLines_of_filled hn hb, ht]
  rw [List.flatMap_congr h, List.flatMap_singleton']

/-! ## What trimmed lines tell -/

/-- A character that is no blank stands in a text if and only if it stands in a trimmed line. -/
theorem mem_iff_trimmedLines (hx : isBlank x = false) :
    x ∈ cs ↔ ∃ l ∈ trimmedLines cs, x ∈ l := by
  have hneedle : isNeedle [x] = true := by simp [isNeedle, hx]
  have h : ∀ l : List Char, x ∈ l ↔ occurs [x] l = true := fun l => by
    rw [occurs_iff, List.singleton_infix_iff]
  rw [h, occurs_filledLines hneedle, trimmedLines_eq]
  simp only [List.any_eq_true, List.mem_map, exists_exists_and_eq_and, h, occurs_trim hneedle]

theorem mem_congr (h : trimmedLines a = trimmedLines b) (hx : isBlank x = false) :
    x ∈ a ↔ x ∈ b := by
  rw [mem_iff_trimmedLines hx, h, ← mem_iff_trimmedLines hx]

theorem occurs_congr {needle : List Char} (hn : isNeedle needle = true)
    (h : trimmedLines a = trimmedLines b) : occurs needle a = occurs needle b := by
  have e : ∀ cs, occurs needle cs = (trimmedLines cs).any (occurs needle) := by
    intro cs
    rw [occurs_filledLines hn, trimmedLines_eq, List.any_map]
    exact List.any_congr rfl fun l => (occurs_trim hn l).symm
  rw [e a, h, ← e b]

/-! ## Cutting -/

/-- The text with nothing but its trimmed lines. -/
def tidy (cs : List Char) : List Char := joinWith ['\n'] (trimmedLines cs)

/-- What is added to a text is added to its last line. -/
theorem exists_lastLine (a : List Char) :
    ∃ before p, '\n' ∉ p ∧ ∀ t, trimmedLines (a ++ t) = trimmedLines before ++ trimmedLines (p ++ t) := by
  by_cases h : '\n' ∈ a
  · obtain ⟨before, p, hp, rfl⟩ := eq_append_cons_last h
    refine ⟨before, p, hp, fun t => ?_⟩
    rw [List.append_assoc, List.cons_append, trimmedLines_append_newline]
  · exact ⟨[], a, h, fun _ => rfl⟩

/-- What is put in front of a text is put in front of its first line. -/
theorem exists_firstLine (b : List Char) :
    ∃ q after, '\n' ∉ q ∧ ∀ t, trimmedLines (t ++ b) = trimmedLines (t ++ q) ++ trimmedLines after := by
  by_cases h : '\n' ∈ b
  · obtain ⟨q, after, rfl, hq⟩ := List.eq_append_cons_of_mem h
    refine ⟨q, after, hq, fun t => ?_⟩
    rw [← List.append_assoc, trimmedLines_append_newline]
  · exact ⟨b, [], h, fun _ => (List.append_nil _).symm⟩

/-- A cut at a character that is no blank is a cut of the trimmed lines. -/
theorem exists_tidy_append_cons (hx : isBlank x = false) (a b : List Char) :
    ∃ c d, tidy (a ++ x :: b) = c ++ x :: d ∧ trimmedLines c = trimmedLines a ∧
      trimmedLines d = trimmedLines b := by
  obtain ⟨before, p, hp, ha⟩ := exists_lastLine a
  obtain ⟨q, after, hq, hb⟩ := exists_firstLine b
  have hxn : '\n' ≠ x := by rintro rfl; exact absurd hx (by decide)
  -- the line with `x` is `p ++ x :: q`, and `x` keeps the blanks next to it from being trimmed
  have hcut : trimmedLines (p ++ x :: q) = [trimStart p ++ x :: trimEnd q] := by
    rw [trimmedLines_of_filled (by simp [hp, hq, hxn]) (by simp [hx]), trim,
      trimStart_append_cons hx, trimEnd_append_cons hx]
  have hall : trimmedLines (a ++ x :: b) =
      trimmedLines before ++ (trimStart p ++ x :: trimEnd q) :: trimmedLines after := by
    rw [ha, List.append_cons, hb, ← List.append_cons, hcut, List.singleton_append]
  refine ⟨joinWith ['\n'] (trimmedLines before ++ [trimStart p]),
    joinWith ['\n'] (trimEnd q :: trimmedLines after), ?_, ?_, ?_⟩
  · rw [tidy, hall, joinWith_append_cons, joinWith_cons, List.cons_append]
  · have e := ha []
    rw [List.append_nil, List.append_nil] at e
    rw [trimmedLines_joinWith rfl, List.flatMap_append, flatMap_trimmedLines,
      List.flatMap_singleton, trimmedLines_trimStart, e]
  · have e := hb []
    rw [List.nil_append, List.nil_append] at e
    rw [trimmedLines_joinWith rfl, List.flatMap_cons, flatMap_trimmedLines, trimmedLines_trimEnd, e]

/-- Texts with the same trimmed lines have them also in front of the first `x` and behind it. -/
theorem trimmedLines_cut_first (hx : isBlank x = false) (ha : x ∉ a) (ha' : x ∉ a')
    (h : trimmedLines (a ++ x :: b) = trimmedLines (a' ++ x :: b')) :
    trimmedLines a = trimmedLines a' ∧ trimmedLines b = trimmedLines b' := by
  obtain ⟨c, d, e, hc, hd⟩ := exists_tidy_append_cons hx a b
  obtain ⟨c', d', e', hc', hd'⟩ := exists_tidy_append_cons hx a' b'
  rw [tidy, h, ← tidy, e'] at e
  obtain ⟨rfl, rfl⟩ := append_cons_inj (fun hm => ha' ((mem_congr hc' hx).1 hm))
    (fun hm => ha ((mem_congr hc hx).1 hm)) e
  exact ⟨hc.symm.trans hc', hd.symm.trans hd'⟩

/-- The same around the last `x`. -/
theorem trimmedLines_cut_last (hx : isBlank x = false) (hb : x ∉ b) (hb' : x ∉ b')
    (h : trimmedLines (a ++ x :: b) = trimmedLines (a' ++ x :: b')) :
    trimmedLines a = trimmedLines a' ∧ trimmedLines b = trimmedLines b' := by
  obtain ⟨c, d, e, hc, hd⟩ := exists_tidy_append_cons hx a b
  obtain ⟨c', d', e', hc', hd'⟩ := exists_tidy_append_cons hx a' b'
  rw [tidy, h, ← tidy, e'] at e
  -- `x` may occur in `c`, so the cut is found from the end
  have hcc : some c' = some c := by
    rw [← beforeLast_append_cons (fun hm => hb' ((mem_congr hd' hx).1 hm)) c', e,
      beforeLast_append_cons (fun hm => hb ((mem_congr hd hx).1 hm))]
  obtain rfl := Option.some.inj hcc
  obtain rfl := (List.cons.inj (List.append_cancel_left e)).2
  exact ⟨hc.symm.trans hc', hd.symm.trans hd'⟩

/-- What follows a trimmed text stands on the last of its trimmed lines. -/
theorem trimmedLines_trim_append (a t : List Char) :
    trimmedLines (trim a ++ t) = trimmedLines (tidy a ++ t) := by
  -- `t` may start with blanks, so it matters that both texts end in the same character that is none
  rcases List.eq_nil_or_concat (trim a) with h | ⟨c, x, h⟩
  · rw [h, tidy, trimmedLines_eq_nil.2 (trim_eq_nil.1 h), joinWith_nil]
  have hx : isBlank x = false := isBlank_of_getLast?_trimEnd (a := trimStart a) (by
    rw [← trim, h, List.concat_eq_append, List.getLast?_concat])
  rw [List.concat_eq_append] at h
  obtain ⟨before, p, hp, hc⟩ := exists_lastLine c
  have hxn : '\n' ≠ x := by rintro rfl; exact absurd hx (by decide)
  have hlast : trimmedLines (p ++ [x]) = [trimStart p ++ [x]] := by
    rw [trimmedLines_of_filled (by simp [hp, hxn]) (by simp [hx]), trim, trimStart_append_cons hx,
      trimEnd_of_not_blank hx]
  calc trimmedLines (trim a ++ t)
      = trimmedLines before ++ trimmedLines (trimStart p ++ [x] ++ t) := by
        rw [h, List.append_assoc, hc, ← trimmedLines_trimStart (p ++ _), List.singleton_append,
          trimStart_append_cons hx, ← List.append_cons]
    _ = trimmedLines (joinWith ['\n'] (trimmedLines before ++ [trimStart p ++ [x] ++ t])) := by
        rw [trimmedLines_joinWith rfl, List.flatMap_append, flatMap_trimmedLines,
          List.flatMap_singleton]
    _ = trimmedLines (tidy a ++ t) := by
        rw [joinWith_concat_append, tidy, ← trimmedLines_trim a, h, hc, hlast]

end UsedCss.Text
