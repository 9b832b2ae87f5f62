import UsedCss.Proofs.Css.Segment
/-!
# Nesting

A text nests under some open braces if it never closes more than are open, read character by
character. Only its braces matter for that (`nests_congr`), so trimming, joining by blanks and leaving
blank lines out do not, and in a text that nests every construct does (`nests_construct`).
-/

namespace UsedCss.Css

open UsedCss.Text

variable {layout : Layout} {d : Int} {a b w css : List Char} {ls : List (List Char)} {cs : List Construct}

/-- Under `d` open braces, no prefix of the text closes more than are open. -/
def Nests (d : Int) (cs : List Char) : Prop := ∀ m, m <+: cs → 0 ≤ d + braceDelta m

/-- A text none of whose prefixes closes more than it opens. -/
def WellNested (cs : List Char) : Prop := ∀ m, m <+: cs → m.count '}' ≤ m.count '{'

theorem wellNested_iff : WellNested a ↔ Nests 0 a := by
  refine forall_congr' fun m => imp_congr_right fun _ => ?_
  rw [braceDelta_eq_count]
  omega

theorem Nests.nonneg (h : Nests d a) : 0 ≤ d := by simpa using h [] List.nil_prefix

theorem Nests.end_nonneg (h : Nests d a) : 0 ≤ d + braceDelta a := h a List.prefix_rfl

theorem nests_singleton {c : Char} : Nests d [c] ↔ 0 ≤ d ∧ 0 ≤ d + braceDelta [c] := by
  refine ⟨fun h => ⟨h.nonneg, h.end_nonneg⟩, fun ⟨h0, h1⟩ m hm => ?_⟩
  have hm : m <+: [] ++ [c] := hm
  rcases List.prefix_concat_iff.1 hm with rfl | hm
  · exact h1
  · rw [List.prefix_nil.1 hm]
    simpa using h0

theorem nests_append : Nests d (a ++ b) ↔ Nests d a ∧ Nests (d + braceDelta a) b := by
  constructor
  · intro h
    refine ⟨fun m hm => h m (hm.trans (List.prefix_append a b)), fun m hm => ?_⟩
    have := h (a ++ m) ((List.prefix_append_right_inj a).2 hm)
    rw [braceDelta_append] at this
    omega
  · rintro ⟨ha, hb⟩ m hm
    rcases List.prefix_or_prefix_of_prefix hm (List.prefix_append a b) with h | ⟨t, rfl⟩
    · exact ha m h
    · have := hb t ((List.prefix_append_right_inj a).1 hm)
      rw [braceDelta_append]
      omega

/-- Texts that close what they open, one after another. -/
theorem nests_flatten (h0 : 0 ≤ d) (h : ∀ l ∈ ls, Nests d l → braceDelta l = 0) :
    Nests d ls.flatten ↔ ∀ l ∈ ls, Nests d l := by
  induction ls with
  | nil =>
    refine iff_of_true (fun m hm => ?_) (by simp)
    rw [List.prefix_nil.1 hm]
    simpa using h0
  | cons l ls ih =>
    rw [List.forall_mem_cons] at h ⊢
    rw [List.flatten_cons, nests_append, ← ih h.2]
    refine and_congr_right fun hl => ?_
    rw [h.1 hl, Int.add_zero]

/-! ## Braces -/

/-- The braces of a text. -/
def braces (cs : List Char) : List Char := cs.filter fun c => c = '{' || c = '}'

@[simp] theorem braces_append (a b : List Char) : braces (a ++ b) = braces a ++ braces b :=
  List.filter_append ..

theorem braces_eq_nil : braces a = [] ↔ Braceless a := by
  simp only [braces, List.filter_eq_nil_iff, Bool.or_eq_true, decide_eq_true_eq, not_or, Braceless]
  exact ⟨fun h => ⟨fun hc => (h _ hc).1 rfl, fun hc => (h _ hc).2 rfl⟩,
    fun h c hc => ⟨ne_of_mem_of_not_mem hc h.1, ne_of_mem_of_not_mem hc h.2⟩⟩

theorem braces_of_blank (h : isBlankText w = true) : braces w = [] :=
  braces_eq_nil.2 (Braceless.of_blank h)

theorem braceDelta_braces (cs : List Char) : braceDelta (braces cs) = braceDelta cs := by
  rw [braceDelta_eq_count, braceDelta_eq_count, braces, List.count_filter rfl, List.count_filter rfl]

theorem nests_braces : Nests d (braces a) ↔ Nests d a := by
  constructor
  · intro h m hm
    have := h (braces m) (hm.filter _)
    rwa [braceDelta_braces] at this
  · intro h m hm
    obtain ⟨r, hr, rfl⟩ := List.prefix_filter_iff.1 hm
    have := h r hr
    rwa [← braceDelta_braces r] at this

/-- Only the braces of a text matter for how it nests. -/
theorem nests_congr (h : braces a = braces b) : Nests d a ↔ Nests d b := by
  rw [← nests_braces, h, nests_braces]

theorem braceDelta_congr (h : braces a = braces b) : braceDelta a = braceDelta b := by
  rw [← braceDelta_braces, h, braceDelta_braces]

@[simp] theorem braces_trim (cs : List Char) : braces (trim cs) = braces cs := by
  obtain ⟨u, v, hu, hv, e⟩ := exists_trim cs
  conv_rhs => rw [e]
  simp [braces_of_blank hu, braces_of_blank hv]

theorem braces_shape (layout : Layout) (l : List Char) : braces (layout.shape l) = braces l := by
  cases layout with
  | sheet => rfl
  | body => exact braces_trim l

theorem braces_joinWith {sep : List Char} (hs : isBlankText sep = true) (ls : List (List Char)) :
    braces (joinWith sep ls) = braces ls.flatten := by
  induction ls with
  | nil => rfl
  | cons l ls ih =>
    cases ls with
    | nil => simp
    | cons m ls =>
      rw [joinWith_cons_cons, braces_append, braces_append, braces_of_blank hs, List.append_nil, ih,
        List.flatten_cons (L := m :: ls), braces_append]

theorem braces_filled (ls : List (List Char)) : braces (filled ls).flatten = braces ls.flatten := by
  induction ls with
  | nil => rfl
  | cons l ls ih =>
    rw [List.flatten_cons, braces_append, ← ih]
    cases h : isBlankText l with
    | true => simp [filled, h, braces_of_blank h]
    | false => simp [filled, h]

theorem braces_map_shape (layout : Layout) (ls : List (List Char)) :
    braces (ls.map layout.shape).flatten = braces ls.flatten := by
  induction ls with
  | nil => rfl
  | cons l ls ih =>
    rw [List.map_cons, List.flatten_cons, List.flatten_cons, braces_append, braces_append, ih,
      braces_shape]

theorem braces_filledLines (cs : List Char) : braces (filledLines cs).flatten = braces cs := by
  have line : ∀ l, braces (filled [l]).flatten = braces l := fun l => by simp [braces_filled]
  induction cs using lines_induction with
  | single l hl => rw [filledLines_of_line hl, line]
  | cons l rest hl ih =>
    have hn : braces ('\n' :: rest) = braces rest := rfl
    rw [filledLines_append_newline, List.flatten_append, braces_append, ih, filledLines_of_line hl, line,
      braces_append, hn]

/-- The lines of code of a text have the braces of all its lines. -/
theorem braces_codeLines (layout : Layout) (css : List Char) :
    braces (texts (codeLines layout css)).flatten = braces (stripLines false (lines css)).flatten := by
  rw [texts_codeLines, braces_map_shape, braces_filled]

/-- A text is well nested if its lines are, one after another. -/
theorem wellNested_joinWith {ls : List (List Char)} :
    WellNested (joinWith ['\n'] ls) ↔ Nests 0 ls.flatten := by
  rw [wellNested_iff, nests_congr (braces_joinWith rfl ls)]

/-! ## Constructs -/

/-- A construct closes what it opens. -/
theorem braceDelta_construct (h : scan layout css = .ok cs) : ∀ c ∈ cs, braceDelta c.text = 0 := by
  intro c hc
  obtain ⟨before, ls, after, -, -, hcomplete, e⟩ := exists_lines h hc
  have hs : braceDelta layout.separator = 0 :=
    (Braceless.of_blank (isBlankText_separator layout)).delta
  rw [e, braceDelta_joinWith hs, hcomplete.depth_eq]

/-- In a text that nests, every construct does, since the braces in front of it balance. -/
theorem nests_construct (h : scan layout css = .ok cs)
    (hn : Nests d (stripLines false (lines css)).flatten) : ∀ c ∈ cs, Nests d c.text := by
  intro c hc
  obtain ⟨before, ls, after, hcode, h0, -, e⟩ := exists_lines h hc
  rw [e, nests_congr (braces_joinWith (isBlankText_separator layout) ls)]
  rw [← nests_congr (braces_codeLines layout css), hcode, List.flatten_append, List.flatten_append,
    nests_append, nests_append] at hn
  have hbefore : d + braceDelta before.flatten = d := (congrArg (d + ·) h0).trans (Int.add_zero d)
  rw [hbefore] at hn
  exact hn.2.1

end UsedCss.Css
