import UsedCss.Css.Scanner
import UsedCss.Proofs.Css.Line
/-!
# Scanning as a run over lines of code

The scanner sees of a text only its lines of code: the lines without comments, numbered, and
not the blank ones. `feedAll_eq` says that a scan is a run over these, one step a line, and
`run_ok_iff` says when a run meets no unbalanced brace: when no line ends below the outer level.
-/

namespace UsedCss.Css

open UsedCss.Text

/-! ## Lines of code -/

/-- Lines without their comments, one for one. `inside` says whether the first one starts
inside a comment. -/
def stripLines : (inside : Bool) → List (List Char) → List (List Char)
  | _, [] => []
  | inside, l :: ls => (stripLine inside l).1 :: stripLines (stripLine inside l).2 ls

/-- Whether the last one of some lines ends inside a comment. -/
def endsInside (inside : Bool) (ls : List (List Char)) : Bool :=
  ls.foldl (fun i l => (stripLine i l).2) inside

/-- Lines with their numbers from `n` on, as the layout keeps them, without the blank ones. -/
def numberFilled (layout : Layout) (n : Nat) (ls : List (List Char)) : List (List Char × Nat) :=
  ((ls.zipIdx n).filter fun l => !isBlankText l.1).map fun l => (layout.shape l.1, l.2)

/-- The lines of code of a text, numbered from 1. -/
def codeLines (layout : Layout) (css : List Char) : List (List Char × Nat) :=
  numberFilled layout 1 (stripLines false (lines css))

/-- The texts of numbered lines. -/
def texts (ls : List (List Char × Nat)) : List (List Char) := ls.map Prod.fst

@[simp] theorem texts_nil : texts [] = [] := rfl

@[simp] theorem texts_cons (l : List Char × Nat) (ls : List (List Char × Nat)) :
    texts (l :: ls) = l.1 :: texts ls := rfl

@[simp] theorem texts_append (ls ms : List (List Char × Nat)) :
    texts (ls ++ ms) = texts ls ++ texts ms :=
  List.map_append

theorem texts_numberFilled (layout : Layout) (n : Nat) (ls : List (List Char)) :
    texts (numberFilled layout n ls) = (filled ls).map layout.shape := by
  induction ls generalizing n with
  | nil => rfl
  | cons l ls ih =>
    have ih := ih (n + 1)
    simp only [texts, numberFilled, List.map_map, List.zipIdx_cons, List.filter_cons,
      filled] at ih ⊢
    split <;> simp [← ih]

theorem texts_codeLines (layout : Layout) (css : List Char) :
    texts (codeLines layout css) = (filled (stripLines false (lines css))).map layout.shape :=
  texts_numberFilled ..

theorem isBlankText_separator (layout : Layout) : isBlankText layout.separator = true := by
  cases layout <;> rfl

theorem cutComments_sublist (inside : Bool) (out cs : List Char) :
    (cutComments inside out cs).1.Sublist (out.reverse ++ cs) := by
  fun_induction cutComments inside out cs with
  | case1 out cs ih => exact ih.trans ((List.suffix_append ['/', '*'] cs).sublist.append_left _)
  | case2 out c cs _ ih => simpa using ih
  | case3 out cs ih => exact ih.trans ((List.suffix_append ['*', '/'] cs).sublist.append_left _)
  | case4 out c cs _ ih => exact ih.trans ((List.suffix_cons c cs).sublist.append_left _)
  | case5 inside out => simp

/-- Taking out comments and blank ends only takes characters away. -/
theorem stripLine_sublist (inside : Bool) (l : List Char) : (stripLine inside l).1.Sublist l := by
  rw [stripLine]
  split
  · exact List.Sublist.refl l
  · exact (trimEnd_isPrefix _).sublist.trans (cutComments_sublist inside [] l)

theorem not_mem_stripLines {c : Char} {ls : List (List Char)} (h : ∀ l ∈ ls, c ∉ l)
    (inside : Bool) :
    ∀ l ∈ stripLines inside ls, c ∉ l := by
  induction ls generalizing inside with
  | nil => simp [stripLines]
  | cons l ls ih =>
    rw [List.forall_mem_cons] at h
    exact List.forall_mem_cons.2 ⟨fun hc => h.1 ((stripLine_sublist inside l).subset hc), ih h.2 _⟩

/-- A line of code is a stripped line that is not blank, as the layout keeps it. -/
theorem mem_codeLines {layout : Layout} {css l : List Char} (h : l ∈ texts (codeLines layout css)) :
    ∃ m ∈ stripLines false (lines css), isBlankText m = false ∧ '\n' ∉ m ∧ l = layout.shape m := by
  rw [texts_codeLines] at h
  obtain ⟨m, hm, rfl⟩ := List.mem_map.1 h
  obtain ⟨hm, hb⟩ := List.mem_filter.1 hm
  exact ⟨m, hm, by simpa using hb, not_mem_stripLines (fun l hl => (mem_lines hl).1) false m hm, rfl⟩

/-- Lines in which no comment starts are code as they stand. -/
theorem stripLines_of_no_comment {ls : List (List Char)}
    (h : ∀ l ∈ ls, occurs commentOpen l = false) :
    stripLines false ls = ls := by
  induction ls with
  | nil => rfl
  | cons l ls ih =>
    have e : stripLine false l = (l, false) := by simp [stripLine, h l List.mem_cons_self]
    rw [stripLines, e, ih (fun m hm => h m (List.mem_cons_of_mem _ hm))]

/-- The code of a text in which no comment starts. -/
theorem texts_codeLines_sheet {css : List Char} (h : occurs commentOpen css = false) :
    texts (codeLines .sheet css) = filled (lines css) := by
  rw [texts_codeLines, stripLines_of_no_comment fun l hl => occurs_part (mem_lines hl).2 h]
  exact List.map_id _

theorem endsInside_of_no_comment {ls : List (List Char)}
    (h : ∀ l ∈ ls, occurs commentOpen l = false) :
    endsInside false ls = false := by
  induction ls with
  | nil => rfl
  | cons l ls ih =>
    have e : stripLine false l = (l, false) := by simp [stripLine, h l List.mem_cons_self]
    rw [endsInside, List.foldl_cons, e]
    exact ih fun m hm => h m (List.mem_cons_of_mem _ hm)

/-! ## Steps -/

namespace Progress

/-- What a line of code brings: the construct that it completes, if any, and the progress
after it. -/
def step (layout : Layout) (p : Progress) (l : List Char × Nat) :
    Except UnbalancedBrace (Option Construct × Progress) :=
  let r := ({ layout, progress := p, line := l.2 } : Scanner).take l.1
  r.2.map (·, r.1.progress)

/-- What lines of code bring one after another. -/
def run (layout : Layout) : Progress → List (List Char × Nat) →
    Except UnbalancedBrace (List Construct × Progress)
  | p, [] => .ok ([], p)
  | p, l :: ls =>
    (p.step layout l).bind fun r => (r.2.run layout ls).map fun r' => (r.1.toList ++ r'.1, r'.2)

/-- Hands back the construct in progress once its braces balance. -/
def settle (layout : Layout) (n : Nat) (p : Progress) :
    Except UnbalancedBrace (Option Construct × Progress) :=
  let r := ({ layout, progress := p, line := n } : Scanner).close
  r.2.map (·, r.1.progress)

/-- How deep the progress is. -/
def depth : Progress → Int
  | .between .. => 0
  | .inRule _ d _ => d
  | .inAtRule _ d _ _ => d

end Progress

/-- Whether a line of code opens an at-rule block in a layout. -/
def startsAtRule (layout : Layout) (code : List Char) : Bool :=
  layout = .sheet && isBlockAtRule (trimStart code)

variable {layout : Layout} {p q : Progress} {n : Nat}

theorem step_between (pending : List (List Char)) (k : Nat) (code : List Char) (n : Nat) :
    (Progress.between pending k).step layout (code, n) =
      if startsAtRule layout code then
        (Progress.inAtRule [code] (braceDelta code) (code.contains '{') n).settle layout n
      else if code.contains '{' then
        (Progress.inRule (code :: pending) (braceDelta code) (if pending.isEmpty then n else k)).settle layout n
      else if code.contains '}' then .error ⟨n⟩
      else if endsStatement code then .ok (none, .none)
      else .ok (none, .between (code :: pending) (if pending.isEmpty then n else k)) := by
  have e : ({ layout, progress := .between pending k, line := n } : Scanner).opensAtRule code =
      startsAtRule layout code := rfl
  unfold Progress.step Scanner.take
  simp only [e]
  cases startsAtRule layout code with
  | true => rfl
  | false =>
    cases code.contains '{' with
    | true => rfl
    | false =>
      cases code.contains '}' with
      | true => rfl
      | false => cases endsStatement code <;> rfl

theorem step_inRule (ls : List (List Char)) (d : Int) (k : Nat) (code : List Char) (n : Nat) :
    (Progress.inRule ls d k).step layout (code, n) =
      (Progress.inRule (code :: ls) (d + braceDelta code) k).settle layout n := rfl

theorem step_inAtRule (ls : List (List Char)) (d : Int) (o : Bool) (k : Nat) (code : List Char)
    (n : Nat) :
    (Progress.inAtRule ls d o k).step layout (code, n) =
      (Progress.inAtRule (code :: ls) (d + braceDelta code) (o || code.contains '{') k).settle layout n := rfl

theorem settle_inRule (ls : List (List Char)) (d : Int) (k n : Nat) :
    (Progress.inRule ls d k).settle layout n =
      if d < 0 then .error ⟨n⟩
      else if d = 0 then .ok (some ⟨.rule, joinWith layout.separator ls.reverse, k⟩, .none)
      else .ok (none, .inRule ls d k) := by
  unfold Progress.settle Scanner.close
  by_cases h : d < 0
  · simp only [h, if_true]; rfl
  · by_cases h0 : d = 0 <;> simp only [h, h0, if_true, if_false] <;> rfl

theorem settle_inAtRule (ls : List (List Char)) (d : Int) (o : Bool) (k n : Nat) :
    (Progress.inAtRule ls d o k).settle layout n =
      if d < 0 then .error ⟨n⟩
      else if o && d = 0 then .ok (some ⟨.atRule, joinWith layout.separator ls.reverse, k⟩, .none)
      else .ok (none, .inAtRule ls d o k) := by
  unfold Progress.settle Scanner.close
  by_cases h : d < 0
  · simp only [h, if_true]; rfl
  · cases h0 : (o && decide (d = 0)) <;> simp only [h, h0, if_true, if_false, Bool.false_eq_true] <;> rfl

/-! ## Scans are runs -/

/-- A step changes the progress and nothing else, and does not look at anything else. -/
theorem take_eq (s : Scanner) (code : List Char) :
    s.progress.step s.layout (code, s.line) = (s.take code).2.map (·, (s.take code).1.progress) ∧
      (s.take code).1 = { s with progress := (s.take code).1.progress } := by
  obtain ⟨layout, p, inside, n⟩ := s
  cases p with
  | between pending k =>
    rw [step_between, settle_inRule, settle_inAtRule]
    simp only [Scanner.take, Scanner.opensAtRule, startsAtRule, Scanner.close]
    repeat' split
    all_goals exact ⟨rfl, rfl⟩
  | inRule ls d k =>
    rw [step_inRule, settle_inRule]
    simp only [Scanner.take, Scanner.close]
    repeat' split
    all_goals exact ⟨rfl, rfl⟩
  | inAtRule ls d o k =>
    rw [step_inAtRule, settle_inAtRule]
    simp only [Scanner.take, Scanner.close]
    repeat' split
    all_goals exact ⟨rfl, rfl⟩

theorem numberFilled_cons (layout : Layout) (n : Nat) (l : List Char) (ls : List (List Char)) :
    numberFilled layout n (l :: ls) =
      if isBlankText l then numberFilled layout (n + 1) ls
      else (layout.shape l, n) :: numberFilled layout (n + 1) ls := by
  simp only [numberFilled, List.zipIdx_cons, List.filter_cons]
  cases isBlankText l <;> simp

/-- Reading a line and taking it, if it holds code. -/
theorem feed_eq (s : Scanner) (l : List Char) :
    s.feed l =
      let read : Scanner := { s with inComment := (stripLine s.inComment l).2, line := s.line + 1 }
      if isBlankText (stripLine s.inComment l).1 then (read, .ok none)
      else read.take (s.layout.shape (stripLine s.inComment l).1) := by
  unfold Scanner.feed Scanner.read
  cases h : isBlankText (stripLine s.inComment l).1 <;> simp [h]

/-- A scan is a run over the lines of code. -/
theorem feedAll_eq (s : Scanner) (found : List Construct) (ls : List (List Char)) :
    s.feedAll found ls =
      (s.progress.run s.layout (numberFilled s.layout (s.line + 1) (stripLines s.inComment ls))).map fun r =>
        (found.reverse ++ r.1,
          { s with progress := r.2, inComment := endsInside s.inComment ls, line := s.line + ls.length }) := by
  -- `found` is kept newest first, and the state of the scanner changes with every line
  induction ls generalizing s found with
  | nil => simp [Scanner.feedAll, numberFilled, stripLines, Progress.run, endsInside, Except.map]
  | cons l ls ih =>
    have hlen : s.line + (l :: ls).length = s.line + 1 + ls.length := by simp; omega
    rw [Scanner.feedAll, stripLines, numberFilled_cons, feed_eq, hlen]
    cases hb : isBlankText (stripLine s.inComment l).1 with
    | true =>
      simp only [if_true, ih]
      rfl
    | false =>
      simp only [Bool.false_eq_true, if_false, Progress.run]
      obtain ⟨h1, h2⟩ :=
        take_eq { s with inComment := (stripLine s.inComment l).2, line := s.line + 1 }
        (s.layout.shape (stripLine s.inComment l).1)
      generalize Scanner.take _ _ = r at h1 h2 ⊢
      obtain ⟨s', r⟩ := r
      simp only at h1 h2
      rw [h1]
      cases r with
      | error e => rfl
      | ok c =>
        simp only [ih]
        rw [h2]
        simp only [Except.map, Except.bind]
        generalize Progress.run _ _ _ = rest
        cases rest <;> cases c <;> simp [endsInside]

/-! ## Unbalanced braces -/

theorem braceDelta_shape (layout : Layout) (l : List Char) : braceDelta (layout.shape l) = braceDelta l := by
  cases layout with
  | sheet => rfl
  | body => exact braceDelta_trim l

theorem settle_depth (hp : ∀ ls k, p ≠ .between ls k) :
    (p.depth < 0 → p.settle layout n = .error ⟨n⟩) ∧
      (0 ≤ p.depth → ∃ c q, p.settle layout n = .ok (c, q) ∧ q.depth = p.depth) := by
  cases p with
  | between ls k => exact absurd rfl (hp ls k)
  | inRule ls d k =>
    rw [settle_inRule]
    refine ⟨fun h => if_pos h, fun h => ?_⟩
    rw [if_neg (show ¬ d < 0 from Int.not_lt.2 h)]
    split
    · next h0 => exact ⟨_, _, rfl, h0.symm⟩
    · exact ⟨_, _, rfl, rfl⟩
  | inAtRule ls d o k =>
    rw [settle_inAtRule]
    refine ⟨fun h => if_pos h, fun h => ?_⟩
    rw [if_neg (show ¬ d < 0 from Int.not_lt.2 h)]
    -- a completed construct leads back to depth 0, where it is complete
    split
    · next h0 => exact ⟨_, _, rfl, (by simpa using h0 : _ ∧ d = 0).2.symm⟩
    · exact ⟨_, _, rfl, rfl⟩

/-- A line that ends below the outer level is an error; any other line leads as deep as its
braces say. -/
theorem step_depth (layout : Layout) (p : Progress) (l : List Char × Nat) :
    (p.depth + braceDelta l.1 < 0 → p.step layout l = .error ⟨l.2⟩) ∧
      (0 ≤ p.depth + braceDelta l.1 →
        ∃ c q, p.step layout l = .ok (c, q) ∧ q.depth = p.depth + braceDelta l.1) := by
  obtain ⟨code, n⟩ := l
  cases p with
  | inRule ls d k => exact settle_depth (p := .inRule (code :: ls) (d + braceDelta code) k) nofun
  | inAtRule ls d o k =>
    exact settle_depth (p := .inAtRule (code :: ls) (d + braceDelta code) (o || code.contains '{')
      k) nofun
  | between pending k =>
    rw [step_between,
      show (Progress.between pending k).depth + braceDelta code = braceDelta code from Int.zero_add _]
    split
    · exact settle_depth (p := .inAtRule [code] (braceDelta code) (code.contains '{') n) nofun
    split
    · exact settle_depth (p := .inRule (code :: pending) (braceDelta code) _) nofun
    next ho =>
    -- without an opening brace, a line ends below the outer level if and only if it closes one
    have ho : '{' ∉ code := by simpa using ho
    split
    · next hc =>
      refine ⟨fun _ => rfl, fun h => absurd (braceless_of_delta ho h).2 ?_⟩
      simpa using hc
    · next hc =>
      have h0 : braceDelta code = 0 := Braceless.delta ⟨ho, by simpa using hc⟩
      refine ⟨fun h => by omega, fun _ => ?_⟩
      split
      · exact ⟨_, _, rfl, h0.symm⟩
      · exact ⟨_, _, rfl, h0.symm⟩

theorem run_cons_eq_ok {l : List Char × Nat} {ls : List (List Char × Nat)} {cs : List Construct} :
    p.run layout (l :: ls) = .ok (cs, q) ↔
      ∃ c p' ds, p.step layout l = .ok (c, p') ∧ p'.run layout ls = .ok (ds, q) ∧
        cs = c.toList ++ ds := by
  rw [Progress.run]
  cases p.step layout l with
  | error e => simp [Except.bind]
  | ok r =>
    obtain ⟨c, p'⟩ := r
    simp only [Except.bind]
    cases hr : p'.run layout ls with
    | error e =>
      apply iff_of_false (by simp [Except.map])
      rintro ⟨c', p'', ds, h, h', -⟩
      simp only [Except.ok.injEq, Prod.mk.injEq] at h
      rw [← h.2, hr] at h'
      cases h'
    | ok r =>
      obtain ⟨ds, q'⟩ := r
      constructor
      · intro h
        simp only [Except.map, Except.ok.injEq, Prod.mk.injEq] at h
        exact ⟨c, p', ds, rfl, by rw [hr, h.2], h.1.symm⟩
      · rintro ⟨c', p'', ds', h, h', rfl⟩
        simp only [Except.ok.injEq, Prod.mk.injEq] at h
        obtain ⟨rfl, rfl⟩ := h
        rw [hr] at h'
        simp only [Except.ok.injEq, Prod.mk.injEq] at h'
        obtain ⟨rfl, rfl⟩ := h'
        rfl

theorem run_append {ls ms : List (List Char × Nat)} {cs ds : List Construct} {p' : Progress}
    (h : p.run layout ls = .ok (cs, p')) (h' : p'.run layout ms = .ok (ds, q)) :
    p.run layout (ls ++ ms) = .ok (cs ++ ds, q) := by
  induction ls generalizing p cs with
  | nil =>
    obtain ⟨rfl, rfl⟩ : [] = cs ∧ p = p' := by simpa [Progress.run] using h
    exact h'
  | cons l ls ih =>
    obtain ⟨c, r, es, hs, hr, rfl⟩ := run_cons_eq_ok.1 h
    exact run_cons_eq_ok.2 ⟨c, r, es ++ ds, hs, ih hr, by simp⟩

/-- A run leads as deep as the braces of its lines say. -/
theorem run_depth {ls : List (List Char × Nat)} {cs : List Construct}
    (h : p.run layout ls = .ok (cs, q)) :
    q.depth = p.depth + depth (texts ls) := by
  induction ls generalizing p cs with
  | nil =>
    obtain ⟨-, rfl⟩ : [] = cs ∧ p = q := by simpa [Progress.run] using h
    simp
  | cons l ls ih =>
    obtain ⟨c, p', ds, hs, hr, -⟩ := run_cons_eq_ok.1 h
    have hd : 0 ≤ p.depth + braceDelta l.1 := by
      by_contra hd
      rw [(step_depth layout p l).1 (Int.not_le.1 hd)] at hs
      cases hs
    obtain ⟨c', p'', hs', hp⟩ := (step_depth layout p l).2 hd
    rw [hs] at hs'
    cases hs'
    rw [ih hr, hp, texts_cons, depth_cons, Int.add_assoc]

/-- A run meets no unbalanced brace if and only if none of its lines ends below the outer level. -/
theorem run_ok_iff (p : Progress) (ls : List (List Char × Nat)) :
    (∃ cs q, p.run layout ls = .ok (cs, q)) ↔ ∀ m, m <+: texts ls → m ≠ [] →
      0 ≤ p.depth + depth m := by
  induction ls generalizing p with
  | nil => simp [Progress.run]
  | cons l ls ih =>
    by_cases hd : p.depth + braceDelta l.1 < 0
    · refine iff_of_false ?_ fun h => ?_
      · rintro ⟨cs, q, h⟩
        obtain ⟨c, p', ds, hs, -, -⟩ := run_cons_eq_ok.1 h
        rw [(step_depth layout p l).1 hd] at hs
        cases hs
      · have := h [l.1] (by simp) (by simp)
        simp only [depth_cons, depth_nil] at this
        omega
    · obtain ⟨c, p', hs, hp⟩ := (step_depth layout p l).2 (Int.not_lt.1 hd)
      constructor
      · rintro ⟨cs, q, h⟩ m hm hne
        obtain ⟨c', p'', ds, hs', hr, -⟩ := run_cons_eq_ok.1 h
        rw [hs] at hs'
        cases hs'
        obtain ⟨x, m, rfl⟩ := List.exists_cons_of_ne_nil hne
        obtain ⟨rfl, hm'⟩ := List.cons_prefix_cons.1 hm
        rw [depth_cons, ← Int.add_assoc, ← hp]
        rcases eq_or_ne m [] with rfl | hne
        · simp only [depth_nil]; omega
        · exact (ih p').1 ⟨ds, q, hr⟩ m hm' hne
      · intro h
        obtain ⟨ds, q, hr⟩ := (ih p').2 fun m hm hne => by
          have := h (l.1 :: m) (List.cons_prefix_cons.2 ⟨rfl, hm⟩) (by simp)
          rw [depth_cons] at this
          omega
        exact ⟨c.toList ++ ds, q, run_cons_eq_ok.2 ⟨c, p', ds, hs, hr, rfl⟩⟩

theorem scan_of_feedAll {css : List Char} {found : List Construct} {s : Scanner}
    (h : (Scanner.start layout).feedAll [] (lines css) = .ok (found, s)) :
    scan layout css = .ok found := by
  rw [scan, h]
  rfl

/-- A scan is the run over the lines of code of its text. -/
theorem scan_eq (layout : Layout) (css : List Char) :
    scan layout css = (Progress.none.run layout (codeLines layout css)).map Prod.fst := by
  rw [scan, feedAll_eq]
  simp only [Scanner.start, List.reverse_nil, List.nil_append, codeLines]
  generalize Progress.run _ _ _ = r
  cases r <;> rfl

/-- A scan succeeds if and only if the run over its lines of code does, with the same constructs. -/
theorem scan_eq_ok_iff {css : List Char} {cs : List Construct} :
    scan layout css = .ok cs ↔ ∃ q, Progress.none.run layout (codeLines layout css) =
      .ok (cs, q) := by
  rw [scan_eq]
  cases Progress.none.run layout (codeLines layout css) with
  | error e => simp [Except.map]
  | ok r => obtain ⟨ds, q⟩ := r; simp [Except.map]

theorem scan_eq_error_iff {css : List Char} {e : UnbalancedBrace} :
    scan layout css = .error e ↔ Progress.none.run layout (codeLines layout css) = .error e := by
  rw [scan_eq]
  cases Progress.none.run layout (codeLines layout css) <;> simp [Except.map]

theorem map_braceDelta_shape (layout : Layout) (ls : List (List Char)) :
    (ls.map layout.shape).map braceDelta = ls.map braceDelta := by
  rw [List.map_map]
  exact List.map_congr_left fun l _ => braceDelta_shape layout l

/-- A scan succeeds if and only if no line without its comments ends below the outer level. -/
theorem exists_scan_iff {css : List Char} :
    (∃ cs, scan layout css = .ok cs) ↔ ∀ m, m <+: stripLines false (lines css) → 0 ≤ depth m := by
  have hrun : (∃ cs, scan layout css = .ok cs) ↔ ∀ m, m <+: texts (codeLines layout css) → 0 ≤ depth m := by
    simp only [scan_eq_ok_iff, run_ok_iff, Progress.depth, Progress.none, Int.zero_add]
    refine forall_congr' fun m => imp_congr_right fun _ => ⟨fun h => ?_, fun h _ => h⟩
    rcases eq_or_ne m [] with rfl | hne
    · exact Int.le_refl 0
    · exact h hne
  have e := map_braceDelta_shape layout (filled (stripLines false (lines css)))
  rw [hrun, texts_codeLines]
  exact .trans ⟨depth_prefix_congr e, depth_prefix_congr e.symm⟩ depth_prefix_filled

end UsedCss.Css
