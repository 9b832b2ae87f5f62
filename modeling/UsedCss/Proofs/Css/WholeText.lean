import UsedCss.Proofs.Css.Comment
import UsedCss.Proofs.Css.State
/-!
# Comments of a whole text

The scanner takes comments out line by line and remembers in between whether one is open. That is what
one scan of the whole text from left to right does (`eraseComments`): neither an opener nor a closer
reaches over a newline, so the scan can be broken off at the end of every line and taken up again.
-/

namespace UsedCss.Css

open UsedCss.Text

variable {c : Char} {cs l : List Char} {ls before after : List (List Char)}

/-- A text without its comments but with all its newlines, also those inside of comments. `inside` says
whether the text starts inside a comment, and the second result whether it ends inside one. -/
def eraseComments : (inside : Bool) → List Char → List Char × Bool
  | false, '/' :: '*' :: cs => eraseComments true cs
  | false, c :: cs => (eraseComments false cs).map (c :: ·) id
  | true, '*' :: '/' :: cs => eraseComments false cs
  | true, '\n' :: cs => (eraseComments true cs).map ('\n' :: ·) id
  | true, _ :: cs => eraseComments true cs
  | inside, [] => ([], inside)

/-! ## One character after another -/

theorem eraseComments_copy (h : ¬ (c = '/' ∧ cs.head? = some '*')) :
    eraseComments false (c :: cs) = (eraseComments false cs).map (c :: ·) id :=
  eraseComments.eq_2 _ _ fun _ hc hs => h ⟨hc, by rw [hs]; rfl⟩

/-- Inside of a comment only newlines are copied. -/
theorem eraseComments_skip (h : ¬ (c = '*' ∧ cs.head? = some '/')) :
    eraseComments true (c :: cs) =
      if c = '\n' then (eraseComments true cs).map (c :: ·) id else eraseComments true cs := by
  split
  · next hc =>
    subst hc
    rfl
  · next hc => exact eraseComments.eq_5 _ _ (fun _ hs ht => h ⟨hs, by rw [ht]; rfl⟩) hc

/-- On one line it does not matter that newlines are kept. -/
theorem eraseComments_line (inside : Bool) (h : '\n' ∉ l) :
    eraseComments inside l = cutComments inside [] l := by
  induction inside, l using cutComments_induction with
  | opens cs ih => exact ih fun hm => h (by simp [hm])
  | copies c cs hc ih =>
    rw [eraseComments_copy hc, cutComments_copy hc, ih fun hm => h (List.mem_cons_of_mem c hm)]
    rfl
  | closes cs ih => exact ih fun hm => h (by simp [hm])
  | skips c cs hc ih =>
    rw [List.mem_cons, not_or] at h
    rw [eraseComments_skip hc, cutComments_skip hc, if_neg (Ne.symm h.1), ih h.2]
  | ends inside => cases inside <;> rfl

/-- In front of a newline, or of nothing, a scan can be broken off and taken up again. -/
theorem eraseComments_append (inside : Bool) (a : List Char) {b : List Char}
    (hb : ∀ x ∈ b.head?, x = '\n') :
    eraseComments inside (a ++ b) =
      ((eraseComments inside a).1 ++ (eraseComments (eraseComments inside a).2 b).1,
        (eraseComments (eraseComments inside a).2 b).2) := by
  -- neither an opener nor a closer ends with a newline
  have apart : ∀ {x y c : Char} {cs : List Char}, y ≠ '\n' → ¬ (c = x ∧ cs.head? = some y) →
      ¬ (c = x ∧ (cs ++ b).head? = some y) := by
    rintro x y c cs hy h ⟨hc, hs⟩
    cases cs with
    | nil => exact hy (hb y hs)
    | cons z cs => exact h ⟨hc, hs⟩
  induction inside, a using cutComments_induction with
  | opens cs ih => exact ih
  | copies c cs hc ih =>
    rw [List.cons_append, eraseComments_copy hc, eraseComments_copy (apart (by decide) hc), ih]
    rfl
  | closes cs ih => exact ih
  | skips c cs hc ih =>
    rw [List.cons_append, eraseComments_skip hc, eraseComments_skip (apart (by decide) hc), ih]
    split <;> rfl
  | ends inside => cases inside <;> rfl

/-! ## Line after line -/

/-- Lines without their comments, one for one, as the scan of the whole text leaves them. -/
def eraseLines : (inside : Bool) → List (List Char) → List (List Char)
  | _, [] => []
  | inside, l :: ls => (eraseComments inside l).1 :: eraseLines (eraseComments inside l).2 ls

theorem endsInside_cons (inside : Bool) (h : '\n' ∉ l) (ls : List (List Char)) :
    endsInside inside (l :: ls) = endsInside (eraseComments inside l).2 ls := by
  rw [eraseComments_line inside h, ← (stripLine_cases inside l).1]
  rfl

/-- The scan of a text line after line. -/
theorem eraseComments_joinWith (inside : Bool) (ls : List (List Char)) (h : ∀ l ∈ ls, '\n' ∉ l) :
    eraseComments inside (joinWith ['\n'] ls) =
      (joinWith ['\n'] (eraseLines inside ls), endsInside inside ls) := by
  have hnext : ∀ (inside : Bool) (cs : List Char), eraseComments inside ('\n' :: cs) =
      ('\n' :: (eraseComments inside cs).1, (eraseComments inside cs).2) := by
    intro inside cs
    cases inside <;> rfl
  induction ls generalizing inside with
  | nil => cases inside <;> rfl
  | cons l ls ih =>
    rw [List.forall_mem_cons] at h
    rw [endsInside_cons inside h.1]
    cases ls with
    | nil =>
      rw [joinWith_singleton, eraseLines, eraseLines, joinWith_singleton]
      rfl
    | cons m ls =>
      have hjoin : joinWith ['\n'] (eraseLines inside (l :: m :: ls)) = (eraseComments inside l).1 ++
          '\n' :: joinWith ['\n'] (eraseLines (eraseComments inside l).2 (m :: ls)) := by
        rw [eraseLines, eraseLines, joinWith_cons_cons, List.append_assoc, List.singleton_append]
      rw [joinWith_cons_cons, List.append_assoc, List.singleton_append,
        eraseComments_append inside l (by simp), hnext, ih _ h.2, hjoin]

theorem length_eraseLines (inside : Bool) (ls : List (List Char)) :
    (eraseLines inside ls).length = ls.length := by
  induction ls generalizing inside with
  | nil => rfl
  | cons l ls ih => rw [eraseLines, List.length_cons, List.length_cons, ih]

theorem not_mem_eraseLines (inside : Bool) (h : ∀ l ∈ ls, '\n' ∉ l) :
    ∀ l ∈ eraseLines inside ls, '\n' ∉ l := by
  induction ls generalizing inside with
  | nil => simp [eraseLines]
  | cons l ls ih =>
    rw [List.forall_mem_cons] at h
    refine List.forall_mem_cons.2 ⟨fun hm => h.1 ?_, ih _ h.2⟩
    rw [eraseComments_line inside h.1] at hm
    exact (cutComments_sublist inside [] l).subset hm

/-- Each line is left as the scan of that line alone leaves it, from where the lines before it end. -/
theorem getElem?_eraseLines (inside : Bool) (h : ∀ m ∈ before, '\n' ∉ m) (l : List Char)
    (after : List (List Char)) :
    (eraseLines inside (before ++ l :: after))[before.length]? =
      some (eraseComments (endsInside inside before) l).1 := by
  induction before generalizing inside with
  | nil => rfl
  | cons m before ih =>
    rw [List.forall_mem_cons] at h
    rw [List.cons_append, eraseLines, List.length_cons, List.getElem?_cons_succ, ih _ h.2,
      endsInside_cons inside h.1]

/-! ## The scanner's part -/

theorem inComment_feed (s : Scanner) (l : List Char) :
    (s.feed l).1.inComment = (stripLine s.inComment l).2 := by
  rw [feed_eq]
  dsimp only
  split
  · rfl
  · rw [(take_eq _ _).2]

theorem inComment_feedEach (s : Scanner) (ls : List (List Char)) :
    (s.feedEach ls).inComment = endsInside s.inComment ls := by
  induction ls generalizing s with
  | nil => rfl
  | cons l ls ih =>
    have hnext : s.feedEach (l :: ls) = (s.feed l).1.feedEach ls := rfl
    rw [hnext, ih, inComment_feed]
    rfl

theorem stripLine_eq (inside : Bool) (h : '\n' ∉ l) :
    (stripLine inside l).1 = if !inside && !occurs commentOpen l then (eraseComments inside l).1
      else trimEnd (eraseComments inside l).1 := by
  rw [stripLine, eraseComments_line inside h]
  split
  · next hc =>
    obtain ⟨rfl, hl⟩ : inside = false ∧ occurs commentOpen l = false := by simpa using hc
    rw [cutComments_of_no_comment hl]
  · rfl

/-- Whatever lines a scanner of either kind has been fed, errors or not, the code of the next line is
that line of the scan of the whole text. It stays as it is if the line starts outside of comments and
opens none, and loses its blank end otherwise. Before and after the line the scanner knows whether the
scan is inside a comment there; it goes on from there with the rest of the text. -/
theorem feed_eraseComments (layout : Layout) (h : ∀ m ∈ before ++ l :: after, '\n' ∉ m) :
    let s := (Scanner.start layout).feedEach before
    let whole := eraseComments false (joinWith ['\n'] (before ++ l :: after))
    let here := eraseComments false (joinWith ['\n'] (before ++ [l]))
    let rest := eraseComments here.2 (after.flatMap ('\n' :: ·))
    (pieces (· == '\n') whole.1).length = (before ++ l :: after).length ∧
      (∃ code, (pieces (· == '\n') whole.1)[before.length]? = some code ∧
        (s.inComment = false → occurs commentOpen l = false → code = l) ∧
        (stripLine s.inComment l).1 =
          if !s.inComment && !occurs commentOpen l then code else trimEnd code) ∧
      s.inComment = (eraseComments false (joinWith ['\n'] before)).2 ∧
      (s.feed l).1.inComment = here.2 ∧
      whole = (here.1 ++ rest.1, rest.2) := by
  intro s whole here rest
  have hbefore : ∀ m ∈ before, '\n' ∉ m := fun m hm => h m (List.mem_append_left _ hm)
  have hl : '\n' ∉ l := h l (by simp)
  have hs : s.inComment = endsInside false before := inComment_feedEach _ before
  have hpieces : pieces (· == '\n') whole.1 = eraseLines false (before ++ l :: after) := by
    have e : whole.1 = joinWith ['\n'] (eraseLines false (before ++ l :: after)) :=
      congrArg Prod.fst (eraseComments_joinWith false _ h)
    rw [e, pieces_joinWith _ (not_mem_eraseLines false h)]
    rw [← List.length_pos_iff, length_eraseLines, List.length_append, List.length_cons]
    omega
  refine ⟨by rw [hpieces, length_eraseLines],
    ⟨(eraseComments s.inComment l).1, ?_, ?_, stripLine_eq _ hl⟩, ?_, ?_, ?_⟩
  · rw [hpieces, hs, getElem?_eraseLines false hbefore]
  · intro hout hno
    rw [hout, eraseComments_line false hl, cutComments_of_no_comment hno]
  · rw [hs, eraseComments_joinWith false before hbefore]
  · have hhere : ∀ m ∈ before ++ [l], '\n' ∉ m := by
      simpa [or_imp, forall_and] using And.intro hbefore hl
    rw [inComment_feed, hs]
    simp only [here, eraseComments_joinWith false _ hhere, endsInside, List.foldl_append]
    rfl
  · have e : joinWith ['\n'] (before ++ l :: after) =
        joinWith ['\n'] (before ++ [l]) ++ after.flatMap ('\n' :: ·) := by
      rw [List.append_cons, joinWith_append_flatMap _ (by simp)]
      rfl
    simp only [whole, e]
    refine eraseComments_append false _ ?_
    cases after <;> simp

/-- A closer that overlaps its opener, and a comment that reaches over the end of a line. -/
theorem feed_eraseComments_overlaps :
    (∀ m ∈ ["a /*/ b".toList] ++ "c **/ d /**/* e /*".toList :: ["f */".toList], '\n' ∉ m) ∧
      eraseComments false "a /*/ b\nc **/ d /**/* e /*\nf */".toList = ("a \n d * e \n".toList, false) ∧
      (stripLine true "c **/ d /**/* e /*".toList).1 = " d * e".toList ∧
      (((Scanner.start .body).feedEach ["a /*/ b".toList]).feed
        "c **/ d /**/* e /*".toList).1.inComment = true := by
  have h : ∀ m ∈ ["a /*/ b".toList] ++ "c **/ d /**/* e /*".toList :: ["f */".toList], '\n' ∉ m := by
    decide
  obtain ⟨-, ⟨code, hcode, -, hstrip⟩, hstart, hend, -⟩ := feed_eraseComments .body h
  have hline : code = " d * e ".toList := by
    refine Option.some.inj (hcode.symm.trans ?_)
    decide +kernel
  have hinside : ((Scanner.start .body).feedEach ["a /*/ b".toList]).inComment = true :=
    hstart.trans (by decide +kernel)
  rw [hinside, hline] at hstrip
  exact ⟨h, by decide +kernel, hstrip.trans (by decide +kernel), hend.trans (by decide +kernel)⟩

end UsedCss.Css
