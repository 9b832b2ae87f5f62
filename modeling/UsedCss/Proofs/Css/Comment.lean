import UsedCss.Proofs.Css.Code
/-!
# What taking out comments puts together

No comment opener is left in a line of code, unless it comes about there: the line has comments and
nothing else between a slash and a star (`Rejoins`), and loses them. `occurs_stripLine_iff` says that
this is the only way, and that it is one. The blanks at the ends of a line have no part in its comments
(`stripLine_trim`).
-/

namespace UsedCss.Css

open UsedCss.Text

variable {inside : Bool} {c : Char} {a b w cs body line : List Char} {comments : List (List Char)}

/-- A comment: its opener, and all up to the first closer after that. -/
def IsComment (cs : List Char) : Prop :=
  ∃ body, cs = '/' :: '*' :: (body ++ ['*', '/']) ∧ ¬ ['*', '/'] <:+: body ++ ['*']

/-- On a line that starts inside a comment or not, one or more comments, and nothing else, stand between
a slash outside of comments and a star. -/
def Rejoins (inside : Bool) (line : List Char) : Prop :=
  ∃ a comments b, line = a ++ '/' :: (comments.flatten ++ '*' :: b) ∧ (stripLine inside a).2 = false ∧
    comments ≠ [] ∧ ∀ c ∈ comments, IsComment c

/-! ## One character after another -/

/-- What has been copied so far has no part in the rest. -/
theorem cutComments_append (inside : Bool) (out before cs : List Char) :
    cutComments inside (out ++ before) cs =
      (before.reverse ++ (cutComments inside out cs).1, (cutComments inside out cs).2) := by
  fun_induction cutComments inside out cs with
  | case1 out cs ih => exact ih
  | case2 out c cs h ih => rw [cutComments.eq_2 _ _ _ h]; exact ih
  | case3 out cs ih => exact ih
  | case4 out c cs h ih => rw [cutComments.eq_4 _ _ _ h]; exact ih
  | case5 inside out => cases inside <;> simp [cutComments]

theorem cutComments_copy (h : ¬ (c = '/' ∧ cs.head? = some '*')) :
    cutComments false [] (c :: cs) =
      (c :: (cutComments false [] cs).1, (cutComments false [] cs).2) := by
  have hne : ∀ t, c = '/' → cs = '*' :: t → False := fun t hc ht => h ⟨hc, by rw [ht]; rfl⟩
  rw [cutComments.eq_2 _ _ _ hne]
  exact cutComments_append false [] [c] cs

theorem cutComments_skip (h : ¬ (c = '*' ∧ cs.head? = some '/')) :
    cutComments true [] (c :: cs) = cutComments true [] cs := by
  have hne : ∀ t, c = '*' → cs = '/' :: t → False := fun t hc ht => h ⟨hc, by rw [ht]; rfl⟩
  rw [cutComments.eq_4 _ _ _ hne]

/-- A text is read by openers and single characters outside of comments, and by closers and single
characters inside. -/
theorem cutComments_induction {P : Bool → List Char → Prop}
    (opens : ∀ cs, P true cs → P false ('/' :: '*' :: cs))
    (copies : ∀ c cs, ¬ (c = '/' ∧ cs.head? = some '*') → P false cs → P false (c :: cs))
    (closes : ∀ cs, P false cs → P true ('*' :: '/' :: cs))
    (skips : ∀ c cs, ¬ (c = '*' ∧ cs.head? = some '/') → P true cs → P true (c :: cs))
    (ends : ∀ inside, P inside []) (inside : Bool) (cs : List Char) : P inside cs := by
  have hhead : ∀ {x y c : Char} {cs : List Char}, (∀ t, c = x → cs = y :: t → False) →
      ¬ (c = x ∧ cs.head? = some y) := by
    rintro x y c cs hne ⟨hc, hs⟩
    obtain ⟨t, rfl⟩ := List.head?_eq_some_iff.1 hs
    exact hne t hc rfl
  induction inside, ([] : List Char), cs using cutComments.induct with
  | case1 _ cs ih => exact opens cs ih
  | case2 _ c cs hne ih => exact copies c cs (hhead hne) ih
  | case3 _ cs ih => exact closes cs ih
  | case4 _ c cs hne ih => exact skips c cs (hhead hne) ih
  | case5 inside _ => exact ends inside

/-- A text is read as it stands also in front of more, unless what follows makes an opener or a closer
with its end. -/
theorem cutComments_split
    (hw : w.head? ≠ some (if (cutComments inside [] a).2 then '/' else '*')) :
    cutComments inside [] (a ++ w) =
      ((cutComments inside [] a).1 ++ (cutComments (cutComments inside [] a).2 [] w).1,
        (cutComments (cutComments inside [] a).2 [] w).2) := by
  induction inside, a using cutComments_induction with
  | opens _ ih => exact ih hw
  | copies c cs hc ih =>
    rw [cutComments_copy hc] at hw ⊢
    have hc' : ¬ (c = '/' ∧ (cs ++ w).head? = some '*') := by
      cases cs with
      | nil => exact fun h => hw h.2
      | cons x cs => exact hc
    rw [List.cons_append, cutComments_copy hc', ih hw]
    rfl
  | closes _ ih => exact ih hw
  | skips c cs hc ih =>
    rw [cutComments_skip hc] at hw ⊢
    have hc' : ¬ (c = '*' ∧ (cs ++ w).head? = some '/') := by
      cases cs with
      | nil => exact fun h => hw h.2
      | cons x cs => exact hc
    rw [List.cons_append, cutComments_skip hc', ih hw]
  | ends inside => cases inside <;> rfl

/-! ## Whole comments -/

/-- From inside a comment, the first closer ends it. -/
theorem cutComments_body (h : ¬ ['*', '/'] <:+: body ++ ['*']) :
    cutComments true [] (body ++ '*' :: '/' :: w) = cutComments false [] w := by
  induction body with
  | nil => rfl
  | cons x body ih =>
    have hx : ¬ (x = '*' ∧ (body ++ '*' :: '/' :: w).head? = some '/') := by
      rintro ⟨rfl, hs⟩
      cases body with
      | nil => cases hs
      | cons y body =>
        cases hs
        exact h ⟨[], body ++ ['*'], rfl⟩
    rw [List.cons_append, cutComments_skip hx]
    exact ih fun hi => h (hi.trans (List.suffix_cons x _).isInfix)

/-- What is copied inside a comment comes after its closer. -/
theorem exists_body (h : (cutComments true [] cs).1 ≠ []) :
    ∃ body w, cs = body ++ '*' :: '/' :: w ∧ ¬ ['*', '/'] <:+: body ++ ['*'] := by
  induction cs with
  | nil => exact absurd rfl h
  | cons c cs ih =>
    by_cases hc : c = '*' ∧ cs.head? = some '/'
    · obtain ⟨rfl, hs⟩ := hc
      obtain ⟨w, rfl⟩ := List.head?_eq_some_iff.1 hs
      exact ⟨[], w, rfl, by decide⟩
    · rw [cutComments_skip hc] at h
      obtain ⟨body, w, rfl, hb⟩ := ih h
      -- a closer that starts with `c` would have been taken
      refine ⟨c :: body, w, rfl, fun hi => ?_⟩
      rcases List.infix_cons_iff.1 hi with hp | hi
      · obtain ⟨rfl, hnext⟩ := List.cons_prefix_cons.1 hp
        refine hc ⟨rfl, ?_⟩
        cases body with
        | nil => exact absurd (List.cons_prefix_cons.1 hnext).1 (by decide)
        | cons y body =>
          obtain ⟨rfl, -⟩ := List.cons_prefix_cons.1 hnext
          rfl
      · exact hb hi

theorem cutComments_comment (h : IsComment cs) (w : List Char) :
    cutComments false [] (cs ++ w) = cutComments false [] w := by
  obtain ⟨body, rfl, hb⟩ := h
  have e : '/' :: '*' :: (body ++ ['*', '/']) ++ w = '/' :: '*' :: (body ++ '*' :: '/' :: w) := by simp
  rw [e]
  exact cutComments_body hb

theorem cutComments_comments (h : ∀ c ∈ comments, IsComment c) (w : List Char) :
    cutComments false [] (comments.flatten ++ w) = cutComments false [] w := by
  induction comments with
  | nil => rfl
  | cons c comments ih =>
    rw [List.forall_mem_cons] at h
    rw [List.flatten_cons, List.append_assoc, cutComments_comment h.1, ih h.2]

/-- If the first character copied is a star, nothing but comments stands in front of it. -/
theorem exists_comments {t : List Char} (h : (cutComments false [] cs).1 = '*' :: t) :
    ∃ (comments : List (List Char)) (b : List Char), cs = comments.flatten ++ '*' :: b ∧
      ∀ c ∈ comments, IsComment c := by
  -- on the length, since a whole comment is passed at once
  induction hn : cs.length using Nat.strong_induction_on generalizing cs with
  | _ n ih =>
    cases cs with
    | nil => cases h
    | cons c cs =>
      by_cases hc : c = '/' ∧ cs.head? = some '*'
      · obtain ⟨rfl, hs⟩ := hc
        obtain ⟨r, rfl⟩ := List.head?_eq_some_iff.1 hs
        have hr : (cutComments true [] r).1 = '*' :: t := h
        obtain ⟨body, w, rfl, hb⟩ := exists_body (by rw [hr]; simp)
        rw [cutComments_body hb] at hr
        obtain ⟨comments, b, rfl, hall⟩ := ih w.length (by simp at hn; omega) hr rfl
        refine ⟨('/' :: '*' :: (body ++ ['*', '/'])) :: comments, b, by simp, ?_⟩
        exact List.forall_mem_cons.2 ⟨⟨body, rfl, hb⟩, hall⟩
      · rw [cutComments_copy hc] at h
        obtain ⟨rfl, -⟩ := List.cons.inj h
        exact ⟨[], cs, rfl, by simp⟩

/-! ## Openers that come about -/

theorem cutComments_of_no_comment (h : occurs commentOpen cs = false) :
    cutComments false [] cs = (cs, false) := by
  induction cs with
  | nil => rfl
  | cons c cs ih =>
    have hc : ¬ (c = '/' ∧ cs.head? = some '*') := by
      rintro ⟨rfl, hs⟩
      obtain ⟨t, rfl⟩ := List.head?_eq_some_iff.1 hs
      exact occurs_eq_false_iff.1 h ⟨[], t, rfl⟩
    rw [cutComments_copy hc, ih (occurs_part (List.suffix_cons c cs).isInfix h)]

/-- A line is stripped of its comments, and of its blank end if it has any. -/
theorem stripLine_cases (inside : Bool) (l : List Char) :
    (stripLine inside l).2 = (cutComments inside [] l).2 ∧
      occurs commentOpen (stripLine inside l).1 = occurs commentOpen (cutComments inside [] l).1 := by
  rw [stripLine]
  split
  · next h =>
    obtain ⟨rfl, hl⟩ : inside = false ∧ occurs commentOpen l = false := by simpa using h
    rw [cutComments_of_no_comment hl]
    exact ⟨rfl, rfl⟩
  · refine ⟨rfl, ?_⟩
    obtain ⟨w, hw, e⟩ := exists_trimEnd (cutComments inside [] l).1
    conv_rhs => rw [e, occurs_append_of_blank rfl hw]

/-- An opener in what is copied stands between a slash and a star that comments kept apart. -/
theorem rejoins_of_occurs (h : occurs commentOpen (cutComments inside [] line).1 = true) :
    Rejoins inside line := by
  simp only [Rejoins, (stripLine_cases _ _).1]
  induction inside, line using cutComments_induction with
  | opens _ ih =>
    obtain ⟨a, comments, b, rfl, hrest⟩ := ih h
    exact ⟨'/' :: '*' :: a, comments, b, rfl, hrest⟩
  | copies c cs hc ih =>
    rw [cutComments_copy hc, occurs, Bool.or_eq_true, List.isPrefixOf_iff_prefix] at h
    rcases h with hp | h
    · -- the slash is this character, and the star is what is copied next
      obtain ⟨rfl, t, ht⟩ := List.cons_prefix_cons.1 hp
      obtain ⟨comments, b, rfl, hall⟩ := exists_comments ht.symm
      refine ⟨[], comments, b, rfl, rfl, ?_, hall⟩
      rintro rfl
      exact hc ⟨rfl, rfl⟩
    · obtain ⟨a, comments, b, rfl, ha, hrest⟩ := ih h
      refine ⟨c :: a, comments, b, rfl, ?_, hrest⟩
      rw [cutComments_copy fun h => hc ⟨h.1, by rw [List.head?_append, h.2]; rfl⟩]
      exact ha
  | closes _ ih =>
    obtain ⟨a, comments, b, rfl, hrest⟩ := ih h
    exact ⟨'*' :: '/' :: a, comments, b, rfl, hrest⟩
  | skips c cs hc ih =>
    rw [cutComments_skip hc] at h
    obtain ⟨a, comments, b, rfl, ha, hrest⟩ := ih h
    refine ⟨c :: a, comments, b, rfl, ?_, hrest⟩
    rw [cutComments_skip fun h => hc ⟨h.1, by rw [List.head?_append, h.2]; rfl⟩]
    exact ha
  | ends inside => cases inside <;> cases h

theorem occurs_of_rejoins (h : Rejoins inside line) :
    occurs commentOpen (cutComments inside [] line).1 = true := by
  obtain ⟨a, comments, b, rfl, ha, hne, hall⟩ := h
  rw [(stripLine_cases inside a).1] at ha
  obtain ⟨c, cs, rfl⟩ := List.exists_cons_of_ne_nil hne
  have hslash : ((c :: cs).flatten ++ '*' :: b).head? ≠ some '*' := by
    obtain ⟨body, rfl, -⟩ := hall c List.mem_cons_self
    simp
  rw [cutComments_split (by simp [ha]), ha, cutComments_copy fun h => hslash h.2,
    cutComments_comments hall, cutComments_copy (by simp), occurs_iff]
  exact ⟨(cutComments inside [] a).1, (cutComments false [] b).1, by simp [commentOpen]⟩

/-- A comment opener stands in a line of code if and only if the line had comments between a slash and a
star. -/
theorem occurs_stripLine_iff :
    occurs commentOpen (stripLine inside line).1 = true ↔ Rejoins inside line := by
  rw [(stripLine_cases inside line).2]
  exact ⟨rejoins_of_occurs, occurs_of_rejoins⟩

/-- A text has a comment opener in its code if and only if one of its lines puts one together. -/
theorem occurs_stripLines_iff {ls : List (List Char)} :
    (∃ l ∈ stripLines inside ls, occurs commentOpen l = true) ↔
      ∃ before l after, ls = before ++ l :: after ∧ Rejoins (endsInside inside before) l := by
  induction ls generalizing inside with
  | nil => simp [stripLines]
  | cons x ls ih =>
    rw [stripLines, List.exists_mem_cons_iff, occurs_stripLine_iff, ih]
    constructor
    · rintro (h | ⟨before, l, after, rfl, h⟩)
      · exact ⟨[], x, ls, rfl, h⟩
      · exact ⟨x :: before, l, after, rfl, h⟩
    · rintro ⟨before, l, after, e, h⟩
      cases before with
      | nil =>
        obtain ⟨rfl, rfl⟩ := List.cons.inj e
        exact .inl h
      | cons y before =>
        obtain ⟨rfl, rfl⟩ := List.cons.inj e
        exact .inr ⟨before, l, after, rfl, h⟩

/-! ## Blanks -/

theorem head?_of_blank {x : Char} (hw : isBlankText w = true) (hx : isBlank x = false) :
    w.head? ≠ some x :=
  fun h => not_mem_of_blank hx hw (List.mem_of_head? h)

/-- Blanks are copied outside of comments and skipped inside. -/
theorem cutComments_of_blank (inside : Bool) (hw : isBlankText w = true) :
    cutComments inside [] w = (if inside then [] else w, inside) := by
  induction w with
  | nil => cases inside <;> rfl
  | cons c w ih =>
    rw [isBlankText_cons, Bool.and_eq_true] at hw
    cases inside with
    | false =>
      rw [cutComments_copy fun h => head?_of_blank hw.2 (by decide) h.2, ih hw.2]
      rfl
    | true =>
      rw [cutComments_skip fun h => head?_of_blank hw.2 (by decide) h.2, ih hw.2]
      rfl

theorem cutComments_append_of_blank (inside : Bool) (l : List Char) (hw : isBlankText w = true) :
    cutComments inside [] (l ++ w) = ((cutComments inside [] l).1 ++
      (if (cutComments inside [] l).2 then [] else w), (cutComments inside [] l).2) := by
  have hhead : w.head? ≠ some (if (cutComments inside [] l).2 then '/' else '*') := by
    split <;> exact head?_of_blank hw (by decide)
  rw [cutComments_split hhead, cutComments_of_blank _ hw]

theorem cutComments_blank_append (inside : Bool) (l : List Char) (hw : isBlankText w = true) :
    cutComments inside [] (w ++ l) =
      ((if inside then [] else w) ++ (cutComments inside [] l).1, (cutComments inside [] l).2) := by
  induction w with
  | nil => cases inside <;> rfl
  | cons c w ih =>
    rw [isBlankText_cons, Bool.and_eq_true] at hw
    have hc : c ≠ '/' ∧ c ≠ '*' := ⟨by rintro rfl; exact absurd hw.1 (by decide),
      by rintro rfl; exact absurd hw.1 (by decide)⟩
    cases inside with
    | false =>
      rw [List.cons_append, cutComments_copy fun h => hc.1 h.1, ih hw.2]
      rfl
    | true =>
      rw [List.cons_append, cutComments_skip fun h => hc.2 h.1, ih hw.2]
      rfl

/-- The blank ends of a line have no part in its comments, and only add blank ends to its code. -/
theorem cutComments_trim (inside : Bool) (l : List Char) :
    trim (cutComments inside [] (trim l)).1 = trim (cutComments inside [] l).1 ∧
      (cutComments inside [] (trim l)).2 = (cutComments inside [] l).2 := by
  obtain ⟨u, v, hu, hv, e⟩ := exists_trim l
  have hu' : isBlankText (if inside then [] else u) = true := by split <;> [rfl; exact hu]
  have hv' : isBlankText (if (cutComments inside [] (trim l)).2 then [] else v) = true := by
    split <;> [rfl; exact hv]
  conv => enter [1, 2]; rw [e]
  conv => enter [2, 2]; rw [e]
  rw [List.append_assoc, cutComments_blank_append _ _ hu, cutComments_append_of_blank _ _ hv,
    trim_of_blank_append hu', trim_append_of_blank hv']
  exact ⟨rfl, rfl⟩

theorem trim_stripLine (inside : Bool) (l : List Char) :
    trim (stripLine inside l).1 = trim (cutComments inside [] l).1 := by
  unfold stripLine
  split
  · next h =>
    rw [Bool.and_eq_true, Bool.not_eq_true', Bool.not_eq_true'] at h
    rw [h.1, cutComments_of_no_comment h.2]
  · exact trim_trimEnd _

theorem stripLine_trim (inside : Bool) (l : List Char) :
    trim (stripLine inside (trim l)).1 = trim (stripLine inside l).1 ∧
      (stripLine inside (trim l)).2 = (stripLine inside l).2 := by
  rw [trim_stripLine, trim_stripLine, (stripLine_cases _ _).1, (stripLine_cases _ _).1]
  exact cutComments_trim inside l

/-- A blank line holds no code and leaves the comments as they are. -/
theorem stripLine_of_blank (inside : Bool) (hw : isBlankText w = true) :
    isBlankText (stripLine inside w).1 = true ∧ (stripLine inside w).2 = inside := by
  rw [← isBlankText_trim, trim_stripLine, (stripLine_cases _ _).1, cutComments_of_blank _ hw,
    isBlankText_trim]
  exact ⟨by split <;> [rfl; exact hw], rfl⟩

end UsedCss.Css
