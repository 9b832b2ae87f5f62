import UsedCss.Proofs.Css.Line
import UsedCss.Proofs.Css.SelectorList
/-!
# Class names across lines and lists

A class name does not reach over a character that no name has. So it does not matter for the
names where a selector list is cut at its commas, broken into lines or trimmed, and a rule is
included if and only if what stands in front of its first brace mentions a class of the target set.
-/

namespace UsedCss.Css

open UsedCss.Text

variable {target : ClassSet}

/-! ## Class names -/

theorem classNames_of_not_mem {cs : List Char} (h : '.' ∉ cs) : classNames cs = [] := by
  have e : cs.dropWhile (· != '.') = [] :=
    List.dropWhile_eq_nil_iff.2 fun c hc => by simpa using ne_of_mem_of_not_mem hc h
  rw [classNames]
  split
  · rfl
  · next h => rw [e] at h; cases h

/-- The name after the first dot, if it is not empty, and the names after it. -/
theorem classNames_append_dot {a : List Char} (h : '.' ∉ a) (b : List Char) :
    classNames (a ++ '.' :: b) =
      [b.takeWhile isNameChar].filter (fun n => !n.isEmpty) ++ classNames (b.dropWhile isNameChar) := by
  have e := dropWhile_append_cons h b
  rw [classNames]
  split
  · next h => rw [e] at h; cases h
  · next after h =>
    rw [e] at h
    cases h
    cases hn : (b.takeWhile isNameChar).isEmpty <;> simp [hn]

/-- What stands in front of the first dot has no part in the names. -/
theorem classNames_append_of_not_mem {a : List Char} (h : '.' ∉ a) (b : List Char) :
    classNames (a ++ b) = classNames b := by
  by_cases hb : '.' ∈ b
  · obtain ⟨u, v, rfl, hu⟩ := List.eq_append_cons_of_mem hb
    rw [← List.append_assoc, classNames_append_dot (by simp [h, hu]), classNames_append_dot hu]
  · rw [classNames_of_not_mem hb, classNames_of_not_mem (by simp [h, hb])]

/-- One more character in front: a dot brings the name behind it, which may be empty, and nothing else
brings one. -/
theorem classNames_cons (c : Char) (cs : List Char) :
    classNames (c :: cs) =
      (if c = '.' then [cs.takeWhile isNameChar].filter (fun n => !n.isEmpty) else []) ++
        classNames cs := by
  split
  · next h =>
    subst h
    -- the name has no dot in it, so going on behind it misses none
    have hdot : '.' ∉ cs.takeWhile isNameChar := fun hmem =>
      absurd (List.mem_takeWhile_imp hmem) (by decide)
    conv_rhs => rw [← List.takeWhile_append_dropWhile (p := isNameChar) (l := cs),
      classNames_append_of_not_mem hdot, List.takeWhile_append_dropWhile]
    exact classNames_append_dot (a := []) List.not_mem_nil cs
  · next h => exact classNames_append_of_not_mem (a := [c]) (by simpa using Ne.symm h) cs

theorem takeWhile_append_cons_of_neg {p : Char → Bool} {c : Char} (hc : p c = false)
    (a b : List Char) : (a ++ c :: b).takeWhile p = a.takeWhile p := by
  induction a with
  | nil => simp [hc]
  | cons x a ih => cases hx : p x <;> simp [hx, ih]

/-- The class names on both sides of a character that neither is a part of a name nor starts one. -/
theorem classNames_append_cons {c : Char} (hc : isNameChar c = false) (hdot : c ≠ '.')
    (a b : List Char) :
    classNames (a ++ c :: b) = classNames a ++ classNames b := by
  induction a with
  | nil => rw [List.nil_append, classNames_cons, if_neg hdot, classNames_of_not_mem List.not_mem_nil]
  | cons x a ih =>
    rw [List.cons_append, classNames_cons, classNames_cons, ih, takeWhile_append_cons_of_neg hc,
      List.append_assoc]

/-! ## Blanks and joined texts -/

/-- No blank is a part of a class name or starts one. -/
theorem not_name_of_isBlank {c : Char} (h : isBlank c = true) : isNameChar c = false ∧ c ≠ '.' := by
  refine ⟨?_, by rintro rfl; exact absurd h (by decide)⟩
  rw [Bool.eq_false_iff]
  intro hn
  have hu : c ≠ '_' := by rintro rfl; exact absurd h (by decide)
  have hm : c ≠ '-' := by rintro rfl; exact absurd h (by decide)
  delta isNameChar Char.isAlphanum Char.isAlpha Char.isUpper Char.isLower Char.isDigit at hn
  simp only [hu, hm, Bool.or_eq_true, Bool.and_eq_true, decide_eq_true_eq, beq_iff_eq, isBlank,
    ge_iff_le, UInt32.le_iff_toNat_le, ← UInt32.toNat_inj, Char.reduceVal, UInt32.reduceToNat,
    or_false] at hn h
  omega

theorem classNames_of_blank {a : List Char} (h : isBlankText a = true) : classNames a = [] :=
  classNames_of_not_mem (not_mem_of_blank (by decide) h)

theorem classNames_of_blank_append {a : List Char} (h : isBlankText a = true) (b : List Char) :
    classNames (a ++ b) = classNames b :=
  classNames_append_of_not_mem (not_mem_of_blank (by decide) h) b

theorem classNames_append_of_blank {b : List Char} (h : isBlankText b = true) (a : List Char) :
    classNames (a ++ b) = classNames a := by
  cases b with
  | nil => rw [List.append_nil]
  | cons c b =>
    rw [isBlankText_cons, Bool.and_eq_true] at h
    obtain ⟨hc, hdot⟩ := not_name_of_isBlank h.1
    rw [classNames_append_cons hc hdot, classNames_of_blank h.2, List.append_nil]

@[simp] theorem classNames_trim (cs : List Char) : classNames (trim cs) = classNames cs := by
  obtain ⟨u, v, hu, hv, e⟩ := exists_trim cs
  conv_rhs => rw [e, classNames_append_of_blank hv, classNames_of_blank_append hu]

/-- A text cut at a separating character has the names of its parts. -/
theorem classNames_joinWith {c : Char} (hc : isNameChar c = false) (hdot : c ≠ '.') {w : List Char}
    (hw : isBlankText w = true) (ts : List (List Char)) :
    classNames (joinWith (c :: w) ts) = ts.flatMap classNames := by
  induction ts with
  | nil => exact classNames_of_blank rfl
  | cons t ts ih =>
    cases ts with
    | nil => simp
    | cons u ts =>
      rw [joinWith_cons_cons, List.append_assoc, List.cons_append, classNames_append_cons hc hdot,
        classNames_of_blank_append hw, ih, ← List.flatMap_cons]

theorem mentions_append_cons {c : Char} (hc : isNameChar c = false) (hdot : c ≠ '.')
    (a b : List Char) :
    mentions target (a ++ c :: b) = (mentions target a || mentions target b) := by
  rw [mentions, classNames_append_cons hc hdot, List.any_append]
  rfl

theorem mentions_of_blank {a : List Char} (h : isBlankText a = true) :
    mentions target a = false := by
  rw [mentions, classNames_of_blank h]
  rfl

theorem mentions_of_blank_append {a : List Char} (h : isBlankText a = true) (b : List Char) :
    mentions target (a ++ b) = mentions target b := by
  rw [mentions, classNames_of_blank_append h, ← mentions]

theorem mentions_append_of_blank {b : List Char} (h : isBlankText b = true) (a : List Char) :
    mentions target (a ++ b) = mentions target a := by
  rw [mentions, classNames_append_of_blank h, ← mentions]

@[simp] theorem mentions_trim (cs : List Char) :
    mentions target (trim cs) = mentions target cs := by
  rw [mentions, classNames_trim, ← mentions]

theorem mentions_joinWith {c : Char} (hc : isNameChar c = false) (hdot : c ≠ '.') {w : List Char}
    (hw : isBlankText w = true) (ts : List (List Char)) :
    mentions target (joinWith (c :: w) ts) = ts.any (mentions target) := by
  rw [mentions, classNames_joinWith hc hdot hw, List.any_flatMap]
  rfl

/-! ## Selector lists -/

/-- A piece that is dropped has no names. -/
theorem flatMap_classNames_piece (p : List Char) :
    ([trim p].filter fun s => !s.isEmpty).flatMap classNames = classNames p := by
  cases h : (trim p).isEmpty with
  | true =>
    have hp : isBlankText p = true := trim_eq_nil.1 (List.isEmpty_iff.1 h)
    simp [h, classNames_of_blank hp]
  | false => simp [h]

/-- It does not matter for the names in a selector list where it is cut. -/
theorem flatMap_classNames_splitSelectors (cs : List Char) :
    (splitSelectors cs).flatMap classNames = classNames cs := by
  induction cs using selectorList_induction with
  | last p hp => rw [splitSelectors_of_unbroken hp, flatMap_classNames_piece]
  | cut p rest hp ih =>
    rw [splitSelectors_append_comma hp, List.flatMap_append, flatMap_classNames_piece, ih,
      classNames_append_cons (by decide) (by decide)]

theorem any_mentions_splitSelectors (cs : List Char) :
    (splitSelectors cs).any (mentions target) = mentions target cs := by
  rw [mentions, ← flatMap_classNames_splitSelectors cs, List.any_flatMap]
  rfl

/-! ## Rules -/

/-- Keyframes and font faces are included, and any other rule if it has a brace and the text in
front of the first one mentions a class of the target set. -/
theorem isIncluded_eq (rule : List Char) (target : ClassSet) :
    isIncluded rule target =
      (occurs "@keyframes".toList rule || occurs "@font-face".toList rule ||
        rule.contains '{' && mentions target (rule.takeWhile (· != '{'))) := by
  rw [isIncluded, any_mentions_splitSelectors, mentions_trim]
  cases occurs "@keyframes".toList rule <;> cases occurs "@font-face".toList rule <;>
    cases rule.contains '{' <;> rfl

/-- Where a selector list is cut has no part in the names in it, nor in whether a rule is included: a rule
is if it has keyframes or a font face in it or if the text in front of its first brace has a name of the
target set, whatever brackets, commas and blanks that text has. -/
theorem splitSelectors_keeps_names :
    (∀ cs, (splitSelectors cs).flatMap classNames = classNames cs) ∧
      ∀ (rule : List Char) (target : ClassSet), isIncluded rule target = true ↔
        "@keyframes".toList <:+: rule ∨ "@font-face".toList <:+: rule ∨
          ∃ selector body, rule = selector ++ '{' :: body ∧ '{' ∉ selector ∧
            ∃ n ∈ classNames selector, target.contains (String.ofList n) = true := by
  refine ⟨flatMap_classNames_splitSelectors, fun rule target => ?_⟩
  have hnamed : (rule.contains '{' && mentions target (rule.takeWhile (· != '{'))) = true ↔
      ∃ selector body, rule = selector ++ '{' :: body ∧ '{' ∉ selector ∧
        ∃ n ∈ classNames selector, target.contains (String.ofList n) = true := by
    rw [Bool.and_eq_true, List.contains_iff_mem, mentions, List.any_eq_true]
    constructor
    · rintro ⟨hmem, hnames⟩
      obtain ⟨selector, body, rfl, hselector⟩ := List.eq_append_cons_of_mem hmem
      rw [takeWhile_append_cons hselector] at hnames
      exact ⟨selector, body, rfl, hselector, hnames⟩
    · rintro ⟨selector, body, rfl, hselector, hnames⟩
      rw [takeWhile_append_cons hselector]
      exact ⟨by simp, hnames⟩
  rw [isIncluded_eq, Bool.or_eq_true, Bool.or_eq_true, occurs_iff, occurs_iff, hnamed, or_assoc]

/-- A rule that is included whatever it mentions still is when it is trimmed. -/
theorem occurs_always (cs : List Char) :
    (occurs "@keyframes".toList (trim cs) || occurs "@font-face".toList (trim cs)) =
      (occurs "@keyframes".toList cs || occurs "@font-face".toList cs) := by
  rw [occurs_trim rfl, occurs_trim rfl]

theorem isIncluded_trimStart (rule : List Char) (target : ClassSet) :
    isIncluded (trimStart rule) target = isIncluded rule target := by
  obtain ⟨w, hw, e⟩ := exists_trimStart rule
  have ho : '{' ∉ w := not_mem_of_blank (by decide) hw
  rw [isIncluded_eq, isIncluded_eq, ← occurs_always (trimStart rule), ← occurs_always rule,
    trim_trimStart]
  congr 1
  conv_rhs => rw [e,
    List.takeWhile_append_of_pos (fun c hc => by simpa using ne_of_mem_of_not_mem hc ho),
    mentions_of_blank_append hw]
  simp [ho]

theorem isIncluded_trimEnd (rule : List Char) (target : ClassSet) :
    isIncluded (trimEnd rule) target = isIncluded rule target := by
  obtain ⟨w, hw, e⟩ := exists_trimEnd rule
  have ho : '{' ∉ w := not_mem_of_blank (by decide) hw
  rw [isIncluded_eq, isIncluded_eq, ← occurs_always (trimEnd rule), ← occurs_always rule,
    trim_trimEnd]
  congr 1
  conv_rhs => rw [e]
  by_cases h : '{' ∈ trimEnd rule
  · obtain ⟨u, v, ht, hu⟩ := List.eq_append_cons_of_mem h
    rw [ht, List.append_assoc, List.cons_append, takeWhile_append_cons hu, takeWhile_append_cons hu]
    simp
  · simp [h, ho]

end UsedCss.Css
