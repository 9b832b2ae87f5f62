import UsedCss.Css.Scanner
import UsedCss.Proofs.Text.Lines
/-!
# Lines of code

All that the scanner asks of a line (how its braces add up, whether it has an opening one,
whether it starts an at-rule or ends a statement) is the same for the trimmed line.
-/

namespace UsedCss.Css

open UsedCss.Text

/-! ## Braces -/

theorem braceDelta_eq_count (cs : List Char) : braceDelta cs = cs.count '{' - cs.count '}' := by
  have main : ∀ d : Int, cs.foldl (fun d c => if c = '{' then d + 1 else if c = '}' then d - 1 else d) d =
      d + (cs.count '{' - cs.count '}') := by
    induction cs with
    | nil => simp
    | cons c cs ih =>
      intro d
      rw [List.foldl_cons, ih]
      by_cases ho : c = '{'
      · subst ho; simp; omega
      · by_cases hc : c = '}'
        · subst hc; simp; omega
        · simp [ho, hc]
  exact (main 0).trans (by omega)

@[simp] theorem braceDelta_nil : braceDelta [] = 0 := rfl

@[simp] theorem braceDelta_append (a b : List Char) :
    braceDelta (a ++ b) = braceDelta a + braceDelta b := by
  simp only [braceDelta_eq_count, List.count_append]
  omega

/-- A text without braces. -/
def Braceless (cs : List Char) : Prop := '{' ∉ cs ∧ '}' ∉ cs

instance (cs : List Char) : Decidable (Braceless cs) := inferInstanceAs (Decidable (_ ∧ _))

theorem Braceless.delta {cs : List Char} (h : Braceless cs) : braceDelta cs = 0 := by
  rw [braceDelta_eq_count, List.count_eq_zero.2 h.1, List.count_eq_zero.2 h.2]
  rfl

theorem Braceless.of_blank {cs : List Char} (h : isBlankText cs = true) : Braceless cs :=
  ⟨not_mem_of_blank (by decide) h, not_mem_of_blank (by decide) h⟩

theorem Braceless.of_subset {a b : List Char} (hb : Braceless b) (h : a ⊆ b) : Braceless a :=
  ⟨fun hc => hb.1 (h hc), fun hc => hb.2 (h hc)⟩

/-- Without an opening brace, a text is braceless unless its braces count below zero. -/
theorem braceless_of_delta {cs : List Char} (ho : '{' ∉ cs) (h : 0 ≤ braceDelta cs) :
    Braceless cs := by
  refine ⟨ho, List.count_eq_zero.1 ?_⟩
  rw [braceDelta_eq_count, List.count_eq_zero.2 ho] at h
  omega

@[simp] theorem braceDelta_trim (cs : List Char) : braceDelta (trim cs) = braceDelta cs := by
  obtain ⟨u, v, hu, hv, e⟩ := exists_trim cs
  conv_rhs => rw [e]
  simp [(Braceless.of_blank hu).delta, (Braceless.of_blank hv).delta]

theorem mem_trim {cs : List Char} {c : Char} (hc : isBlank c = false) : c ∈ trim cs ↔ c ∈ cs := by
  obtain ⟨u, v, hu, hv, e⟩ := exists_trim cs
  conv_rhs => rw [e]
  simp [not_mem_of_blank hc hu, not_mem_of_blank hc hv]

theorem trim_isInfix (cs : List Char) : trim cs <:+: cs := by
  obtain ⟨u, v, -, -, e⟩ := exists_trim cs
  exact ⟨u, v, e.symm⟩

/-- How much deeper lines nest together. -/
def depth (ls : List (List Char)) : Int := braceDelta ls.flatten

@[simp] theorem depth_nil : depth [] = 0 := rfl

@[simp] theorem depth_cons (l : List Char) (ls : List (List Char)) :
    depth (l :: ls) = braceDelta l + depth ls := by
  simp [depth]

@[simp] theorem depth_append (ls ms : List (List Char)) :
    depth (ls ++ ms) = depth ls + depth ms := by
  simp [depth]

/-- Only the braces of lines matter for how deep they lead. -/
theorem depth_congr {ls ms : List (List Char)} (h : ls.map braceDelta = ms.map braceDelta) :
    depth ls = depth ms := by
  induction ls generalizing ms with
  | nil => rw [List.map_eq_nil_iff.1 h.symm]
  | cons l ls ih =>
    obtain ⟨m, ms, rfl, hm, ht⟩ := List.map_eq_cons_iff.1 h.symm
    rw [depth_cons, depth_cons, hm, ih ht.symm]

theorem depth_eq_zero {ls : List (List Char)} (h : ∀ l ∈ ls, braceDelta l = 0) : depth ls = 0 := by
  induction ls with
  | nil => rfl
  | cons l ls ih =>
    rw [depth_cons, h l List.mem_cons_self, ih (fun m hm => h m (List.mem_cons_of_mem _ hm))]
    rfl

theorem depth_nonpos {ls : List (List Char)} (h : ∀ l ∈ ls, braceDelta l ≤ 0) : depth ls ≤ 0 := by
  induction ls with
  | nil => exact Int.le_refl 0
  | cons l ls ih =>
    rw [List.forall_mem_cons] at h
    have := ih h.2
    rw [depth_cons]
    omega

/-- Texts that close no less than they open balance together only if each does. -/
theorem depth_eq_zero_iff {ls : List (List Char)} (h : ∀ l ∈ ls, braceDelta l ≤ 0) :
    depth ls = 0 ↔ ∀ l ∈ ls, braceDelta l = 0 := by
  refine ⟨fun h0 => ?_, depth_eq_zero⟩
  induction ls with
  | nil => simp
  | cons l ls ih =>
    rw [List.forall_mem_cons] at h ⊢
    rw [depth_cons] at h0
    have := depth_nonpos h.2
    exact ⟨by omega, ih h.2 (by omega)⟩

theorem depth_braceless {ls : List (List Char)} (h : ∀ l ∈ ls, Braceless l) : depth ls = 0 :=
  depth_eq_zero fun l hl => (h l hl).delta

theorem depth_filled (ls : List (List Char)) : depth (filled ls) = depth ls := by
  induction ls with
  | nil => rfl
  | cons l ls ih =>
    cases h : isBlankText l with
    | true => rw [depth_cons, (Braceless.of_blank h).delta, Int.zero_add, ← ih]; simp [filled, h]
    | false => rw [depth_cons, ← ih]; simp [filled, h]

theorem depth_prefix_congr {A B : List (List Char)} (e : A.map braceDelta = B.map braceDelta)
    (h : ∀ m, m <+: A → 0 ≤ depth m) : ∀ m, m <+: B → 0 ≤ depth m := by
  intro m hm
  have em : (A.take m.length).map braceDelta = m.map braceDelta := by
    rw [List.map_take, e, ← List.map_take, ← List.prefix_iff_eq_take.1 hm]
  rw [← depth_congr em]
  exact h (A.take m.length) (List.take_prefix _ _)

/-- The filled lines stay above a level if and only if all lines do. -/
theorem depth_prefix_filled {ls : List (List Char)} :
    (∀ m, m <+: filled ls → 0 ≤ depth m) ↔ ∀ m, m <+: ls → 0 ≤ depth m := by
  constructor
  · intro h m hm
    rw [← depth_filled]
    exact h _ (hm.filter _)
  · rintro h m ⟨r, hr⟩
    obtain ⟨X, Y, rfl, rfl, -⟩ := List.filter_eq_append_iff.1 hr.symm
    exact (depth_filled X).symm ▸ h X (List.prefix_append X Y)

theorem braceDelta_joinWith {sep : List Char} (hs : braceDelta sep = 0) (ls : List (List Char)) :
    braceDelta (joinWith sep ls) = depth ls := by
  induction ls with
  | nil => rfl
  | cons l ls ih =>
    cases ls with
    | nil => simp
    | cons m ls =>
      rw [joinWith_cons_cons, braceDelta_append, braceDelta_append, hs, Int.add_zero, ih,
        depth_cons l]

/-- Blank lines and newlines do not nest. -/
theorem depth_filledLines (cs : List Char) : depth (filledLines cs) = braceDelta cs := by
  have line : ∀ l, depth (filled [l]) = braceDelta l := fun l => by simp [depth_filled]
  induction cs using lines_induction with
  | single l hl => rw [filledLines_of_line hl, line]
  | cons l rest hl ih =>
    rw [filledLines_append_newline, depth_append, ih, filledLines_of_line hl, line]
    have hn : braceDelta ('\n' :: rest) = braceDelta ['\n'] + braceDelta rest :=
      braceDelta_append ['\n'] rest
    simp [hn, show braceDelta ['\n'] = 0 from rfl]

/-! ## At-rules -/

/-- A keyframes header starts with the word itself or with a vendor's name in front of it. -/
theorem isKeyframesHeader_iff {cs : List Char} : isKeyframesHeader cs = true ↔
    "@keyframes".toList <+: cs ∨ ∃ v, '-' ∉ v ∧
      ('@' :: '-' :: v) ++ '-' :: "keyframes".toList <+: cs := by
  unfold isKeyframesHeader
  split
  · next rest =>
    rw [List.isPrefixOf_iff_prefix]
    constructor
    · intro h
      have hv : '-' ∉ rest.takeWhile (· != '-') := by
        intro hc
        simpa using List.all_eq_true.1 List.all_takeWhile _ hc
      refine .inr ⟨rest.takeWhile (· != '-'), hv, ?_⟩
      cases hw : rest.dropWhile (· != '-') with
      | nil => rw [hw] at h; exact absurd h (by decide)
      | cons c y =>
        have hc := List.head?_dropWhile_not (· != '-') rest
        rw [hw] at hc h
        obtain rfl : c = '-' := by simpa using hc
        obtain ⟨t, rfl⟩ : "keyframes".toList <+: y := h
        have e := List.takeWhile_append_dropWhile (p := (· != '-')) (l := rest)
        exact ⟨t, by simpa [hw] using e⟩
    · rintro (h | ⟨v, hv, t, ht⟩)
      · exact absurd h (by simp [List.cons_prefix_cons])
      · have e : rest = v ++ ('-' :: "keyframes".toList ++ t) := by simpa using ht.symm
        have hd : rest.dropWhile (· != '-') = '-' :: "keyframes".toList ++ t := by
          rw [e,
            List.dropWhile_append_of_pos (fun c hc => by simpa using ne_of_mem_of_not_mem hc hv)]
          rfl
        rw [hd]
        exact ⟨t, rfl⟩
  · next rest hne =>
    rw [List.isPrefixOf_iff_prefix]
    constructor
    · intro h
      exact .inl (List.cons_prefix_cons.2 ⟨rfl, h⟩)
    · rintro (h | ⟨v, -, t, ht⟩)
      · exact (List.cons_prefix_cons.1 h).2
      · simp only [List.cons_append, List.cons.injEq, true_and] at ht
        exact absurd ht.symm (hne _)
  · next _ hne =>
    refine ⟨fun h => (by cases h), ?_⟩
    rintro (⟨t, ht⟩ | ⟨v, -, t, ht⟩)
    · exact absurd ht.symm (hne _)
    · exact absurd ht.symm (hne _)

/-- A prefix does not reach into an end that lacks its last character. -/
theorem isPrefix_of_append {q a w : List Char} {c : Char} (hw : c ∉ w) (h : q ++ [c] <+: a ++ w) :
    q ++ [c] <+: a := by
  rcases List.prefix_or_prefix_of_prefix h (List.prefix_append a w) with h' | ⟨t, ht⟩
  · exact h'
  · rcases List.eq_nil_or_concat t with rfl | ⟨t, d, rfl⟩
    · exact ⟨[], by simp [← ht]⟩
    · rw [List.concat_eq_append, ← List.append_assoc] at ht
      obtain ⟨-, hd⟩ := List.append_inj' ht rfl
      obtain rfl : d = c := by simpa using hd
      rw [← ht, List.append_assoc, List.prefix_append_right_inj] at h
      exact absurd (h.mem (List.mem_append_right t List.mem_cons_self)) hw

theorem isKeyframesHeader_mono {a b : List Char} (hab : a <+: b) (h : isKeyframesHeader a = true) :
    isKeyframesHeader b = true := by
  rw [isKeyframesHeader_iff] at h ⊢
  exact h.imp (·.trans hab) fun ⟨v, hv, h⟩ => ⟨v, hv, h.trans hab⟩

theorem isBlockAtRule_iff {cs : List Char} :
    isBlockAtRule cs = true ↔ "@media".toList <+: cs ∨ isKeyframesHeader cs = true := by
  rw [isBlockAtRule, Bool.or_eq_true, List.isPrefixOf_iff_prefix]

theorem isBlockAtRule_mono {a b : List Char} (hab : a <+: b) (h : isBlockAtRule a = true) :
    isBlockAtRule b = true := by
  rw [isBlockAtRule_iff] at h ⊢
  exact h.imp (·.trans hab) (isKeyframesHeader_mono hab)

/-- An end without the last letters of their names makes no header. -/
theorem isKeyframesHeader_append {w : List Char} (hs : 's' ∉ w) (a : List Char) :
    isKeyframesHeader (a ++ w) = isKeyframesHeader a := by
  rw [Bool.eq_iff_iff]
  refine ⟨fun h => ?_, isKeyframesHeader_mono (List.prefix_append a w)⟩
  rw [isKeyframesHeader_iff] at h ⊢
  apply h.imp (isPrefix_of_append (q := "@keyframe".toList) hs)
  rintro ⟨v, hv, h⟩
  have e : ('@' :: '-' :: v) ++ '-' :: "keyframes".toList =
      (('@' :: '-' :: v) ++ '-' :: "keyframe".toList) ++ ['s'] := by
    simp
  rw [e] at h
  exact ⟨v, hv, e ▸ isPrefix_of_append hs h⟩

theorem isBlockAtRule_append {w : List Char} (ha : 'a' ∉ w) (hs : 's' ∉ w) (a : List Char) :
    isBlockAtRule (a ++ w) = isBlockAtRule a := by
  rw [Bool.eq_iff_iff, isBlockAtRule_iff, isBlockAtRule_iff, isKeyframesHeader_append hs]
  exact or_congr_left ⟨isPrefix_of_append (q := "@medi".toList) ha, fun h =>
    h.trans (List.prefix_append a w)⟩

@[simp] theorem isBlockAtRule_trimEnd (cs : List Char) :
    isBlockAtRule (trimEnd cs) = isBlockAtRule cs := by
  obtain ⟨w, hw, e⟩ := exists_trimEnd cs
  conv_rhs => rw [e,
    isBlockAtRule_append (not_mem_of_blank (by decide) hw) (not_mem_of_blank (by decide) hw)]

@[simp] theorem isKeyframesHeader_trimEnd (cs : List Char) :
    isKeyframesHeader (trimEnd cs) = isKeyframesHeader cs := by
  obtain ⟨w, hw, e⟩ := exists_trimEnd cs
  conv_rhs => rw [e, isKeyframesHeader_append (not_mem_of_blank (by decide) hw)]

/-- A text that starts with a block's header is a keyframes block if its header is. -/
theorem isKeyframesHeader_congr {a b : List Char} (hab : a <+: b) (h : isBlockAtRule a = true) :
    isKeyframesHeader b = isKeyframesHeader a := by
  rcases isBlockAtRule_iff.1 h with hm | hk
  · have no : ∀ {c : List Char}, "@media".toList <+: c → isKeyframesHeader c = false := by
      rintro c ⟨t, rfl⟩
      rfl
    rw [no hm, no (hm.trans hab)]
  · rw [hk, isKeyframesHeader_mono hab hk]

end UsedCss.Css
