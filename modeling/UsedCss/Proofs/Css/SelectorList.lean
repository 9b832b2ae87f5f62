import Mathlib.Data.List.Forall2
import UsedCss.Css.Selector
import UsedCss.Proofs.Text.Find
/-!
# Selector lists

A selector list is cut at its outer commas, those that stand outside of brackets. Cut at the first of
them it falls into a piece whose brackets are closed and a shorter list, and facts about all lists are
proved along these cuts. What has been cut can be joined and cut again.
-/

namespace UsedCss.Css

open UsedCss.Text

variable {a b cs p rest t w : List Char} {c : Char} {k : Nat} {ps ts : List (List Char)}

/-! ## Brackets -/

/-- How many brackets are open after one more character. A closing bracket too many counts for
nothing. -/
def bracketStep (k : Nat) (c : Char) : Nat :=
  if c = '(' ∨ c = '[' then k + 1 else if c = ')' ∨ c = ']' then k - 1 else k

/-- How many brackets a text leaves open. -/
def openBrackets (cs : List Char) : Nat := cs.foldl bracketStep 0

/-- Every comma of a text stands inside of brackets, `k` of which are open in front of it. -/
def Unbroken (k : Nat) (cs : List Char) : Prop :=
  ∀ a b, cs = a ++ ',' :: b → 0 < a.foldl bracketStep k

theorem unbroken_nil : Unbroken k [] := fun a b e => by simp at e

theorem unbroken_cons : Unbroken k (c :: cs) ↔ (c = ',' → 0 < k) ∧ Unbroken (bracketStep k c) cs := by
  constructor
  · intro h
    exact ⟨fun hc => h [] cs (by rw [hc]; rfl), fun a b e => h (c :: a) b (by rw [e]; rfl)⟩
  · rintro ⟨hc, hcs⟩ a b e
    cases a with
    | nil => exact hc (List.cons.inj e).1
    | cons x a =>
      rw [List.cons_append, List.cons.injEq] at e
      obtain ⟨rfl, e⟩ := e
      exact hcs a b e

instance decidableUnbroken : (k : Nat) → (cs : List Char) → Decidable (Unbroken k cs)
  | _, [] => isTrue unbroken_nil
  | k, c :: cs =>
    have := decidableUnbroken (bracketStep k c) cs
    decidable_of_iff _ unbroken_cons.symm

theorem unbroken_append :
    Unbroken k (a ++ b) ↔ Unbroken k a ∧ Unbroken (a.foldl bracketStep k) b := by
  induction a generalizing k with
  | nil => simp [unbroken_nil]
  | cons c a ih => rw [List.cons_append, unbroken_cons, unbroken_cons, ih, and_assoc, List.foldl_cons]

theorem foldl_bracketStep_of_blank (hw : isBlankText w = true) (k : Nat) :
    w.foldl bracketStep k = k := by
  induction w with
  | nil => rfl
  | cons c w ih =>
    rw [isBlankText_cons, Bool.and_eq_true] at hw
    have hne : ∀ x, isBlank x = false → c ≠ x := fun x hx e => by simp [e, hx] at hw
    have hc : bracketStep k c = k := by
      simp [bracketStep, hne '(' rfl, hne '[' rfl, hne ')' rfl, hne ']' rfl]
    rw [List.foldl_cons, hc, ih hw.2]

theorem unbroken_of_blank (hw : isBlankText w = true) : Unbroken k w := fun a b e =>
  absurd (by simp [e]) (not_mem_of_blank (c := ',') (by decide) hw)

theorem openBrackets_trim (cs : List Char) : openBrackets (trim cs) = openBrackets cs := by
  obtain ⟨u, v, hu, hv, e⟩ := exists_trim cs
  conv_rhs => rw [e]
  rw [openBrackets, openBrackets, List.foldl_append, List.foldl_append, foldl_bracketStep_of_blank hu,
    foldl_bracketStep_of_blank hv]

theorem unbroken_trim : Unbroken 0 (trim cs) ↔ Unbroken 0 cs := by
  obtain ⟨u, v, hu, hv, e⟩ := exists_trim cs
  conv_rhs => rw [e]
  simp [unbroken_append, unbroken_of_blank hu, unbroken_of_blank hv, foldl_bracketStep_of_blank hu]

/-! ## Cuts -/

/-- A piece that a comma can end. -/
structure Closed (p : List Char) : Prop where
  unbroken : Unbroken 0 p
  closed : openBrackets p = 0

theorem closed_iff : Closed p ↔ Unbroken 0 p ∧ openBrackets p = 0 :=
  ⟨fun h => ⟨h.unbroken, h.closed⟩, fun h => ⟨h.1, h.2⟩⟩

theorem closed_trim : Closed (trim p) ↔ Closed p := by
  rw [closed_iff, unbroken_trim, openBrackets_trim, closed_iff]

/-- A text that has an outer comma has a first one. -/
theorem exists_closed (h : ¬ Unbroken 0 cs) : ∃ p rest, Closed p ∧ cs = p ++ ',' :: rest := by
  have hfirst : ∀ n a b, a.length = n → openBrackets a = 0 → cs = a ++ ',' :: b →
      ∃ p rest, Closed p ∧ cs = p ++ ',' :: rest := fun n => by
    induction n using Nat.strong_induction_on with
    | _ n ih =>
      intro a b hn ha e
      by_cases hu : Unbroken 0 a
      · exact ⟨a, b, ⟨hu, ha⟩, e⟩
      · simp only [Unbroken, not_forall, Nat.not_lt, Nat.le_zero] at hu
        obtain ⟨a', b', rfl, ha'⟩ := hu
        exact ih a'.length (by rw [← hn]; simp) a' (b' ++ ',' :: b) rfl ha' (by simp [e])
  simp only [Unbroken, not_forall, Nat.not_lt, Nat.le_zero] at h
  obtain ⟨a, b, e, ha⟩ := h
  exact hfirst _ a b rfl ha e

/-- What holds of a text without an outer comma, and of a closed piece with a comma and a text of which it
holds behind, holds of every text. -/
theorem selectorList_induction {P : List Char → Prop} (last : ∀ p, Unbroken 0 p → P p)
    (cut : ∀ p rest, Closed p → P rest → P (p ++ ',' :: rest)) (cs : List Char) : P cs := by
  induction hn : cs.length using Nat.strong_induction_on generalizing cs with
  | _ n ih =>
    by_cases h : Unbroken 0 cs
    · exact last cs h
    · obtain ⟨p, rest, hp, rfl⟩ := exists_closed h
      have hlen : rest.length < n := by
        rw [← hn, List.length_append, List.length_cons]
        omega
      exact cut p rest hp (ih rest.length hlen rest rfl)

theorem next_of_inner {k : SelectorCut} (h : c = ',' → 0 < k.depth) :
    k.next c = ⟨bracketStep k.depth c, c :: k.piece, k.done⟩ := by
  have hcomma : ¬ (c = ',' ∧ k.depth = 0) := fun hc => Nat.ne_of_gt (h hc.1) hc.2
  simp only [SelectorCut.next, bracketStep, Bool.or_eq_true, Bool.and_eq_true, decide_eq_true_eq,
    if_neg hcomma]
  split_ifs <;> rfl

theorem foldl_next_of_unbroken {k : SelectorCut} (h : Unbroken k.depth cs) :
    cs.foldl SelectorCut.next k = ⟨cs.foldl bracketStep k.depth, cs.reverse ++ k.piece, k.done⟩ := by
  induction cs generalizing k with
  | nil => rfl
  | cons c cs ih =>
    obtain ⟨hc, hcs⟩ := unbroken_cons.1 h
    rw [List.foldl_cons, next_of_inner hc, ih hcs]
    simp

/-- The pieces that are done do not matter for those that come. -/
theorem pieces_foldl_next (cs : List Char) (depth : Nat) (piece : List Char) (done : List (List Char)) :
    (cs.foldl SelectorCut.next ⟨depth, piece, done⟩).pieces =
      done.reverse ++ (cs.foldl SelectorCut.next ⟨depth, piece, []⟩).pieces := by
  induction cs generalizing depth piece done with
  | nil => simp [SelectorCut.pieces]
  | cons c cs ih =>
    rw [List.foldl_cons, List.foldl_cons]
    by_cases h : c = ',' → 0 < depth
    · rw [next_of_inner h, next_of_inner h]
      exact ih ..
    · obtain ⟨rfl, hdepth⟩ := Classical.not_imp.1 h
      obtain rfl : depth = 0 := Nat.eq_zero_of_not_pos hdepth
      have hcut : ∀ done, SelectorCut.next ⟨0, piece, done⟩ ',' = ⟨0, [], piece.reverse :: done⟩ :=
        fun _ => rfl
      rw [hcut, hcut, ih 0 [] (_ :: done), ih 0 [] [_]]
      simp

/-! ## Splitting and joining -/

theorem splitSelectors_of_unbroken (h : Unbroken 0 p) :
    splitSelectors p = [trim p].filter (fun s => !s.isEmpty) := by
  rw [splitSelectors, foldl_next_of_unbroken h]
  simp [SelectorCut.pieces]

theorem splitSelectors_append_comma (h : Closed p) (rest : List Char) :
    splitSelectors (p ++ ',' :: rest) =
      [trim p].filter (fun s => !s.isEmpty) ++ splitSelectors rest := by
  have hp : p.foldl SelectorCut.next {} = ⟨0, p.reverse, []⟩ := by
    rw [foldl_next_of_unbroken h.unbroken]
    simp [show p.foldl bracketStep 0 = 0 from h.closed]
  have hcut : SelectorCut.next ⟨0, p.reverse, []⟩ ',' = ⟨0, [], [p.reverse.reverse]⟩ := rfl
  rw [splitSelectors, List.foldl_append, hp, List.foldl_cons, hcut, pieces_foldl_next, splitSelectors,
    List.map_append, List.filter_append]
  simp

theorem splitSelectors_nil : splitSelectors [] = [] := rfl

/-- The first piece of a joined list is cut off again. -/
theorem splitSelectors_joinWith_cons (h : Closed p) (ps : List (List Char)) :
    splitSelectors (joinWith [','] (p :: ps)) =
      [trim p].filter (fun s => !s.isEmpty) ++ splitSelectors (joinWith [','] ps) := by
  cases ps with
  | nil => rw [joinWith_singleton, splitSelectors_of_unbroken h.unbroken, joinWith_nil,
      splitSelectors_nil, List.append_nil]
  | cons q ps =>
    rw [joinWith_cons_cons, List.append_assoc, List.singleton_append, splitSelectors_append_comma h]

theorem unbroken_of_mem_splitSelectors (ht : t ∈ splitSelectors cs) : Unbroken 0 t := by
  induction cs using selectorList_induction with
  | last p hp =>
    rw [splitSelectors_of_unbroken hp, List.mem_filter, List.mem_singleton] at ht
    rw [ht.1]
    exact unbroken_trim.2 hp
  | cut p rest hp ih =>
    rw [splitSelectors_append_comma hp, List.mem_append, List.mem_filter, List.mem_singleton] at ht
    rcases ht with ⟨rfl, -⟩ | ht
    · exact unbroken_trim.2 hp.unbroken
    · exact ih ht

theorem isTrimmed_of_mem_splitSelectors (ht : t ∈ splitSelectors cs) : t ≠ [] ∧ IsTrimmed t := by
  rw [splitSelectors, List.mem_filter, List.mem_map] at ht
  obtain ⟨⟨p, -, rfl⟩, hne⟩ := ht
  exact ⟨by simpa using hne, isTrimmed_trim p⟩

theorem splitSelectors_of_mem (ht : t ∈ splitSelectors cs) : splitSelectors t = [t] := by
  obtain ⟨hne, htrim⟩ := isTrimmed_of_mem_splitSelectors ht
  rw [splitSelectors_of_unbroken (unbroken_of_mem_splitSelectors ht), trim_eq_self_iff.2 htrim]
  simpa using hne

theorem splitSelectors_joinWith_splitSelectors (cs : List Char) :
    splitSelectors (joinWith [','] (splitSelectors cs)) = splitSelectors cs := by
  induction cs using selectorList_induction with
  | last p hp =>
    cases h : (trim p).isEmpty with
    | true => simp [splitSelectors_of_unbroken hp, h, splitSelectors_nil]
    | false => simp [splitSelectors_of_unbroken hp, h, splitSelectors_of_unbroken (unbroken_trim.2 hp)]
  | cut p rest hp ih =>
    rw [splitSelectors_append_comma hp]
    cases h : (trim p).isEmpty with
    | true => simpa [h] using ih
    | false => simp [h, splitSelectors_joinWith_cons (closed_trim.2 hp), ih]

/-- One selector of a list: a closed piece that is not empty and has no blanks around it. -/
structure IsSelector (t : List Char) : Prop extends Closed t where
  ne_nil : t ≠ []
  trimmed : IsTrimmed t

instance (t : List Char) : Decidable (IsSelector t) :=
  decidable_of_iff ((Unbroken 0 t ∧ openBrackets t = 0) ∧ t ≠ [] ∧ IsTrimmed t)
    ⟨fun h => ⟨closed_iff.2 h.1, h.2.1, h.2.2⟩, fun h => ⟨closed_iff.1 h.toClosed, h.ne_nil, h.trimmed⟩⟩

/-- Splitting undoes joining, whatever blanks stand around the commas; and what splitting yields are
trimmed texts that are not split any further and, joined, are split into the same pieces again. -/
theorem splitSelectors_joinWith :
    (∀ ts ps : List (List Char), (∀ t ∈ ts, IsSelector t) →
      List.Forall₂ (fun t p => ∃ u v, isBlankText u = true ∧ isBlankText v = true ∧ p = u ++ t ++ v) ts ps →
      splitSelectors (joinWith [','] ps) = ts) ∧
      ∀ cs, (∀ t ∈ splitSelectors cs, t ≠ [] ∧ IsTrimmed t ∧ splitSelectors t = [t]) ∧
        splitSelectors (joinWith [','] (splitSelectors cs)) = splitSelectors cs := by
  refine ⟨fun ts ps hts hps => ?_, fun cs => ⟨fun t ht => ?_, splitSelectors_joinWith_splitSelectors cs⟩⟩
  · induction hps with
    | nil => rfl
    | @cons t p ts ps hp _ ih =>
      obtain ⟨ht, hts⟩ := List.forall_mem_cons.1 hts
      obtain ⟨u, v, hu, hv, rfl⟩ := hp
      have htrim : trim (u ++ t ++ v) = t := by
        rw [trim_append_of_blank hv, trim_of_blank_append hu, trim_eq_self_iff.2 ht.trimmed]
      have hclosed : Closed (u ++ t ++ v) := closed_trim.1 (htrim.symm ▸ ht.toClosed)
      rw [splitSelectors_joinWith_cons hclosed, htrim, ih hts]
      simp [ht.ne_nil]
  · obtain ⟨hne, htrim⟩ := isTrimmed_of_mem_splitSelectors ht
    exact ⟨hne, htrim, splitSelectors_of_mem ht⟩

/-- Commas in brackets of both kinds, and blanks of several kinds around those that separate. -/
theorem splitSelectors_joinWith_nested :
    (∀ t ∈ [".a".toList, ":is(.b, .c)".toList, "[data-x=\"1,2\"] .d".toList], IsSelector t) ∧
      splitSelectors ".a, :is(.b, .c) \t,\n[data-x=\"1,2\"] .d".toList =
        [".a".toList, ":is(.b, .c)".toList, "[data-x=\"1,2\"] .d".toList] := by
  have h : ∀ t ∈ [".a".toList, ":is(.b, .c)".toList, "[data-x=\"1,2\"] .d".toList], IsSelector t := by
    decide
  refine ⟨h, splitSelectors_joinWith.1 _
    [".a".toList, " :is(.b, .c) \t".toList, "\n[data-x=\"1,2\"] .d".toList] h ?_⟩
  exact .cons ⟨[], [], rfl, rfl, rfl⟩ (.cons ⟨[' '], [' ', '\t'], rfl, rfl, rfl⟩
    (.cons ⟨['\n'], [], rfl, rfl, rfl⟩ .nil))

end UsedCss.Css
