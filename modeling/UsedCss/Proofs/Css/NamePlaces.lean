import Mathlib.Data.List.Forall2
import UsedCss.Proofs.Css.Names
/-!
# Where class names stand

A class name stands behind each dot that a name character follows, and reaches as far as such characters
go. Since no name has a dot in it, going on behind a name misses none of these places, and none is met
twice.
-/

namespace UsedCss.Css

variable {cs n : List Char} {c : Char} {i : Nat}

theorem isNameChar_iff : isNameChar c = true ↔
    'A' ≤ c ∧ c ≤ 'Z' ∨ 'a' ≤ c ∧ c ≤ 'z' ∨ '0' ≤ c ∧ c ≤ '9' ∨ c = '_' ∨ c = '-' := by
  delta isNameChar Char.isAlphanum Char.isAlpha Char.isUpper Char.isLower Char.isDigit
  simp only [Bool.or_eq_true, Bool.and_eq_true, decide_eq_true_eq, beq_iff_eq, or_assoc]
  rfl

/-! ## Places -/

/-- The places of the dots that a name character follows, in order. -/
def namePlaces (cs : List Char) : List Nat :=
  (List.range cs.length).filter fun i => cs[i]? == some '.' && cs[i + 1]?.any isNameChar

theorem pairwise_namePlaces (cs : List Char) : (namePlaces cs).Pairwise (· < ·) :=
  List.pairwise_lt_range.filter _

theorem mem_namePlaces :
    i ∈ namePlaces cs ↔ cs[i]? = some '.' ∧ ∃ c ∈ cs[i + 1]?, isNameChar c = true := by
  rw [namePlaces, List.mem_filter, List.mem_range, Bool.and_eq_true, beq_iff_eq, Option.any_eq_true]
  refine and_iff_right_of_imp fun h => ?_
  exact (List.getElem?_eq_some_iff.1 h.1).1

theorem namePlaces_cons (c : Char) (cs : List Char) :
    namePlaces (c :: cs) =
      (if c = '.' ∧ cs.head?.any isNameChar = true then [0] else []) ++ (namePlaces cs).map (· + 1) := by
  rw [namePlaces, List.length_cons, List.range_succ_eq_map, List.filter_cons, List.filter_map]
  have hfirst : ((c :: cs)[0]? == some '.' && (c :: cs)[0 + 1]?.any isNameChar) = true ↔
      c = '.' ∧ cs.head?.any isNameChar = true := by
    simp [List.head?_eq_getElem?]
  simp only [hfirst]
  split <;> rfl

/-- A name behind the dot at that place: one or more name characters, up to one that is none or to the
end of the text. -/
def NameAt (cs : List Char) (i : Nat) (n : List Char) : Prop :=
  ∃ before after, cs = before ++ '.' :: (n ++ after) ∧ before.length = i ∧ n ≠ [] ∧
    (∀ c ∈ n, isNameChar c = true) ∧ ∀ c ∈ after.head?, isNameChar c = false

theorem NameAt.cons (h : NameAt cs i n) (c : Char) : NameAt (c :: cs) (i + 1) n := by
  obtain ⟨before, after, rfl, rfl, hn⟩ := h
  exact ⟨c :: before, after, rfl, rfl, hn⟩

theorem nameAt_zero (h : cs.takeWhile isNameChar ≠ []) :
    NameAt ('.' :: cs) 0 (cs.takeWhile isNameChar) := by
  refine ⟨[], cs.dropWhile isNameChar, by simp, rfl, h, fun c => List.mem_takeWhile_imp, fun c hc => ?_⟩
  have hnot := List.head?_dropWhile_not isNameChar cs
  rw [Option.mem_def.1 hc] at hnot
  simpa using hnot

/-- The name that a character brings stands at the place that it brings. -/
theorem forall₂_nameAt_first (c : Char) (cs : List Char) :
    List.Forall₂ (NameAt (c :: cs)) (if c = '.' ∧ cs.head?.any isNameChar = true then [0] else [])
      (if c = '.' then [cs.takeWhile isNameChar].filter (fun n => !n.isEmpty) else []) := by
  by_cases hdot : c = '.'
  · subst hdot
    cases cs with
    | nil => simp
    | cons x xs =>
      cases hx : isNameChar x with
      | true =>
        have hname : (x :: xs).takeWhile isNameChar ≠ [] := by simp [hx]
        simpa [hx] using nameAt_zero hname
      | false => simp [hx]
  · simp [hdot]

theorem forall₂_nameAt (cs : List Char) : List.Forall₂ (NameAt cs) (namePlaces cs) (classNames cs) := by
  induction cs with
  | nil =>
    rw [classNames_of_not_mem List.not_mem_nil]
    exact .nil
  | cons c cs ih =>
    have hrest : List.Forall₂ (NameAt (c :: cs)) ((namePlaces cs).map (· + 1)) (classNames cs) :=
      List.forall₂_map_left_iff.2 (ih.imp fun _ _ h => h.cons c)
    rw [namePlaces_cons, classNames_cons]
    exact List.rel_append (forall₂_nameAt_first c cs) hrest

/-- The class names of a text are the longest runs of ASCII letters, digits, underscores and hyphens
behind its dots, one for each dot that such a character follows, in the order of these dots. -/
theorem classNames_at_places (cs : List Char) :
    (∀ c, isNameChar c = true ↔
      'A' ≤ c ∧ c ≤ 'Z' ∨ 'a' ≤ c ∧ c ≤ 'z' ∨ '0' ≤ c ∧ c ≤ '9' ∨ c = '_' ∨ c = '-') ∧
      (namePlaces cs).Pairwise (· < ·) ∧
      (∀ i, i ∈ namePlaces cs ↔ cs[i]? = some '.' ∧ ∃ c ∈ cs[i + 1]?, isNameChar c = true) ∧
      List.Forall₂ (NameAt cs) (namePlaces cs) (classNames cs) :=
  ⟨fun _ => isNameChar_iff, pairwise_namePlaces cs, fun _ => mem_namePlaces, forall₂_nameAt cs⟩

end UsedCss.Css
