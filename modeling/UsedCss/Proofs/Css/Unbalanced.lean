import UsedCss.Proofs.Css.Code
/-!
# The first unbalanced brace

A scan fails if and only if more braces have been closed than opened at the end of some line, counted
from the start of the text, and it names the first such line (`scan_unbalanced_iff`). Nothing that is open
or pending at the end of the text makes it fail.
-/

namespace UsedCss.Css

open UsedCss.Text

variable {layout : Layout} {p : Progress} {d : Int} {n : Nat} {l : List Char} {ls : List (List Char)}

/-- Under `d` open braces, the first `n` of some lines close more than are open, and no fewer do: `n` is
the number, from 1 on, of the first line that ends below the outer level. -/
structure FirstBelow (d : Int) (ls : List (List Char)) (n : Nat) : Prop where
  line : n ≤ ls.length
  below : d + depth (ls.take n) < 0
  above : ∀ m, m < n → 0 ≤ d + depth (ls.take m)

theorem firstBelow_zero : FirstBelow d ls 0 ↔ d < 0 :=
  ⟨fun h => by simpa using h.below, fun h => ⟨Nat.zero_le _, by simpa using h, nofun⟩⟩

theorem not_firstBelow_nil (h : 0 ≤ d) : ¬ FirstBelow d [] n := by
  intro hn
  have := hn.below
  simp only [List.take_nil, depth_nil] at this
  omega

theorem firstBelow_succ : FirstBelow d (l :: ls) (n + 1) ↔ 0 ≤ d ∧ FirstBelow (d + braceDelta l) ls n := by
  constructor
  · intro h
    refine ⟨by simpa using h.above 0 (Nat.zero_lt_succ n), Nat.le_of_succ_le_succ h.line, ?_, fun m hm => ?_⟩
    · have := h.below
      rw [List.take_succ_cons, depth_cons] at this
      omega
    · have := h.above (m + 1) (Nat.succ_lt_succ hm)
      rw [List.take_succ_cons, depth_cons] at this
      omega
  · rintro ⟨hd, h⟩
    refine ⟨Nat.succ_le_succ h.line, ?_, fun m hm => ?_⟩
    · have := h.below
      rw [List.take_succ_cons, depth_cons]
      omega
    · cases m with
      | zero => simpa using hd
      | succ m =>
        have := h.above m (Nat.lt_of_succ_lt_succ hm)
        rw [List.take_succ_cons, depth_cons]
        omega

/-- A run over numbered lines fails at the first one that ends below the outer level. -/
theorem run_eq_error_iff (hp : 0 ≤ p.depth) {k : Nat} :
    p.run layout (numberFilled layout n ls) = .error ⟨k⟩ ↔ ∃ i, FirstBelow p.depth ls i ∧ k + 1 = n + i := by
  -- on the lines, which change the depth and the number that the rest starts with
  induction ls generalizing p n with
  | nil =>
    refine iff_of_false nofun ?_
    rintro ⟨i, hi, -⟩
    exact not_firstBelow_nil hp hi
  | cons l ls ih =>
    have shift : (∃ i, FirstBelow p.depth (l :: ls) i ∧ k + 1 = n + i) ↔
        ∃ i, FirstBelow (p.depth + braceDelta l) ls i ∧ k + 1 = n + 1 + i := by
      constructor
      · rintro ⟨i, hi, hk⟩
        cases i with
        | zero => exact absurd (firstBelow_zero.1 hi) (Int.not_lt.2 hp)
        | succ i => exact ⟨i, (firstBelow_succ.1 hi).2, by omega⟩
      · rintro ⟨i, hi, hk⟩
        exact ⟨i + 1, firstBelow_succ.2 ⟨hp, hi⟩, by omega⟩
    rw [shift, numberFilled_cons]
    cases hb : isBlankText l with
    | true =>
      rw [if_pos rfl, ih hp, (Braceless.of_blank hb).delta, Int.add_zero]
    | false =>
      rw [if_neg Bool.false_ne_true, Progress.run]
      have hstep := step_depth layout p (layout.shape l, n)
      simp only [braceDelta_shape] at hstep
      by_cases hd : p.depth + braceDelta l < 0
      · rw [hstep.1 hd]
        simp only [Except.bind, Except.error.injEq, UnbalancedBrace.mk.injEq]
        constructor
        · rintro rfl
          exact ⟨0, firstBelow_zero.2 hd, rfl⟩
        · rintro ⟨i, hi, hk⟩
          cases i with
          | zero => omega
          | succ i =>
            have := hi.above 0 (Nat.zero_lt_succ i)
            simp only [List.take_zero, depth_nil, Int.add_zero] at this
            omega
      · obtain ⟨c, q, hq, hdepth⟩ := hstep.2 (Int.not_lt.1 hd)
        rw [← hdepth, ← ih (by omega), hq]
        simp only [Except.bind]
        cases q.run layout (numberFilled layout (n + 1) ls) <;> simp [Except.map]

/-- A scan fails at the first line that ends below the outer level, counting the braces of all the
lines without their comments, and succeeds if there is none. -/
theorem scan_unbalanced_iff (layout : Layout) (css : List Char) :
    (∀ n, scan layout css = .error ⟨n⟩ ↔ FirstBelow 0 (stripLines false (lines css)) n) ∧
      ((∃ cs, scan layout css = .ok cs) ↔ ∀ m, m <+: stripLines false (lines css) → 0 ≤ depth m) := by
  refine ⟨fun n => ?_, exists_scan_iff⟩
  rw [scan_eq_error_iff, codeLines, run_eq_error_iff (p := .none) (Int.le_refl 0)]
  constructor
  · rintro ⟨i, hi, hn⟩
    obtain rfl : n = i := by omega
    exact hi
  · intro h
    exact ⟨n, h, by omega⟩

end UsedCss.Css
