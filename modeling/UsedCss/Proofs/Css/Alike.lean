import Mathlib.Data.List.Forall2
import UsedCss.Proofs.Css.Construct
import UsedCss.Proofs.Outcome
/-!
# Runs over alike lines

A run looks at its lines only up to their blank ends, and at their numbers not at all; and at its
layout only to tell what starts an at-rule. So two runs over lines that differ in no more than that
stay in step, in one layout or in two: they fail at the same line, or hand back constructs of the same
kinds whose texts are joined from alike lines.
-/

namespace UsedCss.Css

open UsedCss.Text

-- `R` relates lines and `N` their numbers
variable {R : List Char → List Char → Prop} {N : Nat → Nat → Prop} {layout layout' : Layout}
  {p q : Progress} {n m : Nat}

/-- The same progress over alike lines. The number counts only once there is a line. -/
inductive Progress.Alike (R : List Char → List Char → Prop) (N : Nat → Nat → Prop) :
    Progress → Progress → Prop
  | between {ls ms n m} : List.Forall₂ R ls ms → (ls ≠ [] → N n m) →
      Alike R N (.between ls n) (.between ms m)
  | inRule {ls ms d n m} : List.Forall₂ R ls ms → N n m → Alike R N (.inRule ls d n) (.inRule ms d m)
  | inAtRule {ls ms d opened n m} : List.Forall₂ R ls ms → N n m →
      Alike R N (.inAtRule ls d opened n) (.inAtRule ms d opened m)

/-- Constructs of one kind, joined from alike lines. -/
structure Construct.Alike (R : List Char → List Char → Prop) (N : Nat → Nat → Prop)
    (layout layout' : Layout) (c d : Construct) : Prop where
  kind : c.kind = d.kind
  line : N c.line d.line
  text : ∃ ls ms, List.Forall₂ R ls ms ∧ c.text = joinWith layout.separator ls ∧
    d.text = joinWith layout'.separator ms

/-- Alike outcomes of a step. -/
def AlikeStep (R : List Char → List Char → Prop) (N : Nat → Nat → Prop) (layout layout' : Layout)
    (r r' : Option Construct × Progress) : Prop :=
  List.Forall₂ (Construct.Alike R N layout layout') r.1.toList r'.1.toList ∧ Progress.Alike R N r.2 r'.2

/-- Alike lines have the same trimmed line, and start an at-rule in both layouts or in none. -/
def ReadsAlike (layout layout' : Layout) (R : List Char → List Char → Prop) : Prop :=
  ∀ l l', R l l' → trim l = trim l' ∧ startsAtRule layout l = startsAtRule layout' l'

theorem Progress.Alike.none : Progress.Alike R N .none .none := .between .nil (absurd rfl)

theorem Construct.Alike.joined {ls ms : List (List Char)} (kind : Construct.Kind)
    (h : List.Forall₂ R ls ms) (hN : N n m) :
    Construct.Alike R N layout layout' ⟨kind, joinWith layout.separator ls.reverse, n⟩
      ⟨kind, joinWith layout'.separator ms.reverse, m⟩ :=
  ⟨rfl, hN, ls.reverse, ms.reverse, List.forall₂_reverse_iff.2 h, rfl, rfl⟩

theorem isEmpty_eq_of_forall₂ {α β : Type} {R : α → β → Prop} {l : List α} {l' : List β}
    (h : List.Forall₂ R l l') : l.isEmpty = l'.isEmpty := by
  cases h <;> rfl

/-! ## One step -/

theorem settle_alike (h : Progress.Alike R N p q) (hN : N n m) :
    Paired (fun e e' => N e.line e'.line) (AlikeStep R N layout layout') (p.settle layout n)
      (q.settle layout' m) := by
  cases h with
  | between hls hnum => exact .ok ⟨.nil, .between hls hnum⟩
  | inRule hls hnum =>
    rw [settle_inRule, settle_inRule]
    split
    · exact .error hN
    split
    · exact .ok ⟨.cons (.joined .rule hls hnum) .nil, .none⟩
    · exact .ok ⟨.nil, .inRule hls hnum⟩
  | inAtRule hls hnum =>
    rw [settle_inAtRule, settle_inAtRule]
    split
    · exact .error hN
    split
    · exact .ok ⟨.cons (.joined .atRule hls hnum) .nil, .none⟩
    · exact .ok ⟨.nil, .inAtRule hls hnum⟩

/-- In one layout, a trimmed line says whether the line starts an at-rule. -/
theorem readsAlike_of_trim (layout : Layout) (hR : ∀ l l', R l l' → trim l = trim l') :
    ReadsAlike layout layout R := by
  intro l l' h
  refine ⟨hR l l' h, ?_⟩
  rw [← startsAtRule_trim, hR l l' h, startsAtRule_trim]

/-- All else that a step reads of a line survives trimming. -/
theorem reads_of_trim {l l' : List Char} (h : trim l = trim l') :
    braceDelta l = braceDelta l' ∧ l.contains '{' = l'.contains '{' ∧
      l.contains '}' = l'.contains '}' ∧ endsStatement l = endsStatement l' := by
  have hmem : ∀ {c : Char}, isBlank c = false → l.contains c = l'.contains c := fun {c} hc => by
    rw [Bool.eq_iff_iff, List.contains_iff_mem, List.contains_iff_mem, ← mem_trim hc, h, mem_trim hc]
  refine ⟨?_, hmem (by decide), hmem (by decide), ?_⟩
  · rw [← braceDelta_trim, h, braceDelta_trim]
  · rw [← endsStatement_trim, h, endsStatement_trim]

theorem step_alike (hR : ReadsAlike layout layout' R) (h : Progress.Alike R N p q)
    {l l' : List Char} (hl : R l l') (hN : N n m) :
    Paired (fun e e' => N e.line e'.line) (AlikeStep R N layout layout') (p.step layout (l, n))
      (q.step layout' (l', m)) := by
  obtain ⟨htrim, hat⟩ := hR l l' hl
  obtain ⟨hdelta, hopen, hclose, hends⟩ := reads_of_trim htrim
  cases h with
  | @between ls ms k k' hls hnum =>
    have hfirst : N (if ls.isEmpty then n else k) (if ms.isEmpty then m else k') := by
      rw [← isEmpty_eq_of_forall₂ hls]
      cases hls with
      | nil => exact hN
      | cons => exact hnum (by simp)
    rw [step_between, step_between, hat, hdelta, hopen, hclose, hends]
    split
    · exact settle_alike (.inAtRule (.cons hl .nil) hN) hN
    split
    · exact settle_alike (.inRule (.cons hl hls) hfirst) hN
    split
    · exact .error hN
    split
    · exact .ok ⟨.nil, .none⟩
    · exact .ok ⟨.nil, .between (.cons hl hls) fun _ => hfirst⟩
  | inRule hls hnum =>
    rw [step_inRule, step_inRule, hdelta]
    exact settle_alike (.inRule (.cons hl hls) hnum) hN
  | inAtRule hls hnum =>
    rw [step_inAtRule, step_inAtRule, hdelta, hopen]
    exact settle_alike (.inAtRule (.cons hl hls) hnum) hN

/-! ## Runs -/

/-- Runs over alike lines fail alike, or hand back alike constructs and end alike. -/
theorem run_alike (hR : ReadsAlike layout layout' R) {ls ms : List (List Char × Nat)}
    (hls : List.Forall₂ (fun l m => R l.1 m.1 ∧ N l.2 m.2) ls ms) (h : Progress.Alike R N p q) :
    Paired (fun e e' => N e.line e'.line)
      (fun r r' => List.Forall₂ (Construct.Alike R N layout layout') r.1 r'.1 ∧
        Progress.Alike R N r.2 r'.2)
      (p.run layout ls) (q.run layout' ms) := by
  induction hls generalizing p q with
  | nil => exact .ok ⟨.nil, h⟩
  | cons hl _ ih =>
    refine (step_alike hR h hl.1 hl.2).bind fun r r' hr => (ih hr.2).map fun s s' hs => ?_
    exact ⟨List.rel_append hr.1 hs.1, hs.2⟩

theorem scan_alike (hR : ReadsAlike layout layout' R) {a b : List Char}
    (h : List.Forall₂ (fun l m => R l.1 m.1 ∧ N l.2 m.2) (codeLines layout a) (codeLines layout' b)) :
    Paired (fun e e' => N e.line e'.line) (List.Forall₂ (Construct.Alike R N layout layout'))
      (scan layout a) (scan layout' b) := by
  rw [scan_eq, scan_eq]
  exact (run_alike hR h .none).map fun _ _ hr => hr.1

end UsedCss.Css
