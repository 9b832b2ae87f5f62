import UsedCss.Proofs.Css.Alike
import UsedCss.Proofs.Css.Compare
/-!
# Sheets one after another

A scan that has come to the end of a construct, with nothing pending and no comment open, goes on as
a new scan would, but for the numbers of the lines. So a sheet of two such parts is scanned and
filtered part by part.
-/

namespace UsedCss.Css

open UsedCss.Text

variable {target : ClassSet} {a b o : List Char} {cs ds : List Construct} {s : Scanner} {k n : Nat}

/-! ## Lines of two texts -/

/-- The lines of a text that ends with a line, and of what follows. -/
theorem lines_append (ha : a = [] ∨ a.getLast? = some '\n') (b : List Char) :
    lines (a ++ b) = lines a ++ lines b := by
  rcases ha with rfl | ha
  · rfl
  obtain ⟨a, rfl⟩ := List.getLast?_eq_some_iff.1 ha
  clear ha
  induction a using lines_induction with
  | single l hl =>
    rw [List.append_assoc, List.singleton_append, lines_append_newline hl, lines_append_newline hl]
    rfl
  | cons l rest hl ih =>
    have e : l ++ '\n' :: rest ++ ['\n'] = l ++ '\n' :: (rest ++ ['\n']) := by simp
    rw [e, List.append_assoc, List.cons_append, lines_append_newline hl, lines_append_newline hl, ih,
      List.cons_append]

/-- Lines taken one after another and then more lines. -/
theorem feedAll_append (s : Scanner) (found : List Construct) (ls ms : List (List Char)) :
    s.feedAll found (ls ++ ms) =
      (s.feedAll found ls).bind fun r => r.2.feedAll r.1.reverse ms := by
  induction ls generalizing s found with
  | nil => simp [Scanner.feedAll, Except.bind]
  | cons l ls ih =>
    rw [List.cons_append, Scanner.feedAll, Scanner.feedAll]
    split
    · rfl
    · exact ih _ _

/-! ## Numbers -/

/-- The same construct `n` lines further down. -/
def Construct.shift (n : Nat) (c : Construct) : Construct := { c with line := c.line + n }

/-- The same brace `n` lines further down. -/
def UnbalancedBrace.shift (n : Nat) (e : UnbalancedBrace) : UnbalancedBrace := ⟨e.line + n⟩

/-- Lines do not depend on the number of the first one. -/
theorem numberFilled_alike (layout : Layout) (n k : Nat) (ls : List (List Char)) :
    List.Forall₂ (fun l m => l.1 = m.1 ∧ l.2 = m.2 + n) (numberFilled layout (k + n) ls)
      (numberFilled layout k ls) := by
  induction ls generalizing k with
  | nil => exact .nil
  | cons l ls ih =>
    have hnext : k + n + 1 = k + 1 + n := by omega
    rw [numberFilled_cons, numberFilled_cons, hnext]
    split
    · exact ih (k + 1)
    · exact .cons ⟨rfl, rfl⟩ (ih (k + 1))

theorem Construct.Alike.eq_shift {layout : Layout} {c d : Construct}
    (h : Construct.Alike Eq (fun x y => x = y + n) layout layout c d) : c = d.shift n := by
  obtain ⟨ls, ms, hls, hc, hd⟩ := h.text
  rw [List.forall₂_eq_eq_eq] at hls
  have htext : c.text = d.text := by rw [hc, hd, hls]
  obtain ⟨kind, text, line⟩ := c
  obtain ⟨kind', text', line'⟩ := d
  obtain rfl : kind = kind' := h.kind
  obtain rfl : text = text' := htext
  obtain rfl : line = line' + n := h.line
  rfl

/-- Results that only differ in the numbers of their lines. -/
theorem eq_shift_of_paired {layout : Layout} {x y : Except UnbalancedBrace (List Construct)}
    (h : Paired (fun e e' => e.line = e'.line + n)
      (List.Forall₂ (Construct.Alike Eq (fun x y => x = y + n) layout layout)) x y) :
    x = (y.map (List.map (Construct.shift n))).mapError (UnbalancedBrace.shift n) := by
  cases h with
  | @error e e' he => exact congrArg Except.error (congrArg UnbalancedBrace.mk he)
  | ok hall =>
    refine congrArg Except.ok ?_
    induction hall with
    | nil => rfl
    | cons hc _ ih => rw [List.map_cons, ← ih, hc.eq_shift]

/-- From a place without pending lines a run goes on as from the start. -/
theorem run_between (layout : Layout) (k n m : Nat) (ls : List (List Char)) :
    ((Progress.between [] k).run layout (numberFilled layout (m + n) ls)).map Prod.fst =
      (((Progress.none.run layout (numberFilled layout m ls)).map Prod.fst).map
        (List.map (Construct.shift n))).mapError (UnbalancedBrace.shift n) := by
  -- `k` is left over from the construct before and is not read while nothing is pending
  have hp : Progress.Alike Eq (fun x y => x = y + n) (.between [] k) .none := .between .nil (absurd rfl)
  have hrun := run_alike (readsAlike_of_trim layout fun _ _ e => congrArg trim e)
    (numberFilled_alike layout n m ls) hp
  exact eq_shift_of_paired (hrun.map fun _ _ hr => hr.1)

/-! ## Scans -/

theorem feedAll_layout {layout : Layout} {ls : List (List Char)}
    (h : (Scanner.start layout).feedAll [] ls = .ok (cs, s)) :
    s.layout = layout ∧ s.line = ls.length := by
  rw [feedAll_eq] at h
  generalize (Scanner.start layout).progress.run _ _ = r at h
  cases r with
  | error e => cases h
  | ok r =>
    cases h
    exact ⟨rfl, Nat.zero_add _⟩

/-- Behind a part that is complete a scan finds what it finds in the rest alone. -/
theorem scan_append (ha : a = [] ∨ a.getLast? = some '\n')
    (hrun : (Scanner.start .sheet).feedAll [] (lines a) = .ok (cs, s))
    (hp : ∃ k, s.progress = .between [] k) (hi : s.inComment = false) (b : List Char) :
    scan .sheet (a ++ b) = ((scan .sheet b).map fun ds =>
      cs ++ ds.map (Construct.shift (lines a).length)).mapError
        (UnbalancedBrace.shift (lines a).length) := by
  obtain ⟨k, hp⟩ := hp
  obtain ⟨hlayout, hline⟩ := feedAll_layout hrun
  have hrest := run_between .sheet k (lines a).length 1 (stripLines false (lines b))
  rw [← codeLines, ← scan_eq, Nat.add_comm 1] at hrest
  have hfeed : scan .sheet (a ++ b) =
      (((Progress.between [] k).run .sheet (numberFilled .sheet ((lines a).length + 1)
        (stripLines false (lines b)))).map Prod.fst).map (cs ++ ·) := by
    rw [scan, lines_append ha, feedAll_append, hrun, Except.bind, feedAll_eq, hlayout, hp, hi, hline,
      List.reverse_reverse]
    generalize (Progress.between [] k).run _ _ = r
    cases r <;> rfl
  rw [hfeed, hrest]
  cases scan .sheet b <;> rfl

/-! ## Outputs -/

/-- The number of its line has no part in what is left of a construct. -/
theorem pruneAll_shift (target : ClassSet) (n : Nat) (ds : List Construct) :
    Paired (fun _ _ => True) Eq (pruneAll target (ds.map (Construct.shift n))) (pruneAll target ds) := by
  refine paired_pruneAll rfl (fun _ _ _ _ hu hv => by rw [hu, hv]) ?_
  rw [List.forall₂_map_left_iff, List.forall₂_same]
  rintro ⟨kind, text, line⟩ -
  cases kind with
  | rule => exact .ok rfl
  | atRule =>
    have hblock : Paired Eq Eq (pruneBlock text target) (pruneBlock text target) := .refl fun _ => rfl
    exact (hblock.mapError (D := fun _ _ => True) fun _ _ _ => trivial).mono (fun _ _ e => e)
      fun r r' hr => congrArg Option.toList hr

/-- Filtering both parts together keeps what is left of the one and then what is left of the other. -/
theorem filter_append_eq_ok_iff (hscan : scan .sheet (a ++ b) = ((scan .sheet b).map fun ds =>
      cs ++ ds.map (Construct.shift n)).mapError (UnbalancedBrace.shift n)) :
    filter (a ++ b) target { maxBytes := none } = .ok o ↔
      ∃ us ds vs, pruneAll target cs = .ok us ∧ scan .sheet b = .ok ds ∧
        pruneAll target ds = .ok vs ∧ o = renderSheet (us ++ vs) := by
  rw [filter_eq_ok_iff_pruneAll, hscan]
  constructor
  · rintro ⟨es, ws, hs, hw, rfl⟩
    cases hb : scan .sheet b with
    | error e =>
      rw [hb] at hs
      cases hs
    | ok ds =>
      rw [hb] at hs
      cases hs
      obtain ⟨us, vs, hu, hv, rfl⟩ := pruneAll_append_eq_ok_iff.1 hw
      obtain ⟨_, hv', rfl⟩ := (pruneAll_shift target n ds).of_ok hv
      exact ⟨us, ds, _, hu, rfl, hv', rfl⟩
  · rintro ⟨us, ds, vs, hu, hs, hv, rfl⟩
    obtain ⟨_, hv', rfl⟩ := (pruneAll_shift target n ds).swap.of_ok hv
    refine ⟨cs ++ ds.map (Construct.shift n), _, ?_, pruneAll_append_eq_ok_iff.2 ⟨us, _, hu, hv', rfl⟩, rfl⟩
    rw [hs]
    rfl

/-- Let a part of a sheet be empty or end in a newline, and let a scan of it end between constructs
with nothing pending and outside of comments. Then the sheet scans as the part and the rest, with the
lines of the part added to the numbers of the rest. It can be filtered if both can, and the outputs
stand one after another. -/
theorem filter_append (ha : a = [] ∨ a.getLast? = some '\n')
    (hrun : (Scanner.start .sheet).feedAll [] (lines a) = .ok (cs, s))
    (hp : ∃ k, s.progress = .between [] k) (hi : s.inComment = false) (b : List Char) :
    scan .sheet a = .ok cs ∧
      scan .sheet (a ++ b) = ((scan .sheet b).map fun ds =>
        cs ++ ds.map (Construct.shift (lines a).length)).mapError
          (UnbalancedBrace.shift (lines a).length) ∧
      ∀ target : ClassSet,
        ((∃ o, filter (a ++ b) target { maxBytes := none } = .ok o) ↔
          (∃ o, filter a target { maxBytes := none } = .ok o) ∧
            ∃ o, filter b target { maxBytes := none } = .ok o) ∧
        ∀ o oa ob, filter (a ++ b) target { maxBytes := none } = .ok o →
          filter a target { maxBytes := none } = .ok oa → filter b target { maxBytes := none } = .ok ob →
            trimmedLines o = trimmedLines oa ++ trimmedLines ob := by
  have hscan := scan_append ha hrun hp hi b
  have hscana := scan_of_feedAll hrun
  refine ⟨hscana, hscan, fun target => ?_⟩
  have hpart : ∀ oa, filter a target { maxBytes := none } = .ok oa ↔
      ∃ us, pruneAll target cs = .ok us ∧ oa = renderSheet us := fun oa => by
    rw [filter_eq_ok_iff_pruneAll, hscana]
    simp
  simp only [filter_append_eq_ok_iff hscan, hpart, filter_eq_ok_iff_pruneAll]
  refine ⟨⟨?_, ?_⟩, ?_⟩
  · rintro ⟨_, us, ds, vs, hu, hs, hv, -⟩
    exact ⟨⟨_, us, hu, rfl⟩, _, ds, vs, hs, hv, rfl⟩
  · rintro ⟨⟨_, us, hu, -⟩, _, ds, vs, hs, hv, -⟩
    exact ⟨_, us, ds, vs, hu, hs, hv, rfl⟩
  · rintro _ _ _ ⟨us, ds, vs, hu, hs, hv, rfl⟩ ⟨us', hu', rfl⟩ ⟨ds', vs', hs', hv', rfl⟩
    cases hu.symm.trans hu'
    cases hs.symm.trans hs'
    cases hv.symm.trans hv'
    simp only [trimmedLines_renderSheet, List.flatMap_append]

/-- A rule and a statement, and then a media block on the third line. -/
theorem filter_append_media :
    (Scanner.start .sheet).feedAll [] (lines ".a \x7b x \x7d\n@import y;\n".toList) =
        .ok ([⟨.rule, ".a \x7b x \x7d".toList, 1⟩], ⟨.sheet, .none, false, 2⟩) ∧
      scan .sheet "@media p \x7b\n.a \x7b z \x7d\n\x7d".toList =
        .ok [⟨.atRule, "@media p \x7b\n.a \x7b z \x7d\n\x7d".toList, 1⟩] ∧
      scan .sheet (".a \x7b x \x7d\n@import y;\n".toList ++ "@media p \x7b\n.a \x7b z \x7d\n\x7d".toList) =
        .ok [⟨.rule, ".a \x7b x \x7d".toList, 1⟩,
          ⟨.atRule, "@media p \x7b\n.a \x7b z \x7d\n\x7d".toList, 3⟩] ∧
      ∃ o, filter (".a \x7b x \x7d\n@import y;\n".toList ++ "@media p \x7b\n.a \x7b z \x7d\n\x7d".toList)
          (ClassSet.ofList ["a"]) { maxBytes := none } = .ok o ∧
        trimmedLines o = trimmedLines ".a \x7b x \x7d".toList ++
          trimmedLines "@media p \x7b\n    .a \x7b z \x7d\n\x7d".toList := by
  have hrun : (Scanner.start .sheet).feedAll [] (lines ".a \x7b x \x7d\n@import y;\n".toList) =
      .ok ([⟨.rule, ".a \x7b x \x7d".toList, 1⟩], ⟨.sheet, .none, false, 2⟩) := by decide +kernel
  have hb : scan .sheet "@media p \x7b\n.a \x7b z \x7d\n\x7d".toList =
      .ok [⟨.atRule, "@media p \x7b\n.a \x7b z \x7d\n\x7d".toList, 1⟩] := by decide +kernel
  have hoa : filter ".a \x7b x \x7d\n@import y;\n".toList (ClassSet.ofList ["a"]) { maxBytes := none } =
      .ok ".a \x7b x \x7d".toList := by decide +kernel
  have hob : filter "@media p \x7b\n.a \x7b z \x7d\n\x7d".toList (ClassSet.ofList ["a"]) { maxBytes := none } =
      .ok "@media p \x7b\n    .a \x7b z \x7d\n\x7d".toList := by decide +kernel
  obtain ⟨-, hscan, hfilter⟩ := filter_append (.inr (by decide)) hrun ⟨0, rfl⟩ rfl
    "@media p \x7b\n.a \x7b z \x7d\n\x7d".toList
  obtain ⟨o, ho⟩ := (hfilter (ClassSet.ofList ["a"])).1.2 ⟨⟨_, hoa⟩, _, hob⟩
  refine ⟨hrun, hb, ?_, o, ho, (hfilter _).2 o _ _ ho hoa hob⟩
  rw [hscan, hb]
  decide +kernel

end UsedCss.Css
