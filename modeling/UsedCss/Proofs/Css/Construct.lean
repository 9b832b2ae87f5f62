import UsedCss.Proofs.Css.Code
/-!
# The lines of a construct

`Complete` says which lines make a construct. A run over them hands back this construct and nothing
else (`run_complete`), so a run over the lines of several constructs hands back just these.
-/

namespace UsedCss.Css

open UsedCss.Text

/-! ## Blocks -/

/-- Lines under `d` open braces, which stay open. -/
def StaysOpen (d : Int) (ls : List (List Char)) : Prop := ∀ m, m <+: ls → 0 < d + depth m

/-- Lines under `d` open braces, the last of which they close with their end and not before. -/
def Closes (d : Int) (ls : List (List Char)) : Prop :=
  d + depth ls = 0 ∧ ∀ m, m <+: ls → m ≠ ls → 0 < d + depth m

theorem closes_nil {d : Int} : Closes d [] ↔ d = 0 := by
  refine ⟨fun h => by simpa using h.1, fun h => ⟨by simp [h], fun m hm hne => ?_⟩⟩
  exact absurd (List.prefix_nil.1 hm) hne

theorem closes_cons {d : Int} {l : List Char} {ls : List (List Char)} :
    Closes d (l :: ls) ↔ 0 < d ∧ Closes (d + braceDelta l) ls := by
  constructor
  · rintro ⟨h0, h⟩
    rw [depth_cons] at h0
    refine ⟨by simpa using h [] List.nil_prefix (by simp), by omega, fun m hm hne => ?_⟩
    have := h (l :: m) (List.cons_prefix_cons.2 ⟨rfl, hm⟩) (by simpa using hne)
    rw [depth_cons] at this
    omega
  · rintro ⟨hd, h0, h⟩
    refine ⟨by rw [depth_cons]; omega, fun m hm hne => ?_⟩
    cases m with
    | nil => simpa using hd
    | cons x m =>
      obtain ⟨rfl, hmls⟩ := List.cons_prefix_cons.1 hm
      have := h m hmls (by simpa using hne)
      rw [depth_cons]
      omega

/-- A line of a selector list whose block has not come yet. -/
structure SelectorLine (layout : Layout) (l : List Char) : Prop where
  braceless : Braceless l
  noAtRule : startsAtRule layout l = false
  noStatement : endsStatement l = false

/-- The lines up to the first one with an opening brace, by what they start. -/
inductive Opens (layout : Layout) : Construct.Kind → List (List Char) → List Char → Prop
  | rule {sel : List (List Char)} {l : List Char} : (∀ m ∈ sel, SelectorLine layout m) →
      startsAtRule layout l = false → '{' ∈ l → Opens layout .rule sel l
  | atRule {header : List (List Char)} {l : List Char} : (∀ m ∈ header, Braceless m) →
      (∃ m ∈ (header ++ [l]).head?, startsAtRule layout m = true) → '{' ∈ l →
        Opens layout .atRule header l

/-- The lines of a construct: once its first brace is open, its braces balance with the last
line and not before. -/
def Complete (layout : Layout) (kind : Construct.Kind) (ls : List (List Char)) : Prop :=
  ∃ head l rest, ls = head ++ l :: rest ∧ Opens layout kind head l ∧ Closes (braceDelta l) rest

variable {layout : Layout} {kind : Construct.Kind} {head : List (List Char)} {l : List Char}
  {p q : Progress} {n : Nat}

theorem Opens.braceless (h : Opens layout kind head l) : ∀ m ∈ head, Braceless m := by
  cases h with
  | rule hs _ _ => exact fun m hm => (hs m hm).braceless
  | atRule hb _ _ => exact hb

theorem Opens.brace (h : Opens layout kind head l) : '{' ∈ l := by
  cases h <;> assumption

/-- The first line tells an at-rule from a rule. -/
theorem Opens.kind_iff (h : Opens layout kind head l) :
    kind = .atRule ↔ ∃ m ∈ (head ++ [l]).head?, startsAtRule layout m = true := by
  cases h with
  | rule hs hl _ =>
    apply iff_of_false nofun
    rintro ⟨m, hm, hat⟩
    rcases List.mem_append.1 (List.mem_of_mem_head? hm) with hm | hm
    · simp [(hs m hm).noAtRule] at hat
    · obtain rfl := List.mem_singleton.1 hm
      simp [hl] at hat
  | atRule _ hat _ => exact iff_of_true rfl hat

/-- Lines with an opening brace whose braces balance with the last line, and with no line
after the first opening brace and before the last. -/
def Balanced (ls : List (List Char)) : Prop :=
  (∃ l ∈ ls, '{' ∈ l) ∧ depth ls = 0 ∧ ∀ m, m <+: ls → m ≠ ls → (∃ l ∈ m, '{' ∈ l) → depth m ≠ 0

theorem Complete.ne_nil {ls : List (List Char)} (h : Complete layout kind ls) : ls ≠ [] := by
  obtain ⟨head, l, rest, rfl, -, -⟩ := h
  simp

theorem Complete.depth_eq {ls : List (List Char)} (h : Complete layout kind ls) : depth ls = 0 := by
  obtain ⟨head, l, rest, rfl, ho, hc⟩ := h
  rw [depth_append, depth_cons, depth_braceless ho.braceless, Int.zero_add, hc.1]

theorem Complete.kind_iff {ls : List (List Char)} (h : Complete layout kind ls) :
    kind = .atRule ↔ ∃ l ∈ ls.head?, startsAtRule layout l = true := by
  obtain ⟨head, l, rest, rfl, ho, -⟩ := h
  rw [ho.kind_iff]
  cases head <;> simp

theorem Complete.balanced {ls : List (List Char)} (h : Complete layout kind ls) : Balanced ls := by
  refine ⟨?_, h.depth_eq, ?_⟩
  · obtain ⟨head, l, rest, rfl, ho, -⟩ := h
    exact ⟨l, by simp, ho.brace⟩
  · obtain ⟨head, l, rest, rfl, ho, hc⟩ := h
    rintro m hm hne ⟨x, hx, hbrace⟩
    rcases List.prefix_or_prefix_of_prefix hm (List.prefix_append head (l :: rest)) with hhead | ⟨t, rfl⟩
    · exact absurd hbrace (ho.braceless x (hhead.mem hx)).1
    · rw [List.prefix_append_right_inj] at hm
      cases t with
      | nil => exact absurd hbrace (ho.braceless x (by simpa using hx)).1
      | cons y t =>
        obtain ⟨rfl, ht⟩ := List.cons_prefix_cons.1 hm
        have := hc.2 t ht (by simpa using hne)
        rw [depth_append, depth_cons, depth_braceless ho.braceless]
        omega

/-- The lines of a construct never close more than they open. -/
theorem Complete.depth_nonneg {ls m : List (List Char)} (h : Complete layout kind ls)
    (hm : m <+: ls) : 0 ≤ depth m := by
  obtain ⟨head, l, rest, rfl, ho, hc⟩ := h
  rcases List.prefix_or_prefix_of_prefix hm (List.prefix_append head (l :: rest)) with hhead | ⟨t, rfl⟩
  · exact Int.le_of_eq (depth_braceless fun x hx => ho.braceless x (hhead.mem hx)).symm
  · rw [List.prefix_append_right_inj] at hm
    rw [depth_append, depth_braceless ho.braceless, Int.zero_add]
    cases t with
    | nil => simp
    | cons y t =>
      obtain ⟨rfl, ht⟩ := List.cons_prefix_cons.1 hm
      rw [depth_cons]
      rcases eq_or_ne t rest with rfl | hne
      · have := hc.1
        omega
      · have := hc.2 t ht hne
        omega

/-! ## Trimmed lines -/

theorem startsAtRule_trim (layout : Layout) (l : List Char) :
    startsAtRule layout (trim l) = startsAtRule layout l := by
  rw [startsAtRule, startsAtRule, trimStart_trim, trim, isBlockAtRule_trimEnd]

theorem endsStatement_trim (l : List Char) : endsStatement (trim l) = endsStatement l := by
  rw [endsStatement, endsStatement, trim_trim]

theorem braceless_trim {l : List Char} : Braceless (trim l) ↔ Braceless l := by
  rw [Braceless, Braceless, mem_trim (by decide), mem_trim (by decide)]

theorem selectorLine_trim : SelectorLine layout (trim l) ↔ SelectorLine layout l :=
  ⟨fun h => ⟨braceless_trim.1 h.braceless, startsAtRule_trim layout l ▸ h.noAtRule,
      endsStatement_trim l ▸ h.noStatement⟩,
    fun h => ⟨braceless_trim.2 h.braceless, (startsAtRule_trim layout l).trans h.noAtRule,
      (endsStatement_trim l).trans h.noStatement⟩⟩

theorem depth_map_trim (ls : List (List Char)) : depth (ls.map trim) = depth ls := by
  exact depth_congr (by simp)

theorem opens_map_trim : Opens layout kind (head.map trim) (trim l) ↔ Opens layout kind head l := by
  have first : (∃ m ∈ (head.map trim ++ [trim l]).head?, startsAtRule layout m = true) ↔
      ∃ m ∈ (head ++ [l]).head?, startsAtRule layout m = true := by
    cases head <;> simp [startsAtRule_trim]
  constructor
  · intro h
    cases h with
    | rule hs hat ho =>
      exact .rule (fun m hm => selectorLine_trim.1 (hs _ (List.mem_map_of_mem hm)))
        (startsAtRule_trim layout l ▸ hat)
        ((mem_trim (by decide)).1 ho)
    | atRule hb hat ho =>
      exact .atRule (fun m hm => braceless_trim.1 (hb _ (List.mem_map_of_mem hm))) (first.1 hat)
        ((mem_trim (by decide)).1 ho)
  · intro h
    cases h with
    | rule hs hat ho =>
      exact .rule (List.forall_mem_map.2 fun m hm => selectorLine_trim.2 (hs m hm))
        ((startsAtRule_trim layout l).trans hat) ((mem_trim (by decide)).2 ho)
    | atRule hb hat ho =>
      exact .atRule (List.forall_mem_map.2 fun m hm => braceless_trim.2 (hb m hm)) (first.2 hat)
        ((mem_trim (by decide)).2 ho)

theorem closes_map_trim {d : Int} {ls : List (List Char)} :
    Closes d (ls.map trim) ↔ Closes d ls := by
  induction ls generalizing d with
  | nil => rfl
  | cons l ls ih => rw [List.map_cons, closes_cons, closes_cons, braceDelta_trim, ih]

/-- Lines make a construct if and only if the trimmed lines do. -/
theorem complete_map_trim {ls : List (List Char)} :
    Complete layout kind (ls.map trim) ↔ Complete layout kind ls := by
  constructor
  · rintro ⟨head, l, rest, e, ho, hc⟩
    obtain ⟨head, ms, rfl, rfl, hms⟩ := List.map_eq_append_iff.1 e
    obtain ⟨l, rest, rfl, rfl, rfl⟩ := List.map_eq_cons_iff.1 hms
    exact ⟨head, l, rest, rfl, opens_map_trim.1 ho, closes_map_trim.1 (braceDelta_trim l ▸ hc)⟩
  · rintro ⟨head, l, rest, rfl, ho, hc⟩
    refine ⟨head.map trim, trim l, rest.map trim, by simp, opens_map_trim.2 ho, ?_⟩
    rw [braceDelta_trim]
    exact closes_map_trim.2 hc

/-- So it does not matter how the lines are trimmed. -/
theorem Complete.of_map_trim {ls ms : List (List Char)} (h : Complete layout kind ls)
    (e : ms.map trim = ls.map trim) :
    Complete layout kind ms :=
  complete_map_trim.1 (e ▸ complete_map_trim.2 h)

/-! ## A run over the lines of a construct -/

/-- The number of the first one of some numbered lines. -/
def firstNumber (ls : List (List Char × Nat)) : Nat := (ls.head?.map Prod.snd).getD 0

/-- The construct that numbered lines make. -/
def constructOf (layout : Layout) (kind : Construct.Kind) (ls : List (List Char × Nat)) :
    Construct :=
  ⟨kind, joinWith layout.separator (texts ls), firstNumber ls⟩

/-- The progress inside the block of a construct. -/
def Progress.inBlock (kind : Construct.Kind) (ls : List (List Char)) (d : Int) (n : Nat) :
    Progress :=
  match kind with
  | .rule => .inRule ls d n
  | .atRule => .inAtRule ls d true n

theorem reverse_texts_concat (ls : List (List Char × Nat)) (l : List Char × Nat) :
    (texts (ls ++ [l])).reverse = l.1 :: (texts ls).reverse := by
  simp

theorem firstNumber_concat (ls : List (List Char × Nat)) (l : List Char × Nat) :
    firstNumber (ls ++ [l]) = if (texts ls).reverse.isEmpty then l.2 else firstNumber ls := by
  cases ls with
  | nil => rfl
  | cons m ls => simp [firstNumber]

theorem step_inBlock (kind : Construct.Kind) (ls : List (List Char)) (d : Int) (k : Nat)
    (l : List Char × Nat) :
    (Progress.inBlock kind ls d k).step layout l =
      (Progress.inBlock kind (l.1 :: ls) (d + braceDelta l.1) k).settle layout l.2 := by
  cases kind <;> rfl

theorem settle_inBlock (kind : Construct.Kind) (ls : List (List Char)) (d : Int) (k n : Nat) :
    (Progress.inBlock kind ls d k).settle layout n =
      if d < 0 then .error ⟨n⟩
      else if d = 0 then .ok (some ⟨kind, joinWith layout.separator ls.reverse, k⟩, .none)
      else .ok (none, .inBlock kind ls d k) := by
  cases kind with
  | rule => exact settle_inRule ..
  | atRule =>
    apply (settle_inAtRule ls d true k n).trans
    simp [Progress.inBlock]

/-- From inside a block, lines that close it complete the construct. -/
theorem settle_run_inBlock {ls : List (List Char × Nat)} {d : Int} (h : Closes d (texts ls))
    (before : List (List Char)) (k n : Nat) :
    ∃ c q ds, (Progress.inBlock kind before d k).settle layout n = .ok (c, q) ∧
      q.run layout ls = .ok (ds, .none) ∧
      c.toList ++ ds = [⟨kind, joinWith layout.separator (before.reverse ++ texts ls), k⟩] := by
  -- every line read goes in front of `before` and changes the depth that is left to close
  induction ls generalizing d before n with
  | nil =>
    obtain rfl := closes_nil.1 h
    exact ⟨_, _, [], by rw [settle_inBlock]; rfl, rfl, by simp⟩
  | cons l ls ih =>
    rw [texts_cons, closes_cons] at h
    obtain ⟨hd, h⟩ := h
    obtain ⟨c, q, ds, hs, hr, e⟩ := ih h (l.1 :: before) l.2
    refine ⟨none, .inBlock kind before d k, c.toList ++ ds, ?_, ?_, by simpa using e⟩
    · rw [settle_inBlock, if_neg (by omega), if_neg (by omega)]
    · exact run_cons_eq_ok.2 ⟨c, q, ds, by rw [step_inBlock, hs], hr, rfl⟩

theorem step_selectorLine {l : List Char × Nat} (h : SelectorLine layout l.1)
    (before : List (List Char)) (k : Nat) :
    (Progress.between before k).step layout l =
      .ok (none, .between (l.1 :: before) (if before.isEmpty then l.2 else k)) := by
  rw [step_between, if_neg (by simp [h.noAtRule]), if_neg (by simpa using h.braceless.1),
    if_neg (by simpa using h.braceless.2), if_neg (by simp [h.noStatement])]

theorem run_selectorLines {ls : List (List Char × Nat)}
    (h : ∀ m ∈ texts ls, SelectorLine layout m) :
    Progress.none.run layout ls = .ok ([], .between (texts ls).reverse (firstNumber ls)) := by
  -- from the back, since the run starts with nothing held
  induction ls using List.reverseRecOn with
  | nil => rfl
  | append_singleton ls l ih =>
    simp only [texts_append, List.mem_append] at h
    refine run_append (ih fun m hm => h m (.inl hm)) (run_cons_eq_ok.2 ⟨none, _, [], ?_, rfl, rfl⟩)
    rw [step_selectorLine (h l.1 (.inr (by simp))), firstNumber_concat]
    simp

/-- The first line of an at-rule block. -/
theorem step_startsAtRule {l : List Char × Nat} (h : startsAtRule layout l.1 = true)
    (before : List (List Char)) (k : Nat) :
    (Progress.between before k).step layout l =
      (Progress.inAtRule [l.1] (braceDelta l.1) (l.1.contains '{') l.2).settle layout l.2 := by
  rw [step_between, if_pos h]

theorem settle_header (ls : List (List Char)) (k n : Nat) :
    (Progress.inAtRule ls 0 false k).settle layout n = .ok (none, .inAtRule ls 0 false k) := by
  rw [settle_inAtRule]
  rfl

theorem step_header {l : List Char × Nat} (h : Braceless l.1) (ls : List (List Char)) (k : Nat) :
    (Progress.inAtRule ls 0 false k).step layout l =
      .ok (none, .inAtRule (l.1 :: ls) 0 false k) := by
  have ho : l.1.contains '{' = false := by simpa using h.1
  rw [step_inAtRule, h.delta, ho]
  exact settle_header ..

theorem run_header {ls : List (List Char × Nat)} (hb : ∀ m ∈ texts ls, Braceless m)
    (hat : ∃ m ∈ (texts ls).head?, startsAtRule layout m = true) :
    Progress.none.run layout ls =
      .ok ([], .inAtRule (texts ls).reverse 0 false (firstNumber ls)) := by
  induction ls using List.reverseRecOn with
  | nil => simp at hat
  | append_singleton ls l ih =>
    simp only [texts_append, List.mem_append] at hb
    have hl : Braceless l.1 := hb l.1 (.inr (by simp))
    rcases eq_or_ne ls [] with rfl | hne
    · have hat : startsAtRule layout l.1 = true := by simpa using hat
      refine run_cons_eq_ok.2 ⟨none, _, [], ?_, rfl, rfl⟩
      have ho : l.1.contains '{' = false := by simpa using hl.1
      rw [Progress.none, step_startsAtRule hat, hl.delta, ho]
      exact settle_header ..
    · obtain ⟨x, ls, rfl⟩ := List.exists_cons_of_ne_nil hne
      refine run_append (ih (fun m hm => hb m (.inl hm)) (by simpa using hat))
        (run_cons_eq_ok.2 ⟨_, _, [], step_header hl _ _, ?_, rfl⟩)
      simp [Progress.run, firstNumber]

/-- The line with the first opening brace leads into the block. -/
theorem step_opens (ls : List (List Char × Nat)) (l : List Char × Nat)
    (h : Opens layout kind (texts ls) l.1) :
    ∃ p, Progress.none.run layout ls = .ok ([], p) ∧
      p.step layout l =
        (Progress.inBlock kind (texts (ls ++ [l])).reverse (braceDelta l.1)
          (firstNumber (ls ++ [l]))).settle layout l.2 := by
  have ho : l.1.contains '{' = true := by simpa using h.brace
  rw [firstNumber_concat]
  cases h with
  | rule hs hat _ =>
    refine ⟨_, run_selectorLines hs, ?_⟩
    rw [step_between, if_neg (by simp [hat]), if_pos ho]
    simp [Progress.inBlock]
  | atRule hb hat _ =>
    rcases eq_or_ne ls [] with rfl | hne
    · have hat : startsAtRule layout l.1 = true := by simpa using hat
      refine ⟨.none, rfl, ?_⟩
      rw [Progress.none, step_startsAtRule hat, ho]
      rfl
    · obtain ⟨x, ls, rfl⟩ := List.exists_cons_of_ne_nil hne
      refine ⟨_, run_header hb (by simpa using hat), ?_⟩
      rw [step_inAtRule, ho]
      simp [Progress.inBlock]

/-- A run over the lines of a construct hands back the construct and leaves nothing. -/
theorem run_complete {ls : List (List Char × Nat)} (h : Complete layout kind (texts ls)) :
    Progress.none.run layout ls = .ok ([constructOf layout kind ls], .none) := by
  obtain ⟨head, l, rest, e, ho, hc⟩ := h
  obtain ⟨hs, ms, rfl, rfl, hms⟩ := List.map_eq_append_iff.1 e
  obtain ⟨l, rs, rfl, rfl, rfl⟩ := List.map_eq_cons_iff.1 hms
  obtain ⟨p, hp, hstep⟩ := step_opens hs l ho
  obtain ⟨c, q, ds, hset, hrun, e⟩ :=
    settle_run_inBlock hc (texts (hs ++ [l])).reverse (firstNumber (hs ++ [l])) l.2
  refine run_append hp (run_cons_eq_ok.2 ⟨c, q, ds, hstep.trans hset, hrun, ?_⟩)
  rw [e, constructOf]
  congr 2
  · simp [texts]
  · cases hs <;> rfl

/-- A construct without the number of its first line. -/
def Construct.view (c : Construct) : Construct.Kind × List Char := (c.kind, c.text)

/-- A run over the lines of several constructs hands back just these, and leaves nothing. -/
theorem run_constructs {xs : List (Construct.Kind × List (List Char))}
    (h : ∀ x ∈ xs, Complete layout x.1 x.2) {ls : List (List Char × Nat)}
    (e : texts ls = xs.flatMap Prod.snd) :
    ∃ cs, Progress.none.run layout ls = .ok (cs, .none) ∧
      cs.map Construct.view = xs.map fun x => (x.1, joinWith layout.separator x.2) := by
  induction xs generalizing ls with
  | nil =>
    obtain rfl : ls = [] := List.map_eq_nil_iff.1 e
    exact ⟨[], rfl, rfl⟩
  | cons x xs ih =>
    obtain ⟨as, bs, rfl, ha, hb⟩ := List.map_eq_append_iff.1 e
    obtain ⟨cs, hrun, hcs⟩ := ih (fun y hy => h y (List.mem_cons_of_mem _ hy)) hb
    have hx : Complete layout x.1 (texts as) := by
      rw [show texts as = x.2 from ha]
      exact h x List.mem_cons_self
    refine ⟨_, run_append (run_complete hx) hrun, ?_⟩
    rw [List.map_append, hcs, List.map_cons]
    simp [constructOf, Construct.view, show texts as = x.2 from ha]

end UsedCss.Css
