import Mathlib.Data.List.Infix
import Mathlib.Data.List.TakeWhile
import UsedCss.Proofs.Text.Trim
import UsedCss.Text.Basic
/-!
# Finding and joining text

A needle without the separating character that stands in a text cut at that character stands
in one of the two parts, so joining lines never makes a needle appear.
-/

namespace UsedCss.Text

/-! ## Needles -/

theorem occurs_iff {needle cs : List Char} : occurs needle cs = true ↔ needle <:+: cs := by
  induction cs with
  | nil => simp [occurs]
  | cons c cs ih =>
    rw [occurs, Bool.or_eq_true, ih, List.isPrefixOf_iff_prefix, List.infix_cons_iff]

theorem occurs_eq_false_iff {needle cs : List Char} :
    occurs needle cs = false ↔ ¬ needle <:+: cs := by
  rw [← occurs_iff, Bool.not_eq_true]

/-- What does not stand in a text does not stand in a part of it. -/
theorem occurs_part {needle a b : List Char} (hab : a <:+: b) (h : occurs needle b = false) :
    occurs needle a = false := by
  rw [occurs_eq_false_iff] at h ⊢
  intro ha
  exact h (ha.trans hab)

/-- A prefix without `x` ends before `x`. -/
theorem isPrefix_of_append_cons {n a b : List Char} {x : Char} (hx : x ∉ n)
    (h : n <+: a ++ x :: b) :
    n <+: a := by
  induction a generalizing n with
  | nil =>
    cases n with
    | nil => exact List.nil_prefix
    | cons c n =>
      obtain ⟨rfl, -⟩ := List.cons_prefix_cons.1 h
      simp at hx
  | cons y a ih =>
    cases n with
    | nil => exact List.nil_prefix
    | cons c n =>
      obtain ⟨rfl, h'⟩ := List.cons_prefix_cons.1 h
      exact List.cons_prefix_cons.2 ⟨rfl, ih (fun hn => hx (List.mem_cons_of_mem _ hn)) h'⟩

/-- A needle without `x` does not reach over an `x`. -/
theorem infix_append_cons_iff {n a b : List Char} {x : Char} (hx : x ∉ n) :
    n <:+: a ++ x :: b ↔ n <:+: a ∨ n <:+: b := by
  constructor
  · intro h
    induction a with
    | nil =>
      rcases List.infix_cons_iff.1 h with h | h
      · exact .inl (isPrefix_of_append_cons (a := []) hx h).isInfix
      · exact .inr h
    | cons y a ih =>
      rcases List.infix_cons_iff.1 h with h | h
      · exact .inl (isPrefix_of_append_cons (a := y :: a) hx h).isInfix
      · exact (ih h).imp_left fun h => h.trans (List.suffix_cons y a).isInfix
  · rintro (h | h)
    · exact h.trans (List.prefix_append a (x :: b)).isInfix
    · exact h.trans ((List.suffix_cons x b).trans (List.suffix_append a (x :: b))).isInfix

theorem occurs_append_cons {needle : List Char} {x : Char} (hx : x ∉ needle) (a b : List Char) :
    occurs needle (a ++ x :: b) = (occurs needle a || occurs needle b) := by
  rw [Bool.eq_iff_iff, Bool.or_eq_true, occurs_iff, occurs_iff, occurs_iff,
    infix_append_cons_iff hx]

/-- What blanks cannot hide: a text that is not empty and has no blanks. -/
def isNeedle (needle : List Char) : Bool := !needle.isEmpty && !needle.any isBlank

theorem isNeedle_iff {needle : List Char} :
    isNeedle needle = true ↔ needle ≠ [] ∧ ∀ c, isBlank c = true → c ∉ needle := by
  simp only [isNeedle, Bool.and_eq_true, Bool.not_eq_true', List.isEmpty_eq_false_iff,
    List.any_eq_false]
  exact and_congr_right fun _ => ⟨fun h c hb hc => h c hc hb, fun h c hc hb => h c hb hc⟩

theorem occurs_nil {needle : List Char} (hn : isNeedle needle = true) :
    occurs needle [] = false := by
  simpa [occurs] using (isNeedle_iff.1 hn).1

theorem occurs_of_blank {needle w : List Char} (hn : isNeedle needle = true)
    (hw : isBlankText w = true) :
    occurs needle w = false := by
  obtain ⟨hne, hblank⟩ := isNeedle_iff.1 hn
  obtain ⟨c, n, rfl⟩ := List.exists_cons_of_ne_nil hne
  rw [occurs_eq_false_iff]
  intro h
  exact hblank c (isBlank_of_mem hw (h.mem List.mem_cons_self)) List.mem_cons_self

theorem occurs_append_of_blank {needle w : List Char} (hn : isNeedle needle = true)
    (hw : isBlankText w = true) (a : List Char) : occurs needle (a ++ w) = occurs needle a := by
  cases w with
  | nil => rw [List.append_nil]
  | cons x w =>
    rw [isBlankText_cons, Bool.and_eq_true] at hw
    rw [occurs_append_cons ((isNeedle_iff.1 hn).2 x hw.1), occurs_of_blank hn hw.2, Bool.or_false]

theorem occurs_of_blank_append {needle w : List Char} (hn : isNeedle needle = true)
    (hw : isBlankText w = true) (a : List Char) : occurs needle (w ++ a) = occurs needle a := by
  rcases List.eq_nil_or_concat w with rfl | ⟨w, x, rfl⟩
  · rfl
  · rw [List.concat_eq_append, isBlankText_append, Bool.and_eq_true] at hw
    have hx : isBlank x = true := isBlank_of_mem hw.2 (List.mem_singleton_self x)
    rw [List.concat_eq_append, List.append_assoc, List.singleton_append,
      occurs_append_cons ((isNeedle_iff.1 hn).2 x hx), occurs_of_blank hn hw.1, Bool.false_or]

theorem occurs_trim {needle : List Char} (hn : isNeedle needle = true) (cs : List Char) :
    occurs needle (trim cs) = occurs needle cs := by
  obtain ⟨u, v, hu, hv, e⟩ := exists_trim cs
  conv_rhs => rw [e, occurs_append_of_blank hn hv, occurs_of_blank_append hn hu]

/-! ## Cutting at a character -/

theorem takeWhile_append_cons {a : List Char} {x : Char} (h : x ∉ a) (b : List Char) :
    (a ++ x :: b).takeWhile (· != x) = a := by
  rw [List.takeWhile_append_of_pos (fun c hc => by simpa using ne_of_mem_of_not_mem hc h)]
  simp

theorem dropWhile_append_cons {a : List Char} {x : Char} (h : x ∉ a) (b : List Char) :
    (a ++ x :: b).dropWhile (· != x) = x :: b := by
  rw [List.dropWhile_append_of_pos (fun c hc => by simpa using ne_of_mem_of_not_mem hc h)]
  simp

theorem beforeLast_append_cons {b : List Char} {x : Char} (h : x ∉ b) (a : List Char) :
    beforeLast x (a ++ x :: b) = some a := by
  rw [beforeLast]
  have e : (a ++ x :: b).reverse = b.reverse ++ x :: a.reverse := by simp
  rw [e, dropWhile_append_cons (by simpa using h)]
  simp

/-- The first cut at a character is the only one with nothing of it in front. -/
theorem append_cons_inj {a a' b b' : List Char} {x : Char} (h : x ∉ a) (h' : x ∉ a')
    (e : a ++ x :: b = a' ++ x :: b') : a = a' ∧ b = b' := by
  have ha := congrArg (List.takeWhile (· != x)) e
  rw [takeWhile_append_cons h, takeWhile_append_cons h'] at ha
  subst ha
  exact ⟨rfl, (List.cons.inj (List.append_cancel_left e)).2⟩

/-- A character stands somewhere for the last time. -/
theorem eq_append_cons_last {cs : List Char} {x : Char} (h : x ∈ cs) :
    ∃ a b, x ∉ b ∧ cs = a ++ x :: b := by
  obtain ⟨r, t, e, hr⟩ := List.eq_append_cons_of_mem (List.mem_reverse.2 h)
  exact ⟨t.reverse, r.reverse, by simpa using hr, List.reverse_injective (by simp [e])⟩

theorem eq_of_beforeLast {cs a : List Char} {x : Char} (h : beforeLast x cs = some a) :
    ∃ b, x ∉ b ∧ cs = a ++ x :: b := by
  by_cases hx : x ∈ cs
  · obtain ⟨t, b, hb, rfl⟩ := eq_append_cons_last hx
    rw [beforeLast_append_cons hb] at h
    cases h
    exact ⟨b, hb, rfl⟩
  · have e : cs.reverse.dropWhile (· != x) = [] :=
      List.dropWhile_eq_nil_iff.2 fun c hc => by
        simpa using ne_of_mem_of_not_mem (List.mem_reverse.1 hc) hx
    rw [beforeLast, e] at h
    cases h

/-! ## Joining -/

@[simp] theorem joinWith_nil (sep : List Char) : joinWith sep [] = [] := rfl

@[simp] theorem joinWith_singleton (sep a : List Char) : joinWith sep [a] = a := by simp [joinWith]

theorem joinWith_cons_cons (sep a b : List Char) (ts : List (List Char)) :
    joinWith sep (a :: b :: ts) = a ++ sep ++ joinWith sep (b :: ts) := by
  simp [joinWith]

/-- Each text but the first comes with the separator in front. -/
theorem joinWith_cons (sep a : List Char) (ts : List (List Char)) :
    joinWith sep (a :: ts) = a ++ ts.flatMap (sep ++ ·) := by
  induction ts generalizing a with
  | nil => simp
  | cons b ts ih => rw [joinWith_cons_cons, ih]; simp

theorem joinWith_append (sep : List Char) {ts us : List (List Char)} (ht : ts ≠ []) (hu : us ≠ []) :
    joinWith sep (ts ++ us) = joinWith sep ts ++ sep ++ joinWith sep us := by
  obtain ⟨t, ts, rfl⟩ := List.exists_cons_of_ne_nil ht
  obtain ⟨u, us, rfl⟩ := List.exists_cons_of_ne_nil hu
  rw [List.cons_append, joinWith_cons, joinWith_cons, joinWith_cons]
  simp [List.append_assoc]

theorem joinWith_append_flatMap (sep : List Char) {ts : List (List Char)} (ht : ts ≠ [])
    (us : List (List Char)) :
    joinWith sep (ts ++ us) = joinWith sep ts ++ us.flatMap (sep ++ ·) := by
  obtain ⟨t, ts, rfl⟩ := List.exists_cons_of_ne_nil ht
  rw [List.cons_append, joinWith_cons, joinWith_cons, List.flatMap_append, List.append_assoc]

theorem not_mem_joinWith {sep : List Char} {c : Char} (hs : c ∉ sep) {ts : List (List Char)}
    (ht : ∀ t ∈ ts, c ∉ t) :
    c ∉ joinWith sep ts := by
  cases ts with
  | nil => simp
  | cons t ts =>
    rw [List.forall_mem_cons] at ht
    rw [joinWith_cons, List.mem_append, List.mem_flatMap]
    rintro (h | ⟨u, hu, h⟩)
    · exact ht.1 h
    · exact (List.mem_append.1 h).elim hs (ht.2 u hu)

/-- Joining by blanks does not make a needle appear. -/
theorem occurs_joinWith {needle sep : List Char} (hn : isNeedle needle = true) (hsep : sep ≠ [])
    (hb : isBlankText sep = true) (ts : List (List Char)) :
    occurs needle (joinWith sep ts) = ts.any (occurs needle) := by
  obtain ⟨x, w, rfl⟩ := List.exists_cons_of_ne_nil hsep
  rw [isBlankText_cons, Bool.and_eq_true] at hb
  induction ts with
  | nil => exact occurs_nil hn
  | cons t ts ih =>
    cases ts with
    | nil => simp
    | cons u ts =>
      rw [joinWith_cons_cons, List.append_assoc, List.cons_append,
        occurs_append_cons ((isNeedle_iff.1 hn).2 x hb.1), occurs_of_blank_append hn hb.2, ih,
        ← List.any_cons]

theorem not_occurs_joinWith {needle sep : List Char} (hn : isNeedle needle = true) (hsep : sep ≠ [])
    (hb : isBlankText sep = true) {ts : List (List Char)} (h : ∀ t ∈ ts, occurs needle t = false) :
    occurs needle (joinWith sep ts) = false := by
  rw [occurs_joinWith hn hsep hb, List.any_eq_false]
  intro t ht
  simp [h t ht]

theorem joinWith_concat (sep : List Char) {ts : List (List Char)} (ht : ts ≠ []) (t : List Char) :
    joinWith sep (ts ++ [t]) = joinWith sep ts ++ sep ++ t := by
  rw [joinWith_append sep ht (by simp), joinWith_singleton]

theorem infix_joinWith (sep : List Char) {ts : List (List Char)} {t : List Char} (h : t ∈ ts) :
    t <:+: joinWith sep ts := by
  obtain ⟨us, vs, rfl⟩ := List.append_of_mem h
  rw [List.append_cons, joinWith_append_flatMap sep (by simp)]
  refine List.IsInfix.trans ?_ (List.prefix_append _ _).isInfix
  rcases eq_or_ne us [] with rfl | hne
  · simp
  · rw [joinWith_concat sep hne]
    exact (List.suffix_append _ _).isInfix

/-- What is added to the last text is added to the whole. -/
theorem joinWith_concat_append (sep : List Char) (ts : List (List Char)) (a b : List Char) :
    joinWith sep (ts ++ [a ++ b]) = joinWith sep (ts ++ [a]) ++ b := by
  cases ts with
  | nil => simp
  | cons t ts =>
    rw [joinWith_concat sep (by simp), joinWith_concat sep (by simp), List.append_assoc,
      List.append_assoc]
    simp

/-- A cut through one of the texts cuts the whole. -/
theorem joinWith_append_cons (sep : List Char) (ts us : List (List Char)) (a b : List Char) :
    joinWith sep (ts ++ (a ++ b) :: us) =
      joinWith sep (ts ++ [a]) ++ (b ++ us.flatMap (sep ++ ·)) := by
  rw [List.append_cons, joinWith_append_flatMap sep (by simp), joinWith_concat_append,
    List.append_assoc]

/-- A prefix of every text but the first may count as the end of the separator. -/
theorem joinWith_append_sep (sep pad : List Char) (ts : List (List Char)) (h : ts ≠ []) :
    pad ++ joinWith (sep ++ pad) ts = joinWith sep (ts.map (pad ++ ·)) := by
  obtain ⟨t, ts, rfl⟩ := List.exists_cons_of_ne_nil h
  rw [List.map_cons, joinWith_cons, joinWith_cons, List.flatMap_map]
  simp only [List.append_assoc]

/-- Joining keeps the characters of a kind that the separator lacks. -/
theorem filter_joinWith {p : Char → Bool} {sep : List Char} (hs : sep.filter p = [])
    (ts : List (List Char)) :
    (joinWith sep ts).filter p = ts.flatten.filter p := by
  induction ts with
  | nil => rfl
  | cons t ts ih =>
    cases ts with
    | nil => simp
    | cons u ts =>
      simp only [joinWith_cons_cons, List.filter_append, hs, ih, List.append_nil, List.flatten_cons]

theorem filter_flatten_map_joinWith {p : Char → Bool} {sep : List Char} (hs : sep.filter p = [])
    (rs : List (List (List Char))) :
    (rs.map (joinWith sep)).flatten.filter p = rs.flatten.flatten.filter p := by
  induction rs with
  | nil => rfl
  | cons r rs ih =>
    rw [List.map_cons, List.flatten_cons, List.filter_append, filter_joinWith hs, ih,
      List.flatten_cons, List.flatten_append, List.filter_append]

/-! ## Sizes -/

theorem byteSize_append (a b : List Char) : byteSize (a ++ b) = byteSize a + byteSize b := by
  have hfold : ∀ (cs : List Char) (n : Nat), cs.foldl (fun n c => n + c.utf8Size) n = n + byteSize cs := by
    intro cs
    induction cs with
    | nil => exact fun _ => rfl
    | cons c cs ih =>
      intro n
      have hcons : byteSize (c :: cs) = 0 + c.utf8Size + byteSize cs := ih _
      rw [List.foldl_cons, ih, hcons, Nat.zero_add, Nat.add_assoc]
  rw [byteSize, List.foldl_append, hfold]
  rfl

/-- Separators of one size make texts of one size. -/
theorem byteSize_joinWith {sep sep' : List Char} (h : byteSize sep = byteSize sep') (ts : List (List Char)) :
    byteSize (joinWith sep ts) = byteSize (joinWith sep' ts) := by
  induction ts with
  | nil => rfl
  | cons t ts ih =>
    cases ts with
    | nil => simp
    | cons u ts => simp only [joinWith_cons_cons, byteSize_append, h, ih]

end UsedCss.Text
