import Mathlib.Data.List.DropRight
import UsedCss.Text.Basic
/-!
# Trimming

Trimming takes a blank start or a blank end away and touches nothing else: a text is its
trimmed form between two blank texts, and what joins a trimmed end to a text that is not
blank stays. Every lemma about an end is the lemma about the start of the reversed text.
-/

namespace UsedCss.Text

@[simp] theorem isBlankText_nil : isBlankText [] = true := rfl

@[simp] theorem isBlankText_cons (c : Char) (cs : List Char) :
    isBlankText (c :: cs) = (isBlank c && isBlankText cs) := rfl

@[simp] theorem isBlankText_append (a b : List Char) :
    isBlankText (a ++ b) = (isBlankText a && isBlankText b) := List.all_append

@[simp] theorem isBlankText_reverse (a : List Char) : isBlankText a.reverse = isBlankText a :=
  List.all_reverse

theorem isBlank_of_mem {a : List Char} (h : isBlankText a = true) {c : Char} (hc : c ∈ a) :
    isBlank c = true :=
  List.all_eq_true.1 h c hc

theorem not_mem_of_blank {w : List Char} {c : Char} (hc : isBlank c = false)
    (hw : isBlankText w = true) : c ∉ w :=
  fun h => by simp [isBlank_of_mem hw h] at hc

/-! ## The start -/

@[simp] theorem trimStart_nil : trimStart [] = [] := rfl

theorem trimStart_cons (c : Char) (cs : List Char) :
    trimStart (c :: cs) = if isBlank c then trimStart cs else c :: cs := by
  simp [trimStart, List.dropWhile_cons]

@[simp] theorem trimStart_eq_nil {a : List Char} : trimStart a = [] ↔ isBlankText a = true := by
  simp [trimStart, isBlankText]

theorem trimStart_append_of_blank {a : List Char} (h : isBlankText a = true) (b : List Char) :
    trimStart (a ++ b) = trimStart b :=
  List.dropWhile_append_of_pos (fun _ hc => isBlank_of_mem h hc)

theorem trimStart_append {a : List Char} (h : isBlankText a = false) (b : List Char) :
    trimStart (a ++ b) = trimStart a ++ b := by
  unfold trimStart
  rw [List.dropWhile_append, if_neg]
  simpa [isBlankText] using h

/-- What is trimmed from the start is blank. -/
theorem exists_trimStart (a : List Char) : ∃ w, isBlankText w = true ∧ a = w ++ trimStart a :=
  ⟨a.takeWhile isBlank, List.all_takeWhile, List.takeWhile_append_dropWhile.symm⟩

theorem isBlank_of_trimStart_eq_cons {a r : List Char} {c : Char} (h : trimStart a = c :: r) :
    isBlank c = false := by
  have hd := List.head?_dropWhile_not isBlank a
  rw [show a.dropWhile isBlank = c :: r from h] at hd
  simpa using hd

/-- A text that starts with a character that is no blank stays. -/
theorem trimStart_of_not_blank {c : Char} (h : isBlank c = false) (r : List Char) :
    trimStart (c :: r) = c :: r := by
  simp [trimStart_cons, h]

theorem trimStart_append_cons {c : Char} (h : isBlank c = false) (a b : List Char) :
    trimStart (a ++ c :: b) = trimStart a ++ c :: b := by
  cases hb : isBlankText a with
  | true =>
    rw [trimStart_append_of_blank hb, trimStart_of_not_blank h, trimStart_eq_nil.2 hb,
      List.nil_append]
  | false => exact trimStart_append hb _

theorem trimStart_isSuffix (a : List Char) : trimStart a <:+ a := List.dropWhile_suffix isBlank

@[simp] theorem trimStart_trimStart (a : List Char) : trimStart (trimStart a) = trimStart a :=
  List.dropWhile_idempotent isBlank a

@[simp] theorem isBlankText_trimStart (a : List Char) :
    isBlankText (trimStart a) = isBlankText a := by
  obtain ⟨w, hw, e⟩ := exists_trimStart a
  conv_rhs => rw [e]
  simp [hw]

/-! ## The end -/

theorem trimEnd_eq_reverse (a : List Char) : trimEnd a = (trimStart a.reverse).reverse := rfl

@[simp] theorem trimEnd_nil : trimEnd [] = [] := rfl

@[simp] theorem trimEnd_eq_nil {a : List Char} : trimEnd a = [] ↔ isBlankText a = true := by
  simp [trimEnd_eq_reverse]

theorem trimEnd_append_of_blank {b : List Char} (h : isBlankText b = true) (a : List Char) :
    trimEnd (a ++ b) = trimEnd a := by
  simp [trimEnd_eq_reverse, trimStart_append_of_blank (a := b.reverse) (by simpa using h)]

theorem trimEnd_append {b : List Char} (h : isBlankText b = false) (a : List Char) :
    trimEnd (a ++ b) = a ++ trimEnd b := by
  simp [trimEnd_eq_reverse, trimStart_append (a := b.reverse) (by simpa using h)]

/-- What is trimmed from the end is blank. -/
theorem exists_trimEnd (a : List Char) : ∃ w, isBlankText w = true ∧ a = trimEnd a ++ w := by
  obtain ⟨w, hw, e⟩ := exists_trimStart a.reverse
  refine ⟨w.reverse, by simpa using hw, ?_⟩
  rw [trimEnd_eq_reverse, ← List.reverse_append, ← e, List.reverse_reverse]

@[simp] theorem trimEnd_trimEnd (a : List Char) : trimEnd (trimEnd a) = trimEnd a := by
  simp [trimEnd_eq_reverse]

@[simp] theorem isBlankText_trimEnd (a : List Char) : isBlankText (trimEnd a) = isBlankText a := by
  simp [trimEnd_eq_reverse]

/-- A text that ends in a character that is no blank stays. -/
theorem trimEnd_of_not_blank {c : Char} (h : isBlank c = false) (a : List Char) :
    trimEnd (a ++ [c]) = a ++ [c] := by
  simp [trimEnd_eq_reverse, trimStart_of_not_blank h]

theorem trimEnd_append_cons {c : Char} (h : isBlank c = false) (a b : List Char) :
    trimEnd (a ++ c :: b) = a ++ c :: trimEnd b := by
  simp [trimEnd_eq_reverse, trimStart_append_cons h]

theorem trimEnd_isPrefix (a : List Char) : trimEnd a <+: a := List.rdropWhile_prefix isBlank a

/-- What is trimmed does not end in a blank. -/
theorem isBlank_of_getLast?_trimEnd {a : List Char} {c : Char} (h : (trimEnd a).getLast? = some c) :
    isBlank c = false := by
  rw [trimEnd_eq_reverse, List.getLast?_reverse] at h
  obtain ⟨r, hr⟩ := List.head?_eq_some_iff.1 h
  exact isBlank_of_trimStart_eq_cons hr

/-! ## Both ends -/

theorem trim_eq_nil {a : List Char} : trim a = [] ↔ isBlankText a = true := by simp [trim]

@[simp] theorem isBlankText_trim (a : List Char) :
    isBlankText (trim a) = isBlankText a := by simp [trim]

/-- The two ends do not meet: it does not matter which is trimmed first. -/
theorem trimStart_trimEnd (a : List Char) : trimStart (trimEnd a) = trim a := by
  cases h : isBlankText a with
  | true => rw [trimEnd_eq_nil.2 h, trim, trimStart_eq_nil.2 h]; rfl
  | false =>
    obtain ⟨w, hw, e⟩ := exists_trimStart a
    have hs : isBlankText (trimStart a) = false := by simpa using h
    rw [trim]
    conv_lhs => rw [e, trimEnd_append hs, trimStart_append_of_blank hw]
    cases ht : trimStart a with
    | nil => rfl
    | cons c r =>
      have hc := isBlank_of_trimStart_eq_cons ht
      obtain ⟨v, hv, e'⟩ := exists_trimEnd (c :: r)
      cases hd : trimEnd (c :: r) with
      | nil => rfl
      | cons d r' =>
        rw [hd, List.cons_append, List.cons.injEq] at e'
        exact trimStart_of_not_blank (e'.1 ▸ hc) r'

@[simp] theorem trimStart_trim (a : List Char) : trimStart (trim a) = trim a := by
  rw [← trimStart_trimEnd, trimStart_trimStart]

@[simp] theorem trimEnd_trim (a : List Char) : trimEnd (trim a) = trim a := trimEnd_trimEnd _

@[simp] theorem trim_trim (a : List Char) : trim (trim a) = trim a := by
  rw [trim, trimStart_trim, trimEnd_trim]

@[simp] theorem trim_trimStart (a : List Char) : trim (trimStart a) = trim a := by
  rw [trim, trimStart_trimStart, ← trim]

@[simp] theorem trim_trimEnd (a : List Char) : trim (trimEnd a) = trim a := by
  rw [trim, trimStart_trimEnd, trimEnd_trim]

theorem trim_append_of_blank {b : List Char} (h : isBlankText b = true) (a : List Char) :
    trim (a ++ b) = trim a := by
  rw [← trimStart_trimEnd, trimEnd_append_of_blank h, trimStart_trimEnd]

theorem trim_of_blank_append {a : List Char} (h : isBlankText a = true) (b : List Char) :
    trim (a ++ b) = trim b := by
  rw [trim, trimStart_append_of_blank h, ← trim]

/-- A text without a blank at either end. -/
def IsTrimmed (a : List Char) : Prop :=
  (∀ c ∈ a.head?, isBlank c = false) ∧ ∀ c ∈ a.getLast?, isBlank c = false

-- Both parts are decided at the one character; the instance for finite types would try all characters.
instance (a : List Char) : Decidable (IsTrimmed a) :=
  @instDecidableAnd _ _ (Option.decidableForallMem a.head?) (Option.decidableForallMem a.getLast?)

theorem trimStart_eq_self_iff {a : List Char} :
    trimStart a = a ↔ ∀ c ∈ a.head?, isBlank c = false := by
  cases a with
  | nil => simp
  | cons c r =>
    refine ⟨fun h x hx => ?_, fun h => trimStart_of_not_blank (h c rfl) r⟩
    obtain rfl : c = x := Option.some.inj hx
    exact isBlank_of_trimStart_eq_cons h

theorem trimEnd_eq_self_iff {a : List Char} :
    trimEnd a = a ↔ ∀ c ∈ a.getLast?, isBlank c = false := by
  rw [trimEnd_eq_reverse, ← List.head?_reverse, ← trimStart_eq_self_iff, List.reverse_eq_iff]

/-- Trimming changes nothing if there is no blank at either end. -/
theorem trim_eq_self_iff {a : List Char} : trim a = a ↔ IsTrimmed a := by
  rw [IsTrimmed, ← trimStart_eq_self_iff, ← trimEnd_eq_self_iff]
  constructor
  · intro h
    rw [← h]
    exact ⟨trimStart_trim a, trimEnd_trim a⟩
  · rintro ⟨hs, he⟩
    rw [trim, hs, he]

theorem isTrimmed_trim (a : List Char) : IsTrimmed (trim a) := trim_eq_self_iff.1 (trim_trim a)

/-- A text is its trimmed form between two blank texts. -/
theorem exists_trim (a : List Char) :
    ∃ u v, isBlankText u = true ∧ isBlankText v = true ∧ a = u ++ trim a ++ v := by
  obtain ⟨u, hu, e⟩ := exists_trimStart a
  obtain ⟨v, hv, e'⟩ := exists_trimEnd (trimStart a)
  refine ⟨u, v, hu, hv, ?_⟩
  conv_lhs => rw [e, e']
  rw [List.append_assoc, trim]

end UsedCss.Text
