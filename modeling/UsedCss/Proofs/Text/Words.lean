import UsedCss.Proofs.Text.Lines
/-!
# Words of a text

The words of a text are its maximal runs of characters that are not blank, and a blank is a place to
cut the text without cutting a word.
-/

namespace UsedCss.Text

variable {cs w x y : List Char} {b : Char}

/-- A run of characters that are not blank, with a blank or an end of the text on either side. -/
def IsWord (cs w : List Char) : Prop :=
  ∃ pre post, cs = pre ++ w ++ post ∧ w ≠ [] ∧ (∀ c ∈ w, isBlank c = false) ∧
    (∀ c ∈ pre.getLast?, isBlank c = true) ∧ ∀ c ∈ post.head?, isBlank c = true

theorem words_of_forall (h : ∀ c ∈ w, isBlank c = false) : words w = if w.isEmpty then [] else [w] := by
  rw [words, pieces_of_forall h]
  cases w <;> rfl

theorem words_append_cons (hb : isBlank b = true) (x y : List Char) :
    words (x ++ b :: y) = words x ++ words y := by
  rw [words, pieces_append_cons hb, List.filter_append]
  rfl

theorem words_append_of_getLast (h : ∀ c ∈ x.getLast?, isBlank c = true) (y : List Char) :
    words (x ++ y) = words x ++ words y := by
  rcases List.eq_nil_or_concat x with rfl | ⟨x, b, rfl⟩
  · rfl
  · have hb : isBlank b = true := h b (by simp)
    rw [List.concat_eq_append, List.append_assoc, List.singleton_append, words_append_cons hb,
      words_append_cons hb]
    simp [words]

theorem words_append_of_head (x : List Char) (h : ∀ c ∈ y.head?, isBlank c = true) :
    words (x ++ y) = words x ++ words y := by
  cases y with
  | nil => simp [words]
  | cons b y =>
    have hb : isBlank b = true := h b rfl
    have hy : words (b :: y) = words y := words_append_cons hb [] y
    rw [words_append_cons hb, hy]

/-- A word in front of a blank is a word of the whole text. -/
theorem IsWord.append_right (h : IsWord x w) (hb : isBlank b = true) (y : List Char) :
    IsWord (x ++ b :: y) w := by
  obtain ⟨pre, post, rfl, hne, hw, hpre, hpost⟩ := h
  refine ⟨pre, post ++ b :: y, by simp, hne, hw, hpre, fun c hc => ?_⟩
  cases post with
  | nil =>
    obtain rfl := Option.some.inj hc
    exact hb
  | cons => exact hpost c hc

/-- So is a word behind it. -/
theorem IsWord.append_left (h : IsWord y w) (hb : isBlank b = true) (x : List Char) :
    IsWord (x ++ b :: y) w := by
  obtain ⟨pre, post, rfl, hne, hw, hpre, hpost⟩ := h
  refine ⟨x ++ b :: pre, post, by simp, hne, hw, fun c hc => ?_, hpost⟩
  rw [List.getLast?_append_cons, List.getLast?_cons] at hc
  cases hp : pre.getLast? with
  | none =>
    rw [hp] at hc
    obtain rfl := Option.some.inj hc
    exact hb
  | some =>
    rw [hp] at hc
    exact hpre c (hp ▸ hc)

theorem mem_words_iff : w ∈ words cs ↔ IsWord cs w := by
  constructor
  · -- a text with a blank in it is cut there
    intro h
    induction hn : cs.length using Nat.strong_induction_on generalizing cs with
    | _ n ih =>
      subst hn
      by_cases hc : ∃ b ∈ cs, isBlank b = true
      · obtain ⟨b, hmem, hb⟩ := hc
        obtain ⟨x, y, rfl⟩ := List.append_of_mem hmem
        rw [words_append_cons hb, List.mem_append] at h
        rcases h with h | h
        · exact (ih x.length (by simp) h rfl).append_right hb y
        · exact (ih y.length (by simp; omega) h rfl).append_left hb x
      · have hw : ∀ c ∈ cs, isBlank c = false := by simpa using hc
        rw [words_of_forall hw] at h
        cases cs with
        | nil => cases h
        | cons c cs =>
          obtain rfl := List.mem_singleton.1 h
          exact ⟨[], [], by simp, by simp, hw, nofun, nofun⟩
  · rintro ⟨pre, post, rfl, hne, hw, hpre, hpost⟩
    rw [words_append_of_head _ hpost, words_append_of_getLast hpre, words_of_forall hw]
    simp [hne]

end UsedCss.Text
