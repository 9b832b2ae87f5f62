import Mathlib.Data.List.ModifyLast
/-!
# The first and the last item of a list

What holds of every item, or is the same for every item, survives a change of the first item by
`modifyHead` or of the last one by `modifyLast`.
-/

namespace UsedCss.Text

variable {α β : Type}

theorem forall_mem_modifyHead {P : α → Prop} {f : α → α} (hf : ∀ a, P a → P (f a)) {l : List α}
    (h : ∀ a ∈ l, P a) :
    ∀ a ∈ l.modifyHead f, P a := by
  cases l with
  | nil => exact h
  | cons a l =>
    rw [List.forall_mem_cons] at h
    exact List.forall_mem_cons.2 ⟨hf a h.1, h.2⟩

theorem forall_mem_modifyLast {P : α → Prop} {f : α → α} (hf : ∀ a, P a → P (f a)) {l : List α}
    (h : ∀ a ∈ l, P a) :
    ∀ a ∈ l.modifyLast f, P a := by
  rcases List.eq_nil_or_concat l with rfl | ⟨l, a, rfl⟩
  · exact h
  · rw [List.concat_eq_append, List.forall_mem_append] at h
    rw [List.concat_eq_append, List.modifyLast_concat, List.forall_mem_append]
    exact ⟨h.1, by simpa using hf a (h.2 a (by simp))⟩

theorem map_modifyHead {g : α → β} {f : α → α} {f' : β → β} (h : ∀ a, g (f a) = f' (g a))
    (l : List α) :
    (l.modifyHead f).map g = (l.map g).modifyHead f' := by
  cases l <;> simp [h]

theorem map_modifyLast {g : α → β} {f : α → α} {f' : β → β} (h : ∀ a, g (f a) = f' (g a))
    (l : List α) :
    (l.modifyLast f).map g = (l.map g).modifyLast f' := by
  rcases List.eq_nil_or_concat l with rfl | ⟨l, a, rfl⟩
  · rfl
  · rw [List.concat_eq_append, List.modifyLast_concat, List.map_append, List.map_append,
      List.map_singleton, List.map_singleton, List.modifyLast_concat, h]

/-- A change that `g` does not see. -/
theorem map_modifyHead_eq {g : α → β} {f : α → α} (h : ∀ a, g (f a) = g a) (l : List α) :
    (l.modifyHead f).map g = l.map g := by
  cases l <;> simp [h]

theorem map_modifyLast_eq {g : α → β} {f : α → α} (h : ∀ a, g (f a) = g a) (l : List α) :
    (l.modifyLast f).map g = l.map g := by
  rcases List.eq_nil_or_concat l with rfl | ⟨l, a, rfl⟩
  · rfl
  · rw [List.concat_eq_append, List.modifyLast_concat, List.map_append, List.map_append,
      List.map_singleton, List.map_singleton, h]

theorem flatMap_modifyHead {g : α → List β} {F : α → α} {f : β → β}
    (h : ∀ a, g (F a) = (g a).modifyHead f) {l : List α} (hne : ∀ a ∈ l, g a ≠ []) :
    (l.modifyHead F).flatMap g = (l.flatMap g).modifyHead f := by
  cases l with
  | nil => rfl
  | cons a l =>
    obtain ⟨b, bs, hb⟩ := List.exists_cons_of_ne_nil (hne a List.mem_cons_self)
    rw [List.modifyHead_cons, List.flatMap_cons, List.flatMap_cons, h, hb]
    rfl

theorem flatMap_modifyLast {g : α → List β} {F : α → α} {f : β → β}
    (h : ∀ a, g (F a) = (g a).modifyLast f) {l : List α} (hne : ∀ a ∈ l, g a ≠ []) :
    (l.modifyLast F).flatMap g = (l.flatMap g).modifyLast f := by
  rcases List.eq_nil_or_concat l with rfl | ⟨l, a, rfl⟩
  · rfl
  · rw [List.concat_eq_append] at hne ⊢
    rw [List.modifyLast_concat, List.flatMap_append, List.flatMap_append, List.flatMap_singleton,
      List.flatMap_singleton, h, List.modifyLast_append_of_right_ne_nil _ _ _ (hne a (by simp))]

end UsedCss.Text
