import UsedCss.ClassSet
/-!
# Members of class sets

Every way to build a set is told by which names are in it.
-/

namespace UsedCss.ClassSet

@[simp] theorem contains_insert (s : ClassSet) (name x : String) :
    (s.insert name).contains x = (x == name || s.contains x) := by
  rw [Bool.eq_iff_iff]
  simp only [contains, insert, Bool.or_eq_true, List.contains_iff_mem, mem_insertName, beq_iff_eq]

/-- A name is in an extended set if it was added or in the set before. -/
@[simp] theorem contains_extend (s : ClassSet) (names : List String) (x : String) :
    (s.extend names).contains x = (names.contains x || s.contains x) := by
  induction names generalizing s with
  | nil => rfl
  | cons n names ih =>
    have hrest : (s.extend (n :: names)).contains x = ((s.insert n).extend names).contains x := rfl
    rw [hrest, ih, contains_insert, List.contains_cons, ← Bool.or_assoc, Bool.or_comm (names.contains x)]

theorem contains_ofList (names : List String) (x : String) :
    (ofList names).contains x = true ↔ x ∈ names := by
  rw [ofList, contains_extend, Bool.or_eq_true, List.contains_iff_mem]
  exact or_iff_left nofun

@[simp] theorem contains_union (s t : ClassSet) (x : String) :
    (s.union t).contains x = (s.contains x || t.contains x) :=
  (contains_extend s t.names x).trans (Bool.or_comm _ _)

/-- A set is told by its members. -/
theorem eq_of_contains {s t : ClassSet} (h : ∀ x, s.contains x = t.contains x) : s = t := by
  have hmem : ∀ x, x ∈ s.names ↔ x ∈ t.names := fun x => by
    rw [← List.contains_iff_mem, ← List.contains_iff_mem]
    exact Bool.eq_iff_iff.1 (h x)
  have hperm : s.names.Perm t.names :=
    (List.perm_ext_iff_of_nodup (s.ascending.imp String.ne_of_lt) (t.ascending.imp String.ne_of_lt)).2 hmem
  have hnames : s.names = t.names :=
    hperm.eq_of_pairwise (fun x y _ _ hxy hyx => (String.lt_asymm hxy hyx).elim) s.ascending t.ascending
  cases s
  cases t
  cases hnames
  rfl

end UsedCss.ClassSet
