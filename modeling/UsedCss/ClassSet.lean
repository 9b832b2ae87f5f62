/-!
# Sets of class names

A `ClassSet` lists its names in strictly ascending order of Unicode scalar values, so two
sets with the same members are equal and every listing of them is the same. Names are case
sensitive and may be any text.
-/

namespace UsedCss

/-- The ascending list with `name` added, which stays the same if `name` is in it. -/
def insertName (name : String) : List String → List String
  | [] => [name]
  | n :: ns =>
    if name < n then name :: n :: ns
    else if name = n then n :: ns
    else n :: insertName name ns

theorem mem_insertName {x name : String} {ns : List String} :
    x ∈ insertName name ns ↔ x = name ∨ x ∈ ns := by
  induction ns with
  | nil => simp [insertName]
  | cons n ns ih =>
    rw [insertName]
    split
    · simp
    split
    · next h => subst h; simp
    · simp only [List.mem_cons, ih]; exact or_left_comm

/-- Adding a name keeps the list strictly ascending. -/
theorem pairwise_insertName {name : String} {ns : List String}
    (h : ns.Pairwise (· < ·)) : (insertName name ns).Pairwise (· < ·) := by
  induction ns with
  | nil => simp [insertName]
  | cons n ns ih =>
    obtain ⟨hn, hns⟩ := List.pairwise_cons.1 h
    rw [insertName]
    split
    · next hlt =>
      refine List.pairwise_cons.2 ⟨fun x hx => ?_, h⟩
      rcases List.mem_cons.1 hx with rfl | hx
      · exact hlt
      · exact String.lt_trans hlt (hn x hx)
    split
    · exact h
    · next hlt hne =>
      refine List.pairwise_cons.2 ⟨fun x hx => ?_, ih hns⟩
      rcases mem_insertName.1 hx with rfl | hx
      · exact Std.lt_of_le_of_ne (Std.not_lt.1 hlt) (Ne.symm hne)
      · exact hn x hx

/-- Whether `name` is missing from the ascending list. The search is over at the first name
that is not below it. -/
def lacksName (name : String) : List String → Bool
  | [] => true
  | n :: ns =>
    if name < n then true
    else if name = n then false
    else lacksName name ns

theorem lacksName_iff {name : String} {ns : List String} (h : ns.Pairwise (· < ·)) :
    lacksName name ns = true ↔ name ∉ ns := by
  induction ns with
  | nil => simp [lacksName]
  | cons n ns ih =>
    obtain ⟨hn, hns⟩ := List.pairwise_cons.1 h
    rw [lacksName]
    split
    · next hlt =>
      have hnot : name ∉ n :: ns := by
        rw [List.mem_cons]
        rintro (rfl | hmem)
        · exact String.lt_irrefl _ hlt
        · exact String.lt_asymm hlt (hn name hmem)
      simpa using hnot
    split
    · next heq => simp [heq]
    · next hne => simp [hne, ih hns]

/-- A set of class names, held as their ascending list. -/
structure ClassSet where
  names : List String
  ascending : names.Pairwise (· < ·)
deriving DecidableEq

namespace ClassSet

/-- The set without names. -/
def empty : ClassSet := ⟨[], .nil⟩

/-- Whether a name is in the set. -/
def contains (s : ClassSet) (name : String) : Bool := s.names.contains name

/-- The set with a name added. -/
def insert (s : ClassSet) (name : String) : ClassSet :=
  ⟨insertName name s.names, pairwise_insertName s.ascending⟩

/-- The set with a name added, and whether the name was absent before. -/
def add (s : ClassSet) (name : String) : ClassSet × Bool :=
  (s.insert name, lacksName name s.names)

/-- The set with every name of a list added. -/
def extend (s : ClassSet) (names : List String) : ClassSet := names.foldl insert s

/-- The set of the names of a list. -/
def ofList (names : List String) : ClassSet := empty.extend names

/-- The members of either set. -/
def union (s t : ClassSet) : ClassSet := s.extend t.names

/-- The members in ascending order. -/
def toList (s : ClassSet) : List String := s.names

/-- The number of members. -/
def size (s : ClassSet) : Nat := s.names.length

/-- Whether the set has no member. -/
def isEmpty (s : ClassSet) : Bool := s.names.isEmpty

/-- One line for each member: a dot and the name. -/
def render (s : ClassSet) : String := String.join (s.names.map fun n => "." ++ n ++ "\n")

end ClassSet

end UsedCss
