import UsedCss.Proofs.Html.Links
/-!
# Walking over a document

The walk with a work list lists a node and all that is below it in preorder: parents before their
children, these in order, every node once. In a linked document it comes to an end, and the number of
nodes in the store is fuel enough.
-/

namespace UsedCss.Html.Document

open Relation

variable {d : Document} {m n p : NodeId} {ns l : List NodeId}

/-- A node is that one or stands below it. -/
def Below (d : Document) (m n : NodeId) : Prop := ReflTransGen (fun p c => c ∈ d.children p) n m

theorem below_iff : d.Below m n ↔ m = n ∨ ∃ c ∈ d.children n, d.Below m c := by
  rw [Below, ReflTransGen.cases_head_iff, eq_comm]
  rfl

theorem Below.above (h : d.Below m n) (hd : Linked d) : d.Above n m := by
  induction h with
  | refl => exact .refl
  | tail _ hc ih => exact .head (hd.mem_children.1 hc).2 ih

theorem Below.isLive (h : d.Below m n) (hd : Linked d) (hn : d.isLive n = true) : d.isLive m = true := by
  cases h with
  | refl => exact hn
  | tail _ hc => exact hd.isLive_child hc

/-- What is below two children of one node is not there. -/
theorem Linked.pairwise_children (h : Linked d) (n : NodeId) :
    (d.children n).toList.Pairwise fun a b => ∀ m, d.Below m a → ¬ d.Below m b := by
  have hapart : ∀ {a b}, a ∈ d.children n → b ∈ d.children n → a ≠ b → ¬ d.Above a b :=
    fun {a b} ha hb hne hab => by
      rcases above_iff.1 hab with e | ⟨p, hp, hap⟩
      · exact hne e
      · obtain rfl := Option.some.inj (hp.symm.trans (h.mem_children.1 hb).2)
        exact h.not_above_of_child ha hap
  refine (h.nodup n).imp_of_mem fun {a b} ha hb hne m hma hmb => ?_
  rw [Array.mem_toList_iff] at ha hb
  rcases (hma.above h).total (hmb.above h) with hab | hab
  · exact hapart hb ha (Ne.symm hne) hab
  · exact hapart ha hb hne hab

/-! ## Preorder -/

/-- The nodes of a list and all below them: each node before what is below it, and this before the next
node of the list. -/
inductive Preorder (d : Document) : List NodeId → List NodeId → Prop
  | nil : Preorder d [] []
  | cons {n : NodeId} {ns below after : List NodeId} :
      Preorder d (d.children n).toList below → Preorder d ns after →
      Preorder d (n :: ns) (n :: (below ++ after))

theorem exists_preorder_of_forall (h : ∀ n ∈ ns, ∃ l, Preorder d (d.children n).toList l) :
    ∃ l, Preorder d ns l := by
  induction ns with
  | nil => exact ⟨[], .nil⟩
  | cons n ns ih =>
    obtain ⟨hn, hns⟩ := List.forall_mem_cons.1 h
    obtain ⟨below, hbelow⟩ := hn
    obtain ⟨after, hafter⟩ := ih hns
    exact ⟨_, .cons hbelow hafter⟩

theorem Linked.exists_preorder (h : Linked d) (ns : List NodeId) : ∃ l, Preorder d ns l := by
  have hbelow : ∀ n, ∃ l, Preorder d (d.children n).toList l := fun n => by
    induction n using h.wellFounded_children.induction with
    | _ n ih => exact exists_preorder_of_forall fun c hc => ih c (Array.mem_toList_iff.1 hc)
  exact exists_preorder_of_forall fun n _ => hbelow n

namespace Preorder

theorem mem_iff (h : Preorder d ns l) : m ∈ l ↔ ∃ n ∈ ns, d.Below m n := by
  induction h with
  | nil => simp
  | cons _ _ ih ih' =>
    simp only [List.mem_cons, List.mem_append, ih, ih', exists_eq_or_imp, Array.mem_toList_iff]
    rw [below_iff, or_assoc]

theorem nodup (h : Preorder d ns l) (hd : Linked d)
    (hns : ns.Pairwise fun a b => ∀ m, d.Below m a → ¬ d.Below m b) : l.Nodup := by
  induction h with
  | nil => exact List.nodup_nil
  | @cons n ns below after hbelow hafter ih ih' =>
    obtain ⟨hn, hns⟩ := List.pairwise_cons.1 hns
    -- the three parts have nothing in common: the node, what is below it, what is below the others
    have hunder : ∀ m ∈ below, d.Below m n := fun m hm =>
      below_iff.2 (.inr (by simpa using hbelow.mem_iff.1 hm))
    have hnew : ∀ m ∈ after, ¬ d.Below m n := fun m hm hmn => by
      obtain ⟨b, hb, hmb⟩ := hafter.mem_iff.1 hm
      exact hn b hb m hmn hmb
    refine List.nodup_cons.2 ⟨fun hmem => ?_, ?_⟩
    · rcases List.mem_append.1 hmem with hmem | hmem
      · obtain ⟨c, hc, hnc⟩ := hbelow.mem_iff.1 hmem
        exact hd.not_above_of_child (Array.mem_toList_iff.1 hc) (hnc.above hd)
      · exact hnew n hmem .refl
    · refine List.nodup_append.2 ⟨ih (hd.pairwise_children n), ih' hns, ?_⟩
      rintro a ha _ hb rfl
      exact hnew a hb (hunder a ha)

/-- No more nodes are listed than there are. -/
theorem length_le (h : Preorder d [n] l) (hd : Linked d) (hn : d.isLive n = true) :
    l.length ≤ d.nodes.size := by
  have hsub : l ⊆ List.range d.nodes.size := fun m hm => by
    obtain ⟨x, hx, hmx⟩ := h.mem_iff.1 hm
    obtain rfl := List.mem_singleton.1 hx
    exact List.mem_range.2 (lt_of_isLive (hmx.isLive hd hn))
  have hle := ((h.nodup hd (List.pairwise_singleton _ n)).subperm hsub).length_le
  rwa [List.length_range] at hle

/-- The walk takes one unit of fuel for each node and finds the elements among them. -/
theorem elementsFrom_append (h : Preorder d ns l) (fuel : Nat) (found : List Element) (pending : List NodeId) :
    d.elementsFrom (l.length + fuel) found (ns ++ pending) =
      d.elementsFrom fuel ((l.filterMap d.element?).reverse ++ found) pending := by
  induction h generalizing fuel found pending with
  | nil => simp
  | @cons n ns below after _ _ ih ih' =>
    have hfuel : (n :: (below ++ after)).length + fuel = below.length + (after.length + fuel) + 1 := by
      simp only [List.length_cons, List.length_append]
      omega
    have hfound : ((n :: (below ++ after)).filterMap d.element?).reverse ++ found =
        (after.filterMap d.element?).reverse ++
          ((below.filterMap d.element?).reverse ++ ((d.element? n).toList ++ found)) := by
      rw [List.filterMap_cons, List.filterMap_append]
      cases d.element? n <;> simp
    rw [hfuel, List.cons_append, elementsFrom, ih, ih', hfound]

end Preorder

/-- The walk over a node and all below it. -/
theorem exists_elements_eq (h : Linked d) (hn : d.isLive n = true) :
    ∃ l, Preorder d [n] l ∧ l.Nodup ∧ d.elements n = l.filterMap d.element? := by
  obtain ⟨l, hl⟩ := h.exists_preorder [n]
  refine ⟨l, hl, hl.nodup h (List.pairwise_singleton _ n), ?_⟩
  obtain ⟨fuel, hfuel⟩ := Nat.exists_eq_add_of_le (hl.length_le h hn)
  have hwalk := hl.elementsFrom_append fuel [] []
  rw [← hfuel, List.append_nil, List.append_nil] at hwalk
  rw [elements, hwalk]
  cases fuel <;> exact List.reverse_reverse _

/-- The elements found are those below. -/
theorem mem_elements_iff (h : Linked d) (hn : d.isLive n = true) {e : Element} :
    e ∈ d.elements n ↔ ∃ m, d.Below m n ∧ d.element? m = some e := by
  obtain ⟨l, hl, -, he⟩ := exists_elements_eq h hn
  rw [he, List.mem_filterMap]
  refine exists_congr fun m => and_congr_left' ?_
  simp [hl.mem_iff]

end UsedCss.Html.Document
