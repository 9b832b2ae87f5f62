import UsedCss.Proofs.Html.Store
import Mathlib.Combinatorics.Pigeonhole
import Mathlib.Logic.Relation
import Mathlib.Order.WellFoundedSet
/-!
# Child lists and parent links

In a `Linked` document child lists and parent links say the same, and links never lead in a circle.
Every move of nodes is one change of both (`Moves`), which keeps a document linked as long as no node
comes under itself.
-/

namespace UsedCss.Html.Document

open Relation

variable {d d' : Document} {n m p q c t : NodeId} {k : Nat} {moved : List NodeId} {target : Option NodeId}

/-! ## Ancestors -/

/-- One step up, from a node to its living parent. -/
def Up (d : Document) (c p : NodeId) : Prop := d.parent c = some p

/-- A node is that one or stands above it. -/
def Above (d : Document) (a n : NodeId) : Prop := ReflTransGen d.Up n a

theorem Up.isLive (h : d.Up c p) : d.isLive p = true := (parent_eq_some_iff.1 h).2

/-- A node is above another one if it is that one or above its parent. -/
theorem above_iff : d.Above m n ↔ m = n ∨ ∃ p, d.parent n = some p ∧ d.Above m p := by
  rw [Above, ReflTransGen.cases_head_iff, eq_comm]
  rfl

/-- Only living nodes stand above others. -/
theorem Above.eq_or_isLive (h : d.Above m n) : m = n ∨ d.isLive m = true := by
  cases h with
  | refl => exact .inl rfl
  | tail _ hup => exact .inr (Up.isLive hup)

/-- What stands above a node stands one above the other. -/
theorem Above.total (hm : d.Above m n) (hp : d.Above p n) : d.Above p m ∨ d.Above m p :=
  ReflTransGen.total_of_right_unique (fun _ _ _ h h' => Option.some.inj (h.symm.trans h')) hm hp

/-- The node so many steps up. -/
def climb (d : Document) : (steps : Nat) → NodeId → Option NodeId
  | 0, n => some n
  | steps + 1, n => (d.parent n).bind (d.climb steps)

theorem climb_add (d : Document) (i j : Nat) (n : NodeId) :
    d.climb (i + j) n = (d.climb i n).bind (d.climb j) := by
  induction i generalizing n with
  | zero => rw [Nat.zero_add]; rfl
  | succ i ih =>
    rw [Nat.succ_add, climb, climb, Option.bind_assoc]
    exact congrArg _ (funext fun p => ih p)

theorem above_iff_climb : d.Above m n ↔ ∃ k, d.climb k n = some m := by
  constructor
  · intro h
    induction h using ReflTransGen.head_induction_on with
    | refl => exact ⟨0, rfl⟩
    | @head a b hup _ ih =>
      obtain ⟨k, hk⟩ := ih
      refine ⟨k + 1, ?_⟩
      rw [climb, show d.parent a = some b from hup]
      exact hk
  · rintro ⟨k, hk⟩
    induction k generalizing n with
    | zero => exact Option.some.inj hk ▸ ReflTransGen.refl
    | succ k ih =>
      obtain ⟨p, hp, hk⟩ := Option.bind_eq_some_iff.1 hk
      exact above_iff.2 (.inr ⟨p, hp, ih hk⟩)

theorem isLive_of_climb (h : d.climb (k + 1) n = some m) : d.isLive m = true := by
  rw [climb_add, Option.bind_eq_some_iff] at h
  obtain ⟨x, -, hx⟩ := h
  obtain ⟨p, hp, hm⟩ := Option.bind_eq_some_iff.1 hx
  exact Option.some.inj hm ▸ Up.isLive hp

/-- A way up that is longer than the store has a node twice, so there is a shorter one. -/
theorem exists_climb_le (h : d.climb k n = some m) : ∃ i ≤ d.nodes.size, d.climb i n = some m := by
  induction k using Nat.strong_induction_on with
  | _ k ih =>
    by_cases hk : k ≤ d.nodes.size
    · exact ⟨k, hk, h⟩
    have hway : ∀ i ≤ k, ∃ x, d.climb i n = some x ∧ d.climb (k - i) x = some m := fun i hi => by
      rwa [← Nat.add_sub_cancel' hi, climb_add, Option.bind_eq_some_iff] at h
    choose! x hx hrest using hway
    have hlive : ∀ i ∈ Finset.range k, x (i + 1) ∈ Finset.range d.nodes.size := fun i hi =>
      Finset.mem_range.2 (lt_of_isLive (isLive_of_climb (hx _ (Finset.mem_range.1 hi))))
    obtain ⟨i, hi, j, hj, hne, heq⟩ :=
      Finset.exists_ne_map_eq_of_card_lt_of_maps_to (by simpa using hk) hlive
    rw [Finset.mem_range] at hi hj
    -- leave out the way from the first time to the second
    have hshort : ∀ {i j}, i < j → j < k → x (i + 1) = x (j + 1) →
        ∃ i ≤ d.nodes.size, d.climb i n = some m := fun {i j} hij hj heq => by
      refine ih (i + 1 + (k - (j + 1))) (by omega) ?_
      rw [climb_add, hx _ (by omega), Option.bind_some, heq]
      exact hrest _ hj
    rcases Nat.lt_or_gt_of_ne hne with hij | hij
    · exact hshort hij hj heq
    · exact hshort hij hi heq.symm

instance : Decidable (d.Above m n) :=
  decidable_of_iff (∃ k < d.nodes.size + 1, d.climb k n = some m) <| by
    rw [above_iff_climb]
    constructor
    · rintro ⟨k, -, hk⟩
      exact ⟨k, hk⟩
    · rintro ⟨k, hk⟩
      obtain ⟨i, hi, hm⟩ := exists_climb_le hk
      exact ⟨i, Nat.lt_succ_of_le hi, hm⟩

/-! ## Linked documents -/

/-- A child list holds the living nodes whose parent links lead to it, each of them once, and no node
stands above itself. -/
structure Linked (d : Document) : Prop where
  mem_children : ∀ {p c}, c ∈ d.children p ↔ d.isLive c = true ∧ d.parent c = some p
  nodup : ∀ p, (d.children p).toList.Nodup
  acyclic : ∀ n, ¬ TransGen d.Up n n
  inside : ∀ {c p}, d.parentLink c = some p → p < d.nodes.size

theorem parent_congr (hlive : ∀ n, d'.isLive n = d.isLive n)
    (hlink : d'.parentLink n = d.parentLink n) : d'.parent n = d.parent n := by
  rw [parent, parent, hlink, funext hlive]

/-- A document with the same nodes alive and the same links is linked as well. -/
theorem Linked.congr (h : Linked d) (hsize : d'.nodes.size = d.nodes.size)
    (hlive : ∀ n, d'.isLive n = d.isLive n) (hlink : ∀ n, d'.parentLink n = d.parentLink n)
    (hchildren : ∀ n, d'.children n = d.children n) : Linked d' := by
  have hup : d'.Up = d.Up := by
    funext c p
    rw [Up, Up, parent_congr hlive (hlink c)]
  refine ⟨fun {p c} => ?_, fun p => ?_, fun n => ?_, fun {c p} hcp => ?_⟩
  · rw [hchildren, hlive, parent_congr hlive (hlink c)]
    exact h.mem_children
  · rw [hchildren]
    exact h.nodup p
  · rw [hup]
    exact h.acyclic n
  · rw [hsize]
    exact h.inside (hlink c ▸ hcp)

namespace Linked

variable (h : Linked d)

include h

theorem isLive_child (hc : c ∈ d.children p) : d.isLive c = true := (h.mem_children.1 hc).1

theorem isLive_parent (hc : c ∈ d.children p) : d.isLive p = true :=
  Up.isLive (h.mem_children.1 hc).2

theorem parent_unique (hp : c ∈ d.children p) (hq : c ∈ d.children q) : p = q :=
  Option.some.inj ((h.mem_children.1 hp).2.symm.trans (h.mem_children.1 hq).2)

/-- Stepping up comes to an end. -/
theorem wellFounded_up : WellFounded fun p c => d.Up c p := by
  -- a strict order is well-founded on the finitely many nodes of the store, and no other node has a parent
  have hs : IsStrictOrder NodeId (TransGen fun p c => d.Up c p) :=
    { irrefl := fun n hn => h.acyclic n (transGen_swap.1 hn)
      trans := fun _ _ _ => TransGen.trans }
  have hwf := Set.wellFoundedOn_iff.1 ((Set.finite_lt_nat d.nodes.size).wellFoundedOn
    (r := TransGen fun p c => d.Up c p))
  refine Subrelation.wf (fun {p c} hup => ⟨.single hup, lt_of_isLive (Up.isLive hup), ?_⟩) hwf
  by_contra hc
  rw [Up, parent_eq_some_iff, parentLink_of_size_le (Nat.le_of_not_lt hc)] at hup
  cases hup.1

/-- So does stepping down. -/
theorem wellFounded_children : WellFounded fun c p => c ∈ d.children p := by
  have hs : IsStrictOrder NodeId (TransGen d.Up) :=
    { irrefl := h.acyclic
      trans := fun _ _ _ => TransGen.trans }
  have hwf := Set.wellFoundedOn_iff.1
    ((Set.finite_lt_nat d.nodes.size).wellFoundedOn (r := TransGen d.Up))
  exact Subrelation.wf (fun {c p} hc => ⟨.single (h.mem_children.1 hc).2,
    lt_of_isLive (h.isLive_child hc), lt_of_isLive (h.isLive_parent hc)⟩) hwf

/-- No child stands above its parent. -/
theorem not_above_of_child (hc : c ∈ d.children p) : ¬ d.Above c p := fun ha =>
  h.acyclic c (TransGen.head' (h.mem_children.1 hc).2 ha)

end Linked

theorem linked_empty : Linked empty := by
  have hparent : ∀ n, empty.parentLink n = none := fun n => by
    cases n <;> rfl
  have hup : ∀ n p, ¬ empty.Up n p := fun n p hup => by
    rw [Up, parent_eq_some_iff, hparent] at hup
    cases hup.1
  have hchildren : ∀ n, empty.children n = #[] := fun n => by
    cases n <;> rfl
  refine ⟨fun {p c} => ?_, fun p => ?_, fun n hn => ?_, fun {c p} hcp => ?_⟩
  · exact iff_of_false (by simp [hchildren]) fun hc => hup c p hc.2
  · simp [hchildren]
  · obtain ⟨p, hp, -⟩ := TransGen.head'_iff.1 hn
    exact hup n p hp
  · cases (hparent c).symm.trans hcp

section Create

variable (h : Linked d) (data : NodeData) (handles : Nat)

include h

theorem Linked.parent_create (c : NodeId) : (d.create data handles).1.parent c = d.parent c := by
  rw [parent, parent, parentLink_create]
  cases hlink : d.parentLink c with
  | none => rfl
  | some p =>
    have hp : p ≠ d.nodes.size := Nat.ne_of_lt (h.inside hlink)
    simp [Option.filter, hp]

/-- A new node stands nowhere. -/
theorem Linked.up_create : (d.create data handles).1.Up = d.Up := by
  funext c p
  rw [Up, Up, h.parent_create]

/-- It stands above no node of the store either: only living nodes do. -/
theorem Linked.not_above_create (hp : p < d.nodes.size) :
    ¬ (d.create data handles).1.Above d.nodes.size p := by
  rw [Above, h.up_create]
  intro habove
  rcases Above.eq_or_isLive habove with e | hlive
  · exact Nat.ne_of_lt hp e.symm
  · exact Nat.lt_irrefl _ (lt_of_isLive hlive)

theorem Linked.create : Linked (d.create data handles).1 := by
  refine ⟨fun {p c} => ?_, fun p => ?_, fun n => ?_, fun {c p} hcp => ?_⟩
  · rw [children_create, h.parent_create, h.mem_children, isLive_create]
    refine and_congr_left fun hc => ?_
    have hlt : c ≠ d.nodes.size := fun e => by
      rw [e, parent_eq_some_iff, parentLink_of_size_le (Nat.le_refl _)] at hc
      cases hc.1
    simp [hlt]
  · rw [children_create]
    exact h.nodup p
  · rw [h.up_create]
    exact h.acyclic n
  · rw [parentLink_create] at hcp
    rw [size_create]
    exact Nat.lt_succ_of_lt (h.inside hcp)

end Create

/-! ## Moves -/

/-- One document is the other one with some nodes moved to the children of another node, or to
nowhere. All else stays. -/
structure Moves (d d' : Document) (moved : List NodeId) (target : Option NodeId) : Prop where
  size : d'.nodes.size = d.nodes.size
  isLive : ∀ n, d'.isLive n = d.isLive n
  isHeld : ∀ n, d'.isHeld n = d.isHeld n
  parentLink : ∀ n, d'.parentLink n = if n ∈ moved then target else d.parentLink n
  children : ∀ q, (d'.children q).toList.Perm
    ((if target = some q then moved else []) ++ (d.children q).toList.filter (· ∉ moved))

namespace Moves

variable (hm : Moves d d' moved target)

include hm

theorem mem_children : c ∈ d'.children q ↔
    c ∈ moved ∧ target = some q ∨ c ∉ moved ∧ c ∈ d.children q := by
  rw [← Array.mem_toList_iff, (hm.children q).mem_iff]
  by_cases ht : target = some q <;> simp [ht, and_comm]

theorem parent (ht : ∀ t ∈ target, d.isLive t = true) (n : NodeId) :
    d'.parent n = if n ∈ moved then target else d.parent n := by
  have hlive : d'.isLive = d.isLive := funext hm.isLive
  rw [Document.parent, hm.parentLink, hlive]
  split
  · cases target with
    | none => rfl
    | some t => simp [ht t rfl]
  · rfl

/-- A way up after a move is a way up before it, or leads through the target. -/
theorem transGen_up (ht : ∀ t ∈ target, d.isLive t = true) (h : TransGen d'.Up n m) :
    TransGen d.Up n m ∨ (∃ c ∈ moved, d.Above c n) ∧ ∃ t ∈ target, d.Above m t := by
  have hstep : ∀ {x y}, d'.Up x y → d.Up x y ∨ x ∈ moved ∧ y ∈ target := fun {x y} hxy => by
    rw [Up, hm.parent ht] at hxy
    by_cases hx : x ∈ moved
    · rw [if_pos hx] at hxy
      exact .inr ⟨hx, hxy⟩
    · rw [if_neg hx] at hxy
      exact .inl hxy
  induction h with
  | single hxy =>
    rcases hstep hxy with hup | ⟨hx, hy⟩
    · exact .inl (.single hup)
    · exact .inr ⟨⟨_, hx, .refl⟩, _, hy, .refl⟩
  | tail _ hyz ih =>
    rcases hstep hyz with hup | ⟨hy, hz⟩
    · rcases ih with hpath | ⟨hc, t, ht', hpath⟩
      · exact .inl (hpath.tail hup)
      · exact .inr ⟨hc, t, ht', hpath.tail hup⟩
    · rcases ih with hpath | ⟨hc, -⟩
      · exact .inr ⟨⟨_, hy, hpath.to_reflTransGen⟩, _, hz, .refl⟩
      · exact .inr ⟨hc, _, hz, .refl⟩

/-- A move keeps a document linked, unless it puts a node under itself. -/
theorem linked (h : Linked d) (hnodup : moved.Nodup) (hlive : ∀ c ∈ moved, d.isLive c = true)
    (ht : ∀ t ∈ target, d.isLive t = true ∧ ∀ c ∈ moved, ¬ d.Above c t) : Linked d' := by
  have ht' : ∀ t ∈ target, d.isLive t = true := fun t htt => (ht t htt).1
  refine ⟨fun {p c} => ?_, fun q => ?_, fun n hn => ?_, fun {c p} hcp => ?_⟩
  · rw [hm.mem_children, hm.isLive, hm.parent ht']
    by_cases hc : c ∈ moved
    · simp [hc, hlive c hc]
    · simp [hc, h.mem_children]
  · rw [(hm.children q).nodup_iff, List.nodup_append]
    refine ⟨?_, (h.nodup q).filter _, ?_⟩
    · split
      · exact hnodup
      · exact List.nodup_nil
    · intro a ha b hb e
      have hb : b ∉ moved := by simpa using (List.mem_filter.1 hb).2
      split at ha
      · exact hb (e ▸ ha)
      · cases ha
  · -- a new circle leads through the target, so the target is below what was moved
    rcases hm.transGen_up ht' hn with hpath | ⟨⟨c, hc, hcn⟩, t, htt, hnt⟩
    · exact h.acyclic n hpath
    · exact (ht t htt).2 c hc (hnt.trans hcn)
  · rw [hm.parentLink] at hcp
    rw [hm.size]
    split at hcp
    · exact lt_of_isLive (ht' p hcp)
    · exact h.inside hcp

end Moves

section

variable (h : Linked d)

include h

/-- A node occurs in the child list of its parent only. -/
theorem filter_children (n q : NodeId) : (d.detach n).children q = (d.children q).filter (· != n) := by
  rw [children_detach]
  split
  · rfl
  · next hq =>
    refine (Array.filter_eq_self.2 fun c hc => ?_).symm
    simp only [bne_iff_ne, ne_eq]
    rintro rfl
    exact hq (h.mem_children.1 hc).2

theorem toList_children_detach (n q : NodeId) :
    ((d.detach n).children q).toList = (d.children q).toList.filter (· ∉ [n]) := by
  rw [filter_children h, Array.toList_filter]
  exact List.filter_congr fun c _ => by by_cases e : c = n <;> simp [e]

theorem moves_detach (n : NodeId) : Moves d (d.detach n) [n] none where
  size := size_detach d n
  isLive := isLive_detach d n
  isHeld := isHeld_detach d n
  parentLink m := by simpa using parentLink_detach d n m
  children q := by rw [toList_children_detach h, if_neg nofun, List.nil_append]

theorem moves_attach (hp : d.isLive p = true) (hc : d.isLive c = true)
    {place : Array NodeId → Array NodeId} (hplace : ∀ cs, (place cs).toList.Perm (c :: cs.toList)) :
    Moves d (d.attach p c place) [c] (some p) where
  size := size_attach ..
  isLive := isLive_attach d p c place
  isHeld := isHeld_attach d p c place
  parentLink m := by simpa using parentLink_attach d p c place m (lt_of_isLive hc)
  children q := by
    rw [children_attach _ _ _ _ _ (lt_of_isLive hp)]
    by_cases e : q = p
    · rw [if_pos e, if_pos (by rw [e]), e, ← toList_children_detach h]
      exact hplace _
    · rw [if_neg e, if_neg fun h => e (Option.some.inj h).symm, toList_children_detach h, List.nil_append]

theorem moves_append (hp : d.isLive p = true) (hc : d.isLive c = true) :
    Moves d (d.append p c) [c] (some p) := by
  rw [append_eq]
  refine moves_attach h hp hc fun cs => ?_
  rw [Array.toList_push]
  exact List.perm_append_singleton c cs.toList

theorem moves_placeBefore (hq : d.isLive q = true) (hc : d.isLive c = true) (s : NodeId) :
    Moves d (d.placeBefore q s c) [c] (some q) := by
  rw [placeBefore_eq]
  refine moves_attach h hq hc fun cs => ?_
  have hi : (cs.idxOf? s).getD cs.size ≤ cs.size := by
    rw [Array.idxOf?]
    cases cs.finIdxOf? s with
    | none => exact Nat.le_refl _
    | some i => exact Nat.le_of_lt i.isLt
  rw [Array.insertIdxIfInBounds, dif_pos hi, Array.toList_insertIdx]
  exact List.perm_insertIdx _ _ hi

theorem moves_reparent (hn : d.isLive n = true) (ht : d.isLive t = true) :
    Moves d (d.reparent n t) (d.children n).toList (some t) where
  size := size_reparent ..
  isLive := isLive_reparent d n t
  isHeld := isHeld_reparent d n t
  parentLink m := by
    rw [parentLink_reparent _ _ _ _ fun c hc => lt_of_isLive (h.isLive_child hc)]
    simp
  children q := by
    -- emptying one list is the same as taking its members out of all of them: they are in no other
    have hrest : (if q = n then #[] else d.children q).toList =
        (d.children q).toList.filter (· ∉ (d.children n).toList) := by
      by_cases e : q = n
      · subst e
        rw [if_pos rfl]
        exact (List.filter_eq_nil_iff.2 (by simp)).symm
      · rw [if_neg e]
        refine (List.filter_eq_self.2 fun c hc => ?_).symm
        simp only [Array.mem_toList_iff] at hc
        simpa using fun hcn => e (h.parent_unique hc hcn)
    rw [children_reparent _ _ _ _ (lt_of_isLive hn) (lt_of_isLive ht), Array.toList_append, hrest]
    refine List.perm_append_comm.trans (List.Perm.append_right _ (.of_eq ?_))
    by_cases e : q = t
    · rw [if_pos e, if_pos (by rw [e])]
    · rw [if_neg e, if_neg fun h => e (Option.some.inj h).symm]

end

end UsedCss.Html.Document
