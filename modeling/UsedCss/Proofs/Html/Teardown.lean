import UsedCss.Proofs.Html.Links
/-!
# Who keeps a node alive

A node lives as long as someone outside holds it or it is a child of some node. What is between two
owners, such as the children of a node that has just been destroyed, is a list of shares in hand:
`Accounted` counts all three. Giving up the shares in hand one by one destroys just what nothing else
keeps, in whatever order that is done.
-/

namespace UsedCss.Html

/-- What is left of a node that has been destroyed. -/
def Node.destroyed (x : Node) : Node := { x with live := false, children := #[] }

namespace Document

open Relation

variable {d d' e e' : Document} {n m p c : NodeId} {ns shares waiting : List NodeId}

/-! ## Shares -/

/-- A node is live if and only if someone holds it, some node has it as a child, or there is a share
in it in hand. -/
def Accounted (d : Document) (shares : List NodeId) : Prop :=
  ∀ n, d.isLive n = true ↔ d.isHeld n = true ∨ (∃ p, n ∈ d.children p) ∨ n ∈ shares

namespace Accounted

theorem isLive_of_isHeld (h : d.Accounted shares) (hn : d.isHeld n = true) : d.isLive n = true :=
  (h n).2 (.inl hn)

theorem congr (h : d.Accounted shares) (hs : ∀ n, n ∈ ns ↔ n ∈ shares) : d.Accounted ns :=
  fun n => by rw [h n, hs]

/-- A share is of no account as long as something else keeps the node alive. -/
theorem giveUp (h : d.Accounted (n :: ns))
    (hkept : d.isHeld n = true ∨ (∃ p, n ∈ d.children p) ∨ n ∈ ns) : d.Accounted ns := fun m => by
  rw [h m, List.mem_cons]
  constructor
  · rintro (hm | hm | rfl | hm)
    · exact .inl hm
    · exact .inr (.inl hm)
    · exact hkept
    · exact .inr (.inr hm)
  · rintro (hm | hm | hm)
    · exact .inl hm
    · exact .inr (.inl hm)
    · exact .inr (.inr (.inr hm))

end Accounted

theorem accounted_empty : empty.Accounted [] := fun n => by
  have hchildren : ∀ p, empty.children p = #[] := fun p => by
    cases p <;> rfl
  simp only [hchildren, Array.not_mem_empty, exists_false, List.not_mem_nil, or_false]
  cases n <;> simp [isLive, isHeld, empty, root]

theorem Accounted.create (h : d.Accounted shares) (data : NodeData) (handles : Nat) :
    (d.create data handles).1.Accounted (d.nodes.size :: shares) := fun m => by
  simp only [isLive_create, isHeld_create, children_create, List.mem_cons, Bool.or_eq_true,
    Bool.and_eq_true, beq_iff_eq, h m]
  constructor
  · rintro (hm | hm | hm | hm)
    · exact .inr (.inr (.inl hm))
    · exact .inl (.inl hm)
    · exact .inr (.inl hm)
    · exact .inr (.inr (.inr hm))
  · rintro ((hm | ⟨hm, -⟩) | hm | hm | hm)
    · exact .inr (.inl hm)
    · exact .inl hm
    · exact .inr (.inr (.inl hm))
    · exact .inl hm
    · exact .inr (.inr (.inr hm))

/-- Shares in hand are gone once the nodes have been moved to where they are kept. -/
theorem Accounted.move {moved : List NodeId} {target : Option NodeId} (h : d.Accounted shares)
    (hm : Moves d d' moved target) (hlive : ∀ c ∈ moved, d.isLive c = true)
    (hkept : ∀ c ∈ moved, target.isSome = true ∨ d.isHeld c = true) (hs : shares ⊆ moved) :
    d'.Accounted [] := fun n => by
  simp only [hm.isLive, hm.isHeld, hm.mem_children, List.not_mem_nil, or_false]
  by_cases hn : n ∈ moved
  · refine iff_of_true (hlive n hn) ?_
    rcases hkept n hn with ht | hheld
    · obtain ⟨t, rfl⟩ := Option.isSome_iff_exists.1 ht
      exact .inr ⟨t, .inl ⟨hn, rfl⟩⟩
    · exact .inl hheld
  · have hns : n ∉ shares := fun hns => hn (hs hns)
    simp [hn, h n, hns]

/-! ## Destroyed nodes -/

/-- Destroys one node. -/
def destroy (d : Document) (n : NodeId) : Document := d.update n Node.destroyed

section Destroy

variable (d : Document) (n m : NodeId)

theorem isLive_destroy : (d.destroy n).isLive m = if m = n then false else d.isLive m := by
  rw [isLive, destroy, map_update_of (k := fun _ => false) fun _ => rfl]
  split
  · cases d.nodes[n]? <;> rfl
  · rfl

theorem children_destroy : (d.destroy n).children m = if m = n then #[] else d.children m := by
  rw [children, destroy, map_update_of (k := fun _ => #[]) fun _ => rfl]
  split
  · cases d.nodes[n]? <;> rfl
  · rfl

@[simp] theorem isHeld_destroy : (d.destroy n).isHeld m = d.isHeld m := by
  rw [isHeld, destroy, map_update]
  · rfl
  · exact fun _ => rfl

@[simp] theorem parentLink_destroy : (d.destroy n).parentLink m = d.parentLink m := by
  rw [parentLink_eq, destroy, map_update, ← parentLink_eq]
  exact fun _ => rfl

@[simp] theorem size_destroy : (d.destroy n).nodes.size = d.nodes.size := size_update ..

end Destroy

/-- A node that is nobody's child can be destroyed: its children lose their parent. -/
theorem Linked.destroy (h : Linked d) (hn : ∀ p, n ∉ d.children p) : Linked (d.destroy n) := by
  have hup : ∀ {c p}, (d.destroy n).Up c p ↔ d.Up c p ∧ p ≠ n := fun {c p} => by
    rw [Up, Up, parent_eq_some_iff, parent_eq_some_iff, parentLink_destroy, isLive_destroy, and_assoc]
    by_cases e : p = n <;> simp [e]
  refine ⟨fun {p c} => ?_, fun p => ?_, fun x hx => ?_, fun {c p} hcp => ?_⟩
  · have hparent : (d.destroy n).parent c = some p ↔ d.parent c = some p ∧ p ≠ n := hup
    rw [hparent, children_destroy, isLive_destroy]
    by_cases e : p = n
    · simp [e]
    · rw [if_neg e, h.mem_children]
      by_cases ec : c = n
      · have hnot := hn p
        rw [h.mem_children, ← ec] at hnot
        simpa [ec, e] using hnot
      · simp [ec, e]
  · rw [children_destroy]
    split
    · exact List.nodup_nil
    · exact h.nodup p
  · exact h.acyclic x (TransGen.mono (fun _ _ hxy => (hup.1 hxy).1) _ _ hx)
  · rw [parentLink_destroy] at hcp
    rw [size_destroy]
    exact h.inside hcp

/-- The shares that a node had in its children are in hand once it is destroyed. -/
theorem Accounted.destroy (h : d.Accounted (n :: ns)) (hh : d.isHeld n = false)
    (hn : ∀ p, n ∉ d.children p) (hns : n ∉ ns) :
    (d.destroy n).Accounted ((d.children n).toList ++ ns) := fun m => by
  have hchild : (∃ p, m ∈ (d.destroy n).children p) ↔ ∃ p, p ≠ n ∧ m ∈ d.children p := by
    refine exists_congr fun p => ?_
    rw [children_destroy]
    by_cases e : p = n <;> simp [e]
  rw [isLive_destroy, isHeld_destroy, hchild, List.mem_append, Array.mem_toList_iff]
  by_cases e : m = n
  · subst e
    simp [hh, hns, hn]
  · rw [if_neg e, h m, List.mem_cons]
    constructor
    · -- what was a child of the node is a share in hand now
      rintro (hm | ⟨p, hm⟩ | hm | hm)
      · exact .inl hm
      · by_cases ep : p = n
        · exact .inr (.inr (.inl (ep ▸ hm)))
        · exact .inr (.inl ⟨p, ep, hm⟩)
      · exact absurd hm e
      · exact .inr (.inr (.inr hm))
    · rintro (hm | ⟨p, -, hm⟩ | hm | hm)
      · exact .inl hm
      · exact .inr (.inl ⟨p, hm⟩)
      · exact .inr (.inl ⟨n, hm⟩)
      · exact .inr (.inr (.inr hm))

theorem isOwned_iff (h : Linked d) : d.isOwned n = true ↔ ∃ p, n ∈ d.children p := by
  have hchild : ∀ p, n ∈ d.children p ↔ ∃ x, d.nodes[p]? = some x ∧ n ∈ x.children := fun p => by
    rw [children]
    cases d.nodes[p]? <;> simp
  rw [isOwned, Array.any_eq_true]
  constructor
  · rintro ⟨p, hp, hx⟩
    refine ⟨p, (hchild p).2 ⟨_, Array.getElem?_eq_getElem hp, ?_⟩⟩
    simpa using (Bool.and_eq_true_iff.1 hx).2
  · rintro ⟨p, hn⟩
    obtain ⟨x, hx, hnx⟩ := (hchild p).1 hn
    obtain ⟨y, hy, hlive⟩ := isLive_eq_true_iff.1 (h.isLive_parent hn)
    obtain rfl : x = y := Option.some.inj (hx.symm.trans hy)
    obtain ⟨hp, rfl⟩ := Array.getElem?_eq_some_iff.1 hx
    exact ⟨p, hp, by simp [hlive, hnx]⟩

/-- What decides whether a node outlives one of its shares. -/
theorem keeps_iff (h : Linked d) :
    (d.isHeld n || d.isOwned n || ns.contains n) = true ↔
      d.isHeld n = true ∨ (∃ p, n ∈ d.children p) ∨ n ∈ ns := by
  rw [Bool.or_eq_true, Bool.or_eq_true, isOwned_iff h, or_assoc, List.contains_iff_mem]

/-- One document is the other one with some nodes destroyed. -/
def Pruned (d d' : Document) : Prop :=
  ∀ n : NodeId, d'.nodes[n]? = d.nodes[n]? ∨ d'.nodes[n]? = d.nodes[n]?.map Node.destroyed

namespace Pruned

theorem refl (d : Document) : Pruned d d := fun _ => .inl rfl

theorem trans (h : Pruned d d') (h' : Pruned d' e) : Pruned d e := fun n => by
  rcases h n with hn | hn <;> rcases h' n with hn' | hn' <;> rw [hn', hn]
  · exact .inl rfl
  · exact .inr rfl
  · exact .inr rfl
  · refine .inr ?_
    rw [Option.map_map]
    rfl

theorem destroy (d : Document) (n : NodeId) : Pruned d (d.destroy n) := fun m => by
  rw [Document.destroy, getElem?_update]
  split
  · exact .inr rfl
  · exact .inl rfl

theorem size_eq (h : Pruned d d') : d'.nodes.size = d.nodes.size := by
  have hnone : ∀ n : NodeId, d'.nodes[n]? = none ↔ d.nodes[n]? = none := fun n => by
    rcases h n with hn | hn <;> simp [hn]
  have hsize : ∀ n, d'.nodes.size ≤ n ↔ d.nodes.size ≤ n := by
    simpa only [Array.getElem?_eq_none_iff] using hnone
  exact Nat.le_antisymm ((hsize _).2 (Nat.le_refl _)) ((hsize _).1 (Nat.le_refl _))

/-- A node that still lives is as it was. -/
theorem getElem?_eq (h : Pruned d d') (hn : d'.isLive n = true) : d'.nodes[n]? = d.nodes[n]? := by
  refine (h n).resolve_right fun hd => ?_
  rw [isLive, hd] at hn
  cases hx : d.nodes[n]? <;> rw [hx] at hn <;> cases hn

theorem children_eq (h : Pruned d d') (hn : d'.isLive n = true) : d'.children n = d.children n := by
  rw [children, children, h.getElem?_eq hn]

theorem parentLink_eq (h : Pruned d d') (hn : d'.isLive n = true) : d'.parentLink n = d.parentLink n := by
  rw [parentLink, parentLink, h.getElem?_eq hn]

theorem mem_children (h : Pruned d d') (hc : c ∈ d'.children n) : c ∈ d.children n := by
  rcases h n with hn | hn
  · rwa [children, hn] at hc
  · rw [children, hn] at hc
    cases hx : d.nodes[n]? <;> simp [hx, Node.destroyed] at hc

theorem isHeld_eq (h : Pruned d d') (n : NodeId) : d'.isHeld n = d.isHeld n := by
  rw [isHeld, isHeld]
  rcases h n with hn | hn <;> rw [hn]
  rw [Option.map_map]
  rfl

/-- What nodes are destroyed says all. -/
theorem eq (h : Pruned d e) (h' : Pruned d e') (hlive : ∀ n, e.isLive n = e'.isLive n)
    (hgone : ∀ (n : NodeId) x, d.nodes[n]? = some x → x.live = false → x.destroyed = x) : e = e' := by
  have hdead : ∀ {f}, Pruned d f → ∀ n : NodeId, f.isLive n = false →
      f.nodes[n]? = d.nodes[n]?.map Node.destroyed := fun {f} hf n hn => by
    refine (hf n).elim (fun hsame => ?_) id
    rw [isLive, hsame] at hn
    rw [hsame]
    cases hx : d.nodes[n]? with
    | none => rfl
    | some x =>
      rw [hx] at hn
      exact congrArg some (hgone n x hx hn).symm
  have hnodes : e.nodes = e'.nodes := by
    refine Array.ext_getElem? fun n => ?_
    cases hn : e.isLive n with
    | true => rw [h.getElem?_eq hn, h'.getElem?_eq ((hlive n).symm.trans hn)]
    | false => rw [hdead h n hn, hdead h' n ((hlive n).symm.trans hn)]
  exact congrArg Document.mk hnodes

end Pruned

/-! ## What survives -/

/-- The least set that contains what someone holds, the root among it, and with every node its
children. -/
inductive Kept (d : Document) : NodeId → Prop
  | held {n : NodeId} : d.isHeld n = true → Kept d n
  | child {p c : NodeId} : Kept d p → c ∈ d.children p → Kept d c

/-- One document is what remains of the other one after shares in hand have been given up, all but
those in `shares`. -/
structure Settles (d e : Document) (shares : List NodeId) : Prop where
  linked : Linked e
  accounted : e.Accounted shares
  pruned : Pruned d e

namespace Settles

/-- With no share left in hand, what lives is what was kept. -/
theorem isLive_iff (h : Settles d e []) (n : NodeId) : e.isLive n = true ↔ d.Kept n := by
  constructor
  · -- upwards: who is not held lives for a living parent
    induction n using h.linked.wellFounded_up.induction with
    | _ n ih =>
      intro hn
      rcases (h.accounted n).1 hn with hheld | ⟨p, hp⟩ | hs
      · exact .held (h.pruned.isHeld_eq n ▸ hheld)
      · exact .child (ih p (h.linked.mem_children.1 hp).2 (h.linked.isLive_parent hp))
          (h.pruned.mem_children hp)
      · cases hs
  · intro hn
    induction hn with
    | held hheld => exact h.accounted.isLive_of_isHeld (h.pruned.isHeld_eq _ ▸ hheld)
    | child _ hc ih =>
      rw [← h.pruned.children_eq ih] at hc
      exact h.linked.isLive_child hc

/-- So there is one way for all to end. -/
theorem eq (hd : Linked d) (h : Settles d e []) (h' : Settles d e' []) : e = e' := by
  refine h.pruned.eq h'.pruned (fun n => ?_) fun n x hx hlive => ?_
  · rw [Bool.eq_iff_iff, h.isLive_iff, h'.isLive_iff]
  · have hempty : x.children = #[] := by
      refine Array.eq_empty_iff_forall_not_mem.2 fun c hc => ?_
      have hn : c ∈ d.children n := by rwa [children, hx]
      have hlive' := hd.isLive_parent hn
      rw [isLive, hx] at hlive'
      exact absurd hlive' (by simp [hlive])
    rw [Node.destroyed, ← hlive, ← hempty]

end Settles

/-! ## The work list -/

theorem sum_modify_destroyed (l : List Node) (n : Nat) :
    ((l.modify n Node.destroyed).map (·.children.size)).sum + ((l[n]?.map Node.children).getD #[]).size =
      (l.map (·.children.size)).sum := by
  induction l generalizing n with
  | nil => cases n <;> rfl
  | cons x l ih =>
    cases n with
    | zero => simp [Node.destroyed, Nat.add_comm]
    | succ n =>
      have := ih n
      simp only [List.modify_succ_cons, List.map_cons, List.sum_cons, List.getElem?_cons_succ]
      omega

theorem linkCount_eq (d : Document) : d.linkCount = (d.nodes.toList.map (·.children.size)).sum := by
  have hfold : ∀ (l : List Node) (k : Nat), l.foldl (fun k x => k + x.children.size) k =
      k + (l.map (·.children.size)).sum := fun l => by
    induction l with
    | nil => simp
    | cons x l ih => intro k; simp [ih, Nat.add_assoc]
  rw [linkCount, ← Array.foldl_toList, hfold, Nat.zero_add]

/-- The entries of a node's child list are as many fewer once it is destroyed. -/
theorem linkCount_destroy (d : Document) (n : NodeId) :
    (d.destroy n).linkCount + (d.children n).size = d.linkCount := by
  rw [linkCount_eq, linkCount_eq, children, ← Array.getElem?_toList, ← sum_modify_destroyed d.nodes.toList n]
  simp [destroy, update]

theorem takeDown_nil (d : Document) (fuel : Nat) : d.takeDown fuel [] = d := by
  cases fuel <;> rfl

theorem takeDown_cons (d : Document) (fuel : Nat) (n : NodeId) (pending : List NodeId) :
    d.takeDown (fuel + 1) (n :: pending) =
      if d.isHeld n || d.isOwned n || pending.contains n then d.takeDown fuel pending
      else (d.destroy n).takeDown fuel ((d.children n).toList.reverse ++ pending) := rfl

/-- A work list with enough fuel gives up all shares in hand. -/
theorem takeDown_settles {fuel : Nat} {pending : List NodeId} (h : Linked d) (ha : d.Accounted pending)
    (hfuel : pending.length + d.linkCount ≤ fuel) : Settles d (d.takeDown fuel pending) [] := by
  -- an entry that is taken off the list is one less, and so is a link that becomes an entry
  induction fuel generalizing d pending with
  | zero =>
    obtain rfl : pending = [] := List.eq_nil_of_length_eq_zero (by omega)
    exact ⟨h, ha, .refl d⟩
  | succ fuel ih =>
    cases pending with
    | nil =>
      rw [takeDown_nil]
      exact ⟨h, ha, .refl d⟩
    | cons n pending =>
      rw [List.length_cons] at hfuel
      rw [takeDown_cons]
      split
      · next hkept => exact ih h (ha.giveUp ((keeps_iff h).1 hkept)) (by omega)
      · next hgone =>
        rw [keeps_iff h, not_or, not_or, not_exists, Bool.not_eq_true] at hgone
        obtain ⟨hh, hn, hns⟩ := hgone
        have hcount := linkCount_destroy d n
        have hacc : (d.destroy n).Accounted ((d.children n).toList.reverse ++ pending) :=
          (ha.destroy hh hn hns).congr (by simp)
        obtain ⟨hl, hacc, hp⟩ := ih (h.destroy hn) hacc
          (by rw [List.length_append, List.length_reverse, Array.length_toList]; omega)
        exact ⟨hl, hacc, (Pruned.destroy d n).trans hp⟩

/-! ## Recursive destruction -/

/-- Giving up shares one after another, where a node that nothing else keeps is destroyed and all its
shares in its children are given up before the next share. `waiting` are the shares that come later. -/
inductive GivesUp : (waiting : List NodeId) → Document → (shares : List NodeId) → Document → Prop
  | nil {waiting : List NodeId} {d : Document} : GivesUp waiting d [] d
  | keep {waiting ns : List NodeId} {d e : Document} {n : NodeId} :
      (d.isHeld n || d.isOwned n || (ns ++ waiting).contains n) = true →
      GivesUp waiting d ns e → GivesUp waiting d (n :: ns) e
  | destroy {waiting ns : List NodeId} {d e e' : Document} {n : NodeId} :
      (d.isHeld n || d.isOwned n || (ns ++ waiting).contains n) = false →
      GivesUp (ns ++ waiting) (d.destroy n) (d.children n).toList e → GivesUp waiting e ns e' →
      GivesUp waiting d (n :: ns) e'

theorem GivesUp.pruned (h : GivesUp waiting d ns e) : Pruned d e := by
  induction h with
  | nil => exact .refl _
  | keep _ _ ih => exact ih
  | destroy _ _ _ ih ih' => exact ((Pruned.destroy _ _).trans ih).trans ih'

/-- Recursive destruction gives up the shares in hand but for those that wait. -/
theorem GivesUp.settles (hg : GivesUp waiting d ns e) (h : Linked d)
    (ha : d.Accounted (ns ++ waiting)) : Settles d e waiting := by
  induction hg with
  | nil => exact ⟨h, ha, .refl _⟩
  | keep hkept _ ih => exact ih h (ha.giveUp ((keeps_iff h).1 hkept))
  | destroy hgone _ _ ih ih' =>
    rw [← Bool.not_eq_true, keeps_iff h, not_or, not_or, not_exists, Bool.not_eq_true] at hgone
    obtain ⟨hh, hn, hns⟩ := hgone
    obtain ⟨hl, hacc, hp⟩ := ih (h.destroy hn) (ha.destroy hh hn hns)
    obtain ⟨hl', hacc', hp'⟩ := ih' hl hacc
    exact ⟨hl', hacc', ((Pruned.destroy _ _).trans hp).trans hp'⟩

/-- Shares in nodes that can be destroyed can be given up. -/
theorem exists_givesUp_of_forall {d₀ : Document}
    (h : ∀ n ∈ ns, ∀ d waiting, Pruned d₀ d →
      ∃ e, GivesUp waiting (d.destroy n) (d.children n).toList e)
    (hd : Pruned d₀ d) (waiting : List NodeId) : ∃ e, GivesUp waiting d ns e := by
  induction ns generalizing d with
  | nil => exact ⟨d, .nil⟩
  | cons n ns ih =>
    obtain ⟨hn, hns⟩ := List.forall_mem_cons.1 h
    cases hkept : d.isHeld n || d.isOwned n || (ns ++ waiting).contains n with
    | true =>
      obtain ⟨e, he⟩ := ih hns hd
      exact ⟨e, .keep hkept he⟩
    | false =>
      obtain ⟨e, he⟩ := hn d (ns ++ waiting) hd
      obtain ⟨e', he'⟩ := ih hns ((hd.trans (.destroy d n)).trans he.pruned)
      exact ⟨e', .destroy hkept he he'⟩

/-- The recursion comes to an end, since no node is below itself. -/
theorem exists_givesUp (h : Linked d) (ns waiting : List NodeId) : ∃ e, GivesUp waiting d ns e := by
  have hdestroy : ∀ n f w, Pruned d f → ∃ e, GivesUp w (f.destroy n) (f.children n).toList e := fun n => by
    induction n using h.wellFounded_children.induction with
    | _ n ih =>
      intro f w hf
      have hchild : ∀ c ∈ (f.children n).toList, c ∈ d.children n := fun c hc =>
        hf.mem_children (Array.mem_toList_iff.1 hc)
      exact exists_givesUp_of_forall (fun c hc => ih c (hchild c hc)) (hf.trans (.destroy f n)) w
  exact exists_givesUp_of_forall (fun n _ => hdestroy n) (.refl d) waiting

/-! ## Handles -/

theorem Linked.onHandles (h : Linked d) (n : NodeId) (g : Nat → Nat) : Linked (d.onHandles n g) :=
  h.congr (size_onHandles ..) (isLive_onHandles d n g) (parentLink_onHandles d n g) (children_onHandles d n g)

/-- A handle that is given back is a share in hand. -/
theorem Accounted.onHandles (h : d.Accounted []) (hn : d.isLive n = true) (g : Nat → Nat) :
    (d.onHandles n g).Accounted [n] := fun m => by
  simp only [isLive_onHandles, children_onHandles, List.mem_singleton]
  by_cases e : m = n
  · rw [e]
    exact iff_of_true hn (.inr (.inr rfl))
  · rw [isHeld_onHandles _ _ _ _ e, h m]
    simp [e]

/-- The document before anything is destroyed, when a handle has been given back. -/
def giveBack (d : Document) (n : NodeId) : Document := d.onHandles n (· - 1)

theorem release_eq (d : Document) (n : NodeId) :
    d.release n = (d.giveBack n).takeDown ((d.giveBack n).linkCount + 1) [n] := rfl

/-- Giving back a handle gives up one share. -/
theorem release_settles (h : Linked d) (ha : d.Accounted []) (hn : d.isLive n = true) :
    Settles (d.giveBack n) (d.release n) [] := by
  rw [release_eq]
  exact takeDown_settles (h.onHandles n _) (ha.onHandles hn _) (by simp [Nat.add_comm])

theorem givesUp_iff (h : Linked d) (ha : d.Accounted []) (hn : d.isLive n = true) :
    GivesUp [] (d.giveBack n) [n] e ↔ e = d.release n := by
  have hlinked : Linked (d.giveBack n) := h.onHandles n _
  have hsettles : ∀ {e}, GivesUp [] (d.giveBack n) [n] e → e = d.release n := fun {e} he =>
    Settles.eq hlinked (he.settles hlinked (ha.onHandles hn _)) (release_settles h ha hn)
  refine ⟨hsettles, ?_⟩
  rintro rfl
  obtain ⟨e, he⟩ := exists_givesUp hlinked [n] []
  exact hsettles he ▸ he

end Document

end UsedCss.Html
