import UsedCss.Html.Draft
import UsedCss.Proofs.Html.Teardown
/-!
# Runs of edits

A run is lawful if whoever takes a step holds the nodes that it names and no step puts a node under
itself. However long it is and in whatever order its steps come, it leaves a sound document: child lists
and parent links agree, no node is below itself, and what lives is what someone holds and what is below.
-/

namespace UsedCss.Html

open Relation

namespace Document

variable {d d' : Document} {n m p c s t : NodeId}

/-! ## Sound documents -/

/-- Child lists and parent links agree, and every live node has an owner. -/
structure Sound (d : Document) : Prop where
  linked : Linked d
  accounted : d.Accounted []

theorem sound_empty : Sound empty := ⟨linked_empty, accounted_empty⟩

theorem Sound.isLive (h : Sound d) (hn : d.isHeld n = true) : d.isLive n = true :=
  h.accounted.isLive_of_isHeld hn

/-- What lives is what is kept. -/
theorem Sound.isLive_iff (h : Sound d) (n : NodeId) : d.isLive n = true ↔ d.Kept n :=
  Settles.isLive_iff ⟨h.linked, h.accounted, .refl d⟩ n

/-- A new node with a handle to it. -/
theorem Sound.create (h : Sound d) (data : NodeData) {handles : Nat} (hh : 0 < handles) :
    Sound (d.create data handles).1 where
  linked := h.linked.create data handles
  accounted := by
    have hheld : (d.create data handles).1.isHeld d.nodes.size = true := by
      simp [isHeld_create, hh]
    exact (h.accounted.create data handles).giveUp (.inl hheld)

theorem Sound.detach (h : Sound d) (hn : d.isHeld n = true) : Sound (d.detach n) := by
  have hm := moves_detach h.linked n
  have hlive : ∀ c ∈ [n], d.isLive c = true := by simpa using h.isLive hn
  refine ⟨hm.linked h.linked (List.nodup_singleton n) hlive nofun, ?_⟩
  exact h.accounted.move hm hlive (by simpa using hn) (List.nil_subset _)

theorem Sound.reparent (h : Sound d) (hn : d.isHeld n = true) (ht : d.isHeld t = true)
    (hnot : ∀ c ∈ d.children n, ¬ d.Above c t) : Sound (d.reparent n t) := by
  have hm := moves_reparent h.linked (h.isLive hn) (h.isLive ht)
  have hlive : ∀ c ∈ (d.children n).toList, d.isLive c = true := fun c hc =>
    h.linked.isLive_child (Array.mem_toList_iff.1 hc)
  refine ⟨hm.linked h.linked (h.linked.nodup n) hlive ?_, ?_⟩
  · intro x hx
    obtain rfl := Option.mem_some_iff.1 hx
    exact ⟨h.isLive ht, fun c hc => hnot c (Array.mem_toList_iff.1 hc)⟩
  · exact h.accounted.move hm hlive (fun _ _ => .inl rfl) (List.nil_subset _)

theorem Sound.addAttributes (h : Sound d) (n : NodeId) (attributes : List Attribute) :
    Sound (d.addAttributes n attributes) where
  linked := h.linked.congr (size_addAttributes ..) (isLive_addAttributes d n attributes)
    (parentLink_addAttributes d n attributes) (children_addAttributes d n attributes)
  accounted m := by
    simp only [isLive_addAttributes, isHeld_addAttributes, children_addAttributes]
    exact h.accounted m

theorem Sound.retain (h : Sound d) (hn : d.isLive n = true) : Sound (d.retain n) := by
  have hheld : (d.onHandles n (· + 1)).isHeld n = true := by
    obtain ⟨x, hx, -⟩ := isLive_eq_true_iff.1 hn
    simp [isHeld, onHandles, getElem?_update, hx]
  exact ⟨h.linked.onHandles n _, (h.accounted.onHandles hn _).giveUp (.inl hheld)⟩

theorem Sound.release (h : Sound d) (hn : d.isLive n = true) : Sound (d.release n) :=
  let hs := release_settles h.linked h.accounted hn
  ⟨hs.linked, hs.accounted⟩

/-- A live node that can be put below another one. It may be new, so that nothing but the hand that
made it keeps it alive. -/
structure Ready (d : Document) (c p : NodeId) : Prop where
  linked : Linked d
  accounted : ∃ shares ⊆ [c], d.Accounted shares
  isLive_child : d.isLive c = true
  isLive_parent : d.isLive p = true
  not_above : ¬ d.Above c p

namespace Ready

theorem sound (h : Ready d c p) (hm : Moves d d' [c] (some p)) : Sound d' := by
  obtain ⟨shares, hs, ha⟩ := h.accounted
  have hlive : ∀ x ∈ [c], d.isLive x = true := by simpa using h.isLive_child
  refine ⟨hm.linked h.linked (List.nodup_singleton c) hlive ?_, ha.move hm hlive (by simp) hs⟩
  intro x hx
  obtain rfl := Option.mem_some_iff.1 hx
  exact ⟨h.isLive_parent, by simpa using h.not_above⟩

theorem moves_append (h : Ready d c p) : Moves d (d.append p c) [c] (some p) :=
  Document.moves_append h.linked h.isLive_parent h.isLive_child

theorem moves_insertBefore (h : Ready d c p) (hs : d.parent s = some p) :
    Moves d (d.insertBefore s c) [c] (some p) := by
  rw [insertBefore, hs]
  exact moves_placeBefore h.linked h.isLive_parent h.isLive_child s

end Ready

end Document

open Document

/-! ## Lawful steps -/

/-- Whether a child can be put below a node: a new text always, a node that someone holds if it does
not stand above. -/
def Child.Fits (d : Document) (p : NodeId) : Child → Prop
  | .node c => d.isHeld c = true ∧ ¬ d.Above c p
  | .text => True

/-- Whether a step can be taken: the nodes that it names are held, it puts no node under itself, and
a handle that is given back has been handed out. -/
def Edit.Permitted (d : Document) : Edit → Prop
  | .createElement _ _ | .createComment | .report _ => True
  | .append p child => d.isHeld p = true ∧ child.Fits d p
  | .appendBefore s child => d.isHeld s = true ∧ ∀ p ∈ d.parent s, child.Fits d p
  | .appendByParent e previous child =>
    d.isHeld e = true ∧ d.isHeld previous = true ∧ child.Fits d ((d.parent e).getD previous)
  | .detach n | .addAttributes n _ => d.isHeld n = true
  | .reparent n t => d.isHeld n = true ∧ d.isHeld t = true ∧ ∀ c ∈ d.children n, ¬ d.Above c t
  | .retain n => d.isLive n = true
  | .release n => ∃ x ∈ d.nodes[n]?, x.live = true ∧ 0 < x.handles

theorem Edit.isLive_of_release {d : Document} {n : NodeId} (h : (Edit.release n).Permitted d) :
    d.isLive n = true :=
  let ⟨x, hx, hlive, _⟩ := h
  isLive_eq_true_iff.2 ⟨x, hx, hlive⟩

instance (d : Document) (p : NodeId) : (child : Child) → Decidable (child.Fits d p)
  | .node c => inferInstanceAs (Decidable (d.isHeld c = true ∧ ¬ d.Above c p))
  | .text => inferInstanceAs (Decidable True)

instance (d : Document) : (edit : Edit) → Decidable (edit.Permitted d)
  | .createElement _ _ | .createComment | .report _ => inferInstanceAs (Decidable True)
  | .append p child => inferInstanceAs (Decidable (d.isHeld p = true ∧ child.Fits d p))
  | .appendBefore s child =>
    inferInstanceAs (Decidable (d.isHeld s = true ∧ ∀ p ∈ d.parent s, child.Fits d p))
  | .appendByParent e previous child =>
    inferInstanceAs (Decidable (d.isHeld e = true ∧ d.isHeld previous = true ∧
      child.Fits d ((d.parent e).getD previous)))
  | .detach n | .addAttributes n _ => inferInstanceAs (Decidable (d.isHeld n = true))
  | .reparent n t =>
    inferInstanceAs (Decidable (d.isHeld n = true ∧ d.isHeld t = true ∧ ∀ c ∈ d.children n, ¬ d.Above c t))
  | .retain n => inferInstanceAs (Decidable (d.isLive n = true))
  | .release n => inferInstanceAs (Decidable (∃ x ∈ d.nodes[n]?, x.live = true ∧ 0 < x.handles))

namespace Draft

variable {d : Draft} {n p s previous : NodeId} {child : Child} {edits before after : List Edit} {edit : Edit}

/-- Whether steps can be taken one after another. -/
def Lawful (d : Draft) : List Edit → Prop
  | [] => True
  | edit :: edits => edit.Permitted d.document ∧ (d.apply edit).Lawful edits

instance decidableLawful : (d : Draft) → (edits : List Edit) → Decidable (d.Lawful edits)
  | _, [] => inferInstanceAs (Decidable True)
  | d, edit :: edits =>
    have := decidableLawful (d.apply edit) edits
    inferInstanceAs (Decidable (edit.Permitted d.document ∧ (d.apply edit).Lawful edits))

theorem lawful_append :
    d.Lawful (before ++ after) ↔ d.Lawful before ∧ (before.foldl apply d).Lawful after := by
  induction before generalizing d with
  | nil => simp [Lawful]
  | cons edit before ih => simp [Lawful, ih, and_assoc]

/-- What holds at the start and is kept by every step holds at the end. -/
theorem Lawful.invariant {I : Draft → Prop} (h : d.Lawful edits) (hd : I d)
    (hstep : ∀ edit ∈ edits, ∀ d, I d → edit.Permitted d.document → I (d.apply edit)) :
    I (edits.foldl apply d) := by
  induction edits generalizing d with
  | nil => exact hd
  | cons edit edits ih =>
    obtain ⟨hfirst, hrest⟩ := List.forall_mem_cons.1 hstep
    exact ih h.2 (hfirst d hd h.1) hrest

theorem parent_nodeOf (h : Linked d.document) (child : Child) (n : NodeId) :
    (d.nodeOf child).1.document.parent n = d.document.parent n := by
  cases child with
  | node c => rfl
  | text => exact h.parent_create .text 0 n

/-- A child that fits can be put below the node. -/
theorem ready_nodeOf (h : Sound d.document) (hp : d.document.isLive p = true) (hf : child.Fits d.document p) :
    Ready (d.nodeOf child).1.document (d.nodeOf child).2 p := by
  cases child with
  | node c => exact ⟨h.linked, ⟨[], List.nil_subset _, h.accounted⟩, h.isLive hf.1, hp, hf.2⟩
  | text =>
    refine ⟨h.linked.create .text 0, ⟨_, List.Subset.refl _, h.accounted.create .text 0⟩, ?_, ?_, ?_⟩
    · simp [nodeOf, create_snd]
    · simp [nodeOf, hp]
    · exact h.linked.not_above_create .text 0 (lt_of_isLive hp)

/-- What a step that puts a child somewhere does: the child is made if it is new, and moved. -/
def Puts (d d' : Draft) (child : Child) : Prop :=
  ∃ p, Ready (d.nodeOf child).1.document (d.nodeOf child).2 p ∧
    Moves (d.nodeOf child).1.document d'.document [(d.nodeOf child).2] (some p)

theorem puts_append (h : Sound d.document) (hp : d.document.isLive p = true)
    (hf : child.Fits d.document p) : Puts d (d.append p child) child :=
  have hready := ready_nodeOf h hp hf
  ⟨p, hready, hready.moves_append⟩

theorem puts_appendBefore (h : Sound d.document) (hf : ∀ p ∈ d.document.parent s, child.Fits d.document p) :
    d.appendBefore s child = d ∨ Puts d (d.appendBefore s child) child := by
  rw [appendBefore]
  split
  · next hs =>
    obtain ⟨p, hp⟩ := Option.isSome_iff_exists.1 hs
    have hready := ready_nodeOf h (Up.isLive hp) (hf p hp)
    exact .inr ⟨p, hready, hready.moves_insertBefore ((parent_nodeOf h.linked child s).trans hp)⟩
  · exact .inl rfl

theorem puts_appendByParent (h : Sound d.document) (hp : d.document.isLive previous = true)
    (hf : child.Fits d.document ((d.document.parent s).getD previous)) :
    d.appendByParent s previous child = d ∨ Puts d (d.appendByParent s previous child) child := by
  rw [appendByParent]
  split
  · refine puts_appendBefore h fun p hs => ?_
    rwa [Option.mem_def.1 hs, Option.getD_some] at hf
  · next hnone =>
    rw [Option.not_isSome_iff_eq_none] at hnone
    rw [hnone, Option.getD_none] at hf
    exact .inr (puts_append h hp hf)

theorem Puts.sound {d' : Draft} (h : Puts d d' child) : Sound d'.document :=
  let ⟨_, hready, hmoves⟩ := h
  hready.sound hmoves

theorem sound_of_puts {d' : Draft} (hs : Sound d.document) (h : d' = d ∨ Puts d d' child) :
    Sound d'.document := by
  rcases h with rfl | h
  · exact hs
  · exact h.sound

theorem document_report (d : Draft) (e : ParseError) : (d.report e).document = d.document := by
  rw [report]
  split <;> rfl

/-- A step that can be taken leaves a sound document sound. -/
theorem sound_apply (h : Sound d.document) (hp : edit.Permitted d.document) :
    Sound (d.apply edit).document := by
  cases edit with
  | createElement name attributes => exact h.create _ Nat.one_pos
  | createComment => exact h.create _ Nat.one_pos
  | append p child => exact (puts_append h (h.isLive hp.1) hp.2).sound
  | appendBefore s child => exact sound_of_puts h (puts_appendBefore h hp.2)
  | appendByParent e previous child =>
    exact sound_of_puts h (puts_appendByParent h (h.isLive hp.2.1) hp.2.2)
  | detach n => exact h.detach hp
  | reparent n t => exact h.reparent hp.1 hp.2.1 hp.2.2
  | addAttributes n attributes => exact h.addAttributes n attributes
  | report e =>
    rw [apply, document_report]
    exact h
  | retain n => exact h.retain hp
  | release n => exact h.release (Edit.isLive_of_release hp)

/-- So does a lawful run. -/
theorem Lawful.sound (h : d.Lawful edits) (hd : Sound d.document) : Sound (edits.foldl apply d).document :=
  h.invariant (I := fun d => Sound d.document) hd fun _ _ _ hs hp => sound_apply hs hp

theorem Lawful.sound_run (h : Lawful {} edits) : Sound (run edits).document := h.sound sound_empty

/-- Whatever steps are taken, as long as none puts a node under itself: child lists and parent links
say the same about living nodes, no node has two places, and no way up leads back. -/
theorem Lawful.links_agree (h : Lawful {} edits) :
    let d := (run edits).document
    (∀ p c, d.isLive p = true → d.isLive c = true → (c ∈ d.children p ↔ d.parent c = some p)) ∧
      (∀ p c, c ∈ d.children p → d.isLive p = true ∧ d.isLive c = true) ∧
      (∀ p, (d.children p).toList.Nodup) ∧
      (∀ p q c, c ∈ d.children p → c ∈ d.children q → p = q) ∧
      ∀ n, ¬ TransGen (fun c p => d.parent c = some p) n n := by
  have hl := h.sound_run.linked
  refine ⟨fun p c _ hc => ?_, fun p c hc => ⟨hl.isLive_parent hc, hl.isLive_child hc⟩, hl.nodup,
    fun p q c => hl.parent_unique, hl.acyclic⟩
  rw [hl.mem_children]
  exact and_iff_right hc

/-- Elements put below others, before a sibling and before themselves; their children given to another. -/
def shuffle : List Edit :=
  [.createElement (.html "html") [], .append root (.node 1), .createElement (.html "p") [],
    .append 1 (.node 2), .createElement (.html "b") [], .append 1 (.node 3), .append 3 .text,
    .appendBefore 2 (.node 3), .appendBefore 3 (.node 3), .reparent 3 2, .reparent 2 2, .release 3]

theorem links_agree_shuffle :
    Lawful {} shuffle ∧ (run shuffle).document.children 1 = #[2, 3] ∧
      (run shuffle).document.parent 3 = some 1 ∧ (run shuffle).document.parent 4 = some 2 ∧
      ¬ TransGen (fun c p => (run shuffle).document.parent c = some p) 3 3 := by
  have h : Lawful {} shuffle := by decide +kernel
  obtain ⟨hagree, -, -, -, hacyclic⟩ := h.links_agree
  have hchildren : (run shuffle).document.children 1 = #[2, 3] := by decide +kernel
  have hlive : ∀ n < 5, (run shuffle).document.isLive n = true := by decide +kernel
  refine ⟨h, hchildren, ?_, ?_, hacyclic 3⟩
  · exact (hagree 1 3 (hlive 1 (by decide)) (hlive 3 (by decide))).1 (by simp [hchildren])
  · exact (hagree 2 4 (hlive 2 (by decide)) (hlive 4 (by decide))).1 (by decide +kernel)

theorem appendBefore_of_no_parent (h : d.document.parent s = none) (child : Child) :
    d.appendBefore s child = d := by
  rw [appendBefore, h]
  rfl

theorem appendByParent_of_no_parent (h : d.document.parent s = none) (previous : NodeId) (child : Child) :
    d.appendByParent s previous child = d.append previous child := by
  rw [appendByParent, h]
  rfl

/-- Giving back a handle destroys exactly what nobody holds any more, as recursive destruction would.
What lives on keeps its children, and a node whose parent is gone has none: nothing can be put before
it, and what should stand in front of it goes to the other node. -/
theorem Lawful.release_destroys_unheld (h : Lawful {} (edits ++ [.release n])) :
    let d := run edits
    let d' := run (edits ++ [.release n])
    (∀ m, d'.document.isLive m = true ↔ d'.document.Kept m) ∧
      (∀ m, d'.document.isLive m = true ↔ (d.document.giveBack n).Kept m) ∧
      (∀ e, GivesUp [] (d.document.giveBack n) [n] e ↔ e = d'.document) ∧
      (∀ m, d'.document.isLive m = true → d'.document.children m = d.document.children m) ∧
      ∀ c p, d'.document.isLive c = true → d.document.parent c = some p → d'.document.isLive p = false →
        d'.document.parent c = none ∧ (∀ m, d'.document.insertBefore c m = d'.document) ∧
        (∀ child, d'.appendBefore c child = d') ∧
        ∀ previous child, d'.appendByParent c previous child = d'.append previous child := by
  intro d d'
  obtain ⟨hedits, hrelease, -⟩ := lawful_append.1 h
  have hn : d.document.isLive n = true := Edit.isLive_of_release hrelease
  have hs : Sound d.document := Lawful.sound_run hedits
  have hd' : d'.document = d.document.release n := by
    rw [show d' = d.apply (.release n) from List.foldl_append ..]
    rfl
  have hsettles : Settles (d.document.giveBack n) d'.document [] := by
    rw [hd']
    exact release_settles hs.linked hs.accounted hn
  refine ⟨h.sound_run.isLive_iff, hsettles.isLive_iff, fun e => ?_, fun m hm => ?_, fun c p hc hp hgone => ?_⟩
  · rw [hd']
    exact givesUp_iff hs.linked hs.accounted hn
  · rw [hsettles.pruned.children_eq hm]
    exact children_onHandles ..
  · have hnone : d'.document.parent c = none := by
      rw [parent, hsettles.pruned.parentLink_eq hc, giveBack, parentLink_onHandles, (parent_eq_some_iff.1 hp).1]
      simp [hgone]
    refine ⟨hnone, fun m => ?_, appendBefore_of_no_parent hnone, appendByParent_of_no_parent hnone⟩
    rw [Document.insertBefore, hnone]

/-- A node with one child that is held and one that is not, and a text below the one that is. -/
def orphans : List Edit :=
  [.createElement (.html "ul") [], .createElement (.html "li") [], .append 1 (.node 2), .append 1 .text,
    .append 2 .text]

theorem release_destroys_unheld_orphans :
    Lawful {} (orphans ++ [.release 1]) ∧
      (∀ m < 5, (run (orphans ++ [.release 1])).document.isLive m = true ↔ m ∈ [root, 2, 4]) ∧
      (run (orphans ++ [.release 1])).document.children 2 = #[4] ∧
      GivesUp [] ((run orphans).document.giveBack 1) [1] (run (orphans ++ [.release 1])).document ∧
      (run (orphans ++ [.release 1])).document.parent 2 = none ∧
      (run (orphans ++ [.release 1])).appendByParent 2 root .text =
        (run (orphans ++ [.release 1])).append root .text := by
  have h : Lawful {} (orphans ++ [.release 1]) := by decide +kernel
  obtain ⟨-, -, hrecursive, hchildren, horphan⟩ := h.release_destroys_unheld
  have hlive : ∀ m < 5, (run (orphans ++ [.release 1])).document.isLive m = true ↔ m ∈ [root, 2, 4] := by
    decide +kernel
  have htwo : (run (orphans ++ [.release 1])).document.isLive 2 = true := (hlive 2 (by decide)).2 (by decide)
  obtain ⟨hparent, -, -, hbefore⟩ := horphan 2 1 htwo (by decide +kernel) (by decide +kernel)
  refine ⟨h, hlive, ?_, (hrecursive _).2 rfl, hparent, hbefore root .text⟩
  rw [hchildren 2 htwo]
  decide +kernel

end Draft

end UsedCss.Html
