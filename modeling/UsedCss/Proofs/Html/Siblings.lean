import UsedCss.Proofs.Html.Run
/-!
# Where moves put nodes

A move takes a node out of the one child list that it stands in and puts it into another one, at its end
or right before a sibling. The sibling is always found there, since a node whose parent is alive is among
the children of that parent. All other nodes keep their order, and what the nodes are does not change.
-/

namespace UsedCss.Html

namespace Document

variable {d d' : Document} {c n p q s t : NodeId} {u v before after : List NodeId} {cs : Array NodeId}
  {f g : Node → Node} {place : Array NodeId → Array NodeId}

/-! ## One node -/

theorem idxOf?_append_cons (h : s ∉ u) (v : List NodeId) : (u ++ s :: v).idxOf? s = some u.length := by
  induction u with
  | nil => simp [List.idxOf?_cons]
  | cons x u ih =>
    obtain ⟨hx, hu⟩ := not_or.1 (List.mem_cons.not.1 h)
    rw [List.cons_append, List.idxOf?_cons, ih hu]
    simp [Ne.symm hx]

theorem insertIdx_length (u v : List NodeId) (c : NodeId) : (u ++ v).insertIdx u.length c = u ++ c :: v := by
  induction u with
  | nil => rfl
  | cons x u ih => rw [List.cons_append, List.length_cons, List.insertIdx_succ_cons, ih, List.cons_append]

/-- Before a sibling is where it stands for the first time. -/
theorem toList_insertBefore (h : s ∉ u) (hcs : cs.toList = u ++ s :: v) (c : NodeId) :
    (cs.insertIdxIfInBounds ((cs.idxOf? s).getD cs.size) c).toList = u ++ c :: s :: v := by
  have hsize : u.length ≤ cs.size := by
    rw [← Array.length_toList, hcs, List.length_append]
    exact Nat.le_add_right ..
  have hplace : cs.idxOf? s = some u.length := by
    have hlist : cs.toList.toArray = cs := Array.toArray_toList
    rw [← hlist, List.idxOf?_toArray, hcs, idxOf?_append_cons h]
  rw [hplace, Option.getD_some, Array.insertIdxIfInBounds, dif_pos hsize, Array.toList_insertIdx, hcs,
    insertIdx_length]

/-- One document is the other one with a node taken out of where it was and put among the children of a
node, behind some of these and in front of the others. -/
structure Placed (d d' : Document) (c p : NodeId) (before after : List NodeId) : Prop where
  rest : (d.children p).toList.filter (· != c) = before ++ after
  target : (d'.children p).toList = before ++ c :: after
  others : ∀ q, q ≠ p → (d'.children q).toList = (d.children q).toList.filter (· != c)
  data : ∀ m, d'.data? m = d.data? m

theorem toList_children_without (h : Linked d) (c q : NodeId) :
    ((d.detach c).children q).toList = (d.children q).toList.filter (· != c) := by
  rw [filter_children h, Array.toList_filter]

theorem placed_attach (h : Linked d) (hp : d.isLive p = true)
    (hrest : ((d.detach c).children p).toList = before ++ after)
    (hplace : (place ((d.detach c).children p)).toList = before ++ c :: after) :
    Placed d (d.attach p c place) c p before after where
  rest := by rw [← toList_children_without h, hrest]
  target := by rw [children_attach _ _ _ _ _ (lt_of_isLive hp), if_pos rfl, hplace]
  others q hq := by rw [children_attach _ _ _ _ _ (lt_of_isLive hp), if_neg hq, toList_children_without h]
  data m := data?_attach ..

theorem placed_append (h : Linked d) (hp : d.isLive p = true) (c : NodeId) :
    ∃ before, Placed d (d.append p c) c p before [] := by
  refine ⟨((d.detach c).children p).toList, ?_⟩
  rw [append_eq]
  exact placed_attach h hp (List.append_nil _).symm Array.toList_push

/-- A sibling that is alive is found among the children of its parent, whatever has been taken out
before. -/
theorem placed_insertBefore (h : Linked d) (hs : d.isLive s = true) (hp : d.parent s = some p) (hsc : s ≠ c) :
    ∃ before after, Placed d (d.insertBefore s c) c p before (s :: after) := by
  have hmem : s ∈ ((d.detach c).children p).toList := by
    rw [toList_children_without h, List.mem_filter, Array.mem_toList_iff, h.mem_children]
    exact ⟨⟨hs, hp⟩, bne_iff_ne.2 hsc⟩
  obtain ⟨before, after, hrest, hbefore⟩ := List.eq_append_cons_of_mem hmem
  refine ⟨before, after, ?_⟩
  rw [insertBefore, hp]
  simp only [placeBefore_eq]
  exact placed_attach h (Up.isLive hp) hrest (toList_insertBefore hbefore hrest c)

/-! ## All children -/

/-- Giving a node its own children changes nothing: their links lead to it already. -/
theorem reparent_self (h : Linked d) (n : NodeId) : d.reparent n n = d := by
  have hlinks : ∀ c ∈ (d.children n).toList, (d.onChildren n fun _ => #[]).parentLink c = some n := fun c hc => by
    rw [parentLink_onChildren]
    exact (parent_eq_some_iff.1 (h.mem_children.1 (Array.mem_toList_iff.1 hc)).2).1
  rw [reparent_eq, linkAll_eq_self hlinks, onChildren, onChildren, update_update]
  refine update_eq_self fun x hx => ?_
  have hchildren : d.children n = x.children := by
    rw [children, Option.mem_def.1 hx]
    rfl
  simp [hchildren]

/-- One document is the other one with all children of a node put behind those of another node. -/
structure HandsOver (d d' : Document) (n t : NodeId) : Prop where
  source : d'.children n = #[]
  target : d'.children t = d.children t ++ d.children n
  others : ∀ q, q ≠ n → q ≠ t → d'.children q = d.children q
  data : ∀ m, d'.data? m = d.data? m

theorem handsOver_reparent (hn : d.isLive n = true) (ht : d.isLive t = true) (hnt : n ≠ t) :
    HandsOver d (d.reparent n t) n t := by
  have hchildren := fun q => children_reparent d n t q (lt_of_isLive hn) (lt_of_isLive ht)
  refine ⟨?_, ?_, fun q hqn hqt => ?_, fun m => data?_reparent ..⟩
  · simp [hchildren, hnt]
  · simp [hchildren, Ne.symm hnt]
  · simp [hchildren, hqn, hqt]

end Document

open Document

/-! ## Steps of a run -/

/-- The node that a child is: a new text comes behind all nodes of the store. -/
def Child.idIn (d : Document) : Child → NodeId
  | .node n => n
  | .text => d.nodes.size

/-- One document is the other one with a child among the children of a node, behind some of these and in
front of the others. If it was there already it has been taken out of where it was; otherwise it is a new
text. -/
structure Inserts (d d' : Document) (child : Child) (p : NodeId) (before after : List NodeId) : Prop where
  rest : (d.children p).toList.filter (· != child.idIn d) = before ++ after
  target : (d'.children p).toList = before ++ child.idIn d :: after
  others : ∀ q, q ≠ p → (d'.children q).toList = (d.children q).toList.filter (· != child.idIn d)
  data : ∀ m, d'.data? m = if child = .text ∧ m = d.nodes.size then some .text else d.data? m

namespace Draft

variable {d : Draft} {d' : Document} {p s previous : NodeId} {before after : List NodeId} {child : Child}
  {edits : List Edit}

theorem nodeOf_snd (d : Draft) (child : Child) : (d.nodeOf child).2 = child.idIn d.document := by
  cases child <;> rfl

theorem children_nodeOf (d : Draft) (child : Child) (q : NodeId) :
    (d.nodeOf child).1.document.children q = d.document.children q := by
  cases child with
  | node c => rfl
  | text => exact children_create ..

theorem data?_nodeOf (d : Draft) (child : Child) (m : NodeId) :
    (d.nodeOf child).1.document.data? m =
      if child = .text ∧ m = d.document.nodes.size then some .text else d.document.data? m := by
  cases child with
  | node c => rw [if_neg fun h => nomatch h.1]; rfl
  | text =>
    refine (data?_create d.document .text 0 m).trans ?_
    simp

theorem inserts_of_placed (h : Placed (d.nodeOf child).1.document d' (d.nodeOf child).2 p before after) :
    Inserts d.document d' child p before after where
  rest := by rw [← children_nodeOf d child, ← nodeOf_snd]; exact h.rest
  target := by rw [← nodeOf_snd]; exact h.target
  others q hq := by rw [← children_nodeOf d child, ← nodeOf_snd]; exact h.others q hq
  data m := by rw [h.data, data?_nodeOf]

theorem inserts_append (h : Sound d.document) (hp : d.document.isLive p = true) (hf : child.Fits d.document p) :
    ∃ before, Inserts d.document (d.append p child).document child p before [] := by
  have hready := ready_nodeOf h hp hf
  obtain ⟨before, hplaced⟩ := placed_append hready.linked hready.isLive_parent (d.nodeOf child).2
  exact ⟨before, inserts_of_placed hplaced⟩

theorem inserts_appendBefore (h : Sound d.document) (hs : d.document.isLive s = true)
    (hp : d.document.parent s = some p) (hf : child.Fits d.document p) (hne : child ≠ .node s) :
    ∃ before after, Inserts d.document (d.appendBefore s child).document child p before (s :: after) := by
  have hready := ready_nodeOf h (Up.isLive hp) hf
  have hs' : (d.nodeOf child).1.document.isLive s = true := by
    cases child with
    | node c => exact hs
    | text => simp [nodeOf, hs]
  have hsc : s ≠ (d.nodeOf child).2 := by
    cases child with
    | node c => exact fun e => hne (congrArg Child.node e.symm)
    | text => exact Nat.ne_of_lt (lt_of_isLive hs)
  obtain ⟨before, after, hplaced⟩ :=
    placed_insertBefore hready.linked hs' ((parent_nodeOf h.linked child s).trans hp) hsc
  refine ⟨before, after, ?_⟩
  rw [appendBefore, hp]
  exact inserts_of_placed hplaced

theorem inserts_appendByParent (h : Sound d.document) (hs : d.document.isLive s = true)
    (hp : d.document.parent s = some p) (hf : child.Fits d.document p) (hne : child ≠ .node s)
    (previous : NodeId) :
    ∃ before after, Inserts d.document (d.appendByParent s previous child).document child p before
      (s :: after) := by
  rw [appendByParent, hp]
  exact inserts_appendBefore h hs hp hf hne

/-- What the moves do after any run. The first makes a child the last one of a node. The second puts it
right before a sibling, and does nothing if that one has no living parent. The third does the same, but
then makes it the last child of another node. The fourth puts all children of a node behind those of
another one, and does nothing if the two are the same. Nothing else changes. -/
theorem Lawful.moves_exactly (h : Lawful {} edits) :
    let d := run edits
    (∀ p child, (Edit.append p child).Permitted d.document →
      ∃ before, Inserts d.document (d.apply (.append p child)).document child p before []) ∧
      (∀ s child, (Edit.appendBefore s child).Permitted d.document → child ≠ .node s →
        ∀ q, d.document.parent s = some q → ∃ before after,
          Inserts d.document (d.apply (.appendBefore s child)).document child q before (s :: after)) ∧
      (∀ s child, d.document.parent s = none → d.apply (.appendBefore s child) = d) ∧
      (∀ e previous child, (Edit.appendByParent e previous child).Permitted d.document →
        (child ≠ .node e → ∀ q, d.document.parent e = some q → ∃ before after,
          Inserts d.document (d.apply (.appendByParent e previous child)).document child q before
            (e :: after)) ∧
        (d.document.parent e = none → ∃ before,
          Inserts d.document (d.apply (.appendByParent e previous child)).document child previous before [])) ∧
      ∀ n t, (Edit.reparent n t).Permitted d.document →
        (n ≠ t → HandsOver d.document (d.apply (.reparent n t)).document n t) ∧
        (n = t → d.apply (.reparent n t) = d) := by
  intro d
  have hs : Sound d.document := h.sound_run
  refine ⟨fun p child hp => inserts_append hs (hs.isLive hp.1) hp.2, fun s child hp hne q hq => ?_,
    fun s child hnone => appendBefore_of_no_parent hnone child, fun e previous child hp => ⟨?_, ?_⟩,
    fun n t hp => ⟨handsOver_reparent (hs.isLive hp.1) (hs.isLive hp.2.1), ?_⟩⟩
  · exact inserts_appendBefore hs (hs.isLive hp.1) hq (hp.2 q hq) hne
  · intro hne q hq
    have hf : child.Fits d.document ((d.document.parent e).getD previous) := hp.2.2
    rw [hq, Option.getD_some] at hf
    exact inserts_appendByParent hs (hs.isLive hp.1) hq hf hne previous
  · intro hnone
    have hf : child.Fits d.document ((d.document.parent e).getD previous) := hp.2.2
    rw [hnone, Option.getD_none] at hf
    rw [apply, appendByParent_of_no_parent hnone]
    exact inserts_append hs (hs.isLive hp.2.1) hf
  · rintro rfl
    rw [apply, edit, reparent_self hs.linked]

/-- Three children of one node, and a node that stands nowhere. -/
def family : List Edit :=
  [.createElement (.html "div") [], .append root (.node 1), .createElement (.html "p") [],
    .append 1 (.node 2), .createElement (.html "b") [], .append 1 (.node 3), .createElement (.html "i") [],
    .append 1 (.node 4), .createElement (.html "u") []]

theorem moves_exactly_family :
    Lawful {} family ∧
      (∃ before after, Inserts (run family).document
        ((run family).apply (.appendBefore 2 (.node 4))).document (.node 4) 1 before (2 :: after)) ∧
      ((run family).apply (.appendBefore 2 (.node 4))).document.children 1 = #[4, 2, 3] ∧
      (run family).apply (.appendBefore 5 (.node 4)) = run family ∧
      (∃ before, Inserts (run family).document
        ((run family).apply (.appendByParent 5 3 .text)).document .text 3 before []) ∧
      HandsOver (run family).document ((run family).apply (.reparent 1 5)).document 1 5 ∧
      (run family).apply (.reparent 1 1) = run family := by
  have h : Lawful {} family := by decide +kernel
  obtain ⟨-, hbefore, hnothing, hbyParent, hreparent⟩ := h.moves_exactly
  have hnone : (run family).document.parent 5 = none := by decide +kernel
  refine ⟨h, hbefore 2 (.node 4) (by decide +kernel) (by decide) 1 (by decide +kernel), by decide +kernel,
    hnothing 5 (.node 4) hnone, (hbyParent 5 3 .text (by decide +kernel)).2 hnone, ?_, ?_⟩
  · exact (hreparent 1 5 (by decide +kernel)).1 (by decide)
  · exact (hreparent 1 1 (by decide +kernel)).2 rfl

end Draft

end UsedCss.Html
