import UsedCss.Html.Draft
/-!
# What the edits of a document change

Every question about a document (is a node live or held, what are its children, where does its parent
link lead) after an edit is answered by the same questions before it. All moves are made of two small
changes, that of a parent link (`link`) and that of a child list (`onChildren`).
-/

namespace UsedCss.Html.Document

variable {d : Document} {n m p q c s : NodeId} {f : Node → Node}

/-! ## Changes to one node -/

theorem getElem?_update (d : Document) (n m : NodeId) (f : Node → Node) :
    (d.update n f).nodes[m]? = if n = m then d.nodes[m]?.map f else d.nodes[m]? :=
  Array.getElem?_modify

@[simp] theorem size_update (d : Document) (n : NodeId) (f : Node → Node) :
    (d.update n f).nodes.size = d.nodes.size :=
  Array.size_modify

theorem update_eq_self (h : ∀ x ∈ d.nodes[n]?, f x = x) : d.update n f = d := by
  refine congrArg Document.mk (Array.ext_getElem? fun m => ?_)
  rw [Array.getElem?_modify]
  split
  · next e =>
    subst e
    cases hx : d.nodes[n]? with
    | none => rfl
    | some x => exact congrArg some (h x hx)
  · rfl

theorem update_update (d : Document) (n : NodeId) (f g : Node → Node) :
    (d.update n f).update n g = d.update n (g ∘ f) := by
  refine congrArg Document.mk (Array.ext_getElem? fun m => ?_)
  rw [Array.getElem?_modify, getElem?_update, Array.getElem?_modify]
  split
  · rw [Option.map_map]
  · rfl

/-- What an update keeps of every node is as it was. -/
theorem map_update {α : Type} {g : Node → α} (h : ∀ x, g (f x) = g x) (d : Document) (n m : NodeId) :
    (d.update n f).nodes[m]?.map g = d.nodes[m]?.map g := by
  rw [getElem?_update]
  split
  · simp [Function.comp_def, h]
  · rfl

/-- What an update does to a part of the nodes. -/
theorem map_update_of {α : Type} {g : Node → α} {k : α → α} (h : ∀ x, g (f x) = k (g x))
    (d : Document) (n m : NodeId) :
    (d.update n f).nodes[m]?.map g =
      if m = n then (d.nodes[n]?.map g).map k else d.nodes[m]?.map g := by
  rw [getElem?_update]
  by_cases e : n = m
  · subst e
    simp [Function.comp_def, h]
  · rw [if_neg e, if_neg fun h => e h.symm]

theorem parentLink_eq (d : Document) (n : NodeId) :
    d.parentLink n = (d.nodes[n]?.map Node.parent).join := by
  rw [parentLink]
  cases d.nodes[n]? <;> rfl

theorem isLive_eq_true_iff : d.isLive n = true ↔ ∃ x, d.nodes[n]? = some x ∧ x.live = true := by
  rw [isLive]
  cases d.nodes[n]? <;> simp

theorem lt_of_isLive (h : d.isLive n = true) : n < d.nodes.size := by
  obtain ⟨x, hx, -⟩ := isLive_eq_true_iff.1 h
  exact (Array.getElem?_eq_some_iff.1 hx).1

theorem parent_eq_some_iff :
    d.parent n = some p ↔ d.parentLink n = some p ∧ d.isLive p = true := by
  rw [parent, Option.filter_eq_some_iff]

/-- A node outside of the store has neither children nor a parent. -/
theorem children_of_size_le (h : d.nodes.size ≤ n) : d.children n = #[] := by
  rw [children, Array.getElem?_eq_none h]
  rfl

theorem parentLink_of_size_le (h : d.nodes.size ≤ n) : d.parentLink n = none := by
  rw [parentLink, Array.getElem?_eq_none h]
  rfl

/-- Another parent link for a node. -/
def link (d : Document) (n : NodeId) (t : Option NodeId) : Document :=
  d.update n fun x => { x with parent := t }

/-- Another child list for a node. -/
def onChildren (d : Document) (n : NodeId) (g : Array NodeId → Array NodeId) : Document :=
  d.update n fun x => { x with children := g x.children }

section Link

variable (d : Document) (n : NodeId) (t : Option NodeId) (m : NodeId)

@[simp] theorem size_link : (d.link n t).nodes.size = d.nodes.size := size_update ..

@[simp] theorem isLive_link : (d.link n t).isLive m = d.isLive m := by
  rw [isLive, link, map_update]
  · rfl
  · exact fun _ => rfl

@[simp] theorem isHeld_link : (d.link n t).isHeld m = d.isHeld m := by
  rw [isHeld, link, map_update]
  · rfl
  · exact fun _ => rfl

@[simp] theorem children_link : (d.link n t).children m = d.children m := by
  rw [children, link, map_update]
  · rfl
  · exact fun _ => rfl

@[simp] theorem data?_link : (d.link n t).data? m = d.data? m := by
  rw [data?, link, map_update]
  · rfl
  · exact fun _ => rfl

theorem parentLink_link (hn : n < d.nodes.size) :
    (d.link n t).parentLink m = if m = n then t else d.parentLink m := by
  rw [parentLink_eq, link, map_update_of (k := fun _ => t) fun _ => rfl]
  split
  · rw [Array.getElem?_eq_getElem hn]
    rfl
  · exact (parentLink_eq ..).symm

theorem parentLink_unlink : (d.link n none).parentLink m = if m = n then none else d.parentLink m := by
  by_cases hn : n < d.nodes.size
  · exact parentLink_link d n none m hn
  · split
    · next h =>
      rw [h]
      exact parentLink_of_size_le (by simpa using hn)
    · next h =>
      rw [parentLink, link, getElem?_update, if_neg fun e => h e.symm]
      rfl

end Link

theorem link_eq_self {t : NodeId} (h : d.parentLink c = some t) : d.link c (some t) = d :=
  update_eq_self fun x hx => by
    rw [parentLink, Option.mem_def.1 hx, Option.bind_some] at h
    rw [← h]

section OnChildren

variable (d : Document) (n : NodeId) (g : Array NodeId → Array NodeId) (m : NodeId)

@[simp] theorem size_onChildren : (d.onChildren n g).nodes.size = d.nodes.size := size_update ..

@[simp] theorem isLive_onChildren : (d.onChildren n g).isLive m = d.isLive m := by
  rw [isLive, onChildren, map_update]
  · rfl
  · exact fun _ => rfl

@[simp] theorem isHeld_onChildren : (d.onChildren n g).isHeld m = d.isHeld m := by
  rw [isHeld, onChildren, map_update]
  · rfl
  · exact fun _ => rfl

@[simp] theorem data?_onChildren : (d.onChildren n g).data? m = d.data? m := by
  rw [data?, onChildren, map_update]
  · rfl
  · exact fun _ => rfl

@[simp] theorem parentLink_onChildren : (d.onChildren n g).parentLink m = d.parentLink m := by
  rw [parentLink_eq, onChildren, map_update, ← parentLink_eq]
  exact fun _ => rfl

theorem children_onChildren (hn : n < d.nodes.size) :
    (d.onChildren n g).children m = if m = n then g (d.children n) else d.children m := by
  rw [children, onChildren, map_update_of (k := g) fun _ => rfl]
  split
  · rw [children, Array.getElem?_eq_getElem hn]
    rfl
  · rfl

end OnChildren

/-! ## New nodes -/

section Create

variable (d : Document) (data : NodeData) (handles : Nat) (m : NodeId)

/-- A new node stands behind the others. -/
theorem create_snd : (d.create data handles).2 = d.nodes.size := rfl

@[simp] theorem size_create : (d.create data handles).1.nodes.size = d.nodes.size + 1 :=
  Array.size_push ..

theorem getElem?_create : (d.create data handles).1.nodes[m]? =
    if m = d.nodes.size then some { data, handles } else d.nodes[m]? :=
  Array.getElem?_push

@[simp] theorem children_create : (d.create data handles).1.children m = d.children m := by
  rw [children, getElem?_create]
  split
  · next h => exact (children_of_size_le (Nat.le_of_eq h.symm)).symm
  · rfl

@[simp] theorem parentLink_create : (d.create data handles).1.parentLink m = d.parentLink m := by
  rw [parentLink, getElem?_create]
  split
  · next h => exact (parentLink_of_size_le (Nat.le_of_eq h.symm)).symm
  · rfl

@[simp] theorem isLive_create :
    (d.create data handles).1.isLive m = (m == d.nodes.size || d.isLive m) := by
  rw [isLive, getElem?_create]
  split
  · next h => subst h; simp
  · next h => simp [h, isLive]

theorem isHeld_create :
    (d.create data handles).1.isHeld m = (d.isHeld m || (m == d.nodes.size && decide (0 < handles))) := by
  rw [isHeld, getElem?_create]
  split
  · next h => subst h; simp [isHeld]
  · next h => simp [h, isHeld]

theorem data?_create :
    (d.create data handles).1.data? m = if m = d.nodes.size then some data else d.data? m := by
  rw [data?, getElem?_create]
  split <;> rfl

end Create

/-! ## Moves of one node -/

theorem detach_eq (d : Document) (n : NodeId) :
    d.detach n = match d.parent n with
      | none => d.link n none
      | some p => (d.link n none).onChildren p fun cs => cs.filter (· != n) := rfl

section Detach

variable (d : Document) (n m : NodeId)

@[simp] theorem size_detach : (d.detach n).nodes.size = d.nodes.size := by
  rw [detach_eq]
  split <;> simp

@[simp] theorem isLive_detach : (d.detach n).isLive m = d.isLive m := by
  rw [detach_eq]
  split <;> simp

@[simp] theorem isHeld_detach : (d.detach n).isHeld m = d.isHeld m := by
  rw [detach_eq]
  split <;> simp

@[simp] theorem data?_detach : (d.detach n).data? m = d.data? m := by
  rw [detach_eq]
  split <;> simp

theorem parentLink_detach : (d.detach n).parentLink m = if m = n then none else d.parentLink m := by
  rw [detach_eq]
  split
  · exact parentLink_unlink ..
  · rw [parentLink_onChildren, parentLink_unlink]

theorem children_detach : (d.detach n).children m =
    if d.parent n = some m then (d.children m).filter (· != n) else d.children m := by
  rw [detach_eq]
  split
  · next h => rw [h, if_neg nofun, children_link]
  · next p h =>
    have hp : p < d.nodes.size := lt_of_isLive (parent_eq_some_iff.1 h).2
    rw [children_onChildren _ _ _ _ (by simpa using hp), children_link, children_link, h]
    by_cases e : m = p
    · rw [if_pos e, if_pos (by rw [e]), e]
    · rw [if_neg e, if_neg fun h => e (Option.some.inj h).symm]

end Detach

/-- A node put among the children of another one, wherever `place` puts it. -/
def attach (d : Document) (p c : NodeId) (place : Array NodeId → Array NodeId) : Document :=
  ((d.detach c).link c (some p)).onChildren p place

theorem append_eq (d : Document) (p c : NodeId) : d.append p c = d.attach p c (·.push c) := rfl

theorem placeBefore_eq (d : Document) (q s c : NodeId) :
    d.placeBefore q s c =
      d.attach q c fun cs => cs.insertIdxIfInBounds ((cs.idxOf? s).getD cs.size) c := rfl

section Attach

variable (d : Document) (p c : NodeId) (place : Array NodeId → Array NodeId) (m : NodeId)

@[simp] theorem size_attach : (d.attach p c place).nodes.size = d.nodes.size := by
  simp [attach]

@[simp] theorem isLive_attach : (d.attach p c place).isLive m = d.isLive m := by
  simp [attach]

@[simp] theorem isHeld_attach : (d.attach p c place).isHeld m = d.isHeld m := by
  simp [attach]

@[simp] theorem data?_attach : (d.attach p c place).data? m = d.data? m := by
  simp [attach]

theorem parentLink_attach (hc : c < d.nodes.size) :
    (d.attach p c place).parentLink m = if m = c then some p else d.parentLink m := by
  rw [attach, parentLink_onChildren, parentLink_link _ _ _ _ (by simpa using hc), parentLink_detach]
  by_cases e : m = c <;> simp [e]

theorem children_attach (hp : p < d.nodes.size) :
    (d.attach p c place).children m =
      if m = p then place ((d.detach c).children p) else (d.detach c).children m := by
  rw [attach, children_onChildren _ _ _ _ (by simpa using hp), children_link, children_link]

end Attach

@[simp] theorem size_append (d : Document) (p c : NodeId) : (d.append p c).nodes.size = d.nodes.size := by
  rw [append_eq, size_attach]

@[simp] theorem size_insertBefore (d : Document) (s c : NodeId) :
    (d.insertBefore s c).nodes.size = d.nodes.size := by
  rw [insertBefore]
  split
  · rfl
  · rw [placeBefore_eq, size_attach]

/-! ## Moves of all children -/

/-- The same parent link for all nodes of a list. -/
def linkAll (d : Document) (cs : List NodeId) (t : NodeId) : Document :=
  cs.foldl (fun d c => d.link c (some t)) d

theorem reparent_eq (d : Document) (n t : NodeId) :
    d.reparent n t = ((d.onChildren n fun _ => #[]).linkAll (d.children n).toList t).onChildren t
      (· ++ d.children n) := by
  rw [reparent, linkAll, Array.foldl_toList]
  rfl

section LinkAll

variable (d : Document) (cs : List NodeId) (t m : NodeId)

/-- What no parent link tells is as it was. -/
theorem linkAll_of {α : Type} {g : Document → α} (h : ∀ d c, g (link d c (some t)) = g d) :
    g (d.linkAll cs t) = g d := by
  induction cs generalizing d with
  | nil => rfl
  | cons c cs ih => exact (ih _).trans (h d c)

@[simp] theorem size_linkAll : (d.linkAll cs t).nodes.size = d.nodes.size :=
  linkAll_of d cs t (g := fun d => d.nodes.size) fun _ _ => size_link ..

@[simp] theorem isLive_linkAll : (d.linkAll cs t).isLive m = d.isLive m :=
  linkAll_of d cs t (g := (isLive · m)) fun _ _ => isLive_link ..

@[simp] theorem isHeld_linkAll : (d.linkAll cs t).isHeld m = d.isHeld m :=
  linkAll_of d cs t (g := (isHeld · m)) fun _ _ => isHeld_link ..

@[simp] theorem children_linkAll : (d.linkAll cs t).children m = d.children m :=
  linkAll_of d cs t (g := (children · m)) fun _ _ => children_link ..

@[simp] theorem data?_linkAll : (d.linkAll cs t).data? m = d.data? m :=
  linkAll_of d cs t (g := (data? · m)) fun _ _ => data?_link ..

theorem parentLink_linkAll (h : ∀ c ∈ cs, c < d.nodes.size) :
    (d.linkAll cs t).parentLink m = if m ∈ cs then some t else d.parentLink m := by
  induction cs generalizing d with
  | nil => rfl
  | cons c cs ih =>
    obtain ⟨hc, hcs⟩ := List.forall_mem_cons.1 h
    have hnext : (d.linkAll (c :: cs) t).parentLink m = ((d.link c (some t)).linkAll cs t).parentLink m := rfl
    rw [hnext, ih _ (by simpa using hcs), parentLink_link _ _ _ _ hc]
    by_cases e : m = c <;> simp [e]

end LinkAll

theorem linkAll_eq_self {cs : List NodeId} {t : NodeId} (h : ∀ c ∈ cs, d.parentLink c = some t) :
    d.linkAll cs t = d := by
  induction cs with
  | nil => rfl
  | cons c cs ih =>
    obtain ⟨hc, hcs⟩ := List.forall_mem_cons.1 h
    rw [linkAll, List.foldl_cons, link_eq_self hc]
    exact ih hcs

section Reparent

variable (d : Document) (n t m : NodeId)

@[simp] theorem size_reparent : (d.reparent n t).nodes.size = d.nodes.size := by
  simp [reparent_eq]

@[simp] theorem isLive_reparent : (d.reparent n t).isLive m = d.isLive m := by
  simp [reparent_eq]

@[simp] theorem isHeld_reparent : (d.reparent n t).isHeld m = d.isHeld m := by
  simp [reparent_eq]

@[simp] theorem data?_reparent : (d.reparent n t).data? m = d.data? m := by
  simp [reparent_eq]

theorem parentLink_reparent (h : ∀ c ∈ d.children n, c < d.nodes.size) :
    (d.reparent n t).parentLink m = if m ∈ d.children n then some t else d.parentLink m := by
  rw [reparent_eq, parentLink_onChildren, parentLink_linkAll _ _ _ _ (by simpa using h),
    parentLink_onChildren]
  simp

theorem children_reparent (hn : n < d.nodes.size) (ht : t < d.nodes.size) :
    (d.reparent n t).children m =
      (if m = n then #[] else d.children m) ++ (if m = t then d.children n else #[]) := by
  rw [reparent_eq, children_onChildren _ _ _ _ (by simpa using ht), children_linkAll, children_linkAll,
    children_onChildren _ _ _ _ hn, children_onChildren _ _ _ _ hn]
  by_cases e : m = t
  · simp [e]
  · simp [e]

end Reparent

/-! ## New attributes -/

section AddAttributes

variable (d : Document) (n : NodeId) (attributes : List Attribute) (m : NodeId)

theorem map_addAttributes {α : Type} {g : Node → α} (h : ∀ x data, g { x with data } = g x) :
    (d.addAttributes n attributes).nodes[m]?.map g = d.nodes[m]?.map g := by
  refine map_update (fun x => ?_) d n m
  split
  · exact h x _
  · rfl

@[simp] theorem size_addAttributes : (d.addAttributes n attributes).nodes.size = d.nodes.size :=
  size_update ..

@[simp] theorem isLive_addAttributes : (d.addAttributes n attributes).isLive m = d.isLive m := by
  rw [isLive, isLive, map_addAttributes _ _ _ _ fun _ _ => rfl]

@[simp] theorem isHeld_addAttributes : (d.addAttributes n attributes).isHeld m = d.isHeld m := by
  rw [isHeld, isHeld, map_addAttributes _ _ _ _ fun _ _ => rfl]

@[simp] theorem children_addAttributes : (d.addAttributes n attributes).children m = d.children m := by
  rw [children, children, map_addAttributes _ _ _ _ fun _ _ => rfl]

@[simp] theorem parentLink_addAttributes :
    (d.addAttributes n attributes).parentLink m = d.parentLink m := by
  rw [parentLink_eq, parentLink_eq, map_addAttributes _ _ _ _ fun _ _ => rfl]

end AddAttributes

/-! ## Handles -/

/-- Another number of handles for a node. -/
def onHandles (d : Document) (n : NodeId) (g : Nat → Nat) : Document :=
  d.update n fun x => { x with handles := g x.handles }

theorem retain_eq (d : Document) (n : NodeId) : d.retain n = d.onHandles n (· + 1) := rfl

section OnHandles

variable (d : Document) (n : NodeId) (g : Nat → Nat) (m : NodeId)

@[simp] theorem size_onHandles : (d.onHandles n g).nodes.size = d.nodes.size := size_update ..

@[simp] theorem isLive_onHandles : (d.onHandles n g).isLive m = d.isLive m := by
  rw [isLive, onHandles, map_update]
  · rfl
  · exact fun _ => rfl

@[simp] theorem children_onHandles : (d.onHandles n g).children m = d.children m := by
  rw [children, onHandles, map_update]
  · rfl
  · exact fun _ => rfl

@[simp] theorem parentLink_onHandles : (d.onHandles n g).parentLink m = d.parentLink m := by
  rw [parentLink_eq, onHandles, map_update, ← parentLink_eq]
  exact fun _ => rfl

theorem isHeld_onHandles (hm : m ≠ n) : (d.onHandles n g).isHeld m = d.isHeld m := by
  rw [isHeld, onHandles, getElem?_update, if_neg hm.symm]
  rfl

end OnHandles

end UsedCss.Html.Document
