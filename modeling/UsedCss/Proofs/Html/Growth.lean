import UsedCss.Proofs.Html.Classes
/-!
# Documents that only grow

A document that only ever gets new elements, each put at the end of an element's children, has all its
elements below the root, so its classes are those of all elements that were put there.
-/

namespace UsedCss.Html

open Document

namespace Draft

variable {d : Draft} {names : List String} {p : NodeId} {e : Element}

/-- The draft with a new element at the end of a node's children. -/
def addElement (d : Draft) (p : NodeId) (e : Element) : Draft :=
  (d.createElement e.name e.attributes).1.append p (.node d.document.nodes.size)

/-- Someone holds every node, all are below the root, no error has counted, and these are the classes of
the elements. -/
structure Grown (d : Draft) (names : List String) : Prop where
  sound : Sound d.document
  errors : d.errors = []
  isHeld : ∀ n < d.document.nodes.size, d.document.isHeld n = true
  below : ∀ n < d.document.nodes.size, d.document.Below n root
  classes : ∀ t, (∃ n e, d.document.element? n = some e ∧ t ∈ e.classTokens) ↔ t ∈ names

theorem lt_of_element? {d : Document} {n : NodeId} (h : d.element? n = some e) : n < d.nodes.size := by
  by_contra hn
  rw [element?, data?, Array.getElem?_eq_none (Nat.le_of_not_lt hn)] at h
  cases h

/-- The class set of such a document. -/
theorem Grown.contains_iff (h : Grown d names) (t : String) :
    d.document.classes.contains t = true ↔ t ∈ names := by
  rw [mem_classes_iff h.sound, ← h.classes]
  refine exists_congr fun n => exists_congr fun e => and_iff_right_of_imp ?_
  rintro ⟨he, -⟩
  exact h.below n (lt_of_element? he)

section AddElement

variable (d p e)

theorem document_addElement : (d.addElement p e).document =
    (d.document.create (.element e) 1).1.append p d.document.nodes.size := rfl

@[simp] theorem size_addElement :
    (d.addElement p e).document.nodes.size = d.document.nodes.size + 1 := by
  rw [document_addElement, Document.size_append, size_create]

theorem element?_addElement (n : NodeId) : (d.addElement p e).document.element? n =
    if n = d.document.nodes.size then some e else d.document.element? n := by
  rw [element?, document_addElement, append_eq, data?_attach, data?_create]
  by_cases hn : n = d.document.nodes.size
  · rw [if_pos hn, if_pos hn]
  · rw [if_neg hn, if_neg hn, ← element?]

/-- The class of an element after an addition is one of the new element or of an old one. -/
theorem classes_addElement (t : String) :
    (∃ n x, (d.addElement p e).document.element? n = some x ∧ t ∈ x.classTokens) ↔
      (∃ n x, d.document.element? n = some x ∧ t ∈ x.classTokens) ∨ t ∈ e.classTokens := by
  simp only [element?_addElement]
  constructor
  · rintro ⟨n, x, hx, ht⟩
    split at hx
    · exact .inr (Option.some.inj hx ▸ ht)
    · exact .inl ⟨n, x, hx, ht⟩
  · rintro (⟨n, x, hx, ht⟩ | ht)
    · exact ⟨n, x, by rw [if_neg (Nat.ne_of_lt (lt_of_element? hx)), hx], ht⟩
    · exact ⟨_, e, if_pos rfl, ht⟩

end AddElement

/-- A new element can be put below any node that is held. -/
theorem ready_new (h : Sound d.document) (hp : d.document.isHeld p = true) (e : Element) :
    Ready (d.document.create (.element e) 1).1 d.document.nodes.size p where
  linked := h.linked.create _ 1
  accounted := ⟨[], List.nil_subset _, (h.create _ Nat.one_pos).accounted⟩
  isLive_child := by simp
  isLive_parent := by simp [h.isLive hp]
  not_above := h.linked.not_above_create _ 1 (lt_of_isLive (h.isLive hp))

/-- A document grows by an element. -/
theorem Grown.addElement (h : Grown d names) (hp : p < d.document.nodes.size) (e : Element) :
    Grown (d.addElement p e) (names ++ e.classTokens) := by
  have hready := ready_new h.sound (h.isHeld p hp) e
  have hmoves := hready.moves_append
  have hmem : ∀ {c q}, c ∈ (d.addElement p e).document.children q ↔
      c = d.document.nodes.size ∧ p = q ∨ c ≠ d.document.nodes.size ∧ c ∈ d.document.children q := by
    intro c q
    rw [document_addElement, hmoves.mem_children, children_create, List.mem_singleton, Option.some_inj]
  -- whoever was below the root is there still, as all old children are
  have hbelow : ∀ n < d.document.nodes.size, (d.addElement p e).document.Below n root := fun n hn =>
    Relation.ReflTransGen.mono (fun q c hc => hmem.2 (.inr
      ⟨Nat.ne_of_lt (lt_of_isLive (h.sound.linked.isLive_child hc)), hc⟩)) _ _ (h.below n hn)
  refine ⟨hready.sound hmoves, h.errors, fun n hn => ?_, fun n hn => ?_, fun t => ?_⟩
  · rw [document_addElement, hmoves.isHeld, isHeld_create]
    rcases Nat.lt_succ_iff_lt_or_eq.1 (size_addElement d p e ▸ hn) with hn | rfl
    · simp [h.isHeld n hn]
    · simp
  · rcases Nat.lt_succ_iff_lt_or_eq.1 (size_addElement d p e ▸ hn) with hn | rfl
    · exact hbelow n hn
    · exact (hbelow p hp).tail (hmem.2 (.inl ⟨rfl, rfl⟩))
  · rw [classes_addElement, h.classes, List.mem_append]

end Draft

end UsedCss.Html
