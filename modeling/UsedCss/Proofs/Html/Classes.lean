import UsedCss.Collect
import UsedCss.Proofs.ClassSet
import UsedCss.Proofs.Html.Run
import UsedCss.Proofs.Html.Walk
import UsedCss.Proofs.Text.Words
/-!
# The classes of a document

A document's classes are the words in the class attributes of the elements that its root leads to. Which
elements these are is a question of the child lists at the end: a node that has been taken out of its
parent's children and never put anywhere again is not among them.
-/

namespace UsedCss.Html

open UsedCss.Text Document

/-! ## Classes of one element -/

/-- The words in an element's first class attribute. -/
theorem Element.mem_classTokens_iff {e : Element} {t : String} :
    t ∈ e.classTokens ↔ ∃ pre a post, e.attributes = pre ++ a :: post ∧ a.name = "class" ∧
      (∀ b ∈ pre, b.name ≠ "class") ∧ IsWord a.value.toList t.toList := by
  have hword : ∀ value : String, t ∈ (words value.toList).map String.ofList ↔ IsWord value.toList t.toList := by
    intro value
    rw [← mem_words_iff, List.mem_map]
    constructor
    · rintro ⟨w, hw, rfl⟩
      rwa [String.toList_ofList]
    · exact fun ht => ⟨t.toList, ht, String.ofList_toList⟩
  rw [classTokens, valueOf]
  cases hfind : e.attributes.find? (·.name == "class") with
  | none =>
    refine iff_of_false List.not_mem_nil ?_
    rintro ⟨pre, a, post, he, ha, -⟩
    have hnone := List.find?_eq_none.1 hfind a (by simp [he])
    exact hnone (beq_iff_eq.2 ha)
  | some a =>
    obtain ⟨ha, pre, post, he, hpre⟩ := List.find?_eq_some_iff_append.1 hfind
    have hpre : ∀ b ∈ pre, b.name ≠ "class" := by simpa using hpre
    rw [Option.map_some, hword]
    refine ⟨fun ht => ⟨pre, a, post, he, beq_iff_eq.1 ha, hpre, ht⟩, ?_⟩
    rintro ⟨pre', a', post', he', ha', hpre', ht⟩
    have hfind' : e.attributes.find? (·.name == "class") = some a' :=
      List.find?_eq_some_iff_append.2 ⟨beq_iff_eq.2 ha', pre', post', he', by simpa using hpre'⟩
    rw [hfind] at hfind'
    rwa [Option.some.inj hfind']

/-- The classes of a document, element by element. -/
theorem Document.mem_classes_iff {d : Document} (h : Sound d) {t : String} :
    d.classes.contains t = true ↔
      ∃ n e, d.Below n root ∧ d.element? n = some e ∧ t ∈ e.classTokens := by
  have hroot : d.isLive root = true := h.isLive rfl
  rw [classes, ClassSet.contains_ofList, List.mem_flatMap]
  simp only [mem_elements_iff h.linked hroot]
  constructor
  · rintro ⟨e, ⟨n, hn, he⟩, ht⟩
    exact ⟨n, e, hn, he, ht⟩
  · rintro ⟨n, e, hn, he, ht⟩
    exact ⟨e, ⟨n, hn, he⟩, ht⟩

/-! ## Nodes that stand nowhere -/

/-- Whether a step puts a node somewhere. Before a sibling that has no parent it is not put. -/
def Edit.Places (d : Document) (n : NodeId) : Edit → Prop
  | .append _ child | .appendByParent _ _ child => child = .node n
  | .appendBefore s child => child = .node n ∧ (d.parent s).isSome = true
  | _ => False

instance (d : Document) (n : NodeId) : (edit : Edit) → Decidable (edit.Places d n)
  | .append _ child | .appendByParent _ _ child => inferInstanceAs (Decidable (child = .node n))
  | .appendBefore s child => inferInstanceAs (Decidable (child = .node n ∧ (d.parent s).isSome = true))
  | .createElement .. | .createComment | .detach _ | .reparent .. | .addAttributes .. | .report _
  | .retain _ | .release _ => inferInstanceAs (Decidable False)

/-- A node that is no child. -/
structure Document.Loose (d : Document) (n : NodeId) : Prop where
  inside : n < d.nodes.size
  not_mem : ∀ p, n ∉ d.children p

theorem Document.Loose.not_below_root {d : Document} {n : NodeId} (h : d.Loose n) (hn : n ≠ root) :
    ¬ d.Below n root := by
  intro hbelow
  rcases Relation.ReflTransGen.cases_tail hbelow with e | ⟨p, -, hp⟩
  · exact hn e
  · exact h.not_mem p hp

/-- A node that is put nowhere stays loose. -/
theorem Document.Loose.mono {d d' : Document} {n : NodeId} (h : d.Loose n)
    (hsize : d.nodes.size ≤ d'.nodes.size) (hsub : ∀ p, n ∈ d'.children p → n ∈ d.children p) : d'.Loose n :=
  ⟨Nat.lt_of_lt_of_le h.inside hsize, fun p hp => h.not_mem p (hsub p hp)⟩

theorem Document.Loose.of_moves {d d' : Document} {n : NodeId} {moved : List NodeId} {target : Option NodeId}
    (h : d.Loose n) (hm : Moves d d' moved target) (hn : n ∉ moved) : d'.Loose n :=
  h.mono (Nat.le_of_eq hm.size.symm) fun _ hp =>
    (hm.mem_children.1 hp).elim (fun hmoved => absurd hmoved.1 hn) fun hstays => hstays.2

/-- A node that has been taken out is loose. -/
theorem Document.Sound.loose_detach {d : Document} {n : NodeId} (h : Sound d) (hn : d.isLive n = true) :
    (d.detach n).Loose n where
  inside := by
    rw [size_detach]
    exact lt_of_isLive hn
  not_mem p := by
    rw [filter_children h.linked]
    simp

namespace Draft

variable {d d' : Draft} {n : NodeId} {child : Child} {edit : Edit} {edits : List Edit}

/-- Whether no step of a run puts a node somewhere. -/
def LeavesOut (d : Draft) (n : NodeId) : List Edit → Prop
  | [] => True
  | edit :: edits => ¬ edit.Places d.document n ∧ (d.apply edit).LeavesOut n edits

instance decidableLeavesOut : (d : Draft) → (n : NodeId) → (edits : List Edit) → Decidable (d.LeavesOut n edits)
  | _, _, [] => inferInstanceAs (Decidable True)
  | d, n, edit :: edits =>
    have := decidableLeavesOut (d.apply edit) n edits
    inferInstanceAs (Decidable (¬ edit.Places d.document n ∧ (d.apply edit).LeavesOut n edits))

theorem loose_nodeOf (h : d.document.Loose n) (child : Child) : (d.nodeOf child).1.document.Loose n := by
  cases child with
  | node c => exact h
  | text => exact h.mono (by simp [nodeOf]) (by simp [nodeOf])

theorem Puts.loose (hputs : Puts d d' child) (h : d.document.Loose n) (hc : child ≠ .node n) :
    d'.document.Loose n := by
  obtain ⟨p, -, hmoves⟩ := hputs
  refine (loose_nodeOf h child).of_moves hmoves ?_
  rw [List.mem_singleton]
  cases child with
  | node c => exact fun e => hc (congrArg Child.node e.symm)
  | text => exact Nat.ne_of_lt h.inside

theorem loose_of_puts (hputs : d' = d ∨ Puts d d' child) (h : d.document.Loose n) (hc : child ≠ .node n) :
    d'.document.Loose n := by
  rcases hputs with rfl | hputs
  · exact h
  · exact hputs.loose h hc

/-- No step puts a node somewhere but one that names it as the child. -/
theorem loose_apply (hs : Sound d.document) (hp : edit.Permitted d.document)
    (hn : ¬ edit.Places d.document n) (h : d.document.Loose n) : (d.apply edit).document.Loose n := by
  cases edit with
  | createElement name attributes =>
    exact h.mono (by simp [apply, createElement]) (by simp [apply, createElement])
  | createComment => exact h.mono (by simp [apply, createComment]) (by simp [apply, createComment])
  | append p child => exact (puts_append hs (hs.isLive hp.1) hp.2).loose h hn
  | appendBefore s child =>
    by_cases hc : child = .node n
    · have hnone : d.document.parent s = none := by simpa [Edit.Places, hc] using hn
      rw [apply, appendBefore_of_no_parent hnone]
      exact h
    · exact loose_of_puts (puts_appendBefore hs hp.2) h hc
  | appendByParent e previous child =>
    exact loose_of_puts (puts_appendByParent hs (hs.isLive hp.2.1) hp.2.2) h hn
  | detach m =>
    refine h.mono (Nat.le_of_eq (size_detach ..).symm) fun p hmem => ?_
    rw [apply, edit, filter_children hs.linked, Array.mem_filter] at hmem
    exact hmem.1
  | reparent m t =>
    refine h.of_moves (moves_reparent hs.linked (hs.isLive hp.1) (hs.isLive hp.2.1)) ?_
    simpa using h.not_mem m
  | addAttributes m attributes => exact h.mono (by simp [apply, edit]) (by simp [apply, edit])
  | report e =>
    rw [apply, document_report]
    exact h
  | retain m => exact h.mono (by simp [apply, edit, retain_eq]) (by simp [apply, edit, retain_eq])
  | release m =>
    have hpruned := (release_settles hs.linked hs.accounted (Edit.isLive_of_release hp)).pruned
    refine h.mono (Nat.le_of_eq (hpruned.size_eq.trans (size_onHandles ..)).symm) fun p hmem => ?_
    rw [← children_onHandles d.document m (· - 1) p]
    exact hpruned.mem_children hmem

theorem Lawful.loose (h : d.Lawful edits) (hs : Sound d.document) (hn : d.LeavesOut n edits)
    (hl : d.document.Loose n) : (edits.foldl apply d).document.Loose n := by
  induction edits generalizing d with
  | nil => exact hl
  | cons edit edits ih => exact ih h.2 (sound_apply hs h.1) hn.2 (loose_apply hs h.1 hn.1 hl)

/-- The classes after a run of edits are the words in the first class attributes of the elements that the
root leads to. What has been taken out and not been put anywhere again is not among these. -/
theorem Lawful.contains_classes_iff (h : Lawful {} edits) :
    let d := (run edits).document
    (∀ t : String, d.classes.contains t = true ↔
      ∃ n e pre a post, d.Below n root ∧ d.element? n = some e ∧ e.attributes = pre ++ a :: post ∧
        a.name = "class" ∧ (∀ b ∈ pre, b.name ≠ "class") ∧ IsWord a.value.toList t.toList) ∧
      ∀ before n after, edits = before ++ .detach n :: after → n ≠ root →
        (run (before ++ [.detach n])).LeavesOut n after → ¬ d.Below n root := by
  intro d
  refine ⟨fun t => ?_, ?_⟩
  · rw [Document.mem_classes_iff h.sound_run]
    refine exists_congr fun n => exists_congr fun e => ?_
    rw [Element.mem_classTokens_iff]
    constructor
    · rintro ⟨hn, he, pre, a, post, hattribute⟩
      exact ⟨pre, a, post, hn, he, hattribute⟩
    · rintro ⟨pre, a, post, hn, he, hattribute⟩
      exact ⟨hn, he, pre, a, post, hattribute⟩
  · rintro before n after rfl hroot hout
    obtain ⟨hbefore, hdetach, hafter⟩ := lawful_append.1 h
    have hs : Sound (run before).document := Lawful.sound_run hbefore
    have hcut : run (before ++ [.detach n]) = (run before).apply (.detach n) := List.foldl_append ..
    have hrun : d = (after.foldl apply ((run before).apply (.detach n))).document := by
      rw [show d = (run (before ++ .detach n :: after)).document from rfl, run, List.foldl_append]
      rfl
    rw [hcut] at hout
    rw [hrun]
    have hloose : ((run before).apply (.detach n)).document.Loose n := hs.loose_detach (hs.isLive hdetach)
    exact (hafter.loose (sound_apply hs hdetach) hout hloose).not_below_root hroot

/-- An element with two class attributes, and one that is put below it and taken out again. -/
def cutting : List Edit :=
  [.createElement (.html "div") [⟨"id", "k"⟩, ⟨"class", "a \tb"⟩, ⟨"class", "c"⟩], .append root (.node 1),
    .createElement (.html "p") [⟨"class", "d"⟩], .append 1 (.node 2)] ++ .detach 2 :: [.append 1 .text]

theorem contains_classes_cutting :
    Lawful {} cutting ∧ (run cutting).document.classes.contains "b" = true ∧
      ¬ (run cutting).document.Below 2 root := by
  have h : Lawful {} cutting := by decide +kernel
  obtain ⟨hclasses, hout⟩ := h.contains_classes_iff
  refine ⟨h, (hclasses "b").2 ?_, hout _ 2 _ rfl (by decide) (by decide +kernel)⟩
  have hbelow : (run cutting).document.Below 1 root :=
    below_iff.2 (.inr ⟨1, by decide +kernel, .refl⟩)
  have hword : IsWord "a \tb".toList "b".toList := mem_words_iff.1 (by decide +kernel)
  exact ⟨1, _, [⟨"id", "k"⟩], ⟨"class", "a \tb"⟩, [⟨"class", "c"⟩], hbelow, rfl, rfl, rfl, by decide, hword⟩

end Draft

end UsedCss.Html
