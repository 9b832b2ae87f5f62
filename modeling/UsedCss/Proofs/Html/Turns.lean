import Mathlib.Logic.Function.Iterate
import UsedCss.Proofs.Html.Run
import UsedCss.Proofs.Html.Walk
/-!
# The walk turn by turn

The walk keeps a stack of the nodes that it has yet to come to. A turn takes the node on top, visits it if
it is an element, and puts its children on the stack, the last one first. What has been visited and what the
stack leads to make up the same preorder at every turn (`Preorder.turn`, `Preorder.turns`), so the walk is
over after one turn for each node and has visited the elements in that order.
-/

namespace UsedCss.Html

namespace Document

variable {d : Document} {n m : NodeId} {ns ns' l l' : List NodeId}

/-! ## More on preorders -/

namespace Preorder

theorem append (h : Preorder d ns l) (h' : Preorder d ns' l') : Preorder d (ns ++ ns') (l ++ l') := by
  induction h with
  | nil => exact h'
  | cons hbelow _ _ ih =>
    rw [List.cons_append, List.cons_append, List.append_assoc]
    exact .cons hbelow ih

/-- Only one list is the preorder of given nodes. -/
theorem unique (h : Preorder d ns l) (h' : Preorder d ns l') : l = l' := by
  induction h generalizing l' with
  | nil =>
    cases h'
    rfl
  | cons _ _ ih ih' =>
    cases h' with
    | cons hbelow hafter => rw [ih hbelow, ih' hafter]

theorem eq_nil_iff (h : Preorder d ns l) : ns = [] ↔ l = [] := by
  cases h with
  | nil => simp
  | cons => simp

end Preorder

/-- What is visited from live nodes is what is visited from each of them. -/
theorem Preorder.flatMap_elements (h : Preorder d ns l) (hd : Linked d) (hns : ∀ n ∈ ns, d.isLive n = true) :
    l.filterMap d.element? = ns.flatMap d.elements := by
  induction h with
  | nil => rfl
  | @cons n ns below after hbelow _ _ ih =>
    obtain ⟨hn, hns⟩ := List.forall_mem_cons.1 hns
    obtain ⟨l, hl, -, hwalk⟩ := exists_elements_eq hd hn
    have hsame : n :: below = l := hl.unique (.cons hbelow .nil) ▸ by rw [List.append_nil]
    rw [List.flatMap_cons, ← ih hns, hwalk, ← hsame, ← List.filterMap_append]
    rfl

/-- The recursive definition: a node itself if it is an element, and then what is visited from each of its
children. -/
theorem elements_eq (h : Linked d) (hn : d.isLive n = true) :
    d.elements n = (d.element? n).toList ++ (d.children n).toList.flatMap d.elements := by
  obtain ⟨l, hl, -, hwalk⟩ := exists_elements_eq h hn
  cases hl with
  | cons hbelow hafter =>
    cases hafter
    have hlive : ∀ c ∈ (d.children n).toList, d.isLive c = true := fun c hc =>
      h.isLive_child (Array.mem_toList_iff.1 hc)
    rw [hwalk, ← hbelow.flatMap_elements h hlive, List.append_nil, List.filterMap_cons]
    cases d.element? n <;> rfl

/-! ## Turns -/

/-- A walk on its way: the elements visited so far in order, and the nodes that it has yet to come to, the
next one on top. -/
structure Walk where
  visited : List Element
  stack : Array NodeId
deriving DecidableEq

/-- A walk that starts at a node. -/
def Walk.start (n : NodeId) : Walk := ⟨[], #[n]⟩

/-- One turn, unless the stack is empty. -/
def turn (d : Document) (w : Walk) : Walk :=
  match w.stack.back? with
  | none => w
  | some n => ⟨w.visited ++ (d.element? n).toList, w.stack.pop ++ (d.children n).reverse⟩

/-- The nodes that the stack holds, the next one first. -/
def Walk.pending (w : Walk) : List NodeId := w.stack.toList.reverse

variable {w : Walk}

theorem Walk.pending_eq_nil_iff : w.pending = [] ↔ w.stack = #[] := by simp [pending]

theorem turn_of_pending (h : w.pending = n :: ns) :
    (d.turn w).visited = w.visited ++ (d.element? n).toList ∧
      (d.turn w).pending = (d.children n).toList ++ ns := by
  have hstack : w.stack = ns.reverse.toArray.push n := by
    have hlist : w.stack.toList = (n :: ns).reverse := by rw [← h, Walk.pending, List.reverse_reverse]
    rw [← w.stack.toArray_toList, hlist]
    simp
  rw [turn, hstack, Array.back?_push]
  simp [Walk.pending]

/-- A turn comes to the first node of the preorder that the stack leads to, and leaves the rest. -/
theorem Preorder.turn (h : Preorder d w.pending (n :: l)) :
    (d.turn w).visited = w.visited ++ (d.element? n).toList ∧ Preorder d (d.turn w).pending l := by
  generalize hw : w.pending = ns at h
  cases h with
  | cons hbelow hafter =>
    obtain ⟨hvisited, hpending⟩ := turn_of_pending hw
    refine ⟨hvisited, ?_⟩
    rw [hpending]
    exact hbelow.append hafter

/-- So any number of turns come to as many nodes of the preorder. -/
theorem Preorder.turns (h : Preorder d w.pending l) (k : Nat) :
    (d.turn^[k] w).visited = w.visited ++ (l.take k).filterMap d.element? ∧
      Preorder d (d.turn^[k] w).pending (l.drop k) := by
  induction k generalizing w l with
  | zero => simpa using h
  | succ k ih =>
    rw [Function.iterate_succ_apply]
    cases l with
    | nil =>
      have hempty : w.stack = #[] := Walk.pending_eq_nil_iff.1 (h.eq_nil_iff.2 rfl)
      have hturn : d.turn w = w := by rw [Document.turn, hempty]; rfl
      rw [hturn]
      simpa using ih h
    | cons n l =>
      obtain ⟨hvisited, hrest⟩ := h.turn
      obtain ⟨ih, ih'⟩ := ih hrest
      refine ⟨?_, ih'⟩
      rw [ih, hvisited, List.take_succ_cons, List.filterMap_cons, List.append_assoc]
      cases d.element? n <;> rfl

end Document

open Document

namespace Draft

variable {n : NodeId} {edits : List Edit}

/-- After any run and from any live node, the walk comes to all nodes below and to each of them once, in
preorder and one at a turn. So it is over when it has come to all of them, and what it has visited are the
elements among them. These follow the recursive definition: an element itself, and then what there is to
visit from each of the children. -/
theorem Lawful.walks_in_preorder (h : Lawful {} edits) (hn : (run edits).document.isLive n = true) :
    let d := (run edits).document
    (∃ l, Preorder d [n] l ∧ l.Nodup ∧ (∀ m, m ∈ l ↔ d.Below m n) ∧
      (∀ k, (d.turn^[k] (.start n)).visited = (l.take k).filterMap d.element?) ∧
      (∀ k, (d.turn^[k] (.start n)).stack = #[] ↔ l.length ≤ k) ∧
      d.elements n = l.filterMap d.element?) ∧
      d.elements n = (d.element? n).toList ++ (d.children n).toList.flatMap d.elements := by
  intro d
  have hd : Linked d := h.sound_run.linked
  obtain ⟨l, hl, hnodup, hwalk⟩ := exists_elements_eq hd hn
  have hturns : ∀ k, (d.turn^[k] (.start n)).visited = (l.take k).filterMap d.element? ∧
      Preorder d (d.turn^[k] (.start n)).pending (l.drop k) := fun k => by
    simpa [Walk.start] using Preorder.turns (w := .start n) hl k
  refine ⟨⟨l, hl, hnodup, fun m => ?_, fun k => (hturns k).1, fun k => ?_, hwalk⟩, elements_eq hd hn⟩
  · simp [hl.mem_iff]
  · rw [← Walk.pending_eq_nil_iff, (hturns k).2.eq_nil_iff, List.drop_eq_nil_iff]

/-- An element with a comment and a text among its children, and elements below the first of them. -/
def nest : List Edit :=
  [.createElement (.html "body") [], .append root (.node 1), .createElement (.html "div") [],
    .append 1 (.node 2), .createComment, .append 1 (.node 3), .createElement (.html "footer") [],
    .append 1 (.node 4), .append 2 .text, .createElement (.html "h1") [], .append 2 (.node 6),
    .createElement (.html "p") [], .appendBefore 6 (.node 7)]

theorem walks_in_preorder_nest :
    let d := (run nest).document
    Lawful {} nest ∧ d.isLive 1 = true ∧ (d.turn^[6] (.start 1)).stack ≠ #[] ∧
      (d.turn^[7] (.start 1)).stack = #[] ∧ (d.turn^[7] (.start 1)).visited = d.elements 1 ∧
      (d.elements 1).map Element.name = ["body", "div", "p", "h1", "footer"].map QName.html := by
  intro d
  have h : Lawful {} nest := by decide +kernel
  have hlive : d.isLive 1 = true := by decide +kernel
  obtain ⟨⟨l, -, -, -, hvisited, hover, helements⟩, -⟩ := h.walks_in_preorder hlive
  have hend : (d.turn^[7] (.start 1)).stack = #[] := by decide +kernel
  refine ⟨h, hlive, by decide +kernel, hend, ?_, by decide +kernel⟩
  rw [hvisited, List.take_of_length_le ((hover 7).1 hend), ← helements]

end Draft

end UsedCss.Html
