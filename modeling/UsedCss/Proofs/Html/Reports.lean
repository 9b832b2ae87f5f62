import UsedCss.Html.Sink
/-!
# Which errors count

Whatever calls a parser makes, the errors handed back are those that it reports after it has made the first
element, in the order of the reports.
-/

namespace UsedCss.Html

namespace Call

/-- The error that a call reports. -/
def error? : Call → Option ParseError
  | .step (.report e) => some e
  | _ => none

/-- Whether a call makes an element. -/
def makesElement : Call → Bool
  | .step (.createElement ..) => true
  | _ => false

/-- The errors that calls report after the first of them that makes an element. -/
def reportsFromRoot (calls : List Call) : List ParseError :=
  (calls.dropWhile (!·.makesElement)).filterMap error?

theorem error?_of_makesElement {c : Call} (h : c.makesElement = true) : c.error? = none := by
  cases c with
  | step e =>
    cases e with
    | report e => cases h
    | _ => rfl
  | _ => rfl

theorem reportsFromRoot_cons (c : Call) (calls : List Call) : reportsFromRoot (c :: calls) =
    if c.makesElement then calls.filterMap error? else reportsFromRoot calls := by
  rw [reportsFromRoot, List.dropWhile_cons]
  cases h : c.makesElement with
  | true => exact List.filterMap_cons_none (error?_of_makesElement h)
  | false => rfl

end Call

namespace Draft

theorem answer_step (d : Draft) (e : Edit) : (d.answer (.step e)).1 = d.apply e := by
  cases e <;> rfl

theorem answerAll_step (d : Draft) (edits : List Edit) :
    d.answerAll (edits.map .step) = edits.foldl apply d := by
  simp only [answerAll, List.foldl_map, answer_step]

/-! ## One call -/

/-- Two drafts with the same errors, and with an element made in both or in neither. -/
structure Silent (d d' : Draft) : Prop where
  rooted : d'.rooted = d.rooted
  reported : d'.reported = d.reported

theorem silent_append (d : Draft) (p : NodeId) (child : Child) : d.Silent (d.append p child) := by
  cases child <;> exact ⟨rfl, rfl⟩

theorem silent_appendBefore (d : Draft) (s : NodeId) (child : Child) : d.Silent (d.appendBefore s child) := by
  rw [appendBefore]
  split
  · cases child <;> exact ⟨rfl, rfl⟩
  · exact ⟨rfl, rfl⟩

theorem silent_appendByParent (d : Draft) (e previous : NodeId) (child : Child) :
    d.Silent (d.appendByParent e previous child) := by
  rw [appendByParent]
  split
  · exact silent_appendBefore ..
  · exact silent_append ..

/-- What a call does to the errors that count. -/
structure Counts (d : Draft) (c : Call) (d' : Draft) : Prop where
  rooted : d'.rooted = (d.rooted || c.makesElement)
  reported : d'.reported = d.reported ++ if d.rooted then c.error?.toList else []

theorem Silent.counts {d d' : Draft} {c : Call} (h : d.Silent d') (hmakes : c.makesElement = false)
    (herror : c.error? = none) : d.Counts c d' where
  rooted := by rw [h.rooted, hmakes, Bool.or_false]
  reported := by rw [h.reported, herror, Option.toList_none, ite_self, List.append_nil]

theorem counts_createElement (d : Draft) (name : QName) (attributes : List Attribute) :
    d.Counts (.step (.createElement name attributes)) (d.createElement name attributes).1 where
  rooted := (Bool.or_true _).symm
  reported := by simp [Call.error?, reported, createElement]

theorem counts_report (d : Draft) (e : ParseError) : d.Counts (.step (.report e)) (d.report e) := by
  rw [report]
  constructor <;> cases hd : d.rooted <;> simp [Call.makesElement, Call.error?, reported, hd]

/-- Only making an element and reporting an error matter, and a report only after the first element. -/
theorem counts_answer (d : Draft) (c : Call) : d.Counts c (d.answer c).1 := by
  cases c with
  | step e =>
    rw [answer_step]
    cases e with
    | createElement name attributes => exact d.counts_createElement name attributes
    | append p child => exact (d.silent_append p child).counts rfl rfl
    | appendBefore s child => exact (d.silent_appendBefore s child).counts rfl rfl
    | appendByParent e previous child => exact (d.silent_appendByParent e previous child).counts rfl rfl
    | report e => exact d.counts_report e
    | _ => exact Silent.counts ⟨rfl, rfl⟩ rfl rfl
  | _ => exact Silent.counts ⟨rfl, rfl⟩ rfl rfl

/-! ## All calls -/

/-- The errors handed back are those that counted before, and the reports from the first element on. -/
theorem reported_answerAll (d : Draft) (calls : List Call) : (d.answerAll calls).reported =
    d.reported ++ if d.rooted then calls.filterMap Call.error? else Call.reportsFromRoot calls := by
  induction calls generalizing d with
  | nil => simp [answerAll, Call.reportsFromRoot]
  | cons c calls ih =>
    have hc := d.counts_answer c
    rw [answerAll, List.foldl_cons, ← answerAll, ih, hc.rooted, hc.reported, List.append_assoc]
    refine congrArg (d.reported ++ ·) ?_
    cases d.rooted with
    | true => cases h : c.error? <;> simp [h]
    | false => simp [Call.reportsFromRoot_cons]

/-- What is said of the doctype does not count. -/
example : (answerAll {} [.step (.report .badDoctype), .doctype, .step (.createElement (.html "html") []),
    .step (.report .noForm), .elementName 1]).reported = [.noForm] := by decide

end Draft

end UsedCss.Html
