import UsedCss.Html.Draft
import UsedCss.Proofs.Html.Store
/-!
# Merged attributes

Attributes that are merged into an element's are put behind them, the first of each name that the element
lacks (`mergeAttributes_eq`). So nothing that was there changes, no name comes twice that did not before,
and what is merged again or in several parts comes to the same.
-/

namespace UsedCss.Html

variable {a b : Attribute} {old given : List Attribute} {name : String}

/-! ## Lists of attributes -/

/-- The names of attributes in order. -/
def attributeNames (attributes : List Attribute) : List String := attributes.map Attribute.name

theorem mem_attributeNames : name ∈ attributeNames old ↔ ∃ a ∈ old, a.name = name := List.mem_map

theorem attributeNames_cons (a : Attribute) (given : List Attribute) :
    attributeNames (a :: given) = a.name :: attributeNames given := rfl

theorem attributeNames_append (old given : List Attribute) :
    attributeNames (old ++ given) = attributeNames old ++ attributeNames given := List.map_append

theorem mem_attributeNames_concat :
    name ∈ attributeNames (old ++ [a]) ↔ name ∈ attributeNames old ∨ name = a.name := by
  rw [attributeNames_append, List.mem_append, attributeNames_cons]
  simp [attributeNames]

theorem addAttribute_of_mem (h : a.name ∈ attributeNames old) : addAttribute old a = old := by
  rw [addAttribute, if_pos]
  simpa [mem_attributeNames] using h

theorem addAttribute_of_not_mem (h : a.name ∉ attributeNames old) : addAttribute old a = old ++ [a] := by
  rw [addAttribute, if_neg]
  simpa [mem_attributeNames] using h

/-- The attributes of a list whose names another one lacks, the first of each name. -/
def lacking (old given : List Attribute) : List Attribute :=
  (given.filter fun a => a.name ∉ attributeNames old).eraseDupsBy fun a b => a.name == b.name

theorem lacking_cons_of_mem (h : a.name ∈ attributeNames old) (given : List Attribute) :
    lacking old (a :: given) = lacking old given := by
  rw [lacking, List.filter_cons_of_neg (by simpa using h), lacking]

theorem lacking_cons_of_not_mem (h : a.name ∉ attributeNames old) (given : List Attribute) :
    lacking old (a :: given) = a :: lacking (old ++ [a]) given := by
  rw [lacking, List.filter_cons_of_pos (by simpa using h), List.eraseDupsBy_cons, List.filter_filter, lacking]
  congr 2
  apply List.filter_congr
  intro b _
  by_cases e : b.name = a.name <;> simp [mem_attributeNames_concat, e]

/-- What is merged into a list is what it lacks, behind what it has. -/
theorem mergeAttributes_eq (old given : List Attribute) : mergeAttributes old given = old ++ lacking old given := by
  induction given generalizing old with
  | nil => exact (List.append_nil old).symm
  | cons a given ih =>
    have hcons : mergeAttributes old (a :: given) = mergeAttributes (addAttribute old a) given := rfl
    rw [hcons]
    by_cases h : a.name ∈ attributeNames old
    · rw [addAttribute_of_mem h, lacking_cons_of_mem h, ih]
    · rw [addAttribute_of_not_mem h, lacking_cons_of_not_mem h, ih, List.append_assoc]
      rfl

/-- The names that are lacking are in the order in which they come first. -/
theorem attributeNames_lacking (old given : List Attribute) :
    attributeNames (lacking old given) =
      ((attributeNames given).filter fun name => name ∉ attributeNames old).eraseDups := by
  induction given generalizing old with
  | nil => rfl
  | cons a given ih =>
    by_cases h : a.name ∈ attributeNames old
    · rw [lacking_cons_of_mem h, ih, attributeNames_cons, List.filter_cons_of_neg (by simpa using h)]
    · rw [lacking_cons_of_not_mem h, attributeNames_cons, attributeNames_cons, ih,
        List.filter_cons_of_pos (by simpa using h), List.eraseDups_cons, List.filter_filter]
      congr 2
      apply List.filter_congr
      intro name _
      by_cases e : name = a.name <;> simp [mem_attributeNames_concat, e]

theorem mem_attributeNames_lacking :
    name ∈ attributeNames (lacking old given) ↔ name ∈ attributeNames given ∧ name ∉ attributeNames old := by
  rw [attributeNames_lacking, List.mem_eraseDups, List.mem_filter, decide_eq_true_iff]

theorem not_mem_of_mem_lacking (h : a ∈ lacking old given) : a.name ∉ attributeNames old :=
  (mem_attributeNames_lacking.1 (List.mem_map_of_mem h)).2

theorem nodup_attributeNames_lacking (old given : List Attribute) : (attributeNames (lacking old given)).Nodup := by
  induction given generalizing old with
  | nil => exact List.nodup_nil
  | cons a given ih =>
    by_cases h : a.name ∈ attributeNames old
    · rw [lacking_cons_of_mem h]
      exact ih old
    · rw [lacking_cons_of_not_mem h, attributeNames_cons, List.nodup_cons]
      refine ⟨?_, ih (old ++ [a])⟩
      intro hmem
      exact (mem_attributeNames_lacking.1 hmem).2 (mem_attributeNames_concat.2 (.inr rfl))

/-- Each one that is lacking is the first of its name. -/
theorem find?_of_mem_lacking (h : a ∈ lacking old given) : given.find? (·.name == a.name) = some a := by
  induction given generalizing old with
  | nil => cases h
  | cons b given ih =>
    -- the first one has another name if that is known by the time the others are looked at
    have hskip : ∀ {known}, b.name ∈ attributeNames known → a ∈ lacking known given →
        (b :: given).find? (·.name == a.name) = some a := by
      intro known hb ha
      have hne : b.name ≠ a.name := by
        intro e
        exact not_mem_of_mem_lacking ha (e ▸ hb)
      rw [List.find?_cons_of_neg (by simpa using hne)]
      exact ih ha
    by_cases hb : b.name ∈ attributeNames old
    · rw [lacking_cons_of_mem hb] at h
      exact hskip hb h
    · rw [lacking_cons_of_not_mem hb] at h
      rcases List.mem_cons.1 h with rfl | h
      · simp
      · exact hskip (mem_attributeNames_concat.2 (.inr rfl)) h

theorem lacking_eq_nil (h : ∀ a ∈ given, a.name ∈ attributeNames old) : lacking old given = [] := by
  rw [lacking, List.filter_eq_nil_iff.2 (by simpa using h)]
  rfl

theorem mergeAttributes_append (old given more : List Attribute) :
    mergeAttributes (mergeAttributes old given) more = mergeAttributes old (given ++ more) :=
  List.foldl_append.symm

/-- All names of what is merged are there afterwards. -/
theorem mem_attributeNames_mergeAttributes :
    name ∈ attributeNames (mergeAttributes old given) ↔ name ∈ attributeNames old ∨ name ∈ attributeNames given := by
  rw [mergeAttributes_eq, attributeNames_append, List.mem_append, mem_attributeNames_lacking]
  by_cases h : name ∈ attributeNames old <;> simp [h]

theorem nodup_attributeNames_mergeAttributes (h : (attributeNames old).Nodup) (given : List Attribute) :
    (attributeNames (mergeAttributes old given)).Nodup := by
  rw [mergeAttributes_eq, attributeNames_append]
  refine List.nodup_append.2 ⟨h, nodup_attributeNames_lacking old given, ?_⟩
  rintro name hold _ hnew rfl
  exact (mem_attributeNames_lacking.1 hnew).2 hold

/-- Merging a list again adds nothing. -/
theorem mergeAttributes_mergeAttributes (old given : List Attribute) :
    mergeAttributes (mergeAttributes old given) given = mergeAttributes old given := by
  have hnone : lacking (mergeAttributes old given) given = [] := lacking_eq_nil fun a ha =>
    mem_attributeNames_mergeAttributes.2 (.inr (List.mem_map_of_mem ha))
  rw [mergeAttributes_eq (mergeAttributes old given), hnone, List.append_nil]

/-! ## Attributes of an element -/

/-- An element with attributes merged into its own. -/
def Element.merge (e : Element) (given : List Attribute) : Element :=
  { e with attributes := mergeAttributes e.attributes given }

/-- The first attribute of a name stays the first. -/
theorem Element.valueOf_merge {e : Element} (h : name ∈ attributeNames e.attributes) (given : List Attribute) :
    (e.merge given).valueOf name = e.valueOf name := by
  obtain ⟨a, ha, hname⟩ := mem_attributeNames.1 h
  have hfound : (e.attributes.find? (·.name == name)).isSome = true :=
    List.find?_isSome.2 ⟨a, ha, beq_iff_eq.2 hname⟩
  rw [valueOf, valueOf, merge, mergeAttributes_eq, List.find?_append, Option.or_of_isSome hfound]

theorem Element.classTokens_merge {e : Element} (h : "class" ∈ attributeNames e.attributes)
    (given : List Attribute) : (e.merge given).classTokens = e.classTokens := by
  rw [classTokens, classTokens, valueOf_merge h]

/-- One element is another one with more attributes behind its own: those of a list whose names it lacks, each
name once, in the order in which the names come first, with the attribute that comes first. So every name of
the list is there, what was there keeps its value, and no name comes twice if none did. -/
structure Element.Gains (e e' : Element) (given added : List Attribute) : Prop where
  behind : e' = { e with attributes := e.attributes ++ added }
  names : attributeNames added =
    ((attributeNames given).filter fun name => name ∉ attributeNames e.attributes).eraseDups
  once : (attributeNames added).Nodup
  first : ∀ a ∈ added, given.find? (·.name == a.name) = some a
  present : ∀ name ∈ attributeNames given, name ∈ attributeNames e'.attributes
  valueOf : ∀ name ∈ attributeNames e.attributes, e'.valueOf name = e.valueOf name
  classTokens : "class" ∈ attributeNames e.attributes → e'.classTokens = e.classTokens
  nodup : (attributeNames e.attributes).Nodup → (attributeNames e'.attributes).Nodup

theorem Element.gains_merge (e : Element) (given : List Attribute) :
    e.Gains (e.merge given) given (lacking e.attributes given) where
  behind := by rw [merge, mergeAttributes_eq]
  names := attributeNames_lacking e.attributes given
  once := nodup_attributeNames_lacking e.attributes given
  first a ha := find?_of_mem_lacking ha
  present name hname := mem_attributeNames_mergeAttributes.2 (.inr hname)
  valueOf name hname := valueOf_merge hname given
  classTokens hclass := classTokens_merge hclass given
  nodup hnodup := nodup_attributeNames_mergeAttributes hnodup given

namespace Document

variable {d : Document} {n m : NodeId} {e : Element}

theorem data?_of_element? (h : d.element? n = some e) : d.data? n = some (.element e) := by
  rw [element?] at h
  split at h
  · next hdata =>
    cases h
    exact hdata
  · cases h

theorem getElem?_addAttributes (h : d.element? n = some e) (given : List Attribute) :
    (d.addAttributes n given).nodes[n]? =
      d.nodes[n]?.map fun x => { x with data := .element (e.merge given) } := by
  have hdata := data?_of_element? h
  rw [data?, Option.map_eq_some_iff] at hdata
  obtain ⟨x, hx, hdata⟩ := hdata
  rw [addAttributes, getElem?_update, if_pos rfl, hx, Option.map_some, Option.map_some, hdata]
  rfl

theorem getElem?_addAttributes_of_ne (h : m ≠ n) (given : List Attribute) :
    (d.addAttributes n given).nodes[m]? = d.nodes[m]? := by
  rw [addAttributes, getElem?_update, if_neg h.symm]

theorem addAttributes_of_not_element (h : d.element? n = none) (given : List Attribute) :
    d.addAttributes n given = d := by
  refine update_eq_self fun x hx => ?_
  split
  · next e hdata =>
    rw [element?, data?, Option.mem_def.1 hx, Option.map_some, hdata] at h
    cases h
  · rfl

/-- Two lists merged one after the other are merged as one. -/
theorem addAttributes_addAttributes (d : Document) (n : NodeId) (given more : List Attribute) :
    (d.addAttributes n given).addAttributes n more = d.addAttributes n (given ++ more) := by
  rw [addAttributes, addAttributes, addAttributes, update_update]
  congr 1
  funext x
  cases hdata : x.data with
  | element e => simp only [Function.comp_apply, hdata, mergeAttributes_append]
  | document | text | comment => simp only [Function.comp_apply, hdata]

/-- A list merged again changes nothing. -/
theorem addAttributes_again (d : Document) (n : NodeId) (given : List Attribute) :
    (d.addAttributes n given).addAttributes n given = d.addAttributes n given := by
  rw [addAttributes_addAttributes, addAttributes, addAttributes]
  simp only [← mergeAttributes_append, mergeAttributes_mergeAttributes]

end Document

namespace Draft

/-- Merging attributes in any state: an element gains those whose names it lacks and nothing else about it
changes. What is no element stays as it is, and so do all other nodes. Merged again the list adds nothing,
and two lists one after the other are merged as one. -/
theorem addAttributes_merges (d : Draft) (n : NodeId) (given : List Attribute) :
    let d' := d.apply (.addAttributes n given)
    (∀ e, d.document.element? n = some e → ∃ added e', e.Gains e' given added ∧
      d'.document.nodes[n]? = d.document.nodes[n]?.map fun x => { x with data := .element e' }) ∧
    (d.document.element? n = none → d' = d) ∧
    (∀ m, m ≠ n → d'.document.nodes[m]? = d.document.nodes[m]?) ∧
    d'.apply (.addAttributes n given) = d' ∧
    ∀ more, d'.apply (.addAttributes n more) = d.apply (.addAttributes n (given ++ more)) := by
  intro d'
  refine ⟨?_, ?_, ?_, ?_, ?_⟩
  · intro e he
    exact ⟨_, _, e.gains_merge given, Document.getElem?_addAttributes he given⟩
  · intro hnone
    show { d with document := d.document.addAttributes n given } = d
    rw [Document.addAttributes_of_not_element hnone]
  · intro m hm
    exact Document.getElem?_addAttributes_of_ne hm given
  · show { d with document := (d.document.addAttributes n given).addAttributes n given } = d'
    rw [Document.addAttributes_again]
    rfl
  · intro more
    show { d with document := (d.document.addAttributes n given).addAttributes n more } = _
    rw [Document.addAttributes_addAttributes]
    rfl

/-- Attributes merged into an element that has one of their names, one of which comes twice among them. -/
theorem addAttributes_merges_body :
    let d := run [.createElement (.html "body") [⟨"class", "first"⟩]]
    let given : List Attribute := [⟨"id", "x"⟩, ⟨"class", "second"⟩, ⟨"lang", "y"⟩, ⟨"id", "z"⟩]
    let d' := d.apply (.addAttributes 1 given)
    d.document.element? 1 = some ⟨.html "body", [⟨"class", "first"⟩]⟩ ∧
      d'.document.element? 1 =
        some ⟨.html "body", [⟨"class", "first"⟩, ⟨"id", "x"⟩, ⟨"lang", "y"⟩]⟩ ∧
      d'.document.nodes[0]? = d.document.nodes[0]? ∧ d'.apply (.addAttributes 1 given) = d' ∧
      ∃ e', d'.document.element? 1 = some e' ∧ e'.valueOf "class" = some "first" ∧
        (attributeNames e'.attributes).Nodup := by
  intro d given d'
  have he : d.document.element? 1 = some ⟨.html "body", [⟨"class", "first"⟩]⟩ := by decide +kernel
  obtain ⟨helement, -, hothers, hagain, -⟩ := addAttributes_merges d 1 given
  obtain ⟨added, e', hgains, hnode⟩ := helement _ he
  have he' : d'.document.element? 1 = some e' := by
    rw [Document.element?, Document.data?, hnode]
    rfl
  refine ⟨he, by decide +kernel, hothers 0 (by decide), hagain, e', he', ?_, hgains.nodup (by decide +kernel)⟩
  rw [hgains.valueOf "class" (by decide +kernel)]
  decide +kernel

end Draft

end UsedCss.Html
