import Mathlib
import UsedCss.Html.Tree.Construct
import UsedCss.Proofs.Text.Words
/-!
# Markup of nested elements

Trees of elements that have nothing but classes, and the markup for them.
-/

namespace UsedCss.Html

open UsedCss.Text

/-- The characters of a plain class name: letters, digits, dashes and underscores. -/
def isClassChar (c : Char) : Bool := c.isAlphanum || c == '_' || c == '-'

/-- A plain class name. -/
structure ClassToken where
  text : List Char
  ne_nil : text ≠ []
  isClassChar : ∀ c ∈ text, isClassChar c = true

/-- An element with classes, and the elements inside. -/
inductive Div
  | mk (classes : List ClassToken) (inside : List Div)

/-- The value of a class attribute. -/
def classValue (classes : List ClassToken) : List Char := joinWith [' '] (classes.map ClassToken.text)

/-- The start tag of an element. -/
def openTag (classes : List ClassToken) : List Char :=
  "<div class=\"".toList ++ classValue classes ++ ['"', '>']

/-- The end tag. -/
def closeTag : List Char := "</div>".toList

mutual

/-- The markup of an element: its tags and what is inside between them, as in
`<div class="a b"><div class=""></div></div>`. -/
def Div.render : Div → List Char
  | .mk classes inside => openTag classes ++ (renderAll inside ++ closeTag)

/-- The markup of elements one after another. -/
def renderAll : List Div → List Char
  | [] => []
  | d :: ds => d.render ++ renderAll ds

end

mutual

/-- The class names of an element and all inside. -/
def Div.classNames : Div → List String
  | .mk classes inside => classes.map (String.ofList ·.text) ++ allClassNames inside

/-- The class names of elements and all inside them. -/
def allClassNames : List Div → List String
  | [] => []
  | d :: ds => d.classNames ++ allClassNames ds

end

/-! ## Characters of the markup -/

/-- What holds of all ASCII characters holds of one. -/
theorem of_ascii {P : Char → Prop} (h : ∀ n < 128, P (Char.ofNat n)) {c : Char} (hc : c.toNat < 128) : P c :=
  Char.ofNat_toNat c ▸ h c.toNat hc

theorem lt_of_isClassChar {c : Char} (h : isClassChar c = true) : c.toNat < 128 := by
  simp only [isClassChar, Char.isAlphanum, Char.isAlpha, Char.isUpper, Char.isLower, Char.isDigit,
    Bool.or_eq_true, Bool.and_eq_true, decide_eq_true_eq, beq_iff_eq, ge_iff_le,
    UInt32.le_iff_toNat_le] at h
  rcases h with (((h | h) | h) | rfl) | rfl
  · exact Nat.lt_of_le_of_lt h.2 (by decide)
  · exact Nat.lt_of_le_of_lt h.2 (by decide)
  · exact Nat.lt_of_le_of_lt h.2 (by decide)
  · decide
  · decide

theorem isBlank_of_isClassChar {c : Char} (h : isClassChar c = true) : isBlank c = false := by
  refine of_ascii (P := fun c => isClassChar c = true → isBlank c = false) ?_ (lt_of_isClassChar h) h
  decide +kernel

theorem mem_classValue {classes : List ClassToken} {c : Char} (h : c ∈ classValue classes) :
    isClassChar c = true ∨ c = ' ' := by
  rw [or_iff_not_imp_right]
  intro hspace
  by_contra hc
  have hsep : c ∉ [' '] := by simpa using hspace
  refine not_mem_joinWith hsep ?_ h
  simp only [List.mem_map]
  rintro _ ⟨t, -, rfl⟩ hmem
  exact hc (t.isClassChar c hmem)

/-- The visible characters of ASCII, and the space. Markup has no others. -/
def isVisible (c : Char) : Bool := 32 ≤ c.toNat && c.toNat < 127

theorem isVisible_of_mem_openTag {classes : List ClassToken} : ∀ c ∈ openTag classes, isVisible c = true := by
  have hstart : "<div class=\"".toList.all isVisible = true := by decide
  have hend : ['"', '>'].all isVisible = true := by decide
  have hvalue : ∀ c ∈ classValue classes, isVisible c = true := fun c hc => by
    rcases mem_classValue hc with hc | rfl
    · refine of_ascii (P := fun c => isClassChar c = true → isVisible c = true) ?_ (lt_of_isClassChar hc) hc
      decide +kernel
    · decide
  exact List.forall_mem_append.2
    ⟨List.forall_mem_append.2 ⟨List.all_eq_true.1 hstart, hvalue⟩, List.all_eq_true.1 hend⟩

theorem isVisible_of_mem_closeTag : ∀ c ∈ closeTag, isVisible c = true := by
  have hall : closeTag.all isVisible = true := by decide
  exact List.all_eq_true.1 hall

mutual

theorem Div.isVisible_of_mem_render : (t : Div) → ∀ c ∈ t.render, isVisible c = true
  | .mk classes inside => by
    rw [Div.render, List.forall_mem_append, List.forall_mem_append]
    exact ⟨isVisible_of_mem_openTag, isVisible_of_mem_renderAll inside, isVisible_of_mem_closeTag⟩

theorem isVisible_of_mem_renderAll : (ts : List Div) → ∀ c ∈ renderAll ts, isVisible c = true
  | [] => by
    rw [renderAll]
    exact List.forall_mem_nil _
  | t :: ts => by
    rw [renderAll, List.forall_mem_append]
    exact ⟨t.isVisible_of_mem_render, isVisible_of_mem_renderAll ts⟩

end

/-- The words of a class attribute's value are its class names. -/
theorem words_classValue (classes : List ClassToken) :
    words (classValue classes) = classes.map ClassToken.text := by
  have hword : ∀ t : ClassToken, words t.text = [t.text] := fun t => by
    rw [words_of_forall fun c hc => isBlank_of_isClassChar (t.isClassChar c hc), if_neg]
    simpa using t.ne_nil
  induction classes with
  | nil => rfl
  | cons t ts ih =>
    cases ts with
    | nil => simpa [classValue] using hword t
    | cons u us =>
      rw [classValue, List.map_cons, List.map_cons, joinWith_cons_cons, List.append_assoc, List.singleton_append,
        words_append_cons (by decide), hword]
      exact congrArg (t.text :: ·) ih

end UsedCss.Html
