import Mathlib.Data.List.Forall2
import UsedCss.Proofs.Css.Rescan
import UsedCss.Proofs.Outcome
import UsedCss.Proofs.Text.TrimmedLines
/-!
# Two filterings side by side

Two outputs are compared by their trimmed lines: those of a sheet are the trimmed lines of its texts,
and those of a rebuilt block are the header's line, the trimmed lines of its rules and a brace. So
what is left of two lists of constructs is compared construct by construct.
-/

namespace UsedCss.Css

open UsedCss.Text

variable {S T target : ClassSet} {E : FilterError → FilterError → Prop}
  {Q : List (List Char) → List (List Char) → Prop} {cs ds : List Construct} {options : FilterOptions}

/-! ## Lines of what is printed -/

theorem trimmedLines_renderSheet (us : List (List Char)) :
    trimmedLines (renderSheet us) = us.flatMap trimmedLines := by
  rw [renderSheet_eq, trimmedLines_trim, trimmedLines_joinWith rfl]

theorem trimmedLines_renderBlock (header : List Char) (ts : List (List Char)) :
    trimmedLines (renderBlock header ts) =
      trimmedLines (header ++ [' ', '{']) ++ (ts.flatMap trimmedLines ++ [['}']]) := by
  have hclose : trimmedLines ['}'] = [['}']] := trimmedLines_of_filled (by decide) rfl
  have hrules : trimmedLines (indent ++ joinWith (['\n', '\n'] ++ indent) ts) =
      ts.flatMap trimmedLines := by
    rw [trimmedLines_of_blank_append rfl]
    exact trimmedLines_joinWith rfl ts
  rw [renderBlock_eq, trimmedLines_append_newline, trimmedLines_append_newline, hrules, hclose]

/-! ## Results construct by construct -/

/-- A comparison that goes through construct by construct goes through for all of them. -/
theorem paired_pruneAll (hnil : Q [] [])
    (happend : ∀ us us' vs vs', Q us us' → Q vs vs' → Q (us ++ vs) (us' ++ vs'))
    (h : List.Forall₂ (fun c d => Paired E (fun r r' => Q r.toList r'.toList)
      (prune S c) (prune T d)) cs ds) :
    Paired E Q (pruneAll S cs) (pruneAll T ds) := by
  induction h with
  | nil => exact .ok hnil
  | cons hc _ ih =>
    rw [pruneAll_cons, pruneAll_cons]
    exact hc.bind fun r r' hr => ih.map fun us us' hu => happend _ _ _ _ hr hu

/-! ## Options -/

/-- Without verification, the options only limit the size. -/
theorem filter_of_not_verify (hv : options.verify = false) (css : List Char) (target : ClassSet) :
    filter css target options =
      match options.maxBytes.brokenBy (byteSize css) with
      | some limit => .error (.inputTooLarge (byteSize css) limit)
      | none => filter css target { maxBytes := none } := by
  rw [filter_options, hv]
  cases options.maxBytes.brokenBy (byteSize css) with
  | some limit => rfl
  | none => cases filter css target { maxBytes := none } <;> rfl

end UsedCss.Css
