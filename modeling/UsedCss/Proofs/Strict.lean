import UsedCss.Collect
import UsedCss.Proofs.Html.Reports
import UsedCss.Proofs.Html.Tree.Construct
/-!
# Pages that need repair

Strict collecting refuses a page for the errors that the parser reports from the first element on, and for
nothing else. Whoever does not ask for it gets the classes of every page that is not too large.
-/

namespace UsedCss

open UsedCss.Text UsedCss.Html

/-- Whether these are the calls by which the parser builds the document of a page. It makes them whatever draft
it begins with, if that holds just the root. -/
def Html.Builds (html : List Char) (calls : List Call) : Prop :=
  ∀ d : Draft, d.document.nodes.size = 1 →
    (parseFrom {} { draft := d } (dropByteOrderMark (normalizeNewlines html))).draft = d.answerAll calls

theorem Html.exists_builds (html : List Char) : ∃ calls, Builds html calls := by
  obtain ⟨edits, h⟩ := exists_edits (dropByteOrderMark (normalizeNewlines html))
  refine ⟨edits.map .step, fun d hd => ?_⟩
  rw [h d hd, Draft.answerAll_step]

variable {html : List Char} {calls : List Call}

theorem Html.Builds.parse_eq (h : Builds html calls) : parse html = (Draft.answerAll {} calls).finish :=
  congrArg Draft.finish (h {} rfl)

theorem Html.Draft.errors_finish (calls : List Call) :
    (Draft.answerAll {} calls).finish.errors = Call.reportsFromRoot calls :=
  Draft.reported_answerAll {} calls

theorem Html.Builds.errors_parse (h : Builds html calls) : (parse html).errors = Call.reportsFromRoot calls := by
  rw [h.parse_eq, Draft.errors_finish]

section WithinLimit

variable {options : CollectOptions} (hsize : options.maxBytes.brokenBy (byteSize html) = none)
include hsize

theorem collect_tolerant :
    collect html { options with strict := false } = .ok (parse html).document.classes := by
  rw [collect]
  simp only [hsize]

theorem collect_strict_of_sound (herrors : (parse html).errors = []) :
    collect html { options with strict := true } = .ok (parse html).document.classes := by
  rw [collect]
  simp only [hsize, herrors]

theorem collect_strict_of_errors {e : ParseError} {es : List ParseError}
    (herrors : (parse html).errors = e :: es) :
    collect html { options with strict := true } = .error (.malformed (es.length + 1) e) := by
  rw [collect]
  simp only [hsize, herrors]

end WithinLimit

/-- Whatever calls a parser makes, the errors handed back are the reports among those that follow the first
one to make an element, in their order. A page that is not too large is refused by strict collecting if the
parser's calls for it leave such errors, with their number and the first of them. Otherwise it has the classes
that it has without strictness, which never refuses it. -/
theorem strict_counts_reports :
    (∀ calls, (Draft.answerAll {} calls).finish.errors = Call.reportsFromRoot calls) ∧
      ∀ html, (∃ calls, Builds html calls) ∧
        ∀ calls, Builds html calls → ∀ options : CollectOptions,
          options.maxBytes.brokenBy (byteSize html) = none →
            let errors := Call.reportsFromRoot calls
            let strict := collect html { options with strict := true }
            let tolerant := collect html { options with strict := false }
            ((∃ e, strict = .error e) ↔ errors ≠ []) ∧
              (∀ e ∈ errors.head?, strict = .error (.malformed errors.length e)) ∧
              (errors = [] → strict = tolerant) ∧ ∃ classes, tolerant = .ok classes := by
  refine ⟨Draft.errors_finish, fun html => ⟨exists_builds html, fun calls hcalls options hsize => ?_⟩⟩
  have herrors := hcalls.errors_parse
  have htolerant := collect_tolerant hsize
  intro errors strict tolerant
  cases h : errors with
  | nil =>
    have hstrict := collect_strict_of_sound hsize (herrors.trans h)
    refine ⟨iff_of_false ?_ (· rfl), nofun, fun _ => hstrict.trans htolerant.symm, _, htolerant⟩
    rintro ⟨e, he⟩
    cases hstrict.symm.trans he
  | cons e es =>
    have hstrict := collect_strict_of_errors hsize (herrors.trans h)
    refine ⟨iff_of_true ⟨_, hstrict⟩ (List.cons_ne_nil e es), ?_, nofun, _, htolerant⟩
    rintro _ ⟨⟩
    exact hstrict

/-- A page without a doctype that begins and ends with stray end tags: only the last one counts. -/
theorem strict_counts_reports_stray :
    let html := "</b><p class=a></i>".toList
    let options : CollectOptions := { maxBytes := some 20 }
    options.maxBytes.brokenBy (byteSize html) = none ∧
      ∃ calls, Builds html calls ∧
        calls.filterMap Call.error? =
          [.unexpectedToken .initial, .unexpectedToken .beforeHtml, .specialWhileClosing] ∧
        Call.reportsFromRoot calls = [.specialWhileClosing] ∧
        collect html { options with strict := true } = .error (.malformed 1 .specialWhileClosing) ∧
        ∃ classes, collect html { options with strict := false } = .ok classes := by
  intro html options
  have hsize : options.maxBytes.brokenBy (byteSize html) = none := by decide +kernel
  obtain ⟨-, hpages⟩ := strict_counts_reports
  obtain ⟨⟨calls, hcalls⟩, hdecides⟩ := hpages html
  have hall : calls.filterMap Call.error? =
      [.unexpectedToken .initial, .unexpectedToken .beforeHtml, .specialWhileClosing] := by
    have hreported := Draft.reported_answerAll { rooted := true } calls
    rw [← hcalls { rooted := true } rfl] at hreported
    exact hreported.symm.trans (by decide +kernel)
  have herrors : Call.reportsFromRoot calls = [.specialWhileClosing] := by
    rw [← hcalls.errors_parse]
    decide +kernel
  obtain ⟨-, hstrict, -, htolerant⟩ := hdecides calls hcalls options hsize
  rw [herrors] at hstrict
  exact ⟨hsize, calls, hcalls, hall, herrors, hstrict _ rfl, htolerant⟩

end UsedCss
