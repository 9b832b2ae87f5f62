import UsedCss.Extract
import UsedCss.Proofs.Css.Rescan
/-!
# Both stages under options

Options only refuse: a page or a stylesheet that is too large, a page that needs repair, a result that is no
CSS. Without them the two stages give what the texts alone decide, and under them they give the same or the
error of one that refuses (`collect_cases`, `filter_cases`, `extract_cases`). So what succeeds under some
options succeeds with the same result under all that ask for less (`extract_relaxed`).
-/

namespace UsedCss

open UsedCss.Text UsedCss.Css UsedCss.Html

variable {html css output : List Char} {target classes : ClassSet} {r : Extraction}

/-! ## What options refuse -/

/-- The errors by which options refuse a page. -/
inductive CollectOptions.Refuses (options : CollectOptions) (html : List Char) : CollectError → Prop
  | inputTooLarge {limit : Nat} : options.maxBytes = some limit → limit < byteSize html →
      Refuses options html (.inputTooLarge (byteSize html) limit)
  | malformed {e : ParseError} {es : List ParseError} : options.strict = true → (parse html).errors = e :: es →
      Refuses options html (.malformed (es.length + 1) e)

/-- The errors by which options refuse a stylesheet of which that output is left. -/
inductive FilterOptions.Refuses (options : FilterOptions) (css output : List Char) : FilterError → Prop
  | inputTooLarge {limit : Nat} : options.maxBytes = some limit → limit < byteSize css →
      Refuses options css output (.inputTooLarge (byteSize css) limit)
  | invalidOutput {cause : SyntaxError} : options.verify = true → Css.verify output = .error cause →
      Refuses options css output (.invalidOutput cause)

/-- The errors by which options refuse a page and a stylesheet of which that output is left. -/
inductive ExtractOptions.Refuses (options : ExtractOptions) (html css output : List Char) : ExtractError → Prop
  | collect {e : CollectError} : options.collect.Refuses html e → Refuses options html css output (.collect e)
  | filter {e : FilterError} : options.filter.Refuses css output e → Refuses options html css output (.filter e)

theorem SizeLimit.brokenBy_eq_some_iff {limit : SizeLimit} {size k : Nat} :
    limit.brokenBy size = some k ↔ limit = some k ∧ k < size := by
  rw [brokenBy, Option.filter_eq_some_iff, decide_eq_true_iff]

theorem SizeLimit.not_lt_of_brokenBy {limit : SizeLimit} {size k : Nat} (h : limit.brokenBy size = none)
    (hk : limit = some k) : ¬ k < size := by
  intro hlt
  have hbroken := brokenBy_eq_some_iff.2 ⟨hk, hlt⟩
  rw [h] at hbroken
  cases hbroken

theorem CollectOptions.not_refuses {options : CollectOptions}
    (hsize : options.maxBytes.brokenBy (byteSize html) = none)
    (hstrict : options.strict = true → (parse html).errors = []) (e : CollectError) :
    ¬ options.Refuses html e := by
  intro he
  cases he with
  | inputTooLarge hlimit hlt => exact SizeLimit.not_lt_of_brokenBy hsize hlimit hlt
  | malformed h herrors => cases (hstrict h).symm.trans herrors

theorem FilterOptions.not_refuses {options : FilterOptions}
    (hsize : options.maxBytes.brokenBy (byteSize css) = none)
    (hverify : options.verify = true → ∃ summary, Css.verify output = .ok summary) (e : FilterError) :
    ¬ options.Refuses css output e := by
  intro he
  cases he with
  | inputTooLarge hlimit hlt => exact SizeLimit.not_lt_of_brokenBy hsize hlimit hlt
  | invalidOutput h hcause =>
    obtain ⟨summary, hsummary⟩ := hverify h
    cases hsummary.symm.trans hcause

/-! ## Stage by stage -/

/-- A page has the classes of its document, unless the options refuse it. -/
theorem collect_cases (html : List Char) (options : CollectOptions) :
    (collect html options = .ok (parse html).document.classes ∧ ∀ e, ¬ options.Refuses html e) ∨
      ∃ e, collect html options = .error e ∧ options.Refuses html e := by
  rw [collect]
  cases hsize : options.maxBytes.brokenBy (byteSize html) with
  | some limit =>
    obtain ⟨hlimit, hlt⟩ := SizeLimit.brokenBy_eq_some_iff.1 hsize
    exact .inr ⟨_, rfl, .inputTooLarge hlimit hlt⟩
  | none =>
    cases hstrict : options.strict with
    | false => exact .inl ⟨rfl, CollectOptions.not_refuses hsize fun h => nomatch hstrict.symm.trans h⟩
    | true =>
      cases herrors : (parse html).errors with
      | nil => exact .inl ⟨by simp only [herrors], CollectOptions.not_refuses hsize fun _ => herrors⟩
      | cons e es => exact .inr ⟨_, by simp only [herrors], .malformed hstrict herrors⟩

/-- What is left of a stylesheet without options is what is left under options, unless these refuse it. -/
theorem filter_cases (h : filter css target { maxBytes := none } = .ok output) (options : FilterOptions) :
    (filter css target options = .ok output ∧ ∀ e, ¬ options.Refuses css output e) ∨
      ∃ e, filter css target options = .error e ∧ options.Refuses css output e := by
  rw [filter_options, h]
  cases hsize : options.maxBytes.brokenBy (byteSize css) with
  | some limit =>
    obtain ⟨hlimit, hlt⟩ := SizeLimit.brokenBy_eq_some_iff.1 hsize
    exact .inr ⟨_, rfl, .inputTooLarge hlimit hlt⟩
  | none =>
    dsimp only [Except.bind]
    cases hverify : options.verify with
    | false => exact .inl ⟨rfl, FilterOptions.not_refuses hsize fun h => nomatch hverify.symm.trans h⟩
    | true =>
      cases houtput : verify output with
      | error cause => exact .inr ⟨_, rfl, .invalidOutput hverify houtput⟩
      | ok summary => exact .inl ⟨rfl, FilterOptions.not_refuses hsize fun _ => ⟨summary, houtput⟩⟩

theorem isEmpty_trim (css : List Char) : (trim css).isEmpty = isBlankText css :=
  Bool.eq_iff_iff.2 (List.isEmpty_iff.trans trim_eq_nil)

theorem extractFor_eq {options : ExtractOptions} (hcss : isBlankText css = false)
    (hclasses : classes.isEmpty = false) :
    extractFor css classes options = (filter css classes options.filter).mapError .filter := by
  rw [extractFor, isEmpty_trim, hcss, hclasses]
  rfl

theorem extractFor_eq_ok_iff {options : ExtractOptions} :
    extractFor css classes options = .ok output ↔
      isBlankText css = false ∧ classes.isEmpty = false ∧ filter css classes options.filter = .ok output := by
  rw [extractFor, isEmpty_trim]
  cases isBlankText css with
  | true => simp
  | false =>
    cases classes.isEmpty with
    | true => simp
    | false => cases filter css classes options.filter <;> simp [Except.mapError]

/-! ## Both stages -/

theorem extract_eq (html css : List Char) (options : ExtractOptions) :
    extract html css options = ((collect html options.collect).mapError .collect).bind fun classes =>
      (extractFor css classes options).bind fun output => .ok ⟨classes, output⟩ := rfl

/-- Both stages succeed together. -/
theorem extract_eq_ok_iff_stages {options : ExtractOptions} :
    extract html css options = .ok r ↔
      collect html options.collect = .ok r.classes ∧ extractFor css r.classes options = .ok r.css := by
  rw [extract_eq]
  cases collect html options.collect with
  | error e => exact ⟨nofun, nofun⟩
  | ok found =>
    dsimp only [Except.mapError, Except.bind]
    cases hfound : extractFor css found options with
    | error e =>
      refine ⟨nofun, ?_⟩
      rintro ⟨⟨⟩, h⟩
      cases hfound.symm.trans h
    | ok text =>
      constructor
      · rintro ⟨⟩
        exact ⟨rfl, hfound⟩
      · rintro ⟨⟨⟩, h⟩
        cases hfound.symm.trans h
        rfl

/-- What the texts alone decide: the classes of the page, at least one, and what is left of the stylesheet
for them, if it has any text. -/
structure Extracts (html css : List Char) (r : Extraction) : Prop where
  classes : r.classes = (parse html).document.classes
  inhabited : r.classes.isEmpty = false
  filled : isBlankText css = false
  filters : filter css r.classes { maxBytes := none } = .ok r.css

theorem extracts_of_extract {options : ExtractOptions} (h : extract html css options = .ok r) :
    Extracts html css r := by
  obtain ⟨hcollect, hextract⟩ := extract_eq_ok_iff_stages.1 h
  obtain ⟨hfilled, hinhabited, hfilter⟩ := extractFor_eq_ok_iff.1 hextract
  refine ⟨?_, hinhabited, hfilled, filter_of_options hfilter⟩
  rcases collect_cases html options.collect with ⟨hok, -⟩ | ⟨e, he, -⟩
  · exact Except.ok.inj (hcollect.symm.trans hok)
  · cases hcollect.symm.trans he

/-- What is extracted is what the texts decide, unless the options refuse it. -/
theorem extract_cases (h : Extracts html css r) (options : ExtractOptions) :
    (extract html css options = .ok r ∧ ∀ e, ¬ options.Refuses html css r.css e) ∨
      ∃ e, extract html css options = .error e ∧ options.Refuses html css r.css e := by
  rcases collect_cases html options.collect with ⟨hcollect, hpage⟩ | ⟨e, he, hrefuses⟩
  · rw [← h.classes] at hcollect
    rcases filter_cases h.filters options.filter with ⟨hfilter, hsheet⟩ | ⟨e, he, hrefuses⟩
    · refine .inl ⟨?_, fun e he => ?_⟩
      · exact extract_eq_ok_iff_stages.2 ⟨hcollect, extractFor_eq_ok_iff.2 ⟨h.filled, h.inhabited, hfilter⟩⟩
      · cases he with
        | collect he => exact hpage _ he
        | filter he => exact hsheet _ he
    · refine .inr ⟨.filter e, ?_, .filter hrefuses⟩
      rw [extract_eq, hcollect]
      dsimp only [Except.mapError, Except.bind]
      rw [extractFor_eq h.filled h.inhabited, he]
      rfl
  · refine .inr ⟨.collect e, ?_, .collect hrefuses⟩
    rw [extract_eq, he]
    rfl

/-! ## Two sets of options -/

/-- A limit that is none or not below another one. -/
def SizeLimit.Relaxes (loose strict : SizeLimit) : Prop := ∀ k ∈ loose, ∃ l ∈ strict, l ≤ k

/-- Options that ask for no more than others do: each limit is none or not below the other one, and what is
asked for is asked for there as well. -/
structure ExtractOptions.Relaxes (loose strict : ExtractOptions) : Prop where
  page : loose.collect.maxBytes.Relaxes strict.collect.maxBytes
  repair : loose.collect.strict = true → strict.collect.strict = true
  sheet : loose.filter.maxBytes.Relaxes strict.filter.maxBytes
  verify : loose.filter.verify = true → strict.filter.verify = true

theorem SizeLimit.Relaxes.exists_lt {loose strict : SizeLimit} {size k : Nat} (h : loose.Relaxes strict)
    (hk : loose = some k) (hlt : k < size) : ∃ l, strict = some l ∧ l < size := by
  obtain ⟨l, hl, hle⟩ := h k hk
  exact ⟨l, hl, Nat.lt_of_le_of_lt hle hlt⟩

/-- Where options refuse something, so do those that ask for more. -/
theorem ExtractOptions.Relaxes.exists_refuses {loose strict : ExtractOptions} {e : ExtractError}
    (h : loose.Relaxes strict) (he : loose.Refuses html css output e) :
    ∃ e', strict.Refuses html css output e' := by
  cases he with
  | collect he =>
    cases he with
    | inputTooLarge hlimit hlt =>
      obtain ⟨l, hl, hlt⟩ := h.page.exists_lt hlimit hlt
      exact ⟨_, .collect (.inputTooLarge hl hlt)⟩
    | malformed hstrict herrors => exact ⟨_, .collect (.malformed (h.repair hstrict) herrors)⟩
  | filter he =>
    cases he with
    | inputTooLarge hlimit hlt =>
      obtain ⟨l, hl, hlt⟩ := h.sheet.exists_lt hlimit hlt
      exact ⟨_, .filter (.inputTooLarge hl hlt)⟩
    | invalidOutput hverify hcause => exact ⟨_, .filter (.invalidOutput (h.verify hverify) hcause)⟩

/-- What succeeds under some options succeeds with the same result under those that ask for no more. And
where these succeed, the others give the same result or an error by which they refuse it: never that there
is nothing to filter, no class or an unbalanced brace. -/
theorem extract_relaxed {loose strict : ExtractOptions} (h : loose.Relaxes strict) :
    (∀ r, extract html css strict = .ok r → extract html css loose = .ok r) ∧
      ∀ r, extract html css loose = .ok r →
        extract html css strict = .ok r ∨
          ∃ e, extract html css strict = .error e ∧ strict.Refuses html css r.css e ∧
            e ≠ .emptyCss ∧ e ≠ .noClasses ∧ ∀ line, e ≠ .filter (.unbalancedBrace line) := by
  refine ⟨fun r hr => ?_, fun r hr => ?_⟩
  · have hextracts := extracts_of_extract hr
    rcases extract_cases hextracts loose with ⟨hok, -⟩ | ⟨e, -, hrefuses⟩
    · exact hok
    · obtain ⟨e', hrefuses⟩ := h.exists_refuses hrefuses
      rcases extract_cases hextracts strict with ⟨-, hnone⟩ | ⟨e'', he, -⟩
      · exact absurd hrefuses (hnone e')
      · cases hr.symm.trans he
  · rcases extract_cases (extracts_of_extract hr) strict with ⟨hok, -⟩ | ⟨e, he, hrefuses⟩
    · exact .inl hok
    · refine .inr ⟨e, he, hrefuses, ?_⟩
      cases hrefuses with
      | collect _ => exact ⟨nofun, nofun, nofun⟩
      | filter hrefuses =>
        refine ⟨nofun, nofun, fun line hline => ?_⟩
        cases hline
        cases hrefuses

/-- A result that is CSS, and one that is none and is refused where it is read again. -/
theorem extract_relaxed_unread :
    let loose : ExtractOptions := ⟨{ maxBytes := none }, { maxBytes := some 40 }⟩
    let strict : ExtractOptions := ⟨{ maxBytes := some 20, strict := true }, { maxBytes := some 30, verify := true }⟩
    let html := "<p class='a'></p>".toList
    let good := ".a \x7b x: y \x7d\n.b \x7b\x7d".toList
    let bad := ".a:::: \x7b x: y \x7d\n.b \x7b\x7d".toList
    let r : Extraction := ⟨ClassSet.ofList ["a"], ".a:::: \x7b x: y \x7d".toList⟩
    loose.Relaxes strict ∧
      extract html good loose = .ok ⟨ClassSet.ofList ["a"], ".a \x7b x: y \x7d".toList⟩ ∧
      extract html bad loose = .ok r ∧
      ∃ e, extract html bad strict = .error e ∧ strict.Refuses html bad r.css e := by
  intro loose strict html good bad r
  have hrelaxes : loose.Relaxes strict := by
    refine ⟨nofun, nofun, ?_, nofun⟩
    rintro k ⟨⟩
    exact ⟨30, rfl, by decide⟩
  have hbad : extract html bad loose = .ok r := by decide +kernel
  refine ⟨hrelaxes, (extract_relaxed hrelaxes).1 _ (by decide +kernel), hbad, ?_⟩
  rcases (extract_relaxed hrelaxes).2 r hbad with hok | ⟨e, he, hrefuses, -⟩
  · have hnot : extract html bad strict ≠ .ok r := by decide +kernel
    exact absurd hok hnot
  · exact ⟨e, he, hrefuses⟩

end UsedCss
