import UsedCss.CommandLine.Arguments
import UsedCss.Proofs.Text.Find
/-!
# Writing a command line

Every choice of arguments can be asked for: `Arguments.words` is a command line that does
(`Arguments.Sayable.asks_words`). How it is read is followed word by word (`Reading.Reads`).
-/

namespace UsedCss.CommandLine

open UsedCss.Text

variable {r : Reading} {s : Switch} {a a' : Arguments} {ws : List String} {counted counted' : List Switch}

/-- A number is read as it is written. -/
theorem readNumber_toString {n : Nat} (h : n < 1 <<< 64) : readNumber (toString n) = .ok n := by
  have hdigits : (toString n).toList = Nat.toDigits 10 n := by
    rw [Nat.toString_eq_ofList_toDigits, String.toList_ofList]
  have hall : (Nat.toDigits 10 n).all Char.isDigit = true :=
    List.all_eq_true.2 fun c hc => Nat.isDigit_of_mem_toDigits (by decide) (by decide) hc
  have hvalue : (Nat.toDigits 10 n).foldl (fun n c => 10 * n + (c.toNat - '0'.toNat)) 0 = n := by
    rw [← Nat.ofDigitChars_eq_foldl]
    exact Nat.ofDigitChars_ten_toDigits
  rw [readNumber, hdigits]
  split
  · next c cs e =>
    -- no sign is written
    rw [e] at hall
    cases hall
  · have hfilled : (Nat.toDigits 10 n).isEmpty = false := by simp [Nat.toDigits_ne_nil]
    simp only [hfilled, hall, hvalue, h, Bool.not_true, Bool.false_eq_true, if_false, if_true]

namespace Reading

/-- A reading with nothing pending. -/
def between (a : Arguments) (seen : List Switch) : Reading := { arguments := a, seen }

theorem words_of_long {w : String} {cs : List Char} (hw : w.toList = '-' :: '-' :: cs) (hne : cs ≠ []) :
    r.words false (w :: ws) = (r.long cs).bind (words · false ws) := by
  have hdashes : (w == "--") = false := by
    rw [beq_eq_false_iff_ne]
    rintro rfl
    exact hne (by simpa using hw.symm)
  rw [words, hdashes]
  simp only [Bool.false_eq_true, if_false, hw]
  rfl

/-- A word that names a switch and its value lets the switch count. -/
theorem words_value (seen : List Switch) (name : String) (hs : Switch.ofLong? name = some s)
    (hname : '=' ∉ name.toList) (htakes : s.takesValue = true) (value : String) (ws : List String) :
    (between a seen).words false (("--" ++ name ++ "=" ++ value) :: ws) =
      ((between a seen).count s (some value)).bind (words · false ws) := by
  have hlong : (between a seen).long (name.toList ++ '=' :: value.toList) =
      (between a seen).count s (some value) := by
    rw [long, takeWhile_append_cons hname, dropWhile_append_cons hname, String.ofList_toList]
    simp [hs, htakes, switch, settle, between, bind, Except.bind]
  have hword : ("--" ++ name ++ "=" ++ value).toList =
      '-' :: '-' :: (name.toList ++ '=' :: value.toList) := by
    simp [String.toList_append]
  rw [words_of_long hword (by simp), hlong]

/-- A word that names a switch without a value lets it count. -/
theorem words_flag (seen : List Switch) (name : String) (hs : Switch.ofLong? name = some s)
    (hname : '=' ∉ name.toList) (htakes : s.takesValue = false) (ws : List String) :
    (between a seen).words false (("--" ++ name) :: ws) =
      ((between a seen).count s none).bind (words · false ws) := by
  have hlong : (between a seen).long name.toList = (between a seen).count s none := by
    have hall : ∀ c ∈ name.toList, (c != '=') = true := fun c hc => by
      simpa using ne_of_mem_of_not_mem hc hname
    have htake : name.toList.takeWhile (· != '=') = name.toList := List.takeWhile_eq_self_iff.2 hall
    have hdrop : name.toList.dropWhile (· != '=') = [] := List.dropWhile_eq_nil_iff.2 hall
    rw [long, htake, hdrop, String.ofList_toList]
    simp [hs, htakes, switch, settle, between, bind, Except.bind]
  have hfilled : name.toList ≠ [] := by
    rintro e
    obtain rfl : name = "" := String.toList_eq_nil_iff.1 e
    cases hs
  rw [words_of_long (by simp [String.toList_append]) hfilled, hlong]

/-- Some words have been read, and say so much: these arguments, from some of these switches. -/
def Reads (ws : List String) (a : Arguments) (counted : List Switch) : Prop :=
  ∃ seen ⊆ counted, ∀ rest, ({} : Reading).words false (ws ++ rest) = (between a seen).words false rest

theorem Reads.mono (h : Reads ws a counted) (hsub : counted ⊆ counted') : Reads ws a counted' := by
  obtain ⟨seen, hseen, hread⟩ := h
  exact ⟨seen, List.Subset.trans hseen hsub, hread⟩

/-- A word lets a switch count, if that has not been too often. -/
theorem Reads.step (h : Reads ws a counted) {w : String} {value : Option String}
    (hs : s.mayRepeat = true ∨ s ∉ counted)
    (hword : ∀ seen rest, (between a seen).words false (w :: rest) =
      ((between a seen).count s value).bind (words · false rest))
    (hcount : ∀ seen, s.mayRepeat = true ∨ s ∉ seen →
      (between a seen).count s value = .ok (between a' (s :: seen))) :
    Reads (ws ++ [w]) a' (s :: counted) := by
  obtain ⟨seen, hseen, hread⟩ := h
  have hnew : s.mayRepeat = true ∨ s ∉ seen := hs.imp_right fun hs hmem => hs (hseen hmem)
  refine ⟨s :: seen, List.cons_subset_cons s hseen, fun rest => ?_⟩
  rw [List.append_assoc, List.singleton_append, hread, hword, hcount seen hnew]
  rfl

/-- The arguments with one of the switches that can just be on or off turned that way. -/
def turn (a : Arguments) (on : Bool) : Switch → Arguments
  | .stdout => { a with stdout := on }
  | .listClasses => { a with listClasses := on }
  | .strictHtml => { a with strictHtml := on }
  | .verify => { a with verify := on }
  | _ => a

theorem count_turn {seen : List Switch} (hs : s ∈ [.stdout, .listClasses, .strictHtml, .verify])
    (hseen : s ∉ seen) :
    (between a seen).count s none = .ok (between (turn a true s) (s :: seen)) := by
  simp only [List.mem_cons, List.not_mem_nil, or_false] at hs
  rcases hs with rfl | rfl | rfl | rfl <;>
    simp [count, between, turn, Switch.takesValue, Switch.mayRepeat, pure, Except.pure, bind,
      Except.bind, hseen]

/-- A switch that is there only if it is to be on. -/
theorem Reads.flag (h : Reads ws a counted) (name : String) (hname : Switch.ofLong? name = some s)
    (hplain : '=' ∉ name.toList) (hs : s ∈ [.stdout, .listClasses, .strictHtml, .verify])
    (hnew : s ∉ counted) (hoff : turn a false s = a) (on : Bool) :
    Reads (ws ++ if on then ["--" ++ name] else []) (turn a on s) (s :: counted) := by
  cases on with
  | true =>
    have hkind : ∀ s ∈ [Switch.stdout, .listClasses, .strictHtml, .verify],
        s.takesValue = false ∧ s.mayRepeat = false := by decide
    obtain ⟨htakes, hrepeat⟩ := hkind s hs
    refine h.step (.inr hnew) (fun seen => words_flag seen name hname hplain htakes) ?_
    exact fun seen hseen => count_turn hs (hseen.resolve_left (by simp [hrepeat]))
  | false =>
    rw [if_neg Bool.false_ne_true, List.append_nil, hoff]
    exact h.mono (List.subset_cons_self s counted)

theorem Reads.output (h : Reads ws a counted) (hs : .output ∉ counted) {path : String} (hpath : path ≠ "") :
    Reads (ws ++ ["--output=" ++ path]) { a with output := path } (.output :: counted) := by
  refine h.step (.inr hs) (fun seen => words_value seen "output" rfl (by decide) rfl path) ?_
  intro seen hseen
  simp [count, between, Switch.takesValue, Switch.mayRepeat, pure, Except.pure, bind, Except.bind,
    hseen.resolve_left nofun, hpath]

theorem Reads.maxInputBytes (h : Reads ws a counted) (hs : .maxInputBytes ∉ counted) {n : Nat}
    (hn : n < 1 <<< 64) :
    Reads (ws ++ ["--max-input-bytes=" ++ toString n]) { a with maxInputBytes := n }
      (.maxInputBytes :: counted) := by
  refine h.step (.inr hs)
    (fun seen => words_value seen "max-input-bytes" rfl (by decide) rfl (toString n)) ?_
  intro seen hseen
  have hread : readNumber n.repr = .ok n := readNumber_toString hn
  simp [count, between, Switch.takesValue, Switch.mayRepeat, pure, Except.pure, bind, Except.bind,
    hseen.resolve_left nofun, hread]

theorem Reads.html (h : Reads ws a counted) (hs : .html ∈ counted) {paths : List String}
    (hpaths : ∀ path ∈ paths, path ≠ "") :
    Reads (ws ++ paths.map ("--html=" ++ ·)) { a with html := a.html ++ paths } counted := by
  induction paths generalizing ws a with
  | nil => simpa using h
  | cons path paths ih =>
    obtain ⟨hpath, hpaths⟩ := List.forall_mem_cons.1 hpaths
    have hfirst : Reads (ws ++ ["--html=" ++ path]) { a with html := a.html ++ [path] } counted := by
      refine (h.step (.inl rfl)
        (fun seen => words_value seen "html" rfl (by decide) rfl path) ?_).mono
          (List.cons_subset.2 ⟨hs, List.Subset.refl _⟩)
      intro seen _
      simp [count, between, Switch.takesValue, Switch.mayRepeat, pure, Except.pure, bind, Except.bind, hpath]
    simpa using ih hfirst hpaths

theorem Reads.verbose (h : Reads ws a counted) (hs : .verbose ∈ counted) (n : Nat) :
    Reads (ws ++ List.replicate n "--verbose") { a with verbosity := a.verbosity + n } counted := by
  induction n generalizing ws a with
  | zero => simpa using h
  | succ n ih =>
    have hfirst : Reads (ws ++ ["--verbose"]) { a with verbosity := a.verbosity + 1 } counted := by
      refine (h.step (.inl rfl) (fun seen => words_flag seen "verbose" rfl (by decide) rfl) ?_).mono
        (List.cons_subset.2 ⟨hs, List.Subset.refl _⟩)
      intro seen _
      simp [count, between, Switch.takesValue, Switch.mayRepeat, pure, Except.pure, bind, Except.bind]
    simpa [List.replicate_succ, Nat.add_assoc, Nat.add_comm 1] using ih hfirst

/-- The stylesheet comes last, where no word is a switch any more. -/
theorem Reads.css (h : Reads ws a counted) (hs : .css ∉ counted) (hcss : a.css = none)
    {css : Option String} (hpath : css ≠ some "") :
    ∃ r, ({} : Reading).words false (ws ++ (css.map fun path => ["--", path]).getD []) = .ok r ∧
      r.arguments = { a with css } := by
  obtain ⟨seen, hseen, hread⟩ := h
  rw [hread]
  cases css with
  | none =>
    refine ⟨between a seen, rfl, ?_⟩
    cases a
    cases hcss
    rfl
  | some path =>
    have hpath' : path ≠ "" := fun e => hpath (congrArg some e)
    have hnew : Switch.css ∉ seen := fun hmem => hs (hseen hmem)
    refine ⟨{ between { a with css := some path } (.css :: seen) with positional := true }, ?_, rfl⟩
    simp [words, plain, settle, count, between, Switch.takesValue, Switch.mayRepeat, pure, Except.pure,
      bind, Except.bind, hpath', hnew]

end Reading

namespace Arguments

/-- A command line that asks for the arguments. -/
def words (a : Arguments) : List String :=
  ["--output=" ++ a.output] ++ ["--max-input-bytes=" ++ toString a.maxInputBytes] ++
    (if a.stdout then ["--stdout"] else []) ++ (if a.listClasses then ["--list-classes"] else []) ++
    (if a.strictHtml then ["--strict-html"] else []) ++ (if a.verify then ["--verify"] else []) ++
    a.html.map ("--html=" ++ ·) ++ List.replicate a.verbosity "--verbose" ++
    (a.css.map fun path => ["--", path]).getD []

end Arguments

/-- The words of a command line ask for these arguments, be there a page among them or not. -/
def Asks (ws : List String) (a : Arguments) : Prop :=
  (({} : Reading).words false ws).map Reading.arguments = .ok a

/-- Without a page the command line is refused. -/
theorem Asks.parse_eq (h : Asks ws a) :
    Arguments.parse ws = if a.html.isEmpty then .error .missingHtml else .ok a := by
  rw [Asks] at h
  rw [Arguments.parse]
  cases hr : ({} : Reading).words false ws with
  | error e =>
    rw [hr] at h
    cases h
  | ok r =>
    rw [hr] at h
    cases h
    simp only [bind, Except.bind, pure, Except.pure]
    cases r.arguments.html.isEmpty <;> rfl

end UsedCss.CommandLine
