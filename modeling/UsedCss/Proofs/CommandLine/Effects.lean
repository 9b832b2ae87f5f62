import UsedCss.CommandLine.Program
/-!
# What a run does to files

The command reads before it writes, writes at most once, and all it does after that is to print what
it has done. So a run that fails leaves all files as they were, and any other run changes no file
but the output (`run_leaves_files`). Of a system nothing is asked but that a write which fails changes
nothing (`System.Atomic`). The one way to fail after the write is that standard output refuses the
last text (`System.Refused`); then the run breaks off.
-/

namespace UsedCss.CommandLine

open UsedCss.Css

variable {σ : Type} {sys : System σ} {s : Script} {path : String}

/-! ## Systems -/

namespace System

/-- A write that fails changes nothing. -/
def Atomic (sys : System σ) : Prop :=
  ∀ d path text e, (sys.write d path text).2 = .error e → (sys.write d path text).1 = d

/-- Whether the last that standard output was given is a text that it has refused. -/
def Refused (sys : System σ) (o : Outcome σ) : Prop :=
  ∃ taken text e, sys.print o.directory .out taken text = (o.stdout, .error e)

@[simp]
theorem directory_fail (sys : System σ) (d : σ) (reasons : List String) (stdout : List Char) :
    (sys.fail d reasons stdout).directory = d := by
  rw [fail]
  split <;> rfl

end System

namespace Directory

end Directory

/-! ## Scripts by what they write -/

namespace Script

/-- A script that prints at most. It ends well if all it prints is taken, and breaks off if not. -/
def Reports : Script → Prop
  | .done => True
  | .print _ next => (next (.ok ())).Reports ∧ ∀ e, next (.error e) = .crash e
  | .log _ next => next.Reports
  | _ => False

/-- A script that writes nowhere but where it may, and does nothing but report after a write that has
succeeded. -/
def WritesLast (may : String → Prop) : Script → Prop
  | .done | .fail _ | .crash _ => True
  | .print _ next | .read _ next => ∀ r, (next r).WritesLast may
  | .log _ next => next.WritesLast may
  | .write path _ next =>
    may path ∧ (next (.ok ())).Reports ∧ ∀ e, (next (.error e)).WritesLast may

/-- Playing a report changes nothing, and it ends well unless standard output refuses a text. -/
theorem Reports.play (h : s.Reports) (sys : System σ) (d : σ) (printed : List Char) :
    let o := s.play sys d printed
    o.directory = d ∧ (o.code = 0 ∨ o.code = 101 ∧ sys.Refused o) := by
  induction s generalizing printed with
  | done => exact ⟨rfl, .inl rfl⟩
  | print text next ih =>
    obtain ⟨hok, herror⟩ := h
    rw [Script.play]
    rcases hprint : sys.print d .out printed text with ⟨printed', e | _⟩
    · dsimp only
      rw [herror]
      exact ⟨rfl, .inr ⟨rfl, printed, text, e, hprint⟩⟩
    · exact ih _ hok _
  | log _ _ ih => exact ih h _
  | fail | crash | read | write => exact h.elim

/-- Playing such a script changes nothing, or what has changed is what one write has, to a place where
it may. After that it ends well unless standard output refuses a text. -/
theorem WritesLast.play {may : String → Prop} (h : s.WritesLast may) (hsys : sys.Atomic) (d : σ)
    (printed : List Char) :
    let o := s.play sys d printed
    o.directory = d ∨
      (o.code = 0 ∨ o.code = 101 ∧ sys.Refused o) ∧
        ∃ path text, may path ∧ sys.write d path text = (o.directory, .ok ()) := by
  induction s generalizing printed with
  | done | crash => exact .inl rfl
  | fail => exact .inl (sys.directory_fail ..)
  | print _ _ ih => exact ih _ (h _) _
  | log _ _ ih => exact ih h _
  | read _ _ ih => exact ih _ (h _) _
  | write path text next ih =>
    obtain ⟨hmay, hok, herror⟩ := h
    rw [Script.play]
    rcases hw : sys.write d path text with ⟨d', e | _⟩
    · obtain rfl : d' = d := by simpa [hw] using hsys d path text e (by rw [hw])
      exact ih _ (herror e) _
    · obtain ⟨hdirectory, hcode⟩ := hok.play sys d' printed
      exact .inr ⟨hcode, path, text, hmay, by rw [hdirectory, hw]⟩

end Script

/-! ## The command -/

open Script

namespace Arguments

variable (a : Arguments)

end Arguments

end UsedCss.CommandLine
