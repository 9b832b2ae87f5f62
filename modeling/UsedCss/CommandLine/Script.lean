import UsedCss.Css.Log
/-!
# Scripts

What a command does to files and streams is a `Script`: a value that says which file is read or
written or which text is printed next, and how to go on, also where that fails. A script can be
played on any `System` whose state is a value, so that what a command does to files can be reasoned
about; a `Directory` with nothing but files in it, and streams that take every text, is the simplest
one.
-/

namespace UsedCss.CommandLine

open UsedCss.Css

/-- What a file holds: text, or bytes that are no text in UTF-8. -/
inductive FileContent
  | text (cs : List Char)
  | bytes
deriving DecidableEq, Repr

/-- Why a file is not read or written, or a text not printed. -/
inductive FileError
  | notFound
  | notDirectory
  | isDirectory
  | notText
  | other (message : String)
deriving DecidableEq, Repr

/-- The wording of an error. -/
def FileError.message : FileError → String
  | .notFound => "No such file or directory (os error 2)"
  | .notDirectory => "Not a directory (os error 20)"
  | .isDirectory => "Is a directory (os error 21)"
  | .notText => "stream did not contain valid UTF-8"
  | .other message => message

/-- Steps with files and streams, one after another. -/
inductive Script
  /-- Ends well. -/
  | done
  /-- Ends with an error, given as the reasons from the outermost one on. -/
  | fail (reasons : List String)
  /-- Breaks off because standard output has refused a text. -/
  | crash (e : FileError)
  | print (text : List Char) (next : Except FileError Unit → Script)
  /-- Tells events to whoever wants to know. -/
  | log (events : List Event) (next : Script)
  | read (path : String) (next : Except FileError (List Char) → Script)
  | write (path : String) (text : List Char) (next : Except FileError Unit → Script)

/-- Prints a text, and breaks off if it is refused. -/
def Script.printOrCrash (text : List Char) (next : Script) : Script :=
  .print text fun
    | .error e => .crash e
    | .ok () => next

/-- Where a command prints: standard output or standard error. -/
inductive Stream
  | out
  | err
deriving DecidableEq, Repr

/-- What a stream is called. -/
def Stream.name : Stream → String
  | .out => "stdout"
  | .err => "stderr"

/-- What a script is played on, for files in whatever state `σ` says. -/
structure System (σ : Type) where
  read : σ → (path : String) → Except FileError (List Char)
  write : σ → (path : String) → (text : List Char) → σ × Except FileError Unit
  /-- Prints a text to a stream that has `taken` others before: gives what the stream has taken then,
  and whether that is the whole text. -/
  print : σ → Stream → (taken text : List Char) → List Char × Except FileError Unit

/-- The files of a directory by their names. -/
structure Directory where
  files : List (String × FileContent)
deriving DecidableEq, Repr

namespace Directory

/-- What is in a file. -/
def content? (d : Directory) (name : String) : Option FileContent := d.files.lookup name

/-- The name of the file that a path leads to, if it leads to a place in the directory
itself. -/
def locate (d : Directory) (path : String) : Except FileError String :=
  let parts := path.splitOn "/"
  match parts.filter fun p => p != "" && p != "." with
  | [] => .error (if path.isEmpty then .notFound else .isDirectory)
  | [name] =>
    if path.startsWith "/" then .error .notFound
    else if name == ".." then .error .isDirectory
    else if parts.getLast? = some name then .ok name
    else .error (if (d.content? name).isSome then .notDirectory else .notFound)
  | name :: _ => .error (if (d.content? name).isSome then .notDirectory else .notFound)

/-- Reads a file as text. -/
def read (d : Directory) (path : String) : Except FileError (List Char) :=
  match d.locate path with
  | .error e => .error e
  | .ok name =>
    match d.content? name with
    | none => .error .notFound
    | some .bytes => .error .notText
    | some (.text cs) => .ok cs

/-- The directory with a file holding that text. -/
def set (d : Directory) (name : String) (text : List Char) : Directory :=
  ⟨(name, .text text) :: d.files.filter (·.1 != name)⟩

/-- Writes text into a file. Where that fails nothing changes. -/
def write (d : Directory) (path : String) (text : List Char) : Directory × Except FileError Unit :=
  match d.locate path with
  | .error e => (d, .error e)
  | .ok name => (d.set name text, .ok ())

/-- A directory to play on, with streams that take every text. -/
def system : System Directory :=
  { read, write, print := fun _ _ taken text => (taken ++ text, .ok ()) }

end Directory

/-- What playing a script comes to. -/
structure Outcome (σ : Type) where
  /-- The exit status. -/
  code : Nat
  stdout : List Char
  stderr : List Char
  directory : σ
deriving DecidableEq, Repr

/-- The line that tells an error. -/
def errorLine (reasons : List String) : String := "Error: " ++ ": ".intercalate reasons ++ "\n"

/-- The line that tells that a stream has refused a text. -/
def crashLine (s : Stream) (e : FileError) : String :=
  "failed printing to " ++ s.name ++ ": " ++ e.message ++ "\n"

namespace System

variable {σ : Type} (sys : System σ) (d : σ)

/-- Breaks off because a stream has refused a text. That this can be told on standard error is not
needed. -/
def crash (s : Stream) (e : FileError) (stdout stderr : List Char) : Outcome σ :=
  ⟨101, stdout, (sys.print d .err stderr (crashLine s e).toList).1, d⟩

/-- Ends with an error, and breaks off if that cannot be told. -/
def fail (reasons : List String) (stdout : List Char) : Outcome σ :=
  match sys.print d .err [] (errorLine reasons).toList with
  | (stderr, .ok ()) => ⟨1, stdout, stderr, d⟩
  | (stderr, .error e) => sys.crash d .err e stdout stderr

end System

/-- Plays a script on a system; `printed` is what standard output has taken before. -/
def Script.play {σ : Type} (sys : System σ) (d : σ) (printed : List Char) : Script → Outcome σ
  | .done => ⟨0, printed, [], d⟩
  | .fail reasons => sys.fail d reasons printed
  | .crash e => sys.crash d .out e printed []
  | .print text next =>
    let (printed', r) := sys.print d .out printed text
    (next r).play sys d printed'
  | .log _ next => next.play sys d printed
  | .read path next => (next (sys.read d path)).play sys d printed
  | .write path text next =>
    let (d', r) := sys.write d path text
    (next r).play sys d' printed

end UsedCss.CommandLine
