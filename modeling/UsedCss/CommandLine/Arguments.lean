import UsedCss.Options
/-!
# Command-line arguments

`Arguments.parse` reads the words of a command line. A word that starts with a dash is a
switch, and after `--` no word is. A switch takes its value from the same word behind an
equals sign, or from the next word unless that is a switch; such a value counts only when
the next known switch or the end of the line comes.
-/

namespace UsedCss.CommandLine

/-- What a command line asks for. -/
structure Arguments where
  /-- The stylesheet to filter. -/
  css : Option String := none
  /-- The pages whose classes are kept, in order. -/
  html : List String := []
  /-- Where the filtered stylesheet goes. -/
  output : String := "extracted.css"
  stdout : Bool := false
  listClasses : Bool := false
  strictHtml : Bool := false
  verify : Bool := false
  /-- The size limit of inputs; zero is no limit. -/
  maxInputBytes : Nat := defaultMaxBytes
  verbosity : Nat := 0
deriving DecidableEq, Repr

/-- The options that the arguments stand for. -/
def Arguments.options (a : Arguments) : ExtractOptions :=
  let maxBytes : SizeLimit := if a.maxInputBytes = 0 then none else some a.maxInputBytes
  { collect := { maxBytes, strict := a.strictHtml }, filter := { maxBytes, verify := a.verify } }

/-- The arguments by what they are for. -/
inductive Switch
  | css
  | html
  | output
  | stdout
  | listClasses
  | strictHtml
  | verify
  | maxInputBytes
  | verbose
  | help
deriving DecidableEq, Repr

/-- An argument as error texts give it. -/
def Switch.display : Switch → String
  | .css => "[CSS]"
  | .html => "--html <HTML>"
  | .output => "--output <OUTPUT>"
  | .stdout => "--stdout"
  | .listClasses => "--list-classes"
  | .strictHtml => "--strict-html"
  | .verify => "--verify"
  | .maxInputBytes => "--max-input-bytes <MAX_INPUT_BYTES>"
  | .verbose => "--verbose..."
  | .help => "--help"

/-- Whether a switch has a value. -/
def Switch.takesValue : Switch → Bool
  | .css | .html | .output | .maxInputBytes => true
  | _ => false

/-- Whether a switch may come more than once. -/
def Switch.mayRepeat : Switch → Bool
  | .html | .verbose => true
  | _ => false

/-- The switch of a long name. -/
def Switch.ofLong? : String → Option Switch
  | "html" => some .html
  | "output" => some .output
  | "stdout" => some .stdout
  | "list-classes" => some .listClasses
  | "strict-html" => some .strictHtml
  | "verify" => some .verify
  | "max-input-bytes" => some .maxInputBytes
  | "verbose" => some .verbose
  | "help" => some .help
  | _ => none

/-- The switch of a letter. -/
def Switch.ofShort? : Char → Option Switch
  | 'o' => some .output
  | 'v' => some .verbose
  | 'h' => some .help
  | _ => none

/-- Why a text is no number of bytes. -/
inductive NumberError
  | empty
  | invalidDigit
  | tooLarge
deriving DecidableEq, Repr

/-- The wording of an error. -/
def NumberError.message : NumberError → String
  | .empty => "cannot parse integer from empty string"
  | .invalidDigit => "invalid digit found in string"
  | .tooLarge => "number too large to fit in target type"

/-- Reads a number below 2^64 in decimal digits, with a plus sign in front of it or not. -/
def readNumber (text : String) : Except NumberError Nat :=
  let digits : List Char :=
    match text.toList with
    | '+' :: c :: cs => c :: cs
    | cs => cs
  if digits.isEmpty then .error .empty
  else if !digits.all Char.isDigit then .error .invalidDigit
  else
    let n := digits.foldl (fun n c => 10 * n + (c.toNat - '0'.toNat)) 0
    if n < 1 <<< 64 then .ok n else .error .tooLarge

/-- Why a command line is not carried out, other than by an error. -/
inductive UsageError
  /-- Help was asked for; no error at all. -/
  | help
  | missingHtml
  | missingValue (switch : Switch)
  | unneededValue (switch : Switch) (value : String)
  | unknown (word : String)
  | repeated (switch : Switch)
  | invalidNumber (switch : Switch) (value : String) (cause : NumberError)
deriving DecidableEq, Repr

/-- The first line of the wording of an error. -/
def UsageError.message : UsageError → String
  | .help => "Usage: [OPTIONS] --html <HTML> [CSS]"
  | .missingHtml => "error: the following required arguments were not provided:"
  | .missingValue s => "error: a value is required for '" ++ s.display ++ "' but none was supplied"
  | .unneededValue s value =>
    "error: unexpected value '" ++ value ++ "' for '" ++ s.display ++
      "' found; no more were expected"
  | .unknown word => "error: unexpected argument '" ++ word ++ "' found"
  | .repeated s => "error: the argument '" ++ s.display ++ "' cannot be used multiple times"
  | .invalidNumber s value cause =>
    "error: invalid value '" ++ value ++ "' for '" ++ s.display ++ "': " ++ cause.message

/-- The reading of a command line so far. -/
structure Reading where
  arguments : Arguments := {}
  /-- The switches that have counted. -/
  seen : List Switch := []
  /-- A switch that has not counted yet, with its value if that has come. -/
  pending : Option (Switch × Option String) := none
  /-- Whether the next word may be the value of the pending switch. -/
  awaiting : Bool := false
  /-- Whether the stylesheet's place is taken. -/
  positional : Bool := false

namespace Reading

/-- Lets a switch count. -/
def count (r : Reading) (s : Switch) (value : Option String) : Except UsageError Reading := do
  if s.takesValue && value.isNone then throw (.missingValue s)
  if !s.mayRepeat && r.seen.contains s then throw (.repeated s)
  let value := value.getD ""
  if s.takesValue && value.isEmpty && s ≠ .maxInputBytes then throw (.missingValue s)
  let a := r.arguments
  let a ← match s with
    | .css => pure { a with css := some value }
    | .html => pure { a with html := a.html ++ [value] }
    | .output => pure { a with output := value }
    | .stdout => pure { a with stdout := true }
    | .listClasses => pure { a with listClasses := true }
    | .strictHtml => pure { a with strictHtml := true }
    | .verify => pure { a with verify := true }
    | .maxInputBytes =>
      match readNumber value with
      | .ok n => pure { a with maxInputBytes := n }
      | .error e => throw (.invalidNumber s value e)
    | .verbose => pure { a with verbosity := a.verbosity + 1 }
    | .help => throw .help
  return { r with arguments := a, seen := s :: r.seen }

/-- Lets the pending switch count. -/
def settle (r : Reading) : Except UsageError Reading :=
  match r.pending with
  | none => .ok { r with awaiting := false }
  | some (s, value) => { r with pending := none, awaiting := false }.count s value

/-- Takes a switch, with a value if it came in the same word. -/
def switch (r : Reading) (s : Switch) (value : Option String) : Except UsageError Reading := do
  let r ← r.settle
  if s.takesValue && value.isNone then return { r with pending := some (s, none), awaiting := true }
  else r.count s value

/-- Takes a word that starts with two dashes, without them. -/
def long (r : Reading) (word : List Char) : Except UsageError Reading :=
  let name := String.ofList (word.takeWhile (· != '='))
  let value :=
    match word.dropWhile (· != '=') with
    | [] => none
    | _ :: cs => some (String.ofList cs)
  match Switch.ofLong? name, value with
  | none, _ => .error (.unknown ("--" ++ name))
  | some s, some v => if s.takesValue then r.switch s value else .error (.unneededValue s v)
  | some s, none => r.switch s none

/-- Takes the letters behind a single dash. What follows the letter of a switch with a value
is the value. -/
def short (r : Reading) : List Char → Except UsageError Reading
  | [] => .ok r
  | c :: cs =>
    match Switch.ofShort? c with
    | none => .error (.unknown ("-" ++ c.toString))
    | some s =>
      if s.takesValue then
        r.switch s (match cs with
          | [] => none
          | '=' :: v => some (String.ofList v)
          | v => some (String.ofList v))
      else do (← r.switch s none).short cs

/-- Takes a word that is no switch: the value that is waited for, unless it comes after `--`,
or else the stylesheet. -/
def plain (r : Reading) (trailing : Bool) (word : String) : Except UsageError Reading :=
  match r.pending with
  | some (s, none) =>
    if r.awaiting && !trailing then .ok { r with pending := some (s, some word), awaiting := false }
    else r.settle
  | _ =>
    if r.positional then .error (.unknown word)
    else do
      let r ← r.settle
      return { r with pending := some (.css, some word), positional := true }

/-- Takes all words. -/
def words (r : Reading) (trailing : Bool) : List String → Except UsageError Reading
  | [] => r.settle
  | w :: ws =>
    if trailing then do (← r.plain true w).words true ws
    else if w == "--" then r.words true ws
    else
      match w.toList with
      | '-' :: '-' :: cs => do (← r.long cs).words false ws
      | '-' :: c :: cs => do (← r.short (c :: cs)).words false ws
      | _ => do (← r.plain false w).words false ws

end Reading

/-- Reads the words of a command line. There has to be a page. -/
def Arguments.parse (ws : List String) : Except UsageError Arguments := do
  let r ← ({} : Reading).words false ws
  if r.arguments.html.isEmpty then throw .missingHtml
  return r.arguments

end UsedCss.CommandLine
