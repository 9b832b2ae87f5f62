import UsedCss.CommandLine.Arguments
import UsedCss.CommandLine.Script
import UsedCss.Extract
/-!
# The command

`Arguments.script` is what the command does: it reads the pages, collects their classes,
reads the stylesheet, and writes the part of it that uses those classes.
-/

namespace UsedCss.CommandLine

open UsedCss.Text UsedCss.Css

/-- Reads files one after another, and goes on with all their texts; `texts` are those read
already, newest first. -/
def readPages (texts : List (List Char)) (next : List (List Char) → Script) :
    List String → Script
  | [] => next texts.reverse
  | path :: paths =>
    .read path fun
      | .error e => .fail ["Error reading HTML file " ++ path, e.message]
      | .ok text => readPages (text :: texts) next paths

/-- What is printed for a set of classes: the classes and how many there are. -/
def listing (classes : ClassSet) : List Char :=
  (classes.render ++ toString classes.size ++ " classes\n").toList

/-- What is printed once the filtered stylesheet has been written. -/
def report (classes : ClassSet) (css filtered : List Char) (output : String) : List Char :=
  ("Extracted " ++ toString (byteSize filtered) ++ " of " ++ toString (byteSize css) ++
    " bytes for " ++ toString classes.size ++ " classes into " ++ output ++ "\n").toList

namespace Arguments

/-- Puts the filtered stylesheet where it is wanted. -/
def deliver (a : Arguments) (classes : ClassSet) (css filtered : List Char) : Script :=
  if a.stdout then
    .print (filtered ++ ['\n']) fun
      | .error e => .fail [e.message]
      | .ok () => .done
  else
    .write a.output (filtered ++ ['\n']) fun
      | .error e => .fail ["Error writing " ++ a.output, e.message]
      | .ok () => .printOrCrash (report classes css filtered a.output) .done

/-- Reads and filters the stylesheet. -/
def filterFile (a : Arguments) (classes : ClassSet) (path : String) : Script :=
  .read path fun
    | .error e => .fail ["Error reading CSS file " ++ path, e.message]
    | .ok css =>
      .log (filterLog css classes a.options.filter)
        (match extractFor css classes a.options with
          | .error e =>
            .fail (("Failed to extract CSS rules from " ++ path) :: e.message :: e.cause.toList)
          | .ok filtered => a.deliver classes css filtered)

/-- What is done with the classes: they are listed if that is wanted, and then used. -/
def useClasses (a : Arguments) (classes : ClassSet) : Script :=
  let next : Script :=
    match a.css with
    | some path => a.filterFile classes path
    | none =>
      if a.listClasses then .done
      else .fail ["no stylesheet given; pass a CSS file or use --list-classes"]
  if a.listClasses then .printOrCrash (listing classes) next else next

/-- What the command does. -/
def script (a : Arguments) : Script :=
  readPages [] (fun pages =>
    match collectAll pages a.options.collect with
    | .error e => .fail ["Failed to parse HTML and extract classes", e.message]
    | .ok classes => a.useClasses classes) a.html

end Arguments

/-- What a command line comes to on a system. That help and complaints are taken is not needed. -/
def runOn {σ : Type} (sys : System σ) (ws : List String) (d : σ) : Outcome σ :=
  match Arguments.parse ws with
  | .error .help => ⟨0, (sys.print d .out [] (UsageError.message .help ++ "\n").toList).1, [], d⟩
  | .error e => ⟨2, [], (sys.print d .err [] e.message.toList).1, d⟩
  | .ok a => a.script.play sys d []

/-- What a command line comes to in a directory. -/
def run (ws : List String) (d : Directory) : Outcome Directory := runOn Directory.system ws d

end UsedCss.CommandLine
