import UsedCss.Html.Lexer
import UsedCss.Html.Tree.Rules
/-!
# From characters to a document

`Builder.take` gives a token to the rules until one of them is done with it, and `parse`
runs the lexer and the builder over a page.
-/

namespace UsedCss.Html

/-- Whether white space and other text are different tokens in a mode. -/
def InsertionMode.splitsText : InsertionMode → Bool
  | .initial | .beforeHtml | .beforeHead | .inHead | .afterHead | .inColumnGroup | .afterBody
  | .inFrameset | .afterFrameset | .afterAfterBody | .afterAfterFrameset => true
  | _ => false

namespace Builder

/-- Gives a token to the rules, at most `fuel` times. -/
def settle : (fuel : Nat) → Builder → Token → Builder × Verdict
  | 0, b, _ => (b, .done)
  | fuel + 1, b, t =>
    match if b.takesAsForeign t then b.inForeign t else b.rule t with
    | (b, .again mode) => settle fuel (b.enter mode) t
    | (b, .done) =>
      match t with
      | .tag tag =>
        (if tag.kind = .start && tag.selfClosing then b.report .unacknowledgedSelfClosing else b,
          .done)
      | _ => (b, .done)
    | step => step

/-- How often a token can be given to the rules: each time either a mode further on in the
page takes it or an open element has been closed. -/
def patience (b : Builder) : Nat := 8 * b.openElements.length + 32

/-- Takes text, in parts of one kind each where the mode tells white space from other text. -/
def takeText : (fuel : Nat) → Builder → List Char → Builder
  | 0, b, _ | _, b, [] => b
  | fuel + 1, b, c :: cs =>
    if b.mode.splitsText && !b.takesAsForeign (.text (c :: cs)) then
      let same := fun d => isHtmlSpace d == isHtmlSpace c
      (settle b.patience b (.text (c :: cs.takeWhile same))).1.takeText fuel (cs.dropWhile same)
    else (settle b.patience b (.text (c :: cs))).1

/-- Takes a token. -/
def take (b : Builder) (t : Token) : Builder × Verdict :=
  let ignoreNewline := b.ignoreNewline
  let b := { b with ignoreNewline := false }
  match t with
  | .error e => (b.report e, .done)
  | .doctype d =>
    if b.mode = .initial then ({ b with oldRules := d.asksForOldRules, mode := .beforeHtml }, .done)
    else (b.report (.unexpectedDoctype b.mode), .done)
  | .text cs =>
    let cs := if ignoreNewline && cs.head? = some '\n' then cs.tail else cs
    (b.takeText cs.length cs, .done)
  | t => settle b.patience b t

end Builder

namespace Lexer

/-- Heeds what the tree builder says about a tag. A byte order mark right after a script does
not count. -/
def heedVerdict (lx : Lexer) (v : Verdict) (rest : List Char) : Lexer :=
  match v with
  | .raw kind => lx.enter (.rawData kind)
  | .plaintext => lx.enter .plaintext
  | .script => if rest.head? = some '\uFEFF' then { lx with skip := 1 } else lx
  | _ => lx

end Lexer

/-- Gives the lexer's tokens to the builder. -/
def deliver (lx : Lexer) (b : Builder) (rest : List Char) : Lexer × Builder :=
  lx.out.reverse.foldl (fun (lx, b) t =>
    let (b, v) := b.take t
    (lx.heedVerdict v rest, b)) ({ lx with out := [] }, b)

/-- Runs the lexer and the builder over the rest of a page. -/
def parseFrom (lx : Lexer) (b : Builder) : List Char → Builder
  | [] => (deliver lx.finish b []).2
  | c :: rest =>
    if lx.skip = 0 then
      let (lx, b) := deliver (lx.step b.currentIsForeign c rest) b rest
      parseFrom lx b rest
    else parseFrom { lx with skip := lx.skip - 1 } b rest

/-- A page with one newline for each end of a line: a carriage return, a newline, or the one
before the other. -/
def normalizeNewlines (cs : List Char) : List Char :=
  (cs.foldl (fun (afterReturn, out) c =>
    if c = '\r' then (true, '\n' :: out)
    else if c = '\n' && afterReturn then (false, out)
    else (false, c :: out)) (false, [])).2.reverse

/-- A page without a byte order mark in front of it. -/
def dropByteOrderMark : List Char → List Char
  | '\uFEFF' :: cs => cs
  | cs => cs

/-- A parsed page: its document, and the errors from the first element on. -/
structure Page where
  document : Document
  errors : List ParseError
deriving DecidableEq, Repr

/-- Parses a page. -/
def parse (html : List Char) : Page :=
  let b := parseFrom {} {} (dropByteOrderMark (normalizeNewlines html))
  ⟨b.draft.document, b.draft.reported⟩

end UsedCss.Html
