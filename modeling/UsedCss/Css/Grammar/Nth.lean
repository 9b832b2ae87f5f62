import UsedCss.Css.Grammar.Cursor
/-!
# Places in a row

The notation `an+b` for every `a`-th place in a row from the `b`-th on. As a number may have a
unit, and a name may hold hyphens and digits, `n-1` and `2n-1` come as one token.
-/

namespace UsedCss.Css.Parse

/-- A whole number without a sign. -/
def unsignedInteger : Parse Unit := do
  let c ← next
  match c.token with
  | .number n => if !n.signed && n.whole then return () else unexpected c.token
  | t => unexpected t

/-- The number after the `n`, if there is one. -/
def nthOffset : Parse Unit := do
  let here ← get
  match (← next?).map Component.token with
  | some (.delim '+') | some (.delim '-') => unsignedInteger
  | some (.number n) => if n.signed && n.whole then return () else set here
  | _ => set here

/-- What starts with the letter of the notation, up to the number after it. Anything else is
refused as the token `found`. -/
def nthLetter (found : Token) (text : String) : Parse Unit :=
  match text.toLower.toList with
  | ['n'] => nthOffset
  | ['n', '-'] => unsignedInteger
  | 'n' :: '-' :: digits => if digits.all Char.isDigit then return () else unexpected found
  | _ => unexpected found

/-- A place in a row, or `even` or `odd`. -/
def nth : Parse Unit := do
  let c ← next
  match c.token with
  | .number n => if n.whole then return () else unexpected c.token
  | .dimension n unit => if n.whole then nthLetter (.ident unit) unit else unexpected c.token
  | .ident s =>
    if sameName s "even" || sameName s "odd" then return ()
    else nthLetter c.token (if s.startsWith "-" then (s.drop 1).toString else s)
  | .delim '+' =>
    let c ← nextAny
    match c.token with
    | .ident s => nthLetter c.token s
    | t => unexpected t
  | t => unexpected t

end UsedCss.Css.Parse
