/-!
# Texts

Texts are lists of characters. `isBlank` is the Unicode property White_Space, which every trim and
every split into words in this library goes by; `trim` cuts it from both ends, `words` lists the
maximal runs of characters that lack it, and `lines` cuts at newlines. `occurs` looks for a text
inside another one, and `byteSize` measures a text as the size limits do.
-/

namespace UsedCss.Text

/-! ## Blanks and words -/

/-- The Unicode property White_Space: 25 characters, among them neither U+200B nor U+FEFF. -/
def isBlank (c : Char) : Bool :=
  (9 ≤ c.val && c.val ≤ 13) || c.val == 0x20 || c.val == 0x85 || c.val == 0xA0 ||
    c.val == 0x1680 || (0x2000 ≤ c.val && c.val ≤ 0x200A) || c.val == 0x2028 ||
    c.val == 0x2029 || c.val == 0x202F || c.val == 0x205F || c.val == 0x3000

/-- The text without its blank start. -/
def trimStart (cs : List Char) : List Char := cs.dropWhile isBlank

/-- The text without its blank end. -/
def trimEnd (cs : List Char) : List Char := (cs.reverse.dropWhile isBlank).reverse

/-- The text without its blank ends. -/
def trim (cs : List Char) : List Char := trimEnd (trimStart cs)

/-- Whether a text holds nothing but blanks. -/
def isBlankText (cs : List Char) : Bool := cs.all isBlank

/-- The pieces of a text between the items that satisfy `p`: one more than there are such
items, so an empty text has one empty piece. -/
def pieces {α : Type} (p : α → Bool) (cs : List α) : List (List α) :=
  cs.foldr (fun c ps => if p c then [] :: ps else (c :: ps.headD []) :: ps.tail) [[]]

/-- The maximal non-empty runs of characters that are not blank. -/
def words (cs : List Char) : List (List Char) :=
  (pieces isBlank cs).filter (fun w => !w.isEmpty)

@[simp] theorem pieces_nil {α : Type} (p : α → Bool) : pieces p [] = [[]] := rfl

theorem pieces_cons {α : Type} (p : α → Bool) (c : α) (cs : List α) :
    pieces p (c :: cs) =
      if p c then [] :: pieces p cs
      else (c :: (pieces p cs).headD []) :: (pieces p cs).tail := rfl

/-- There is always a first piece. -/
theorem pieces_ne_nil {α : Type} (p : α → Bool) (cs : List α) : pieces p cs ≠ [] := by
  cases cs with
  | nil => simp
  | cons c cs => rw [pieces_cons]; split <;> simp

/-! ## Lines

A line ends at a newline or at the end of the text. The newline, and a carriage return right before
it, are not part of the line; a carriage return anywhere else is. A text that ends in a newline has
no further, empty line after it. -/

/-- A line that a newline ended, without the carriage return before that newline. -/
def dropReturn (line : List Char) : List Char :=
  if line.getLast? = some '\r' then line.dropLast else line

/-- The lines of a text. -/
def lines (cs : List Char) : List (List Char) :=
  let ps := pieces (· == '\n') cs
  let rest := ps.getLastD []
  ps.dropLast.map dropReturn ++ (if rest.isEmpty then [] else [rest])

/-! ## Texts in texts -/

/-- Whether `needle` stands somewhere in the text. -/
def occurs (needle : List Char) : List Char → Bool
  | [] => needle.isEmpty
  | c :: cs => needle.isPrefixOf (c :: cs) || occurs needle cs

/-- The number of bytes of the text in UTF-8. -/
def byteSize (cs : List Char) : Nat := cs.foldl (fun n c => n + c.utf8Size) 0

/-- The texts in order, with `sep` between neighbours. -/
def joinWith (sep : List Char) (ts : List (List Char)) : List Char :=
  (ts.intersperse sep).flatten

/-- What stands before the last `x`, if there is one. -/
def beforeLast (x : Char) (cs : List Char) : Option (List Char) :=
  match cs.reverse.dropWhile (· != x) with
  | [] => none
  | _ :: before => some before.reverse

end UsedCss.Text
