/-!
# Options

What a caller may limit or ask for. Every option can only reject: none changes a result.
-/

namespace UsedCss

/-- A cap on the size of an input in bytes; `none` is no cap. -/
abbrev SizeLimit := Option Nat

/-- The cap that holds unless a caller names another one: 10 MiB. -/
def defaultMaxBytes : Nat := 10 * 1024 * 1024

/-- The limit that a size breaks, if it breaks one. -/
def SizeLimit.brokenBy (limit : SizeLimit) (size : Nat) : Option Nat :=
  limit.filter (· < size)

/-- Options for collecting classes from a page. -/
structure CollectOptions where
  /-- Longer pages are refused before they are read. -/
  maxBytes : SizeLimit := some defaultMaxBytes
  /-- Whether a page that needs any repair is refused. -/
  strict : Bool := false
deriving DecidableEq, Repr

/-- Options for filtering a stylesheet. -/
structure FilterOptions where
  /-- Longer stylesheets are refused before they are scanned. -/
  maxBytes : SizeLimit := some defaultMaxBytes
  /-- Whether the result is read again as CSS and refused if it is none. -/
  verify : Bool := false
deriving DecidableEq, Repr

/-- Options for both stages. -/
structure ExtractOptions where
  collect : CollectOptions := {}
  filter : FilterOptions := {}
deriving DecidableEq, Repr

end UsedCss
