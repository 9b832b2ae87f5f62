import UsedCss.Css.Grammar.Quantity
/-!
# Transformations

The functions that move, turn, scale and skew.
-/

namespace UsedCss.Css.Parse

/-- What a function that transforms takes: some values with commas between them, and more that
may be left out. -/
structure TransformShape where
  needed : List (Parse Unit)
  optional : List (Parse Unit) := []

/-- The functions that transform. -/
def transformShape? (name : String) : Option TransformShape :=
  match name with
  | "matrix" => some { needed := List.replicate 6 number }
  | "matrix3d" => some { needed := List.replicate 16 number }
  | "translate" => some { needed := [lengthPercentage], optional := [lengthPercentage] }
  | "translatex" | "translatey" => some { needed := [lengthPercentage] }
  | "translatez" | "perspective" => some { needed := [length] }
  | "translate3d" => some { needed := [lengthPercentage, lengthPercentage, length] }
  | "scale" => some { needed := [numberOrPercentage], optional := [numberOrPercentage] }
  | "scalex" | "scaley" | "scalez" => some { needed := [numberOrPercentage] }
  | "scale3d" => some { needed := List.replicate 3 numberOrPercentage }
  | "rotate" | "rotatex" | "rotatey" | "rotatez" | "skewx" | "skewy" =>
    some { needed := [angleOrZero] }
  | "rotate3d" => some { needed := [number, number, number, angleOrZero] }
  | "skew" => some { needed := [angleOrZero], optional := [angleOrZero] }
  | _ => none

/-- Values with commas between them. -/
def inOrder : List (Parse Unit) → Parse Unit
  | [] => return ()
  | [read] => read
  | read :: more => read *> comma *> inOrder more

/-- One function that transforms. -/
def transform : Parse Unit := do
  let (name, c) ← anyFunction
  within c do
    match transformShape? name.toLower with
    | some shape =>
      inOrder shape.needed
      for read in shape.optional do
        if ← succeeds comma then read
    | none => unexpected (.ident name)

/-- Functions that transform one after the other, or none. -/
def transforms : Parse Unit := do
  if !(← succeeds (keyword "none")) then
    transform
    loop do
      skipBlank
      succeeds transform

end UsedCss.Css.Parse
