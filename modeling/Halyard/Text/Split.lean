/-
# Splitting

Parts of a text between the characters that satisfy a condition.

Key definitions: `splitAtEach`, `cut`.
-/

namespace Halyard.Text

/-- Splits at each character that satisfies `p`. -/
def splitAtEach (p : Char → Bool) : List Char → List (List Char)
  | [] => [[]]
  | c :: cs =>
    match splitAtEach p cs with
    | [] => [[c]]
    | part :: parts => if p c then [] :: part :: parts else (c :: part) :: parts

/-- Splits off what follows the first character that satisfies `p`. -/
def cut (p : Char → Bool) (s : List Char) : List Char × Option (List Char) :=
  match s.dropWhile fun c => !p c with
  | [] => (s, none)
  | _ :: rest => (s.takeWhile fun c => !p c, some rest)

end Halyard.Text
