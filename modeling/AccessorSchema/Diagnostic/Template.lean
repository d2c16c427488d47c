/-! # Message templates

A template holds numbered places in braces.  Filling it is one pass from left to right: a place
whose argument exists is replaced by it, and any other brace stays as it is. -/

namespace AccessorSchema.Template

def digitsValue (digits : List Char) : Nat :=
  digits.foldl (fun n c => n * 10 + (c.toNat - '0'.toNat)) 0

/-- The number a text spells: decimal digits, a plus sign allowed in front, in a machine word. -/
def number? (text : List Char) : Option Nat :=
  let digits := match text with
    | '+' :: rest => rest
    | _ => text
  if !digits.isEmpty && digits.all Char.isDigit && digitsValue digits < UInt64.size then
    some (digitsValue digits)
  else none

def isClosing (c : Char) : Bool := c == '\x7d'

/-- The argument of a place whose text behind the opening brace is `tail`. -/
def argument? (args : List String) (tail : List Char) : Option String :=
  if tail.any isClosing then (number? (tail.takeWhile (!isClosing ·))).bind (args[·]?) else none

/-- What follows the closing brace. -/
def behindPlace (tail : List Char) : List Char := (tail.dropWhile (!isClosing ·)).drop 1

theorem length_behindPlace_le (tail : List Char) : (behindPlace tail).length ≤ tail.length := by
  have h := (List.dropWhile_sublist (p := (!isClosing ·)) (l := tail)).length_le
  simp only [behindPlace, List.length_drop]
  omega

def fillChars (args : List String) : List Char → List Char
  | [] => []
  | c :: tail =>
    if c == '\x7b' then
      match argument? args tail with
      | some arg => arg.toList ++ fillChars args (behindPlace tail)
      | none => c :: fillChars args tail
    else c :: fillChars args tail
termination_by text => text.length
decreasing_by
  all_goals simp only [List.length_cons]
  · have := length_behindPlace_le tail; omega
  · omega
  · omega

def fill (template : String) (args : List String) : String :=
  String.ofList (fillChars args template.toList)

end AccessorSchema.Template
