import AccessorSchema.Accessor.Meaning
import AccessorSchema.View.Basic

/-! # Values of example objects

Numbers in 64 bits, texts, plain records and collections of these, with the one converter the
examples use: it doubles a number. -/

namespace AccessorSchema.Example

inductive Datum where
  | number (n : Int)
  | text (s : String)
  | record (name : String) (fields : List (String × Int))
deriving Inhabited

namespace Datum

/-- The text of a datum for debugging. -/
def shown : Datum → String
  | number n => toString n
  | text s => Text.shownText s
  | record name fields =>
    let shownFields := fields.map fun f => f.1 ++ ": " ++ toString f.2
    name ++ " \x7b " ++ ", ".intercalate shownFields ++ " \x7d"

end Datum

inductive Value where
  | single (x : Datum)
  | items (s : ViewSource Datum)

instance : Inhabited Value := ⟨.single default⟩

/-- A number brought back into the range of 64 bits. -/
def wrap (n : Int) : Int := n.bmod UInt64.size

namespace Value

def number (n : Int) : Value := single (.number n)

def doubled : Value → Value
  | single (.number n) => number (wrap (2 * n))
  | v => v

/-- Adds one to a number. -/
def next : Value → Value
  | single (.number n) => number (wrap (n + 1))
  | v => v

/-- A ring buffer with one more datum at its end. -/
def pushed : Value → Value → Value
  | items (.ring r), single x => items (.ring (r.pushBack x))
  | v, _ => v

end Value

/-- What a getter hands out. -/
inductive Result where
  | single (x : Datum)
  | view (v : ReadView Datum)

def Value.result : Value → Result
  | single x => .single x
  | items s => .view (.ofSource s)

/-- The meaning of accessors on example objects. -/
def meaning : Meaning Value Result :=
  { value := Value.result
    convert := fun _ _ v => v.doubled.result
    view := Value.result }

end AccessorSchema.Example
