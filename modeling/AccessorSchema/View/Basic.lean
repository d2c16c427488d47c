import AccessorSchema.Text.Quoted
import AccessorSchema.View.Source

/-! # Read-only views

A view hands out the elements of a collection and nothing else.  It keeps a slice if the elements
lie side by side and the source itself if they do not.  Iteration counts what is left, so the
length of the rest is known at every point.  To be printed or serialized, the elements are walked and
written one by one to whatever takes a sequence. -/

namespace AccessorSchema

inductive ReadView (α : Type) where
  | slice (items : List α)
  | walked (source : ViewSource α)

/-- A walk over the elements: over a slice, or through the source with the number of elements
left. -/
inductive ReadView.Iter (α : Type) where
  | slice (rest : List α)
  | walk (rest : List α) (remaining : Nat)

/-- Something a sequence can be written to: it is opened, with the number of elements if that is known by then,
takes one element after the other, and is closed.  All of this may fail. -/
structure SeqSink (α σ ε β : Type) where
  start : Option Nat → Except ε σ
  entry : σ → α → Except ε σ
  finish : σ → Except ε β

namespace SeqSink

variable {α σ ε β : Type}

def write (sink : SeqSink α σ ε β) (length? : Option Nat) (items : List α) : Except ε β := do
  let s ← sink.start length?
  sink.finish (← items.foldlM sink.entry s)

/-- Puts the texts of the elements between brackets and a separator between them; this does not fail. -/
def brackets (separator : String) (elemText : α → String) : SeqSink α (List String) Empty String where
  start _ := return []
  entry texts x := return texts ++ [elemText x]
  finish texts := return "[" ++ separator.intercalate texts ++ "]"

/-- What comes of writing that does not fail. -/
def written : Except Empty β → β
  | .ok b => b
  | .error e => nomatch e

end SeqSink

namespace ReadView

variable {α : Type}

def ofSource (s : ViewSource α) : ReadView α :=
  match s.slice? with
  | some items => slice items
  | none => walked s

def length : ReadView α → Nat
  | slice items => items.length
  | walked s => s.length

def isEmpty (v : ReadView α) : Bool := v.length == 0

def get? : ReadView α → Nat → Option α
  | slice items, i => items[i]?
  | walked s, i => s.get? i

def first? (v : ReadView α) : Option α := v.get? 0

def last? : ReadView α → Option α
  | slice items => items.getLast?
  | walked s => if s.length == 0 then none else s.get? (s.length - 1)

/-- The elements as a slice, if the view has one. -/
def slice? : ReadView α → Option (List α)
  | slice items => some items
  | walked _ => none

/-- An index behind the last element. -/
structure OutOfBounds where
  length : Nat
  index : Nat

def OutOfBounds.message (e : OutOfBounds) : String :=
  "index out of bounds: the len is " ++ toString e.length ++
    " but the index is " ++ toString e.index

def at? (v : ReadView α) (i : Nat) : Except OutOfBounds α :=
  match v.get? i with
  | some x => .ok x
  | none => .error ⟨v.length, i⟩

/-! ### Iteration -/

namespace Iter

def next : Iter α → Option α × Iter α
  | slice [] => (none, slice [])
  | slice (x :: rest) => (some x, slice rest)
  | walk [] n => (none, walk [] n)
  | walk (x :: rest) n => (some x, walk rest (n - 1))

/-- How many elements are left. -/
def length : Iter α → Nat
  | slice rest => rest.length
  | walk _ n => n

/-- How many elements are left at least, and at most if that is known. -/
def sizeHint : Iter α → Nat × Option Nat
  | slice rest => (rest.length, some rest.length)
  | walk _ n => (n, some n)

/-- The answers of the next `n` calls and the iterator behind them. -/
def take : Nat → Iter α → List (Option α) × Iter α
  | 0, it => ([], it)
  | n + 1, it =>
    let (x, it) := it.next
    let (xs, it) := take n it
    (x :: xs, it)

/-- All elements still to come. -/
def toList : Iter α → List α
  | slice rest => rest
  | walk rest _ => rest

/-- The number of elements left, if that is settled by its bounds. -/
def exactLength? (it : Iter α) : Option Nat :=
  match it.sizeHint with
  | (low, some high) => if low == high then some low else none
  | (_, none) => none

/-- Hands the elements still to come to a function, one after the other, until there are none left or the
function fails. -/
def feed {σ ε : Type} (f : σ → α → Except ε σ) (s : σ) (it : Iter α) : Except ε σ := it.toList.foldlM f s

/-- Writes the elements still to come. -/
def writeTo {σ ε β : Type} (sink : SeqSink α σ ε β) (length? : Option Nat) (it : Iter α) : Except ε β := do
  let s ← sink.start length?
  sink.finish (← it.feed sink.entry s)

end Iter

def iter : ReadView α → Iter α
  | slice items => .slice items
  | walked s => .walk s.elements s.length

def toList (v : ReadView α) : List α := v.iter.toList

/-- Two views are equal if they have equal elements in the same order. -/
def beq [BEq α] (v w : ReadView α) : Bool := v.length == w.length && v.toList == w.toList

instance [BEq α] : BEq (ReadView α) := ⟨beq⟩

/-- Comparison with a slice, an array or a vector. -/
def eqList [BEq α] (v : ReadView α) (items : List α) : Bool :=
  v.length == items.length && v.toList == items

/-! ### Texts -/

section
variable {σ ε β : Type}

/-- Writes the elements as the entries of a list for debugging, in whatever style.  No number of entries is told
beforehand. -/
def debug (sink : SeqSink α σ ε β) (v : ReadView α) : Except ε β := v.iter.writeTo sink none

/-- Writes the elements as a serialized sequence, in whatever format. -/
def serialize (sink : SeqSink α σ ε β) (v : ReadView α) : Except ε β :=
  v.iter.writeTo sink v.iter.exactLength?

end

/-- The elements between brackets, for debugging. -/
def shown (showElem : α → String) (v : ReadView α) : String :=
  SeqSink.written (v.debug (.brackets ", " showElem))

/-- The elements as a JSON array without blanks. -/
def json (elemJson : α → String) (v : ReadView α) : String :=
  SeqSink.written (v.serialize (.brackets "," elemJson))

end ReadView

end AccessorSchema
