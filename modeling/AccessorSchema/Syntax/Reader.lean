import AccessorSchema.Syntax.Cursor
import AccessorSchema.Syntax.Printer

/-! # Readers of token trees

A reader takes trees from the front of a cursor and answers with a value and the cursor behind them,
or with the first fault.  A fault names what was expected and where; at the end of a group it points
at the closing delimiter.  What is left at the end of a group is no fault yet: the first such rest
is remembered and refused once all has been read. -/

namespace AccessorSchema

def Reader (α : Type) : Type := Cursor → Except SyntaxError (α × Cursor)

namespace Reader

variable {α β : Type}

protected def pure (x : α) : Reader α := fun c => .ok (x, c)

protected def bind (p : Reader α) (f : α → Reader β) : Reader β := fun c =>
  match p c with
  | .ok (x, c') => f x c'
  | .error e => .error e

instance : Monad Reader where
  pure := Reader.pure
  bind := Reader.bind

instance : Inhabited (Reader α) := ⟨fun c => .error ⟨.expected false [], c.closing⟩⟩

/-- The trees in front, untouched. -/
def look : Reader (List TokenTree) := fun c => .ok (c.trees, c)

def looksAt (f : List TokenTree → Bool) : Reader Bool := fun c => .ok (f c.trees, c)

def atEnd : Reader Bool := looksAt (·.isEmpty)

/-- The place of what is in front. -/
def here : Reader Span := fun c => .ok (c.place, c)

def failAt (fault : SyntaxFault) (place : Span) : Reader α := fun _ => .error ⟨fault, place⟩

def fail (fault : SyntaxFault) : Reader α := fun c => .error ⟨fault, c.place⟩

/-- Fails, naming what could have stood here; without a name the whole tree is wrong. -/
def failExpected (things : List String) : Reader α := fun c =>
  let whole := if things.isEmpty then c.trees.head?.map TokenTree.span else none
  .error ⟨.expected c.trees.isEmpty things, whole.getD c.place⟩

/-- A value, or its fault at the place of what it was computed from. -/
def require (x : Located (Except SyntaxFault α)) : Reader α :=
  match x.value with
  | .ok a => Reader.pure a
  | .error fault => failAt fault x.span

/-- Takes the first tree if `f` has a value for it. -/
def take (things : List String) (f : TokenTree → Option α) : Reader α := fun c =>
  match c.trees.head?.bind f with
  | some x => .ok (x, c.drop 1)
  | none => failExpected things c

/-- `p`, or nothing taken and `none` when it fails. -/
def attempt (p : Reader α) : Reader (Option α) := fun c =>
  match p c with
  | .ok (x, c') => .ok (some x, c')
  | .error _ => .ok (none, c)

/-- A value with the place of the trees it was read from. -/
def located (p : Reader α) : Reader (Located α) := fun c =>
  match p c with
  | .ok (x, c') => .ok (⟨x, c.place.through c'.passed⟩, c')
  | .error e => .error e

/-- The trees taken since `start` was in front, as they stand in the source. -/
def since (start : List TokenTree) : Reader (List TokenTree) := fun c =>
  .ok (start.take (start.length - c.trees.length), c)

def keptSince (start : List TokenTree) : Reader Code := do
  return Piece.ofTokens (TokenTree.tokens (← since start))

/-- Remembers a complaint unless there is one already. -/
def note (complaint : Option SyntaxError) : Reader Unit := fun c =>
  .ok ((), { c with leftover := c.leftover <|> complaint })

/-- Reads all of `trees`, which end at `closing`. -/
def runAt (p : Reader α) (trees : List TokenTree) (closing : Span) : Except SyntaxError α :=
  match p (.start trees closing) with
  | .error e => .error e
  | .ok (x, c) =>
    match c.complaint? with
    | none => .ok x
    | some e => .error e

/-- Reads all of a text that stands on its own. -/
def run (p : Reader α) (trees : List TokenTree) : Except SyntaxError α := p.runAt trees .origin

/-! ### Tokens -/

/-- The mark with the given characters as one token. -/
def mark (text : String) : Reader Code := fun c =>
  if TokenTree.atMark text c.trees then .ok ([.word text], c.drop text.length)
  else .error ⟨.missingMark text, c.place⟩

def word (w : String) : Reader Code :=
  take [SyntaxFault.quoted w] fun
    | .ident x _ => if x.isWord w then some [.word w] else none
    | _ => none

/-- Any identifier, keywords included. -/
def anyIdent : Reader Ident :=
  take ["ident"] fun
    | .ident x _ => some x
    | _ => none

/-- A name; a keyword is refused by name. -/
def name : Reader Ident := fun c =>
  match c.trees with
  | .ident x s :: _ =>
    if x.isName then .ok (x, c.drop 1)
    else .error ⟨.expected false ["identifier, found keyword " ++ SyntaxFault.quoted x.text], s⟩
  | _ => failExpected ["identifier"] c

/-- A name, or one of the given keywords. -/
def nameOr (keywords : List String) : Reader Ident := do
  if ← looksAt (TokenTree.atAnyWord keywords) then anyIdent else name

def identCode (p : Reader Ident) : Reader Code := do
  let x ← p
  return [.word x.text]

/-- The name of a lifetime, without its quote. -/
def lifetimeName : Reader String := fun c =>
  match c.trees with
  | .punct '\'' _ _ :: .ident x _ :: _ => .ok (x.text, c.drop 2)
  | _ => failExpected ["lifetime"] c

def lifetime : Reader Code := do
  return [.word ("'" ++ (← lifetimeName))]

/-- A literal, a minus sign in front of a number included. -/
def literal : Reader Literal := fun c =>
  match TokenTree.literal? c.trees with
  | some (l, place, rest) => .ok (l, { c with trees := rest, passed := place })
  | none => failExpected ["literal"] c

def literalCode : Reader Code := do
  return (← literal).code

def delimNoun : Delim → String
  | .paren => "parentheses"
  | .bracket => "square brackets"
  | .brace => "curly braces"
  | .invisible => "invisible group"

/-- A group whose contents `p` reads, with the complaint about what is left of them. -/
def opened (d : Delim) (p : Reader α) : Reader (α × Option SyntaxError) := fun c =>
  match c.trees with
  | .group e body _ s :: rest =>
    if d == e then
      match p ⟨body, s, s, c.leftover⟩ with
      | .ok (x, inner) => .ok ((x, inner.rest? (some d)), ⟨rest, c.closing, s, inner.leftover⟩)
      | .error err => .error err
    else failExpected [delimNoun d] c
  | _ => failExpected [delimNoun d] c

/-- A group that is over with its contents. -/
def within (d : Delim) (p : Reader α) : Reader α := do
  let (x, complaint) ← opened d p
  note complaint
  return x

/-- A group of code. -/
def grouped (d : Delim) (p : Reader Code) : Reader Code := do
  return [.group d (← within d p)]

/-- A delimited group taken as it stands: its delimiter, contents and closing place. -/
def anyGroup : Reader (Delim × List TokenTree × Span) :=
  take ["delimiter"] fun
    | .group d body _ s => some (d, body, s)
    | _ => none

/-- The rest of a group as it stands in the source. -/
def verbatim : Reader Code := fun c =>
  .ok (Piece.ofTokens (TokenTree.tokens c.trees), c.drop c.trees.length)

/-! ### Choice and repetition -/

def optional (cond : List TokenTree → Bool) (p : Reader Code) : Reader Code := do
  if ← looksAt cond then p else return []

def optWord (w : String) : Reader Code := optional (TokenTree.atWord w) (word w)

def optMark (m : String) : Reader Code := optional (TokenTree.atMark m) (mark m)

/-- Repeats `p` as long as `more` holds and trees are taken. -/
def manyWith (fuel : Nat) (more : List TokenTree → Bool) (p : Reader α) : Reader (List α) :=
  match fuel with
  | 0 => Reader.pure []
  | fuel + 1 => fun c =>
    if more c.trees then
      match p c with
      | .error e => .error e
      | .ok (x, c') =>
        if c'.trees.length < c.trees.length then
          match manyWith fuel more p c' with
          | .error e => .error e
          | .ok (xs, c'') => .ok (x :: xs, c'')
        else .ok ([x], c')
    else .ok ([], c)

/-- Repeats `p` as long as `more` holds; every round takes a tree, so their number bounds it. -/
def many (more : List TokenTree → Bool) (p : Reader α) : Reader (List α) := fun c =>
  manyWith (c.trees.length + 1) more p c

def manyCode (more : List TokenTree → Bool) (p : Reader Code) : Reader Code := do
  return (← many more p).flatten

def seriesWith (fuel : Nat) (sep : String) (stop : List TokenTree → Bool)
    (p : List α → Reader (α × Bool)) (before : List α) : Reader (List α × Bool) :=
  match fuel with
  | 0 => Reader.pure ([], false)
  | fuel + 1 => do
    if ← looksAt stop then return ([], !before.isEmpty)
    else
      let (x, isLast) ← p before
      if isLast || (← looksAt stop) then return ([x], false)
      else
        let _ ← mark sep
        let (xs, trailing) ← seriesWith fuel sep stop p (before ++ [x])
        return (x :: xs, trailing)

/-- Elements separated by `sep` until `stop` holds, and whether a separator ends the list.  An
element knows those in front of it, and may end the list. -/
def series (sep : String) (stop : List TokenTree → Bool) (p : List α → Reader (α × Bool)) :
    Reader (List α × Bool) :=
  fun c => seriesWith (c.trees.length + 1) sep stop p [] c

/-- Elements of one form separated by `sep` until `stop` holds. -/
def listOf (sep : String) (stop : List TokenTree → Bool) (p : Reader α) : Reader (List α × Bool) :=
  series sep stop fun _ => do
    return (← p, false)

/-- Comma separated elements up to the end of a group. -/
def commaList (p : Reader α) : Reader (List α × Bool) := listOf "," (·.isEmpty) p

/-- Elements of code with the separators between them. -/
def joinCode (sep : String) (trailing : Bool) (xs : List Code) : Code :=
  Listed.separated (.word sep) trailing xs

def codeOf (sep : String) (p : Reader (List Code × Bool)) : Reader Code := do
  let (xs, trailing) ← p
  return joinCode sep trailing xs

def commaCode (p : Reader Code) : Reader Code := codeOf "," (commaList p)

def addendsWith (fuel : Nat) (more : List TokenTree → Bool) (p : Reader α) :
    Reader (List α × Bool) :=
  match fuel with
  | 0 => Reader.pure ([], false)
  | fuel + 1 => do
    if ← looksAt (TokenTree.atMark "+") then
      let _ ← mark "+"
      if ← looksAt more then
        let x ← p
        let (xs, trailing) ← addendsWith fuel more p
        return (x :: xs, trailing)
      else return ([], true)
    else return ([], false)

/-- What follows the first element of a sum: elements with a `+` in front of each.  The sum is over
behind a `+` that `more` does not hold behind. -/
def addends (more : List TokenTree → Bool) (p : Reader α) : Reader (List α × Bool) := fun c =>
  addendsWith (c.trees.length + 1) more p c

/-- A sum that ends where `stop` holds or no `+` follows; it may be empty. -/
def sum (stop : List TokenTree → Bool) (p : Reader α) : Reader (List α × Bool) := do
  if ← looksAt stop then return ([], false)
  else
    let first ← p
    let (rest, trailing) ← addends (!stop ·) p
    return (first :: rest, trailing)

end Reader

end AccessorSchema
