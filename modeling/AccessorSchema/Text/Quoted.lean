import AccessorSchema.Text.Letter

/-! # Quoted texts

Writing a text between double quotes and reading the contents of a string literal back.  A writer is
fixed by the one choice the two kinds of output differ in: whether a null character in front of an
octal digit is written in full. -/

namespace AccessorSchema.Text

def hexDigits (n : Nat) : List Char := Nat.toDigits 16 n

/-- The escape of a character that is not shown as itself. -/
def unicodeEscape (c : Char) : List Char :=
  '\\' :: 'u' :: '\x7b' :: hexDigits c.toNat ++ ['\x7d']

def isOctalDigit (c : Char) : Bool := '0' ≤ c && c ≤ '7'

/-- A null character; with `spellNull` it is written `\x00` where `\0` would swallow a digit. -/
def escapeNull (spellNull : Bool) (next : Option Char) : List Char :=
  if spellNull && next.any isOctalDigit then ['\\', 'x', '0', '0'] else ['\\', '0']

def escapeChar (spellNull : Bool) (c : Char) (next : Option Char) : List Char :=
  if c == '\x00' then escapeNull spellNull next
  else if c == '\t' then ['\\', 't']
  else if c == '\r' then ['\\', 'r']
  else if c == '\n' then ['\\', 'n']
  else if c == '"' || c == '\\' then ['\\', c]
  else if isExtender c then unicodeEscape c
  else if isPrintable c then [c]
  else unicodeEscape c

def escapeChars (spellNull : Bool) : List Char → List Char
  | [] => []
  | c :: rest => escapeChar spellNull c rest.head? ++ escapeChars spellNull rest

/-- A string literal of generated code. -/
def stringLiteral (text : String) : String :=
  String.ofList ('"' :: escapeChars true text.toList ++ ['"'])

/-- A text shown for debugging. -/
def shownText (text : String) : String :=
  String.ofList ('"' :: escapeChars false text.toList ++ ['"'])

/-- A control character is written with four hexadecimal digits, unless it has a letter. -/
def jsonChar (c : Char) : List Char :=
  if c == '"' || c == '\\' then ['\\', c]
  else if c == '\n' then ['\\', 'n']
  else if c == '\r' then ['\\', 'r']
  else if c == '\t' then ['\\', 't']
  else if c.toNat == 8 then ['\\', 'b']
  else if c.toNat == 12 then ['\\', 'f']
  else if c.toNat < 32 then
    ['\\', 'u', '0', '0', Nat.digitChar (c.toNat / 16), Nat.digitChar (c.toNat % 16)]
  else [c]

/-- A string in JSON. -/
def jsonText (text : String) : String :=
  String.ofList ('"' :: text.toList.flatMap jsonChar ++ ['"'])

/-! ### Reading -/

def hexValue? (c : Char) : Option Nat :=
  if '0' ≤ c && c ≤ '9' then some (c.toNat - '0'.toNat)
  else if 'a' ≤ c && c ≤ 'f' then some (c.toNat - 'a'.toNat + 10)
  else if 'A' ≤ c && c ≤ 'F' then some (c.toNat - 'A'.toNat + 10)
  else none

/-- The hexadecimal number in front of a closing brace, underscores skipped. -/
def readBraced (value : Nat) : List Char → Nat × List Char
  | [] => (value, [])
  | c :: rest =>
    if c == '\x7d' then (value, rest)
    else readBraced (match hexValue? c with | some d => value * 16 + d | none => value) rest

def isLineBlank (c : Char) : Bool := c == ' ' || c == '\t' || c == '\n' || c == '\r'

theorem readBraced_length (value : Nat) (text : List Char) :
    (readBraced value text).2.length ≤ text.length := by
  induction text generalizing value with
  | nil => simp [readBraced]
  | cons c rest ih =>
    rw [readBraced]
    split
    · simp
    · exact Nat.le_succ_of_le (ih _)

/-- Contents of a cooked literal, up to its closing quote. -/
def unescape (text : List Char) : List Char :=
  match text with
  | [] => []
  | '"' :: _ => []
  | '\\' :: 'x' :: a :: b :: rest =>
    Char.ofNat ((hexValue? a).getD 0 * 16 + (hexValue? b).getD 0) :: unescape rest
  | '\\' :: 'u' :: '\x7b' :: rest =>
    Char.ofNat (readBraced 0 rest).1 :: unescape (readBraced 0 rest).2
  | '\\' :: 'n' :: rest => '\n' :: unescape rest
  | '\\' :: 'r' :: rest => '\r' :: unescape rest
  | '\\' :: 't' :: rest => '\t' :: unescape rest
  | '\\' :: '0' :: rest => '\x00' :: unescape rest
  | '\\' :: '\n' :: rest => unescape (rest.dropWhile isLineBlank)
  | '\\' :: '\r' :: '\n' :: rest => unescape (rest.dropWhile isLineBlank)
  | '\\' :: c :: rest => c :: unescape rest
  | '\r' :: '\n' :: rest => '\n' :: unescape rest
  | c :: rest => c :: unescape rest
termination_by text.length
decreasing_by
  all_goals simp only [List.length_cons]
  any_goals omega
  · have := readBraced_length 0 rest; omega
  · have := (List.dropWhile_sublist (p := isLineBlank) (l := rest)).length_le; omega
  · have := (List.dropWhile_sublist (p := isLineBlank) (l := rest)).length_le; omega

/-- Text between the quotes of a raw literal, whose opening `r` and hashes are given. -/
def rawContents (hashes : Nat) : List Char → List Char
  | [] => []
  | '"' :: rest =>
    if (rest.take hashes).length == hashes && (rest.take hashes).all (· == '#') then []
    else '"' :: rawContents hashes rest
  | c :: rest => c :: rawContents hashes rest

/-- The value of a string literal as written, cooked or raw; `none` for any other literal. -/
def stringValue? (literal : String) : Option String :=
  match literal.toList with
  | '"' :: rest => some (String.ofList (unescape rest))
  | 'r' :: rest =>
    let hashes := (rest.takeWhile (· == '#')).length
    match rest.drop hashes with
    | '"' :: body => some (String.ofList (rawContents hashes body))
    | _ => none
  | _ => none

/-- The word directly behind the closing quote of a string literal and its hashes. -/
def stringSuffix (literal : String) : String :=
  String.ofList (literal.toList.reverse.takeWhile fun c => c != '"' && c != '#').reverse

end AccessorSchema.Text
