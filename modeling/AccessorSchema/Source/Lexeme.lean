import AccessorSchema.Ident

/-! # Lexemes

Scanners for the pieces of a source text.  Each takes the text in front of it and answers with what
is left behind the piece, or `none` when the text does not start with one. -/

namespace AccessorSchema.Lexeme

/-- `text` without `lead` in front. -/
def after? (lead text : List Char) : Option (List Char) :=
  if lead.isPrefixOf text then some (text.drop lead.length) else none

def startsWith (text : List Char) (lead : String) : Bool := lead.toList.isPrefixOf text

/-! ### Blanks and comments -/

/-- The white space of Unicode beyond ASCII. -/
def wideSpaces : List Nat :=
  [0x85, 0xA0, 0x1680, 0x2000, 0x2001, 0x2002, 0x2003, 0x2004, 0x2005, 0x2006, 0x2007, 0x2008,
   0x2009, 0x200A, 0x2028, 0x2029, 0x202F, 0x205F, 0x3000]

def isSpace (c : Char) : Bool :=
  c == ' ' || (9 ≤ c.toNat && c.toNat ≤ 13) || wideSpaces.contains c.toNat

/-- What may stand between lexemes: white space and the two direction marks. -/
def isBlank (c : Char) : Bool := isSpace c || c.toNat == 0x200E || c.toNat == 0x200F

/-- What is left from the end of the line on; a carriage return in front of it is skipped too. -/
def lineEnd : List Char → List Char
  | [] => []
  | '\n' :: rest => '\n' :: rest
  | '\r' :: '\n' :: rest => '\n' :: rest
  | _ :: rest => lineEnd rest

/-- Behind a block comment of which `depth` openings are still unmatched. -/
def blockEnd (depth : Nat) : List Char → Option (List Char)
  | '/' :: '*' :: rest => blockEnd (depth + 1) rest
  | '*' :: '/' :: rest => if depth ≤ 1 then some rest else blockEnd (depth - 1) rest
  | _ :: rest => blockEnd depth rest
  | [] => none

/-- One blank or one comment that is no documentation. -/
def blank? (text : List Char) : Option (List Char) :=
  match text with
  | [] => none
  | c :: rest =>
    if isBlank c then some rest
    else if startsWith text "//" && (!startsWith text "///" || startsWith text "////") &&
        !startsWith text "//!" then some (lineEnd text)
    else if startsWith text "/**/" then some (text.drop 4)
    else if startsWith text "/*" && (!startsWith text "/**" || startsWith text "/***") &&
        !startsWith text "/*!" then blockEnd 0 text
    else none

/-- A documentation comment: its contents and whether it documents the enclosing item. -/
structure Doc where
  contents : List Char
  inner : Bool

/-- The part of `text` in front of its tail `rest`. -/
def upTo (text rest : List Char) : List Char := text.take (text.length - rest.length)

def dropReturn (line : List Char) : List Char :=
  if line.getLast? == some '\r' then line.dropLast else line

/-- A carriage return that no line feed follows. -/
def hasBareReturn : List Char → Bool
  | [] => false
  | '\r' :: '\n' :: rest => hasBareReturn rest
  | c :: rest => c == '\r' || hasBareReturn rest

def lineDoc (inner : Bool) (text : List Char) : Doc × List Char :=
  let body := text.drop 3
  let rest := lineEnd body
  let line := upTo body rest
  (⟨if rest.isEmpty then line else dropReturn line, inner⟩, rest)

def blockDoc? (inner : Bool) (text : List Char) : Option (Doc × List Char) :=
  (blockEnd 0 text).map fun rest =>
    let comment := upTo text rest
    (⟨(comment.drop 3).take (comment.length - 5), inner⟩, rest)

def doc? (text : List Char) : Option (Doc × List Char) :=
  let found :=
    if startsWith text "//!" then some (lineDoc true text)
    else if startsWith text "/*!" then blockDoc? true text
    else if startsWith text "///" && !startsWith text "////" then some (lineDoc false text)
    else if startsWith text "/**" && !startsWith text "/***" then blockDoc? false text
    else none
  found.filter fun d => !hasBareReturn d.1.contents

/-! ### Identifiers -/

def identRest (text : List Char) : List Char := text.dropWhile Text.isIdentContinue

/-- An identifier without `r#`. -/
def bareIdent? : List Char → Option (List Char)
  | [] => none
  | c :: rest => if Text.isIdentStart c then some (identRest rest) else none

/-- Beginnings of literals that could be mistaken for an identifier. -/
def literalLeads : List String :=
  ["r\"", "r#\"", "r##", "b\"", "b'", "br\"", "br#", "c\"", "cr\"", "cr#"]

/-- An optional identifier directly behind a literal. -/
def suffix (text : List Char) : List Char := (bareIdent? text).getD text

/-! ### Literals -/

def isHex (c : Char) : Bool :=
  Text.isDigit c || ('a' ≤ c && c ≤ 'f') || ('A' ≤ c && c ≤ 'F')

def hexValue (c : Char) : Nat :=
  if Text.isDigit c then c.toNat - '0'.toNat
  else if 'a' ≤ c then c.toNat - 'a'.toNat + 10
  else c.toNat - 'A'.toNat + 10

/-- What a quoted literal may hold: any characters, ASCII alone, or any but the null character. -/
inductive Alphabet where
  | full
  | ascii
  | nonNull
deriving DecidableEq

namespace Alphabet

def holds (a : Alphabet) (c : Char) : Bool :=
  match a with
  | full => true
  | ascii => Text.isAscii c
  | nonNull => c != '\x00'

/-- The two digits of an escape by number. -/
def holdsHex (a : Alphabet) (x y : Char) : Bool :=
  isHex x && isHex y &&
    match a with
    | full => x ≤ '7'
    | ascii => true
    | nonNull => !(x == '0' && y == '0')

end Alphabet

/-- The value of a character code and what is behind its closing brace. -/
def code? (digits value : Nat) : List Char → Option (Nat × List Char)
  | [] => none
  | c :: rest =>
    if c == '\x7d' then (if 0 < digits then some (value, rest) else none)
    else if isHex c then
      (if digits < 6 then code? (digits + 1) (value * 16 + hexValue c) rest else none)
    else if c == '_' && 0 < digits then code? digits value rest
    else none

/-- A character code must stand for a character that the literal may hold. -/
def unicode? (a : Alphabet) (text : List Char) : Option (List Char) :=
  match code? 0 0 text with
  | some (value, rest) =>
    if a != .ascii && value.isValidChar && a.holds (Char.ofNat value) then some rest else none
  | none => none

/-- Behind one escape, given what follows the backslash. -/
def escape? (a : Alphabet) : List Char → Option (List Char)
  | 'x' :: x :: y :: rest => if a.holdsHex x y then some rest else none
  | 'u' :: '\x7b' :: rest => unicode? a rest
  | '0' :: rest => if a == .nonNull then none else some rest
  | c :: rest => if ['n', 'r', 't', '\\', '\'', '"'].contains c then some rest else none
  | [] => none

/-- Behind a line break that a backslash hides, and the blanks that follow it. -/
def hiddenBreak? : List Char → Option (List Char)
  | [] => none
  | '\r' :: '\n' :: rest => hiddenBreak? rest
  | '\r' :: _ => none
  | c :: rest => if [' ', '\t', '\n'].contains c then hiddenBreak? rest else some (c :: rest)

theorem code?_length {digits value : Nat} {text : List Char} {found : Nat × List Char}
    (h : code? digits value text = some found) : found.2.length ≤ text.length := by
  induction text generalizing digits value with
  | nil => simp [code?] at h
  | cons c tail ih =>
    rw [code?] at h
    split at h
    · split at h
      · cases h; simp
      · cases h
    · split at h
      · split at h
        · exact Nat.le_succ_of_le (ih h)
        · cases h
      · split at h
        · exact Nat.le_succ_of_le (ih h)
        · cases h

theorem unicode?_length {a : Alphabet} {text rest : List Char}
    (h : unicode? a text = some rest) : rest.length ≤ text.length := by
  unfold unicode? at h
  split at h
  · have := code?_length ‹_›
    split at h <;> simp_all
  · cases h

theorem escape?_length {a : Alphabet} {text rest : List Char}
    (h : escape? a text = some rest) : rest.length ≤ text.length := by
  unfold escape? at h
  split at h
  · split at h
    · simp_all
      omega
    · simp_all
  · have := unicode?_length h; simp only [List.length_cons]; omega
  · split at h <;> simp_all
  · split at h <;> simp_all
  · cases h

theorem hiddenBreak?_length {text rest : List Char}
    (h : hiddenBreak? text = some rest) : rest.length ≤ text.length := by
  fun_induction hiddenBreak? text with
  | case1 => cases h
  | case2 tail ih => have := ih h; simp only [List.length_cons]; omega
  | case3 => cases h
  | case4 c tail _ _ _ ih => have := ih h; simp only [List.length_cons]; omega
  | case5 c tail => cases h; exact Nat.le_refl _

/-- What a backslash in a text of several lines begins: a hidden line break or an escape. -/
def behindBackslash? (a : Alphabet) (text : List Char) : Option (List Char) :=
  if text.head?.any ['\n', '\r'].contains then hiddenBreak? text else escape? a text

theorem behindBackslash?_length {a : Alphabet} {text rest : List Char}
    (h : behindBackslash? a text = some rest) : rest.length ≤ text.length := by
  unfold behindBackslash? at h
  split at h
  · exact hiddenBreak?_length h
  · exact escape?_length h

/-- Behind the closing quote of a cooked literal. -/
def cookedEnd (a : Alphabet) (text : List Char) : Option (List Char) :=
  match text with
  | [] => none
  | '"' :: rest => some (suffix rest)
  | '\r' :: '\n' :: rest => cookedEnd a rest
  | '\r' :: _ => none
  | '\\' :: rest =>
    match _h : behindBackslash? a rest with
    | some behind => cookedEnd a behind
    | none => none
  | c :: rest => if a.holds c then cookedEnd a rest else none
termination_by text.length
decreasing_by
  all_goals simp only [List.length_cons]
  any_goals omega
  have := behindBackslash?_length _h; omega

/-- Behind the closing quote and hashes of a raw literal. -/
def rawEnd (a : Alphabet) (hashes : List Char) : List Char → Option (List Char)
  | [] => none
  | '"' :: rest => if hashes.isPrefixOf rest then some (suffix (rest.drop hashes.length))
      else rawEnd a hashes rest
  | '\r' :: '\n' :: rest => rawEnd a hashes rest
  | '\r' :: _ => none
  | c :: rest => if a.holds c then rawEnd a hashes rest else none

/-- A raw literal from its hashes on. -/
def raw? (a : Alphabet) (text : List Char) : Option (List Char) :=
  let hashes := text.takeWhile (· == '#')
  if hashes.length ≤ 255 then (after? ['"'] (text.drop hashes.length)).bind (rawEnd a hashes)
  else none

def string? (text : List Char) : Option (List Char) :=
  match text with
  | '"' :: rest => cookedEnd .full rest
  | 'r' :: rest => raw? .full rest
  | 'b' :: '"' :: rest => cookedEnd .ascii rest
  | 'b' :: 'r' :: rest => raw? .ascii rest
  | 'c' :: '"' :: rest => cookedEnd .nonNull rest
  | 'c' :: 'r' :: rest => raw? .nonNull rest
  | _ => none

/-- A character between single quotes, from behind the first quote. -/
def quoted? (a : Alphabet) (text : List Char) : Option (List Char) :=
  let behind :=
    match text with
    | '\\' :: rest => escape? a rest
    | c :: rest => if a.holds c then some rest else none
    | [] => none
  (behind.bind (after? ['\''])).map suffix

def char? : List Char → Option (List Char)
  | '\'' :: rest => quoted? .full rest
  | 'b' :: '\'' :: rest => quoted? .ascii rest
  | _ => none

/-- A number must not run into an identifier. -/
def wordBreak? (text : List Char) : Option (List Char) :=
  match text with
  | [] => some text
  | c :: _ => if Text.isIdentContinue c then none else some text

/-- A number together with its suffix. -/
def numberSuffix? (text : List Char) : Option (List Char) :=
  match text with
  | [] => some text
  | c :: _ => if Text.isIdentStart c then (bareIdent? text).bind wordBreak? else wordBreak? text

/-- Behind the exponent of a decimal number, from behind its `e`.  A sign may stand anywhere in
front of the first digit; `none` when there is no digit. -/
def exponent? (signed digit : Bool) : List Char → Option (List Char)
  | [] => if digit then some [] else none
  | c :: rest =>
    if (c == '+' || c == '-') && !digit then (if signed then none else exponent? true digit rest)
    else if Text.isDigit c then exponent? signed true rest
    else if c == '_' then exponent? signed digit rest
    else if digit then some (c :: rest)
    else none

def isDecimal (c : Char) : Bool := Text.isDigit c || c == '_'

/-- The digits of a fraction: a point that starts neither a range nor a member, or an exponent. -/
def floatDigits? (text : List Char) : Option (List Char) :=
  match text with
  | [] => none
  | c :: _ =>
    if !Text.isDigit c then none
    else
      let whole := text.dropWhile isDecimal
      match whole with
      | '.' :: rest =>
        if rest.head?.any fun d => d == '.' || Text.isIdentStart d then none
        else
          let fraction := rest.dropWhile isDecimal
          match fraction with
          | e :: behind =>
            if e == 'e' || e == 'E' then some ((exponent? false false behind).getD fraction)
            else some fraction
          | [] => some fraction
      | e :: behind => if e == 'e' || e == 'E' then exponent? false false behind else none
      | [] => none

def float? (text : List Char) : Option (List Char) := (floatDigits? text).bind numberSuffix?

def baseOf : List Char → Nat × List Char
  | '0' :: 'x' :: rest => (16, rest)
  | '0' :: 'o' :: rest => (8, rest)
  | '0' :: 'b' :: rest => (2, rest)
  | text => (10, text)

/-- Digits in a base; `empty` holds as long as none was seen. -/
def digitsEnd (base : Nat) (empty : Bool) (text : List Char) : Option (List Char) :=
  match text with
  | [] => if empty then none else some []
  | c :: rest =>
    if Text.isDigit c then
      if c.toNat - '0'.toNat < base then digitsEnd base false rest else none
    else if base == 16 && isHex c then digitsEnd base false rest
    else if c == '_' then
      if empty && base == 10 then none else digitsEnd base empty rest
    else if empty then none else some text

def int? (text : List Char) : Option (List Char) :=
  let (base, digits) := baseOf text
  (digitsEnd base true digits).bind numberSuffix?

/-- What stands for a literal that could not be read. -/
def unreadable? (text : List Char) : Option (List Char) := after? "(/*ERROR*/)".toList text

/-- Any literal. -/
def literal? (text : List Char) : Option (List Char) :=
  string? text <|> char? text <|> float? text <|> int? text <|> unreadable? text

/-! ### Punctuation -/

def punctChars : List Char :=
  ['~', '!', '@', '#', '$', '%', '^', '&', '*', '-', '=', '+', '|', ';', ':', ',', '<', '.', '>',
   '/', '?', '\'']

def startsPunct (text : List Char) : Bool :=
  !startsWith text "//" && !startsWith text "/*" && text.head?.any punctChars.contains

/-- An identifier, raw or plain, whatever literal it resembles. -/
def anyIdent? (text : List Char) : Option (List Char) :=
  if startsWith text "r#" then
    (bareIdent? (text.drop 2)).filter fun rest =>
      !Label.neverRaw.contains (String.ofList (upTo (text.drop 2) rest))
  else bareIdent? text

def ident? (text : List Char) : Option (List Char) :=
  if literalLeads.any (startsWith text) then none else anyIdent? text

/-- A punctuation character and whether it is joint; a quote counts only in front of a lifetime. -/
def punct? (text : List Char) : Option (Char × Bool) :=
  match text with
  | [] => none
  | c :: rest =>
    if !startsPunct text then none
    else if c == '\'' then
      (anyIdent? rest).bind fun behind =>
        let next := behind.head?
        if next == some '\'' || (next == some '#' && !startsWith rest "r#") then none
        else some (c, true)
    else some (c, startsPunct rest)

end AccessorSchema.Lexeme
