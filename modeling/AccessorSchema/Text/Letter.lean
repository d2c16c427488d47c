import AccessorSchema.Text.CaseTable
import AccessorSchema.Text.IdentTable
import AccessorSchema.Text.MarkTable
import AccessorSchema.Text.PrintTable

/-! # Character classes and letter case

Which characters make an identifier, which belong to the letter before or behind them, and the full
case mappings.  ASCII is decided by core's own functions, everything above by the tables;
`lowerChars_ascii` and `upperChars_ascii` say so for the mappings. -/

namespace AccessorSchema.Text

/-- Membership in a list of closed ranges. -/
def inRanges (table : List (Nat × Nat)) (n : Nat) : Bool :=
  table.any fun r => r.1 ≤ n && n ≤ r.2

def isAscii (c : Char) : Bool := c.toNat < 128

/-! ### Identifiers -/

def isIdentStart (c : Char) : Bool :=
  if isAscii c then c.isAlpha || c == '_' else inRanges identStartRanges c.toNat

def isIdentContinue (c : Char) : Bool :=
  isIdentStart c || if isAscii c then c.isDigit else inRanges identTailRanges c.toNat

/-- A plain identifier: a start character followed by continuation characters. -/
def isIdentText : List Char → Bool
  | [] => false
  | c :: rest => isIdentStart c && rest.all isIdentContinue

/-! ### Case mappings -/

def CaseRun.covers (r : CaseRun) (n : Nat) : Bool :=
  r.first ≤ n && n ≤ r.last && (n - r.first) % r.stride == 0

def shiftBy (runs : List CaseRun) (n : Nat) : Nat :=
  match runs.find? (·.covers n) with
  | some r => (n + r.shift).toNat
  | none => n

def mapCase (expansions : List (Nat × List Nat)) (runs : List CaseRun) (n : Nat) : List Char :=
  match expansions.lookup n with
  | some codes => codes.map Char.ofNat
  | none => [Char.ofNat (shiftBy runs n)]

/-- The lower case of one character; `İ` is the only one that has two. -/
def lowerChars (c : Char) : List Char :=
  if isAscii c then [c.toLower] else mapCase lowerExpansions lowerRuns c.toNat

/-- The upper case of one character, `SS` for `ß`. -/
def upperChars (c : Char) : List Char :=
  if isAscii c then [c.toUpper] else mapCase upperExpansions upperRuns c.toNat

def isDigit (c : Char) : Bool := '0' ≤ c && c ≤ '9'

/-- A character that extends the letter before it, such as a combining accent. -/
def isExtender (c : Char) : Bool := !isAscii c && inRanges extenderRanges c.toNat

/-- A character that belongs to the letter before it. -/
def isMark (c : Char) : Bool := isExtender c || (!isAscii c && inRanges spacingRanges c.toNat)

/-- A character that belongs to the letter behind it. -/
def isPrefix (c : Char) : Bool := !isAscii c && inRanges prefixRanges c.toNat

/-- A character that is shown as itself in a quoted text. -/
def isPrintable (c : Char) : Bool :=
  if isAscii c then ' ' ≤ c && c ≤ '~' else inRanges printableRanges c.toNat

/-! ### Lower case of a text

Capital sigma is the one letter whose lower case depends on its neighbours: it is final when a cased
letter stands before it and none after it, accents and the like not counted. -/

/-- A letter that has a case, whether or not it has a counterpart in the other one. -/
def isCased (c : Char) : Bool := if isAscii c then c.isAlpha else inRanges casedRanges c.toNat

/-- A character that does not part a letter from its neighbours. -/
def isCaseIgnorable (c : Char) : Bool :=
  if isAscii c then ['\'', '.', ':', '^', '`'].contains c
  else inRanges caseIgnorableRanges c.toNat

def nearestIsCased (text : List Char) : Bool :=
  (text.dropWhile isCaseIgnorable).head?.any isCased

/-- Lower case of `text`, where `before` holds the characters already passed, nearest first. -/
def lowerFrom (before : List Char) : List Char → List Char
  | [] => []
  | c :: rest =>
    (if c == 'Σ' then
        if nearestIsCased before && !nearestIsCased rest then ['ς'] else ['σ']
      else lowerChars c) ++ lowerFrom (c :: before) rest

def lower (text : List Char) : List Char := lowerFrom [] text

def upper (text : List Char) : List Char := text.flatMap upperChars

/-- First character in upper case, the rest in lower case. -/
def capitalize : List Char → List Char
  | [] => []
  | c :: rest => upperChars c ++ lower rest

/-! ### The mappings on ASCII -/

theorem lowerChars_ascii {c : Char} (h : isAscii c = true) : lowerChars c = [c.toLower] := by
  simp [lowerChars, h]

theorem upperChars_ascii {c : Char} (h : isAscii c = true) : upperChars c = [c.toUpper] := by
  simp [upperChars, h]

theorem lowerFrom_ascii {before : List Char} {c : Char} {rest : List Char}
    (h : isAscii c = true) :
    lowerFrom before (c :: rest) = c.toLower :: lowerFrom (c :: before) rest := by
  have hs : (c == 'Σ') = false := by
    rw [beq_eq_false_iff_ne]
    rintro rfl
    exact absurd h (by decide)
  simp [lowerFrom, hs, lowerChars_ascii h]

end AccessorSchema.Text
