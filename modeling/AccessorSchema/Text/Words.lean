import AccessorSchema.Text.Letter

/-! # Names cut into words

A name is read letter by letter, where a letter is a character with the marks that belong to it.  It
is cut at `_`, `-` and blanks, which disappear, and between two letters where its spelling changes:
from lower to upper case, between a letter and a digit, and before the last capital of a run of
capitals that a small letter follows.  Words may be empty, so every delimiter leaves a trace in
`snake`.  `words_flatten` says that nothing else is lost, and `letters_of_ascii` that in ASCII every
character is a letter of its own. -/

namespace AccessorSchema.Text

/-! ### Letters -/

/-- Two neighbouring characters of one letter.  Scripts that build letters in other ways have no
case, and a name is never cut inside them. -/
def joined (c d : Char) : Bool := isMark d || isPrefix c

/-- The letters of a name: each character opens one, unless it is joined to the one before. -/
def letters : List Char → List (List Char)
  | [] => []
  | c :: rest =>
    match letters rest with
    | [] => [[c]]
    | l :: ls => if l.head?.any (joined c) then (c :: l) :: ls else [c] :: l :: ls

def isLower (letter : List Char) : Bool := lower letter == letter && upper letter != letter

def isUpper (letter : List Char) : Bool := upper letter == letter && lower letter != letter

def isNumeral (letter : List Char) : Bool := letter.all isDigit

def isDelimiter (letter : List Char) : Bool :=
  letter == ['_'] || letter == ['-'] || letter == [' ']

/-! ### Words -/

/-- A word ends between two neighbouring letters. -/
def changes (l m : List Char) : Bool :=
  (isLower l && (isUpper m || isNumeral m)) || (isUpper l && isNumeral m) ||
    (isNumeral l && (isLower m || isUpper m))

/-- A word ends after `l`, seen from what follows it. -/
def endsWord (l : List Char) : List (List Char) → Bool
  | [] => false
  | [m] => changes l m
  | m :: n :: _ => changes l m || (isUpper l && isUpper m && isLower n)

/-- Letters gathered into words. -/
def gather : List (List Char) → List (List Char)
  | [] => [[]]
  | l :: rest =>
    if isDelimiter l then [] :: gather rest
    else if endsWord l rest then l :: gather rest
    else
      match gather rest with
      | [] => [l]
      | w :: ws => (l ++ w) :: ws

def words (name : List Char) : List (List Char) := gather (letters name)

/-- Words in lower case joined by `_`. -/
def snake (name : List Char) : List Char :=
  ['_'].intercalate ((words name).map lower)

/-- Words with a capital first letter, joined by nothing. -/
def pascal (name : List Char) : List Char :=
  ((words name).map capitalize).flatten

theorem gather_ne_nil (ls : List (List Char)) : gather ls ≠ [] := by
  cases ls with
  | nil => simp [gather]
  | cons l rest =>
    rw [gather]
    split
    · simp
    · split
      · simp
      · split <;> simp

/-- Words hold the letters they were gathered from in order, delimiters left out. -/
theorem gather_flatten (ls : List (List Char)) :
    (gather ls).flatten = (ls.filter fun l => !isDelimiter l).flatten := by
  induction ls with
  | nil => rfl
  | cons l rest ih =>
    rw [gather]
    split
    next h => simp [ih, h]
    next h =>
      split
      · simp [ih, h]
      · cases hw : gather rest with
        | nil => exact absurd hw (gather_ne_nil rest)
        | cons w ws => rw [hw] at ih; simp [← ih, h]

theorem letters_flatten (name : List Char) : (letters name).flatten = name := by
  induction name with
  | nil => rfl
  | cons c rest ih =>
    rw [letters]
    split
    next h => rw [h] at ih; simp_all
    next l ls h =>
      rw [h] at ih
      split <;> simp_all

/-- The words of a name hold its letters in order, delimiters left out. -/
theorem words_flatten (name : List Char) :
    (words name).flatten = ((letters name).filter fun l => !isDelimiter l).flatten :=
  gather_flatten _

theorem joined_of_ascii {c d : Char} (hc : isAscii c = true) (hd : isAscii d = true) :
    joined c d = false := by
  simp [joined, isMark, isExtender, isPrefix, hc, hd]

theorem letters_of_ascii (name : List Char) (h : name.all isAscii = true) :
    letters name = name.map ([·]) := by
  induction name with
  | nil => rfl
  | cons c rest ih =>
    rw [List.all_cons, Bool.and_eq_true] at h
    rw [letters, ih h.2]
    cases rest with
    | nil => rfl
    | cons d rest =>
      have hd := h.2
      rw [List.all_cons, Bool.and_eq_true] at hd
      simp [joined_of_ascii h.1 hd.1]

end AccessorSchema.Text
