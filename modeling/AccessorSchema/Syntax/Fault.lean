import AccessorSchema.Source.TokenTree

/-! # Faults in token sequences

What can be wrong with a sequence of tokens, each cause with its words.  An error is a fault with
the place it points at. -/

namespace AccessorSchema

/-- What is wrong with a token sequence. -/
inductive SyntaxFault where
  /-- A punctuation mark is missing. -/
  | missingMark (mark : String)
  /-- None of the listed things is there; `atEnd` if nothing is there at all. -/
  | expected (atEnd : Bool) (things : List String)
  /-- Something stands behind a finished construct; `closing` is the delimiter awaited instead. -/
  | leftover (closing : Option Delim)
  | literalForName
  | tokenForName
  | attributeInAttribute
  /-- A range that starts with its mark has an attribute. -/
  | attributedRange
  | chainedComparison
  /-- Something stands behind the type of a cast that is only allowed behind a value. -/
  | castFollowed (thing : String)
  /-- A jump to a label has a labelled form as its value. -/
  | bareLabelledValue
  /-- An implemented type names no trait. -/
  | noTrait
  /-- The type of an object names no trait. -/
  | noObjectTrait
  /-- A list of captured parameters stands among bounds that take none. -/
  | capture
  /-- A bound is marked `const`, perhaps in brackets, where that is not allowed. -/
  | constBound (bracketed : Bool)
  | quantifiedMaybe
  | genericWhere
  | suffixedIndex
  | badDigit
  | tooLarge
  /-- A range with one end stands bare in a slice pattern. -/
  | openRangeInSlice
  | secondReceiver
  | lateReceiver
  | negativeInherent
  /-- A text is no token sequence. -/
  | noTokens
  /-- A statement goes on where it should end. -/
  | unfinishedStatement
  | suffixedString (suffix : String)
deriving DecidableEq, Repr, Inhabited

namespace SyntaxFault

def quoted (s : String) : String := "`" ++ s ++ "`"

def listed : List String → String
  | [] => "unexpected token"
  | [a] => "expected " ++ a
  | [a, b] => "expected " ++ a ++ " or " ++ b
  | things => "expected one of: " ++ ", ".intercalate things

def closingText : Option Delim → String
  | some .paren => ", expected `)`"
  | some .bracket => ", expected `]`"
  | some .brace => ", expected `\x7d`"
  | _ => ""

def message : SyntaxFault → String
  | missingMark mark => "expected " ++ quoted mark
  | expected false things => listed things
  | expected true [] => "unexpected end of input"
  | expected true things => "unexpected end of input, " ++ listed things
  | leftover closing => "unexpected token" ++ closingText closing
  | literalForName => "unexpected literal in nested attribute, expected ident"
  | tokenForName => "unexpected token in nested attribute, expected ident"
  | attributeInAttribute => "unexpected attribute inside of attribute"
  | attributedRange => "attributes are not allowed on range expressions starting with `..`"
  | chainedComparison => "comparison operators cannot be chained"
  | castFollowed thing => "casts cannot be followed by " ++ thing
  | bareLabelledValue => "parentheses required"
  | noTrait => "at least one trait must be specified"
  | noObjectTrait => "at least one trait is required for an object type"
  | capture => "`use<...>` precise capturing syntax is not allowed here"
  | constBound true => "`[const]` is not allowed here"
  | constBound false => "`const` is not allowed here"
  | quantifiedMaybe => "`for<...>` binder not allowed with `?` trait polarity modifier"
  | genericWhere => "generic parameters on `where` clauses are reserved for future use"
  | suffixedIndex => "expected unsuffixed integer"
  | badDigit => "invalid digit found in string"
  | tooLarge => "number too large to fit in target type"
  | openRangeInSlice => "range pattern is not allowed unparenthesized inside slice pattern"
  | secondReceiver => "unexpected second method receiver"
  | lateReceiver => "unexpected method receiver"
  | negativeInherent => "inherent impls cannot be negative"
  | noTokens => "cannot parse string into token stream"
  | unfinishedStatement => "unexpected token, expected `;`"
  | suffixedString suffix => "unexpected suffix " ++ quoted suffix ++ " on string literal"

end SyntaxFault

structure SyntaxError where
  fault : SyntaxFault
  span : Span
deriving DecidableEq, Repr, Inhabited

def SyntaxError.message (e : SyntaxError) : String := e.fault.message

end AccessorSchema
