import Retrieval.Text.WordClass
import Retrieval.Text.Alphanumeric
import Retrieval.Text.Lower

/-!
# Words

A text falls into segments at its word boundaries. A segment begins with any character and takes
further ones as long as the class of each may follow what was taken. Marks, format controls and
joiners are always taken. `tokens` keeps the segments that hold a letter or a digit, in lower case.
-/

namespace Retrieval.Text

/-- What a segment that is being read ends in. -/
inductive Tail where
  | letter
  | hebrew
  | numeric
  | katakana
  | connector
  /-- One regional indicator, which takes one more. -/
  | halfFlag
  | space
  /-- A character that only marks may follow. -/
  | closed
  /-- Punctuation that a letter has to follow; else the segment ends `back` characters in. -/
  | beforeLetter (back : Nat)
  /-- Punctuation that a digit has to follow; else the segment ends `back` characters in. -/
  | beforeDigit (back : Nat)
  /-- A double quote that a Hebrew letter has to follow; else the segment ends `back` in. -/
  | beforeHebrew (back : Nat)
  /-- A single quote after a Hebrew letter, which stays even where no letter follows. -/
  | geresh
  deriving Repr, DecidableEq

namespace Tail

/-- The tail of a segment of one character. -/
def ofClass : WordClass → Tail
  | .aLetter => letter
  | .hebrewLetter => hebrew
  | .numeric => numeric
  | .katakana => katakana
  | .extendNumLet => connector
  | .regionalIndicator => halfFlag
  | .space => space
  | _ => closed

/-- The tail once a character of class `cls` follows `taken` others, if it may follow at all.
`marked` says that a mark stands between. -/
def next? (taken : Nat) (marked : Bool) : Tail → WordClass → Option Tail
  | letter, .aLetter | hebrew, .aLetter | numeric, .aLetter | connector, .aLetter
  | beforeLetter _, .aLetter | geresh, .aLetter => some letter
  | letter, .hebrewLetter | hebrew, .hebrewLetter | numeric, .hebrewLetter
  | connector, .hebrewLetter | beforeLetter _, .hebrewLetter | geresh, .hebrewLetter
  | beforeHebrew _, .hebrewLetter => some hebrew
  | letter, .numeric | hebrew, .numeric | numeric, .numeric | connector, .numeric
  | beforeDigit _, .numeric => some numeric
  | katakana, .katakana | connector, .katakana => some katakana
  | letter, .extendNumLet | hebrew, .extendNumLet | numeric, .extendNumLet
  | katakana, .extendNumLet | connector, .extendNumLet => some connector
  | hebrew, .doubleQuote => some (beforeHebrew taken)
  | hebrew, .singleQuote => some geresh
  | letter, .midLetter | letter, .midNumLet | letter, .singleQuote
  | hebrew, .midLetter | hebrew, .midNumLet => some (beforeLetter taken)
  | numeric, .midNum | numeric, .midNumLet | numeric, .singleQuote => some (beforeDigit taken)
  | halfFlag, .regionalIndicator => some closed
  | space, .space => if marked then none else some space
  | _, _ => none

/-- The length of a segment that ends here, `taken` characters in. -/
def stop (taken : Nat) : Tail → Nat
  | beforeLetter back | beforeDigit back | beforeHebrew back => back
  | _ => taken

/-- How many of the characters `cs` a segment takes that has `taken` already. `joined` says that the
last of those is a joiner, which links any pictograph. -/
def extent (tail : Tail) (joined marked : Bool) (taken : Nat) : List Char → Nat
  | [] => tail.stop taken
  | c :: cs =>
    let cls := WordClass.ofChar c
    if cls.isAttached then extent tail (cls == .joiner) true (taken + 1) cs
    else if joined && isPictograph c then extent closed false marked (taken + 1) cs
    else match tail.next? taken marked cls with
      | some tail => extent tail false marked (taken + 1) cs
      | none => tail.stop taken

end Tail

/-- How many of the characters `cs` after `c` belong to the segment that `c` begins. A line end
stands alone, a carriage return with its line feed. -/
def segmentRest (c : Char) (cs : List Char) : Nat :=
  match WordClass.ofChar c with
  | .carriageReturn => if cs.head? = some '\n' then 1 else 0
  | .lineFeed | .newline => 0
  | cls => (Tail.ofClass cls).extent (cls == .joiner) false 0 cs

/-- A text cut at its word boundaries. -/
def segments : List Char → List (List Char)
  | [] => []
  | c :: cs =>
    let n := segmentRest c cs
    (c :: cs.take n) :: segments (cs.drop n)
termination_by cs => cs.length
decreasing_by simp only [List.length_cons, List.length_drop]; omega

/-- The words of a text, in lower case. -/
def tokens (text : String) : List String :=
  ((segments text.toList).filter (·.any isAlphanumeric)).map fun w => String.ofList (lower w)

end Retrieval.Text
