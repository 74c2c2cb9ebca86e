import Trials.Unicode.CharSet

/-!
# Patterns

A `Pattern` describes texts: single characters from a set, assertions about a place in a text, one
pattern after another, a choice, and repetition.  `Pattern.cost` estimates how much room a pattern
takes when its repetitions are written out.
-/

namespace Trials

/-- An assertion about a place between two characters. -/
inductive Look where
  /-- The beginning of the text. -/
  | textStart
  /-- The end of the text. -/
  | textEnd
  /-- The beginning of a line; `crlf` makes a carriage return end lines too. -/
  | lineStart (crlf : Bool)
  /-- The end of a line; `crlf` makes a carriage return end lines too. -/
  | lineEnd (crlf : Bool)
  /-- A word character on one side only; `ascii` restricts words to ASCII here and below. -/
  | boundary (ascii : Bool)
  /-- Word characters on both sides or on neither. -/
  | noBoundary (ascii : Bool)
  /-- A word character after the place and none before it. -/
  | wordStart (ascii : Bool)
  /-- A word character before the place and none after it. -/
  | wordEnd (ascii : Bool)
  /-- No word character before the place. -/
  | notAfterWord (ascii : Bool)
  /-- No word character after the place. -/
  | notBeforeWord (ascii : Bool)
deriving DecidableEq

/-- A description of texts. -/
inductive Pattern where
  /-- The empty text. -/
  | empty
  /-- One character of a set. -/
  | one (set : CharSet)
  /-- The empty text at a place where an assertion holds. -/
  | look (l : Look)
  /-- One pattern after another. -/
  | seq (a b : Pattern)
  /-- One pattern or another. -/
  | alt (a b : Pattern)
  /-- A pattern at least `least` times, and at most `most` times if that is given. -/
  | repeated (p : Pattern) (least : Nat) (most : Option Nat)
deriving Inhabited

namespace Pattern

/-- Whether the pattern describes no text but the empty one. -/
def isZeroWidth : Pattern → Bool
  | empty => true
  | one _ => false
  | look _ => true
  | seq a b => a.isZeroWidth && b.isZeroWidth
  | alt a b => a.isZeroWidth && b.isZeroWidth
  | repeated p _ most => most == some 0 || p.isZeroWidth

/-- A repetition; a pattern that describes only the empty text is repeated at most once. -/
def times (p : Pattern) (least : Nat) (most : Option Nat) : Pattern :=
  if p.isZeroWidth then repeated p (min least 1) (some (min (most.getD 1) 1))
  else repeated p least most

/-- The room that a set of characters takes, in bytes. -/
def setCost (s : CharSet) : Nat :=
  if s.isAscii then 32 + if s.ranges.length ≤ 1 then 0 else 8 * s.ranges.length
  else 32 + 80 * s.ranges.length

/-- The room that a pattern takes with its repetitions written out, in bytes. -/
def cost : Pattern → Nat
  | empty => 32
  | one s => setCost s
  | look _ => 32
  | seq a b => a.cost + b.cost
  | alt a b => a.cost + b.cost + 32
  | repeated p least none => p.cost * max least 1 + 32
  | repeated p _ (some most) => (p.cost + 32) * most

/-- The largest room that a pattern may take: ten mebibytes. -/
def costLimit : Nat := 10 <<< 20

end Pattern

end Trials
