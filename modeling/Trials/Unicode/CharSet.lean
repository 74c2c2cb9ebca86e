/-!
# Sets of characters

A `CharSet` is a list of closed ranges of code points, ascending and apart.  The Boolean operations
keep this form.  Tables of the Unicode standard are written as texts in hexadecimal notation, such
as `41-5A 100-136/2` for two ranges of which the second takes every other code point
(`CharSet.ofTable`).
-/

namespace Trials

/-- A set of characters, as ascending closed ranges of code points. -/
structure CharSet where
  /-- The ranges, each with its first and its last code point. -/
  ranges : List (Nat × Nat)
deriving DecidableEq, Inhabited

namespace CharSet

/-- The largest code point. -/
def maxCode : Nat := 0x10FFFF

/-- The set without characters. -/
def empty : CharSet := ⟨[]⟩

/-- The set of all characters. -/
def all : CharSet := ⟨[(0, maxCode)]⟩

/-- The characters from one code point to another. -/
def range (first last : Nat) : CharSet := if first ≤ last then ⟨[(first, last)]⟩ else empty

/-- The set of one character. -/
def single (c : Char) : CharSet := ⟨[(c.toNat, c.toNat)]⟩

/-- Whether a code point belongs to the set. -/
def containsCode (s : CharSet) (n : Nat) : Bool := s.ranges.any fun r => r.1 ≤ n && n ≤ r.2

/-- Whether a character belongs to the set. -/
def contains (s : CharSet) (c : Char) : Bool := s.containsCode c.toNat

/-! ## Boolean operations -/

/-- The union of a range with ranges that start no earlier, all ascending. -/
def joinFrom (first last : Nat) : List (Nat × Nat) → List (Nat × Nat)
  | [] => [(first, last)]
  | (a, b) :: rest =>
    if a ≤ last + 1 then joinFrom first (max last b) rest else (first, last) :: joinFrom a b rest

/-- Ranges with ascending starts, as a set. -/
def ofAscending : List (Nat × Nat) → CharSet
  | [] => empty
  | (a, b) :: rest => ⟨joinFrom a b rest⟩

/-- The characters of either set. -/
def union (s t : CharSet) : CharSet :=
  ofAscending (s.ranges.merge t.ranges fun r q => r.1 ≤ q.1)

/-- The gaps between ranges, from a code point on. -/
def gapsFrom (next : Nat) : List (Nat × Nat) → List (Nat × Nat)
  | [] => if next ≤ maxCode then [(next, maxCode)] else []
  | (a, b) :: rest =>
    if next < a then (next, a - 1) :: gapsFrom (b + 1) rest else gapsFrom (b + 1) rest

/-- The characters outside the set. -/
def complement (s : CharSet) : CharSet := ⟨gapsFrom 0 s.ranges⟩

/-- The characters of both sets. -/
def inter (s t : CharSet) : CharSet := (s.complement.union t.complement).complement

/-- The characters of the first set outside the second. -/
def diff (s t : CharSet) : CharSet := s.inter t.complement

/-- The characters of exactly one of the sets. -/
def symmDiff (s t : CharSet) : CharSet := (s.diff t).union (t.diff s)

/-- The complement if `negated` is set, otherwise the set itself. -/
def negateIf (s : CharSet) (negated : Bool) : CharSet := if negated then s.complement else s

/-- Whether all characters of the set are ASCII. -/
def isAscii (s : CharSet) : Bool := s.ranges.all fun r => r.2 < 128

/-- The union of several sets. -/
def unions (sets : List CharSet) : CharSet := sets.foldl union empty

/-! ## Tables -/

/-- The value of an upper-case hexadecimal digit. -/
def hexDigitValue (c : Char) : Nat :=
  if c.isDigit then c.toNat - '0'.toNat else c.toNat - 'A'.toNat + 10

/-- The number that some upper-case hexadecimal digits write. -/
def hexNumber (cs : List Char) : Nat := cs.foldl (fun n c => n * 16 + hexDigitValue c) 0

/-- Every other code point of a range, each as a range of its own. -/
def everyOther (first last : Nat) : List (Nat × Nat) :=
  (List.range ((last - first) / 2 + 1)).map fun k => (first + 2 * k, first + 2 * k)

/-- The parts of some characters between separators. -/
def splitAt (separator : Char) : List Char → List (List Char)
  | [] => [[]]
  | c :: cs =>
    if c = separator then [] :: splitAt separator cs
    else
      match splitAt separator cs with
      | [] => [[c]]
      | part :: parts => (c :: part) :: parts

/-- The ranges of an entry such as `5F`, `41-5A` or `100-136/2`. -/
def entryRanges (entry : List Char) : List (Nat × Nat) :=
  match splitAt '-' entry with
  | [first, last] =>
    match splitAt '/' last with
    | [last, _] => everyOther (hexNumber first) (hexNumber last)
    | _ => [(hexNumber first, hexNumber last)]
  | _ => [(hexNumber entry, hexNumber entry)]

/-- The set that some lines of ascending entries list. -/
def ofTable (lines : List String) : CharSet :=
  ofAscending (lines.flatMap fun line =>
    ((splitAt ' ' line.toList).filter fun entry => !entry.isEmpty).flatMap entryRanges)

end CharSet

end Trials
