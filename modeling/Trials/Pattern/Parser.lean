import Trials.Pattern.Basic
import Trials.Unicode.Folding
import Trials.Unicode.Named

/-!
# Reading patterns

How a pattern is written.  `Pattern.parse?` reads the usual notation: characters and escapes,
classes in brackets with set operations, groups, flags, alternatives, and repetitions; there are no
look-arounds and no back references.  Flags such as `(?i)` are resolved while reading, so that the
pattern itself has none.  A pattern nested too deeply or too large is refused, and so is one that
names a class of characters which `Trials.Unicode.Named` does not know, whether the standard has it
or not.
-/

namespace Trials.Pattern

/-! ## Flags and blanks -/

/-- What the flags say at some place of a pattern. -/
structure Flags where
  /-- Letters match regardless of case. -/
  ignoreCase : Bool := false
  /-- `^` and `$` match at every line. -/
  multiLine : Bool := false
  /-- The dot matches line ends too. -/
  dotAll : Bool := false
  /-- A carriage return ends lines too. -/
  crlf : Bool := false
  /-- Blanks and comments in the pattern mean nothing. -/
  ignoreSpace : Bool := false
  /-- Classes are those of Unicode; without it only ASCII characters may be named by a class. -/
  unicode : Bool := true

/-- Whether a character is white space. -/
def isSpace (c : Char) : Bool := Unicode.whiteSpace.contains c

/-- What follows blanks and comments. -/
def skipBlanks (inComment : Bool) : List Char → List Char
  | [] => []
  | c :: cs =>
    if inComment then skipBlanks (c ≠ '\n') cs
    else if c = '#' then skipBlanks true cs
    else if isSpace c then skipBlanks false cs
    else c :: cs

/-- What follows blanks and comments, if they mean nothing. -/
def Flags.skip (f : Flags) (cs : List Char) : List Char :=
  if f.ignoreSpace then skipBlanks false cs else cs

/-! ## Numbers -/

/-- Whether a character is a hexadecimal digit. -/
def isHex (c : Char) : Bool :=
  c.isDigit || ('a' ≤ c && c ≤ 'f') || ('A' ≤ c && c ≤ 'F')

/-- The character with the given code point, unless it is a surrogate or too large. -/
def charOfCode? (n : Nat) : Option Char := if n.isValidChar then some (Char.ofNat n) else none

/-- The number that some hexadecimal digits write. -/
def hexCode (digits : List Char) : Nat := CharSet.hexNumber (digits.map Char.toUpper)

/-- Up to the closing brace: the characters before it, and what follows it. -/
def upToBrace (f : Flags) : Nat → List Char → Option (List Char × List Char)
  | 0, _ => none
  | fuel + 1, cs =>
    match f.skip cs with
    | [] => none
    | '}' :: rest => some ([], rest)
    | c :: rest => (upToBrace f fuel rest).map fun (name, rest) => (c :: name, rest)

/-- A given number of hexadecimal digits, and what follows them. -/
def hexDigits (f : Flags) : Nat → List Char → Option (List Char × List Char)
  | 0, cs => some ([], cs)
  | n + 1, cs =>
    match cs with
    | c :: rest =>
      if isHex c then (hexDigits f n (f.skip rest)).map fun (ds, rest) => (c :: ds, rest) else none
    | [] => none

/-- The character written in hexadecimal after `\x`, `\u` or `\U`. -/
def hexChar (f : Flags) (width : Nat) (cs : List Char) : Option (Char × List Char) :=
  match f.skip cs with
  | '{' :: rest => do
    let (digits, rest) ← upToBrace f (rest.length + 1) rest
    if digits.isEmpty || !digits.all isHex then none
    else return (← charOfCode? (hexCode digits), f.skip rest)
  | cs => do
    let (digits, rest) ← hexDigits f width cs
    return (← charOfCode? (hexCode digits), rest)

/-- The character written in hexadecimal after `\x`; without Unicode, two digits stand for a byte,
which must be ASCII. -/
def byteChar (f : Flags) (cs : List Char) : Option (Char × List Char) :=
  (hexChar f 2 cs).bind fun (c, rest) =>
    if f.unicode || c.toNat < 128 || (f.skip cs).head? = some '{' then some (c, rest) else none

/-- Some decimal digits with blanks around them, and what follows; none without digits or for a
number beyond 32 bits. -/
def decimal (f : Flags) : Nat → List Char → Option Nat × List Char
  | fuel, cs =>
    let rec digits : Nat → List Char → List Char × List Char
      | 0, cs => ([], cs)
      | fuel + 1, cs =>
        match cs with
        | c :: rest =>
          if c.isDigit then
            let (ds, rest) := digits fuel (f.skip rest)
            (c :: ds, rest)
          else ([], cs)
        | [] => ([], [])
    let (ds, rest) := digits fuel (cs.dropWhile isSpace)
    let n := ds.foldl (fun n c => n * 10 + (c.toNat - '0'.toNat)) 0
    (if ds.isEmpty || UInt32.size ≤ n then none else some n, f.skip (rest.dropWhile isSpace))

/-! ## Escapes -/

/-- What a single escape or character stands for. -/
inductive Atom where
  /-- A character. -/
  | char (c : Char)
  /-- A class of characters. -/
  | set (s : CharSet)
  /-- An assertion. -/
  | look (l : Look)

/-- A set closed under case if the flags say so. -/
def Flags.fold (f : Flags) (s : CharSet) : CharSet :=
  if !f.ignoreCase then s
  else if f.unicode then s.closeUnderCase
  else s.closeUnderAsciiCase

/-- A set as it may be used under the flags: without Unicode only ASCII sets may. -/
def Flags.allow (f : Flags) (s : CharSet) : Option CharSet :=
  if f.unicode || s.isAscii then some s else none

/-- The ASCII digits. -/
def asciiDigit : CharSet := .range 0x30 0x39

/-- The ASCII letters. -/
def asciiAlpha : CharSet := ⟨[(0x41, 0x5A), (0x61, 0x7A)]⟩

/-- The ASCII word characters. -/
def asciiWord : CharSet := .unions [asciiDigit, asciiAlpha, .single '_']

/-- The ASCII white space. -/
def asciiSpace : CharSet := ⟨[(0x09, 0x0D), (0x20, 0x20)]⟩

/-- The class of a letter such as `d` or `W`. -/
def letterClass (f : Flags) (c : Char) : Option CharSet :=
  let base := match c.toLower with
    | 'd' => if f.unicode then Unicode.nd else asciiDigit
    | 's' => if f.unicode then Unicode.whiteSpace else asciiSpace
    | _ => if f.unicode then Unicode.word else asciiWord
  f.allow (base.negateIf c.isUpper)

/-- A text cut at the first place where a separator stands, if there is one. -/
def cutAt (separator : List Char) : List Char → Option (List Char × List Char)
  | [] => none
  | c :: cs =>
    if separator.isPrefixOf (c :: cs) then some ([], (c :: cs).drop separator.length)
    else (cutAt separator cs).map fun (a, b) => (c :: a, b)

/-- The characters that a property in braces describes. -/
def propertySet (name : List Char) : Option CharSet :=
  match cutAt ['!', '='] name with
  | some (property, value) => (Unicode.valued? property value).map CharSet.complement
  | none =>
    match (cutAt [':'] name).orElse fun _ => cutAt ['='] name with
    | some (property, value) => Unicode.valued? property value
    | none => Unicode.named? name

/-- The characters of the property named after `\p` or `\P`, by one letter or in braces, and what
follows. -/
def namedProperty (f : Flags) (cs : List Char) : Option (CharSet × List Char) :=
  match f.skip cs with
  | [] => none
  | '{' :: rest =>
    (upToBrace f (rest.length + 1) rest).bind fun (name, rest) =>
      (propertySet name).map fun set => (set, rest)
  | c :: rest =>
    if c = '\\' then none else (Unicode.named? [c]).map fun set => (set, f.skip rest)

/-- The class after `\p` or `\P`, which takes Unicode. -/
def propertyClass (f : Flags) (negated : Bool) (cs : List Char) : Option (CharSet × List Char) :=
  if f.unicode then
    (namedProperty f cs).map fun (set, rest) => ((f.fold set).negateIf negated, rest)
  else none

/-- The special word boundary in braces after `\b`: an assertion, or nothing if the braces hold a
repetition. -/
def specialBoundary (f : Flags) (cs : List Char) : Option (Option Look × List Char) :=
  match cs with
  | '{' :: rest =>
    match f.skip rest with
    | [] => none
    | c :: _ =>
      if c.isAlpha || c = '-' then do
        let (name, rest) ← upToBrace f (rest.length + 1) rest
        let special ← match String.ofList name with
          | "start" => some (Look.wordStart (!f.unicode))
          | "end" => some (Look.wordEnd (!f.unicode))
          | "start-half" => some (Look.notAfterWord (!f.unicode))
          | "end-half" => some (Look.notBeforeWord (!f.unicode))
          | _ => none
        return (some special, rest)
      else return (none, cs)
  | _ => return (none, cs)

/-- Whether a punctuation character stands for itself after a backslash. -/
def isEscapable (c : Char) : Bool :=
  c.toNat < 128 && !c.isAlphanum && c ≠ '<' && c ≠ '>'

/-- What the characters after a backslash stand for. -/
def escape (f : Flags) (cs : List Char) : Option (Atom × List Char) :=
  match cs with
  | [] => none
  | c :: rest =>
    match c with
    | 'x' => (byteChar f rest).map fun (c, rest) => (.char c, rest)
    | 'u' => (hexChar f 4 rest).map fun (c, rest) => (.char c, rest)
    | 'U' => (hexChar f 8 rest).map fun (c, rest) => (.char c, rest)
    | 'p' => (propertyClass f false rest).map fun (s, rest) => (.set s, rest)
    | 'P' => (propertyClass f true rest).map fun (s, rest) => (.set s, rest)
    | 'a' => some (.char '\x07', rest)
    | 'f' => some (.char '\x0c', rest)
    | 't' => some (.char '\t', rest)
    | 'n' => some (.char '\n', rest)
    | 'r' => some (.char '\r', rest)
    | 'v' => some (.char '\x0b', rest)
    | 'A' => some (.look .textStart, rest)
    | 'z' => some (.look .textEnd, rest)
    | 'B' => some (.look (.noBoundary (!f.unicode)), rest)
    | '<' => some (.look (.wordStart (!f.unicode)), rest)
    | '>' => some (.look (.wordEnd (!f.unicode)), rest)
    | 'b' =>
      (specialBoundary f rest).map fun (special, rest) =>
        (.look (special.getD (.boundary (!f.unicode))), rest)
    | _ =>
      if c = 'd' ∨ c = 'D' ∨ c = 's' ∨ c = 'S' ∨ c = 'w' ∨ c = 'W' then
        (letterClass f c).map fun s => (.set s, rest)
      else if isEscapable c then some (.char c, rest)
      else none

/-! ## Classes in brackets -/

/-- The ASCII class with the given name. -/
def asciiClass? (name : List Char) : Option CharSet :=
  match String.ofList name with
  | "alnum" => some (asciiDigit.union asciiAlpha)
  | "alpha" => some asciiAlpha
  | "ascii" => some (.range 0 0x7F)
  | "blank" => some ⟨[(0x09, 0x09), (0x20, 0x20)]⟩
  | "cntrl" => some ⟨[(0, 0x1F), (0x7F, 0x7F)]⟩
  | "digit" => some asciiDigit
  | "graph" => some (.range 0x21 0x7E)
  | "lower" => some (.range 0x61 0x7A)
  | "print" => some (.range 0x20 0x7E)
  | "punct" => some ⟨[(0x21, 0x2F), (0x3A, 0x40), (0x5B, 0x60), (0x7B, 0x7E)]⟩
  | "space" => some asciiSpace
  | "upper" => some (.range 0x41 0x5A)
  | "word" => some asciiWord
  | "xdigit" => some ⟨[(0x30, 0x39), (0x41, 0x46), (0x61, 0x66)]⟩
  | _ => none

/-- An ASCII class such as `[:alpha:]` whose opening bracket has been read: whether it is negated,
its characters, and what follows it. -/
def scanAsciiClass (cs : List Char) : Option (Bool × CharSet × List Char) := do
  let cs ← match cs with
    | ':' :: rest => some rest
    | _ => none
  let (negated, cs) := match cs with
    | '^' :: rest => (true, rest)
    | _ => (false, cs)
  let name := cs.takeWhile (· ≠ ':')
  let rest ← match cs.dropWhile (· ≠ ':') with
    | ':' :: ']' :: rest => some rest
    | _ => none
  return (negated, ← asciiClass? name, rest)

/-- An operation between two sets of characters. -/
inductive SetOp where
  /-- The characters of both. -/
  | inter
  /-- The characters of the first that the second has not. -/
  | diff
  /-- The characters of exactly one. -/
  | symmDiff

/-- The result of an operation. -/
def SetOp.apply : SetOp → CharSet → CharSet → CharSet
  | inter, s, t => s.inter t
  | diff, s, t => s.diff t
  | symmDiff, s, t => s.symmDiff t

/-- A part of a class: its characters and how deeply it is nested. -/
structure ClassPart where
  /-- The characters. -/
  set : CharSet := .empty
  /-- The number of items it consists of. -/
  items : Nat := 0
  /-- The depth of its deepest item. -/
  height : Nat := 0

/-- The part with one more item. -/
def ClassPart.push (p : ClassPart) (s : CharSet) (height : Nat) : ClassPart :=
  ⟨p.set.union s, p.items + 1, max p.height height⟩

/-- The depth of a part as a whole. -/
def ClassPart.depth (p : ClassPart) : Nat := if p.items ≤ 1 then p.height else p.height + 1

/-- The part that an operation, if there is one, makes of the part before it and a part. -/
def combine (f : Flags) (pending : Option (SetOp × ClassPart)) (p : ClassPart) : ClassPart :=
  match pending with
  | none => ⟨p.set, 1, p.depth⟩
  | some (op, lhs) => ⟨op.apply (f.fold lhs.set) (f.fold p.set), 1, max lhs.depth p.depth + 1⟩

/-- One end of a range, or an item of its own. -/
def classAtom (f : Flags) (cs : List Char) : Option (Atom × List Char) :=
  match cs with
  | [] => none
  | '\\' :: rest => escape f rest
  | c :: rest => some (.char c, rest)

/-- A character, a range or an escape in a class. -/
def classItem (f : Flags) (cs : List Char) : Option (CharSet × List Char) := do
  let (first, rest) ← classAtom f cs
  let rest := f.skip rest
  let alone : Option (CharSet × List Char) := match first with
    | .char c => (f.allow (.single c)).map fun s => (s, rest)
    | .set s => some (s, rest)
    | .look _ => none
  match rest with
  | [] => none
  | '-' :: after =>
    match f.skip after with
    | [] => none
    | ']' :: _ => alone
    | '-' :: _ => alone
    | after => do
      let (last, rest) ← classAtom f after
      match first, last with
      | .char a, .char b =>
        if a ≤ b then return (← f.allow (.range a.toNat b.toNat), rest) else none
      | _, _ => none
  | _ => alone

/-- The literal hyphens at the beginning of a class. -/
def leadingHyphens (f : Flags) (p : ClassPart) : Nat → List Char → ClassPart × List Char
  | 0, cs => (p, cs)
  | fuel + 1, cs =>
    match cs with
    | '-' :: rest => leadingHyphens f (p.push (.single '-') 0) fuel (f.skip rest)
    | _ => (p, cs)

/-- The beginning of a class after its opening bracket: whether it is negated, the literal hyphens
and bracket that may stand there, and what follows. -/
def classHead (f : Flags) (cs : List Char) : Bool × ClassPart × List Char :=
  let (negated, cs) := match f.skip cs with
    | '^' :: rest => (true, f.skip rest)
    | cs => (false, cs)
  let (part, cs) := leadingHyphens f {} cs.length cs
  match cs with
  | ']' :: rest => if part.items = 0 then (negated, part.push (.single ']') 0, f.skip rest)
    else (negated, part, cs)
  | _ => (negated, part, cs)

mutual
/-- A class whose opening bracket has been read: its characters, its depth, and what follows it. -/
def bracketed (f : Flags) : Nat → List Char → Option (CharSet × Nat × List Char)
  | 0, _ => none
  | fuel + 1, cs => do
    let (negated, part, cs) := classHead f cs
    let (part, rest) ← classItems f fuel none part cs
    let set ← f.allow ((f.fold part.set).negateIf negated)
    return (set, part.depth + 1, rest)

/-- The items of a class up to its closing bracket. -/
def classItems (f : Flags) :
    Nat → Option (SetOp × ClassPart) → ClassPart → List Char → Option (ClassPart × List Char)
  | 0, _, _, _ => none
  | fuel + 1, pending, part, cs =>
    match f.skip cs with
    | [] => none
    | ']' :: rest => some (combine f pending part, rest)
    | '&' :: '&' :: rest => classItems f fuel (some (.inter, combine f pending part)) {} rest
    | '-' :: '-' :: rest => classItems f fuel (some (.diff, combine f pending part)) {} rest
    | '~' :: '~' :: rest => classItems f fuel (some (.symmDiff, combine f pending part)) {} rest
    | '[' :: rest =>
      match scanAsciiClass rest with
      | some (negated, set, rest) => do
        let set ← f.allow ((f.fold set).negateIf negated)
        classItems f fuel pending (part.push set 0) rest
      | none => do
        let (set, height, rest) ← bracketed f fuel rest
        classItems f fuel pending (part.push set height) rest
    | cs => do
      let (set, rest) ← classItem f cs
      classItems f fuel pending (part.push set 0) rest
end

/-! ## Groups -/

/-- How deeply a pattern may be nested. -/
def nestLimit : Nat := 250

/-- A part of a sequence: a pattern, or nothing for a setting of flags, and its depth. -/
structure Item where
  /-- The pattern; none for a setting of flags, which cannot be repeated. -/
  pattern : Option Pattern
  /-- How deeply it is nested. -/
  height : Nat := 0

/-- What has been read of a group. -/
structure Level where
  /-- The finished alternatives, last first. -/
  branches : List Item := []
  /-- The items of the current alternative, last first. -/
  items : List Item := []

/-- The depth of several parts put together. -/
def jointHeight (parts : List Item) : Nat :=
  match parts with
  | [] => 0
  | [p] => p.height
  | _ => parts.foldl (fun n p => max n p.height) 0 + 1

/-- The items of an alternative as one item. -/
def Level.branch (l : Level) : Item :=
  { pattern := some (l.items.foldl (fun acc item =>
      match item.pattern, acc with
      | none, _ => acc
      | some p, .empty => p
      | some p, _ => .seq p acc) .empty)
    height := jointHeight l.items }

/-- The alternatives of a group as one item. -/
def Level.close (l : Level) : Item :=
  match l.branches with
  | [] => l.branch
  | _ =>
    let parts := l.branch :: l.branches
    { pattern := parts.foldl (fun acc item =>
        match acc, item.pattern with
        | none, p => p
        | some q, some p => some (.alt p q)
        | some q, none => some q) none
      height := jointHeight parts }

/-- A group that is still open. -/
structure Outer where
  /-- What had been read before it. -/
  level : Level
  /-- The flags before it. -/
  flags : Flags

/-- One flag set or cleared. -/
def Flags.set (f : Flags) (c : Char) (on : Bool) : Flags :=
  match c with
  | 'i' => { f with ignoreCase := on }
  | 'm' => { f with multiLine := on }
  | 's' => { f with dotAll := on }
  | 'R' => { f with crlf := on }
  | 'x' => { f with ignoreSpace := on }
  | 'u' => { f with unicode := on }
  | _ => f

/-- The flags up to the closing parenthesis or colon: the new flags, whether a parenthesis ends
them, how many there are, and what follows. -/
def scanFlags (f : Flags) (seen : List Char) (on : Bool) :
    List Char → Option (Flags × Bool × Nat × List Char)
  | [] => none
  | c :: rest =>
    if c = ')' ∨ c = ':' then
      if seen.head? = some '-' then none else some (f, c = ')', seen.length, rest)
    else if seen.contains c then none
    else if c = '-' then scanFlags f (c :: seen) false rest
    else if "imsUuRx".toList.contains c then scanFlags (f.set c on) (c :: seen) on rest
    else none

/-- Whether a character may stand in the name of a group. -/
def isNameChar (first : Bool) (c : Char) : Bool :=
  c = '_' || Unicode.alphabetic.contains c
    || (!first && (c = '.' || c = '[' || c = ']' || Unicode.number.contains c))

/-- The name of a group up to its closing angle bracket, and what follows. -/
def scanName (cs : List Char) : Option (List Char × List Char) :=
  let name := cs.takeWhile (· ≠ '>')
  match name, cs.dropWhile (· ≠ '>') with
  | c :: more, _ :: rest =>
    if isNameChar true c && more.all (isNameChar false) then some (name, rest) else none
  | _, _ => none

/-- How a group opens. -/
inductive Opening where
  /-- A group whose parts are read under the given flags. -/
  | group (flags : Flags) (name : Option (List Char))
  /-- No group, but flags for what follows. -/
  | setting (flags : Flags)

/-- The opening of a group after its parenthesis, and what follows. -/
def scanOpening (f : Flags) (cs : List Char) : Option (Opening × List Char) :=
  match f.skip cs with
  | '?' :: 'P' :: '<' :: rest => (scanName rest).map fun (n, rest) => (.group f (some n), rest)
  | '?' :: '<' :: '=' :: _ => none
  | '?' :: '<' :: '!' :: _ => none
  | '?' :: '<' :: rest => (scanName rest).map fun (n, rest) => (.group f (some n), rest)
  | '?' :: rest => do
    let (flags, isSetting, count, rest) ← scanFlags f [] true rest
    if isSetting then
      if count = 0 then none else return (.setting flags, rest)
    else return (.group flags none, rest)
  | cs => some (.group f none, cs)

/-! ## Repetitions -/

/-- The bounds of a repetition in braces after the opening brace, and what follows. -/
def scanBounds (f : Flags) (cs : List Char) : Option (Nat × Option Nat × List Char) :=
  let (least, rest) := decimal f cs.length (f.skip cs)
  match rest with
  | ',' :: rest =>
    match f.skip rest with
    | '}' :: rest => least.map fun least => (least, none, rest)
    | rest => do
      let least ← least
      let (most, rest) := decimal f rest.length rest
      let most ← most
      match rest with
      | '}' :: rest => if least ≤ most then return (least, some most, rest) else none
      | _ => none
  | '}' :: rest => least.map fun least => (least, some least, rest)
  | _ => none

/-- What follows a question mark, if there is one. -/
def skipLazy : List Char → List Char
  | '?' :: rest => rest
  | cs => cs

/-- The level with its last item repeated. -/
def Level.repeatLast (l : Level) (least : Nat) (most : Option Nat) : Option Level :=
  match l.items with
  | ⟨some p, h⟩ :: rest => some { l with items := ⟨some (p.times least most), h + 1⟩ :: rest }
  | _ => none

/-! ## Whole patterns -/

/-- The pattern of an atom. -/
def Atom.pattern (f : Flags) : Atom → Pattern
  | .char c => .one (f.fold (.single c))
  | .set s => .one s
  | .look l => .look l

/-- The set that a dot stands for. -/
def dotSet (f : Flags) : CharSet :=
  if f.dotAll then .all
  else if f.crlf then (CharSet.union (.single '\n') (.single '\r')).complement
  else (CharSet.single '\n').complement

/-- The level with one more item. -/
def Level.push (l : Level) (p : Pattern) (height : Nat) : Level :=
  { l with items := ⟨some p, height⟩ :: l.items }

/-- The item that the rest of a pattern makes up together with what has been read of it. -/
def parseFrom : Nat → Flags → List (List Char) → Level → List Outer → List Char → Option Item
  | 0, _, _, _, _, _ => none
  | fuel + 1, f, names, level, outer, cs =>
    match f.skip cs with
    | [] =>
      match outer with
      | [] => some level.close
      | _ => none
    | '(' :: rest =>
      match scanOpening f rest with
      | none => none
      | some (.setting flags, rest) =>
        parseFrom fuel flags names { level with items := ⟨none, 0⟩ :: level.items } outer rest
      | some (.group flags name, rest) =>
        if name.any names.contains then none
        else parseFrom fuel flags (name.toList ++ names) {} (⟨level, f⟩ :: outer) rest
    | ')' :: rest =>
      match outer with
      | [] => none
      | o :: outer =>
        let item := level.close
        parseFrom fuel o.flags names
          (o.level.push (item.pattern.getD .empty) (item.height + 1)) outer rest
    | '|' :: rest =>
      parseFrom fuel f names ⟨level.branch :: level.branches, []⟩ outer rest
    | '[' :: rest =>
      match bracketed f (rest.length + 1) rest with
      | none => none
      | some (set, height, rest) => parseFrom fuel f names (level.push (.one set) height) outer rest
    | '?' :: rest =>
      (level.repeatLast 0 (some 1)).bind fun level =>
        parseFrom fuel f names level outer (skipLazy rest)
    | '*' :: rest =>
      (level.repeatLast 0 none).bind fun level =>
        parseFrom fuel f names level outer (skipLazy rest)
    | '+' :: rest =>
      (level.repeatLast 1 none).bind fun level =>
        parseFrom fuel f names level outer (skipLazy rest)
    | '{' :: rest =>
      match scanBounds f rest with
      | none => none
      | some (least, most, rest) =>
        (level.repeatLast least most).bind fun level =>
          parseFrom fuel f names level outer (skipLazy (f.skip rest))
    | '\\' :: rest =>
      match escape f rest with
      | none => none
      | some (a, rest) => parseFrom fuel f names (level.push (a.pattern f) 0) outer rest
    | '.' :: rest =>
      if f.unicode then parseFrom fuel f names (level.push (.one (dotSet f)) 0) outer rest else none
    | '^' :: rest =>
      let place := if f.multiLine then Look.lineStart f.crlf else .textStart
      parseFrom fuel f names (level.push (.look place) 0) outer rest
    | '$' :: rest =>
      let place := if f.multiLine then Look.lineEnd f.crlf else .textEnd
      parseFrom fuel f names (level.push (.look place) 0) outer rest
    | c :: rest =>
      parseFrom fuel f names (level.push (.one (f.fold (.single c))) 0) outer rest

/-- Why a text is no pattern. -/
inductive Error where
  /-- It is not well formed. -/
  | malformed
  /-- It is nested too deeply. -/
  | nestedTooDeeply
  /-- It is too large once its repetitions are written out. -/
  | tooLarge
deriving DecidableEq

/-- The text of the error. -/
def Error.message : Error → String
  | malformed => "regex parse error: the pattern is not well formed"
  | nestedTooDeeply => "regex parse error: the pattern is nested too deeply"
  | tooLarge => "compiled regex exceeds size limit"

/-- The pattern that a text writes. -/
def parse (text : String) : Except Error Pattern :=
  let cs := text.toList
  match parseFrom (cs.length + 1) {} [] {} [] cs with
  | none => .error .malformed
  | some item =>
    let pattern := item.pattern.getD .empty
    if nestLimit < item.height then .error .nestedTooDeeply
    else if costLimit < pattern.cost then .error .tooLarge
    else .ok pattern

end Trials.Pattern
