import Trials.Json.Numeral

/-!
# JSON tokens

A JSON text is first cut into tokens.  A string token keeps its characters as written, escapes
included, so that a reader which skips a part of a text need not interpret it; `unescape` gives the
characters that it stands for.
-/

namespace Trials.Json

/-- A token. -/
inductive Token where
  | openArray
  | closeArray
  | openObject
  | closeObject
  | comma
  | colon
  /-- The word `null`. -/
  | null
  /-- One of the words `true` and `false`. -/
  | bool (b : Bool)
  | num (n : Numeral)
  /-- A string, as written between its quotes. -/
  | str (body : List Char)
deriving DecidableEq

/-! ## Strings -/

/-- The value of a hexadecimal digit. -/
def hexValue? (c : Char) : Option Nat :=
  if c.isDigit then some (c.toNat - '0'.toNat)
  else if 'a' ≤ c ∧ c ≤ 'f' then some (c.toNat - 'a'.toNat + 10)
  else if 'A' ≤ c ∧ c ≤ 'F' then some (c.toNat - 'A'.toNat + 10)
  else none

/-- The number written by four hexadecimal digits. -/
def hexValue4? (a b c d : Char) : Option Nat := do
  return (((← hexValue? a) * 16 + (← hexValue? b)) * 16 + (← hexValue? c)) * 16 + (← hexValue? d)

/-- What a one-letter escape stands for. -/
def simpleEscape? (c : Char) : Option Char :=
  if c = '"' then some '"'
  else if c = '\\' then some '\\'
  else if c = '/' then some '/'
  else if c = 'b' then some '\x08'
  else if c = 'f' then some '\x0c'
  else if c = 'n' then some '\n'
  else if c = 'r' then some '\r'
  else if c = 't' then some '\t'
  else none

/-- The characters up to the closing quote, and what follows it.  Control characters and unknown
escapes are refused. -/
def scanString : List Char → Option (List Char × List Char)
  | [] => none
  | '"' :: rest => some ([], rest)
  | '\\' :: 'u' :: a :: b :: c :: d :: rest =>
    if (hexValue4? a b c d).isSome then
      (scanString rest).map fun (body, rest) => ('\\' :: 'u' :: a :: b :: c :: d :: body, rest)
    else none
  | '\\' :: e :: rest =>
    if (simpleEscape? e).isSome then
      (scanString rest).map fun (body, rest) => ('\\' :: e :: body, rest)
    else none
  | c :: rest =>
    if c.toNat < 32 ∨ c = '\\' then none
    else (scanString rest).map fun (body, rest) => (c :: body, rest)

/-- Whether a number is the first half of a surrogate pair. -/
def isHighSurrogate (n : Nat) : Bool := decide (0xD800 ≤ n ∧ n < 0xDC00)

/-- Whether a number is the second half of a surrogate pair. -/
def isLowSurrogate (n : Nat) : Bool := decide (0xDC00 ≤ n ∧ n < 0xE000)

/-- The character of a surrogate pair. -/
def ofSurrogates (high low : Nat) : Char :=
  Char.ofNat (0x10000 + (high - 0xD800) * 0x400 + (low - 0xDC00))

/-- The characters that the body of a string token stands for; none if half a surrogate pair is
escaped alone. -/
def unescape : List Char → Option (List Char)
  | [] => some []
  | '\\' :: 'u' :: a :: b :: c :: d :: rest => do
    let n ← hexValue4? a b c d
    if isLowSurrogate n then none
    else if isHighSurrogate n then
      match rest with
      | '\\' :: 'u' :: e :: f :: g :: h :: rest => do
        let m ← hexValue4? e f g h
        if isLowSurrogate m then return ofSurrogates n m :: (← unescape rest) else none
      | _ => none
    else return Char.ofNat n :: (← unescape rest)
  | '\\' :: e :: rest => do return (← simpleEscape? e) :: (← unescape rest)
  | c :: rest => do return c :: (← unescape rest)

/-- The text that the body of a string token stands for. -/
def textOf? (body : List Char) : Option String := (unescape body).map String.ofList

/-! ## Cutting a text into tokens -/

/-- Whether a character may stand between tokens. -/
def isBlank (c : Char) : Bool := c = ' ' || c = '\n' || c = '\r' || c = '\t'

/-- What follows the given word at the head of some characters. -/
def afterWord (word : List Char) (cs : List Char) : Option (List Char) :=
  if word.isPrefixOf cs then some (cs.drop word.length) else none

/-- The token at the head of some characters, which do not start with a blank, and what follows
it. -/
def scanToken (cs : List Char) : Option (Token × List Char) :=
  match cs with
  | [] => none
  | '[' :: rest => some (.openArray, rest)
  | ']' :: rest => some (.closeArray, rest)
  | '{' :: rest => some (.openObject, rest)
  | '}' :: rest => some (.closeObject, rest)
  | ',' :: rest => some (.comma, rest)
  | ':' :: rest => some (.colon, rest)
  | '"' :: rest => (scanString rest).map fun (body, rest) => (.str body, rest)
  | 'n' :: rest => (afterWord "ull".toList rest).map (.null, ·)
  | 't' :: rest => (afterWord "rue".toList rest).map (.bool true, ·)
  | 'f' :: rest => (afterWord "alse".toList rest).map (.bool false, ·)
  | _ => (Numeral.scan cs).map fun (n, rest) => (.num n, rest)

/-- The tokens of a text, at most `fuel` of them. -/
def tokensWithin : Nat → List Char → Option (List Token)
  | fuel, cs =>
    match cs.dropWhile isBlank with
    | [] => some []
    | cs =>
      match fuel with
      | 0 => none
      | fuel + 1 =>
        match scanToken cs with
        | none => none
        | some (t, rest) => (tokensWithin fuel rest).map (t :: ·)

/-- The tokens of a text; none if a part of it is no token.  A text has at most as many tokens as
characters. -/
def tokens? (cs : List Char) : Option (List Token) := tokensWithin cs.length cs

end Trials.Json
