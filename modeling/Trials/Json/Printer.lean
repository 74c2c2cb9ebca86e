import Trials.Json.Basic
import Trials.Number.Shortest

/-!
# JSON texts

How values are written: `Json.compact` on one line without blanks, `Json.pretty` over several lines
with two blanks per level.  Fields are written in the order in which the object lists them.  In
strings the quote, the backslash and the control characters are escaped and everything else stands
as it is.
-/

namespace Trials.Json

/-! ## Leaves -/

/-- The lower-case hexadecimal digit of a number below sixteen. -/
def hexDigit (n : Nat) : Char := (Nat.toDigits 16 n).headD '0'

/-- A character inside a string. -/
def escapeChar (c : Char) : List Char :=
  if c = '"' then ['\\', '"']
  else if c = '\\' then ['\\', '\\']
  else if c = '\n' then ['\\', 'n']
  else if c = '\r' then ['\\', 'r']
  else if c = '\t' then ['\\', 't']
  else if c = '\x08' then ['\\', 'b']
  else if c = '\x0c' then ['\\', 'f']
  else if c.toNat < 32 then ['\\', 'u', '0', '0', hexDigit (c.toNat / 16), hexDigit (c.toNat % 16)]
  else [c]

/-- A string in quotes. -/
def quoted (s : String) : List Char := '"' :: s.toList.flatMap escapeChar ++ ['"']

/-- A finite double: positional with a point while the leading digit stands between `10 ^ -5` and
`10 ^ 15`, with an exponent beyond. -/
def doubleText (x : Binary64) : String :=
  let sign := if x.negative then "-" else ""
  let d := x.shortest .even
  if d.digits = 0 then sign ++ "0.0"
  else if d.leading < -5 ∨ 15 < d.leading then sign ++ d.scientific
  else if 0 ≤ d.exponent then sign ++ d.positional ++ ".0"
  else sign ++ d.positional

/-- The text of a number. -/
def Number.text : Number → String
  | .int n => toString n
  | .double x => doubleText x

/-! ## Compact texts -/

mutual
/-- A value on one line, without blanks. -/
def compactChars : Json → List Char
  | .null => "null".toList
  | .bool true => "true".toList
  | .bool false => "false".toList
  | .num n => n.text.toList
  | .str s => quoted s
  | .arr [] => ['[', ']']
  | .arr (v :: rest) => '[' :: compactChars v ++ compactItems rest
  | .obj [] => ['{', '}']
  | .obj ((k, v) :: rest) => '{' :: quoted k ++ ':' :: compactChars v ++ compactFields rest

/-- The items after the first, and the closing bracket. -/
def compactItems : List Json → List Char
  | [] => [']']
  | v :: rest => ',' :: compactChars v ++ compactItems rest

/-- The fields after the first, and the closing brace. -/
def compactFields : List (String × Json) → List Char
  | [] => ['}']
  | (k, v) :: rest => ',' :: quoted k ++ ':' :: compactChars v ++ compactFields rest
end

/-- The value on one line, without blanks. -/
def compact (v : Json) : String := String.ofList v.compactChars

/-! ## Pretty texts -/

/-- A line break and the indentation of a level. -/
def newline (level : Nat) : List Char := '\n' :: List.replicate (2 * level) ' '

mutual
/-- A value over several lines, its inner lines indented below the given level. -/
def prettyChars (level : Nat) : Json → List Char
  | .null => "null".toList
  | .bool true => "true".toList
  | .bool false => "false".toList
  | .num n => n.text.toList
  | .str s => quoted s
  | .arr [] => ['[', ']']
  | .arr (v :: rest) =>
    '[' :: newline (level + 1) ++ prettyChars (level + 1) v ++ prettyItems level rest
  | .obj [] => ['{', '}']
  | .obj ((k, v) :: rest) =>
    '{' :: newline (level + 1) ++ quoted k ++ ':' :: ' ' :: prettyChars (level + 1) v
      ++ prettyFields level rest

/-- The items after the first, and the closing bracket on its own line. -/
def prettyItems (level : Nat) : List Json → List Char
  | [] => newline level ++ [']']
  | v :: rest =>
    ',' :: newline (level + 1) ++ prettyChars (level + 1) v ++ prettyItems level rest

/-- The fields after the first, and the closing brace on its own line. -/
def prettyFields (level : Nat) : List (String × Json) → List Char
  | [] => newline level ++ ['}']
  | (k, v) :: rest =>
    ',' :: newline (level + 1) ++ quoted k ++ ':' :: ' ' :: prettyChars (level + 1) v
      ++ prettyFields level rest
end

/-- The value over several lines, two blanks per level. -/
def pretty (v : Json) : String := String.ofList (prettyChars 0 v)

end Trials.Json
