import Trials.Toml.Basic

/-!
# TOML scalars

Numbers, truth values, dates and times as they are written in TOML (`Toml.scalar?`), and the strings
of TOML with their escapes.
-/

namespace Trials.Toml

/-! ## Numbers -/

/-- The value of a digit in any base up to sixteen. -/
def digitValue? (c : Char) : Option Nat :=
  if c.isDigit then some (c.toNat - '0'.toNat)
  else if 'a' ≤ c ∧ c ≤ 'f' then some (c.toNat - 'a'.toNat + 10)
  else if 'A' ≤ c ∧ c ≤ 'F' then some (c.toNat - 'A'.toNat + 10)
  else none

/-- The digits of a number in a base; single underscores may stand between two digits. -/
def digits? (base : Nat) : List Char → Option (List Nat)
  | [] => none
  | [c] => (digitValue? c).bind fun n => if n < base then some [n] else none
  | c :: '_' :: rest => do
    let n ← digitValue? c
    if n < base then return n :: (← digits? base rest) else none
  | c :: rest => do
    let n ← digitValue? c
    if n < base then return n :: (← digits? base rest) else none

/-- The number that some digits write in a base. -/
def ofDigits (base : Nat) (digits : List Nat) : Nat := digits.foldl (fun n d => n * base + d) 0

/-- Decimal digits without a superfluous zero at the beginning. -/
def wholeDigits? (cs : List Char) : Option (List Nat) := do
  let ds ← digits? 10 cs
  match ds with
  | 0 :: _ :: _ => none
  | _ => return ds

/-- A sign, if there is one: whether it is a minus sign, and what follows. -/
def signed : List Char → Bool × List Char
  | '+' :: rest => (false, rest)
  | '-' :: rest => (true, rest)
  | cs => (false, cs)

/-- The integer that a token writes. -/
def integer? (cs : List Char) : Option Int :=
  match cs with
  | '0' :: 'x' :: rest => (digits? 16 rest).map fun ds => ofDigits 16 ds
  | '0' :: 'o' :: rest => (digits? 8 rest).map fun ds => ofDigits 8 ds
  | '0' :: 'b' :: rest => (digits? 2 rest).map fun ds => ofDigits 2 ds
  | _ => do
    let (negative, rest) := signed cs
    let n : Int := ofDigits 10 (← wholeDigits? rest)
    return if negative then -n else n

/-- Whether a character marks an exponent. -/
def isExponentMark (c : Char) : Bool := c = 'e' || c = 'E'

/-- The exponent that a token writes after its mark. -/
def exponent? (cs : List Char) : Option Int := do
  let (negative, rest) := signed cs
  let n : Int := ofDigits 10 (← digits? 10 rest)
  return if negative then -n else n

/-- The float that a token writes in decimals; the inner option is empty if it is larger than every
double. -/
def decimalFloat? (cs : List Char) : Option (Option Binary64) := do
  let (negative, rest) := signed cs
  let mantissa := rest.takeWhile fun c => !isExponentMark c
  let exponent ← match rest.dropWhile fun c => !isExponentMark c with
    | [] => some none
    | _ :: rest => (exponent? rest).map some
  let whole ← wholeDigits? (mantissa.takeWhile (· ≠ '.'))
  let fraction ← match mantissa.dropWhile (· ≠ '.') with
    | [] => if exponent.isSome then some [] else none
    | _ :: rest => digits? 10 rest
  let x := Binary64.ofDecimal negative (ofDigits 10 (whole ++ fraction))
    (exponent.getD 0 - fraction.length)
  return if x.isFinite then some x else none

/-- The float that a token writes. -/
def float? (cs : List Char) : Option (Option Binary64) :=
  let (negative, rest) := signed cs
  if rest = ['i', 'n', 'f'] then some (some (.infinity negative))
  else if rest = ['n', 'a', 'n'] then some (some .nan)
  else decimalFloat? cs

/-! ## Dates and times -/

/-- The number of exactly so many decimal digits at the head, and what follows. -/
def fixed? (width : Nat) (cs : List Char) : Option (Nat × List Char) :=
  let head := cs.take width
  if head.length = width && head.all Char.isDigit then
    some (ofDigits 10 (head.map fun c => c.toNat - '0'.toNat), cs.drop width)
  else none

/-- What follows a character that has to be there. -/
def after? (c : Char) : List Char → Option (List Char)
  | [] => none
  | d :: rest => if c = d then some rest else none

/-- The number of days of a month. -/
def daysIn (year month : Nat) : Nat :=
  if month = 2 then
    if year % 4 = 0 ∧ (year % 100 ≠ 0 ∨ year % 400 = 0) then 29 else 28
  else if month = 4 ∨ month = 6 ∨ month = 9 ∨ month = 11 then 30
  else 31

/-- What follows a date at the head. -/
def afterDate? (cs : List Char) : Option (List Char) := do
  let (year, rest) ← fixed? 4 cs
  let (month, rest) ← fixed? 2 (← after? '-' rest)
  let (day, rest) ← fixed? 2 (← after? '-' rest)
  if 1 ≤ month ∧ month ≤ 12 ∧ 1 ≤ day ∧ day ≤ daysIn year month then return rest else none

/-- What follows a fraction of a second, if there is one. -/
def afterFraction? : List Char → Option (List Char)
  | '.' :: rest =>
    match rest with
    | c :: more => if c.isDigit then some (more.dropWhile Char.isDigit) else none
    | [] => none
  | cs => some cs

/-- What follows a time at the head; its seconds may be missing. -/
def afterTime? (cs : List Char) : Option (List Char) := do
  let (hour, rest) ← fixed? 2 cs
  let (minute, rest) ← fixed? 2 (← after? ':' rest)
  if 23 < hour ∨ 59 < minute then none
  else
    match rest with
    | ':' :: rest => do
      let (second, rest) ← fixed? 2 rest
      if 60 < second then none else afterFraction? rest
    | rest => return rest

/-- Whether the characters are an offset from universal time, or nothing. -/
def isOffset (cs : List Char) : Bool :=
  match cs with
  | [] => true
  | ['Z'] => true
  | ['z'] => true
  | c :: rest =>
    (c = '+' || c = '-') &&
      match fixed? 2 rest with
      | some (hour, ':' :: rest) =>
        match fixed? 2 rest with
        | some (minute, []) => decide (hour ≤ 23 ∧ minute ≤ 59)
        | _ => false
      | _ => false

/-- Whether a token is a date, a time, or a date and a time. -/
def isMoment (cs : List Char) : Bool :=
  match afterDate? cs with
  | some [] => true
  | some (c :: rest) =>
    (c = 'T' || c = 't' || c = ' ') && (afterTime? rest).any isOffset
  | none => (afterTime? cs).any List.isEmpty

/-! ## Tokens -/

/-- Whether a character may stand in a token that is no string. -/
def isTokenChar (c : Char) : Bool :=
  c.isAlphanum || c = '_' || c = '+' || c = '-' || c = '.' || c = ':'

/-- The token at the head, which takes in a blank between a date and a time, and what follows. -/
def scanToken (cs : List Char) : List Char × List Char :=
  let token := cs.takeWhile isTokenChar
  let rest := cs.dropWhile isTokenChar
  match rest with
  | ' ' :: c :: _ =>
    if (afterDate? token) == some [] && c.isDigit then
      let more := rest.drop 1
      (token ++ ' ' :: more.takeWhile isTokenChar, more.dropWhile isTokenChar)
    else (token, rest)
  | _ => (token, rest)

/-- The value of a token. -/
def scalar? (cs : List Char) : Option Toml :=
  if cs = ['t', 'r', 'u', 'e'] then some (.boolean true)
  else if cs = ['f', 'a', 'l', 's', 'e'] then some (.boolean false)
  else
    match integer? cs with
    | some n => some (.integer n)
    | none =>
      match float? cs with
      | some x => some (.float x)
      | none => if isMoment cs then some (.moment (String.ofList cs)) else none

/-! ## Strings -/

/-- Whether a character may not stand in a text: a control character that is no tab. -/
def isControl (c : Char) : Bool := (c.toNat < 32 && c ≠ '\t') || c.toNat = 127

/-- Whether a character is a blank. -/
def isBlank (c : Char) : Bool := c = ' ' || c = '\t'

/-- What follows a line break at the head. -/
def afterNewline? : List Char → Option (List Char)
  | '\n' :: rest => some rest
  | '\r' :: '\n' :: rest => some rest
  | _ => none

/-- What a one-letter escape stands for. -/
def simpleEscape? (c : Char) : Option Char :=
  match c with
  | 'b' => some '\x08'
  | 't' => some '\t'
  | 'n' => some '\n'
  | 'f' => some '\x0c'
  | 'r' => some '\r'
  | 'e' => some '\x1b'
  | '"' => some '"'
  | '\\' => some '\\'
  | _ => none

/-- The character that so many hexadecimal digits at the head stand for, and what follows. -/
def codePoint? (width : Nat) (cs : List Char) : Option (Char × List Char) := do
  let head := cs.take width
  if head.length ≠ width then none
  else
    let n := ofDigits 16 (← head.mapM digitValue?)
    if n.isValidChar then return (Char.ofNat n, cs.drop width) else none

/-- The character that an escape after its backslash stands for, and what follows. -/
def escape? : List Char → Option (Char × List Char)
  | [] => none
  | c :: rest =>
    match c with
    | 'x' => codePoint? 2 rest
    | 'u' => codePoint? 4 rest
    | 'U' => codePoint? 8 rest
    | _ => (simpleEscape? c).map fun d => (d, rest)

/-- A string after its opening quote: its characters, and what follows the closing quote. -/
def basicString : Nat → List Char → Option (List Char × List Char)
  | 0, _ => none
  | _, [] => none
  | fuel + 1, c :: rest =>
    if c = '"' then some ([], rest)
    else if c = '\\' then do
      let (d, rest) ← escape? rest
      let (cs, rest) ← basicString fuel rest
      return (d :: cs, rest)
    else if isControl c then none
    else (basicString fuel rest).map fun (cs, rest) => (c :: cs, rest)

/-- A literal string after its opening quote. -/
def literalString : List Char → Option (List Char × List Char)
  | [] => none
  | c :: rest =>
    if c = '\'' then some ([], rest)
    else if isControl c then none
    else (literalString rest).map fun (cs, rest) => (c :: cs, rest)

/-- What follows blanks and line breaks. -/
def skipLines : List Char → List Char
  | '\r' :: '\n' :: rest => skipLines rest
  | c :: rest => if isBlank c || c = '\n' then skipLines rest else c :: rest
  | [] => []

/-- The end of a string of several lines: up to two quotes that belong to it, and what follows. -/
def closing? (quote : Char) (cs : List Char) : Option (List Char × List Char) :=
  let count := (cs.takeWhile (· = quote)).length
  if count < 3 then none
  else
    let kept := min count 5 - 3
    some (List.replicate kept quote, cs.drop (kept + 3))

/-- A string of several lines after its opening quotes; `escapes` tells whether a backslash means
anything. -/
def longString (quote : Char) (escapes : Bool) : Nat → List Char → Option (List Char × List Char)
  | 0, _ => none
  | fuel + 1, cs =>
    match closing? quote cs with
    | some result => some result
    | none =>
      match afterNewline? cs with
      | some rest => (longString quote escapes fuel rest).map fun (cs, rest) => ('\n' :: cs, rest)
      | none =>
        match cs with
        | [] => none
        | c :: rest =>
          if escapes && c = '\\' then
            match afterNewline? (rest.dropWhile isBlank) with
            | some rest => longString quote escapes fuel (skipLines rest)
            | none => do
              let (d, rest) ← escape? rest
              let (cs, rest) ← longString quote escapes fuel rest
              return (d :: cs, rest)
          else if isControl c then none
          else (longString quote escapes fuel rest).map fun (cs, rest) => (c :: cs, rest)

/-- A string of several lines after its opening quotes; a line break directly after them does not
belong to it. -/
def longStringBody (quote : Char) (escapes : Bool) (cs : List Char) :
    Option (List Char × List Char) :=
  let cs := (afterNewline? cs).getD cs
  longString quote escapes (cs.length + 1) cs

end Trials.Toml
