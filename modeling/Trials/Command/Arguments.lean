import Trials.Number.Binary64
import Trials.Json.Numeral

/-!
# Command-line arguments

Arguments are options, which start with two hyphens and may carry a value, flags that also have a
short form, and other arguments in order.  After a lone `--` nothing is an option any more.  An
option may be given once; its value follows an equals sign or is the next argument, which then must
not look like an option.  `Arguments.scan` sorts arguments by these rules; everything that breaks
one of them gives nothing.
-/

namespace Trials

/-- An option that a command knows. -/
structure OptionSpec where
  /-- Its name, without hyphens. -/
  name : String
  /-- Its short form, if it has one. -/
  short : Option Char := none
  hasValue : Bool := true

/-- Arguments sorted into options and others. -/
structure Arguments where
  /-- The options with their values, which are empty for flags. -/
  options : List (String × String) := []
  /-- The other arguments, in order. -/
  operands : List String := []

namespace Arguments

/-- The value of an option. -/
def value? (a : Arguments) (name : String) : Option String :=
  (a.options.find? fun o => o.1 == name).map (·.2)

/-- Whether an option is given. -/
def has (a : Arguments) (name : String) : Bool := (a.value? name).isSome

/-- The arguments with one more option, unless it is given already. -/
def addOption (a : Arguments) (name value : String) : Option Arguments :=
  if a.has name then none else some { a with options := a.options ++ [(name, value)] }

/-- The name of an option and the value after its equals sign; none for an argument that does not
start with two hyphens. -/
def longOption? (arg : String) : Option (String × Option String) :=
  match arg.toList with
  | '-' :: '-' :: cs =>
    let name := String.ofList (cs.takeWhile (· ≠ '='))
    match cs.dropWhile (· ≠ '=') with
    | [] => some (name, none)
    | _ :: value => some (name, some (String.ofList value))
  | _ => none

/-- The letters of a group of short options. -/
def shortOptions? (arg : String) : Option (List Char) :=
  match arg.toList with
  | '-' :: c :: cs => if c = '-' then none else some (c :: cs)
  | _ => none

/-- Whether an argument looks like an option. -/
def looksLikeOption (arg : String) : Bool :=
  match arg.toList with
  | '-' :: _ :: _ => true
  | _ => false

/-- The arguments with some flags added by their short forms. -/
def addShort (specs : List OptionSpec) (a : Arguments) (letters : List Char) : Option Arguments :=
  letters.foldlM (fun a c => do
    let spec ← specs.find? fun s => s.short == some c
    if spec.hasValue then none else a.addOption spec.name "") a

/-- The option at the head of some arguments, added to those scanned so far, and what follows it. -/
def takeOption (specs : List OptionSpec) (a : Arguments) (name : String) (attached : Option String)
    (rest : List String) : Option (Arguments × List String) := do
  let spec ← specs.find? fun s => s.name == name
  match spec.hasValue, attached with
  | false, none => return (← a.addOption name "", rest)
  | false, some _ => none
  | true, some value => return (← a.addOption name value, rest)
  | true, none =>
    match rest with
    | [] => none
    | value :: rest =>
      if looksLikeOption value then none else return (← a.addOption name value, rest)

/-- Arguments sorted, at most `fuel` steps further. -/
def scanWithin (specs : List OptionSpec) : Nat → Arguments → List String → Option Arguments
  | _, a, [] => some a
  | 0, _, _ => none
  | fuel + 1, a, arg :: rest =>
    if arg = "--" then some { a with operands := a.operands ++ rest }
    else
      match longOption? arg with
      | some (name, attached) => do
        let (a, rest) ← takeOption specs a name attached rest
        scanWithin specs fuel a rest
      | none =>
        match shortOptions? arg with
        | some letters => do scanWithin specs fuel (← addShort specs a letters) rest
        | none => scanWithin specs fuel { a with operands := a.operands ++ [arg] } rest

/-- Arguments sorted. -/
def scan (specs : List OptionSpec) (args : List String) : Option Arguments :=
  scanWithin specs args.length {} args

/-- The options before the name of a command, the name, and the arguments after it. -/
def splitWithin (specs : List OptionSpec) :
    Nat → Arguments → List String → Option (Arguments × String × List String)
  | 0, _, _ => none
  | _, _, [] => none
  | fuel + 1, a, arg :: rest =>
    match longOption? arg with
    | some (name, attached) => do
      let (a, rest) ← takeOption specs a name attached rest
      splitWithin specs fuel a rest
    | none => if looksLikeOption arg then none else some (a, arg, rest)

/-- The options before the name of a command, the name, and the arguments after it. -/
def split (specs : List OptionSpec) (args : List String) :
    Option (Arguments × String × List String) :=
  splitWithin specs args.length {} args

/-! ## Values -/

/-- The digits of a number after a plus sign, which may be missing. -/
def afterPlus : List Char → List Char
  | '+' :: rest => rest
  | cs => cs

/-- The unsigned number below a bound that a text writes, with a plus sign or without. -/
def unsigned? (bound : Nat) (text : String) : Option Nat :=
  let digits := afterPlus text.toList
  if digits.isEmpty || !digits.all Char.isDigit then none
  else
    let n := Json.natOfDigits 0 digits
    if n < bound then some n else none

/-- The unsigned number of 32 bits that a text writes; it may have a sign, even a minus sign if it
is zero. -/
def uint32? (text : String) : Option UInt32 :=
  match text.toList with
  | '-' :: digits =>
    if digits.isEmpty || !digits.all (· = '0') then none else some 0
  | _ => (unsigned? UInt32.size text).map UInt32.ofNat

/-- The unsigned number of 64 bits that a text writes. -/
def uint64? (text : String) : Option UInt64 := (unsigned? UInt64.size text).map UInt64.ofNat

/-- The size that a text writes. -/
def size? (text : String) : Option Nat := unsigned? UInt64.size text

/-- The file name that a text is: any text that is not empty. -/
def fileName? (text : String) : Option String := if text.isEmpty then none else some text

/-- A sign, if there is one: whether it is a minus sign, and what follows. -/
def signed : List Char → Bool × List Char
  | '+' :: rest => (false, rest)
  | '-' :: rest => (true, rest)
  | cs => (false, cs)

/-- The exponent of a number: a sign, which may be missing, and digits. -/
def exponent? (cs : List Char) : Option Int :=
  let (negative, digits) := signed cs
  if digits.isEmpty || !digits.all Char.isDigit then none
  else
    let n : Int := Json.natOfDigits 0 digits
    some (if negative then -n else n)

/-- The number that decimal digits, a point and an exponent write: at least one digit stands before
or after the point. -/
def decimal? (negative : Bool) (cs : List Char) : Option Binary64 := do
  let isMark (c : Char) : Bool := c = 'e' || c = 'E'
  let mantissa := cs.takeWhile fun c => !isMark c
  let exponent ← match cs.dropWhile fun c => !isMark c with
    | [] => some 0
    | _ :: rest => exponent? rest
  let whole := mantissa.takeWhile (· ≠ '.')
  let fraction := (mantissa.dropWhile (· ≠ '.')).drop 1
  if (whole ++ fraction).isEmpty || !(whole ++ fraction).all Char.isDigit then none
  else
    return .ofDecimal negative (Json.natOfDigits 0 (whole ++ fraction)) (exponent - fraction.length)

/-- The double that a text writes, the words for infinity and for no number included. -/
def double? (text : String) : Option Binary64 :=
  let (negative, cs) := signed text.toList
  let word := String.ofList (cs.map Char.toLower)
  if word = "inf" ∨ word = "infinity" then some (.infinity negative)
  else if word = "nan" then some .nan
  else decimal? negative cs

/-- The value of an option read in some way; `default` if the option is not given. -/
def valueOr {α : Type} (a : Arguments) (name : String) (default : α) (read : String → Option α) :
    Option α :=
  match a.value? name with
  | none => some default
  | some text => read text

/-- The value of an option read in some way, if the option is given. -/
def optional? {α : Type} (a : Arguments) (name : String) (read : String → Option α) :
    Option (Option α) :=
  a.valueOr name none fun text => (read text).map some

/-- The one operand, which is the name of a file. -/
def onlyFile? (a : Arguments) : Option String :=
  match a.operands with
  | [name] => fileName? name
  | _ => none

end Arguments

end Trials
