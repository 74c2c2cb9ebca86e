/-!
# File names

A file name is a text whose parts are separated by slashes.  Repeated slashes and inner parts that
are a single dot mean nothing.  The functions here compute with names alone: the name of the
enclosing directory, the name with another extension, the name of a file in a directory.
-/

namespace Trials.FileName

/-- The parts of a name between its slashes, empty ones included. -/
def parts : List Char → List (List Char)
  | [] => [[]]
  | c :: cs =>
    if c = '/' then [] :: parts cs
    else
      match parts cs with
      | [] => [[c]]
      | part :: rest => (c :: part) :: rest

/-- A reversed name without slashes and single dots at its end, the slash of the root excepted. -/
def trimReversed : List Char → List Char
  | '/' :: c :: rest => trimReversed (c :: rest)
  | '.' :: '/' :: [] => ['/']
  | '.' :: '/' :: c :: rest => trimReversed (c :: rest)
  | cs => cs

/-- A name without slashes and single dots at its end, the slash of the root excepted. -/
def trimmed (name : String) : List Char := (trimReversed name.toList.reverse).reverse

/-- The last part of a name without slashes at its end. -/
def lastPart (cs : List Char) : List Char := (cs.reverse.takeWhile (· ≠ '/')).reverse

/-- The name of the enclosing directory, empty for the current one; the root has none. -/
def parent? (name : String) : Option String :=
  match trimmed name with
  | [] => none
  | ['/'] => none
  | cs => some (String.ofList (trimReversed (cs.reverse.dropWhile (· ≠ '/'))).reverse)

/-- The part before the last dot of a file's own name; a dot at the beginning does not count. -/
def stem (own : List Char) : List Char :=
  match own.reverse.dropWhile (· ≠ '.') with
  | [] => own
  | [_] => own
  | _ :: before => before.reverse

/-- The name with another extension, or with one if it has none; unchanged if it names no file. -/
def withExtension (name extension : String) : String :=
  let cs := trimmed name
  let own := lastPart cs
  if own = [] ∨ own = ['.'] ∨ own = ['.', '.'] then name
  else String.ofList (cs.take (cs.length - own.length) ++ stem own ++ '.' :: extension.toList)

/-- The name of a file in a directory. -/
def join (directory file : String) : String :=
  if directory.isEmpty then file
  else if directory.toList.getLast? = some '/' then directory ++ file
  else directory ++ "/" ++ file

/-- The name and the names of the directories around it, innermost first, at most `fuel` of them;
the current directory is not among them. -/
def enclosing : Nat → String → List String
  | 0, _ => []
  | fuel + 1, name =>
    if name.isEmpty then []
    else name :: match parent? name with
      | some parent => enclosing fuel parent
      | none => []

end Trials.FileName
