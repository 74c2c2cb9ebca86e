import Trials.Toml.Scalar

/-!
# Reading TOML

`Toml.parse?` reads a TOML text of version 1.1 into a table.  A text that breaks any rule of the
language, including those about keys and tables that are defined twice, gives nothing.
-/

namespace Trials.Toml

/-! ## Blanks and comments -/

/-- What follows blanks. -/
def skipBlanks (cs : List Char) : List Char := cs.dropWhile isBlank

/-- The characters of a comment after its `#`: those up to the line break. -/
def commentText (cs : List Char) : List Char :=
  let line := cs.takeWhile (· ≠ '\n')
  if line.getLast? = some '\r' && (cs.drop line.length).head? = some '\n' then line.dropLast
  else line

/-- What follows a comment, if there is one; none if it holds control characters. -/
def afterComment? : List Char → Option (List Char)
  | '#' :: rest =>
    if (commentText rest).any isControl then none else some (rest.drop (commentText rest).length)
  | cs => some cs

/-- What follows the rest of a line: blanks, a comment, and a line break or the end of the text. -/
def afterLine? (cs : List Char) : Option (List Char) := do
  let rest ← afterComment? (skipBlanks cs)
  match rest with
  | [] => return []
  | _ => afterNewline? rest

theorem length_afterComment? {cs rest : List Char} (h : afterComment? cs = some rest) :
    rest.length ≤ cs.length := by
  unfold afterComment? at h
  split at h
  · split at h
    · cases h
    · cases h
      simp only [List.length_drop, List.length_cons]
      omega
  · cases h
    exact Nat.le_refl _

theorem length_afterNewline? {cs rest : List Char} (h : afterNewline? cs = some rest) :
    rest.length < cs.length := by
  unfold afterNewline? at h
  split at h
  · cases h
    simp
  · cases h
    simp only [List.length_cons]
    omega
  · cases h

/-- What follows blanks, comments and line breaks. -/
def skipTrivia (cs : List Char) : Option (List Char) :=
  match _hc : afterComment? (skipBlanks cs) with
  | none => none
  | some rest =>
    match _hn : afterNewline? rest with
    | none => some rest
    | some rest => skipTrivia rest
termination_by cs.length
decreasing_by
  have h₁ := length_afterNewline? _hn
  have h₂ := length_afterComment? _hc
  have h₃ := (cs.dropWhile_sublist isBlank).length_le
  simp only [skipBlanks] at h₂
  omega

/-! ## Keys -/

/-- Whether a character may stand in a key without quotes. -/
def isKeyChar (c : Char) : Bool := c.isAlphanum || c = '_' || c = '-'

/-- A key without dots, and what follows. -/
def simpleKey? (cs : List Char) : Option (String × List Char) :=
  match cs with
  | '"' :: rest => (basicString (rest.length + 1) rest).map fun (k, rest) => (String.ofList k, rest)
  | '\'' :: rest => (literalString rest).map fun (k, rest) => (String.ofList k, rest)
  | _ =>
    match cs.takeWhile isKeyChar with
    | [] => none
    | k => some (String.ofList k, cs.dropWhile isKeyChar)

/-- How many parts a key may have. -/
def maxParts : Nat := 80

/-- A key of at most `fuel` parts with dots between them, and what follows it and blanks. -/
def dottedKey? : Nat → List Char → Option (List String × List Char)
  | 0, _ => none
  | fuel + 1, cs => do
    let (part, rest) ← simpleKey? (skipBlanks cs)
    match skipBlanks rest with
    | '.' :: rest => do
      let (parts, rest) ← dottedKey? fuel rest
      return (part :: parts, rest)
    | rest => return ([part], rest)

/-- The parts of a key before the last one, and the last one. -/
def splitKey? (parts : List String) : Option (List String × String) :=
  parts.getLast?.map fun last => (parts.dropLast, last)

/-! ## Values -/

/-- How many arrays and inline tables may be nested in one another. -/
def maxDepth : Nat := 80

mutual
/-- A value, and what follows; `depth` more arrays and tables may be nested in it. -/
def value? : Nat → Nat → List Char → Option (Toml × List Char)
  | 0, _, _ => none
  | fuel + 1, depth, cs =>
    match cs with
    | '"' :: '"' :: '"' :: rest =>
      (longStringBody '"' true rest).map fun (s, rest) => (.text (String.ofList s), rest)
    | '\'' :: '\'' :: '\'' :: rest =>
      (longStringBody '\'' false rest).map fun (s, rest) => (.text (String.ofList s), rest)
    | '"' :: rest =>
      (basicString (rest.length + 1) rest).map fun (s, rest) => (.text (String.ofList s), rest)
    | '\'' :: rest =>
      (literalString rest).map fun (s, rest) => (.text (String.ofList s), rest)
    | '[' :: rest =>
      match depth with
      | 0 => none
      | depth + 1 => (items? fuel depth rest).map fun (items, rest) => (.array items, rest)
    | '{' :: rest =>
      match depth with
      | 0 => none
      | depth + 1 =>
        (entries? fuel depth [] rest).map fun (entries, rest) =>
          (.table (finishEntries entries), rest)
    | _ =>
      let (token, rest) := scanToken cs
      (scalar? token).map fun v => (v, rest)

/-- The items of an array up to its closing bracket, and what follows. -/
def items? : Nat → Nat → List Char → Option (List Toml × List Char)
  | 0, _, _ => none
  | fuel + 1, depth, cs => do
    match ← skipTrivia cs with
    | ']' :: rest => return ([], rest)
    | cs => do
      let (v, rest) ← value? fuel depth cs
      match ← skipTrivia rest with
      | ']' :: rest => return ([v], rest)
      | ',' :: rest => do
        let (vs, rest) ← items? fuel depth rest
        return (v :: vs, rest)
      | _ => none

/-- The entries of an inline table up to its closing brace, after those read before, and what
follows. -/
def entries? : Nat → Nat → Entries → List Char → Option (Entries × List Char)
  | 0, _, _, _ => none
  | fuel + 1, depth, before, cs => do
    match ← skipTrivia cs with
    | '}' :: rest => return (before, rest)
    | cs => do
      let (parts, rest) ← dottedKey? maxParts cs
      let (path, key) ← splitKey? parts
      let (v, rest) ← value? fuel depth (skipBlanks (← after? '=' rest))
      let entries ← addValue path key v before
      match ← skipTrivia rest with
      | '}' :: rest => return (entries, rest)
      | ',' :: rest => entries? fuel depth entries rest
      | _ => none
end

/-! ## Documents -/

/-- A document in the making: the path of the table that is being filled, and all entries. -/
structure Draft where
  /-- The path of the current table. -/
  header : List String := []
  entries : Entries := []

/-- The draft after one line, and what follows the line. -/
def line? (d : Draft) (cs : List Char) : Option (Draft × List Char) :=
  match skipBlanks cs with
  | '[' :: '[' :: rest => do
    let (parts, rest) ← dottedKey? maxParts rest
    let rest ← after? ']' (← after? ']' rest)
    let (path, key) ← splitKey? parts
    return (⟨parts, ← openEntry path key d.entries⟩, ← afterLine? rest)
  | '[' :: rest => do
    let (parts, rest) ← dottedKey? maxParts rest
    let rest ← after? ']' rest
    let (path, key) ← splitKey? parts
    return (⟨parts, ← openTable path key d.entries⟩, ← afterLine? rest)
  | cs =>
    match afterLine? cs with
    | some rest => some (d, rest)
    | none => do
      let (parts, rest) ← dottedKey? maxParts cs
      let (path, key) ← splitKey? parts
      let (v, rest) ← value? (rest.length + 1) maxDepth (skipBlanks (← after? '=' rest))
      return ({ d with entries := ← addValueAt d.header path key v d.entries }, ← afterLine? rest)

/-- The entries of a document, at most `fuel` lines further. -/
def lines? : Nat → Draft → List Char → Option Entries
  | _, d, [] => some d.entries
  | 0, _, _ => none
  | fuel + 1, d, cs => do
    let (d, rest) ← line? d cs
    lines? fuel d rest

/-- The table that a text writes; a byte order mark at its beginning is passed over. -/
def parse? (text : String) : Option (List (String × Toml)) :=
  let cs := match text.toList with
    | '\uFEFF' :: rest => rest
    | cs => cs
  (lines? (cs.length + 1) {} cs).map finishEntries

end Trials.Toml
