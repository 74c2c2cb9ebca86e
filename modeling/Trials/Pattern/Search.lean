import Trials.Pattern.Parser

/-!
# Searching for patterns

Whether a text contains a part that a pattern describes.  The pattern is written out as a program
(`Program`), a list of instructions that name their successors, and the text is read once while
keeping the set of instructions that may be reached (`Program.search`).  Repetitions are written
out, so that no search takes more than the product of program and text.
-/

namespace Trials

/-- One step of a program. -/
inductive Instruction where
  /-- Read a character of a set, then go on. -/
  | read (set : CharSet) (next : Nat)
  /-- Go on if an assertion holds. -/
  | check (l : Look) (next : Nat)
  /-- Go on at either of two places. -/
  | fork (a b : Nat)
  /-- The part has been found. -/
  | found
deriving Inhabited

/-- A program: its instructions, and the place where it starts. -/
structure Program where
  /-- The instructions. -/
  code : Array Instruction
  /-- The place of the first instruction. -/
  start : Nat

namespace Program

/-! ## Writing out -/

/-- The program with one more instruction, which becomes its start. -/
def push (p : Program) (i : Instruction) : Program := ⟨p.code.push i, p.code.size⟩

/-- A function applied several times. -/
def iterate {α : Type} (step : α → α) : Nat → α → α
  | 0, a => a
  | n + 1, a => iterate step n (step a)

/-- The program that first matches a pattern and then goes on with the given program. -/
def prepend : Pattern → Program → Program
  | .empty, p => p
  | .one s, p => p.push (.read s p.start)
  | .look l, p => p.push (.check l p.start)
  | .seq a b, p => prepend a (prepend b p)
  | .alt a b, p =>
    let pa := prepend a p
    let pb := prepend b ⟨pa.code, p.start⟩
    pb.push (.fork pa.start pb.start)
  | .repeated inner least none, p =>
    let hub := p.code.size
    let body := prepend inner ⟨p.code.push default, hub⟩
    let loop : Program := ⟨body.code.setIfInBounds hub (.fork body.start p.start), hub⟩
    iterate (fun q => prepend inner q) least loop
  | .repeated inner least (some most), p =>
    let exit := p.start
    let optional := iterate
      (fun q => let body := prepend inner q; body.push (.fork body.start exit)) (most - least) p
    iterate (fun q => prepend inner q) least optional

/-- The program of a pattern. -/
def ofPattern (p : Pattern) : Program := prepend p ⟨#[.found], 0⟩

/-! ## Places in a text -/

/-- A place in a text: the character before it and the character after it. -/
structure Place where
  /-- The character before the place; none at the beginning. -/
  before : Option Char
  /-- The character after the place; none at the end. -/
  after : Option Char

/-- Whether a neighbouring character is a word character. -/
def isWord (ascii : Bool) (c : Option Char) : Bool :=
  c.any fun c => if ascii then Pattern.asciiWord.contains c else Unicode.word.contains c

/-- Whether an assertion holds at a place. -/
def holds (l : Look) (p : Place) : Bool :=
  match l with
  | .textStart => p.before.isNone
  | .textEnd => p.after.isNone
  | .lineStart false => p.before.isNone || p.before == some '\n'
  | .lineEnd false => p.after.isNone || p.after == some '\n'
  | .lineStart true =>
    p.before.isNone || p.before == some '\n' || (p.before == some '\r' && p.after != some '\n')
  | .lineEnd true =>
    p.after.isNone || p.after == some '\r' || (p.after == some '\n' && p.before != some '\r')
  | .boundary ascii => isWord ascii p.before != isWord ascii p.after
  | .noBoundary ascii => isWord ascii p.before == isWord ascii p.after
  | .wordStart ascii => !isWord ascii p.before && isWord ascii p.after
  | .wordEnd ascii => isWord ascii p.before && !isWord ascii p.after
  | .notAfterWord ascii => !isWord ascii p.before
  | .notBeforeWord ascii => !isWord ascii p.after

/-! ## Reading a text -/

/-- The instructions reached at a place: which ones have been seen, the reading ones among them, and
whether the end of the program is among them. -/
structure Reached where
  /-- Which instructions have been seen. -/
  seen : Array Bool
  /-- The instructions that read a character, last first. -/
  reading : List Nat := []
  /-- Whether the part has been found. -/
  found : Bool := false

/-- What is reached from some instructions without reading; each instruction is seen once, so that
`fuel` need not exceed three times their number. -/
def follow (code : Array Instruction) (place : Place) : Nat → List Nat → Reached → Reached
  | 0, _, r => r
  | _, [], r => r
  | fuel + 1, i :: todo, r =>
    if r.seen.getD i true then follow code place fuel todo r
    else
      let r := { r with seen := r.seen.setIfInBounds i true }
      match code[i]? with
      | some (.read _ _) => follow code place fuel todo { r with reading := i :: r.reading }
      | some (.check l next) =>
        follow code place fuel (if holds l place then next :: todo else todo) r
      | some (.fork a b) => follow code place fuel (a :: b :: todo) r
      | some .found => follow code place fuel todo { r with found := true }
      | none => follow code place fuel todo r

/-- The places of a program after a character has been read. -/
def advance (code : Array Instruction) (c : Char) (reading : List Nat) : List Nat :=
  reading.filterMap fun i =>
    match code[i]? with
    | some (Instruction.read set next) => if set.contains c then some next else none
    | _ => none

/-- Whether a part is found in the rest of a text, the given instructions being reached so far. -/
def searchFrom (p : Program) (before : Option Char) (todo : List Nat) : List Char → Bool
  | [] =>
    let r := follow p.code ⟨before, none⟩ (3 * p.code.size + todo.length + 1) (p.start :: todo)
      { seen := Array.replicate p.code.size false }
    r.found
  | c :: rest =>
    let r := follow p.code ⟨before, some c⟩ (3 * p.code.size + todo.length + 1) (p.start :: todo)
      { seen := Array.replicate p.code.size false }
    r.found || searchFrom p (some c) (advance p.code c r.reading) rest

/-- Whether some part of the text is described by the pattern of the program. -/
def search (p : Program) (text : String) : Bool := searchFrom p none [] text.toList

end Program

/-- The program of the pattern that a text writes. -/
def Program.compile (text : String) : Except Pattern.Error Program :=
  (Pattern.parse text).map Program.ofPattern

end Trials
