import Trials.Random.Words

/-!
# Random words from a seed

The words of the ChaCha stream cipher with twelve rounds, under a key made from a 64-bit seed, a
64-bit block counter that starts at zero and a nonce of zeros.  The sixteen words of the state stand
in four rows, so that a round works on whole rows.
-/

namespace Trials

namespace ChaCha

/-! ## Rounds -/

/-- Four words of the state. -/
structure Row where
  /-- The first word. -/
  a : UInt32
  /-- The second word. -/
  b : UInt32
  /-- The third word. -/
  c : UInt32
  /-- The fourth word. -/
  d : UInt32
deriving DecidableEq

/-- A word rotated to the left. -/
def rotateLeft (x : UInt32) (n : UInt32) : UInt32 := (x <<< n) ||| (x >>> (32 - n))

namespace Row

/-- Sum word by word. -/
def add (x y : Row) : Row := ⟨x.a + y.a, x.b + y.b, x.c + y.c, x.d + y.d⟩

/-- Exclusive or word by word. -/
def xor (x y : Row) : Row := ⟨x.a ^^^ y.a, x.b ^^^ y.b, x.c ^^^ y.c, x.d ^^^ y.d⟩

/-- Each word rotated to the left. -/
def rotate (x : Row) (n : UInt32) : Row :=
  ⟨rotateLeft x.a n, rotateLeft x.b n, rotateLeft x.c n, rotateLeft x.d n⟩

/-- The words moved one place to the left, the first to the end. -/
def turn (x : Row) : Row := ⟨x.b, x.c, x.d, x.a⟩

/-- One word of the row. -/
def get (x : Row) (i : Nat) : UInt32 :=
  match i with
  | 0 => x.a
  | 1 => x.b
  | 2 => x.c
  | _ => x.d

end Row

/-- The sixteen words of the state, as four rows. -/
structure Block where
  /-- The constants. -/
  r0 : Row
  /-- The first half of the key. -/
  r1 : Row
  /-- The second half of the key. -/
  r2 : Row
  /-- The counter and the nonce. -/
  r3 : Row
deriving DecidableEq

namespace Block

/-- Sum word by word. -/
def add (x y : Block) : Block :=
  ⟨x.r0.add y.r0, x.r1.add y.r1, x.r2.add y.r2, x.r3.add y.r3⟩

/-- The four quarter rounds on the columns. -/
def columns (x : Block) : Block :=
  let a := x.r0.add x.r1
  let d := (x.r3.xor a).rotate 16
  let c := x.r2.add d
  let b := (x.r1.xor c).rotate 12
  let a := a.add b
  let d := (d.xor a).rotate 8
  let c := c.add d
  let b := (b.xor c).rotate 7
  ⟨a, b, c, d⟩

/-- The rows turned so that the diagonals become columns. -/
def skew (x : Block) : Block := ⟨x.r0, x.r1.turn, x.r2.turn.turn, x.r3.turn.turn.turn⟩

/-- The inverse of `skew`. -/
def unskew (x : Block) : Block := ⟨x.r0, x.r1.turn.turn.turn, x.r2.turn.turn, x.r3.turn⟩

/-- A round on the columns and one on the diagonals. -/
def doubleRound (x : Block) : Block := x.columns.skew.columns.unskew

/-- Several double rounds. -/
def rounds : Nat → Block → Block
  | 0, x => x
  | n + 1, x => rounds n x.doubleRound

/-- One word of the block. -/
def get (x : Block) (i : Nat) : UInt32 :=
  match i / 4 with
  | 0 => x.r0.get (i % 4)
  | 1 => x.r1.get (i % 4)
  | 2 => x.r2.get (i % 4)
  | _ => x.r3.get (i % 4)

end Block

/-! ## Key stream -/

/-- A key of eight words, in two rows. -/
structure Key where
  /-- The first four words. -/
  low : Row
  /-- The last four words. -/
  high : Row
deriving DecidableEq

/-- The state before the rounds of the block with the given number. -/
def initial (key : Key) (block : Nat) : Block :=
  { r0 := ⟨0x61707865, 0x3320646e, 0x79622d32, 0x6b206574⟩
    r1 := key.low
    r2 := key.high
    r3 := ⟨UInt32.ofNat block, UInt32.ofNat (block / UInt32.size), 0, 0⟩ }

/-- The block with the given number: twelve rounds, then the initial state is added. -/
def block (key : Key) (n : Nat) : Block :=
  let x := initial key n
  (x.rounds 6).add x

/-- The word of the key stream at a position. -/
def keyWord (key : Key) (n : Nat) : UInt32 := (block key (n / 16)).get (n % 16)

/-! ## Keys from seeds -/

/-- One step of the linear congruence that spreads a seed over a key. -/
def advanceSeed (s : UInt64) : UInt64 := s * 6364136223846793005 + 11634580027462260723

/-- The key word made from a state of the congruence: its upper bits folded together and rotated. -/
def seedWord (s : UInt64) : UInt32 :=
  let folded := (((s >>> 18) ^^^ s) >>> 27).toUInt32
  let n := (s >>> 59).toUInt32
  (folded >>> n) ||| (folded <<< (32 - n))

/-- Four key words, and the state of the congruence after them. -/
def seedRow (s : UInt64) : Row × UInt64 :=
  let s1 := advanceSeed s
  let s2 := advanceSeed s1
  let s3 := advanceSeed s2
  let s4 := advanceSeed s3
  (⟨seedWord s1, seedWord s2, seedWord s3, seedWord s4⟩, s4)

/-- The key made from a seed. -/
def keyOfSeed (seed : UInt64) : Key :=
  ⟨(seedRow seed).1, (seedRow (seedRow seed).2).1⟩

end ChaCha

/-- The random words that belong to a seed. -/
def Words.ofSeed (seed : UInt64) : Words :=
  let key := ChaCha.keyOfSeed seed
  { word := ChaCha.keyWord key }

end Trials
