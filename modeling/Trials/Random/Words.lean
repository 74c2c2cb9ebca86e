/-!
# Random words

All randomness comes from an endless sequence of 32-bit words (`Words`) together with the number of
words already taken.  Functions that draw return the sequence after their draws, so that two runs
on the same sequence can be compared word by word.  `Words.cycling` is the sequence that starts with
given words and goes on with a linear congruence.
-/

namespace Trials

/-- An endless sequence of random words and the number of words taken from it. -/
structure Words where
  /-- The word at each position. -/
  word : Nat → UInt32
  /-- The number of words taken so far, which is the position of the next one. -/
  drawn : Nat := 0

namespace Words

/-- The next word, and the sequence after it. -/
def next (w : Words) : UInt32 × Words := (w.word w.drawn, { w with drawn := w.drawn + 1 })

@[simp] theorem next_fst (w : Words) : w.next.1 = w.word w.drawn := rfl

@[simp] theorem next_snd_word (w : Words) : w.next.2.word = w.word := rfl

@[simp] theorem next_snd_drawn (w : Words) : w.next.2.drawn = w.drawn + 1 := rfl

/-- The next 64 bits: two words, the lower half first. -/
def next64 (w : Words) : UInt64 × Words :=
  (w.next.1.toUInt64 ||| (w.next.2.next.1.toUInt64 <<< 32), w.next.2.next.2)

/-- One step of the linear congruence. -/
def congruence (x : UInt32) : UInt32 := x * 1664525 + 1013904223

/-- The word after `n + 1` steps of the linear congruence from zero. -/
def congruent : Nat → UInt32
  | 0 => congruence 0
  | n + 1 => congruence (congruent n)

/-- The given words, then the linear congruence. -/
def cycling (words : Array UInt32) : Words :=
  { word := fun n => if h : n < words.size then words[n] else congruent (n - words.size) }

end Words

end Trials
