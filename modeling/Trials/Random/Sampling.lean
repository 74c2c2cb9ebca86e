import Trials.Random.Words
import Trials.Number.Binary64

/-!
# Drawing from random words

How indices, orders, elements and coin tosses are drawn from a sequence of random words.  An index
below `n` is the upper half of a word times `n`; words whose lower half would favour some indices
are passed over.

A draw passes over words until it comes to one that is accepted (`Words.Accepts`), and in a sequence
that never has one it would not end.  So it is given a number of tries here, `Words.retries`, after
which a word is taken as it comes.  What is drawn is the first accepted word where one comes within
the tries (`Words.below_of_accepted`); a sequence in which 2³² words in a row are passed over lies
outside of what this module describes.
-/

namespace Trials

namespace Words

/-! ## Indices -/

/-- How often an index is drawn anew before a word is taken as it comes. -/
def retries : Nat := UInt32.size

/-- The largest lower half that is accepted for an index below `n`: one less than the largest
multiple `n * 2 ^ k` that fits 32 bits. -/
def zone (n : Nat) : Nat := (n <<< (31 - Nat.log2 n)) - 1

/-- A word is accepted for an index below `n`. -/
def Accepts (n : Nat) (v : UInt32) : Prop := v.toNat * n % UInt32.size ≤ zone n

instance (n : Nat) (v : UInt32) : Decidable (Accepts n v) :=
  inferInstanceAs (Decidable (_ ≤ _))

/-- An index below `n`, drawn anew at most `tries` times. -/
def belowWithin : Nat → Nat → Words → Nat × Words
  | 0, n, w => (w.next.1.toNat * n / UInt32.size, w.next.2)
  | tries + 1, n, w =>
    if Accepts n w.next.1 then (w.next.1.toNat * n / UInt32.size, w.next.2)
    else belowWithin tries n w.next.2

/-- An index below `n`, for `n` from `1` to `2 ^ 32`. -/
def below (n : Nat) (w : Words) : Nat × Words := belowWithin retries n w

theorem belowWithin_lt (tries : Nat) {n : Nat} (w : Words) (h : 0 < n) :
    (belowWithin tries n w).1 < n := by
  have key : ∀ v : UInt32, v.toNat * n / UInt32.size < n := fun v => by
    rw [Nat.div_lt_iff_lt_mul (by decide), Nat.mul_comm n]
    exact Nat.mul_lt_mul_of_pos_right v.toNat_lt h
  induction tries generalizing w with
  | zero => exact key _
  | succ tries ih =>
    unfold belowWithin
    split
    · exact key _
    · exact ih _

theorem below_lt {n : Nat} (w : Words) (h : 0 < n) : (below n w).1 < n :=
  belowWithin_lt retries w h

/-- An index comes from the first word that is accepted, if there are tries enough to come to it. -/
theorem belowWithin_of_accepted {tries n k : Nat} {w : Words} (hk : k < tries)
    (hpassed : ∀ j < k, ¬ Accepts n (w.word (w.drawn + j)))
    (haccepted : Accepts n (w.word (w.drawn + k))) :
    belowWithin tries n w =
      ((w.word (w.drawn + k)).toNat * n / UInt32.size, { w with drawn := w.drawn + k + 1 }) := by
  induction k generalizing tries w with
  | zero =>
    obtain ⟨tries, rfl⟩ := Nat.exists_eq_succ_of_ne_zero (Nat.ne_zero_of_lt hk)
    have hfirst : Accepts n w.next.1 := haccepted
    rw [belowWithin, if_pos hfirst]
    rfl
  | succ k ih =>
    obtain ⟨tries, rfl⟩ := Nat.exists_eq_succ_of_ne_zero (Nat.ne_zero_of_lt hk)
    have hfirst : ¬ Accepts n w.next.1 := hpassed 0 (Nat.succ_pos k)
    have hplace : ∀ j, w.next.2.drawn + j = w.drawn + (j + 1) := fun j => by
      rw [next_snd_drawn]
      omega
    rw [belowWithin, if_neg hfirst, ih (Nat.lt_of_succ_lt_succ hk), hplace]
    · rfl
    · intro j hj
      rw [hplace]
      exact hpassed (j + 1) (Nat.succ_lt_succ hj)
    · rw [hplace]
      exact haccepted

theorem below_of_accepted {n k : Nat} {w : Words} (hk : k < retries)
    (hpassed : ∀ j < k, ¬ Accepts n (w.word (w.drawn + j)))
    (haccepted : Accepts n (w.word (w.drawn + k))) :
    below n w =
      ((w.word (w.drawn + k)).toNat * n / UInt32.size, { w with drawn := w.drawn + k + 1 }) :=
  belowWithin_of_accepted hk hpassed haccepted

/-! ## Orders -/

/-- A list with the elements at two places exchanged; unchanged if one place lies outside. -/
def exchange {α : Type} (l : List α) (i j : Nat) : List α :=
  match l[i]?, l[j]? with
  | some a, some b => (l.set i b).set j a
  | _, _ => l

@[simp] theorem length_exchange {α : Type} (l : List α) (i j : Nat) :
    (exchange l i j).length = l.length := by
  unfold exchange
  split <;> simp

/-- A list in which the places from `i` down to `1` have each been exchanged with a random place not
above them. -/
def shuffleFrom {α : Type} : Nat → List α → Words → List α × Words
  | 0, l, w => (l, w)
  | i + 1, l, w =>
    let draw := below (i + 2) w
    shuffleFrom i (exchange l (i + 1) draw.1) draw.2

/-- A random order of a list. -/
def shuffle {α : Type} (l : List α) (w : Words) : List α × Words :=
  shuffleFrom (l.length - 1) l w

@[simp] theorem length_shuffleFrom {α : Type} (i : Nat) (l : List α) (w : Words) :
    (shuffleFrom i l w).1.length = l.length := by
  induction i generalizing l w with
  | zero => rfl
  | succ i ih => simp [shuffleFrom, ih]

@[simp] theorem length_shuffle {α : Type} (l : List α) (w : Words) :
    (shuffle l w).1.length = l.length :=
  length_shuffleFrom _ l w

/-! ## Elements and coins -/

/-- A random element of a list; nothing is drawn from an empty one. -/
def choose {α : Type} (l : List α) (w : Words) : Option α × Words :=
  match l with
  | [] => (none, w)
  | _ =>
    let draw := below l.length w
    (l[draw.1]?, draw.2)

/-- A coin that shows true with probability `p`, for `p` between zero and one.  A sure coin is not
tossed. -/
def coin (p : Binary64) (w : Words) : Bool × Words :=
  if p = Binary64.one then (true, w)
  else (decide (w.next64.1.toNat < p.floorScaled64), w.next64.2)

end Words

end Trials
