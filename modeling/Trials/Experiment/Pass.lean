/-!
# Passes

A `Pass` is one run over a block's children: those that have been taken and those that are left,
both in run order.  `Pass.take?` takes the next child; `Pass.rewind` begins the next pass.

Passes are counted without a limit here.  Where their numbers are kept in words of 32 bits
(`Pass.number`), the two agree below 2³² only: beyond the largest word a counter of that width
begins at zero again, or refuses to count.  Which passes have such numbers is a matter of its own,
and what is said of runs in words is said for those (`BlockTable.Numbered`).
-/

namespace Trials

/-- A run over children, each known by an element of `α`. -/
structure Pass (α : Type) where
  /-- The number of the pass, starting with one. -/
  iteration : Nat := 1
  /-- The children taken so far, in the order in which they were taken. -/
  consumed : List α := []
  /-- The children that are left, the next one first. -/
  remaining : List α
deriving DecidableEq, Inhabited

namespace Pass

variable {α : Type}

/-- The first pass over children in a given order. -/
def start (order : List α) : Pass α := { remaining := order }

/-- The run order of all children. -/
def order (p : Pass α) : List α := p.consumed ++ p.remaining

/-- The next child, and the pass after taking it. -/
def take? (p : Pass α) : Option (α × Pass α) :=
  match p.remaining with
  | [] => none
  | a :: rest => some (a, { p with consumed := p.consumed ++ [a], remaining := rest })

/-- The next pass, with all children left. -/
def rewind (p : Pass α) : Pass α :=
  { iteration := p.iteration + 1, remaining := p.order }

/-- The number of the pass in a word of 32 bits. -/
def number (p : Pass α) : UInt32 := .ofNat p.iteration

/-- The same pass with all children left in another order. -/
def setOrder (p : Pass α) (order : List α) : Pass α :=
  { iteration := p.iteration, remaining := order }

@[simp] theorem order_start (order : List α) : (start order).order = order := rfl

@[simp] theorem order_rewind (p : Pass α) : p.rewind.order = p.order := rfl

@[simp] theorem order_setOrder (p : Pass α) (order : List α) :
    (p.setOrder order).order = order := rfl

theorem toNat_number {p : Pass α} (h : p.iteration < UInt32.size) :
    p.number.toNat = p.iteration :=
  UInt32.toNat_ofNat_of_lt h

theorem order_take? {p q : Pass α} {a : α} (h : p.take? = some (a, q)) : q.order = p.order := by
  unfold take? at h
  split at h
  · cases h
  next rest hp =>
    cases h
    simp [order, hp]

end Pass

end Trials
