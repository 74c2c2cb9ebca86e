import Mathlib.Algebra.BigOperators.Group.Finset.Basic
import Trials.Proofs.Order.Separated

/-!
# When items can be kept apart, and when not

A drawn order lists each item once and keeps equal conditions apart, so none is drawn where some
condition is that of more than half of the items, rounded up (`orderSeparated_sound`).

Where `k` conditions are represented equally, an order is always drawn if `k` is two or reaches as
far as the window (`exists_order_of_evenlyTagged`).  With many conditions each item keeps others out
of no more places than there are conditions, and the items of one condition are too few to keep one
out of all places.  With two conditions no swap is ever needed: items of the other condition alone
cannot separate those of the last one placed.  With three conditions and a wide window placing may
come to a standstill.
-/

namespace Trials

section

variable {α : Type} [BEq α] [LawfulBEq α] {condition : Nat → α} {window : Nat}

/-- Where equal elements are kept apart, an element is at most every second one if it is not the
last. -/
theorem two_mul_count_le_of_getLast? {l : List α} {c d : α} (h : l.IsChain (· ≠ ·))
    (hlast : l.getLast? = some c) (hdc : d ≠ c) : 2 * l.count d ≤ l.length := by
  obtain ⟨init, rfl⟩ := List.getLast?_eq_some_iff.1 hlast
  have hinit := two_mul_count_le d (List.isChain_append.1 h).1
  rw [List.count_append, List.count_singleton, if_neg (by simpa using hdc.symm), List.length_append]
  simpa using hinit

namespace Separated

/-- At a standstill each condition but that of the last item is the condition of less than half of
the items. -/
theorem Standstill.two_mul_count_lt {items placed left : List Nat} {c d : α}
    (h : Standstill condition items placed left c) (hleft : 0 < left.length) (hdc : d ≠ c) :
    2 * (items.map condition).count d < items.length := by
  have hplaced := two_mul_count_le_of_getLast? h.chain h.last hdc
  have hlength := h.perm.length_eq
  rw [List.length_append] at hlength
  rw [List.length_map] at hplaced
  rw [h.count_of_ne hdc]
  omega

theorem width_le {k : Nat} (hk : 3 ≤ k) (hwindow : window ≤ k) : width window ≤ k := by
  unfold width reachBefore reachAfter
  omega

end Separated

end

namespace Separated

variable {α : Type} [DecidableEq α] {condition : Nat → α} {window : Nat}

/-- There is always a place if of each condition there are few items for the window, or another
condition is that of half of the items. -/
theorem neverStuck_of_sparse [BEq α] [LawfulBEq α] {items : List Nat}
    (h : ∀ c, (items.map condition).count c * width window < items.length + width window ∨
      ∃ d, d ≠ c ∧ items.length ≤ 2 * (items.map condition).count d) :
    NeverStuck condition window items := by
  intro placed rest next c hstill
  have hleft : 0 < (next :: rest).length := Nat.succ_pos _
  rcases h c with hfew | ⟨d, hdc, hhalf⟩
  · exact hstill.exists_swapInto (hstill.exists_free_of_few hleft hfew)
  · exact absurd (hstill.two_mul_count_lt hleft hdc) (Nat.not_lt.2 hhalf)

end Separated

open Separated

variable {α : Type} [DecidableEq α] {conditions : List (Option α)} {window k m : Nat}

/-! ## What a drawn order is -/

/-- Only items that all have a condition are ordered.  A drawn order lists each of them once and
keeps equal conditions apart, so none is drawn if a condition is too frequent. -/
theorem orderSeparated_sound (conditions : List (Option α)) (window : Nat) (w : Words) :
    (∀ order, (orderSeparated conditions window w).1 = .ok order →
      none ∉ conditions ∧ order.Perm (List.range conditions.length) ∧
        (order.map fun i => conditions[i]?).IsChain (· ≠ ·)) ∧
    ∀ c, (conditions.length + 1) / 2 < conditions.count (some c) →
      (orderSeparated conditions window w).1 =
        .error (if none ∈ conditions then .untagged else .exhausted) := by
  constructor
  · intro order h
    exact ⟨tagged_of_orderSeparated h, perm_of_orderSeparated h,
      noAdjacentRepeats_iff.1 (noAdjacentRepeats_of_orderSeparated h)⟩
  · intro c hfrequent
    by_cases hnone : none ∈ conditions
    · rw [if_pos hnone, orderSeparated_of_untagged hnone]
    · rw [if_neg hnone]
      rcases orderSeparated_cases hnone window w with ⟨order, horder⟩ | herror
      · have hle := count_le_of_orderSeparated horder (some c)
        omega
      · exact herror

/-- When all items but the last stand apart as they have been shuffled, it is for a swap to place
the last one. -/
theorem orderSeparated_of_collision (htagged : none ∉ conditions) {w : Words} {front : List Nat}
    {next : Nat} (hshuffled : (w.shuffle (List.range conditions.length)).1 = front ++ [next])
    (hchain : (front.map fun i => conditions[i]?).IsChain (· ≠ ·))
    (hstuck : differsFromLast (fun i => conditions[i]?) front next = false) :
    (orderSeparated conditions window w).1 =
      (swapInto (fun i => conditions[i]?) window front next).1.map fun _ =>
        (swapInto (fun i => conditions[i]?) window front next).2 := by
  have hnone : [next].find? (differsFromLast (fun i => conditions[i]?) ([] ++ front)) = none := by
    simpa using hstuck
  rw [orderSeparated_eq htagged, hshuffled, placeAll_append_of_isChain [next] hchain,
    placeAll_of_find?_eq_none hnone, List.nil_append]
  rcases swapInto_cases (fun i => conditions[i]?) window front next with ⟨order, hswap⟩ | hswap
  · rw [hswap, Except.bind, placeAll, Except.map]
  · rw [hswap, Except.bind, Except.map]

/-- Three conditions of two items each. -/
def threePairs : List (Option Nat) := [some 3, some 1, some 2, some 1, some 2, some 3]

/-- The first item comes last here and is swapped in at the front.  Three items of one condition out
of four are never kept apart. -/
theorem threePairs_sound :
    (∃ order, (orderSeparated threePairs defaultWindow { word := fun _ => 0 }).1 = .ok order ∧
      order = [0, 2, 3, 4, 5, 1] ∧ none ∉ threePairs ∧ order.Perm (List.range 6) ∧
      (order.map fun i => threePairs[i]?).IsChain (· ≠ ·)) ∧
    ∀ w : Words, (orderSeparated [some 1, some 1, some 1, some 2] defaultWindow w).1 =
      .error .exhausted := by
  have hshuffled : (Words.shuffle (List.range threePairs.length) { word := fun _ => 0 }).1 =
      [1, 2, 3, 4, 5] ++ [0] := rfl
  have h : (orderSeparated threePairs defaultWindow { word := fun _ => 0 }).1 =
      .ok [0, 2, 3, 4, 5, 1] :=
    orderSeparated_of_collision (by decide) hshuffled (by decide) (by decide)
  exact ⟨⟨_, h, rfl, (orderSeparated_sound _ _ _).1 _ h⟩,
    fun w => (orderSeparated_sound _ _ w).2 1 (by decide)⟩

/-! ## Equally represented conditions -/

/-- Each item has one of `k` conditions, and each of these is the condition of `m` items. -/
structure EvenlyTagged (conditions : List (Option α)) (k m : Nat) : Prop where
  tagged : none ∉ conditions
  kinds : conditions.toFinset.card = k
  evenly : ∀ c ∈ conditions, conditions.count c = m

namespace EvenlyTagged

theorem length_eq (h : EvenlyTagged conditions k m) : conditions.length = k * m := by
  rw [← List.sum_toFinset_count_eq_length, ← h.kinds]
  refine Finset.sum_const_nat fun c hc => ?_
  convert h.evenly c (List.mem_toFinset.1 hc)

theorem exists_ne (h : EvenlyTagged conditions k m) (hk : 2 ≤ k) (c : Option α) :
    ∃ d ∈ conditions, d ≠ c := by
  have hcard : 1 < conditions.toFinset.card := by
    rw [h.kinds]
    omega
  obtain ⟨d, hd, hdc⟩ := Finset.exists_mem_ne hcard c
  exact ⟨d, List.mem_toFinset.1 hd, hdc⟩

theorem neverStuck (h : EvenlyTagged conditions k m) (hk : 2 ≤ k) (hwindow : k = 2 ∨ window ≤ k) :
    NeverStuck (fun i => conditions[i]?) window (List.range conditions.length) := by
  refine neverStuck_of_sparse fun x => ?_
  rw [List.length_range]
  by_cases hx : ∃ c ∈ conditions, x = some c
  · obtain ⟨c, hc, rfl⟩ := hx
    by_cases htwo : k = 2
    · right
      obtain ⟨d, hd, hdc⟩ := h.exists_ne hk c
      refine ⟨some d, by simpa using hdc, ?_⟩
      rw [count_map_getElem?_range, h.evenly d hd, h.length_eq, htwo]
    · left
      have hwidth : width window ≤ k := width_le (by omega) (by omega)
      have hpos := width_pos window
      have hle : m * width window ≤ k * m := by
        rw [Nat.mul_comm k]
        exact Nat.mul_le_mul_left m hwidth
      rw [count_map_getElem?_range, h.evenly c hc, h.length_eq]
      omega
  · left
    have hpos := width_pos window
    rw [count_map_getElem?_range_of_ne hx]
    omega

end EvenlyTagged

/-- Items that have two conditions equally often are always kept apart, and so are items that have
more, as long as the window is not wider than there are conditions. -/
theorem exists_order_of_evenlyTagged (h : EvenlyTagged conditions k m) (hk : 2 ≤ k)
    (hwindow : k = 2 ∨ window ≤ k) (w : Words) :
    ∃ order, (orderSeparated conditions window w).1 = .ok order ∧
      order.Perm (List.range conditions.length) ∧
      noAdjacentRepeats (order.map fun i => conditions[i]?) = true := by
  obtain ⟨order, horder⟩ :=
    exists_orderSeparated_of_neverStuck h.tagged (h.neverStuck hk hwindow) w
  exact ⟨order, horder, perm_of_orderSeparated horder, noAdjacentRepeats_of_orderSeparated horder⟩

/-- Whatever the random words, three pairs are kept apart with the default window, and two pairs
with a much wider one. -/
theorem threePairs_ordered :
    (EvenlyTagged threePairs 3 2 ∧ ∀ w : Words, ∃ order,
      (orderSeparated threePairs defaultWindow w).1 = .ok order ∧ order.Perm (List.range 6) ∧
        noAdjacentRepeats (order.map fun i => threePairs[i]?) = true) ∧
    ∀ w : Words, ∃ order, (orderSeparated [some 1, some 1, some 2, some 2] 9 w).1 = .ok order := by
  have hthree : EvenlyTagged threePairs 3 2 := ⟨by decide, by decide, by decide⟩
  have htwo : EvenlyTagged [some 1, some 1, some 2, some 2] 2 2 := ⟨by decide, by decide, by decide⟩
  refine ⟨⟨hthree, exists_order_of_evenlyTagged hthree (by decide) (.inr (by decide))⟩, fun w => ?_⟩
  obtain ⟨order, horder, -⟩ := exists_order_of_evenlyTagged htwo (by decide) (.inl rfl) w
  exact ⟨order, horder⟩

/-- Three conditions of three items each. -/
def threeTriples : List (Option Nat) :=
  [some 3, some 1, some 2, some 3, some 1, some 2, some 1, some 2, some 3]

/-- With a window wider than there are conditions the last item may find no place. -/
example : (orderSeparated threeTriples 5 { word := fun _ => 0 }).1 = .error .exhausted :=
  have hshuffled : (Words.shuffle (List.range threeTriples.length) { word := fun _ => 0 }).1 =
    [1, 2, 3, 4, 5, 6, 7, 8] ++ [0] := rfl
  orderSeparated_of_collision (by decide) hshuffled (by decide) (by decide)

end Trials
