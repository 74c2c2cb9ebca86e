import Mathlib.Data.List.Chain
import Mathlib.Data.List.Count
import Mathlib.Data.List.Find
import Mathlib.Data.List.Perm.Subperm
import Mathlib.Data.Option.Basic
import Trials.Proofs.Order.Permutation

/-!
# Orders that keep equal conditions apart

Placing items one after the other keeps equal conditions apart whatever the random words
(`noAdjacentRepeats_of_orderSeparated`): an item is only put beside items of other conditions, be it
at the end or by a swap.

Placing fails only when it comes to a standstill, all items left carrying the condition of the last
one placed, and none of them can be swapped in.  Each item keeps others of its condition out of the
few places around it, so there is a place for the next one if the condition is not too frequent
(`exists_free_of_few`).  And if no place is free, items of this condition are everywhere, so no
other condition is more frequent among those placed (`Crowded.count_le`).  Hence items can be kept
apart when their conditions are `Separable` (`exists_orderSeparated`), as evenly represented ones
are (`separable_of_even`).
-/

namespace Trials

section

variable {α : Type} {condition : Nat → α} {window : Nat}

namespace Separated

/-- No item of the neighbourhood of a place has a condition. -/
def Free (condition : Nat → α) (window : Nat) (placed : List Nat) (c : α) (i : Nat) : Prop :=
  ∀ p j, i ≤ p + reachBefore window → p ≤ i + reachAfter window → placed[p]? = some j →
    condition j ≠ c

/-- How many places an item keeps others of its condition out of. -/
def width (window : Nat) : Nat := reachBefore window + 1 + reachAfter window

theorem width_pos (window : Nat) : 0 < width window := by
  unfold width
  omega

/-- Putting an item at a free place keeps equal conditions apart. -/
theorem isChain_set {placed : List Nat} {next i : Nat}
    (h : (placed.map condition).IsChain (· ≠ ·))
    (hfree : Free condition window placed (condition next) i) :
    ((placed.set i next).map condition).IsChain (· ≠ ·) := by
  have hbefore : 1 ≤ reachBefore window := Nat.le_max_right _ _
  have hafter : 1 ≤ reachAfter window := Nat.le_max_right _ _
  rw [List.isChain_map, List.isChain_iff_getElem] at h ⊢
  intro k hk
  rw [List.length_set] at hk
  rw [List.getElem_set, List.getElem_set]
  split <;> split
  · omega
  next hki _ =>
    exact (hfree (k + 1) _ (by omega) (by omega) (List.getElem?_eq_getElem hk)).symm
  next _ hki =>
    exact hfree k _ (by omega) (by omega) (List.getElem?_eq_getElem (by omega))
  · exact h k hk

/-- If an item with the condition of the last one takes a place, this is still the last condition. -/
theorem getLast?_map_set {placed : List Nat} {next i : Nat}
    (hlast : (placed.map condition).getLast? = some (condition next)) :
    ((placed.set i next).map condition).getLast? = some (condition next) := by
  rw [List.map_set]
  rw [List.getLast?_eq_getElem?] at hlast ⊢
  rw [List.length_set, List.getElem?_set]
  split
  next hi =>
    rw [if_pos]
    rw [hi]
    exact (List.getElem?_eq_some_iff.1 hlast).1
  · exact hlast

/-- An item with the condition of the last one may take a free place from an item that moves to the
end. -/
theorem isChain_of_free {placed : List Nat} {next i displaced : Nat}
    (h : (placed.map condition).IsChain (· ≠ ·))
    (hlast : (placed.map condition).getLast? = some (condition next))
    (hdisplaced : placed[i]? = some displaced)
    (hfree : Free condition window placed (condition next) i) :
    ((placed.set i next ++ [displaced]).map condition).IsChain (· ≠ ·) := by
  rw [List.map_append, List.isChain_append, getLast?_map_set hlast]
  refine ⟨isChain_set h hfree, List.isChain_singleton _, fun x hx y hy => ?_⟩
  cases hx
  cases hy
  exact (hfree i displaced (by omega) (by omega) hdisplaced).symm

end Separated

end

/-- Equal elements are kept apart, of three in a row one is `c`, and the last one is `c`. -/
structure Crowded {α : Type} (c : α) (l : List α) : Prop where
  chain : l.IsChain (· ≠ ·)
  near : ∀ {i : Nat} {x y z : α}, l[i]? = some x → l[i + 1]? = some y → l[i + 2]? = some z →
    x = c ∨ y = c ∨ z = c
  last : ∀ x ∈ l.getLast?, x = c

namespace Crowded

variable {α : Type} {c x : α} {l l' : List α}

theorem of_suffix (h : Crowded c l) (hl : l' <:+ l) : Crowded c l' := by
  obtain ⟨init, rfl⟩ := hl
  have hget : ∀ i, l'[i]? = (init ++ l')[init.length + i]? := fun i => by
    rw [List.getElem?_append_right (Nat.le_add_right _ _), Nat.add_sub_cancel_left]
  constructor
  case chain => exact (List.isChain_append.1 h.chain).2.1
  case near =>
    intro i x y z hx hy hz
    rw [hget] at hx hy hz
    exact h.near hx hy hz
  case last => exact fun x hx => h.last x (List.mem_getLast?_append_of_mem_getLast? hx)

/-- After an element other than `c` comes a `c` before the same element comes again. -/
theorem next (h : Crowded c (x :: l)) (hx : x ≠ c) :
    ∃ between rest, l = between ++ c :: rest ∧ x ∉ between := by
  cases l with
  | nil => exact absurd (h.last x rfl) hx
  | cons y l =>
    by_cases hy : y = c
    · exact ⟨[], l, by rw [hy, List.nil_append], nofun⟩
    · cases l with
      | nil => exact absurd (h.last y rfl) hy
      | cons z l =>
        obtain hc | hc | rfl := h.near (i := 0) rfl rfl rfl
        · exact absurd hc hx
        · exact absurd hc hy
        · have hxy : x ≠ y := h.chain.rel
          exact ⟨[y], l, rfl, by simpa using hxy⟩

/-- No element is more frequent than `c`. -/
theorem count_le [BEq α] [LawfulBEq α] {d : α} (h : Crowded c l) (hdc : d ≠ c) :
    l.count d ≤ l.count c := by
  induction hn : l.length using Nat.strong_induction_on generalizing l with
  | _ n ih =>
    cases l with
    | nil => exact Nat.le_refl _
    | cons x l =>
      rw [List.length_cons] at hn
      by_cases hx : x = d
      · obtain ⟨between, rest, rfl, hbetween⟩ := h.next (hx ▸ hdc)
        have hrest : rest <:+ x :: (between ++ c :: rest) := ⟨x :: between ++ [c], by simp⟩
        have hlt : rest.length < n := by
          rw [List.length_append, List.length_cons] at hn
          omega
        have hle := ih rest.length hlt (h.of_suffix hrest) rfl
        rw [hx] at hbetween ⊢
        rw [List.count_cons_self, List.count_append, List.count_eq_zero.2 hbetween,
          List.count_cons_of_ne hdc.symm, List.count_cons_of_ne hdc, List.count_append,
          List.count_cons_self]
        omega
      · have hle := ih l.length (by omega) (h.of_suffix (List.suffix_cons x l)) rfl
        rw [List.count_cons_of_ne hx]
        exact hle.trans List.count_le_count_cons

end Crowded

section

variable {α : Type} [BEq α] [LawfulBEq α] {condition : Nat → α} {window : Nat}

theorem map_getElem?_range {β : Type} (l : List β) :
    ((List.range l.length).map fun i => l[i]?) = l.map some := by
  apply List.ext_getElem <;> simp

theorem count_map_getElem?_range (l : List α) (c : α) :
    ((List.range l.length).map fun i => l[i]?).count (some c) = l.count c := by
  rw [map_getElem?_range, List.count_map_of_injective _ some (Option.some_injective _)]

theorem count_map_getElem?_range_of_ne {l : List α} {x : Option α} (hx : ¬ ∃ c ∈ l, x = some c) :
    ((List.range l.length).map fun i => l[i]?).count x = 0 := by
  rw [map_getElem?_range, List.count_eq_zero]
  intro hmem
  obtain ⟨c, hc, hcx⟩ := List.mem_map.1 hmem
  exact hx ⟨c, hc, hcx.symm⟩

/-- Where equal elements are kept apart, at most every second one is the same, rounded up. -/
theorem two_mul_count_le (c : α) : ∀ {l : List α}, l.IsChain (· ≠ ·) →
    2 * l.count c ≤ l.length + 1
  | [], _ => by simp
  | [x], _ => by
    have : [x].count c ≤ 1 := List.count_le_length
    simp
    omega
  | x :: y :: l, h => by
    obtain ⟨hne, h⟩ := List.isChain_cons_cons.1 h
    have ih := two_mul_count_le c h.tail
    simp only [List.tail_cons] at ih
    simp only [List.count_cons, List.length_cons, beq_iff_eq]
    split <;> split
    · simp_all
    all_goals omega

namespace Separated

/-- The places of the items with a condition. -/
def placesOf (condition : Nat → α) (placed : List Nat) (c : α) : List Nat :=
  (List.range placed.length).filter fun p => (placed[p]?).map condition == some c

theorem mem_placesOf {placed : List Nat} {c : α} {p : Nat} :
    p ∈ placesOf condition placed c ↔ ∃ j, placed[p]? = some j ∧ condition j = c := by
  rw [placesOf, List.mem_filter, List.mem_range, beq_iff_eq, Option.map_eq_some_iff]
  constructor
  · exact fun h => h.2
  · rintro ⟨j, hj, hc⟩
    exact ⟨(List.getElem?_eq_some_iff.1 hj).1, j, hj, hc⟩

theorem length_placesOf (placed : List Nat) (c : α) :
    (placesOf condition placed c).length = (placed.map condition).count c := by
  have hmap : ((List.range placed.length).map fun p => (placed[p]?).map condition) =
      (placed.map condition).map some := by
    rw [← map_getElem?_range, List.length_map]
    exact List.map_congr_left fun p _ => List.getElem?_map.symm
  rw [placesOf, ← List.countP_eq_length_filter, ← List.count_map_of_injective _ some
    (Option.some_injective _), ← hmap, List.count_eq_countP, List.countP_map]
  rfl

/-- If the last item has a condition of which there are few, the items of this condition leave a
place free. -/
theorem exists_free_of_few {placed : List Nat} {c : α}
    (hlast : (placed.map condition).getLast? = some c)
    (hfew : (placed.map condition).count c * width window ≤ placed.length) :
    ∃ i < placed.length, Free condition window placed c i := by
  by_contra hnone
  simp only [not_exists, not_and, Free, not_forall, not_not] at hnone
  have hkept : ∀ {i p j : Nat}, i ≤ p + reachBefore window → p ≤ i + reachAfter window →
      placed[p]? = some j → condition j = c → i ∈ (placesOf condition placed c).flatMap fun p =>
        List.range' (p - reachAfter window) (width window) := by
    intro i p j hlo hhi hp hj
    refine List.mem_flatMap.2 ⟨p, mem_placesOf.2 ⟨j, hp, hj⟩, ?_⟩
    rw [List.mem_range'_1, width]
    omega
  -- the last item keeps others out of one place more, which lies beyond the end
  have hcover : List.range (placed.length + 1) ⊆ (placesOf condition placed c).flatMap fun p =>
      List.range' (p - reachAfter window) (width window) := by
    intro i hi
    by_cases hlt : i < placed.length
    · obtain ⟨p, j, hlo, hhi, hp, hj⟩ := hnone i hlt
      exact hkept hlo hhi hp hj
    · have hbefore : 1 ≤ reachBefore window := Nat.le_max_right _ _
      have hi := List.mem_range.1 hi
      rw [List.getLast?_map] at hlast
      obtain ⟨last, hlast, hc⟩ := Option.map_eq_some_iff.1 hlast
      rw [List.getLast?_eq_getElem?] at hlast
      exact hkept (by omega) (by omega) hlast hc
  have hle := (List.subperm_of_subset List.nodup_range hcover).length_le
  rw [List.length_range, List.length_flatMap] at hle
  simp only [List.length_range', List.map_const', List.sum_replicate_nat] at hle
  rw [length_placesOf] at hle
  omega

/-- If the last item has a condition of which there are fewer than of another, the items of this
condition leave a place free. -/
theorem exists_free_of_rival {placed : List Nat} {c d : α} (hdc : d ≠ c)
    (hchain : (placed.map condition).IsChain (· ≠ ·))
    (hlast : (placed.map condition).getLast? = some c)
    (hrival : (placed.map condition).count c < (placed.map condition).count d) :
    ∃ i < placed.length, Free condition defaultWindow placed c i := by
  by_contra hnone
  simp only [not_exists, not_and, Free, not_forall, not_not] at hnone
  have hcrowded : Crowded c (placed.map condition) := by
    refine ⟨hchain, ?_, fun x hx => Option.mem_unique hx hlast⟩
    intro i x y z hx hy hz
    have hlt : i + 2 < placed.length := by
      simpa using (List.getElem?_eq_some_iff.1 hz).1
    obtain ⟨p, j, hlo, hhi, hp, hj⟩ := hnone (i + 1) (by omega)
    have hc : (placed.map condition)[p]? = some c := by
      rw [List.getElem?_map, hp, Option.map_some, hj]
    have hlo : i ≤ p := Nat.le_of_succ_le_succ hlo
    obtain rfl | rfl | rfl : p = i ∨ p = i + 1 ∨ p = i + 2 := by
      have hhi : p ≤ i + 2 := hhi
      omega
    · exact .inl (Option.mem_unique hx hc)
    · exact .inr (.inl (Option.mem_unique hy hc))
    · exact .inr (.inr (Option.mem_unique hz hc))
  exact absurd (hcrowded.count_le hdc) (Nat.not_le.2 hrival)

/-! ## Standstills -/

/-- Some items have been placed, and all others have the condition `c` of the last one placed. -/
structure Standstill (condition : Nat → α) (items placed left : List Nat) (c : α) : Prop where
  perm : (placed ++ left).Perm items
  chain : (placed.map condition).IsChain (· ≠ ·)
  last : (placed.map condition).getLast? = some c
  left : ∀ i ∈ left, condition i = c

namespace Standstill

variable {items placed left : List Nat} {c : α}

theorem count_self (h : Standstill condition items placed left c) :
    (items.map condition).count c = (placed.map condition).count c + left.length := by
  have hall : ∀ d ∈ left.map condition, c = d := by
    rintro _ hd
    obtain ⟨i, hi, rfl⟩ := List.mem_map.1 hd
    exact (h.left i hi).symm
  rw [← (h.perm.map condition).count_eq, List.map_append, List.count_append,
    List.count_eq_length.2 hall, List.length_map]

theorem count_of_ne (h : Standstill condition items placed left c) {d : α} (hdc : d ≠ c) :
    (items.map condition).count d = (placed.map condition).count d := by
  have hnone : d ∉ left.map condition := by
    intro hd
    obtain ⟨i, hi, rfl⟩ := List.mem_map.1 hd
    exact hdc (h.left i hi)
  rw [← (h.perm.map condition).count_eq, List.map_append, List.count_append,
    List.count_eq_zero.2 hnone, Nat.add_zero]

/-- A place is free if there are few enough items with the condition of the last one placed. -/
theorem exists_free_of_few (h : Standstill condition items placed left c) (hleft : 0 < left.length)
    (hfew : (items.map condition).count c * width window < items.length + width window) :
    ∃ i < placed.length, Free condition window placed c i := by
  have hlength := h.perm.length_eq
  rw [List.length_append] at hlength
  rw [h.count_self, Nat.add_mul, ← hlength] at hfew
  refine Separated.exists_free_of_few h.last ?_
  -- each item left, were it placed, would take up `width` places and add one
  obtain ⟨more, hmore⟩ : ∃ more, left.length = more + 1 := ⟨left.length - 1, by omega⟩
  rw [hmore, Nat.succ_mul] at hfew
  have hle : more ≤ more * width window := Nat.le_mul_of_pos_right more (width_pos window)
  omega

/-- A place is free unless more than a third of the items, rounded up, have the condition of the
last one placed and no other condition is as frequent. -/
theorem exists_free (h : Standstill condition items placed left c) (hleft : 0 < left.length)
    (hcount : 3 * (items.map condition).count c ≤ items.length + 2 ∨
      ∃ d, d ≠ c ∧ (items.map condition).count c ≤ (items.map condition).count d) :
    ∃ i < placed.length, Free condition defaultWindow placed c i := by
  rcases hcount with hfew | ⟨d, hdc, hrival⟩
  · refine h.exists_free_of_few hleft ?_
    rw [show width defaultWindow = 3 from rfl]
    omega
  · rw [h.count_self, h.count_of_ne hdc] at hrival
    exact exists_free_of_rival hdc h.chain h.last (by omega)

end Standstill

end Separated

end

section

variable {α : Type} [DecidableEq α]

theorem noAdjacentRepeats_iff : ∀ {l : List α}, noAdjacentRepeats l = true ↔ l.IsChain (· ≠ ·)
  | [] | [_] => by simp [noAdjacentRepeats]
  | a :: b :: l => by
    have ih := noAdjacentRepeats_iff (l := b :: l)
    simp [noAdjacentRepeats, ih, List.isChain_cons_cons]

namespace Separated

variable {condition : Nat → α} {window : Nat}

/-! ## Equal conditions are kept apart -/

theorem differsFromLast_eq_false {placed : List Nat} {i : Nat} :
    differsFromLast condition placed i = false ↔
      ∃ last, placed.getLast? = some last ∧ condition i = condition last := by
  unfold differsFromLast
  cases placed.getLast? <;> simp

theorem isChain_append_of_differs {placed : List Nat} {i : Nat}
    (h : (placed.map condition).IsChain (· ≠ ·))
    (hi : differsFromLast condition placed i = true) :
    ((placed ++ [i]).map condition).IsChain (· ≠ ·) := by
  rw [List.map_append, List.isChain_append]
  refine ⟨h, List.isChain_singleton _, fun x hx y hy => ?_⟩
  rw [List.getLast?_map] at hx
  obtain ⟨last, hlast, rfl⟩ := Option.map_eq_some_iff.1 hx
  obtain rfl : condition i = y := by simpa using hy
  simp only [differsFromLast, hlast, Option.all_some, decide_eq_true_eq] at hi
  exact hi.symm

theorem mem_neighbourhood {placed : List Nat} {i j : Nat} :
    j ∈ neighbourhood window placed i ↔
      ∃ p, i ≤ p + reachBefore window ∧ p ≤ i + reachAfter window ∧ placed[p]? = some j := by
  simp only [neighbourhood, List.mem_iff_getElem?, List.getElem?_drop, List.getElem?_take]
  constructor
  · rintro ⟨k, hk⟩
    split at hk
    · exact ⟨i - reachBefore window + k, by omega, by omega, hk⟩
    · cases hk
  · rintro ⟨p, hlo, hhi, hp⟩
    refine ⟨p - (i - reachBefore window), ?_⟩
    rw [show i - reachBefore window + (p - (i - reachBefore window)) = p by omega,
      if_pos (by omega), hp]

theorem free_iff {placed : List Nat} {next i : Nat} :
    ((neighbourhood window placed i).all fun j => condition j ≠ condition next) = true ↔
      Free condition window placed (condition next) i := by
  simp only [List.all_eq_true, decide_eq_true_eq, mem_neighbourhood, Free]
  constructor
  · exact fun h p j hlo hhi hp => h j ⟨p, hlo, hhi, hp⟩
  · rintro h j ⟨p, hlo, hhi, hp⟩
    exact h p j hlo hhi hp

/-- An item is swapped in at the first free place. -/
theorem swapTarget_eq_some_iff {placed : List Nat} {next i : Nat} :
    swapTarget condition window placed next = some i ↔
      i < placed.length ∧ Free condition window placed (condition next) i ∧
        ∀ k < i, ¬ Free condition window placed (condition next) k := by
  rw [swapTarget, List.find?_range_eq_some, free_iff, List.mem_range]
  have hnot : ∀ k, (!(neighbourhood window placed k).all fun j => condition j ≠ condition next) =
      true ↔ ¬ Free condition window placed (condition next) k := by
    intro k
    rw [Bool.not_eq_true', ← Bool.not_eq_true, free_iff]
  simp only [hnot]
  exact and_left_comm

theorem swapTarget_eq_none_iff {placed : List Nat} {next : Nat} :
    swapTarget condition window placed next = none ↔
      ∀ i < placed.length, ¬ Free condition window placed (condition next) i := by
  simp only [swapTarget, List.find?_eq_none, List.mem_range, free_iff]

theorem swapInto_cases (condition : Nat → α) (window : Nat) (placed : List Nat) (next : Nat) :
    (∃ out, swapInto condition window placed next = (.ok (), out)) ∨
      swapInto condition window placed next = (.error .exhausted, placed) := by
  cases htarget : swapTarget condition window placed next with
  | none => exact .inr (by rw [swapInto, htarget])
  | some i =>
    obtain ⟨displaced, -, hswap⟩ := swapInto_of_swapTarget htarget
    exact .inl ⟨_, hswap⟩

theorem exists_swapInto {placed : List Nat} {next i : Nat} (hi : i < placed.length)
    (hfree : Free condition window placed (condition next) i) :
    ∃ out, swapInto condition window placed next = (.ok (), out) := by
  cases htarget : swapTarget condition window placed next with
  | none => exact absurd hfree (swapTarget_eq_none_iff.1 htarget i hi)
  | some k =>
    obtain ⟨displaced, -, hswap⟩ := swapInto_of_swapTarget htarget
    exact ⟨_, hswap⟩

/-- Swapping an item in keeps equal conditions apart if it has the condition of the last one. -/
theorem isChain_of_swapInto {placed out : List Nat} {next last : Nat}
    (h : (placed.map condition).IsChain (· ≠ ·)) (hlast : placed.getLast? = some last)
    (heq : condition next = condition last)
    (hswap : swapInto condition window placed next = (.ok (), out)) :
    (out.map condition).IsChain (· ≠ ·) := by
  obtain ⟨i, displaced, htarget, hdisplaced, rfl⟩ := swapTarget_of_swapInto hswap
  refine isChain_of_free h ?_ hdisplaced (swapTarget_eq_some_iff.1 htarget).2.1
  rw [List.getLast?_map, hlast, Option.map_some, heq]

theorem exists_last_of_find?_eq_none {placed rest : List Nat} {next : Nat}
    (h : (next :: rest).find? (differsFromLast condition placed) = none) :
    ∃ last, placed.getLast? = some last ∧ ∀ i ∈ next :: rest, condition i = condition last := by
  have hall : ∀ i ∈ next :: rest, ∃ last, placed.getLast? = some last ∧
      condition i = condition last := fun i hi =>
    differsFromLast_eq_false.1 (Bool.eq_false_iff.2 (List.find?_eq_none.1 h i hi))
  obtain ⟨last, hlast, -⟩ := hall next List.mem_cons_self
  refine ⟨last, hlast, fun i hi => ?_⟩
  obtain ⟨last', hlast', heq⟩ := hall i hi
  rw [hlast] at hlast'
  cases hlast'
  exact heq

/-- Placing items keeps equal conditions apart. -/
theorem isChain_of_placeAll {placed remaining out : List Nat}
    (hchain : (placed.map condition).IsChain (· ≠ ·))
    (h : placeAll condition window placed remaining = .ok out) :
    (out.map condition).IsChain (· ≠ ·) := by
  fun_induction placeAll condition window placed remaining with
  | case1 placed =>
    cases h
    exact hchain
  | case2 placed next rest i found ih =>
    exact ih (isChain_append_of_differs hchain (List.find?_some found)) h
  | case3 placed next rest found placed' hswap ih =>
    obtain ⟨last, hlast, heq⟩ := exists_last_of_find?_eq_none found
    exact ih (isChain_of_swapInto hchain hlast (heq next List.mem_cons_self) hswap) h
  | case4 => cases h

/-- Placing fails for want of a place only. -/
theorem placeAll_cases (condition : Nat → α) (window : Nat) (placed remaining : List Nat) :
    (∃ out, placeAll condition window placed remaining = .ok out) ∨
      placeAll condition window placed remaining = .error .exhausted := by
  fun_induction placeAll condition window placed remaining with
  | case1 placed => exact .inl ⟨placed, rfl⟩
  | case2 placed next rest i found ih => exact ih
  | case3 placed next rest found placed' hswap ih => exact ih
  | case4 placed next rest found e placed' hswap =>
    obtain ⟨out, hout⟩ | herror := swapInto_cases condition window placed next
    · cases hswap.symm.trans hout
    · cases hswap.symm.trans herror
      exact .inr rfl

/-! ## Items -/

section

variable {condition' : Nat → α} {placed : List Nat}

theorem eraseP_congr {p q : Nat → Bool} : ∀ {l : List Nat}, (∀ i ∈ l, p i = q i) →
    l.eraseP p = l.eraseP q
  | [], _ => rfl
  | i :: l, h => by
    obtain ⟨hi, hl⟩ := List.forall_mem_cons.1 h
    rw [List.eraseP_cons, List.eraseP_cons, hi, eraseP_congr hl]

theorem differsFromLast_congr_of_mem {remaining : List Nat}
    (h : ∀ i ∈ placed ++ remaining, condition i = condition' i) :
    ∀ i ∈ remaining, differsFromLast condition placed i = differsFromLast condition' placed i := by
  obtain ⟨hplaced, hremaining⟩ := List.forall_mem_append.1 h
  intro i hi
  unfold differsFromLast
  cases hlast : placed.getLast? with
  | none => rfl
  | some last =>
    rw [Option.all_some, Option.all_some, hremaining i hi,
      hplaced last (List.mem_of_getLast? hlast)]

theorem swapInto_congr (hplaced : ∀ i ∈ placed, condition i = condition' i) {next : Nat}
    (hnext : condition next = condition' next) :
    swapInto condition window placed next = swapInto condition' window placed next := by
  have htarget : swapTarget condition window placed next =
      swapTarget condition' window placed next := by
    refine List.find?_congr fun i _ => ?_
    rw [Bool.eq_iff_iff, free_iff, free_iff]
    have hmem : ∀ {p j : Nat}, placed[p]? = some j → condition j = condition' j :=
      fun hp => hplaced _ (List.mem_of_getElem? hp)
    constructor
    · intro h p j hlo hhi hp
      rw [← hmem hp, ← hnext]
      exact h p j hlo hhi hp
    · intro h p j hlo hhi hp
      rw [hmem hp, hnext]
      exact h p j hlo hhi hp
  rw [swapInto, swapInto, htarget]

theorem placeAll_of_find?_eq_some {next i : Nat} {rest : List Nat}
    (h : (next :: rest).find? (differsFromLast condition placed) = some i) :
    placeAll condition window placed (next :: rest) = placeAll condition window (placed ++ [i])
      ((next :: rest).eraseP (differsFromLast condition placed)) := by
  rw [placeAll]
  split
  next j hj =>
    cases h.symm.trans hj
    rfl
  next hnone => cases h.symm.trans hnone

theorem placeAll_of_find?_eq_none {next : Nat} {rest : List Nat}
    (h : (next :: rest).find? (differsFromLast condition placed) = none) :
    placeAll condition window placed (next :: rest) =
      (swapInto condition window placed next).1.bind fun _ =>
        placeAll condition window (swapInto condition window placed next).2 rest := by
  rw [placeAll]
  split
  next j hj => cases h.symm.trans hj
  · split
    next placed' hswap => rw [hswap, Except.bind]
    next e placed' hswap => rw [hswap, Except.bind]

/-- Items that stand apart as they come are placed in this order, whatever comes after them. -/
theorem placeAll_append_of_isChain (rest : List Nat) : ∀ {front placed : List Nat},
    ((placed ++ front).map condition).IsChain (· ≠ ·) →
    placeAll condition window placed (front ++ rest) =
      placeAll condition window (placed ++ front) rest
  | [], placed, _ => by rw [List.append_nil, List.nil_append]
  | next :: front, placed, h => by
    have hdiffers : differsFromLast condition placed next = true := by
      by_contra hsame
      obtain ⟨last, hlast, heq⟩ := differsFromLast_eq_false.1 (Bool.eq_false_iff.2 hsame)
      rw [List.map_append, List.isChain_append, List.getLast?_map, hlast] at h
      exact h.2.2 _ rfl _ rfl heq.symm
    have hnext : placed ++ next :: front = (placed ++ [next]) ++ front := by simp
    rw [hnext] at h ⊢
    rw [List.cons_append, placeAll_of_find?_eq_some (List.find?_cons_of_pos hdiffers),
      List.eraseP_cons_of_pos hdiffers, placeAll_append_of_isChain rest h]

theorem placeAll_of_isChain {remaining : List Nat}
    (h : ((placed ++ remaining).map condition).IsChain (· ≠ ·)) :
    placeAll condition window placed remaining = .ok (placed ++ remaining) := by
  have happend : placeAll condition window placed (remaining ++ []) =
      placeAll condition window (placed ++ remaining) [] := placeAll_append_of_isChain [] h
  rwa [List.append_nil, placeAll] at happend

/-- Placing looks at the conditions of the items that it is given, and at no others. -/
theorem placeAll_congr {remaining : List Nat}
    (h : ∀ i ∈ placed ++ remaining, condition i = condition' i) :
    placeAll condition window placed remaining = placeAll condition' window placed remaining := by
  fun_induction placeAll condition window placed remaining with
  | case1 placed => rw [placeAll]
  | case2 placed next rest i found ih =>
    have hdiffers := differsFromLast_congr_of_mem h
    rw [ih fun j hj => h j ((append_eraseP_perm found).mem_iff.1 hj),
      placeAll_of_find?_eq_some (List.find?_congr hdiffers ▸ found), eraseP_congr hdiffers]
  | case3 placed next rest found placed' hswap ih =>
    obtain ⟨hplaced, hrest⟩ := List.forall_mem_append.1 h
    have hdiffers := differsFromLast_congr_of_mem h
    rw [swapInto_congr hplaced (hrest next List.mem_cons_self)] at hswap
    rw [ih fun j hj => h j ((append_swapInto_perm hswap).mem_iff.1 hj),
      placeAll_of_find?_eq_none (List.find?_congr hdiffers ▸ found), hswap, Except.bind]
  | case4 placed next rest found e placed' hswap =>
    obtain ⟨hplaced, hrest⟩ := List.forall_mem_append.1 h
    have hdiffers := differsFromLast_congr_of_mem h
    rw [swapInto_congr hplaced (hrest next List.mem_cons_self)] at hswap
    rw [placeAll_of_find?_eq_none (List.find?_congr hdiffers ▸ found), hswap, Except.bind]

end

/-! ## Coming through -/

/-- At every standstill an item can be swapped in. -/
def NeverStuck (condition : Nat → α) (window : Nat) (items : List Nat) : Prop :=
  ∀ {placed rest : List Nat} {next : Nat} {c : α},
    Standstill condition items placed (next :: rest) c →
    ∃ out, swapInto condition window placed next = (.ok (), out)

theorem Standstill.exists_swapInto {items placed rest : List Nat} {next : Nat} {c : α}
    (h : Standstill condition items placed (next :: rest) c)
    (hfree : ∃ i < placed.length, Free condition window placed c i) :
    ∃ out, swapInto condition window placed next = (.ok (), out) := by
  obtain ⟨i, hi, hfree⟩ := hfree
  rw [← h.left next List.mem_cons_self] at hfree
  exact Separated.exists_swapInto hi hfree

theorem exists_placeAll {items placed remaining : List Nat} (h : NeverStuck condition window items)
    (hperm : (placed ++ remaining).Perm items)
    (hchain : (placed.map condition).IsChain (· ≠ ·)) :
    ∃ out, placeAll condition window placed remaining = .ok out := by
  fun_induction placeAll condition window placed remaining with
  | case1 placed => exact ⟨placed, rfl⟩
  | case2 placed next rest i found ih =>
    exact ih ((append_eraseP_perm found).trans hperm)
      (isChain_append_of_differs hchain (List.find?_some found))
  | case3 placed next rest found placed' hswap ih =>
    obtain ⟨last, hlast, heq⟩ := exists_last_of_find?_eq_none found
    exact ih ((append_swapInto_perm hswap).trans hperm)
      (isChain_of_swapInto hchain hlast (heq next List.mem_cons_self) hswap)
  | case4 placed next rest found e placed' hswap =>
    obtain ⟨last, hlast, heq⟩ := exists_last_of_find?_eq_none found
    have hlast : (placed.map condition).getLast? = some (condition last) := by
      rw [List.getLast?_map, hlast, Option.map_some]
    obtain ⟨out, hout⟩ := h ⟨hperm, hchain, hlast, heq⟩
    rw [hswap] at hout
    cases hout

/-- There is always a place if each condition that more than a third of the items have, rounded up,
is rivalled by another. -/
theorem neverStuck_of_rivalled [BEq α] [LawfulBEq α] {items : List Nat}
    (h : ∀ c, 3 * (items.map condition).count c ≤ items.length + 2 ∨
      ∃ d, d ≠ c ∧ (items.map condition).count c ≤ (items.map condition).count d) :
    NeverStuck condition defaultWindow items := by
  intro placed rest next c hstill
  exact hstill.exists_swapInto (hstill.exists_free (Nat.succ_pos rest.length) (h c))

end Separated

/-! ## The drawn order -/

variable {conditions : List (Option α)} {window : Nat} {w : Words}

theorem orderSeparated_of_untagged (h : none ∈ conditions) (window : Nat) (w : Words) :
    orderSeparated conditions window w = (.error .untagged, w) := by
  have hany : conditions.any Option.isNone = true := List.any_eq_true.2 ⟨none, h, rfl⟩
  rw [orderSeparated, if_pos hany]

theorem tagged_of_orderSeparated {order : List Nat}
    (h : (orderSeparated conditions window w).1 = .ok order) : none ∉ conditions := by
  intro hnone
  rw [orderSeparated_of_untagged hnone] at h
  cases h

/-- Items with conditions are placed as they have been shuffled. -/
theorem orderSeparated_eq (htagged : none ∉ conditions) (window : Nat) (w : Words) :
    orderSeparated conditions window w =
      (Separated.placeAll (fun i => conditions[i]?) window []
          (w.shuffle (List.range conditions.length)).1,
        (w.shuffle (List.range conditions.length)).2) := by
  have hany : ¬ conditions.any Option.isNone = true := by
    intro hany
    obtain ⟨c, hc, hnone⟩ := List.any_eq_true.1 hany
    rw [Option.isNone_iff_eq_none.1 hnone] at hc
    exact htagged hc
  rw [orderSeparated, if_neg hany]

/-- In a drawn order no two neighbours have the same condition. -/
theorem noAdjacentRepeats_of_orderSeparated {order : List Nat}
    (h : (orderSeparated conditions window w).1 = .ok order) :
    noAdjacentRepeats (order.map fun i => conditions[i]?) = true := by
  rw [orderSeparated_eq (tagged_of_orderSeparated h)] at h
  exact noAdjacentRepeats_iff.2 (Separated.isChain_of_placeAll List.isChain_nil h)

/-- If an order can be drawn, at most every second item has the same condition. -/
theorem count_le_of_orderSeparated {order : List Nat}
    (h : (orderSeparated conditions window w).1 = .ok order) (c : Option α) :
    2 * conditions.count c ≤ conditions.length + 1 := by
  have hperm := perm_of_orderSeparated h
  have hchain := noAdjacentRepeats_iff.1 (noAdjacentRepeats_of_orderSeparated h)
  have hle := two_mul_count_le (some c) hchain
  rwa [(hperm.map _).count_eq, count_map_getElem?_range, List.length_map, hperm.length_eq,
    List.length_range] at hle

/-- Items with conditions either get an order or cannot be kept apart. -/
theorem orderSeparated_cases (htagged : none ∉ conditions) (window : Nat) (w : Words) :
    (∃ order, (orderSeparated conditions window w).1 = .ok order) ∨
      (orderSeparated conditions window w).1 = .error .exhausted := by
  rw [orderSeparated_eq htagged]
  exact Separated.placeAll_cases _ _ _ _

/-- A shuffled order that keeps equal conditions apart is the one that is drawn. -/
theorem orderSeparated_of_isChain (htagged : none ∉ conditions) (window : Nat)
    (h : ((w.shuffle (List.range conditions.length)).1.map fun i => conditions[i]?).IsChain
      (· ≠ ·)) :
    orderSeparated conditions window w =
      (.ok (w.shuffle (List.range conditions.length)).1,
        (w.shuffle (List.range conditions.length)).2) := by
  have hplaced : Separated.placeAll (fun i => conditions[i]?) window []
      (w.shuffle (List.range conditions.length)).1 =
        .ok ([] ++ (w.shuffle (List.range conditions.length)).1) :=
    Separated.placeAll_of_isChain h
  rw [orderSeparated_eq htagged, hplaced, List.nil_append]

theorem exists_orderSeparated_of_neverStuck (htagged : none ∉ conditions)
    (h : Separated.NeverStuck (fun i => conditions[i]?) window (List.range conditions.length))
    (w : Words) : ∃ order, (orderSeparated conditions window w).1 = .ok order := by
  have hperm : ([] ++ (w.shuffle (List.range conditions.length)).1).Perm
      (List.range conditions.length) := Words.shuffle_perm _ w
  obtain ⟨order, hplaced⟩ := Separated.exists_placeAll h hperm List.isChain_nil
  exact ⟨order, by rw [orderSeparated_eq htagged, hplaced]⟩

/-- No condition is too frequent: each is that of a third of the items at most, rounded up, or
another condition is as frequent. -/
def Separable (conditions : List (Option α)) : Prop :=
  ∀ c ∈ conditions, 3 * conditions.count c ≤ conditions.length + 2 ∨
    ∃ d, d ≠ c ∧ conditions.count c ≤ conditions.count d

/-- Items can be kept apart if no condition is too frequent. -/
theorem exists_orderSeparated (htagged : none ∉ conditions) (h : Separable conditions) (w : Words) :
    ∃ order, (orderSeparated conditions defaultWindow w).1 = .ok order := by
  refine exists_orderSeparated_of_neverStuck htagged (Separated.neverStuck_of_rivalled ?_) w
  intro x
  by_cases hx : ∃ c ∈ conditions, x = some c
  · obtain ⟨c, hc, rfl⟩ := hx
    rw [count_map_getElem?_range, List.length_range]
    refine (h c hc).imp_right ?_
    rintro ⟨d, hdc, hle⟩
    exact ⟨some d, by simpa using hdc, by rwa [count_map_getElem?_range]⟩
  · rw [count_map_getElem?_range_of_ne hx]
    exact .inl (Nat.zero_le _)

/-- Two or more conditions that occur equally often are not too frequent. -/
theorem separable_of_even
    (heven : ∀ a ∈ conditions, ∀ b ∈ conditions, conditions.count a = conditions.count b)
    (hdistinct : ∃ a ∈ conditions, ∃ b ∈ conditions, a ≠ b) : Separable conditions := by
  obtain ⟨a, ha, b, hb, hab⟩ := hdistinct
  intro c hc
  by_cases hca : c = a
  · exact .inr ⟨b, hca ▸ hab.symm, (heven c hc b hb).le⟩
  · exact .inr ⟨a, Ne.symm hca, (heven c hc a ha).le⟩

end

end Trials
