import Trials.Proofs.Order.Separated

/-!
# Swapping an item in

An item with the condition of the last one placed cannot come next.  It may take the place of an
earlier item that moves to the end, provided that equal conditions are still apart then (`Repairs`).

This holds of a place just if neither the item there nor its neighbours have the condition
(`repairs_iff_free`): the last item keeps having the condition after the exchange, whether it is the
one exchanged or not, so the item that moves to the end must differ.  Windows up to three look at
these places and no others, hence a repair is found whenever there is one, and it is the first
(`swapInto_repairs`).  Wider windows look further and may miss one.
-/

namespace Trials

namespace Separated

section

variable {α : Type} {condition : Nat → α} {window : Nat} {placed : List Nat} {next i : Nat}

/-- With `next` at the place `i` and the item that stood there at the end, the placed items become
`out`, in which equal conditions are apart. -/
structure Repairs (condition : Nat → α) (placed : List Nat) (next i : Nat) (out : List Nat) :
    Prop where
  exchanged : ∃ displaced, placed[i]? = some displaced ∧ out = placed.set i next ++ [displaced]
  apart : (out.map condition).IsChain (· ≠ ·)

theorem Repairs.lt_length {out : List Nat} (h : Repairs condition placed next i out) :
    i < placed.length := by
  obtain ⟨displaced, hdisplaced, -⟩ := h.exchanged
  exact (List.getElem?_eq_some_iff.1 hdisplaced).1

/-- A place that is free for some window is free for the default one. -/
theorem Free.default {c : α} (h : Free condition window placed c i) :
    Free condition defaultWindow placed c i := by
  have hbefore : 1 ≤ reachBefore window := Nat.le_max_right _ _
  have hafter : 1 ≤ reachAfter window := Nat.le_max_right _ _
  intro p j hlo hhi hp
  have hlo : i ≤ p + 1 := hlo
  have hhi : p ≤ i + 1 := hhi
  exact h p j (by omega) (by omega) hp

/-- A window of up to three reaches no further than the two neighbours. -/
theorem free_iff_default (hwindow : window ≤ 3) {c : α} :
    Free condition window placed c i ↔ Free condition defaultWindow placed c i := by
  refine ⟨Free.default, fun h p j hlo hhi hp => ?_⟩
  unfold reachBefore at hlo
  unfold reachAfter at hhi
  have hlo : i ≤ p + 1 := by omega
  have hhi : p ≤ i + 1 := by omega
  exact h p j hlo hhi hp

/-- Where equal conditions are apart with an item in its new place, the neighbours there have other
conditions. -/
theorem condition_ne_of_isChain_set {p j : Nat} (hi : i < placed.length)
    (h : ((placed.set i next).map condition).IsChain (· ≠ ·)) (hbeside : p + 1 = i ∨ p = i + 1)
    (hp : placed[p]? = some j) : condition j ≠ condition next := by
  obtain ⟨hlt, rfl⟩ := List.getElem?_eq_some_iff.1 hp
  rw [List.isChain_map, List.isChain_iff_getElem] at h
  rcases hbeside with rfl | rfl
  · have hne := h p (by simpa using hi)
    rwa [List.getElem_set_self, List.getElem_set_ne (by omega)] at hne
  · have hne := h i (by simpa using hlt)
    rw [List.getElem_set_self, List.getElem_set_ne (by omega)] at hne
    exact hne.symm

/-- An item that is exchanged in a repair has another condition, and so have its neighbours. -/
theorem Repairs.free {out : List Nat} (h : Repairs condition placed next i out)
    (hlast : (placed.map condition).getLast? = some (condition next)) :
    Free condition defaultWindow placed (condition next) i := by
  obtain ⟨displaced, hdisplaced, rfl⟩ := h.exchanged
  have hapart := h.apart
  rw [List.map_append, List.isChain_append, getLast?_map_set hlast] at hapart
  obtain ⟨hset, -, hend⟩ := hapart
  intro p j hlo hhi hp
  have hlo : i ≤ p + 1 := hlo
  have hhi : p ≤ i + 1 := hhi
  by_cases hpi : p = i
  · -- the item moved to the end stands behind one that has the condition
    rw [hpi, hdisplaced] at hp
    cases hp
    exact (hend _ rfl _ rfl).symm
  · exact condition_ne_of_isChain_set h.lt_length hset (by omega) hp

/-- An exchange is a repair just if neither the item exchanged nor its neighbours have the
condition. -/
theorem repairs_iff_free (hchain : (placed.map condition).IsChain (· ≠ ·))
    (hlast : (placed.map condition).getLast? = some (condition next)) {displaced : Nat}
    (hdisplaced : placed[i]? = some displaced) :
    Repairs condition placed next i (placed.set i next ++ [displaced]) ↔
      Free condition defaultWindow placed (condition next) i :=
  ⟨fun h => h.free hlast,
    fun hfree => ⟨⟨displaced, hdisplaced, rfl⟩, isChain_of_free hchain hlast hdisplaced hfree⟩⟩

theorem exists_repairs_of_free (hchain : (placed.map condition).IsChain (· ≠ ·))
    (hlast : (placed.map condition).getLast? = some (condition next)) (hi : i < placed.length)
    (hfree : Free condition window placed (condition next) i) :
    ∃ out, Repairs condition placed next i out :=
  ⟨_, (repairs_iff_free hchain hlast (List.getElem?_eq_getElem hi)).2 hfree.default⟩

end

section

variable {α : Type} [DecidableEq α] {condition : Nat → α} {window : Nat} {placed : List Nat}
  {next i : Nat}

/-- What is done for any window is a repair. -/
theorem exists_repairs_of_swapInto (hchain : (placed.map condition).IsChain (· ≠ ·))
    (hlast : (placed.map condition).getLast? = some (condition next)) {out : List Nat}
    (h : swapInto condition window placed next = (.ok (), out)) :
    ∃ i, swapTarget condition window placed next = some i ∧
      Repairs condition placed next i out := by
  obtain ⟨i, displaced, htarget, hdisplaced, rfl⟩ := swapTarget_of_swapInto h
  have hfree := (swapTarget_eq_some_iff.1 htarget).2.1
  exact ⟨i, htarget, (repairs_iff_free hchain hlast hdisplaced).2 hfree.default⟩

/-- With a window of up to three the place that is found is the first one with a repair. -/
theorem swapTarget_eq_some_iff_repairs (hwindow : window ≤ 3)
    (hchain : (placed.map condition).IsChain (· ≠ ·))
    (hlast : (placed.map condition).getLast? = some (condition next)) :
    swapTarget condition window placed next = some i ↔
      (∃ out, Repairs condition placed next i out) ∧
        ∀ k < i, ∀ out, ¬ Repairs condition placed next k out := by
  rw [swapTarget_eq_some_iff]
  constructor
  · rintro ⟨hi, hfree, hfirst⟩
    refine ⟨exists_repairs_of_free hchain hlast hi hfree, fun k hk out h => hfirst k hk ?_⟩
    exact (free_iff_default hwindow).2 (h.free hlast)
  · rintro ⟨⟨out, h⟩, hfirst⟩
    refine ⟨h.lt_length, (free_iff_default hwindow).2 (h.free hlast), fun k hk hfree => ?_⟩
    obtain ⟨other, hother⟩ := exists_repairs_of_free hchain hlast (hk.trans h.lt_length) hfree
    exact hfirst k hk other hother

theorem Repairs.swapInto_eq {out : List Nat} (h : Repairs condition placed next i out)
    (htarget : swapTarget condition window placed next = some i) :
    swapInto condition window placed next = (.ok (), out) := by
  obtain ⟨displaced, hdisplaced, rfl⟩ := h.exchanged
  obtain ⟨displaced', hdisplaced', hswap⟩ := swapInto_of_swapTarget htarget
  cases hdisplaced.symm.trans hdisplaced'
  exact hswap

/-- With a window of up to three an item that has the condition of the last one placed is swapped in
just if there is a repair, and then by the one at the first place; otherwise swapping fails and
leaves the placed items as they are.  With any window an item is only swapped in by a repair. -/
theorem swapInto_repairs (window : Nat) (hchain : (placed.map condition).IsChain (· ≠ ·))
    (hlast : (placed.map condition).getLast? = some (condition next)) :
    (window ≤ 3 →
      ((∃ out, swapInto condition window placed next = (.ok (), out)) ↔
        ∃ i out, Repairs condition placed next i out) ∧
      (∀ out, swapInto condition window placed next = (.ok (), out) ↔
        ∃ i, Repairs condition placed next i out ∧
          ∀ k < i, ∀ other, ¬ Repairs condition placed next k other) ∧
      ((¬ ∃ i out, Repairs condition placed next i out) →
        swapInto condition window placed next = (.error .exhausted, placed))) ∧
    ∀ out, swapInto condition window placed next = (.ok (), out) →
      ∃ i, Repairs condition placed next i out := by
  have hsound : ∀ out, swapInto condition window placed next = (.ok (), out) →
      ∃ i, Repairs condition placed next i out := fun out h => by
    obtain ⟨i, -, hrepairs⟩ := exists_repairs_of_swapInto hchain hlast h
    exact ⟨i, hrepairs⟩
  refine ⟨fun hwindow => ⟨⟨?_, ?_⟩, fun out => ⟨fun h => ?_, ?_⟩, fun hnone => ?_⟩, hsound⟩
  · rintro ⟨out, h⟩
    obtain ⟨i, hrepairs⟩ := hsound out h
    exact ⟨i, out, hrepairs⟩
  · rintro ⟨i, out, h⟩
    exact exists_swapInto h.lt_length ((free_iff_default hwindow).2 (h.free hlast))
  · obtain ⟨i, htarget, hrepairs⟩ := exists_repairs_of_swapInto hchain hlast h
    exact ⟨i, hrepairs, ((swapTarget_eq_some_iff_repairs hwindow hchain hlast).1 htarget).2⟩
  · rintro ⟨i, h, hfirst⟩
    exact h.swapInto_eq ((swapTarget_eq_some_iff_repairs hwindow hchain hlast).2 ⟨⟨out, h⟩, hfirst⟩)
  · rcases swapInto_cases condition window placed next with ⟨out, h⟩ | herror
    · obtain ⟨i, hrepairs⟩ := hsound out h
      exact absurd ⟨i, out, hrepairs⟩ hnone
    · exact herror

/-- Conditions of six items. -/
def flanked : Nat → Option Nat := fun i => [3, 1, 2, 1, 3, 3][i]?

/-- With the conditions 3, 1, 2, 1, 3 placed, an item of condition 3 takes the third place, as it
would be beside one of its own at the first two.  With 3, 1, 3 placed there is no place for it. -/
theorem flanked_swapped :
    (([0, 1, 2, 3, 4].map flanked).IsChain (· ≠ ·) ∧
      ([0, 1, 2, 3, 4].map flanked).getLast? = some (flanked 5) ∧
      Repairs flanked [0, 1, 2, 3, 4] 5 2 [0, 1, 5, 3, 4, 2] ∧
      swapInto flanked 3 [0, 1, 2, 3, 4] 5 = (.ok (), [0, 1, 5, 3, 4, 2])) ∧
    ([0, 1, 4].map flanked).IsChain (· ≠ ·) ∧
      ([0, 1, 4].map flanked).getLast? = some (flanked 5) ∧
      ∀ window ≤ 3, swapInto flanked window [0, 1, 4] 5 = (.error .exhausted, [0, 1, 4]) := by
  have hchain : ([0, 1, 2, 3, 4].map flanked).IsChain (· ≠ ·) := by decide
  have hlast : ([0, 1, 2, 3, 4].map flanked).getLast? = some (flanked 5) := by decide
  have hrepairs : Repairs flanked [0, 1, 2, 3, 4] 5 2 [0, 1, 5, 3, 4, 2] :=
    ⟨⟨2, rfl, rfl⟩, by decide⟩
  have hfirst : ∀ k < 2, ∀ other, ¬ Repairs flanked [0, 1, 2, 3, 4] 5 k other := by
    rintro k hk other ⟨⟨displaced, hdisplaced, rfl⟩, hapart⟩
    obtain rfl | rfl : k = 0 ∨ k = 1 := by omega
    all_goals
      cases hdisplaced
      exact absurd hapart (by decide)
  have hchain' : ([0, 1, 4].map flanked).IsChain (· ≠ ·) := by decide
  have hlast' : ([0, 1, 4].map flanked).getLast? = some (flanked 5) := by decide
  have hnone : ¬ ∃ i out, Repairs flanked [0, 1, 4] 5 i out := by
    rintro ⟨i, out, h⟩
    have hi : i < 3 := h.lt_length
    obtain ⟨⟨displaced, hdisplaced, rfl⟩, hapart⟩ := h
    obtain rfl | rfl | rfl : i = 0 ∨ i = 1 ∨ i = 2 := by omega
    all_goals
      cases hdisplaced
      exact absurd hapart (by decide)
  refine ⟨⟨hchain, hlast, hrepairs, ?_⟩, hchain', hlast', fun window hwindow => ?_⟩
  · obtain ⟨-, hfound, -⟩ := (swapInto_repairs 3 hchain hlast).1 (Nat.le_refl 3)
    exact (hfound _).2 ⟨2, hrepairs, hfirst⟩
  · exact ((swapInto_repairs window hchain' hlast').1 hwindow).2.2 hnone

/-- With a window of four the last item placed is near the third place, and the repair is missed. -/
example : swapInto flanked 4 [0, 1, 2, 3, 4] 5 = (.error .exhausted, [0, 1, 2, 3, 4]) := rfl

end

end Separated

end Trials
