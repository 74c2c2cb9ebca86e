import Mathlib.Algebra.Order.BigOperators.Group.List
import Mathlib.Algebra.Order.Group.Nat
import Mathlib.Data.List.Induction
import Trials.Proofs.Simulation.Table

/-!
# Tabulating pairs

`Table.tabulate` counts the pairs of a list in a table of tables, and such a table is `Counted`: it
is in order and lists neither an empty row nor a zero.  Counted tables are equal if all tallies are
(`Counted.ext`), and the tally of two keys is the number of their pairs (`tally_tabulate`).  So the
order of the pairs does not matter (`tabulate_eq_of_perm`), and the table of two lists is the sum of
their tables (`tabulate_append`).
-/

namespace Trials.Table

variable {κ ι ν : Type} [Ord κ] [Ord ι]

/-- The row of a key in a table of tables; empty if there is none. -/
def row (k : κ) (t : Table κ (Table ι Nat)) : Table ι Nat := (get? k t).getD []

/-- The sum of the counts in a table. -/
def total (t : Table ι Nat) : Nat := (t.map (·.2)).sum

/-- The sum of the counts of a key in all rows. -/
def columnTotal (i : ι) (t : Table κ (Table ι Nat)) : Nat :=
  (t.map fun e => (get? i e.2).getD 0).sum

/-- How often each pair occurs in a list. -/
def tabulate (pairs : List (κ × ι)) : Table κ (Table ι Nat) :=
  pairs.foldl (fun t e => t.alter e.1 [] (count e.2)) []

/-- A table of tables of counts in which just what has been counted is listed. -/
structure Counted (t : Table κ (Table ι Nat)) : Prop extends Sorted t where
  occupied : ∀ e ∈ t, e.2 ≠ []
  positive : ∀ e ∈ t, ∀ n ∈ e.2, n.2 ≠ 0

theorem Counted.nil : Counted ([] : Table κ (Table ι Nat)) := ⟨.nil, nofun, nofun⟩

omit [Ord ι] in
theorem alter_ne_nil {key : κ} {default : ν} {f : ν → ν} (t : Table κ ν) :
    alter key default f t ≠ [] := by
  cases t with
  | nil => exact List.cons_ne_nil _ _
  | cons head rest =>
    rw [alter]
    split <;> exact List.cons_ne_nil _ _

theorem total_count (i : ι) (n : Table ι Nat) : total (count i n) = total n + 1 :=
  sum_alter (g := id) rfl fun _ _ => rfl

theorem tabulate_concat (pairs : List (κ × ι)) (e : κ × ι) :
    tabulate (pairs ++ [e]) = (tabulate pairs).alter e.1 [] (count e.2) := by
  simp [tabulate]

theorem mem_keys_tabulate [Std.LawfulEqOrd κ] {pairs : List (κ × ι)} {k : κ} :
    k ∈ (tabulate pairs).keys ↔ ∃ e ∈ pairs, e.1 = k :=
  mem_keys_foldl_alter.trans (or_iff_right List.not_mem_nil)

omit [Ord ι] in
theorem le_total_of_mem {t : Table ι Nat} {n : ι × Nat} (hn : n ∈ t) : n.2 ≤ t.total :=
  List.le_sum_of_mem (List.mem_map_of_mem hn)

omit [Ord ι] in
theorem Ascending.row_eq_of_mem [Std.LawfulEqOrd κ] {t : Table κ (Table ι Nat)}
    (h : t.Ascending) {e : κ × Table ι Nat} (he : e ∈ t) : t.row e.1 = e.2 := by
  rw [row, h.get?_eq_some_iff.2 he]
  rfl

omit [Ord ι] in
/-- A table lists its rows in the order of their keys. -/
theorem Ascending.map_eq [Std.LawfulEqOrd κ] {α : Type} {t : Table κ (Table ι Nat)}
    (h : t.Ascending) (f : κ → Table ι Nat → α) :
    (t.map fun e => f e.1 e.2) = t.keys.map fun k => f k (t.row k) := by
  rw [keys, List.map_map]
  refine List.map_congr_left fun e he => ?_
  rw [Function.comp_apply, h.row_eq_of_mem he]

/-! ## Just what has been counted -/

variable [Std.TransOrd κ] [Std.TransOrd ι] {c c' : Table κ (Table ι Nat)}

theorem Counted.alter (h : c.Counted) (key : κ) (inner : ι) :
    Counted (c.alter key [] (count inner)) where
  toSorted := h.toSorted.alter key inner
  occupied := forall_mem_alter (P := (· ≠ [])) h.occupied (alter_ne_nil _) fun v _ => alter_ne_nil v
  positive := by
    have hcount (v : Table ι Nat) (hv : ∀ n ∈ v, n.2 ≠ 0) : ∀ n ∈ count inner v, n.2 ≠ 0 :=
      forall_mem_alter (P := (· ≠ 0)) hv Nat.one_ne_zero fun n _ => Nat.succ_ne_zero n
    exact forall_mem_alter (P := fun v => ∀ n : ι × Nat, n ∈ v → n.2 ≠ 0) h.positive
      (hcount [] nofun) hcount

theorem counted_tabulate (pairs : List (κ × ι)) : (tabulate pairs).Counted := by
  induction pairs using List.reverseRecOn with
  | nil => exact Counted.nil
  | append_singleton pairs e ih =>
    rw [tabulate_concat]
    exact ih.alter e.1 e.2

variable [Std.LawfulEqOrd κ]

omit [Std.TransOrd κ] [Std.TransOrd ι] in
theorem Counted.positive_row (h : c.Counted) (k : κ) : ∀ n ∈ c.row k, n.2 ≠ 0 := by
  unfold row
  cases hget : get? k c with
  | none => exact nofun
  | some v => exact h.positive _ (h.outer.get?_eq_some_iff.1 hget)

variable [Std.LawfulEqOrd ι]

/-- Where just what has been counted is listed, the tallies determine the table. -/
theorem Counted.ext (h : c.Counted) (h' : c'.Counted)
    (htally : ∀ k i, tally c k i = tally c' k i) : c = c' := by
  refine h.outer.ext_getD h'.outer h.occupied h'.occupied fun k => ?_
  exact (h.toSorted.getD k).ext_getD (h'.toSorted.getD k) (h.positive_row k)
    (h'.positive_row k) (htally k)

section

variable [DecidableEq κ] [DecidableEq ι]

/-- The tally of two keys is the number of pairs of these keys. -/
theorem tally_tabulate (pairs : List (κ × ι)) (k : κ) (i : ι) :
    tally (tabulate pairs) k i = pairs.countP fun e => e.1 = k ∧ e.2 = i := by
  induction pairs using List.reverseRecOn with
  | nil => rfl
  | append_singleton pairs e ih =>
    rw [tabulate_concat, tally_alter (counted_tabulate pairs).toSorted, ih, List.countP_append,
      List.countP_singleton]
    simp only [decide_eq_true_eq]

example : tabulate [(1, 2), (0, 5), (1, 2)] = [(0, [(5, 1)]), (1, [(2, 2)])] := by decide

/-- What is listed in a row has been tabulated with the key of the row. -/
theorem mem_of_mem_row {pairs : List (κ × ι)} {k : κ} {i : ι} {n : Nat}
    (h : (i, n) ∈ (tabulate pairs).row k) : (k, i) ∈ pairs := by
  have hcounted := counted_tabulate pairs
  have hget := (hcounted.toSorted.getD k).get?_eq_some_iff.2 h
  have htally := tally_tabulate pairs k i
  rw [tally, hget, Option.getD_some] at htally
  have hpos : 0 < n := Nat.pos_of_ne_zero (hcounted.positive_row k (i, n) h)
  rw [htally, List.countP_pos_iff] at hpos
  obtain ⟨⟨k', i'⟩, hmem, hpair⟩ := hpos
  obtain ⟨rfl, rfl⟩ := of_decide_eq_true hpair
  exact hmem

/-- The order of the pairs does not matter. -/
theorem tabulate_eq_of_perm {pairs others : List (κ × ι)} (h : pairs.Perm others) :
    tabulate pairs = tabulate others := by
  refine (counted_tabulate pairs).ext (counted_tabulate others) fun k i => ?_
  rw [tally_tabulate, tally_tabulate, h.countP_eq]

end

/-! ## Sums over a row and over a column -/

omit [Std.LawfulEqOrd ι] in
/-- The counts in the row of a key add up to the number of pairs with this key. -/
theorem total_row_tabulate [DecidableEq κ] (pairs : List (κ × ι)) (k : κ) :
    ((tabulate pairs).row k).total = pairs.countP fun e => e.1 = k := by
  induction pairs using List.reverseRecOn with
  | nil => rfl
  | append_singleton pairs e ih =>
    rw [tabulate_concat, List.countP_append, List.countP_singleton, ← ih, row]
    by_cases hk : e.1 = k
    · subst hk
      rw [get?_alter_self (counted_tabulate pairs).outer, Option.getD_some, total_count, row]
      simp
    · rw [get?_alter_of_ne (Ne.symm hk)]
      simp [hk, row]

omit [Std.LawfulEqOrd κ] in
/-- The counts of a key in all rows add up to the number of pairs with this key. -/
theorem columnTotal_tabulate [DecidableEq ι] (pairs : List (κ × ι)) (i : ι) :
    columnTotal i (tabulate pairs) = pairs.countP fun e => e.2 = i := by
  induction pairs using List.reverseRecOn with
  | nil => rfl
  | append_singleton pairs e ih =>
    rw [tabulate_concat, List.countP_append, List.countP_singleton, ← ih]
    refine sum_alter (g := fun v => (get? i v).getD 0) ?_ fun row hrow => ?_
    · rw [getD_count .nil]
      simp [get?]
    · rw [getD_count ((counted_tabulate pairs).inner row hrow)]
      simp

/-! ## Adding tables -/

/-- The table in which the values of two tables are put together key by key. -/
def merge (default : ν) (add : ν → ν → ν) (t t' : Table κ ν) : Table κ ν :=
  t'.foldl (fun t e => t.alter e.1 default (add · e.2)) t

/-- The counts of two tables, added key by key. -/
def addCounts (n n' : Table ι Nat) : Table ι Nat := merge 0 (· + ·) n n'

/-- The counts of two tables of tables, added key by key. -/
def addTables (t t' : Table κ (Table ι Nat)) : Table κ (Table ι Nat) := merge [] addCounts t t'

section

variable {default : ν} {add : ν → ν → ν} {t t' : Table κ ν}

omit [Std.TransOrd κ] [Std.LawfulEqOrd κ] in
/-- What holds of the values of a table still does when values that keep it are put to them. -/
theorem forall_mem_merge {P : ν → Prop} (h : ∀ e ∈ t, P e.2)
    (hadd : ∀ e ∈ t', P (add default e.2) ∧ ∀ v, P v → P (add v e.2)) :
    ∀ e ∈ merge default add t t', P e.2 := by
  induction t' generalizing t with
  | nil => exact h
  | cons e rest ih =>
    obtain ⟨⟨hdefault, hkeep⟩, hrest⟩ := List.forall_mem_cons.1 hadd
    exact ih (forall_mem_alter h hdefault hkeep) hrest

omit [Std.TransOrd κ] [Std.LawfulEqOrd κ] in
theorem merge_ne_nil (h : t' ≠ []) : merge default add t t' ≠ [] := by
  obtain ⟨rest, e, rfl⟩ := (List.eq_nil_or_concat t').resolve_left h
  rw [merge, List.concat_eq_append, List.foldl_concat]
  exact alter_ne_nil _

omit [Std.LawfulEqOrd κ] in
theorem Ascending.merge (h : t.Ascending) (t' : Table κ ν) :
    (merge default add t t').Ascending :=
  h.foldl_alter _ _ _ t'

/-- What is found in two tables is put together, where putting the default to a value leaves it as
it is. -/
theorem getD_merge (hadd : ∀ v, add v default = v) (h : t.Ascending) (h' : t'.Ascending) (k : κ) :
    (get? k (merge default add t t')).getD default =
      add ((get? k t).getD default) ((get? k t').getD default) := by
  induction t' generalizing t with
  | nil => exact (hadd _).symm
  | cons e rest ih =>
    obtain ⟨k', v'⟩ := e
    have hrest : Ascending rest := List.Pairwise.of_cons h'
    have hfirst : (alter k' default (add · v') t).Ascending := h.alter
    refine (ih hfirst hrest).trans ?_
    by_cases hk : k = k'
    · subst hk
      have hnone : get? k rest = none := by
        rw [Option.eq_none_iff_forall_ne_some]
        intro v hv
        have hmem : k ∈ keys rest := List.mem_map_of_mem (hrest.get?_eq_some_iff.1 hv)
        exact (List.nodup_cons.1 h'.nodup_keys).1 hmem
      rw [get?_alter_self h, get?_cons_self, hnone]
      exact hadd _
    · rw [get?_alter_of_ne hk, get?_cons_of_ne hk]

end

omit [Std.LawfulEqOrd κ] [Std.LawfulEqOrd ι] in
theorem Counted.addTables (h : c.Counted) (h' : c'.Counted) : (addTables c c').Counted where
  outer := h.outer.merge c'
  inner := forall_mem_merge h.inner fun e _ => ⟨Ascending.merge .nil e.2, fun _ hv => hv.merge e.2⟩
  occupied := forall_mem_merge (P := (· ≠ [])) h.occupied fun e he =>
    ⟨merge_ne_nil (h'.occupied e he), fun _ _ => merge_ne_nil (h'.occupied e he)⟩
  positive := by
    have hadd (v : Table ι Nat) (hv : ∀ n ∈ v, n.2 ≠ 0) {e : κ × Table ι Nat} (he : e ∈ c') :
        ∀ n ∈ addCounts v e.2, n.2 ≠ 0 := by
      refine forall_mem_merge (P := (· ≠ 0)) hv fun n hn => ?_
      have hpos := h'.positive e he n hn
      have hsum (m : Nat) : m + n.2 ≠ 0 := by omega
      exact ⟨hsum 0, fun m _ => hsum m⟩
    exact forall_mem_merge (P := fun v => ∀ n : ι × Nat, n ∈ v → n.2 ≠ 0) h.positive
      fun e he => ⟨hadd [] nofun he, fun v hv => hadd v hv he⟩

theorem tally_addTables (h : c.Sorted) (h' : c'.Sorted) (k : κ) (i : ι) :
    tally (addTables c c') k i = tally c k i + tally c' k i := by
  have hrow : (addTables c c').row k = addCounts (c.row k) (c'.row k) :=
    getD_merge (fun _ => rfl) h.outer h'.outer k
  show (get? i ((addTables c c').row k)).getD 0 = _
  rw [hrow]
  exact getD_merge (fun _ => rfl) (h.getD k) (h'.getD k) i

/-- The table of two lists is the sum of their tables. -/
theorem tabulate_append [DecidableEq κ] [DecidableEq ι] (pairs others : List (κ × ι)) :
    tabulate (pairs ++ others) = addTables (tabulate pairs) (tabulate others) := by
  have hpairs := counted_tabulate pairs
  have hothers := counted_tabulate others
  refine (counted_tabulate _).ext (hpairs.addTables hothers) fun k i => ?_
  rw [tally_addTables hpairs.toSorted hothers.toSorted, tally_tabulate, tally_tabulate,
    tally_tabulate, List.countP_append]

end Trials.Table
