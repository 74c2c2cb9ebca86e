import Mathlib.Data.List.Nodup
import Mathlib.Algebra.Ring.Nat
import Trials.Simulation.Table

/-!
# Finding and counting in tables

A table is in ascending order of its keys (`Table.Ascending`), and changing the value of a key keeps
it so (`Ascending.alter`).  So the changed value is found under the key (`get?_alter_self`), and all
others are found as before (`get?_alter_of_ne`).  What is found under the keys determines the table
(`Ascending.ext`), which may therefore be put together in any order (`Ascending.ofList_eq`).  In a
table of tables of counts a change of one count adds to its tally and to no other (`tally_alter`).
-/

namespace Trials

namespace Table

variable {κ ι ν : Type} [Ord κ] {key k : κ} {default : ν} {f : ν → ν} {t : Table κ ν}

/-- The keys of a table. -/
def keys (t : Table κ ν) : List κ := t.map (·.1)

/-- The keys of a table are in ascending order. -/
def Ascending (t : Table κ ν) : Prop := t.Pairwise fun a b => compare a.1 b.1 = .lt

/-- What is in a table after a change was there before, but for the value of the key. -/
theorem mem_alter {e : κ × ν} (h : e ∈ alter key default f t) :
    e = (key, f default) ∨ e ∈ t ∨ ∃ v, (e.1, v) ∈ t ∧ e.2 = f v := by
  induction t with
  | nil => exact .inl (List.mem_singleton.1 h)
  | cons head rest ih =>
    obtain ⟨k, v⟩ := head
    rw [alter] at h
    split at h
    · rcases List.mem_cons.1 h with h | h
      · exact .inl h
      · exact .inr (.inl h)
    · rcases List.mem_cons.1 h with rfl | h
      · exact .inr (.inr ⟨v, List.mem_cons_self, rfl⟩)
      · exact .inr (.inl (List.mem_cons_of_mem _ h))
    · rcases List.mem_cons.1 h with rfl | h
      · exact .inr (.inl List.mem_cons_self)
      · rcases ih h with h | h | ⟨v, hmem, hv⟩
        · exact .inl h
        · exact .inr (.inl (List.mem_cons_of_mem _ h))
        · exact .inr (.inr ⟨v, List.mem_cons_of_mem _ hmem, hv⟩)

/-- What holds of all values still does after a change that keeps it. -/
theorem forall_mem_alter {P : ν → Prop} (h : ∀ e ∈ t, P e.2) (hdefault : P (f default))
    (hf : ∀ v, P v → P (f v)) : ∀ e ∈ alter key default f t, P e.2 := by
  intro e he
  rcases mem_alter he with rfl | he | ⟨v, he, hv⟩
  · exact hdefault
  · exact h e he
  · rw [hv]
    exact hf v (h (e.1, v) he)

/-- A change of one value by `d`, as measured by `g`, changes the sum of all of them by `d`. -/
theorem sum_alter {g : ν → Nat} {d : Nat} (hdefault : g (f default) = d)
    (hf : ∀ e ∈ t, g (f e.2) = g e.2 + d) :
    ((alter key default f t).map fun e => g e.2).sum = (t.map fun e => g e.2).sum + d := by
  induction t with
  | nil => simp [alter, hdefault]
  | cons head rest ih =>
    obtain ⟨k, v⟩ := head
    obtain ⟨hhead, hrest⟩ := List.forall_mem_cons.1 hf
    rw [alter]
    split
    · simp only [List.map_cons, List.sum_cons, hdefault]
      omega
    · simp only [List.map_cons, List.sum_cons, hhead]
      omega
    · simp only [List.map_cons, List.sum_cons, ih hrest]
      omega

section

variable [Std.TransOrd κ]

theorem Ascending.alter (h : t.Ascending) : (t.alter key default f).Ascending := by
  induction t with
  | nil => exact List.pairwise_singleton _ _
  | cons head rest ih =>
    obtain ⟨k, v⟩ := head
    obtain ⟨hfirst, hrest⟩ := List.pairwise_cons.1 h
    rw [Table.alter]
    split
    next hlt =>
      refine List.pairwise_cons.2 ⟨fun e he => ?_, h⟩
      rcases List.mem_cons.1 he with rfl | he
      · exact hlt
      · exact Std.TransCmp.lt_trans hlt (hfirst e he)
    · exact List.pairwise_cons.2 ⟨hfirst, hrest⟩
    next hgt =>
      refine List.pairwise_cons.2 ⟨fun e he => ?_, ih hrest⟩
      rcases mem_alter he with rfl | he | ⟨v', he, -⟩
      · exact Std.OrientedCmp.gt_iff_lt.1 hgt
      · exact hfirst e he
      · exact hfirst (e.1, v') he

theorem Ascending.foldl_alter {ε : Type} (h : t.Ascending) (key : ε → κ) (default : ε → ν)
    (f : ε → ν → ν) (items : List ε) :
    Ascending (items.foldl (fun t e => t.alter (key e) (default e) (f e)) t) := by
  induction items generalizing t with
  | nil => exact h
  | cons e rest ih => exact ih h.alter

/-- A key that comes before all others is not there. -/
theorem get?_eq_none {e : κ × ν} {rest : Table κ ν} (h : Ascending (e :: rest))
    (hlt : compare key e.1 = .lt) : get? key (e :: rest) = none := by
  rw [get?, Option.map_eq_none_iff, List.find?_eq_none]
  intro x hx
  have hkey : compare key x.1 = .lt := by
    rcases List.mem_cons.1 hx with rfl | hx
    · exact hlt
    · exact Std.TransCmp.lt_trans hlt (List.rel_of_pairwise_cons h hx)
  rw [hkey]
  decide

end

section

variable [Std.LawfulEqOrd κ]

theorem get?_cons_self (key : κ) (v : ν) (rest : Table κ ν) :
    get? key ((key, v) :: rest) = some v := by
  rw [get?, List.find?_cons_of_pos (by simp)]
  rfl

theorem get?_cons_of_ne {e : κ × ν} (h : key ≠ e.1) (rest : Table κ ν) :
    get? key (e :: rest) = get? key rest := by
  rw [get?, List.find?_cons_of_neg (by simpa using h)]
  rfl

theorem mem_keys_alter : k ∈ (alter key default f t).keys ↔ k = key ∨ k ∈ t.keys := by
  induction t with
  | nil => simp [alter, keys]
  | cons head rest ih =>
    obtain ⟨k', v⟩ := head
    rw [alter]
    split
    · simp [keys]
    next heq =>
      obtain rfl := Std.LawfulEqOrd.eq_of_compare heq
      simp [keys]
    · simp only [keys, List.map_cons, List.mem_cons] at ih ⊢
      rw [ih, or_left_comm]

/-- The keys of the values that are changed one after the other come to those that are there. -/
theorem mem_keys_foldl_alter {ε : Type} {key : ε → κ} {default : ε → ν} {f : ε → ν → ν}
    {items : List ε} :
    k ∈ keys (items.foldl (fun t e => t.alter (key e) (default e) (f e)) t) ↔
      k ∈ t.keys ∨ ∃ e ∈ items, key e = k := by
  induction items generalizing t with
  | nil => simp
  | cons e rest ih =>
    rw [List.foldl_cons, ih, mem_keys_alter, or_assoc]
    simp only [List.exists_mem_cons_iff, eq_comm, or_left_comm]

/-- The values of the other keys stay as they are. -/
theorem get?_alter_of_ne (h : k ≠ key) : get? k (alter key default f t) = get? k t := by
  induction t with
  | nil => exact get?_cons_of_ne h _
  | cons head rest ih =>
    obtain ⟨k', v⟩ := head
    rw [alter]
    split
    · exact get?_cons_of_ne h _
    next heq =>
      have hk : k ≠ k' := Std.LawfulEqOrd.eq_of_compare heq ▸ h
      rw [get?_cons_of_ne hk, get?_cons_of_ne hk]
    · by_cases hk : k = k'
      · subst hk
        rw [get?_cons_self, get?_cons_self]
      · rw [get?_cons_of_ne hk, get?_cons_of_ne hk, ih]

/-- In a list in ascending order no key occurs twice. -/
theorem nodup_of_ascending {ε : Type} {key : ε → κ} {items : List ε}
    (h : items.Pairwise fun a b => compare (key a) (key b) = .lt) : (items.map key).Nodup := by
  rw [List.nodup_iff_pairwise_ne, List.pairwise_map]
  refine h.imp fun {a b} hlt heq => ?_
  rw [heq, Std.compare_self] at hlt
  cases hlt

theorem Ascending.nodup_keys (h : t.Ascending) : t.keys.Nodup := nodup_of_ascending h

/-- Where no key occurs twice, what is listed under a key is found. -/
theorem get?_eq_some_iff (h : t.keys.Nodup) {v : ν} : get? k t = some v ↔ (k, v) ∈ t := by
  constructor
  · intro hget
    obtain ⟨⟨k', v'⟩, hfind, rfl⟩ := Option.map_eq_some_iff.1 hget
    have hk : compare k k' = .eq := by simpa using List.find?_some hfind
    rw [Std.LawfulEqOrd.eq_of_compare hk]
    exact List.mem_of_find?_eq_some hfind
  · intro hmem
    induction t with
    | nil => cases hmem
    | cons head rest ih =>
      obtain ⟨hhead, hrest⟩ := List.nodup_cons.1 h
      rcases List.mem_cons.1 hmem with rfl | hmem
      · exact get?_cons_self k v rest
      · have hne : k ≠ head.1 := by
          rintro rfl
          exact hhead (List.mem_map_of_mem (f := (·.1)) hmem)
        rw [get?_cons_of_ne hne]
        exact ih hrest hmem

theorem Ascending.get?_eq_some_iff (h : t.Ascending) {v : ν} : get? k t = some v ↔ (k, v) ∈ t :=
  Table.get?_eq_some_iff h.nodup_keys

variable [Std.TransOrd κ]

theorem get?_alter_self (h : t.Ascending) :
    get? key (alter key default f t) = some (f ((get? key t).getD default)) := by
  induction t with
  | nil => exact get?_cons_self _ _ _
  | cons head rest ih =>
    obtain ⟨k, v⟩ := head
    rw [alter]
    split
    next hlt =>
      rw [get?_cons_self, get?_eq_none h hlt]
      rfl
    next heq =>
      rw [← Std.LawfulEqOrd.eq_of_compare heq, get?_cons_self, get?_cons_self]
      rfl
    next hgt =>
      have hne : key ≠ k := by
        rintro rfl
        cases hgt.symm.trans Std.ReflCmp.compare_self
      rw [get?_cons_of_ne hne, get?_cons_of_ne hne]
      exact ih (List.Pairwise.of_cons h)

/-! ### What is found determines a table -/

/-- A list in ascending order is determined by what is in it. -/
theorem eq_of_mem_iff {ε : Type} {key : ε → κ} {items others : List ε}
    (h : items.Pairwise fun a b => compare (key a) (key b) = .lt)
    (h' : others.Pairwise fun a b => compare (key a) (key b) = .lt)
    (hmem : ∀ e, e ∈ items ↔ e ∈ others) : items = others := by
  have hnodup : items.Nodup := List.Nodup.of_map key (nodup_of_ascending h)
  have hnodup' : others.Nodup := List.Nodup.of_map key (nodup_of_ascending h')
  have hperm := (List.perm_ext_iff_of_nodup hnodup hnodup').2 hmem
  refine hperm.eq_of_pairwise (fun a b _ _ hab hba => ?_) h h'
  exact absurd hba (Std.OrientedCmp.not_lt_of_lt hab)

/-- Tables in which the same is found under each key are equal. -/
theorem Ascending.ext {t' : Table κ ν} (h : t.Ascending) (h' : t'.Ascending)
    (hget : ∀ k, get? k t = get? k t') : t = t' := by
  refine eq_of_mem_iff h h' ?_
  rintro ⟨k, v⟩
  rw [← h.get?_eq_some_iff, ← h'.get?_eq_some_iff, hget]

/-- Setting the values of different keys one after the other adds just these values. -/
theorem get?_foldl_set {entries : List (κ × ν)} (h : t.Ascending) (hkeys : (keys entries).Nodup) :
    get? k (entries.foldl (fun t e => t.set e.1 e.2) t) = (get? k entries).or (get? k t) := by
  induction entries generalizing t with
  | nil => rfl
  | cons e rest ih =>
    obtain ⟨key, value⟩ := e
    obtain ⟨hfirst, hrest⟩ := List.nodup_cons.1 hkeys
    have hset : (t.alter key value fun _ => value).Ascending := h.alter
    refine (ih hset hrest).trans ?_
    by_cases hk : k = key
    · subst hk
      have hnone : get? k rest = none := by
        rw [Option.eq_none_iff_forall_ne_some]
        exact fun v hv =>
          hfirst (List.mem_map_of_mem (f := (·.1)) ((Table.get?_eq_some_iff hrest).1 hv))
      rw [hnone, get?_cons_self, get?_alter_self h]
      rfl
    · rw [get?_cons_of_ne hk, get?_alter_of_ne hk]

/-- A table may be put together from its entries in any order. -/
theorem Ascending.ofList_eq {entries : List (κ × ν)} (h : t.Ascending) (hperm : entries.Perm t) :
    ofList entries = t := by
  have hkeys : (keys entries).Nodup := (hperm.map Prod.fst).nodup_iff.2 h.nodup_keys
  have hnil : Ascending ([] : Table κ ν) := .nil
  have hascending : (ofList entries).Ascending := hnil.foldl_alter _ _ _ entries
  refine hascending.ext h fun k => ?_
  ext v
  rw [ofList, get?_foldl_set .nil hkeys, h.get?_eq_some_iff, ← hperm.mem_iff,
    ← Table.get?_eq_some_iff hkeys]
  simp [get?]

/-- A table with the keys of an ascending list lists them in this order. -/
theorem Ascending.keys_eq {items : List κ} (h : t.Ascending)
    (hitems : items.Pairwise fun a b => compare a b = .lt) (hmem : ∀ k, k ∈ t.keys ↔ k ∈ items) :
    t.keys = items := by
  have hkeys : t.keys.Pairwise fun a b => compare a b = .lt := List.pairwise_map.2 h
  exact eq_of_mem_iff hkeys hitems hmem

/-- Where a default value is never listed, a key that is not listed need not be told from one with
the default value. -/
theorem Ascending.ext_getD {t' : Table κ ν} (h : t.Ascending) (h' : t'.Ascending)
    (hne : ∀ e ∈ t, e.2 ≠ default) (hne' : ∀ e ∈ t', e.2 ≠ default)
    (hget : ∀ k, (get? k t).getD default = (get? k t').getD default) : t = t' := by
  refine h.ext h' fun k => ?_
  specialize hget k
  cases hk : get? k t with
  | none =>
    cases hk' : get? k t' with
    | none => rfl
    | some v' =>
      rw [hk, hk'] at hget
      exact absurd hget.symm (hne' _ (h'.get?_eq_some_iff.1 hk'))
  | some v =>
    cases hk' : get? k t' with
    | none =>
      rw [hk, hk'] at hget
      exact absurd hget (hne _ (h.get?_eq_some_iff.1 hk))
    | some v' =>
      rw [hk, hk'] at hget
      exact congrArg some hget

end

/-! ## Counts -/

variable [Ord ι]

/-- The count under two keys in a table of tables of counts; zero if there is none. -/
def tally (t : Table κ (Table ι Nat)) (k : κ) (i : ι) : Nat :=
  (get? i ((get? k t).getD [])).getD 0

/-- Both the table and the tables in it are in ascending order. -/
structure Sorted (t : Table κ (Table ι Nat)) : Prop where
  outer : t.Ascending
  inner : ∀ e ∈ t, e.2.Ascending

theorem Sorted.nil : Sorted ([] : Table κ (Table ι Nat)) := ⟨.nil, nofun⟩

variable {c : Table κ (Table ι Nat)}

theorem Sorted.getD (h : c.Sorted) (k : κ) : ((get? k c).getD []).Ascending := by
  cases hget : get? k c with
  | none => exact .nil
  | some v =>
    obtain ⟨e, he, rfl⟩ := Option.map_eq_some_iff.1 hget
    exact h.inner e (List.mem_of_find?_eq_some he)

section

variable [Std.TransOrd ι] [Std.LawfulEqOrd ι] [DecidableEq ι] {n : Table ι Nat}

theorem getD_count (h : n.Ascending) (inner i : ι) :
    (get? i (count inner n)).getD 0 = (get? i n).getD 0 + if inner = i then 1 else 0 := by
  by_cases hi : inner = i
  · subst hi
    rw [count, get?_alter_self h, if_pos rfl]
    rfl
  · rw [count, get?_alter_of_ne (Ne.symm hi), if_neg hi, Nat.add_zero]

end

variable [Std.TransOrd κ] [Std.TransOrd ι]

theorem Sorted.alter (h : c.Sorted) (key : κ) (inner : ι) :
    Sorted (c.alter key [] (count inner)) where
  outer := h.outer.alter
  inner := forall_mem_alter h.inner (Ascending.alter .nil) fun _ h => h.alter

variable [Std.LawfulEqOrd κ] [Std.LawfulEqOrd ι] [DecidableEq κ] [DecidableEq ι]

/-- One more has been counted under two keys, and nothing else. -/
theorem tally_alter (h : c.Sorted) (key k : κ) (inner i : ι) :
    tally (c.alter key [] (count inner)) k i =
      tally c k i + if key = k ∧ inner = i then 1 else 0 := by
  by_cases hk : key = k
  · subst hk
    rw [tally, tally, get?_alter_self h.outer, Option.getD_some, getD_count (h.getD key)]
    simp only [true_and]
  · rw [tally, tally, get?_alter_of_ne (Ne.symm hk), if_neg fun h => hk h.1, Nat.add_zero]

end Table

end Trials
