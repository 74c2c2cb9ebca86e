import Trials.Json.Document
import Mathlib.Data.String.Basic
import Mathlib.Data.List.Perm.Basic

/-!
# Fields of objects

An object that is read from a text lists its fields in ascending order of their names (`Sorted`),
and there is one such order only (`Sorted.eq_of_perm`).  What is found under a name does not depend
on the order in which different fields are given (`lookup_insertAll`).
-/

namespace Trials.Json

variable {name : String} {value v : Json} {fields fields' : List (String × Json)}

/-- The names of the fields ascend. -/
def Sorted (fields : List (String × Json)) : Prop :=
  fields.Pairwise fun f g => compare f.1 g.1 = .lt

theorem Sorted.nodup_names (h : Sorted fields) : (fields.map (·.1)).Nodup := by
  rw [List.nodup_iff_pairwise_ne, List.pairwise_map]
  refine h.imp fun {f g} hlt heq => ?_
  rw [heq, Std.compare_self] at hlt
  cases hlt

/-- Fields are in order in one way only. -/
theorem Sorted.eq_of_perm (h : Sorted fields) (h' : Sorted fields') (hperm : fields.Perm fields') :
    fields = fields' := by
  refine List.Perm.eq_of_pairwise (fun f g _ _ hfg hgf => ?_) h h' hperm
  have hself := Std.TransCmp.lt_trans hfg hgf
  rw [Std.compare_self] at hself
  cases hself

/-! ## One more field -/

theorem mem_insertField {f : String × Json} (h : f ∈ insertField name value fields) :
    f = (name, value) ∨ f ∈ fields := by
  induction fields with
  | nil => exact .inl (List.mem_singleton.1 h)
  | cons g rest ih =>
    obtain ⟨n, v⟩ := g
    unfold insertField at h
    split at h
    · exact List.mem_cons.1 h
    · exact (List.mem_cons.1 h).imp_right (List.mem_cons_of_mem _)
    · obtain heq | hmem := List.mem_cons.1 h
      · exact .inr (heq ▸ List.mem_cons_self)
      · exact (ih hmem).imp_right (List.mem_cons_of_mem _)

theorem Sorted.insertField (h : Sorted fields) : Sorted (insertField name value fields) := by
  induction fields with
  | nil => exact List.pairwise_singleton _ _
  | cons g rest ih =>
    obtain ⟨n, v⟩ := g
    obtain ⟨hfirst, hrest⟩ := List.pairwise_cons.1 h
    unfold Json.insertField
    split
    · rename_i hlt
      refine List.pairwise_cons.2 ⟨fun f hf => ?_, h⟩
      obtain rfl | hf := List.mem_cons.1 hf
      · exact hlt
      · exact Std.TransCmp.lt_trans hlt (hfirst f hf)
    · rename_i heq
      obtain rfl := Std.compare_eq_iff_eq.1 heq
      exact List.pairwise_cons.2 ⟨hfirst, hrest⟩
    · rename_i hgt
      refine List.pairwise_cons.2 ⟨fun f hf => ?_, ih hrest⟩
      obtain rfl | hf := mem_insertField hf
      · exact Std.OrientedCmp.lt_of_gt hgt
      · exact hfirst f hf

theorem insertField_perm (value : Json) (h : name ∉ fields.map (·.1)) :
    (insertField name value fields).Perm ((name, value) :: fields) := by
  induction fields with
  | nil => exact .refl _
  | cons g rest ih =>
    obtain ⟨n, v⟩ := g
    simp only [List.map_cons, List.mem_cons, not_or] at h
    unfold insertField
    split
    · exact .refl _
    · rename_i heq
      exact absurd (Std.compare_eq_iff_eq.1 heq) h.1
    · exact ((ih h.2).cons _).trans (.swap _ _ _)

/-! ## All fields -/

/-- The fields of an object with more fields added. -/
def insertAll (fields more : List (String × Json)) : List (String × Json) :=
  more.foldl (fun acc f => insertField f.1 f.2 acc) fields

theorem ofFields_eq (fields : List (String × Json)) :
    ofFields fields = .obj (insertAll [] fields) := rfl

theorem Sorted.insertAll (h : Sorted fields) (more : List (String × Json)) :
    Sorted (insertAll fields more) := by
  induction more generalizing fields with
  | nil => exact h
  | cons f rest ih => exact ih h.insertField

theorem sorted_insertAll (fields : List (String × Json)) : Sorted (insertAll [] fields) :=
  Sorted.insertAll List.Pairwise.nil fields

theorem mem_insertAll {f : String × Json} {more : List (String × Json)}
    (h : f ∈ insertAll fields more) : f ∈ fields ∨ f ∈ more := by
  induction more generalizing fields with
  | nil => exact .inl h
  | cons g rest ih =>
    obtain hf | hf := ih h
    · obtain rfl | hf := mem_insertField hf
      · exact .inr List.mem_cons_self
      · exact .inl hf
    · exact .inr (List.mem_cons_of_mem _ hf)

theorem insertAll_perm {more : List (String × Json)}
    (h : ((fields ++ more).map (·.1)).Nodup) : (insertAll fields more).Perm (fields ++ more) := by
  induction more generalizing fields with
  | nil =>
    rw [List.append_nil]
    exact .refl _
  | cons g rest ih =>
    have hperm : (fields ++ g :: rest).Perm (g :: fields ++ rest) := List.perm_middle
    have hnodup : ((g :: fields ++ rest).map (·.1)).Nodup := (hperm.map _).nodup_iff.1 h
    have hg : g.1 ∉ fields.map (·.1) := by
      simp only [List.cons_append, List.map_cons, List.map_append, List.nodup_cons] at hnodup
      exact fun hmem => hnodup.1 (List.mem_append_left _ hmem)
    have hfirst := (insertField_perm g.2 hg).append_right rest
    exact (ih ((hfirst.map _).nodup_iff.2 hnodup)).trans (hfirst.trans hperm.symm)

/-- An object may be given by its fields in any order. -/
theorem ofFields_eq_of_perm (h : Sorted fields) (hperm : fields'.Perm fields) :
    ofFields fields' = .obj fields := by
  have hnodup : (fields'.map (·.1)).Nodup := (hperm.map _).nodup_iff.2 h.nodup_names
  have hall : (insertAll [] fields').Perm ([] ++ fields') := insertAll_perm hnodup
  rw [ofFields_eq, (sorted_insertAll fields').eq_of_perm h (hall.trans hperm)]

/-! ## Looking up -/

theorem lookup_eq_some_of_mem (hnodup : (fields.map (·.1)).Nodup) (h : (name, v) ∈ fields) :
    lookup name fields = some v := by
  induction fields with
  | nil => cases h
  | cons f rest ih =>
    obtain ⟨n, w⟩ := f
    simp only [List.map_cons, List.nodup_cons] at hnodup
    obtain heq | hmem := List.mem_cons.1 h
    · cases heq
      simp [lookup]
    · have hne : n ≠ name := by
        rintro rfl
        exact hnodup.1 (List.mem_map_of_mem (f := (·.1)) hmem)
      have hrest := ih hnodup.2 hmem
      simpa [lookup, hne] using hrest

theorem mem_of_lookup_eq_some (h : lookup name fields = some v) : (name, v) ∈ fields := by
  obtain ⟨f, hf, rfl⟩ := Option.map_eq_some_iff.1 h
  have hname : f.1 = name := by simpa using List.find?_some hf
  rw [← hname]
  exact List.mem_of_find?_eq_some hf

theorem lookup_eq_of_perm (hnodup : (fields.map (·.1)).Nodup) (hperm : fields.Perm fields') :
    lookup name fields = lookup name fields' := by
  have hnodup' := (hperm.map (·.1)).nodup_iff.1 hnodup
  ext v
  constructor
  · exact fun h => lookup_eq_some_of_mem hnodup' (hperm.mem_iff.1 (mem_of_lookup_eq_some h))
  · exact fun h => lookup_eq_some_of_mem hnodup (hperm.mem_iff.2 (mem_of_lookup_eq_some h))

/-- The order in which different fields are given does not matter to a reader. -/
theorem lookup_insertAll (name : String) (hnodup : (fields.map (·.1)).Nodup) :
    lookup name (insertAll [] fields) = lookup name fields :=
  lookup_eq_of_perm (sorted_insertAll fields).nodup_names (insertAll_perm hnodup)

theorem lookup_append (name : String) (fields fields' : List (String × Json)) :
    lookup name (fields ++ fields') = (lookup name fields).or (lookup name fields') := by
  rw [lookup, List.find?_append, Option.map_or]
  rfl

theorem lookup_filter {keep : String × Json → Bool} (h : ∀ v, keep (name, v) = true) :
    lookup name (fields.filter keep) = lookup name fields := by
  unfold lookup
  rw [List.find?_filter]
  congr 2
  funext ⟨n, v⟩
  by_cases heq : n = name
  · subst heq
    simp [h v]
  · simp [heq]

/-- Fields are what is found under a name, and the fields of other names. -/
theorem perm_lookup_append_filter (name : String) (hnodup : (fields.map (·.1)).Nodup) :
    fields.Perm (((lookup name fields).toList.map fun v => (name, v))
      ++ fields.filter fun f => f.1 ≠ name) := by
  induction fields with
  | nil => exact .refl _
  | cons f rest ih =>
    obtain ⟨n, v⟩ := f
    obtain ⟨hn, hrest⟩ := List.nodup_cons.1 hnodup
    by_cases heq : n = name
    · subst heq
      have hkeep : rest.filter (fun f => f.1 ≠ n) = rest := by
        refine List.filter_eq_self.2 fun f hf => ?_
        have hne : f.1 ≠ n := fun hname => hn (hname ▸ List.mem_map_of_mem (f := (·.1)) hf)
        exact decide_eq_true hne
      have hself : lookup n ((n, v) :: rest) = some v := by simp [lookup]
      rw [hself, List.filter_cons_of_neg (by simp), hkeep]
      exact .refl _
    · have hother : lookup name ((n, v) :: rest) = lookup name rest := by simp [lookup, heq]
      rw [hother, List.filter_cons_of_pos (by simpa using heq)]
      exact ((ih hrest).cons _).trans List.perm_middle.symm

/-- Sorted fields that have exactly the names of a sorted list have them in its order. -/
theorem Sorted.names_eq {names : List String} (h : Sorted fields)
    (hnames : names.Pairwise fun m n => compare m n = .lt) (hsub : ∀ f ∈ fields, f.1 ∈ names)
    (hfound : ∀ name ∈ names, (lookup name fields).isSome = true) :
    fields.map (·.1) = names := by
  have hsorted : (fields.map (·.1)).Pairwise fun m n => compare m n = .lt := by
    rw [List.pairwise_map]
    exact h
  have hnodup : names.Nodup := by
    rw [List.nodup_iff_pairwise_ne]
    refine hnames.imp fun {m n} hlt heq => ?_
    rw [heq, Std.compare_self] at hlt
    cases hlt
  refine List.Perm.eq_of_pairwise (fun m n _ _ hmn hnm => ?_) hsorted hnames ?_
  · have hself := Std.TransCmp.lt_trans hmn hnm
    rw [Std.compare_self] at hself
    cases hself
  · rw [List.perm_ext_iff_of_nodup h.nodup_names hnodup]
    intro name
    constructor
    · exact List.forall_mem_map.2 hsub name
    · intro hname
      obtain ⟨v, hv⟩ := Option.isSome_iff_exists.1 (hfound name hname)
      exact List.mem_map_of_mem (f := (·.1)) (mem_of_lookup_eq_some hv)

/-! ## Values read from texts -/

/-- All objects in the value are sorted. -/
inductive Ordered : Json → Prop
  | null : Ordered .null
  | bool (b : Bool) : Ordered (.bool b)
  | num (n : Number) : Ordered (.num n)
  | str (s : String) : Ordered (.str s)
  | arr {items : List Json} (h : ∀ v ∈ items, Ordered v) : Ordered (.arr items)
  | obj {fields : List (String × Json)} (hsorted : Sorted fields)
    (h : ∀ f ∈ fields, Ordered f.2) : Ordered (.obj fields)

namespace Document

mutual

theorem ordered_of_valueWithin {depth : Nat} {d : Document} {v : Json}
    (h : valueWithin depth d = some v) : Ordered v := by
  match d, depth with
  | .null, _ =>
    cases h
    exact .null
  | .bool b, _ =>
    cases h
    exact .bool b
  | .num n, _ =>
    obtain ⟨m, -, rfl⟩ := Option.map_eq_some_iff.1 h
    exact .num m
  | .str s, _ =>
    obtain ⟨text, -, rfl⟩ := Option.map_eq_some_iff.1 h
    exact .str text
  | .arr items, 0 => cases h
  | .obj fields, 0 => cases h
  | .arr items, depth + 1 =>
    obtain ⟨vs, hvs, rfl⟩ := Option.map_eq_some_iff.1 h
    exact .arr (ordered_of_itemsWithin hvs)
  | .obj fields, depth + 1 =>
    obtain ⟨fs, hfs, rfl⟩ := Option.map_eq_some_iff.1 h
    have hfields := ordered_of_fieldsWithin hfs
    refine .obj (sorted_insertAll fs) fun f hf => ?_
    obtain hf | hf := mem_insertAll hf
    · cases hf
    · exact hfields f hf

theorem ordered_of_itemsWithin {depth : Nat} {items : List Document} {vs : List Json}
    (h : itemsWithin depth items = some vs) : ∀ v ∈ vs, Ordered v := by
  match items with
  | [] =>
    cases h
    exact nofun
  | d :: rest =>
    rw [itemsWithin] at h
    obtain ⟨v, hv, h⟩ := Option.bind_eq_some_iff.1 h
    obtain ⟨others, hothers, h⟩ := Option.bind_eq_some_iff.1 h
    cases h
    exact List.forall_mem_cons.2 ⟨ordered_of_valueWithin hv, ordered_of_itemsWithin hothers⟩

theorem ordered_of_fieldsWithin {depth : Nat} {fields : List (List Char × Document)}
    {fs : List (String × Json)} (h : fieldsWithin depth fields = some fs) :
    ∀ f ∈ fs, Ordered f.2 := by
  match fields with
  | [] =>
    cases h
    exact nofun
  | (s, d) :: rest =>
    rw [fieldsWithin] at h
    obtain ⟨name, -, h⟩ := Option.bind_eq_some_iff.1 h
    obtain ⟨v, hv, h⟩ := Option.bind_eq_some_iff.1 h
    obtain ⟨others, hothers, h⟩ := Option.bind_eq_some_iff.1 h
    cases h
    exact List.forall_mem_cons.2 ⟨ordered_of_valueWithin hv, ordered_of_fieldsWithin hothers⟩

end

end Document

theorem ordered_of_parse? {text : String} {v : Json} (h : parse? text = some v) : Ordered v := by
  obtain ⟨d, -, hd⟩ := Option.bind_eq_some_iff.1 h
  exact Document.ordered_of_valueWithin hd

end Trials.Json
