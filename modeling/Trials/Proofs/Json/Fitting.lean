import Trials.Json.Decode
import Trials.Proofs.Json.Fields
import Trials.Proofs.Json.Written

/-!
# Values that fit a shape

What is written for a value is turned into a value again part by part: the fields of a record one
after the other (`Document.fitFields_cons`), the entries of a table all in the same way
(`Document.fit_table`).  Names that are digits are read as numbers
(`Document.numberName?_toDigits`).
-/

namespace Trials.Json

open Document

variable {depth : Nat} {shape : Shape} {v w : Json} {fields ws : List (String × Json)}

theorem document_obj (fields : List (String × Json)) :
    (Json.obj fields).document = .obj (fieldDocuments fields) := rfl

theorem document_arr (items : List Json) : (Json.arr items).document = .arr (documents items) := rfl

/-! ## Numbers -/

theorem natBelow?_nat {n bound : Nat} (h : n < bound) : (Json.nat n).natBelow? bound = some n := by
  simp [natBelow?, nat?, h]

@[simp] theorem uint32?_nat (n : UInt32) : (Json.nat n.toNat).uint32? = some n := by
  simp [uint32?, natBelow?_nat n.toNat_lt]

@[simp] theorem uint64?_nat (n : UInt64) : (Json.nat n.toNat).uint64? = some n := by
  simp [uint64?, natBelow?_nat n.toNat_lt]

namespace Document

theorem valueWithin_nat {n : Nat} (h : n ≤ Numeral.maxUnsigned) :
    valueWithin depth (Json.nat n).document = some (.nat n) := by
  simpa [document, Number.numeral, valueWithin] using number?_numeral h

theorem le_maxUnsigned {n : Nat} (h : n < UInt64.size) : n ≤ Numeral.maxUnsigned :=
  Nat.le_sub_one_of_lt h

/-- A number of 32 bits has 64 bits. -/
theorem toNat_lt_size (n : UInt32) : n.toNat < UInt64.size := n.toNat_lt.trans (by decide)

theorem fit_nat {n : Nat} (h : n < UInt64.size) :
    fit depth .any (Json.nat n).document = some (.nat n) := by
  rw [fit, valueWithin_nat (le_maxUnsigned h)]

/-! ## Texts -/

theorem fit_str (s : String) : fit depth .any (Json.str s).document = some (.str s) := by
  rw [fit, document, valueWithin, textOf?_body, Option.map_some]

/-! ## Records -/

theorem distinct_eq (h : namesDiffer (fields.map (·.1)) = true) :
    distinct fields = some (ofFields fields) := if_pos h

theorem fitFields_cons {shapes : List (String × Shape)} (name : String)
    (hshape : shapeOf? name shapes = some shape) (hv : fit depth shape v.document = some w)
    (hrest : fitFields depth shapes (fieldDocuments fields) = some ws) :
    fitFields depth shapes (fieldDocuments ((name, v) :: fields)) = some ((name, w) :: ws) := by
  simp [fieldDocuments, fitFields, hshape, hv, hrest]

/-! ## Tables -/

theorem fitTable_eq (h : ∀ f ∈ fields, fit depth shape f.2.document = some f.2) :
    fitTable depth shape (fieldDocuments fields) = some fields := by
  induction fields with
  | nil => rfl
  | cons f rest ih =>
    obtain ⟨name, v⟩ := f
    obtain ⟨hv, hrest⟩ := List.forall_mem_cons.1 h
    simp [fieldDocuments, fitTable, hv, ih hrest]

/-- A table whose names ascend fits as it is if its entries do. -/
theorem fit_table (hsorted : Sorted fields)
    (h : ∀ f ∈ fields, fit (depth - 1) shape f.2.document = some f.2) :
    fit depth (.table shape) (Json.obj fields).document = some (.obj fields) := by
  rw [document_obj, fit, fitTable_eq h, Option.map_some, ofFields_eq_of_perm hsorted (.refl _)]

/-! ## Numbered tables -/

theorem escapeChar_of_isDigit {c : Char} (h : c.isDigit = true) : escapeChar c = [c] := by
  have hrange := toNat_of_isDigit h
  unfold escapeChar
  split_ifs with hquote hbackslash hn hr ht hb hf hcontrol
  · subst hquote; cases h
  · subst hbackslash; cases h
  · subst hn; cases h
  · subst hr; cases h
  · subst ht; cases h
  · subst hb; cases h
  · subst hf; cases h
  · omega
  · rfl

/-- Digits are written as they are. -/
theorem body_repr (n : Nat) : body n.repr = Nat.toDigits 10 n := by
  have hdigits : ∀ c ∈ Nat.toDigits 10 n, escapeChar c = [c] :=
    fun _ hc => escapeChar_of_isDigit (isDigit_toDigits hc)
  rw [body, Nat.toList_repr, List.flatMap_congr hdigits, List.flatMap_singleton']

theorem numberName?_toDigits {n : Nat} (h : n ≤ Numeral.maxUnsigned) :
    numberName? (Nat.toDigits 10 n) = some n.repr := by
  have hall : (Nat.toDigits 10 n).all Char.isDigit = true :=
    List.all_eq_true.2 fun _ => isDigit_toDigits
  have hvalue : natOfDigits 0 (Nat.toDigits 10 n) = n := foldl_toDigits n
  unfold numberName?
  split
  next heq => exact absurd heq Nat.toDigits_ne_nil
  next heq => exact absurd heq (toDigits_ne_zero_cons n _ _)
  next =>
    rw [hall, hvalue, decide_eq_true h]
    rfl

theorem fitNumbered_eq {entries : List (Nat × Json)}
    (hkeys : ∀ e ∈ entries, e.1 ≤ Numeral.maxUnsigned)
    (h : ∀ e ∈ entries, fit depth shape e.2.document = some e.2) :
    fitNumbered depth shape (fieldDocuments (entries.map fun e => (e.1.repr, e.2))) =
      some (entries.map fun e => (e.1.repr, e.2)) := by
  induction entries with
  | nil => rfl
  | cons e rest ih =>
    obtain ⟨hkey, hkeys⟩ := List.forall_mem_cons.1 hkeys
    obtain ⟨hv, hrest⟩ := List.forall_mem_cons.1 h
    simp [fieldDocuments, fitNumbered, body_repr, numberName?_toDigits hkey, hv, ih hkeys hrest]

/-- A numbered table fits if its entries do; its names are put in the order of texts. -/
theorem fit_numbered {entries : List (Nat × Json)}
    (hkeys : ∀ e ∈ entries, e.1 ≤ Numeral.maxUnsigned)
    (h : ∀ e ∈ entries, fit (depth - 1) shape e.2.document = some e.2) :
    fit depth (.numbered shape) (Json.obj (entries.map fun e => (e.1.repr, e.2))).document =
      some (ofFields (entries.map fun e => (e.1.repr, e.2))) := by
  rw [document_obj, fit, fitNumbered_eq hkeys h, Option.map_some]

end Document

end Trials.Json
