import Trials.Proofs.Except
import Trials.Proofs.Json.Fitting
import Trials.Proofs.Simulation.Table
import Trials.Simulation.Result

/-!
# Written simulations

A summary is read back from its text (`SimulationSummary.read_pretty`), whatever identifiers it
counts: its tables are written in the order of their keys, and although slots are put in the order
of their texts when they are read, the table that they are put into orders them as numbers again.
Of a result, the rate of correct answers and the duration are doubles.  A double below `10 ^ 15` is
read as some number (`exists_fit_double`), so that a result is read back but for these two
(`SimulationResult.exists_parse?_text`).
-/

namespace Trials

open Json Json.Document

variable {depth : Nat}

namespace Table

variable {κ ν : Type} [Ord κ] [Std.TransOrd κ] [Std.LawfulEqOrd κ]

/-- A table is read back from its entries, in whatever order they have been written. -/
theorem Ascending.ofList_mapM {α : Type} {t : Table κ ν} {read : α → Option (κ × ν)}
    {fields fields' : List α} (h : t.Ascending)
    (hread : List.Forall₂ (fun f e => read f = some e) fields t) (hperm : fields'.Perm fields) :
    ((fields'.mapM read).bind fun entries => some (ofList entries)) = some t := by
  obtain ⟨entries, hentries, hsame⟩ := List.perm_comp_forall₂ hperm hread
  rw [mapM_eq_some_of_forall₂ hentries, Option.bind_some, h.ofList_eq hsame]

end Table

/-! ## Counts -/

variable {counts : Table String Nat}

theorem sorted_map {ν : Type} {t : Table String ν} (h : t.Ascending) (value : ν → Json) :
    Json.Sorted (t.map fun e => (e.1, value e.2)) := List.pairwise_map.2 h

theorem fit_countsJson (h : counts.Ascending) (hsize : ∀ n ∈ counts, n.2 < UInt64.size) :
    fit depth (.table .any) (countsJson counts).document = some (countsJson counts) := by
  refine fit_table (sorted_map h Json.nat) (List.forall_mem_map.2 fun n hn => ?_)
  exact fit_nat (hsize n hn)

theorem counts?_countsJson (h : counts.Ascending) (hsize : ∀ n ∈ counts, n.2 < UInt64.size) :
    counts? (countsJson counts) = some counts := by
  refine h.ofList_mapM ?_ (.refl _)
  refine List.forall₂_map_left_iff.2 (List.forall₂_same.2 fun n hn => ?_)
  rw [natBelow?_nat (hsize n hn)]
  rfl

theorem slot?_repr {n : Nat} (h : n < UInt64.size) : slot? n.repr = some n := by
  have hvalue : natOfDigits 0 (Nat.toDigits 10 n) = n := foldl_toDigits n
  rw [slot?, Nat.toList_repr, numberName?_toDigits (le_maxUnsigned h), Option.map_some, hvalue]

/-! ## Summaries -/

namespace SimulationSummary

variable {s : SimulationSummary}

/-- The tables of the summary are in order, and all its numbers have 64 bits. -/
structure Representable (s : SimulationSummary) : Prop where
  participants : s.participants < UInt64.size
  completed : s.completed < UInt64.size
  pagesShown : s.pagesShown < UInt64.size
  slots : s.slots.Sorted
  slot_lt : ∀ e ∈ s.slots, e.1 < UInt64.size
  slotCount_lt : ∀ e ∈ s.slots, ∀ n ∈ e.2, n.2 < UInt64.size
  firstPages : s.firstPages.Sorted
  firstCount_lt : ∀ e ∈ s.firstPages, ∀ n ∈ e.2, n.2 < UInt64.size

/-- The tallies by slot as fields. -/
def slotFields (s : SimulationSummary) : List (String × Json) :=
  s.slots.map fun e => (e.1.repr, countsJson e.2)

/-- The tallies by block as fields. -/
def firstFields (s : SimulationSummary) : List (String × Json) :=
  s.firstPages.map fun e => (e.1, countsJson e.2)

/-- The fields that are read from a written summary: the slots are in the order of their texts. -/
def readFields (s : SimulationSummary) : List (String × Json) :=
  [("participants", .nat s.participants), ("completed", .nat s.completed),
    ("pages_shown", .nat s.pagesShown), ("slots", ofFields s.slotFields),
    ("first_pages", .obj s.firstFields)]

theorem fit_slots (h : s.Representable) :
    fit depth (.numbered (.table .any)) (Json.obj s.slotFields).document =
      some (ofFields s.slotFields) := by
  have hentries : s.slotFields =
      (s.slots.map fun e => (e.1, countsJson e.2)).map fun e => (e.1.repr, e.2) := by
    rw [slotFields, List.map_map]
    rfl
  rw [hentries]
  refine fit_numbered (List.forall_mem_map.2 fun e he => le_maxUnsigned (h.slot_lt e he))
    (List.forall_mem_map.2 fun e he => ?_)
  exact fit_countsJson (h.slots.inner e he) (h.slotCount_lt e he)

theorem fit_firstPages (h : s.Representable) :
    fit depth (.table (.table .any)) (Json.obj s.firstFields).document =
      some (.obj s.firstFields) := by
  refine fit_table (sorted_map h.firstPages.outer countsJson) (List.forall_mem_map.2 fun e he => ?_)
  exact fit_countsJson (h.firstPages.inner e he) (h.firstCount_lt e he)

theorem fit_document (h : s.Representable) :
    fit depth shape s.toJson.document = some (ofFields s.readFields) := by
  rw [toJson, document_obj, shape, fit]
  refine Option.bind_eq_some_iff.2 ⟨s.readFields, ?_, distinct_eq rfl⟩
  refine fitFields_cons "participants" rfl (fit_nat h.participants) ?_
  refine fitFields_cons "completed" rfl (fit_nat h.completed) ?_
  refine fitFields_cons "pages_shown" rfl (fit_nat h.pagesShown) ?_
  refine fitFields_cons "slots" rfl (fit_slots h) ?_
  refine fitFields_cons "first_pages" rfl (fit_firstPages h) ?_
  rw [fieldDocuments, fitFields]

theorem nodup_names_slotFields (h : s.Representable) : (s.slotFields.map (·.1)).Nodup := by
  have hkeys : s.slotFields.map (·.1) = s.slots.keys.map Nat.repr := by
    rw [slotFields, Table.keys, List.map_map, List.map_map]
    rfl
  rw [hkeys]
  refine List.Nodup.map_on (fun m hm n hn heq => ?_) h.slots.outer.nodup_keys
  obtain ⟨e, he, rfl⟩ := List.mem_map.1 hm
  obtain ⟨e', he', rfl⟩ := List.mem_map.1 hn
  have hslot := slot?_repr (h.slot_lt e he)
  rw [heq, slot?_repr (h.slot_lt e' he')] at hslot
  exact (Option.some.inj hslot).symm

theorem slots?_ofFields (h : s.Representable) : slots? (ofFields s.slotFields) = some s.slots := by
  rw [ofFields_eq]
  have hperm : (insertAll [] s.slotFields).Perm s.slotFields :=
    insertAll_perm (nodup_names_slotFields h)
  refine h.slots.outer.ofList_mapM ?_ hperm
  refine List.forall₂_map_left_iff.2 (List.forall₂_same.2 fun e he => ?_)
  rw [slot?_repr (h.slot_lt e he), counts?_countsJson (h.slots.inner e he) (h.slotCount_lt e he)]
  rfl

theorem firstPages?_obj (h : s.Representable) :
    firstPages? (.obj s.firstFields) = some s.firstPages := by
  refine h.firstPages.outer.ofList_mapM ?_ (.refl _)
  refine List.forall₂_map_left_iff.2 (List.forall₂_same.2 fun e he => ?_)
  rw [counts?_countsJson (h.firstPages.inner e he) (h.firstCount_lt e he)]
  rfl

theorem ofJson?_ofFields (h : s.Representable) : ofJson? (ofFields s.readFields) = some s := by
  have hnodup : (s.readFields.map (·.1)).Nodup := by simp [readFields]
  have hlookup (name : String) := lookup_insertAll name hnodup
  rw [ofFields_eq, ofJson?]
  simp only [allFields, Option.bind_eq_bind, Option.bind_some, required?, hlookup]
  simp [readFields, lookup, natBelow?_nat, h.participants, h.completed, h.pagesShown,
    slots?_ofFields h, firstPages?_obj h]

theorem writable_toJson (s : SimulationSummary) : Writable s.toJson := by
  have hcounts (counts : Table String Nat) : Writable (countsJson counts) :=
    .obj (List.forall_mem_map.2 fun n _ => .nat n.2)
  have hslots : Writable (.obj s.slotFields) :=
    .obj (List.forall_mem_map.2 fun e _ => hcounts e.2)
  have hfirst : Writable (.obj s.firstFields) :=
    .obj (List.forall_mem_map.2 fun e _ => hcounts e.2)
  refine .obj ?_
  simp only [List.forall_mem_cons]
  exact ⟨.nat _, .nat _, .nat _, hslots, hfirst, List.forall_mem_nil _⟩

/-- A summary is read back from its text. -/
theorem read_pretty (h : s.Representable) :
    (parseAs? shape s.toJson.pretty).bind ofJson? = some s := by
  have hread := read?_pretty s.writable_toJson "" rfl
  rw [String.append_empty] at hread
  rw [parseAs?, hread, Option.bind_some, fit_document h, Option.bind_some, ofJson?_ofFields h]

end SimulationSummary

/-! ## Numbers with a fraction -/

/-- A double below `10 ^ 15` is read as some number. -/
theorem exists_fit_double {x : Binary64} (hfinite : x.isFinite = true)
    (h : x.units < 10 ^ 15 * Binary64.unitsPerOne) (depth : Nat) :
    ∃ m : Number, fit depth .any (finiteOrNull x).document = some (.num m) := by
  obtain ⟨m, hm⟩ := exists_number?_doubleNumeral h
  refine ⟨m, ?_⟩
  rw [finiteOrNull, if_pos hfinite, fit, document, Number.numeral, valueWithin, hm]
  rfl

theorem writable_finiteOrNull (x : Binary64) : Writable (finiteOrNull x) := by
  unfold finiteOrNull
  split
  · exact .double x
  · exact .null

/-! ## Pools -/

namespace SimulationConfig

variable {c : SimulationConfig}

/-- The numbers of the pool have 64 bits. -/
structure Representable (c : SimulationConfig) : Prop where
  window : c.window < UInt64.size
  maxPages : ∀ pages, c.maxPages = some pages → pages < UInt64.size

/-- The fields that are read from a written pool. -/
def readFields (c : SimulationConfig) (rate : Number) : List (String × Json) :=
  [("participants", .nat c.participants.toNat), ("versions", .nat c.versions.toNat),
    ("permutations", .nat c.permutations.toNat), ("seed", .nat c.seed.toNat),
    ("correct_rate", .num rate), ("repair_window", .nat c.window),
    ("max_pages", natOrNull c.maxPages)]

theorem fit_natOrNull {n : Option Nat} (h : ∀ m, n = some m → m < UInt64.size) :
    fit depth .any (natOrNull n).document = some (natOrNull n) := by
  cases n with
  | none => rfl
  | some m => exact fit_nat (h m rfl)

theorem exists_fit_document (h : c.Representable) (hrate : c.correctRate.isProbability = true)
    (depth : Nat) : ∃ rate : Number,
      fit depth shape c.toJson.document = some (ofFields (c.readFields rate)) := by
  obtain ⟨hfinite, hunits⟩ := Binary64.units_le_of_isProbability hrate
  have hbound : c.correctRate.units < 10 ^ 15 * Binary64.unitsPerOne := by
    have hpos := Binary64.unitsPerOne_pos
    omega
  obtain ⟨rate, hrate⟩ := exists_fit_double hfinite hbound (depth - 1)
  refine ⟨rate, ?_⟩
  rw [toJson, document_obj, shape, fit]
  refine Option.bind_eq_some_iff.2 ⟨c.readFields rate, ?_, distinct_eq rfl⟩
  refine fitFields_cons "participants" rfl (fit_nat (toNat_lt_size _)) ?_
  refine fitFields_cons "versions" rfl (fit_nat (toNat_lt_size _)) ?_
  refine fitFields_cons "permutations" rfl (fit_nat (toNat_lt_size _)) ?_
  refine fitFields_cons "seed" rfl (fit_nat c.seed.toNat_lt) ?_
  refine fitFields_cons "correct_rate" rfl hrate ?_
  refine fitFields_cons "repair_window" rfl (fit_nat h.window) ?_
  refine fitFields_cons "max_pages" rfl (fit_natOrNull h.maxPages) ?_
  rw [fieldDocuments, fitFields]

theorem ofJson?_ofFields (h : c.Representable) (rate : Number) :
    ofJson? (ofFields (c.readFields rate)) = some { c with correctRate := rate.toBinary64 } := by
  have hnodup : ((c.readFields rate).map (·.1)).Nodup := by simp [readFields]
  have hlookup (name : String) := lookup_insertAll name hnodup
  have hpages : optionalField? (insertAll [] (c.readFields rate)) "max_pages"
      (natBelow? UInt64.size) = some c.maxPages := by
    rw [optionalField?, withDefault?, hlookup]
    cases hmax : c.maxPages with
    | none => simp [readFields, lookup, hmax, natOrNull, optional?]
    | some pages =>
      simp [readFields, lookup, hmax, natOrNull, optional?, natBelow?_nat (h.maxPages pages hmax)]
  rw [ofFields_eq, ofJson?]
  simp only [allFields, Option.bind_eq_bind, Option.bind_some, required?, hlookup, hpages]
  simp [readFields, lookup, number?, natBelow?_nat h.window]

theorem writable_toJson (c : SimulationConfig) : Writable c.toJson := by
  have hpages : Writable (natOrNull c.maxPages) := by
    cases c.maxPages with
    | none => exact .null
    | some pages => exact .nat _
  refine .obj ?_
  simp only [List.forall_mem_cons]
  exact ⟨.nat _, .nat _, .nat _, .nat _, writable_finiteOrNull _, .nat _, hpages,
    List.forall_mem_nil _⟩

end SimulationConfig

/-! ## Results -/

namespace SimulationResult

variable {r : SimulationResult}

/-- The numbers of the result have 64 bits, the rate of correct answers is a probability, and the
duration is below `10 ^ 15` seconds. -/
structure Representable (r : SimulationResult) : Prop where
  config : r.config.Representable
  rate : r.config.correctRate.isProbability = true
  finite : r.duration.isFinite = true
  duration : r.duration.units < 10 ^ 15 * Binary64.unitsPerOne
  summary : r.summary.Representable

/-- The fields that are read from a written result. -/
def readFields (r : SimulationResult) (rate duration : Number) : List (String × Json) :=
  [("script", .str r.script), ("config", ofFields (r.config.readFields rate)),
    ("start_time", .str r.startTime), ("end_time", .str r.endTime),
    ("duration_secs", .num duration), ("summary", ofFields r.summary.readFields)]

theorem exists_fit_document (h : r.Representable) (depth : Nat) : ∃ rate duration : Number,
    fit depth shape r.toJson.document = some (ofFields (r.readFields rate duration)) := by
  obtain ⟨rate, hrate⟩ := SimulationConfig.exists_fit_document h.config h.rate (depth - 1)
  obtain ⟨duration, hduration⟩ := exists_fit_double h.finite h.duration (depth - 1)
  refine ⟨rate, duration, ?_⟩
  rw [toJson, document_obj, shape, fit]
  refine Option.bind_eq_some_iff.2 ⟨r.readFields rate duration, ?_, distinct_eq rfl⟩
  refine fitFields_cons "script" rfl (fit_str _) ?_
  refine fitFields_cons "config" rfl hrate ?_
  refine fitFields_cons "start_time" rfl (fit_str _) ?_
  refine fitFields_cons "end_time" rfl (fit_str _) ?_
  refine fitFields_cons "duration_secs" rfl hduration ?_
  refine fitFields_cons "summary" rfl (SimulationSummary.fit_document h.summary) ?_
  rw [fieldDocuments, fitFields]

theorem ofJson?_ofFields (h : r.Representable) (rate duration : Number) :
    ofJson? (ofFields (r.readFields rate duration)) = some { r with
      config := { r.config with correctRate := rate.toBinary64 }
      duration := duration.toBinary64 } := by
  have hnodup : ((r.readFields rate duration).map (·.1)).Nodup := by simp [readFields]
  have hlookup (name : String) := lookup_insertAll name hnodup
  rw [ofFields_eq, ofJson?]
  simp only [allFields, Option.bind_eq_bind, Option.bind_some, required?, hlookup]
  simp [readFields, lookup, number?, str?, SimulationConfig.ofJson?_ofFields h.config,
    SimulationSummary.ofJson?_ofFields h.summary]

theorem writable_toJson (r : SimulationResult) : Writable r.toJson := by
  refine .obj ?_
  simp only [List.forall_mem_cons]
  exact ⟨.str _, r.config.writable_toJson, .str _, .str _, writable_finiteOrNull _,
    r.summary.writable_toJson, List.forall_mem_nil _⟩

/-- A result is read back from its text, except that the reader may round the rate of correct
answers and the duration in another way. -/
theorem exists_parse?_text (h : r.Representable) : ∃ rate duration : Number,
    parse? r.text = some { r with
      config := { r.config with correctRate := rate.toBinary64 }
      duration := duration.toBinary64 } := by
  obtain ⟨rate, duration, hfit⟩ := exists_fit_document h maxDepth
  refine ⟨rate, duration, ?_⟩
  rw [parse?, text, parseAs?, read?_pretty r.writable_toJson _ rfl, Option.bind_some, hfit,
    Option.bind_some, ofJson?_ofFields h]

end SimulationResult

end Trials
