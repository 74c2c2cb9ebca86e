import Trials.Proofs.Script.BlockEncoding

/-!
# Scripts are read back

A script that has been read from a text is written as a value of the form that scripts must have,
and this value is read as the same script again (`Script.restored_of_parse`): what a text leaves out
or says in another way makes no difference after it has been read.
-/

namespace Trials

open Json

namespace Script

variable {s : Script} {v : Json} {fields : List (String × Json)} {ids : List String}
  {name : String}

/-- All parts of the script are in order. -/
structure PartsRestored (s : Script) : Prop where
  blocks : ∀ b ∈ s.blocks, Restored Schema.block BlockDecl.ofJson b.toJson b
  exchangeable : Restored Schema.idList idsOf (.arr (s.exchangeable.map .str)) s.exchangeable
  counterbalance : Restored Schema.idList idsOf (.arr (s.counterbalance.map .str)) s.counterbalance

/-- The identifiers that a field lists; none if it is missing. -/
def idsIn (fields : List (String × Json)) (name : String) : Except DecodeError (List String) :=
  orMalformed (withDefault? fields name [] (listOf? str?))

theorem ofJson_eq_ok_iff : ofJson (.obj fields) = .ok s ↔
    (∃ v, lookup "blocks" fields = some v ∧ blocksOf v = .ok s.blocks) ∧
      idsIn fields "counterbalance" = .ok s.counterbalance ∧
      idsIn fields "exchangeable" = .ok s.exchangeable := by
  rw [ofJson, recordFields, orMalformed, ok_bind]
  constructor
  · intro h
    split at h
    next v hv =>
      obtain ⟨blocks, hblocks, h⟩ := exists_of_bind_eq_ok h
      obtain ⟨counterbalance, hcounterbalance, h⟩ := exists_of_bind_eq_ok h
      obtain ⟨exchangeable, hexchangeable, h⟩ := exists_of_bind_eq_ok h
      cases h
      exact ⟨⟨v, hv, hblocks⟩, hcounterbalance, hexchangeable⟩
    next =>
      obtain ⟨blocks, hblocks, -⟩ := exists_of_bind_eq_ok h
      cases hblocks
  · rintro ⟨⟨v, hv, hblocks⟩, hcounterbalance, hexchangeable⟩
    simp only [idsIn] at hcounterbalance hexchangeable
    simp only [hv, hblocks, hcounterbalance, hexchangeable, ok_bind, pure_eq_ok]

/-! ## Reading -/

theorem restored_of_idsIn (hfields : ∀ f ∈ fields, f.2.Ordered)
    (hform : ∀ v, (name, v) ∈ fields → Schema.idList v = []) (hread : idsIn fields name = .ok ids) :
    Restored Schema.idList idsOf (.arr (ids.map .str)) ids := by
  unfold idsIn withDefault? at hread
  split at hread
  · cases hread
    exact restored_nil
  next v hv =>
    have hmem := mem_of_lookup_eq_some hv
    exact canonical_ids.restored (hfields _ hmem) (hform v hmem) hread

theorem partsRestored_of_ofJson (hv : v.Ordered) (hform : Schema.script v = [])
    (hread : ofJson v = .ok s) : s.PartsRestored := by
  simp only [Schema.script, List.append_eq_nil_iff] at hform
  obtain ⟨⟨hparts, -⟩, htype⟩ := hform
  obtain ⟨fields, rfl⟩ := Schema.exists_obj_of_type htype
  have hparts := Schema.properties_eq_nil_iff.1 hparts
  obtain ⟨⟨v, hlookup, hblocks⟩, hcounterbalance, hexchangeable⟩ := ofJson_eq_ok_iff.1 hread
  have hmem := mem_of_lookup_eq_some hlookup
  have hform : Schema.blocks v = [] := hparts _ hmem
  cases hv with
  | obj _ hfields =>
    refine ⟨?_, restored_of_idsIn hfields (fun v => hparts ("exchangeable", v)) hexchangeable,
      restored_of_idsIn hfields (fun v => hparts ("counterbalance", v)) hcounterbalance⟩
    have hv := hfields _ hmem
    cases v with
    | arr vs =>
      cases hv with
      | arr hv =>
        rw [Schema.blocks] at hform
        exact BlockDecl.restored_of_listOfJson hv hform hblocks
    | _ => cases hblocks

/-! ## Writing -/

/-- The fields that the script is written with. -/
def writtenFields (s : Script) : List (String × Json) :=
  [("blocks", .arr (BlockDecl.listToJson s.blocks))] ++ idsField "exchangeable" s.exchangeable
    ++ idsField "counterbalance" s.counterbalance

theorem toJson_eq (s : Script) : s.toJson = .obj (insertAll [] s.writtenFields) := rfl

theorem nodup_names_writtenFields (s : Script) : (s.writtenFields.map (·.1)).Nodup := by
  have hnames : ["blocks", "exchangeable", "counterbalance"].Nodup := by decide
  refine hnames.sublist ?_
  simp only [writtenFields, List.map_append]
  exact ((List.Sublist.refl _).append (names_idsField _ _)).append (names_idsField _ _)

theorem lookup_blocks (s : Script) : lookup "blocks" (insertAll [] s.writtenFields) =
    some (.arr (BlockDecl.listToJson s.blocks)) :=
  lookup_insertAll _ s.nodup_names_writtenFields

theorem idsIn_eq (h : Restored Schema.idList idsOf (.arr (ids.map .str)) ids)
    (hlookup : lookup name fields = if ids = [] then none else some (.arr (ids.map .str))) :
    idsIn fields name = .ok ids := by
  unfold idsIn withDefault?
  rw [hlookup]
  by_cases hnil : ids = []
  · rw [if_pos hnil, hnil]
    rfl
  · rw [if_neg hnil]
    exact h.read_eq

namespace PartsRestored

theorem ofJson_eq (h : s.PartsRestored) : ofJson s.toJson = .ok s := by
  rw [toJson_eq, ofJson_eq_ok_iff]
  have hblocks : blocksOf (.arr (BlockDecl.listToJson s.blocks)) = .ok s.blocks :=
    BlockDecl.listOfJson_listToJson h.blocks
  refine ⟨⟨_, s.lookup_blocks, hblocks⟩, idsIn_eq h.counterbalance ?_, idsIn_eq h.exchangeable ?_⟩
  · rw [lookup_insertAll _ s.nodup_names_writtenFields, writtenFields, lookup_append, lookup_append,
      lookup_idsField_of_ne (by decide), lookup_idsField]
    rfl
  · rw [lookup_insertAll _ s.nodup_names_writtenFields, writtenFields, lookup_append, lookup_append,
      lookup_idsField, lookup_idsField_of_ne (by decide), Option.or_none]
    rfl

theorem script_eq_nil (h : s.PartsRestored) : Schema.script s.toJson = [] := by
  have hform {name : String} {v : Json} (hmem : (name, v) ∈ s.writtenFields) :
      (if name = "blocks" then Schema.blocks
        else if name = "counterbalance" ∨ name = "exchangeable" then Schema.idList
        else fun _ => []) v = [] := by
    simp only [writtenFields, List.mem_append, List.mem_singleton] at hmem
    obtain (⟨⟨⟩⟩ | hmem) | hmem := hmem
    · exact BlockDecl.blockItems_eq_nil h.blocks
    · cases eq_of_mem_idsField hmem
      exact h.exchangeable.faults_eq
    · cases eq_of_mem_idsField hmem
      exact h.counterbalance.faults_eq
  rw [toJson_eq, Schema.script, List.append_eq_nil_iff, List.append_eq_nil_iff]
  refine ⟨⟨Schema.properties_eq_nil_iff.2 fun f hf => ?_, ?_⟩, rfl⟩
  · exact hform ((mem_insertAll hf).resolve_left (List.not_mem_nil))
  · simp [Schema.required_eq_nil_iff, s.lookup_blocks]

end PartsRestored

theorem check_eq_ok_iff : check v = .ok s ↔
    Schema.script v = [] ∧ ofJson v = .ok s ∧ s.violations = [] := by
  unfold check
  constructor
  · intro h
    split at h
    next hform =>
      split at h
      next => cases h
      next hread =>
        split at h
        next hrules =>
          cases h
          exact ⟨hform, hread, hrules⟩
        next => cases h
    next => cases h
  · rintro ⟨hform, hread, hrules⟩
    simp only [hform, hread, hrules]

/-- What has been read from a text is written in the right form, read back as it is, and then breaks
no rule either. -/
theorem restored_of_parse {text : String} {s : Script} (h : parse text = .ok s) :
    Schema.script s.toJson = [] ∧ ofJson s.toJson = .ok s ∧ s.violations = [] := by
  unfold parse at h
  split at h
  next => cases h
  next v hv =>
    obtain ⟨hform, hread, hrules⟩ := check_eq_ok_iff.1 (eq_ok_of_mapError_eq_ok h)
    have hparts := partsRestored_of_ofJson (ordered_of_parse? hv) hform hread
    exact ⟨hparts.script_eq_nil, hparts.ofJson_eq, hrules⟩

/-- A script that leaves out what it can, and gives a criterion as an integer. -/
def quickText : String :=
  "\x7b\"blocks\":[\x7b\"id\":\"quick\",\"criterion\":2,\"pages\":"
    ++ "[\x7b\"id\":\"a\",\"condition\":1,\"shown\":\x7b\"text\":[\"?\",null]\x7d\x7d]\x7d,"
    ++ "\x7b\"id\":\"more\",\"runIf\":\x7b\"optionID\":\"yes\",\"pageID\":\"a\"\x7d,"
    ++ "\"pages\":[\x7b\"id\":\"b\"\x7d]\x7d]\x7d"

/-- What a block says about when and how often it runs. -/
def quickBlocks : List (String × Option Binary64 × UInt32 × Option RunRule) :=
  [("quick", some (.ofNat 2), 1, none), ("more", none, 1, some (.selected "a" "yes"))]

theorem quickText_restored : ∃ s, parse quickText = .ok s ∧
    (s.blocks.map fun b => (b.id, b.criterion, b.cutoff, b.runIf)) = quickBlocks ∧
    Schema.script s.toJson = [] ∧ ofJson s.toJson = .ok s ∧ s.violations = [] := by
  have hread : ((parse quickText).toOption.map fun s =>
      s.blocks.map fun b => (b.id, b.criterion, b.cutoff, b.runIf)) = some quickBlocks := by
    decide +kernel
  obtain ⟨s, hs, hblocks⟩ := Option.map_eq_some_iff.1 hread
  have hs := eq_ok_of_toOption_eq_some hs
  exact ⟨s, hs, hblocks, restored_of_parse hs⟩

end Script

end Trials
