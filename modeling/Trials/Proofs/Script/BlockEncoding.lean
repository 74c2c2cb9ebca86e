import Trials.Proofs.Script.Form

/-!
# Blocks are read back

A block that a value of the right form has been read as is written in that form, and read back as
the same block (`BlockDecl.restored_of_ofJson`).  This goes by induction over the value: whatever
the fields of a block said, its parts are in order after each of them (`BlockDecl.PartsRestored`).
A block whose parts are in order is written as its fields in ascending order
(`BlockDecl.sortedFields`), and each of them, when it is read, fills in one more part
(`BlockDecl.upTo`).
-/

namespace Trials

open Json

/-! ## Parts of blocks -/

/-- All parts of the declaration but its identifier are in order. -/
structure BlockHead.PartsRestored (h : BlockHead) : Prop where
  runIf : ∀ rule ∈ h.runIf, Restored Schema.runIf RunRule.ofJson rule.toJson rule
  criterion : ∀ x ∈ h.criterion, Schema.minimum 0 (.double x) = []
  cutoff : Restored (Schema.uint32 1) cutoffOf (.nat h.cutoff.toNat) h.cutoff
  pages : ∀ pages ∈ h.pages,
    Restored Schema.pages (listOf PageDecl.ofJson) (pagesJson pages) pages
  groups : ∀ groups ∈ h.groups,
    Restored (fun v => Schema.items Schema.pages v ++ Schema.type [.array] v)
      (listOf (listOf PageDecl.ofJson)) (.arr (groups.map pagesJson)) groups
  exchangeable :
    Restored Schema.idList idsOf (.arr (h.exchangeable.map .str)) h.exchangeable
  counterbalance :
    Restored Schema.idList idsOf (.arr (h.counterbalance.map .str)) h.counterbalance

/-- All parts of the block but its identifier are in order. -/
structure BlockDecl.PartsRestored (b : BlockDecl) : Prop where
  head : b.toBlockHead.PartsRestored
  blocks : ∀ blocks ∈ b.blocks, ∀ c ∈ blocks,
    Restored Schema.block BlockDecl.ofJson c.toJson c

namespace BlockHead

variable {h h' : BlockHead} {name : String} {v : Json}

theorem partsRestored_default : (default : BlockHead).PartsRestored where
  runIf := nofun
  criterion := nofun
  cutoff := ⟨by decide, rfl⟩
  pages := nofun
  groups := nofun
  exchangeable := restored_nil
  counterbalance := restored_nil

theorem PartsRestored.setField (hh : h.PartsRestored) (hv : v.Ordered)
    (hform : Schema.blockField name v = []) (hread : h.setField name v = .ok h') :
    h'.PartsRestored := by
  unfold BlockHead.setField at hread
  split at hread
  all_goals try obtain ⟨part, hpart, hread⟩ := exists_of_bind_eq_ok hread
  all_goals cases hread
  · exact { hh with }
  · exact { hh with runIf := canonical_runIf.restored_optional hv hform hpart }
  · refine { hh with criterion := fun x hx => ?_ }
    have hpart := eq_some_of_orMalformed hpart
    cases v with
    | num n =>
      cases hpart
      cases hx
      exact Schema.minimum_toBinary64 (List.append_eq_nil_iff.1 hform).1
    | null =>
      cases hpart
      cases hx
    | _ => cases hpart
  · exact { hh with cutoff := canonical_cutoff.restored hv hform hpart }
  · exact { hh with pages := canonical_pages.restored_optional hv hform hpart }
  · exact { hh with groups := canonical_groups.restored_optional hv hform hpart }
  · exact { hh with }
  · exact { hh with }
  · exact { hh with exchangeable := canonical_ids.restored hv hform hpart }
  · exact { hh with counterbalance := canonical_ids.restored hv hform hpart }
  · exact hh

theorem id_of_setField (hform : Schema.id v = []) (hread : h.setField "id" v = .ok h') :
    Schema.id (.str h'.id) = [] := by
  obtain ⟨s, rfl⟩ := Schema.exists_str_of_id hform
  cases hread
  exact hform

theorem id_eq_of_setField (hname : name ≠ "id") (hread : h.setField name v = .ok h') :
    h'.id = h.id := by
  unfold BlockHead.setField at hread
  split at hread
  all_goals try obtain ⟨part, -, hread⟩ := exists_of_bind_eq_ok hread
  all_goals cases hread
  · exact absurd rfl hname
  all_goals rfl

end BlockHead

/-! ## Writing blocks -/

namespace BlockDecl

variable {b c : BlockDecl} {name : String} {v : Json} {blocks : List BlockDecl}

/-- The block is written with a field. -/
inductive HasField (b : BlockDecl) : String → Json → Prop where
  | blocks {blocks : List BlockDecl} (h : b.blocks = some blocks) :
    HasField b "blocks" (.arr (listToJson blocks))
  | counterbalance : HasField b "counterbalance" (.arr (b.counterbalance.map .str))
  | criterion {x : Binary64} (h : b.criterion = some x) : HasField b "criterion" (.double x)
  | cutoff : HasField b "cutoff" (.nat b.cutoff.toNat)
  | exchangeable : HasField b "exchangeable" (.arr (b.exchangeable.map .str))
  | groups {groups : List (List PageDecl)} (h : b.groups = some groups) :
    HasField b "groups" (.arr (groups.map pagesJson))
  | id : HasField b "id" (.str b.id)
  | latinSquare : HasField b "latinSquare" (.bool b.latinSquare)
  | pages {pages : List PageDecl} (h : b.pages = some pages) :
    HasField b "pages" (pagesJson pages)
  | pseudorandom : HasField b "pseudorandom" (.bool b.pseudorandom)
  | runIf {rule : RunRule} (h : b.runIf = some rule) : HasField b "runIf" rule.toJson

/-- The fields that the block is written as, in ascending order of their names. -/
def sortedFields (b : BlockDecl) : List (String × Json) :=
  optionalField "blocks" (fun blocks => .arr (listToJson blocks)) b.blocks
    ++ idsField "counterbalance" b.counterbalance
    ++ optionalField "criterion" Json.double b.criterion
    ++ [("cutoff", .nat b.cutoff.toNat)]
    ++ idsField "exchangeable" b.exchangeable
    ++ optionalField "groups" (fun groups => .arr (groups.map pagesJson)) b.groups
    ++ [("id", .str b.id)]
    ++ [("latinSquare", .bool b.latinSquare)]
    ++ optionalField "pages" pagesJson b.pages
    ++ [("pseudorandom", .bool b.pseudorandom)]
    ++ optionalField "runIf" RunRule.toJson b.runIf

theorem names_sortedFields (b : BlockDecl) :
    (b.sortedFields.map (·.1)).Sublist Schema.blockNames := by
  simp only [sortedFields, List.map_append]
  exact ((((((((((names_optionalField _ _ _).append (names_idsField _ _)).append
    (names_optionalField _ _ _)).append (.refl _)).append (names_idsField _ _)).append
    (names_optionalField _ _ _)).append (.refl _)).append (.refl _)).append
    (names_optionalField _ _ _)).append (.refl _)).append (names_optionalField _ _ _)

theorem sorted_sortedFields (b : BlockDecl) : Sorted b.sortedFields := by
  have hnames : Schema.blockNames.Pairwise fun m n => compare m n = .lt := by decide
  exact List.pairwise_map.1 (hnames.sublist b.names_sortedFields)

theorem toJson_eq (b : BlockDecl) : b.toJson = .obj b.sortedFields := by
  have hfields : b.toJson = ofFields (optionalField "blocks"
      (fun blocks => .arr (listToJson blocks)) b.blocks ++ b.fields) := by
    obtain ⟨head, blocks | _⟩ := b <;> rw [toJson] <;> rfl
  rw [hfields]
  refine ofFields_eq_of_perm b.sorted_sortedFields ?_
  classical
  refine List.perm_iff_count.2 fun f => ?_
  simp only [BlockHead.fields, sortedFields, List.count_append, List.count_cons, List.count_nil]
  omega

theorem hasField_of_mem (h : (name, v) ∈ b.sortedFields) : b.HasField name v := by
  simp only [sortedFields, List.mem_append, List.mem_singleton, or_assoc, mem_optionalField] at h
  obtain ⟨_, h, ⟨⟩⟩ | h | ⟨_, h, ⟨⟩⟩ | ⟨⟨⟩⟩ | h | ⟨_, h, ⟨⟩⟩ | ⟨⟨⟩⟩ | ⟨⟨⟩⟩ | ⟨_, h, ⟨⟩⟩ | ⟨⟨⟩⟩ |
    ⟨_, h, ⟨⟩⟩ := h
  · exact .blocks h
  · cases eq_of_mem_idsField h
    exact .counterbalance
  · exact .criterion h
  · exact .cutoff
  · cases eq_of_mem_idsField h
    exact .exchangeable
  · exact .groups h
  · exact .id
  · exact .latinSquare
  · exact .pages h
  · exact .pseudorandom
  · exact .runIf h

/-! ## The form of blocks -/

theorem blockFields_eq_nil_iff {fields : List (String × Json)} :
    Schema.blockFields fields = [] ↔ ∀ f ∈ fields,
      (if f.1 = "blocks" then Schema.blocks f.2 else Schema.blockField f.1 f.2) = [] := by
  induction fields with
  | nil => simp [Schema.blockFields]
  | cons f rest ih =>
    obtain ⟨name, v⟩ := f
    rw [Schema.blockFields, List.append_eq_nil_iff, ih, List.forall_mem_cons]

theorem blockItems_eq_nil (h : ∀ c ∈ blocks, Restored Schema.block ofJson c.toJson c) :
    Schema.blockItems (listToJson blocks) = [] := by
  induction blocks with
  | nil => rfl
  | cons c rest ih =>
    obtain ⟨hc, hrest⟩ := List.forall_mem_cons.1 h
    rw [listToJson, Schema.blockItems, hc.faults_eq, ih hrest]
    rfl

theorem PartsRestored.field_eq_nil (h : b.PartsRestored) (hid : Schema.id (.str b.id) = [])
    (hfield : b.HasField name v) :
    (if name = "blocks" then Schema.blocks v else Schema.blockField name v) = [] := by
  cases hfield with
  | blocks hblocks => exact blockItems_eq_nil (h.blocks _ hblocks)
  | counterbalance => exact h.head.counterbalance.faults_eq
  | criterion hx => exact List.append_eq_nil_iff.2 ⟨h.head.criterion _ hx, rfl⟩
  | cutoff => exact h.head.cutoff.faults_eq
  | exchangeable => exact h.head.exchangeable.faults_eq
  | groups hgroups => exact (h.head.groups _ hgroups).faults_eq
  | id => exact hid
  | latinSquare => rfl
  | pages hpages => exact (h.head.pages _ hpages).faults_eq
  | pseudorandom => rfl
  | runIf hrule => exact (h.head.runIf _ hrule).faults_eq

theorem lookup_id (b : BlockDecl) : lookup "id" b.sortedFields = some (.str b.id) :=
  lookup_eq_some_of_mem b.sorted_sortedFields.nodup_names (by simp [sortedFields])

theorem PartsRestored.block_eq_nil (h : b.PartsRestored) (hid : Schema.id (.str b.id) = []) :
    Schema.block b.toJson = [] := by
  have hfields : Schema.blockFields b.sortedFields = [] :=
    blockFields_eq_nil_iff.2 fun f hf => h.field_eq_nil hid (hasField_of_mem hf)
  have hclosed : Schema.closed Schema.blockNames (.obj b.sortedFields) = [] :=
    Schema.closed_eq_nil fun f hf => b.names_sortedFields.subset (List.mem_map_of_mem hf)
  have hrequired : Schema.required ["id"] (.obj b.sortedFields) = [] := by
    simp [Schema.required_eq_nil_iff, lookup_id]
  rw [toJson_eq, Schema.block, hfields, hclosed, hrequired]
  rfl

/-! ## Reading blocks -/

theorem listOfJson_listToJson (h : ∀ c ∈ blocks, Restored Schema.block ofJson c.toJson c) :
    listOfJson (listToJson blocks) = .ok blocks := by
  induction blocks with
  | nil => rfl
  | cons c rest ih =>
    obtain ⟨hc, hrest⟩ := List.forall_mem_cons.1 h
    rw [listToJson, listOfJson, hc.read_eq, ih hrest]
    rfl

/-- A part of a block, if its name has come up already. -/
def partOf {α : Type} (names : List String) (name : String) (missing part : α) : α :=
  if name ∈ names then part else missing

/-- The block as far as it has been read when the fields with some names have come up. -/
def upTo (b : BlockDecl) (names : List String) : BlockDecl where
  id := partOf names "id" "" b.id
  runIf := partOf names "runIf" none b.runIf
  criterion := partOf names "criterion" none b.criterion
  cutoff := partOf names "cutoff" 1 b.cutoff
  pages := partOf names "pages" none b.pages
  groups := partOf names "groups" none b.groups
  latinSquare := partOf names "latinSquare" false b.latinSquare
  pseudorandom := partOf names "pseudorandom" false b.pseudorandom
  exchangeable := partOf names "exchangeable" [] b.exchangeable
  counterbalance := partOf names "counterbalance" [] b.counterbalance
  blocks := partOf names "blocks" none b.blocks

theorem partOf_eq {α : Type} {names : List String} {name : String} {missing part : α}
    (h : name ∈ names ∨ part = missing) : partOf names name missing part = part := by
  unfold partOf
  split
  next => rfl
  next hname => exact (h.resolve_left hname).symm

theorem upTo_nil (b : BlockDecl) : b.upTo [] = default := rfl

/-- A part that is not written is missing. -/
theorem upTo_eq {names : List String} (hnames : ∀ f ∈ b.sortedFields, f.1 ∈ names) :
    b.upTo names = b := by
  have hoption {α : Type} {name : String} {toJson : α → Json} {part : Option α}
      (h : ∀ f ∈ optionalField name toJson part, f.1 ∈ names) : name ∈ names ∨ part = none := by
    cases part with
    | none => exact .inr rfl
    | some a => exact .inl (h (name, toJson a) List.mem_cons_self)
  have hids {name : String} {ids : List String} (h : ∀ f ∈ idsField name ids, f.1 ∈ names) :
      name ∈ names ∨ ids = [] := by
    cases ids with
    | nil => exact .inr rfl
    | cons id rest => exact .inl (h _ List.mem_cons_self)
  simp only [sortedFields, List.forall_mem_append, List.forall_mem_singleton] at hnames
  obtain ⟨⟨⟨⟨⟨⟨⟨⟨⟨⟨hblocks, hcounterbalance⟩, hcriterion⟩, hcutoff⟩, hexchangeable⟩, hgroups⟩, hid⟩,
    hlatinSquare⟩, hpages⟩, hpseudorandom⟩, hrunIf⟩ := hnames
  rw [upTo, partOf_eq (hoption hblocks), partOf_eq (hids hcounterbalance),
    partOf_eq (hoption hcriterion), partOf_eq (.inl hcutoff), partOf_eq (hids hexchangeable),
    partOf_eq (hoption hgroups), partOf_eq (.inl hid), partOf_eq (.inl hlatinSquare),
    partOf_eq (hoption hpages), partOf_eq (.inl hpseudorandom), partOf_eq (hoption hrunIf)]
  cases b
  rfl

theorem readField_upTo {names : List String} (hname : name ≠ "blocks")
    (h : (b.upTo names).toBlockHead.setField name v = .ok (b.upTo (name :: names)).toBlockHead) :
    readField (b.upTo names) name v = .ok (b.upTo (name :: names)) := by
  unfold readField
  rw [if_neg hname, h, ok_bind, pure_eq_ok]
  simp [upTo, partOf, hname.symm]

namespace PartsRestored

/-- What has been read after one more of the block's own fields. -/
theorem readField_of_hasField (h : b.PartsRestored) (names : List String)
    (hfield : b.HasField name v) :
    readField (b.upTo names) name v = .ok (b.upTo (name :: names)) := by
  cases hfield with
  | blocks hblocks =>
    rw [readField, if_pos rfl, listOfJson_listToJson (h.blocks _ hblocks), ok_bind, pure_eq_ok]
    simp [upTo, partOf, hblocks]
  | counterbalance =>
    refine readField_upTo (by decide) ?_
    simp only [BlockHead.setField, h.head.counterbalance.read_eq, ok_bind, pure_eq_ok]
    simp [upTo, partOf]
  | criterion hx =>
    refine readField_upTo (by decide) ?_
    simp only [BlockHead.setField, optional?, number?, Option.map_some, orMalformed, ok_bind,
      pure_eq_ok]
    simp [upTo, partOf, hx, Json.Number.toBinary64]
  | cutoff =>
    refine readField_upTo (by decide) ?_
    simp only [BlockHead.setField, h.head.cutoff.read_eq, ok_bind, pure_eq_ok]
    simp [upTo, partOf]
  | exchangeable =>
    refine readField_upTo (by decide) ?_
    simp only [BlockHead.setField, h.head.exchangeable.read_eq, ok_bind, pure_eq_ok]
    simp [upTo, partOf]
  | groups hgroups =>
    refine readField_upTo (by decide) ?_
    simp only [BlockHead.setField,
      (h.head.groups _ hgroups).optionalOf_eq (List.cons_ne_nil _ _), ok_bind, pure_eq_ok]
    simp [upTo, partOf, hgroups]
  | id =>
    refine readField_upTo (by decide) ?_
    simp only [BlockHead.setField, str?, orMalformed, ok_bind, pure_eq_ok]
    simp [upTo, partOf]
  | latinSquare =>
    refine readField_upTo (by decide) ?_
    simp only [BlockHead.setField, bool?, orMalformed, ok_bind, pure_eq_ok]
    simp [upTo, partOf]
  | pages hpages =>
    refine readField_upTo (by decide) ?_
    simp only [BlockHead.setField,
      (h.head.pages _ hpages).optionalOf_eq (List.cons_ne_nil _ _), ok_bind, pure_eq_ok]
    simp [upTo, partOf, hpages]
  | pseudorandom =>
    refine readField_upTo (by decide) ?_
    simp only [BlockHead.setField, bool?, orMalformed, ok_bind, pure_eq_ok]
    simp [upTo, partOf]
  | runIf hrule =>
    refine readField_upTo (by decide) ?_
    simp only [BlockHead.setField,
      (h.head.runIf _ hrule).optionalOf_eq (List.cons_ne_nil _ _), ok_bind, pure_eq_ok]
    simp [upTo, partOf, hrule]

theorem readFields_of_hasField (h : b.PartsRestored) {fields : List (String × Json)}
    (hfields : ∀ f ∈ fields, b.HasField f.1 f.2) (names : List String) :
    readFields (b.upTo names) fields = .ok (b.upTo ((fields.map (·.1)).reverse ++ names)) := by
  induction fields generalizing names with
  | nil => rfl
  | cons f rest ih =>
    obtain ⟨name, v⟩ := f
    obtain ⟨hfirst, hrest⟩ := List.forall_mem_cons.1 hfields
    rw [readFields, h.readField_of_hasField names hfirst, ok_bind, ih hrest]
    simp

theorem restored (h : b.PartsRestored) (hid : Schema.id (.str b.id) = []) :
    Restored Schema.block ofJson b.toJson b where
  faults_eq := h.block_eq_nil hid
  read_eq := by
    have hread := h.readFields_of_hasField (fun f hf => hasField_of_mem hf) []
    have hall : b.upTo ((b.sortedFields.map (·.1)).reverse ++ []) = b :=
      upTo_eq fun f hf => List.mem_append_left _ (List.mem_reverse.2 (List.mem_map_of_mem hf))
    rw [upTo_nil, hall] at hread
    rw [toJson_eq, ofJson, hread, ok_bind, lookup_id]
    rfl

end PartsRestored

/-! ## What has been read is in order -/

theorem exists_setField_of_readField (hname : name ≠ "blocks") (h : readField b name v = .ok c) :
    ∃ head, b.toBlockHead.setField name v = .ok head ∧ c = { b with toBlockHead := head } := by
  unfold readField at h
  rw [if_neg hname] at h
  obtain ⟨head, hhead, h⟩ := exists_of_bind_eq_ok h
  cases h
  exact ⟨head, hhead, rfl⟩

theorem id_of_readField (hform : Schema.id v = []) (h : readField b "id" v = .ok c) :
    Schema.id (.str c.id) = [] := by
  obtain ⟨head, hhead, rfl⟩ := exists_setField_of_readField (by decide) h
  exact BlockHead.id_of_setField hform hhead

theorem id_eq_of_readField (hname : name ≠ "id") (h : readField b name v = .ok c) :
    c.id = b.id := by
  by_cases hblocks : name = "blocks"
  · subst hblocks
    unfold readField at h
    rw [if_pos rfl] at h
    split at h
    · cases h
      rfl
    · obtain ⟨blocks, -, h⟩ := exists_of_bind_eq_ok h
      cases h
      rfl
    · cases h
  · obtain ⟨head, hhead, rfl⟩ := exists_setField_of_readField hblocks h
    exact BlockHead.id_eq_of_setField hname hhead

mutual

theorem restored_of_ofJson {v : Json} {b : BlockDecl} (hv : v.Ordered)
    (hform : Schema.block v = []) (hread : ofJson v = .ok b) :
    Restored Schema.block ofJson b.toJson b := by
  match v with
  | .obj fields =>
    cases hv with
    | obj _ hfields =>
      rw [Schema.block, List.append_eq_nil_iff, List.append_eq_nil_iff] at hform
      rw [ofJson] at hread
      obtain ⟨c, hc, hread⟩ := exists_of_bind_eq_ok hread
      split at hread
      next hid =>
        cases hread
        have hdefault : PartsRestored default := ⟨BlockHead.partsRestored_default, nofun⟩
        obtain ⟨hparts, hid⟩ := restored_of_readFields hfields hform.1.1 hdefault (.inr hid) hc
        exact hparts.restored hid
      next => cases hread
  | .null | .bool _ | .num _ | .str _ | .arr _ =>
    simp [Schema.block, Schema.type, JsonType.admits] at hform

theorem restored_of_readFields {fields : List (String × Json)} {b c : BlockDecl}
    (hv : ∀ f ∈ fields, f.2.Ordered) (hform : Schema.blockFields fields = [])
    (hb : b.PartsRestored)
    (hid : Schema.id (.str b.id) = [] ∨ (lookup "id" fields).isSome = true)
    (hread : readFields b fields = .ok c) : c.PartsRestored ∧ Schema.id (.str c.id) = [] := by
  match fields with
  | [] =>
    cases hread
    exact ⟨hb, hid.resolve_right (by simp [lookup])⟩
  | (name, v) :: rest =>
    rw [Schema.blockFields, List.append_eq_nil_iff] at hform
    obtain ⟨hv, hothers⟩ := List.forall_mem_cons.1 hv
    rw [readFields] at hread
    obtain ⟨d, hd, hread⟩ := exists_of_bind_eq_ok hread
    have hparts := restored_of_readField hv hform.1 hb hd
    refine restored_of_readFields hothers hform.2 hparts ?_ hread
    by_cases hname : name = "id"
    · subst hname
      exact .inl (id_of_readField hform.1 hd)
    · rw [id_eq_of_readField hname hd]
      exact hid.imp_right fun h => by simpa [lookup, hname] using h

theorem restored_of_readField {v : Json} {name : String} {b c : BlockDecl} (hv : v.Ordered)
    (hform : (if name = "blocks" then Schema.blocks v else Schema.blockField name v) = [])
    (hb : b.PartsRestored) (hread : readField b name v = .ok c) : c.PartsRestored := by
  by_cases hname : name = "blocks"
  · subst hname
    rw [if_pos rfl] at hform
    match v with
    | .arr vs =>
      cases hv with
      | arr hv =>
        rw [Schema.blocks] at hform
        rw [readField, if_pos rfl] at hread
        obtain ⟨blocks, hblocks, hread⟩ := exists_of_bind_eq_ok hread
        cases hread
        have hall := restored_of_listOfJson hv hform hblocks
        exact ⟨hb.head, fun bs hbs => Option.mem_some.1 hbs ▸ hall⟩
    | .null | .bool _ | .num _ | .str _ | .obj _ => cases hform
  · rw [if_neg hname] at hform
    obtain ⟨head, hhead, rfl⟩ := exists_setField_of_readField hname hread
    exact ⟨hb.head.setField hv hform hhead, hb.blocks⟩

theorem restored_of_listOfJson {vs : List Json} {blocks : List BlockDecl}
    (hv : ∀ v ∈ vs, v.Ordered) (hform : Schema.blockItems vs = [])
    (hread : listOfJson vs = .ok blocks) :
    ∀ c ∈ blocks, Restored Schema.block ofJson c.toJson c := by
  match vs with
  | [] =>
    cases hread
    exact nofun
  | v :: rest =>
    rw [Schema.blockItems, List.append_eq_nil_iff] at hform
    obtain ⟨hv, hothers⟩ := List.forall_mem_cons.1 hv
    rw [listOfJson] at hread
    obtain ⟨b, hb, hread⟩ := exists_of_bind_eq_ok hread
    obtain ⟨bs, hbs, hread⟩ := exists_of_bind_eq_ok hread
    cases hread
    exact List.forall_mem_cons.2
      ⟨restored_of_ofJson hv hform.1 hb, restored_of_listOfJson hothers hform.2 hbs⟩

end

end BlockDecl

end Trials
