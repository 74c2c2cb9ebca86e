import Trials.Script.Encode
import Trials.Script.Load
import Trials.Proofs.Except
import Trials.Proofs.Json.Fields
import Trials.Proofs.Number.Binary64

/-!
# Parts of scripts are written as they were read

Most parts of a script have one written form only: the value that such a part is written as is the
value that it was read from, if that had the right form (`Canonical`).  This holds of conditions,
run-if rules, pages, cutoffs and lists of identifiers; a criterion is different, since it may have
been an integer and is written as a double.
-/

namespace Trials

open Json

/-! ## Conditions on single values -/

namespace Schema

variable {v : Json} {fields : List (String × Json)} {names : List String} {limit n : Int}

theorem exists_obj_of_type (h : type [.object] v = []) : ∃ fields, v = .obj fields := by
  cases v with
  | obj fields => exact ⟨fields, rfl⟩
  | _ => cases h

theorem exists_arr_of_type (h : type [.array] v = []) : ∃ vs, v = .arr vs := by
  cases v with
  | arr vs => exact ⟨vs, rfl⟩
  | _ => cases h

theorem exists_str_of_id (h : id v = []) : ∃ s, v = .str s := by
  cases v with
  | str s => exact ⟨s, rfl⟩
  | _ => cases h

theorem unitsPerOne_pos : 0 < (Binary64.unitsPerOne : Int) := by
  have hpos : 0 < 1 <<< 1074 := by decide
  exact Int.natCast_pos.2 hpos

theorem minimum_int_eq_nil_iff : minimum limit (.int n) = [] ↔ limit ≤ n := by
  have hunits : n * Binary64.unitsPerOne < limit * Binary64.unitsPerOne ↔ n < limit :=
    Int.mul_lt_mul_right unitsPerOne_pos
  simp only [minimum, units, hunits, ite_eq_right_iff, List.cons_ne_nil, imp_false, Int.not_lt]

theorem mem_of_closed (h : closed names (.obj fields) = []) : ∀ f ∈ fields, f.1 ∈ names := by
  have hothers : (fields.map (·.1)).filter (fun name => !names.contains name) = [] := by
    dsimp only [closed] at h
    split at h
    · assumption
    · cases h
  intro f hf
  have hname := List.filter_eq_nil_iff.1 hothers f.1 (List.mem_map_of_mem hf)
  simpa using hname

theorem closed_eq_nil (h : ∀ f ∈ fields, f.1 ∈ names) : closed names (.obj fields) = [] := by
  have hothers : (fields.map (·.1)).filter (fun name => !names.contains name) = [] := by
    refine List.filter_eq_nil_iff.2 fun name hname => ?_
    obtain ⟨f, hf, rfl⟩ := List.mem_map.1 hname
    simpa using h f hf
  rw [closed, hothers]

theorem required_eq_nil_iff :
    required names (.obj fields) = [] ↔ ∀ name ∈ names, (lookup name fields).isSome = true := by
  simp [required, List.filter_eq_nil_iff, Option.isSome_iff_ne_none]

theorem properties_eq_nil_iff {field : String → Json → List SchemaFault} :
    properties field (.obj fields) = [] ↔ ∀ f ∈ fields, field f.1 f.2 = [] :=
  List.flatMap_eq_nil_iff

theorem items_eq_nil_iff {item : Json → List SchemaFault} {vs : List Json} :
    items item (.arr vs) = [] ↔ ∀ v ∈ vs, item v = [] :=
  List.flatMap_eq_nil_iff

/-- An object that has all fields that it may have lists them in the order of their names. -/
theorem names_of_closed {needed : List String} (hfields : Sorted fields)
    (hnames : names.Pairwise fun m n => compare m n = .lt)
    (hclosed : closed names (.obj fields) = []) (hrequired : required needed (.obj fields) = [])
    (hsub : names ⊆ needed) : fields.map (·.1) = names :=
  hfields.names_eq hnames (mem_of_closed hclosed) fun name hname =>
    required_eq_nil_iff.1 hrequired name (hsub hname)

end Schema

/-! ## Parts that have one written form -/

/-- A value of the right form is what the part that is read from it is written as. -/
def Canonical {α : Type} (faults : Json → List SchemaFault) (read : Json → Except DecodeError α)
    (toJson : α → Json) : Prop :=
  ∀ ⦃v a⦄, v.Ordered → faults v = [] → read v = .ok a → toJson a = v

/-- A part is written in the right form, and read back as it is. -/
structure Restored {α : Type} (faults : Json → List SchemaFault)
    (read : Json → Except DecodeError α) (v : Json) (a : α) : Prop where
  faults_eq : faults v = []
  read_eq : read v = .ok a

variable {α : Type} {faults : Json → List SchemaFault} {read : Json → Except DecodeError α}
  {toJson : α → Json} {v : Json} {a : α}

theorem Canonical.restored (h : Canonical faults read toJson) (hv : v.Ordered)
    (hform : faults v = []) (hread : read v = .ok a) : Restored faults read (toJson a) a := by
  rw [h hv hform hread]
  exact ⟨hform, hread⟩

theorem eq_some_of_orMalformed {x : Option α} (h : orMalformed x = .ok a) : x = some a := by
  cases x with
  | none => cases h
  | some b => exact congrArg some (Except.ok.inj h)

theorem exists_of_optionalOf {part : Option α} (hv : v ≠ .null)
    (h : optionalOf read v = .ok part) : ∃ a, part = some a ∧ read v = .ok a := by
  cases v with
  | null => exact absurd rfl hv
  | _ =>
    obtain ⟨a, ha, rfl⟩ := exists_of_map_eq_ok h
    exact ⟨a, rfl, ha⟩

theorem Canonical.restored_optional {part : Option α} (h : Canonical faults read toJson)
    (hv : v.Ordered) (hform : faults v = []) (hread : optionalOf read v = .ok part) :
    ∀ a ∈ part, Restored faults read (toJson a) a := by
  by_cases hnull : v = .null
  · subst hnull
    cases hread
    exact nofun
  · obtain ⟨a, rfl, ha⟩ := exists_of_optionalOf hnull hread
    intro b hb
    cases hb
    exact h.restored hv hform ha

theorem Restored.optionalOf_eq (h : Restored faults read v a) (hnull : faults .null ≠ []) :
    optionalOf read v = .ok (some a) := by
  cases v with
  | null => exact absurd h.faults_eq hnull
  | _ => exact congrArg (Except.map some) h.read_eq

theorem map_eq_of_forall₂ {R : Json → α → Prop} {vs : List Json} {as : List α}
    (h : ∀ v ∈ vs, ∀ a, R v a → toJson a = v) (hall : List.Forall₂ R vs as) :
    as.map toJson = vs := by
  induction hall with
  | nil => rfl
  | cons hfirst _ ih =>
    obtain ⟨hv, hothers⟩ := List.forall_mem_cons.1 h
    rw [List.map_cons, hv _ hfirst, ih hothers]

theorem Canonical.list (h : Canonical faults read toJson) :
    Canonical (fun v => Schema.items faults v ++ Schema.type [.array] v) (listOf read)
      (fun as => .arr (as.map toJson)) := by
  intro v as hv hform hread
  obtain ⟨hitems, htype⟩ := List.append_eq_nil_iff.1 hform
  obtain ⟨vs, rfl⟩ := Schema.exists_arr_of_type htype
  have hitems := Schema.items_eq_nil_iff.1 hitems
  cases hv with
  | arr hv =>
    have hall := forall₂_of_mapM_eq_ok hread
    exact congrArg Json.arr (map_eq_of_forall₂ (fun v hmem a => h (hv v hmem) (hitems v hmem)) hall)

theorem canonical_condition : Canonical Schema.condition Condition.ofJson Condition.toJson := by
  intro v c _ _ hread
  unfold Condition.ofJson at hread
  split at hread
  · split at hread
    · cases hread
      rfl
    · cases hread
  · cases hread
    rfl
  · cases hread

theorem nat_of_uint32? {n : UInt32} (h : v.uint32? = some n) : v = .nat n.toNat := by
  obtain ⟨m, hm, rfl⟩ := Option.map_eq_some_iff.1 h
  obtain ⟨k, hk, h⟩ := Option.bind_eq_some_iff.1 hm
  unfold nat? at hk
  split at hk
  · split at hk
    next i hi =>
      cases hk
      split at h
      next hlt =>
        cases h
        rw [UInt32.toNat_ofNat_of_lt' hlt, Json.nat, Int.toNat_of_nonneg hi]
      next => cases h
    next => cases hk
  · cases hk

theorem canonical_cutoff :
    Canonical (Schema.uint32 1) cutoffOf (fun cutoff => .nat cutoff.toNat) := by
  intro v cutoff _ _ hread
  unfold cutoffOf at hread
  split at hread
  · cases hread
  · exact (nat_of_uint32? (eq_some_of_orMalformed hread)).symm

theorem canonical_ids : Canonical Schema.idList idsOf (fun ids => .arr (ids.map .str)) := by
  intro v ids _ _ hread
  have hread := eq_some_of_orMalformed hread
  cases v with
  | arr vs =>
    refine congrArg Json.arr (map_eq_of_forall₂ (fun v _ s h => ?_) (forall₂_of_mapM_eq_some hread))
    cases v with
    | str t => exact congrArg Json.str (Option.some.inj h).symm
    | _ => cases h
  | _ => cases hread

theorem restored_nil : Restored Schema.idList idsOf (.arr ([].map .str)) [] := ⟨rfl, rfl⟩

/-! ## Run-if rules -/

namespace RunRule

variable {rule : RunRule} {fields : List (String × Json)}

theorem toJson_selected (hfields : Sorted fields) (hform : Schema.selectedRule (.obj fields) = [])
    (hread : ofJson (.obj fields) = .ok rule) : rule.toJson = .obj fields := by
  simp only [Schema.selectedRule, List.append_eq_nil_iff] at hform
  obtain ⟨⟨⟨hparts, hclosed⟩, hrequired⟩, -⟩ := hform
  have hnames := Schema.names_of_closed hfields (by decide) hclosed hrequired (by decide)
  obtain ⟨option, page, rfl⟩ : ∃ v w, fields = [("optionID", v), ("pageID", w)] :=
    match fields, hnames with
    | [(_, v), (_, w)], rfl => ⟨v, w, rfl⟩
  have hparts := Schema.properties_eq_nil_iff.1 hparts
  obtain ⟨option, rfl⟩ := Schema.exists_str_of_id (hparts ("optionID", option) (by simp))
  obtain ⟨page, rfl⟩ := Schema.exists_str_of_id (hparts ("pageID", page) (by simp))
  cases hread
  exact ofFields_eq_of_perm hfields (.swap _ _ _)

theorem toJson_matched (hfields : Sorted fields) (hform : Schema.matchedRule (.obj fields) = [])
    (hread : ofJson (.obj fields) = .ok rule) : rule.toJson = .obj fields := by
  simp only [Schema.matchedRule, List.append_eq_nil_iff] at hform
  obtain ⟨⟨⟨hparts, hclosed⟩, hrequired⟩, -⟩ := hform
  have hnames := Schema.names_of_closed hfields (by decide) hclosed hrequired (by decide)
  obtain ⟨page, pattern, rfl⟩ : ∃ v w, fields = [("pageID", v), ("regex", w)] :=
    match fields, hnames with
    | [(_, v), (_, w)], rfl => ⟨v, w, rfl⟩
  have hparts := Schema.properties_eq_nil_iff.1 hparts
  obtain ⟨page, rfl⟩ := Schema.exists_str_of_id (hparts ("pageID", page) (by simp))
  have hpattern : Schema.type [.string] pattern = [] := hparts ("regex", pattern) (by simp)
  cases pattern with
  | str pattern =>
    cases hread
    exact ofFields_eq_of_perm hfields (.refl _)
  | _ => cases hpattern

theorem toJson_permutation (hfields : Sorted fields)
    (hform : Schema.permutationRule (.obj fields) = []) (hread : ofJson (.obj fields) = .ok rule) :
    rule.toJson = .obj fields := by
  simp only [Schema.permutationRule, List.append_eq_nil_iff] at hform
  obtain ⟨⟨⟨-, hclosed⟩, hrequired⟩, -⟩ := hform
  have hnames := Schema.names_of_closed hfields (by decide) hclosed hrequired (by decide)
  obtain ⟨values, rfl⟩ : ∃ v, fields = [("permutation", v)] :=
    match fields, hnames with
    | [(_, v)], rfl => ⟨v, rfl⟩
  -- Neither of the other two forms fits: they need fields that are not there.
  have hpermutation : permutation? (.obj [("permutation", values)]) = some rule := by
    unfold ofJson at hread
    have hselected : selected? (.obj [("permutation", values)]) = none := rfl
    have hmatched : matched? (.obj [("permutation", values)]) = none := rfl
    rw [hselected, hmatched] at hread
    dsimp only at hread
    split at hread
    next h =>
      cases hread
      exact h
    next => cases hread
  obtain ⟨numbers, hnumbers, rfl⟩ := Option.map_eq_some_iff.1 hpermutation
  have hnumbers : listOf? uint32? values = some numbers := hnumbers
  cases values with
  | arr vs =>
    have hmap : numbers.map (fun n => .nat n.toNat) = vs :=
      map_eq_of_forall₂ (fun v _ n h => (nat_of_uint32? h).symm) (forall₂_of_mapM_eq_some hnumbers)
    rw [toJson, hmap]
    exact ofFields_eq_of_perm hfields (.refl _)
  | _ => cases hnumbers

end RunRule

theorem canonical_runIf : Canonical Schema.runIf RunRule.ofJson RunRule.toJson := by
  intro v rule hv hform hread
  have hforms : Schema.selectedRule v = [] ∨ Schema.matchedRule v = [] ∨
      Schema.permutationRule v = [] := by
    unfold Schema.runIf at hform
    split at hform
    next h => simpa [or_assoc] using h
    next => cases hform
  obtain ⟨fields, rfl⟩ : ∃ fields, v = .obj fields := by
    apply Schema.exists_obj_of_type
    obtain h | h | h := hforms <;> exact (List.append_eq_nil_iff.1 h).2
  cases hv with
  | obj hfields _ =>
    obtain hform | hform | hform := hforms
    · exact RunRule.toJson_selected hfields hform hread
    · exact RunRule.toJson_matched hfields hform hread
    · exact RunRule.toJson_permutation hfields hform hread

/-! ## Pages -/

theorem PageDecl.of_ofJson {fields : List (String × Json)} {page : PageDecl}
    (h : ofJson (.obj fields) = .ok page) :
    lookup "id" fields = some (.str page.id) ∧
      (∀ v, lookup "condition" fields = some v →
        optionalOf Condition.ofJson v = .ok page.condition) ∧
      (lookup "condition" fields = none → page.condition = none) ∧
      page.content = fields.filter fun f => f.1 ≠ "id" && f.1 ≠ "condition" := by
  have hid {id : String} (h : orMalformed (required? fields "id" str?) = .ok id) :
      lookup "id" fields = some (.str id) := by
    obtain ⟨v, hv, hstr⟩ := Option.bind_eq_some_iff.1 (eq_some_of_orMalformed h)
    cases v with
    | str s =>
      cases hstr
      exact hv
    | _ => cases hstr
  rw [ofJson] at h
  cases hlookup : lookup "condition" fields with
  | some v =>
    rw [hlookup] at h
    obtain ⟨condition, hcondition, h⟩ := exists_of_bind_eq_ok h
    obtain ⟨id, hread, h⟩ := exists_of_bind_eq_ok h
    cases h
    refine ⟨hid hread, fun w hw => ?_, nofun, rfl⟩
    cases hw
    exact hcondition
  | none =>
    rw [hlookup] at h
    obtain ⟨condition, hcondition, h⟩ := exists_of_bind_eq_ok h
    obtain ⟨id, hread, h⟩ := exists_of_bind_eq_ok h
    cases hcondition
    cases h
    exact ⟨hid hread, nofun, fun _ => rfl, rfl⟩

theorem canonical_page : Canonical Schema.page PageDecl.ofJson PageDecl.toJson := by
  intro v page hv hform hread
  simp only [Schema.page, List.append_eq_nil_iff] at hform
  obtain ⟨⟨hparts, -⟩, htype⟩ := hform
  obtain ⟨fields, rfl⟩ := Schema.exists_obj_of_type htype
  cases hv with
  | obj hfields hordered =>
    obtain ⟨hid, hsome, hnone, hcontent⟩ := PageDecl.of_ofJson hread
    have hwritten : optionalField "condition" Condition.toJson page.condition =
        (lookup "condition" fields).toList.map fun v => ("condition", v) := by
      cases hlookup : lookup "condition" fields with
      | some v =>
        have hmem := mem_of_lookup_eq_some hlookup
        have hform : Schema.condition v = [] := Schema.properties_eq_nil_iff.1 hparts _ hmem
        have hne : v ≠ .null := by
          rintro rfl
          cases hform
        obtain ⟨c, hc, hread⟩ := exists_of_optionalOf hne (hsome v hlookup)
        have hjson : c.toJson = v := canonical_condition (hordered _ hmem) hform hread
        rw [hc, ← hjson]
        rfl
      | none =>
        rw [hnone hlookup]
        rfl
    -- What is neither the identifier nor the condition is content.
    have hall := perm_lookup_append_filter "id" hfields.nodup_names
    have hothers : Sorted (fields.filter fun f => f.1 ≠ "id") := hfields.filter _
    have hrest := perm_lookup_append_filter "condition" hothers.nodup_names
    rw [lookup_filter (by simp), List.filter_filter] at hrest
    refine ofFields_eq_of_perm hfields (.trans ?_ (hall.trans (hrest.append_left _)).symm)
    rw [hid, hwritten, hcontent, List.append_assoc]
    simp [Bool.and_comm]

theorem canonical_pages : Canonical Schema.pages (listOf PageDecl.ofJson) pagesJson :=
  canonical_page.list

theorem canonical_groups :
    Canonical (fun v => Schema.items Schema.pages v ++ Schema.type [.array] v)
      (listOf (listOf PageDecl.ofJson)) (fun groups => .arr (groups.map pagesJson)) :=
  canonical_pages.list

/-! ## Criteria -/

/-- An integer that is not negative may be written as a double instead. -/
theorem Schema.minimum_toBinary64 {n : Json.Number} (h : minimum 0 (.num n) = []) :
    minimum 0 (.double n.toBinary64) = [] := by
  cases n with
  | double x => exact h
  | int i =>
    have hneg := Binary64.negative_ofInt (minimum_int_eq_nil_iff.1 h)
    simp [minimum, units, Json.Number.toBinary64, hneg]

/-! ## Fields that may be left out -/

section LeftOut

variable {name other : String} {ids : List String} {f : String × Json}

theorem names_optionalField {α : Type} (name : String) (toJson : α → Json) (part : Option α) :
    ((optionalField name toJson part).map (·.1)).Sublist [name] := by
  cases part with
  | none => exact List.nil_sublist _
  | some a => exact .refl _

theorem names_idsField (name : String) (ids : List String) :
    ((idsField name ids).map (·.1)).Sublist [name] := by
  unfold idsField
  split
  · exact List.nil_sublist _
  · exact .refl _

theorem mem_optionalField {α : Type} {toJson : α → Json} {part : Option α} :
    f ∈ optionalField name toJson part ↔ ∃ a, part = some a ∧ (name, toJson a) = f := by
  simp [optionalField]

theorem eq_of_mem_idsField (h : f ∈ idsField name ids) :
    f = (name, .arr (ids.map .str)) := by
  unfold idsField at h
  split at h
  · cases h
  · exact List.mem_singleton.1 h

theorem lookup_idsField (name : String) (ids : List String) :
    lookup name (idsField name ids) = if ids = [] then none else some (.arr (ids.map .str)) := by
  cases ids with
  | nil => rfl
  | cons id rest => simp [idsField, lookup]

theorem lookup_idsField_of_ne (h : other ≠ name) : lookup name (idsField other ids) = none := by
  cases ids with
  | nil => rfl
  | cons id rest => simp [idsField, lookup, h]

end LeftOut

end Trials
