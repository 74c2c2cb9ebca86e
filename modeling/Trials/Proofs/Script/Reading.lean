import Trials.Proofs.Script.Encoding

/-!
# What the form of a script lets pass

The form of a script is judged by the value of a number, but a reader looks at how it is written: an
integer that is written as a double, such as `1.0`, has the right form, and cannot be read.  Nothing
else stands between the form and the reader.  A value of the right form is read as a script just if
none of its cutoffs, of the items of its rules about permutations, and of the conditions of its pages
is written as a double (`Script.reads_iff_not_fractional`).

This is shown part by part: `FailsJustIf` says when a reader fails, and that what it then reports is
a number, a rule or a condition, and never a part that is missing or of another type.
-/

namespace Trials

open Json

/-! ## Doubles in the place of integers -/

namespace Schema

/-- A condition of a page is written as a double. -/
def FractionalPage (v : Json) : Prop := ∃ x, v.field? "condition" = some (.double x)

/-- A list has a page whose condition is written as a double. -/
def FractionalPages (v : Json) : Prop := ∃ pages, v = .arr pages ∧ ∃ p ∈ pages, FractionalPage p

/-- A permutation in a rule is written as a double. -/
def FractionalRule (v : Json) : Prop :=
  ∃ values, v.field? "permutation" = some (.arr values) ∧ ∃ x, .double x ∈ values

/-- A field of a block, other than the blocks inside it, has a double in the place of an integer. -/
def FractionalField (name : String) (v : Json) : Prop :=
  match name with
  | "cutoff" => ∃ x, v = .double x
  | "runIf" => FractionalRule v
  | "pages" => FractionalPages v
  | "groups" => ∃ groups, v = .arr groups ∧ ∃ pages ∈ groups, FractionalPages pages
  | _ => False

/-- A block has, at any depth, a double in the place of an integer. -/
inductive FractionalBlock : Json → Prop
  | field {b v : Json} {name : String} (h : b.field? name = some v) (hv : FractionalField name v) :
    FractionalBlock b
  | inner {b c : Json} {blocks : List Json} (h : b.field? "blocks" = some (.arr blocks))
    (hc : c ∈ blocks) (hinner : FractionalBlock c) : FractionalBlock b

/-- A script has a double in the place of an integer. -/
def FractionalScript (v : Json) : Prop :=
  ∃ blocks, v.field? "blocks" = some (.arr blocks) ∧ ∃ b ∈ blocks, FractionalBlock b

end Schema

/-! ## When a reader fails -/

/-- The reader fails just if something holds, and not because a part is malformed. -/
inductive FailsJustIf {α : Type} (P : Prop) : Except DecodeError α → Prop
  | ok (a : α) (h : ¬P) : FailsJustIf P (.ok a)
  | error (cause : DecodeError) (h : P) (hcause : cause ≠ .malformed) : FailsJustIf P (.error cause)

namespace FailsJustIf

variable {α β : Type} {P Q : Prop} {x : Except DecodeError α}

theorem never (a : α) : FailsJustIf False (.ok a) := .ok a not_false

theorem congr (h : FailsJustIf P x) (hPQ : P ↔ Q) : FailsJustIf Q x := propext hPQ ▸ h

theorem bind {f : α → Except DecodeError β} (hx : FailsJustIf P x)
    (hf : ∀ a, FailsJustIf Q (f a)) : FailsJustIf (P ∨ Q) (x >>= f) := by
  cases hx with
  | error cause h hcause => exact .error cause (.inl h) hcause
  | ok a hP =>
    rw [ok_bind]
    refine (hf a).congr ⟨.inr, fun h => h.resolve_left hP⟩

theorem bind_pure (hx : FailsJustIf P x) (f : α → β) :
    FailsJustIf P (x >>= fun a => pure (f a)) :=
  (hx.bind fun a => never (f a)).congr (or_iff_left not_false)

theorem map (hx : FailsJustIf P x) (f : α → β) : FailsJustIf P (x.map f) := by
  cases hx with
  | ok a h => exact .ok (f a) h
  | error cause h hcause => exact .error cause h hcause

theorem mapM {read : Json → Except DecodeError α} {p : Json → Prop} {vs : List Json}
    (h : ∀ v ∈ vs, FailsJustIf (p v) (read v)) : FailsJustIf (∃ v ∈ vs, p v) (vs.mapM read) := by
  induction vs with
  | nil => exact .ok [] (by simp)
  | cons v rest ih =>
    obtain ⟨hv, hrest⟩ := List.forall_mem_cons.1 h
    rw [List.mapM_cons]
    exact (hv.bind fun a => (ih hrest).bind_pure (a :: ·)).congr (by simp)

theorem exists_ok_iff (h : FailsJustIf P x) : (∃ a, x = .ok a) ↔ ¬P := by
  cases h with
  | ok a hP => exact ⟨fun _ => hP, fun _ => ⟨a, rfl⟩⟩
  | error cause hP _ => exact ⟨nofun, fun hnot => absurd hP hnot⟩

theorem exists_error (h : FailsJustIf P x) (hP : P) :
    ∃ cause, x = .error cause ∧ cause ≠ .malformed := by
  cases h with
  | ok a hnot => exact absurd hP hnot
  | error cause _ hcause => exact ⟨cause, rfl, hcause⟩

end FailsJustIf

/-! ## Lists and optional parts -/

variable {α : Type} {faults : Json → List SchemaFault} {read : Json → Except DecodeError α}
  {v : Json} {P : Prop} {p : Json → Prop} {name : String} {fields : List (String × Json)}

theorem failsJustIf_optionalOf (hv : v ≠ .null) (h : FailsJustIf P (read v)) :
    FailsJustIf P (optionalOf read v) := by
  cases v with
  | null => exact absurd rfl hv
  | _ => exact h.map some

theorem failsJustIf_listOf (hread : ∀ v, faults v = [] → FailsJustIf (p v) (read v))
    (hform : Schema.items faults v ++ Schema.type [.array] v = []) :
    FailsJustIf (∃ vs, v = .arr vs ∧ ∃ w ∈ vs, p w) (listOf read v) := by
  obtain ⟨hitems, htype⟩ := List.append_eq_nil_iff.1 hform
  obtain ⟨vs, rfl⟩ := Schema.exists_arr_of_type htype
  have hitems := Schema.items_eq_nil_iff.1 hitems
  refine (FailsJustIf.mapM fun w hw => hread w (hitems w hw)).congr ?_
  simp

/-! ## Numbers -/

namespace Schema

theorem maximum_int_eq_nil_iff {limit n : Int} : maximum limit (.int n) = [] ↔ n ≤ limit := by
  have hunits : limit * Binary64.unitsPerOne < n * Binary64.unitsPerOne ↔ limit < n :=
    Int.mul_lt_mul_right unitsPerOne_pos
  simp only [maximum, units, hunits, ite_eq_right_iff, List.cons_ne_nil, imp_false, Int.not_lt]

theorem uint32?_or_double {least : Int} (hleast : 0 ≤ least) (h : uint32 least v = []) :
    (∃ n, v.uint32? = some n) ∨ ∃ x, v = .double x := by
  simp only [uint32, List.append_eq_nil_iff] at h
  obtain ⟨⟨hmax, hmin⟩, htype⟩ := h
  match v with
  | .num (.double x) => exact .inr ⟨x, rfl⟩
  | .num (.int n) =>
    have hmax := maximum_int_eq_nil_iff.1 hmax
    have hmin := minimum_int_eq_nil_iff.1 hmin
    have hnat : nat? (.int n) = some n.toNat := if_pos (by omega)
    have hlt : n.toNat < UInt32.size := by
      have hsize : UInt32.size = 4294967296 := rfl
      omega
    refine .inl ⟨UInt32.ofNat n.toNat, ?_⟩
    rw [Json.uint32?, natBelow?, hnat, Option.bind_some, if_pos hlt]
    rfl
  | .null | .bool _ | .str _ | .arr _ | .obj _ => cases htype

theorem failsJustIf_cutoff (h : uint32 1 v = []) :
    FailsJustIf (∃ x, v = .double x) (cutoffOf v) := by
  obtain ⟨n, hn⟩ | ⟨x, rfl⟩ := uint32?_or_double (by decide) h
  · have hv := nat_of_uint32? hn
    have hread : cutoffOf v = .ok n := by
      rw [hv] at hn ⊢
      exact congrArg orMalformed hn
    rw [hread, hv]
    exact .ok n nofun
  · exact .error _ ⟨x, rfl⟩ nofun

theorem failsJustIf_condition (h : condition v = []) :
    FailsJustIf (∃ x, v = .double x) (Condition.ofJson v) := by
  simp only [condition, List.append_eq_nil_iff] at h
  obtain ⟨⟨hmax, hmin⟩, htype⟩ := h
  match v with
  | .num (.double x) => exact .error _ ⟨x, rfl⟩ nofun
  | .num (.int n) =>
    have hrange : Condition.least ≤ n ∧ n ≤ Condition.greatest :=
      ⟨minimum_int_eq_nil_iff.1 hmin, maximum_int_eq_nil_iff.1 hmax⟩
    rw [Condition.ofJson, if_pos hrange]
    exact .ok _ nofun
  | .str s => exact .ok _ nofun
  | .null | .bool _ | .arr _ | .obj _ => cases htype

/-! ## Rules and pages -/

theorem exists_str_of_type (h : type [.string] v = []) : ∃ s, v = .str s := by
  cases v with
  | str s => exact ⟨s, rfl⟩
  | _ => cases h

theorem exists_of_required {names : List String} {field : String → Json → List SchemaFault}
    (hparts : properties field (.obj fields) = []) (hrequired : required names (.obj fields) = [])
    (name : String) (hname : name ∈ names) : ∃ v, lookup name fields = some v ∧ field name v = [] := by
  obtain ⟨v, hv⟩ := Option.isSome_iff_exists.1 (required_eq_nil_iff.1 hrequired name hname)
  exact ⟨v, hv, properties_eq_nil_iff.1 hparts _ (mem_of_lookup_eq_some hv)⟩

theorem lookup_eq_none_of_closed {names : List String} (h : closed names (.obj fields) = [])
    (name : String) (hname : name ∉ names) : lookup name fields = none := by
  cases hlookup : lookup name fields with
  | none => rfl
  | some v => exact absurd (mem_of_closed h _ (mem_of_lookup_eq_some hlookup)) hname

theorem failsJustIf_of_selectedRule (h : selectedRule (.obj fields) = []) :
    FailsJustIf (FractionalRule (.obj fields)) (RunRule.ofJson (.obj fields)) := by
  simp only [selectedRule, List.append_eq_nil_iff] at h
  obtain ⟨⟨⟨hparts, hclosed⟩, hrequired⟩, -⟩ := h
  obtain ⟨v, hpage, hv⟩ := exists_of_required hparts hrequired "pageID" (by simp)
  obtain ⟨page, rfl⟩ := exists_str_of_id hv
  obtain ⟨v, hoption, hv⟩ := exists_of_required hparts hrequired "optionID" (by simp)
  obtain ⟨option, rfl⟩ := exists_str_of_id hv
  have hread : RunRule.ofJson (.obj fields) = .ok (.selected page option) := by
    simp [RunRule.ofJson, RunRule.selected?, required?, hpage, hoption, str?]
  rw [hread]
  refine .ok _ ?_
  rintro ⟨values, hvalues, -⟩
  cases (lookup_eq_none_of_closed hclosed "permutation" (by decide)).symm.trans hvalues

theorem failsJustIf_of_matchedRule (h : matchedRule (.obj fields) = []) :
    FailsJustIf (FractionalRule (.obj fields)) (RunRule.ofJson (.obj fields)) := by
  simp only [matchedRule, List.append_eq_nil_iff] at h
  obtain ⟨⟨⟨hparts, hclosed⟩, hrequired⟩, -⟩ := h
  obtain ⟨v, hpage, hv⟩ := exists_of_required hparts hrequired "pageID" (by simp)
  obtain ⟨page, rfl⟩ := exists_str_of_id hv
  obtain ⟨v, hpattern, hv⟩ := exists_of_required hparts hrequired "regex" (by simp)
  obtain ⟨pattern, rfl⟩ := exists_str_of_type hv
  have hoption := lookup_eq_none_of_closed hclosed "optionID" (by decide)
  have hread : RunRule.ofJson (.obj fields) = .ok (.matched page pattern) := by
    simp [RunRule.ofJson, RunRule.selected?, RunRule.matched?, required?, hpage, hpattern, hoption,
      str?]
  rw [hread]
  refine .ok _ ?_
  rintro ⟨values, hvalues, -⟩
  cases (lookup_eq_none_of_closed hclosed "permutation" (by decide)).symm.trans hvalues

theorem failsJustIf_of_permutationRule (h : permutationRule (.obj fields) = []) :
    FailsJustIf (FractionalRule (.obj fields)) (RunRule.ofJson (.obj fields)) := by
  simp only [permutationRule, List.append_eq_nil_iff] at h
  obtain ⟨⟨⟨hparts, hclosed⟩, hrequired⟩, -⟩ := h
  obtain ⟨v, hlookup, hv⟩ := exists_of_required hparts hrequired "permutation" (by simp)
  obtain ⟨hitems, htype⟩ := List.append_eq_nil_iff.1 hv
  obtain ⟨vs, rfl⟩ := exists_arr_of_type htype
  have hitems := items_eq_nil_iff.1 hitems
  have hpage := lookup_eq_none_of_closed hclosed "pageID" (by decide)
  -- The other two forms need a page.
  have hselected : RunRule.selected? (.obj fields) = none := by
    simp [RunRule.selected?, required?, hpage]
  have hmatched : RunRule.matched? (.obj fields) = none := by
    simp [RunRule.matched?, required?, hpage]
  have hpermutation : RunRule.permutation? (.obj fields) =
      (vs.mapM Json.uint32?).map .permutation := by
    simp [RunRule.permutation?, required?, hlookup, listOf?]
  rw [RunRule.ofJson, hselected, hmatched, hpermutation]
  by_cases hx : ∃ x, .double x ∈ vs
  · have hnone : vs.mapM Json.uint32? = none := by
      refine Option.eq_none_iff_forall_ne_some.2 fun ns hns => ?_
      have hmap : ns.map (fun n => .nat n.toNat) = vs :=
        map_eq_of_forall₂ (fun v _ n h => (nat_of_uint32? h).symm) (forall₂_of_mapM_eq_some hns)
      obtain ⟨x, hx⟩ := hx
      rw [← hmap] at hx
      obtain ⟨n, -, hn⟩ := List.mem_map.1 hx
      cases hn
    rw [hnone]
    exact .error _ ⟨vs, hlookup, hx⟩ (by simp)
  · obtain ⟨ns, hns⟩ : ∃ ns, vs.mapM Json.uint32? = some ns := by
      refine exists_mapM_eq_some fun v hv =>
        (uint32?_or_double le_rfl (hitems v hv)).resolve_right ?_
      rintro ⟨x, rfl⟩
      exact hx ⟨x, hv⟩
    rw [hns]
    refine .ok _ ?_
    rintro ⟨values, hvalues, hdouble⟩
    cases hlookup.symm.trans hvalues
    exact hx hdouble

theorem failsJustIf_runIf (hform : runIf v = []) :
    FailsJustIf (FractionalRule v) (RunRule.ofJson v) := by
  have hforms : selectedRule v = [] ∨ matchedRule v = [] ∨ permutationRule v = [] := by
    unfold runIf at hform
    split at hform
    next h => simpa [or_assoc] using h
    next => cases hform
  obtain ⟨fields, rfl⟩ : ∃ fields, v = .obj fields := by
    apply exists_obj_of_type
    obtain h | h | h := hforms <;> exact (List.append_eq_nil_iff.1 h).2
  obtain h | h | h := hforms
  · exact failsJustIf_of_selectedRule h
  · exact failsJustIf_of_matchedRule h
  · exact failsJustIf_of_permutationRule h

theorem failsJustIf_page (h : page v = []) : FailsJustIf (FractionalPage v) (PageDecl.ofJson v) := by
  simp only [page, List.append_eq_nil_iff] at h
  obtain ⟨⟨hparts, hrequired⟩, htype⟩ := h
  obtain ⟨fields, rfl⟩ := exists_obj_of_type htype
  obtain ⟨v, hid, hv⟩ := exists_of_required hparts hrequired "id" (by simp)
  obtain ⟨s, rfl⟩ := exists_str_of_id hv
  have hread : orMalformed (required? fields "id" str?) = .ok s := by
    simp [required?, hid, str?, orMalformed]
  rw [PageDecl.ofJson, hread]
  cases hlookup : lookup "condition" fields with
  | none =>
    refine .ok _ ?_
    rintro ⟨x, hx⟩
    cases hlookup.symm.trans hx
  | some v =>
    have hform : condition v = [] := properties_eq_nil_iff.1 hparts _ (mem_of_lookup_eq_some hlookup)
    have hv : v ≠ .null := by
      rintro rfl
      cases hform
    refine ((failsJustIf_optionalOf hv (failsJustIf_condition hform)).bind_pure _).congr ?_
    simp [FractionalPage, field?, hlookup]

theorem failsJustIf_pages (h : pages v = []) :
    FailsJustIf (FractionalPages v) (listOf PageDecl.ofJson v) :=
  failsJustIf_listOf (fun _ => failsJustIf_page) h

theorem failsJustIf_ids (h : idList v = []) : FailsJustIf False (idsOf v) := by
  simp only [idList, List.append_eq_nil_iff] at h
  obtain ⟨⟨hitems, htype⟩, -⟩ := h
  obtain ⟨vs, rfl⟩ := exists_arr_of_type htype
  obtain ⟨ids, hids⟩ := exists_mapM_eq_some (f := str?) fun v hv => by
    obtain ⟨s, rfl⟩ := exists_str_of_id (items_eq_nil_iff.1 hitems v hv)
    exact ⟨s, rfl⟩
  rw [idsOf, listOf?, hids]
  exact .never ids

end Schema

/-! ## Blocks -/

open Schema

theorem failsJustIf_setField (h : BlockHead) (hform : blockField name v = []) :
    FailsJustIf (FractionalField name v) (h.setField name v) := by
  have hnull (hfault : blockField name .null = [] → False) : v ≠ .null := by
    rintro rfl
    exact hfault hform
  unfold BlockHead.setField
  split
  · obtain ⟨s, rfl⟩ := exists_str_of_id hform
    exact .never _
  · exact (failsJustIf_optionalOf (hnull fun h => by cases h) (failsJustIf_runIf hform)).bind_pure _
  · cases v with
    | num n => exact .never _
    | _ => cases hform
  · exact (failsJustIf_cutoff hform).bind_pure _
  · exact (failsJustIf_optionalOf (hnull fun h => by cases h) (failsJustIf_pages hform)).bind_pure _
  · have hgroups := failsJustIf_listOf (fun _ => failsJustIf_pages) hform
    exact (failsJustIf_optionalOf (hnull fun h => by cases h) hgroups).bind_pure _
  · cases v with
    | bool b => exact .never _
    | _ => cases hform
  · cases v with
    | bool b => exact .never _
    | _ => cases hform
  · exact (failsJustIf_ids hform).bind_pure _
  · exact (failsJustIf_ids hform).bind_pure _
  · refine .ok h fun hfield => ?_
    unfold FractionalField at hfield
    split at hfield <;> contradiction

/-- A field of a block has, at any depth, a double in the place of an integer. -/
def FractionalAt (name : String) (v : Json) : Prop :=
  if name = "blocks" then ∃ blocks, v = .arr blocks ∧ ∃ b ∈ blocks, FractionalBlock b
  else FractionalField name v

theorem fractionalBlock_iff (hfields : Sorted fields) :
    FractionalBlock (.obj fields) ↔ ∃ f ∈ fields, FractionalAt f.1 f.2 := by
  constructor
  · intro h
    cases h with
    | field h hv =>
      refine ⟨_, mem_of_lookup_eq_some h, ?_⟩
      unfold FractionalAt
      split
      next hname =>
        subst hname
        cases hv
      next => exact hv
    | inner h hc hinner =>
      exact ⟨_, mem_of_lookup_eq_some h, (if_pos rfl).mpr ⟨_, rfl, _, hc, hinner⟩⟩
  · rintro ⟨⟨name, v⟩, hf, h⟩
    have hlookup : lookup name fields = some v := lookup_eq_some_of_mem hfields.nodup_names hf
    unfold FractionalAt at h
    split at h
    next hname =>
      obtain ⟨blocks, rfl, b, hb, hinner⟩ := h
      exact .inner (hname ▸ hlookup) hb hinner
    next => exact .field hlookup h

namespace BlockDecl

mutual

theorem failsJustIf_ofJson {v : Json} (hv : v.Ordered) (hform : Schema.block v = []) :
    FailsJustIf (FractionalBlock v) (ofJson v) := by
  match v with
  | .obj fields =>
    rw [Schema.block, List.append_eq_nil_iff, List.append_eq_nil_iff] at hform
    obtain ⟨⟨hparts, -⟩, hrequired⟩ := hform
    have hid : (lookup "id" fields).isSome = true := required_eq_nil_iff.1 hrequired "id" (by simp)
    cases hv with
    | obj hsorted hfields =>
      have hread := failsJustIf_readFields default hfields hparts
      simp only [ofJson, if_pos hid]
      exact (hread.bind_pure id).congr (fractionalBlock_iff hsorted).symm
  | .null | .bool _ | .num _ | .str _ | .arr _ =>
    simp [Schema.block, Schema.type, JsonType.admits] at hform

theorem failsJustIf_readFields {fields : List (String × Json)} (b : BlockDecl)
    (hv : ∀ f ∈ fields, f.2.Ordered) (hform : Schema.blockFields fields = []) :
    FailsJustIf (∃ f ∈ fields, FractionalAt f.1 f.2) (readFields b fields) := by
  match fields with
  | [] => exact .ok b (by simp)
  | (name, v) :: rest =>
    rw [Schema.blockFields, List.append_eq_nil_iff] at hform
    obtain ⟨hv, hothers⟩ := List.forall_mem_cons.1 hv
    have hread := failsJustIf_readField b hv hform.1
    rw [readFields]
    refine (hread.bind fun c => failsJustIf_readFields c hothers hform.2).congr ?_
    simp

theorem failsJustIf_readField {v : Json} {name : String} (b : BlockDecl) (hv : v.Ordered)
    (hform : (if name = "blocks" then Schema.blocks v else Schema.blockField name v) = []) :
    FailsJustIf (FractionalAt name v) (readField b name v) := by
  by_cases hname : name = "blocks"
  · subst hname
    rw [if_pos rfl] at hform
    match v with
    | .arr vs =>
      cases hv with
      | arr hv =>
        rw [Schema.blocks] at hform
        rw [readField, if_pos rfl]
        refine ((failsJustIf_listOfJson hv hform).bind_pure _).congr ?_
        simp [FractionalAt]
    | .null | .bool _ | .num _ | .str _ | .obj _ => cases hform
  · rw [if_neg hname] at hform
    unfold readField
    rw [if_neg hname]
    refine ((failsJustIf_setField b.toBlockHead hform).bind_pure _).congr ?_
    rw [FractionalAt, if_neg hname]

theorem failsJustIf_listOfJson {vs : List Json} (hv : ∀ v ∈ vs, v.Ordered)
    (hform : Schema.blockItems vs = []) :
    FailsJustIf (∃ b ∈ vs, FractionalBlock b) (listOfJson vs) := by
  match vs with
  | [] => exact .ok [] (by simp)
  | v :: rest =>
    rw [Schema.blockItems, List.append_eq_nil_iff] at hform
    obtain ⟨hv, hothers⟩ := List.forall_mem_cons.1 hv
    have hrest := failsJustIf_listOfJson hothers hform.2
    rw [listOfJson]
    refine ((failsJustIf_ofJson hv hform.1).bind fun b => hrest.bind_pure (b :: ·)).congr ?_
    simp

end

end BlockDecl

/-! ## Scripts -/

namespace Script

theorem failsJustIf_idsIn (hform : ∀ v, (name, v) ∈ fields → Schema.idList v = []) :
    FailsJustIf False (idsIn fields name) := by
  unfold idsIn withDefault?
  split
  · exact .never []
  next v hv => exact failsJustIf_ids (hform v (mem_of_lookup_eq_some hv))

theorem failsJustIf_ofJson (hv : v.Ordered) (hform : Schema.script v = []) :
    FailsJustIf (FractionalScript v) (ofJson v) := by
  simp only [Schema.script, List.append_eq_nil_iff] at hform
  obtain ⟨⟨hparts, hrequired⟩, htype⟩ := hform
  obtain ⟨fields, rfl⟩ := exists_obj_of_type htype
  obtain ⟨w, hblocks, hw⟩ := exists_of_required hparts hrequired "blocks" (by simp)
  have hparts := properties_eq_nil_iff.1 hparts
  have hcounterbalance := failsJustIf_idsIn fun v => hparts ("counterbalance", v)
  have hexchangeable := failsJustIf_idsIn fun v => hparts ("exchangeable", v)
  cases w with
  | arr vs =>
    cases hv with
    | obj _ hfields =>
      cases hfields _ (mem_of_lookup_eq_some hblocks) with
      | arr hvs =>
        have hw : Schema.blockItems vs = [] := hw
        rw [ofJson, recordFields, orMalformed, ok_bind, hblocks]
        have hids (blocks : List BlockDecl) := hcounterbalance.bind fun counterbalance =>
          hexchangeable.bind_pure fun exchangeable =>
            ({ blocks, counterbalance, exchangeable } : Script)
        refine ((BlockDecl.failsJustIf_listOfJson hvs hw).bind hids).congr ?_
        simp [FractionalScript, field?, hblocks]
  | null | bool | num | str | obj => cases hw

/-- A value of the right form is read as a script just if it has no double in the place of an
integer.  If it has one, a text that writes the value is refused because its script cannot be read:
a number, a rule or a condition of it. -/
theorem reads_iff_not_fractional (hv : v.Ordered) (hform : Schema.script v = []) :
    ((∃ s, ofJson v = .ok s) ↔ ¬FractionalScript v) ∧
      ((¬∃ s, ofJson v = .ok s) → ∃ cause, cause ≠ .malformed ∧ ofJson v = .error cause ∧
        ∀ text, parse? text = some v → parse text = .error (.script (.reading cause))) := by
  have hread := failsJustIf_ofJson hv hform
  refine ⟨hread.exists_ok_iff, fun hnot => ?_⟩
  have hfractional := not_not.1 (mt hread.exists_ok_iff.2 hnot)
  obtain ⟨cause, herror, hcause⟩ := hread.exists_error hfractional
  refine ⟨cause, hcause, herror, fun text htext => ?_⟩
  simp only [parse, htext, check, hform, herror]
  rfl

/-- A script with one cutoff that is written as a double, in an inner block. -/
def fractionalText : String :=
  "\x7b\"blocks\":[\x7b\"id\":\"a\",\"pages\":[\x7b\"id\":\"p\",\"condition\":1\x7d]\x7d,"
    ++ "\x7b\"id\":\"b\",\"blocks\":[\x7b\"id\":\"c\",\"cutoff\":1.0,"
    ++ "\"pages\":[\x7b\"id\":\"q\"\x7d]\x7d]\x7d]\x7d"

/-- Whether the value that a text writes has the right form, and whether it can be read. -/
def formAndReading (text : String) : Option (Bool × Bool) :=
  (parse? text).map fun v => ((Schema.script v).isEmpty, (ofJson v).toOption.isSome)

theorem fractionalText_not_read :
    (∃ v, parse? quickText = some v ∧ Schema.script v = [] ∧ ¬FractionalScript v) ∧
    ∃ v, parse? fractionalText = some v ∧ Schema.script v = [] ∧ FractionalScript v ∧
      ∃ cause, cause ≠ .malformed ∧ parse fractionalText = .error (.script (.reading cause)) := by
  have hquick : formAndReading quickText = some (true, true) := by decide +kernel
  have hfractional : formAndReading fractionalText = some (true, false) := by decide +kernel
  constructor
  · obtain ⟨v, hv, hboth⟩ := Option.map_eq_some_iff.1 hquick
    obtain ⟨hform, hread⟩ := Prod.mk.inj hboth
    have hform := List.isEmpty_iff.1 hform
    obtain ⟨s, hs⟩ := Option.isSome_iff_exists.1 hread
    have hreads := (reads_iff_not_fractional (ordered_of_parse? hv) hform).1
    exact ⟨v, hv, hform, hreads.1 ⟨s, eq_ok_of_toOption_eq_some hs⟩⟩
  · obtain ⟨v, hv, hboth⟩ := Option.map_eq_some_iff.1 hfractional
    obtain ⟨hform, hread⟩ := Prod.mk.inj hboth
    have hform := List.isEmpty_iff.1 hform
    have hnot : ¬∃ s, ofJson v = .ok s := by
      rintro ⟨s, hs⟩
      rw [hs] at hread
      cases hread
    obtain ⟨hreads, hrefused⟩ := reads_iff_not_fractional (ordered_of_parse? hv) hform
    obtain ⟨cause, hcause, -, hparse⟩ := hrefused hnot
    exact ⟨v, hv, hform, not_not.1 (mt hreads.2 hnot), cause, hcause, hparse _ hv⟩

end Script

end Trials
