import Trials.Settings
import Trials.Proofs.Toml.Lines
import Trials.Proofs.Files.Replacement

/-!
# Saved settings

The text that settings are saved as is read as the same settings (`Settings.parse?_text`), line by
line: the entries of the document are known after each of them.  As a replaced file has the new
text, settings that have been saved are loaded unchanged (`Settings.saved_settings_load`).
-/

namespace Trials.Settings

open Toml

variable {s : Settings} {disk disk' : Disk} {name : String}

/-! ## Texts -/

/-- The lines after the one with the seed. -/
def tables (s : Settings) : List Char :=
  '[' :: "assignment".toList ++ ']' :: '\n' ::
    ("version".toList ++ ' ' :: '=' :: ' ' :: Nat.toDigits 10 s.assignment.version.toNat ++ '\n' ::
    ("permutation".toList ++ ' ' :: '=' :: ' ' :: Nat.toDigits 10 s.assignment.permutation.toNat ++
      '\n' :: '\n' ::
    ('[' :: "pseudorandom".toList ++ ']' :: '\n' ::
    ("window".toList ++ ' ' :: '=' :: ' ' :: Nat.toDigits 10 s.window ++ '\n' :: '\n' :: []))))

theorem toList_text (s : Settings) : s.text.toList =
    (match s.seed with
      | some seed =>
        "seed".toList ++ ' ' :: '=' :: ' ' :: Nat.toDigits 10 seed.toNat ++ '\n' :: '\n' :: s.tables
      | none => s.tables) := by
  unfold text tables
  cases s.seed with
  | none => simp
  | some seed => simp

/-- The entry that the line with the seed adds. -/
def seedEntries (seed : Option UInt64) : Entries :=
  match seed with
  | some seed => [("seed", .value (.integer seed.toNat))]
  | none => []

/-- The entries of the document. -/
def entries (s : Settings) : Entries :=
  seedEntries s.seed ++
    [("assignment", .table .explicit [("version", .value (.integer s.assignment.version.toNat)),
      ("permutation", .value (.integer s.assignment.permutation.toNat))]),
    ("pseudorandom", .table .explicit [("window", .value (.integer s.window))])]

theorem fills_tables (s : Settings) : Fills ⟨[], seedEntries s.seed⟩ s.tables s.entries := by
  unfold tables
  refine .header (seedEntries s.seed ++ [("assignment", .table .explicit [])]) (by decide) ?_ ?_
  · cases s.seed <;> rfl
  refine .number (seedEntries s.seed ++ [("assignment", .table .explicit
    [("version", .value (.integer s.assignment.version.toNat))])]) (by decide) ?_ ?_
  · cases s.seed <;> rfl
  refine .number (seedEntries s.seed ++ [("assignment", .table .explicit
    [("version", .value (.integer s.assignment.version.toNat)),
      ("permutation", .value (.integer s.assignment.permutation.toNat))])]) (by decide) ?_ ?_
  · cases s.seed <;> rfl
  refine .blank (.header (seedEntries s.seed ++ [("assignment", .table .explicit
    [("version", .value (.integer s.assignment.version.toNat)),
      ("permutation", .value (.integer s.assignment.permutation.toNat))]),
    ("pseudorandom", .table .explicit [])]) (by decide) ?_ ?_)
  · cases s.seed <;> rfl
  refine .number s.entries (by decide) ?_ (.blank (.nil _))
  unfold entries
  cases s.seed <;> rfl

/-- The lines of a text without a byte order mark say what the text writes. -/
theorem toml_parse?_eq {text : String} {entries : Entries}
    (hmark : text.toList.head? ≠ some '\uFEFF') (h : Fills {} text.toList entries) :
    Toml.parse? text = some (finishEntries entries) := by
  unfold Toml.parse?
  dsimp only
  split
  next heq =>
    rw [heq] at hmark
    exact absurd rfl hmark
  next => rw [h _ (Nat.le_succ _), Option.map_some]

theorem toml_parse?_text (s : Settings) :
    Toml.parse? s.text = some (finishEntries s.entries) := by
  have htext := toList_text s
  have hfills := fills_tables s
  cases hseed : s.seed with
  | none =>
    rw [hseed] at htext hfills
    refine toml_parse?_eq ?_ ?_
    · rw [htext]
      simp [tables]
    · rw [htext]
      exact hfills
  | some seed =>
    rw [hseed] at htext hfills
    refine toml_parse?_eq ?_ ?_
    · rw [htext]
      simp
    · rw [htext]
      exact .number _ (by decide) rfl (.blank hfills)

theorem unsigned?_eq {bound n : Nat} (h : n < bound) :
    unsigned? bound (.integer n) = some n := by
  have hrange : (0 : Int) ≤ n ∧ (n : Int) < bound := by omega
  rw [unsigned?, if_pos hrange, Int.toNat_natCast]

theorem entryOr_of_find? {α : Type} {entries : List (String × Toml)} {key : String} {v : Toml}
    {default : α} {read : Toml → Option α}
    (h : (entries.find? fun e => e.1 == key) = some (key, v)) :
    entryOr entries key default read = read v := by
  rw [entryOr, h]
  rfl

theorem assignment?_eq (a : Assignment) :
    assignment? (.table [("version", .integer a.version.toNat),
      ("permutation", .integer a.permutation.toNat)]) = some a := by
  have hversion : unsigned? UInt32.size (.integer a.version.toNat) = some a.version.toNat :=
    unsigned?_eq a.version.toNat_lt
  have hpermutation :
      unsigned? UInt32.size (.integer a.permutation.toNat) = some a.permutation.toNat :=
    unsigned?_eq a.permutation.toNat_lt
  have hpart : part? ["version", "permutation"] (.table [("version", .integer a.version.toNat),
      ("permutation", .integer a.permutation.toNat)]) =
        some [("version", .integer a.version.toNat),
          ("permutation", .integer a.permutation.toNat)] := rfl
  rw [assignment?, hpart, Option.bind_eq_bind, Option.bind_some]
  dsimp only
  rw [entryOr_of_find? rfl, entryOr_of_find? rfl, hversion, hpermutation]
  simp

theorem window?_eq {window : Nat} (h : window < UInt64.size) :
    window? (.table [("window", .integer window)]) = some window := by
  have hpart : part? ["window"] (.table [("window", .integer window)]) =
      some [("window", .integer window)] := rfl
  rw [window?, hpart, Option.bind_eq_bind, Option.bind_some, entryOr_of_find? rfl, unsigned?_eq h]

/-- The text of settings is read as the same settings. -/
theorem parse?_text (hwindow : s.window < UInt64.size) : parse? s.text = some s := by
  obtain ⟨assignment, seed, window⟩ := s
  rw [parse?, toml_parse?_text, Option.bind_some]
  generalize hentries : finishEntries (entries ⟨assignment, seed, window⟩) = written
  have hpart : part? ["assignment", "seed", "pseudorandom"] (.table written) = some written := by
    subst hentries
    cases seed <;> rfl
  have hassignment : entryOr written "assignment" {} assignment? = some assignment := by
    refine (entryOr_of_find? ?_).trans (assignment?_eq assignment)
    subst hentries
    cases seed <;> rfl
  have hseed : (entryOr written "seed" none fun v =>
      (unsigned? UInt64.size v).map fun n => some (UInt64.ofNat n)) = some seed := by
    cases seed with
    | none =>
      subst hentries
      rfl
    | some seed =>
      have hread : unsigned? UInt64.size (.integer seed.toNat) = some seed.toNat :=
        unsigned?_eq seed.toNat_lt
      rw [← hentries, entryOr_of_find? rfl, finish, hread]
      simp
  have hpseudorandom : entryOr written "pseudorandom" defaultWindow window? = some window := by
    refine (entryOr_of_find? ?_).trans (window?_eq hwindow)
    subst hentries
    cases seed <;> rfl
  rw [ofToml?, hpart, Option.bind_eq_bind, Option.bind_some, hassignment, hseed, hpseudorandom]
  rfl

/-! ## Files -/

theorem validate_eq_self (h : s.window ≠ 0) : s.validate = .ok s := if_neg h

theorem read_replace {text : String} (h : replace disk name text = (.ok (), disk')) :
    disk'.read name = .ok text := by
  unfold replace at h
  dsimp only at h
  split at h
  · cases h
  split at h
  · cases h
  split at h
  · cases h
  rename_i hwrite
  split at h
  · cases h
  rename_i hrename
  cases h
  exact Disk.read_of_write_of_rename (by decide) (by decide) hwrite hrename

/-- Settings that have been saved are loaded unchanged, and so are the options with which
experiments are built; settings that are not valid are refused with the same error and nothing is
written. -/
theorem saved_settings_load (s : Settings) (hwindow : s.window < UInt64.size) (disk : Disk)
    (name : String) :
    (∀ disk', s.save disk name = (.ok (), disk') →
      disk'.read name = .ok s.text ∧ load disk' name = .ok s ∧
        (load disk' name).map buildOptions = .ok s.buildOptions) ∧
    ∀ e, s.validate = .error e → s.save disk name = (.error e, disk) := by
  refine ⟨fun disk' hsave => ?_, fun e he => by rw [save, he]⟩
  by_cases hzero : s.window = 0
  · have hrefused : s.validate = .error .noWindow := if_pos hzero
    rw [save, hrefused] at hsave
    cases hsave
  · have hvalid := validate_eq_self hzero
    rw [save, hvalid] at hsave
    have hread := read_replace hsave
    have hload : load disk' name = .ok s := by
      simp [load, Disk.contains_of_read hread, hread, parse?_text hwindow, hvalid]
    exact ⟨hread, hload, by rw [hload]; rfl⟩

/-- A seed above the signed range of 64 bits comes back, too. -/
theorem large_seed_loads :
    let s : Settings := ⟨⟨4294967295, 1⟩, some 9223372036854775813, 5⟩
    let disk : Disk := ⟨.dir [], []⟩
    s.window < UInt64.size ∧ (s.save disk "engine.toml").1 = .ok () ∧
      load (s.save disk "engine.toml").2 "engine.toml" = .ok s ∧
      save { s with window := 0 } disk "engine.toml" = (.error .noWindow, disk) := by
  intro s disk
  have hwindow : s.window < UInt64.size := by decide
  have hsave : s.save disk "engine.toml" = (.ok (), (s.save disk "engine.toml").2) := rfl
  refine ⟨hwindow, by rw [hsave], ?_, ?_⟩
  · exact ((saved_settings_load s hwindow disk "engine.toml").1 _ hsave).2.1
  · exact (saved_settings_load { s with window := 0 } (by decide) disk "engine.toml").2 _ rfl

end Trials.Settings
