import Trials.Toml.Parser
import Trials.Experiment.Build
import Trials.Files.Disk

/-!
# Settings

`Settings` say for whom experiments are built: the participant's assignment, the seed of all random
orders, and the window in which conditions are kept apart.  They are kept in a TOML file, which
`Settings.load` reads and `Settings.save` writes.  A missing file stands for the default settings;
settings without a window are refused both ways.
-/

namespace Trials

/-- For whom experiments are built. -/
structure Settings where
  assignment : Assignment := {}
  /-- The seed of all random orders; without one it is drawn anew each time. -/
  seed : Option UInt64 := none
  /-- How far apart pages of the same condition are looked for when two would meet. -/
  window : Nat := defaultWindow
deriving DecidableEq, Inhabited

/-- Why settings cannot be loaded or saved. -/
inductive SettingsError where
  | noWindow
  /-- The file has no directory around it. -/
  | noDirectory (name : String)
  /-- The text is not TOML, or not that of settings. -/
  | text (name : String)
  /-- An operation on the file of the given name fails. -/
  | file (operation name : String) (cause : FileError)
deriving DecidableEq

/-- The texts of the error and of what caused it, outermost first. -/
def SettingsError.chain : SettingsError → List String
  | noWindow => ["pseudorandom.window must be > 0"]
  | noDirectory name => ["config path missing parent " ++ name]
  | text name => ["parse " ++ name, "TOML parse error: these are no settings"]
  | file operation name cause => [operation ++ " " ++ name, cause.message]

namespace Settings

/-- The options with which experiments are built. -/
def buildOptions (s : Settings) : BuildOptions := { assignment := s.assignment, window := s.window }

/-- The settings, unless they have no window. -/
def validate (s : Settings) : Except SettingsError Settings :=
  if s.window = 0 then .error .noWindow else .ok s

/-! ## Settings from TOML -/

/-- The least integer that can be held. -/
def leastInteger : Int := -0x80000000000000000000000000000000

/-- The least integer that is too large to be held. -/
def integerBound : Int := 0x100000000000000000000000000000000

mutual
/-- Whether the numbers in a value have a size that can be held. -/
def isSound : Toml → Bool
  | .integer n => decide (leastInteger ≤ n ∧ n < integerBound)
  | .float x => x.isSome
  | .array items => areSound items
  | .table entries => entriesSound entries
  | _ => true

/-- Whether all values are sound. -/
def areSound : List Toml → Bool
  | [] => true
  | v :: rest => isSound v && areSound rest

/-- Whether all entries are sound. -/
def entriesSound : List (String × Toml) → Bool
  | [] => true
  | (_, v) :: rest => isSound v && entriesSound rest
end

/-- The unsigned integer below a bound that a value is. -/
def unsigned? (bound : Nat) : Toml → Option Nat
  | .integer n => if 0 ≤ n ∧ n < bound then some n.toNat else none
  | _ => none

/-- The entries of a part of the settings, which may be a table or the list of its entries. -/
def part? (names : List String) : Toml → Option (List (String × Toml))
  | .table entries =>
    if entriesSound (entries.filter fun e => !names.contains e.1) then some entries else none
  | .array items => some (names.zip items)
  | _ => none

/-- The value of a key, read in some way; `default` if the key is missing. -/
def entryOr {α : Type} (entries : List (String × Toml)) (name : String) (default : α)
    (read : Toml → Option α) : Option α :=
  match (entries.find? fun e => e.1 == name).map (·.2) with
  | none => some default
  | some v => read v

/-- The assignment that a value is. -/
def assignment? (v : Toml) : Option Assignment := do
  let entries ← part? ["version", "permutation"] v
  let uint32 (v : Toml) : Option UInt32 := (unsigned? UInt32.size v).map UInt32.ofNat
  return {
    version := ← entryOr entries "version" 0 uint32
    permutation := ← entryOr entries "permutation" 0 uint32 }

/-- The window that a value is. -/
def window? (v : Toml) : Option Nat := do
  entryOr (← part? ["window"] v) "window" defaultWindow (unsigned? UInt64.size)

/-- The settings that a table is; keys that are not known are passed over. -/
def ofToml? (entries : List (String × Toml)) : Option Settings := do
  let entries ← part? ["assignment", "seed", "pseudorandom"] (.table entries)
  return {
    assignment := ← entryOr entries "assignment" {} assignment?
    seed := ← entryOr entries "seed" none fun v =>
      (unsigned? UInt64.size v).map fun n => some (UInt64.ofNat n)
    window := ← entryOr entries "pseudorandom" defaultWindow window? }

/-- The settings that a text writes. -/
def parse? (text : String) : Option Settings := (Toml.parse? text).bind ofToml?

/-! ## Files -/

/-- The settings in a file; the default ones if there is no file. -/
def load (disk : Disk) (name : String) : Except SettingsError Settings :=
  if !disk.contains name then validate {}
  else
    match disk.read name with
    | .error cause => .error (.file "read" name cause)
    | .ok text =>
      match parse? text with
      | none => .error (.text name)
      | some s => s.validate

/-- The text of the file. -/
def text (s : Settings) : String :=
  (match s.seed with
    | some seed => "seed = " ++ toString seed.toNat ++ "\n\n"
    | none => "")
  ++ "[assignment]\nversion = " ++ toString s.assignment.version.toNat
  ++ "\npermutation = " ++ toString s.assignment.permutation.toNat
  ++ "\n\n[pseudorandom]\nwindow = " ++ toString s.window ++ "\n\n"

/-- The disk after the text has taken the place of a file, by way of a temporary file beside it; the
disk is also given if that fails. -/
def replace (disk : Disk) (name text : String) : Except SettingsError Unit × Disk :=
  match FileName.parent? name with
  | none => (.error (.noDirectory name), disk)
  | some parent =>
    let temporary := FileName.withExtension name "toml.tmp"
    match disk.makeDirectories parent with
    | (.error cause, disk) => (.error (.file "create directory" parent cause), disk)
    | (.ok (), disk) =>
      match disk.write temporary text with
      | .error cause => (.error (.file "write temp config" temporary cause), disk)
      | .ok disk =>
        match disk.rename temporary name with
        | .error cause => (.error (.file "replace config" name cause), disk)
        | .ok disk => (.ok (), disk)

/-- The disk after the settings have been written to a file; the disk is also given if that
fails. -/
def save (s : Settings) (disk : Disk) (name : String) : Except SettingsError Unit × Disk :=
  match s.validate with
  | .error e => (.error e, disk)
  | .ok s => replace disk name s.text

end Settings

end Trials
