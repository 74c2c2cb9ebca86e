import Trials.Script.Basic
import Trials.Response
import Trials.Pattern.Search

/-!
# Run-if rules

A `RunIf` says when a block may run, judged from what has been answered so far (`Answers`) and from
the participant's permutation.  `RunIf.ofRule` makes one from a script's rule: it needs the path of
the page that the rule names and a pattern that is well formed.
-/

namespace Trials

/-- What has been answered so far, as far as the order of pages depends on it. -/
structure Answers where
  /-- The graded outcomes at a path or beneath it, oldest first. -/
  history : Path → List Bool
  /-- The option chosen the last time a page was answered. -/
  selection : Path → Option String
  /-- The text entered the last time a page was answered. -/
  text : Path → Option String

/-- When a block may run. -/
inductive RunIf where
  | always
  /-- If the last answer to a page chose an option. -/
  | selected (page : Path) (option : String)
  /-- If the text last entered on a page contains a match. -/
  | matched (page : Path) (pattern : Program)
  /-- If the participant's permutation is one of these. -/
  | permutation (values : List UInt32)
deriving Inhabited

/-- Why a script's rule cannot be applied. -/
inductive RuleError where
  /-- There is no page with the identifier. -/
  | unknownPage (id : String)
  /-- There are several pages with the identifier. -/
  | ambiguousPage (id : String) (count : Nat)
  | badPattern (pattern : String) (cause : Pattern.Error)
deriving DecidableEq

/-- The text of the error. -/
def RuleError.message : RuleError → String
  | unknownPage id => "runIf names unknown page '" ++ id ++ "'"
  | ambiguousPage id count =>
    "runIf page '" ++ id ++ "' is ambiguous (" ++ toString count ++ " pages share that id)"
  | badPattern pattern cause => "invalid runIf regex '" ++ pattern ++ "': " ++ cause.message

namespace RunIf

/-- Whether the block may run. -/
def holds (answers : Answers) (permutation : UInt32) : RunIf → Bool
  | always => true
  | selected page option => answers.selection page == some option
  | matched page pattern => (answers.text page).any pattern.search
  | .permutation values => values.contains permutation

/-- Whether the block may run at any time. -/
def isAlways : RunIf → Bool
  | always => true
  | _ => false

/-- The condition that a script's rule stands for, given how identifiers of pages are resolved. -/
def ofRule {ε : Type} (resolve : String → Except ε Path) (bad : String → Pattern.Error → ε) :
    Option RunRule → Except ε RunIf
  | none => .ok .always
  | some (.selected page option) => do return .selected (← resolve page) option
  | some (.matched page pattern) => do
    let path ← resolve page
    match Program.compile pattern with
    | .ok program => return .matched path program
    | .error cause => throw (bad pattern cause)
  | some (.permutation values) => .ok (.permutation values)

end RunIf

/-- The path of the one page of a script with an identifier. -/
def Script.resolvePage (s : Script) (id : String) : Except RuleError Path :=
  match s.pagePaths id with
  | [path] => .ok path
  | [] => .error (.unknownPage id)
  | paths => .error (.ambiguousPage id paths.length)

end Trials
