import Trials.Script.Load
import Trials.Files.Disk

/-!
# What commands leave behind

An `Output` is the result of a command: what it prints, its exit code, and the disk afterwards.
Errors are told on one line, with what caused them after colons, or over several lines.
-/

namespace Trials

/-- The result of a command. -/
structure Output where
  code : UInt32 := 0
  out : String := ""
  err : String := ""
  disk : Disk

namespace Output

/-- Some lines as a text. -/
def unlines (lines : List String) : String := String.join (lines.map (· ++ "\n"))

/-- The exit code for a script with a fault, and for arguments that make no sense. -/
def faultCode : UInt32 := 2

/-- The exit code for all other errors. -/
def errorCode : UInt32 := 1

/-- The result of a command whose arguments make no sense. -/
def usage (text : String) (disk : Disk) : Output :=
  { code := faultCode, err := "usage: " ++ text ++ "\n", disk }

/-- An error and its causes on one line. -/
def onOneLine (chain : List String) : String := joinWith ": " chain ++ "\n"

/-- A text whose lines after the first are indented. -/
def indentMore (indent text : String) : String :=
  String.ofList (text.toList.flatMap fun c => if c = '\n' then '\n' :: indent.toList else [c])

/-- An error with its causes below it, numbered if there are several. -/
def onLines (chain : List String) : String :=
  match chain with
  | [] => "Error: \n"
  | [error] => "Error: " ++ error ++ "\n"
  | [error, cause] =>
    "Error: " ++ error ++ "\n\nCaused by:\n    " ++ indentMore "    " cause ++ "\n"
  | error :: causes =>
    "Error: " ++ error ++ "\n\nCaused by:\n"
      ++ unlines (causes.zipIdx.map fun (cause, i) =>
        numberText i ++ ": " ++ indentMore "       " cause)
where
  numberText (i : Nat) : String :=
    let digits := Nat.toDigits 10 i
    String.ofList (List.replicate (5 - digits.length) ' ' ++ digits)

end Output

end Trials
