import LintHub.Lint
import LintHub.Text.Wrap

/-!
# Reports of failures

A command that fails says why in one of two forms. A failure of the linters has a code,
a tree of causes and a line of help, wrapped to the width of a page; any other failure
is one message with its causes listed below it.
-/

namespace LintHub

/-- A failure with the failures behind it, the nearest first. -/
structure Failure where
  message : String
  causes : List String
  deriving DecidableEq, Repr

namespace Report

/-- The width to which failures of the linters are wrapped. -/
def pageWidth : Nat := 118

/-- The causes of a failure as branches of a tree. -/
def causeTree : List String → String
  | [] => ""
  | [cause] => Text.fill pageWidth "  ╰─▶ " "      " cause ++ "\n"
  | cause :: causes => Text.fill pageWidth "  ├─▶ " "  │   " cause ++ "\n" ++ causeTree causes

/-- The report of a failure of the linters. -/
def lintFailure (e : LintError) : String :=
  e.code ++ "\n\n" ++ Text.fill pageWidth "  × " "  │ " e.message ++ "\n" ++ causeTree e.causes ++
    Text.fill pageWidth "  help: " "        " e.help ++ "\n"

/-- A number in at least five columns. -/
def causeNumber (n : Nat) : String :=
  let digits := toString n
  String.ofList (List.replicate (5 - digits.length) ' ') ++ digits ++ ": "

/-- A text whose first line gets one indent and whose other lines get another. -/
def indented (first other text : String) : String :=
  first ++ String.ofList (text.toList.flatMap fun c => if c = '\n' then c :: other.toList else [c])

/-- The causes of a failure as a list, numbered if there are several. -/
def causeList : List String → String
  | [] => ""
  | [cause] => "\n\nCaused by:\n" ++ indented "    " "    " cause
  | causes =>
    "\n\nCaused by:" ++ String.join (causes.zipIdx.map fun x =>
      "\n" ++ indented (causeNumber x.2) "       " x.1)

/-- The report of any other failure. -/
def failure (f : Failure) : String := "Error: " ++ f.message ++ causeList f.causes ++ "\n"

end Report
end LintHub
