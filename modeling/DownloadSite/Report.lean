import DownloadSite.Text.Digits

/-!
# Error reports

A failure is reported outermost first, each cause behind the step that it made fail. A single cause is
indented; several are numbered, and the further lines of a cause stay to the right of its number.
-/

namespace DownloadSite.Report

/-- Puts the further lines of a text behind an indentation. -/
def indent (indentation : String) (text : String) : String :=
  String.ofList (text.toList.flatMap fun c =>
    if c = '\n' then '\n' :: indentation.toList else [c])

def numbered (entry : String × Nat) : String :=
  "    " ++ String.ofList (Text.toDigits 10 entry.2) ++ ": " ++ indent "       " entry.1 ++ "\n"

def causes : List String → String
  | [] => ""
  | [cause] => "    " ++ indent "    " cause ++ "\n"
  | causes => String.join (causes.zipIdx.map numbered)

/-- The report of a failure, given as what failed and its causes. -/
def text : List String → String
  | [] => ""
  | [failure] => "Error: " ++ failure ++ "\n"
  | failure :: rest => "Error: " ++ failure ++ "\n\nCaused by:\n" ++ causes rest

end DownloadSite.Report
