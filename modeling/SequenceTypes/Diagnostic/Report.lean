import SequenceTypes.Diagnostic.Failure

/-! Reports: messages made for a reader, with severity, location, advice and related remarks. -/

namespace SequenceTypes

inductive Severity where
  /-- Evaluation cannot go on. -/
  | error
  | warning
  | info
  deriving DecidableEq

def Severity.text : Severity → String
  | .error => "error"
  | .warning => "warning"
  | .info => "info"

/-- A remark that belongs to a report. -/
structure Remark where
  location : Option Location
  message : String

/-- A message for a reader. -/
structure Report where
  severity : Severity
  code : ErrorCode
  message : String
  location : Option Location
  help : Option String
  related : List Remark

namespace Report

/-- An error without location, advice or remarks. -/
def error (code : ErrorCode) (message : String) : Report := ⟨.error, code, message, none, none, []⟩

/-- The report as one line. -/
def text (r : Report) : String :=
  r.severity.text ++ ": " ++ r.code.text ++ " - " ++ r.message ++
    (match r.location with
    | some l => " at " ++ l.text
    | none => "")

end Report

/-- The report of a failure: the advice of its kind, and a remark on the binding that failed. -/
def Failure.report (f : Failure) : Report :=
  { Report.error f.code f.message with
    location := f.location
    help := f.kind.help?
    related := f.context.toList.map fun c => ⟨none, "while binding " ++ c⟩ }

end SequenceTypes
