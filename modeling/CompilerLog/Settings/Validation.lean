import CompilerLog.Settings
import CompilerLog.Text.Blank
/-!
# Validation of settings

Every part of the settings gives a report, and the report on the whole joins those of its parts:
nothing wrong, one violation, or several in the order of the fields. Each violation names the field
at fault.
-/

namespace CompilerLog

/-- One thing that is wrong with settings. -/
inductive Violation where
  | emptyText (field : String)
  | emptyList (field : String)
  | invalidPattern (field fault : String)
  deriving DecidableEq, Repr

namespace Violation

def field : Violation → String
  | emptyText field | emptyList field | invalidPattern field _ => field

def message : Violation → String
  | emptyText field => s!"Empty string value for field '{field}'"
  | emptyList field => s!"Empty list for field '{field}'"
  | invalidPattern field fault => s!"Invalid regular expression in field '{field}': {fault}"

def labelled (kind : String) (parts : List (String × String)) : String :=
  let listing := parts.map fun (name, text) => name ++ ": " ++ Text.Quoted.quote text
  kind ++ " \x7b " ++ ", ".intercalate listing ++ " \x7d"

def listed : Violation → String
  | emptyText field => labelled "EmptyString" [("field", field)]
  | emptyList field => labelled "EmptyList" [("field", field)]
  | invalidPattern field fault =>
    labelled "InvalidPattern" [("field", field), ("message", fault)]

end Violation

/-- What a check finds. -/
inductive Report where
  | valid
  | single (violation : Violation)
  | several (violations : List Violation)
  deriving DecidableEq, Repr

namespace Report

/-- The violations of a report, in order. -/
def violations : Report → List Violation
  | valid => []
  | single violation => [violation]
  | several violations => violations

def ofList : List Violation → Report
  | [] => valid
  | [violation] => single violation
  | violations => several violations

@[simp] theorem violations_ofList (l : List Violation) : (ofList l).violations = l := by
  match l with
  | [] => rfl
  | [_] => rfl
  | _ :: _ :: _ => rfl

/-- Joins reports, in order. -/
def all (reports : List Report) : Report := ofList (reports.flatMap violations)

def require (condition : Bool) (violation : Violation) : Report :=
  if condition then valid else single violation

def message? : Report → Option String
  | valid => none
  | single violation => some violation.message
  | several violations =>
    let listing := ", ".intercalate (violations.map Violation.listed)
    some s!"Multiple validation errors: [{listing}]"

end Report

variable (compile : RegexCompiler)

def Pattern.validate (field : String) : Pattern → Report
  | .literal text => .require (text ≠ "") (.emptyText field)
  | .regex expression =>
    match compile expression with
    | .ok _ => .valid
    | .error fault => .single (.invalidPattern field fault)

/-- Checks the patterns of a field, the first of which has the given place. -/
def Pattern.validateAll (field : String) : Nat → List Pattern → List Report
  | _, [] => []
  | place, pattern :: rest =>
    pattern.validate compile s!"{field}[{place}]" :: validateAll field (place + 1) rest

def EngineSettings.validate (place : Nat) (e : EngineSettings) : Report :=
  let field := s!"parsers[{place}]"
  .all (.require (e.required ≠ []) (.emptyList s!"{field}.match") ::
    Pattern.validateAll compile s!"{field}.match" 0 e.required ++
    Pattern.validateAll compile s!"{field}.dont_match" 0 e.forbidden)

/-- Checks the settings of engines, the first of which has the given place. -/
def EngineSettings.validateAll : Nat → List EngineSettings → List Report
  | _, [] => []
  | place, e :: rest => e.validate compile place :: validateAll (place + 1) rest

def OutputSettings.validate (o : OutputSettings) : Report :=
  .require (!Text.isAllBlank o.configuration) (.emptyText "properties.configuration")

def Settings.validate (s : Settings) : Report :=
  .all (.require (!s.engines.isEmpty) (.emptyList "parsers") ::
    EngineSettings.validateAll compile 0 s.engines ++ [s.output.validate])

end CompilerLog
