import CompilerLog.Log
import CompilerLog.Text.Quoted
/-!
# Triggers

A trigger decides from the raw line whether it is worth reading. A line is accepted when every
required pattern is found in it and no forbidden one is. Patterns are tried in order, and the first
one that decides ends the search. What a regular expression is and what it finds is left to the
compiler of expressions that a trigger is made with.
-/

namespace CompilerLog

/-- Compiles a regular expression: answers the search for it, or what is wrong with it. -/
abbrev RegexCompiler := (expression : String) → Except String (String → Bool)

/-- A pattern as it is written. -/
inductive Pattern where
  | literal (text : String)
  | regex (expression : String)
  deriving DecidableEq, Repr

def Pattern.text : Pattern → String
  | .literal text => "literal " ++ Text.Quoted.quote text
  | .regex expression => "regex " ++ Text.Quoted.quote expression

def isInfix (part : List Char) : List Char → Bool
  | [] => part.isEmpty
  | c :: rest => part.isPrefixOf (c :: rest) || isInfix part rest

/-- A pattern with the search for it. -/
structure Search where
  pattern : Pattern
  isFound : String → Bool

/-- Why a trigger could not be made. -/
inductive TriggerError where
  | invalidPattern (expression fault : String)
  deriving DecidableEq, Repr

def TriggerError.message : TriggerError → String
  | invalidPattern expression fault => s!"Invalid trigger pattern '{expression}': {fault}"

/-- The search for a pattern, or the expression at fault. -/
def Pattern.search (compile : RegexCompiler) : Pattern → Except TriggerError Search
  | .literal text => .ok ⟨.literal text, fun line => isInfix text.toList line.toList⟩
  | .regex expression =>
    match compile expression with
    | .ok isFound => .ok ⟨.regex expression, isFound⟩
    | .error fault => .error (.invalidPattern expression fault)

/-- What has to be found in a line, and what must not be found. -/
structure Trigger where
  required : List Search
  forbidden : List Search

namespace Trigger

/-- The trigger with the given patterns, or the first expression at fault, the required ones
before the forbidden ones. -/
def ofPatterns (compile : RegexCompiler) (required forbidden : List Pattern) :
    Except TriggerError Trigger := do
  let required ← required.mapM (Pattern.search compile)
  let forbidden ← forbidden.mapM (Pattern.search compile)
  pure ⟨required, forbidden⟩

def missing? (t : Trigger) (line : String) : Option Pattern :=
  (t.required.find? fun s => !s.isFound line).map (·.pattern)

def unwanted? (t : Trigger) (line : String) : Option Pattern :=
  (t.forbidden.find? fun s => s.isFound line).map (·.pattern)

def accepts (t : Trigger) (line : String) : Bool :=
  t.required.all (·.isFound line) && t.forbidden.all fun s => !s.isFound line

def test (t : Trigger) (line : String) : Logged Bool :=
  match t.missing? line, t.unwanted? line with
  | some pattern, _ => do
    log .trace s!"Trigger rejected line, missing {pattern.text}"
    pure false
  | none, some pattern => do
    log .trace s!"Trigger rejected line, found {pattern.text}"
    pure false
  | none, none => pure true

theorem value_test (t : Trigger) (line : String) : (t.test line).value = t.accepts line := by
  have all_not (l : List Search) :
      (l.all fun s => !s.isFound line) = true ↔ l.find? (fun s => s.isFound line) = none := by
    simp [List.find?_eq_none]
  have all_found (l : List Search) :
      l.all (·.isFound line) = true ↔ l.find? (fun s => !s.isFound line) = none := by
    simp [List.find?_eq_none]
  unfold test accepts missing? unwanted?
  cases hr : t.required.find? fun s => !s.isFound line with
  | some s =>
    have : t.required.all (·.isFound line) = false := by
      rw [← Bool.not_eq_true, all_found, hr]; simp
    simp [this]
  | none =>
    have hall := (all_found t.required).2 hr
    cases hf : t.forbidden.find? fun s => s.isFound line with
    | some s =>
      have : (t.forbidden.all fun s => !s.isFound line) = false := by
        rw [← Bool.not_eq_true, all_not, hf]; simp
      simp [hall, this]
    | none => simp [hall, (all_not t.forbidden).2 hf]

end Trigger

end CompilerLog
