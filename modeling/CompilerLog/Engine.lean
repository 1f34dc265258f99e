import CompilerLog.BuiltIn.Source
import CompilerLog.Gcc.CommandLine
import CompilerLog.Trigger
/-!
# Engines

An engine reads the lines that its trigger accepts in one dialect of command lines, and holds the
first invocation that it finds until it is reset. A source of built-in information adds what the
compiler brings along; it can neither change nor spoil what was read.
-/

namespace CompilerLog

/-- A dialect of command lines, with what it keeps from one line to the next. -/
inductive Dialect where
  /-- The command lines of gcc. -/
  | gcc (reader : TextReader) (directories : Gcc.DirectoryOptions)
  /-- Any other one. What it makes of a line may depend on the lines read before, whether they could
  be read or not. -/
  | other (name : String)
      (answer : (earlier : List String) → String → Logged (Except Gcc.ExpansionError Invocation))
      (earlier : List String)

namespace Dialect

def echo : Dialect :=
  other "echo" (fun _ line => pure (.ok { Invocation.empty with options := [line] })) []

def name : Dialect → String
  | gcc _ _ => "gcc"
  | other name _ _ => name

/-- The directory options kept, in a dialect that has them. -/
def directories? : Dialect → Option Gcc.DirectoryOptions
  | gcc _ directories => some directories
  | other _ _ _ => none

/-- Reads a line. The state is kept also when reading fails. -/
def read (d : Dialect) (line : String) :
    Logged (Except Gcc.ExpansionError Invocation × Dialect) :=
  match d with
  | gcc reader directories => do
    let reading ← Gcc.readLine reader directories line
    pure (reading.outcome, gcc reader reading.directories)
  | other name answer earlier => do
    let outcome ← answer earlier line
    pure (outcome, other name answer (earlier ++ [line]))

end Dialect

/-- What came of adding built-in information. -/
inductive Enrichment where
  | disabled
  | noSource
  | noCompiler
  | noData
  | applied
  | failed (error : InfoError)
  deriving DecidableEq, Repr

def Enrichment.report : Enrichment → Logged Unit
  | failed error => log .warn s!"Built-in info is not available: {error.message}"
  | disabled => log .debug "Built-in info enrichment: Disabled"
  | noSource => log .debug "Built-in info enrichment: NoSource"
  | noCompiler => log .debug "Built-in info enrichment: NoCompiler"
  | noData => log .debug "Built-in info enrichment: NoData"
  | applied => log .debug "Built-in info enrichment: Applied"

/-- The invocation with the directories and defines of the compiler behind its own. -/
def Invocation.enrich (i : Invocation) (info : BuiltInInfo) : Invocation :=
  { i with includes := i.includes ++ info.includes, defines := i.defines ++ info.defines }

def Invocation.applyAnswer (i : Invocation) : InfoAnswer → Invocation × Enrichment
  | .ok (some info) => (i.enrich info, .applied)
  | .ok none => (i, .noData)
  | .error error => (i, .failed error)

/-- A dialect with a trigger. -/
structure Engine (σ : Type) where
  trigger : Trigger
  dialect : Dialect
  source : Option σ
  infoEnabled : Bool
  /-- The invocation held. -/
  result : Option Invocation

namespace Engine

variable {σ : Type}

def ofDialect (trigger : Trigger) (dialect : Dialect) : Engine σ :=
  ⟨trigger, dialect, none, true, none⟩

def name (e : Engine σ) : String := e.dialect.name

/-- Says whether the source may be asked from now on. -/
def setInfoEnabled (e : Engine σ) (enabled : Bool) : Engine σ := { e with infoEnabled := enabled }

/-- Asks the source about the compiler of an invocation, if there is something to ask. -/
def enrich [InfoSource σ] (e : Engine σ) (found : Invocation) :
    Logged ((Invocation × Enrichment) × Option σ) :=
  if !e.infoEnabled then pure ((found, .disabled), e.source)
  else match e.source with
    | none => pure ((found, .noSource), none)
    | some source =>
      if !found.hasCompiler then pure ((found, .noCompiler), some source)
      else do
        let (answer, source) ← InfoSource.ask source found.compiler
        pure (found.applyAnswer answer, some source)

/-- Reads a line that the trigger accepts, unless an invocation is held already. Answers whether
one is held afterwards. -/
def matchLine [InfoSource σ] (e : Engine σ) (line : String) :
    Logged (Except Gcc.ExpansionError Bool × Engine σ) :=
  if e.result.isSome then pure (.ok true, e)
  else do
    let accepted ← e.trigger.test line
    if !accepted then pure (.ok false, e)
    else do
      let (outcome, dialect) ← e.dialect.read line
      let e := { e with dialect }
      match outcome with
      | .error error => pure (.error error, e)
      | .ok found => do
        log .debug s!"Engine {e.name} matched line: {line}"
        let ((found, enrichment), source) ← e.enrich found
        enrichment.report
        pure (.ok true, { e with source, result := some found })

def reset (e : Engine σ) : Engine σ := { e with result := none }

@[simp] theorem result_reset (e : Engine σ) : e.reset.result = none := rfl

@[simp] theorem reset_reset (e : Engine σ) : e.reset.reset = e.reset := rfl

theorem matchLine_of_isSome [InfoSource σ] {e : Engine σ} (h : e.result.isSome = true)
    (line : String) : e.matchLine line = pure (.ok true, e) := by
  simp only [matchLine, if_pos h]

end Engine

end CompilerLog
