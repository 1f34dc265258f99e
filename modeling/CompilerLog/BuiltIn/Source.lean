import CompilerLog.BuiltIn.ProbeOutput
import CompilerLog.Log
/-!
# Sources of built-in information

A source answers questions about compilers and may change with every question. `CachingSource` asks
a probe, and keeps every answer, failures included, so that no compiler is probed twice.
-/

namespace CompilerLog

/-- A state that answers questions about compilers. -/
class InfoSource (σ : Type) where
  /-- The answer about a compiler and the state after it. -/
  ask : σ → String → Logged (InfoAnswer × σ)

/-- Runs a compiler. The answer may depend on the compilers that were asked before. -/
abbrev Probe := (asked : List String) → (compiler : String) → Logged (Except InfoError ProbeOutput)

/-- A source that asks its probe once about each compiler. -/
structure CachingSource where
  probe : Probe
  /-- The compilers that the probe was asked about, in order. -/
  asked : List String
  /-- The answers kept, the latest first. -/
  answers : List (String × InfoAnswer)

namespace CachingSource

def ofProbe (probe : Probe) : CachingSource := ⟨probe, [], []⟩

/-- What the output of a probe answers: nothing, when it tells nothing. -/
def answerOf (output : Except InfoError ProbeOutput) : InfoAnswer :=
  output.map fun output => if output.info.isEmpty then none else some output.info

/-- Answers from what is kept, or else asks the probe. -/
def ask (s : CachingSource) (compiler : String) : Logged (InfoAnswer × CachingSource) :=
  match s.answers.lookup compiler with
  | some answer => do
    log .trace s!"Built-in info of {compiler} served from cache"
    pure (answer, s)
  | none => do
    let output ← s.probe s.asked compiler
    let answer := answerOf output
    pure (answer,
      { s with asked := s.asked ++ [compiler], answers := (compiler, answer) :: s.answers })

instance : InfoSource CachingSource := ⟨ask⟩

end CachingSource

end CompilerLog
