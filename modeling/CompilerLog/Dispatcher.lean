import CompilerLog.Engine
/-!
# Dispatching lines

A line is offered to the engines in order until one of them holds an invocation. From then on every
line is passed over until the dispatcher is reset. An engine that fails stops nothing.
-/

namespace CompilerLog

/-- Engines in order, and the place of the one whose invocation counts. -/
structure Dispatcher (σ : Type) where
  engines : List (Engine σ)
  winner : Option Nat

namespace Dispatcher

variable {σ : Type}

def ofEngines (engines : List (Engine σ)) : Dispatcher σ := ⟨engines, none⟩

/-- Offers a line to engines, the first of which has the given place. Answers the place of the one
that holds an invocation, and the engines after the offer. -/
def offer [InfoSource σ] (line : String) :
    Nat → List (Engine σ) → Logged (Option Nat × List (Engine σ))
  | _, [] => pure (none, [])
  | place, engine :: rest => do
    let (outcome, engine) ← engine.matchLine line
    match outcome with
    | .ok true => do
      log .debug s!"Line matched by engine #{place} ({engine.name})"
      pure (some place, engine :: rest)
    | .ok false => do
      let (winner, rest) ← offer line (place + 1) rest
      pure (winner, engine :: rest)
    | .error error => do
      log .warn s!"Engine {engine.name} failed to parse line: {error.message}"
      let (winner, rest) ← offer line (place + 1) rest
      pure (winner, engine :: rest)

/-- Reads a line, unless an invocation is held already. -/
def readLine [InfoSource σ] (d : Dispatcher σ) (line : String) : Logged (Dispatcher σ) :=
  if d.winner.isSome then pure d
  else do
    let (winner, engines) ← offer line 0 d.engines
    pure ⟨engines, winner⟩

def result (d : Dispatcher σ) : Option Invocation :=
  (d.winner.bind (d.engines[·]?)).bind (·.result)

def reset (d : Dispatcher σ) : Dispatcher σ := ⟨d.engines.map Engine.reset, none⟩

theorem readLine_of_isSome [InfoSource σ] {d : Dispatcher σ} (h : d.winner.isSome = true)
    (line : String) : d.readLine line = pure d := by
  simp only [readLine, if_pos h]

@[simp] theorem result_reset (d : Dispatcher σ) : d.reset.result = none := rfl

theorem reset_reset (d : Dispatcher σ) : d.reset.reset = d.reset := by
  simp [reset]

end Dispatcher

end CompilerLog
