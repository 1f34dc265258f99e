import CompilerLog.Engine
/-!
# What an engine makes of a line

An engine that holds nothing accepts a line or attempts it in vain, and then all that is left of the
attempt is what the dialect keeps. The source is asked only for a line that is accepted.
-/

namespace CompilerLog.Engine

variable {σ : Type} {e : Engine σ} {line : String} {found : Invocation}

/-- What an engine finds in a line, if its trigger accepts the line and its dialect can read it. -/
def accepted? (e : Engine σ) (line : String) : Option Invocation :=
  if e.trigger.accepts line then (e.dialect.read line).value.1.toOption else none

/-- The engine after a line that is offered to it, as far as its dialect goes. -/
def attempt (e : Engine σ) (line : String) : Engine σ :=
  if e.trigger.accepts line then { e with dialect := (e.dialect.read line).value.2 } else e

def attempts (e : Engine σ) (lines : List String) : Engine σ := lines.foldl attempt e

/-- The engine that holds what it found, with what its source knows about the compiler. -/
def hold [InfoSource σ] (e : Engine σ) (found : Invocation) : Engine σ :=
  { e with source := (e.enrich found).value.2, result := some (e.enrich found).value.1.1 }

@[simp] theorem source_attempt : (e.attempt line).source = e.source := by
  unfold attempt; split <;> rfl

@[simp] theorem infoEnabled_attempt : (e.attempt line).infoEnabled = e.infoEnabled := by
  unfold attempt; split <;> rfl

@[simp] theorem result_attempt : (e.attempt line).result = e.result := by
  unfold attempt; split <;> rfl

@[simp] theorem attempts_nil (e : Engine σ) : e.attempts [] = e := rfl

@[simp] theorem attempts_cons (e : Engine σ) (line : String) (lines : List String) :
    e.attempts (line :: lines) = (e.attempt line).attempts lines := rfl

theorem attempts_append (e : Engine σ) (lines more : List String) :
    e.attempts (lines ++ more) = (e.attempts lines).attempts more :=
  List.foldl_append

theorem attempts_take_succ (e : Engine σ) {lines : List String} {i : Nat} (hi : i < lines.length) :
    e.attempts (lines.take (i + 1)) = (e.attempts (lines.take i)).attempt lines[i] := by
  rw [← List.take_append_getElem hi, attempts_append]
  rfl

@[simp] theorem result_attempts {lines : List String} : (e.attempts lines).result = e.result := by
  induction lines generalizing e with
  | nil => rfl
  | cons line lines ih => rw [attempts_cons, ih, result_attempt]

/-- Attempts in vain do not change what the source is asked and what it answers. -/
theorem enrich_attempts [InfoSource σ] {lines : List String} :
    (e.attempts lines).enrich found = e.enrich found := by
  induction lines generalizing e with
  | nil => rfl
  | cons line lines ih =>
      rw [attempts_cons, ih]
      simp only [enrich, infoEnabled_attempt, source_attempt]

section MatchLine

variable [InfoSource σ]

theorem value_matchLine_of_not_accepted (he : e.result = none)
    (h : e.accepted? line = none) :
    ∃ outcome, (e.matchLine line).value = (outcome, e.attempt line) ∧ outcome ≠ .ok true := by
  unfold accepted? at h
  unfold matchLine attempt
  by_cases hline : e.trigger.accepts line = true
  · cases hread : (e.dialect.read line).value.1 with
    | error error =>
        refine ⟨.error error, ?_, nofun⟩
        simp [he, Trigger.value_test, hline, hread]
    | ok found => simp [hline, hread, Except.toOption] at h
  · exact ⟨.ok false, by simp [he, Trigger.value_test, hline], by simp⟩

theorem value_matchLine_of_accepted (he : e.result = none)
    (h : e.accepted? line = some found) :
    (e.matchLine line).value = (.ok true, (e.attempt line).hold found) := by
  unfold accepted? at h
  by_cases hline : e.trigger.accepts line = true
  · cases hread : (e.dialect.read line).value.1 with
    | error error => simp [hline, hread, Except.toOption] at h
    | ok other =>
        obtain rfl : other = found := by simpa [hline, hread, Except.toOption] using h
        simp [matchLine, attempt, hold, he, Trigger.value_test, hline, hread]
  · simp [hline] at h

/-- What an engine can be told. -/
inductive Command where
  | read (line : String)
  | reset
  deriving DecidableEq, Repr

/-- The engine after a command, whether a line could be read or not. -/
def obey (e : Engine σ) : Command → Engine σ
  | .read line => (e.matchLine line).value.2
  | .reset => e.reset

def obeyAll (e : Engine σ) (commands : List Command) : Engine σ := commands.foldl obey e

end MatchLine

end CompilerLog.Engine
