import CompilerLog.BuiltIn.Source
import Mathlib.Data.List.Induction
import Mathlib.Data.List.Nodup
/-!
# Probing each compiler once

What a caching source holds is told by the questions it was asked: a compiler that was asked about
is kept with its first answer, and the probe was asked about the compilers in the order in which
they came up. One question keeps this so, and with it any number of them, whatever the probe answers
and however its answers change.
-/

namespace CompilerLog

theorem eraseDups_concat (l : List String) (a : String) :
    (l ++ [a]).eraseDups = if a ∈ l then l.eraseDups else l.eraseDups ++ [a] := by
  have hone : [a].eraseDups = [a] := rfl
  by_cases ha : a ∈ l <;> simp [List.eraseDups_append, List.removeAll, ha, hone]

theorem nodup_eraseDups (l : List String) : l.eraseDups.Nodup := by
  induction l using List.reverseRecOn with
  | nil => exact List.nodup_nil
  | append_singleton l a ih =>
      rw [eraseDups_concat]
      split
      · exact ih
      · rename_i ha
        rw [← List.concat_eq_append]
        exact List.Nodup.concat (List.mem_eraseDups.not.mpr ha) ih

theorem lookup_cons_of_ne {α : Type} {key other : String} (h : other ≠ key) {a : α}
    {l : List (String × α)} : ((key, a) :: l).lookup other = l.lookup other := by
  rw [List.lookup_cons, beq_eq_false_iff_ne.mpr h]

namespace CachingSource

/-- The answers to questions asked one after the other, and the source after the last one. -/
def askAll (s : CachingSource) : List String → Logged (List InfoAnswer × CachingSource)
  | [] => pure ([], s)
  | compiler :: rest => do
    let (answer, s) ← s.ask compiler
    let (answers, s) ← s.askAll rest
    pure (answer :: answers, s)

/-- What the probe says of a compiler when the questions first come to it: it was asked about the
compilers in front of it, each of them once. -/
def firstAnswer (probe : Probe) (questions : List String) (compiler : String) : InfoAnswer :=
  answerOf (probe (questions.take (questions.idxOf compiler)).eraseDups compiler).value

/-- What is reported for one more question. -/
def report (probe : Probe) (questions : List String) (compiler : String) : List Record :=
  if compiler ∈ questions then [⟨.trace, s!"Built-in info of {compiler} served from cache"⟩]
  else (probe questions.eraseDups compiler).records

theorem firstAnswer_append {probe : Probe} {questions more : List String} {compiler : String}
    (h : compiler ∈ questions) :
    firstAnswer probe (questions ++ more) compiler = firstAnswer probe questions compiler := by
  have hplace := List.idxOf_lt_length_of_mem h
  rw [firstAnswer, List.idxOf_append_of_mem h, List.take_append_of_le_length (Nat.le_of_lt hplace)]
  rfl

theorem firstAnswer_concat {probe : Probe} {questions : List String} {compiler : String}
    (h : compiler ∉ questions) : firstAnswer probe (questions ++ [compiler]) compiler =
      answerOf (probe questions.eraseDups compiler).value := by
  rw [firstAnswer, List.idxOf_append_of_notMem h]
  simp

/-- What a source holds after questions. -/
structure Remembers (probe : Probe) (questions : List String) (s : CachingSource) : Prop where
  probe_eq : s.probe = probe
  asked_eq : s.asked = questions.eraseDups
  lookup_of_mem : ∀ compiler ∈ questions,
    s.answers.lookup compiler = some (firstAnswer probe questions compiler)
  lookup_of_not_mem : ∀ compiler ∉ questions, s.answers.lookup compiler = none

variable {probe : Probe} {questions : List String} {s : CachingSource}

theorem remembers_ofProbe (probe : Probe) : Remembers probe [] (ofProbe probe) where
  probe_eq := rfl
  asked_eq := rfl
  lookup_of_mem := by simp
  lookup_of_not_mem := by simp [ofProbe]

namespace Remembers

/-- The probe is asked about a compiler that comes up for the first time, and about no other. -/
theorem ask (h : Remembers probe questions s) (compiler : String) :
    (s.ask compiler).value.1 = firstAnswer probe (questions ++ [compiler]) compiler ∧
    Remembers probe (questions ++ [compiler]) (s.ask compiler).value.2 ∧
    (s.ask compiler).records = report probe questions compiler := by
  by_cases hc : compiler ∈ questions
  · have hask : s.ask compiler =
        log .trace s!"Built-in info of {compiler} served from cache" >>= fun _ =>
          pure (firstAnswer probe questions compiler, s) := by
      rw [CachingSource.ask, h.lookup_of_mem compiler hc]
    have hmem (other : String) : other ∈ questions ++ [compiler] ↔ other ∈ questions := by
      simp only [List.mem_append, List.mem_singleton, or_iff_left_iff_imp]
      rintro rfl
      exact hc
    rw [hask]
    refine ⟨(firstAnswer_append hc).symm, ?_, by simp [report, hc]⟩
    constructor
    · exact h.probe_eq
    · rw [eraseDups_concat, if_pos hc]
      exact h.asked_eq
    · intro other hother
      rw [hmem] at hother
      rw [firstAnswer_append hother]
      exact h.lookup_of_mem other hother
    · intro other hother
      rw [hmem] at hother
      exact h.lookup_of_not_mem other hother
  · have hask : s.ask compiler = probe questions.eraseDups compiler >>= fun output =>
        pure (answerOf output, { s with
          asked := questions.eraseDups ++ [compiler]
          answers := (compiler, answerOf output) :: s.answers }) := by
      rw [CachingSource.ask, h.lookup_of_not_mem compiler hc, h.probe_eq, h.asked_eq]
    rw [hask]
    refine ⟨(firstAnswer_concat hc).symm, ?_, by simp [report, hc]⟩
    constructor
    · exact h.probe_eq
    · rw [eraseDups_concat, if_neg hc]
      rfl
    · intro other hother
      by_cases hsame : other = compiler
      · subst hsame
        rw [firstAnswer_concat hc]
        exact List.lookup_cons_self
      · have hold : other ∈ questions := by simpa [hsame] using hother
        rw [firstAnswer_append hold, ← h.lookup_of_mem other hold]
        exact lookup_cons_of_ne hsame
    · intro other hother
      obtain ⟨hold, hsame⟩ := not_or.mp (List.mem_append.not.mp hother)
      rw [List.mem_singleton] at hsame
      rw [← h.lookup_of_not_mem other hold]
      exact lookup_cons_of_ne hsame

theorem askAll (h : Remembers probe questions s) (more : List String) :
    (s.askAll more).value.1 = more.map (firstAnswer probe (questions ++ more)) ∧
    Remembers probe (questions ++ more) (s.askAll more).value.2 := by
  induction more generalizing questions s with
  | nil =>
      rw [List.append_nil]
      exact ⟨rfl, h⟩
  | cons compiler rest ih =>
      obtain ⟨hanswer, hnext, _⟩ := h.ask compiler
      obtain ⟨hanswers, hlast⟩ := ih hnext
      rw [List.append_assoc, List.singleton_append] at hanswers hlast
      refine ⟨?_, hlast⟩
      have hfirst : firstAnswer probe (questions ++ compiler :: rest) compiler =
          firstAnswer probe (questions ++ [compiler]) compiler := by
        have hmem : compiler ∈ questions ++ [compiler] := by simp
        rw [← firstAnswer_append hmem, List.append_assoc, List.singleton_append]
      simp [CachingSource.askAll, hanswer, hanswers, hfirst]

end Remembers

end CachingSource

end CompilerLog
