import CompilerLog.Proofs.BuiltIn.Source
import CompilerLog.Proofs.Engine
/-!
# What an engine asks its source

An engine asks its source about one compiler at most for each line, and about none when the line is
not accepted, names no compiler, or comes while an invocation is held or the source may not be
asked. What its source is asked over the life of an engine is therefore a list of questions like any
other, and a source that keeps its answers probes no compiler twice.
-/

namespace CompilerLog.Engine

variable {σ : Type} [InfoSource σ] {e : Engine σ} {line : String}

/-- The compiler that the source is asked about when a line is read. -/
def question? (e : Engine σ) (line : String) : Option String :=
  if e.result.isSome || !e.infoEnabled then none
  else (e.accepted? line).bind fun found =>
    if found.hasCompiler then some found.compiler else none

/-- A command, or whether the source may be asked from now on. -/
inductive Instruction where
  | command (command : Command)
  | setInfo (enabled : Bool)
  deriving DecidableEq, Repr

def follow (e : Engine σ) : Instruction → Engine σ
  | .command command => e.obey command
  | .setInfo enabled => e.setInfoEnabled enabled

def followAll (e : Engine σ) (instructions : List Instruction) : Engine σ :=
  instructions.foldl follow e

def questionOf? (e : Engine σ) : Instruction → Option String
  | .command (.read line) => e.question? line
  | _ => none

/-- What the source is asked on the way through instructions. -/
def questions (e : Engine σ) : List Instruction → List String
  | [] => []
  | instruction :: rest =>
    (e.questionOf? instruction).toList ++ (e.follow instruction).questions rest

theorem source_matchLine {s : σ} (hs : e.source = some s) (line : String) :
    (e.matchLine line).value.2.source =
      some ((e.question? line).elim s fun compiler => (InfoSource.ask s compiler).value.2) := by
  cases hresult : e.result with
  | some held =>
      have hheld : e.result.isSome = true := by rw [hresult]; rfl
      rw [matchLine_of_isSome hheld]
      simp [question?, hresult, hs]
  | none =>
      cases haccepted : e.accepted? line with
      | none =>
          obtain ⟨outcome, hvalue, _⟩ := value_matchLine_of_not_accepted hresult haccepted
          simp [hvalue, question?, haccepted, hs]
      | some found =>
          rw [value_matchLine_of_accepted hresult haccepted]
          cases hinfo : e.infoEnabled with
          | false => simp [hold, enrich, question?, hinfo, hs]
          | true =>
              cases hcompiler : found.hasCompiler <;>
                simp [hold, enrich, question?, hinfo, hs, hresult, haccepted, hcompiler]

section CachingSource

open CachingSource

variable {e : Engine CachingSource} {probe : Probe} {earlier : List String} {s : CachingSource}

theorem exists_remembers_follow (he : e.source = some s) (hs : Remembers probe earlier s)
    (instruction : Instruction) :
    ∃ later, (e.follow instruction).source = some later ∧
      Remembers probe (earlier ++ (e.questionOf? instruction).toList) later := by
  cases instruction with
  | setInfo enabled => exact ⟨s, he, by simpa [questionOf?] using hs⟩
  | command command =>
      cases command with
      | reset => exact ⟨s, he, by simpa [questionOf?] using hs⟩
      | read line =>
          refine ⟨_, source_matchLine he line, ?_⟩
          cases hquestion : e.question? line with
          | none => simpa [questionOf?, hquestion] using hs
          | some compiler =>
              simp only [questionOf?, hquestion, Option.toList_some, Option.elim_some]
              exact (hs.ask compiler).2.1

theorem exists_remembers_followAll (he : e.source = some s) (hs : Remembers probe earlier s)
    (instructions : List Instruction) :
    ∃ later, (e.followAll instructions).source = some later ∧
      Remembers probe (earlier ++ e.questions instructions) later := by
  induction instructions generalizing e earlier s with
  | nil => exact ⟨s, he, by simpa [questions] using hs⟩
  | cons instruction rest ih =>
      obtain ⟨next, hnext, hremembers⟩ := exists_remembers_follow he hs instruction
      obtain ⟨later, hlater, hall⟩ := ih hnext hremembers
      rw [List.append_assoc] at hall
      exact ⟨later, hlater, hall⟩

end CachingSource

end CompilerLog.Engine

namespace CompilerLog.CachingSource

/-- The compilers that a probe is asked about are those that its source is asked about, each once,
in the order in which they come up, and every question is answered as the first one about the same
compiler was, with what the probe said then. For a compiler that came up before nothing is reported
but that it did, and nothing of the probe. The same holds for an engine that goes on with the
source, whatever it is told: no compiler is probed twice. -/
theorem each_compiler_is_probed_once (probe : Probe) (questions : List String) :
    let run := (ofProbe probe).askAll questions
    run.value.2.asked = questions.eraseDups ∧
    run.value.1.length = questions.length ∧
    (∀ (i : Nat) compiler, questions[i]? = some compiler →
      run.value.1[i]? = run.value.1[questions.idxOf compiler]? ∧
      run.value.1[i]? = some
        (answerOf (probe (questions.take (questions.idxOf compiler)).eraseDups compiler).value)) ∧
    (∀ compiler, (run.value.2.ask compiler).records =
      if compiler ∈ questions then [⟨.trace, s!"Built-in info of {compiler} served from cache"⟩]
      else (probe questions.eraseDups compiler).records) ∧
    ∀ e : Engine CachingSource, e.source = some run.value.2 → ∀ instructions,
      ∃ later, (e.followAll instructions).source = some later ∧
        later.asked = (questions ++ e.questions instructions).eraseDups ∧ later.asked.Nodup := by
  intro run
  obtain ⟨hanswers, hremembers⟩ := (remembers_ofProbe probe).askAll questions
  rw [List.nil_append] at hanswers hremembers
  refine ⟨hremembers.asked_eq, ?_, ?_, fun compiler => (hremembers.ask compiler).2.2, ?_⟩
  · rw [hanswers, List.length_map]
  · intro i compiler hi
    have hmem : compiler ∈ questions := List.mem_of_getElem? hi
    rw [hanswers, List.getElem?_map, List.getElem?_map, hi, List.getElem?_idxOf hmem]
    exact ⟨rfl, rfl⟩
  · intro e he instructions
    obtain ⟨later, hlater, hall⟩ := Engine.exists_remembers_followAll he hremembers instructions
    refine ⟨later, hlater, hall.asked_eq, ?_⟩
    rw [hall.asked_eq]
    exact nodup_eraseDups _

/-- A probe that fails at first and would answer later on; the engine comes back to the compiler
behind a reset, once without and once with the leave to ask. -/
theorem each_compiler_is_probed_once_though_it_fails :
    let probe : Probe := fun asked compiler =>
      if asked = [] then pure (.error (.notFound compiler)) else pure (.ok ⟨"#define A 1", ""⟩)
    let dialect : Dialect := .other "words"
      (fun _ line => pure (.ok { Invocation.empty with compiler := line })) []
    let e : Engine CachingSource := ⟨⟨[], []⟩, dialect, some (ofProbe probe), true, none⟩
    let instructions : List Engine.Instruction :=
      [.command (.read "g++"), .command (.read "avr-g++"), .command .reset, .setInfo false,
        .command (.read "avr-g++"), .command .reset, .setInfo true, .command (.read "g++"),
        .command .reset, .command (.read "avr-g++")]
    e.source = some ((ofProbe probe).askAll []).value.2 ∧
      e.questions instructions = ["g++", "g++", "avr-g++"] ∧
      (∃ later, (e.followAll instructions).source = some later ∧
        later.asked = ["g++", "avr-g++"]) ∧
      ((ofProbe probe).askAll ["g++", "avr-g++", "g++"]).value.1[2]? =
        some (.error (.notFound "g++")) := by
  intro probe dialect e instructions
  have hquestions : e.questions instructions = ["g++", "g++", "avr-g++"] := by rfl
  obtain ⟨_, _, _, _, hengine⟩ := each_compiler_is_probed_once probe []
  obtain ⟨later, hlater, hasked, _⟩ := hengine e rfl instructions
  obtain ⟨_, _, hanswers, _⟩ := each_compiler_is_probed_once probe ["g++", "avr-g++", "g++"]
  refine ⟨rfl, hquestions, ⟨later, hlater, ?_⟩, (hanswers 2 "g++" rfl).2⟩
  rw [hasked, hquestions]
  decide

end CompilerLog.CachingSource
