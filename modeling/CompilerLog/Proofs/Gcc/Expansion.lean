import CompilerLog.Proofs.Gcc.Part
import Mathlib.Data.List.Nodup
/-!
# Expanding response files

The calls that reading a line is made of, as rules over a stack of open files: a file is put on the
stack when it is entered and taken off when its lines are read, whatever comes of them. The rules
ask nothing of the reader, which may answer differently each time, and nothing ends them but the
limits that `Expansion.enter` checks. Every call ends, leaves the stack as it was, and never has
more than `ResponseFile.maxDepth` files open.

The rules describe the function that `readWords` computes. There the open files are an argument and
the reader only looks at the path, which is enough to read with but says nothing of a stack that is
given back or of what was asked before. For such a reader both are the same function:
`exists_returns_readLine` says that the call for a line returns, and with what `readLine` answers;
`Returns.answers` is the statement for any words, with any files open.
-/

namespace CompilerLog.Gcc

/-- What a reader is asked: a path, while some files are open, the outermost first. -/
structure Question where
  opened : List String
  path : String

/-- A reader whose answers may depend on all that it was asked before. -/
abbrev AdaptiveReader := List Question → TextReader

/-- What one call hands on to the next: beside the directory options the files being expanded, the
outermost first, and what the reader was asked so far. -/
structure Expansion where
  directories : DirectoryOptions
  stack : List String
  questions : List Question

namespace Expansion

def start (d : DirectoryOptions) : Expansion := ⟨d, [], []⟩

def ask (s : Expansion) (path : String) : Expansion :=
  { s with questions := s.questions ++ [⟨s.stack, path⟩] }

def push (s : Expansion) (path : String) : Expansion := { s with stack := s.stack ++ [path] }

@[simp] theorem stack_ask (s : Expansion) (path : String) : (s.ask path).stack = s.stack := rfl

@[simp] theorem questions_ask (s : Expansion) (path : String) :
    (s.ask path).questions = s.questions ++ [⟨s.stack, path⟩] := rfl

@[simp] theorem stack_push (s : Expansion) (path : String) :
    (s.push path).stack = s.stack ++ [path] := rfl

@[simp] theorem questions_push (s : Expansion) (path : String) :
    (s.push path).questions = s.questions := rfl

/-- Reads a file and puts it on the stack. A file that is being expanded already is not read, nor is
one beyond the limit, and without its text nothing is put on the stack. -/
def enter (reader : AdaptiveReader) (s : Expansion) (path : String) :
    Except ExpansionError String × Expansion :=
  if s.stack.any (Path.same path) then (.error (.cycle path), s)
  else if ResponseFile.maxDepth ≤ s.stack.length then (.error (.tooDeep path), s)
  else
    match reader s.questions path with
    | .error cause => (.error (.unreadable path cause), s.ask path)
    | .ok text => (.ok text, (s.ask path).push path)

def leave (s : Expansion) : Expansion := { s with stack := s.stack.dropLast }

@[simp] theorem stack_leave (s : Expansion) : s.leave.stack = s.stack.dropLast := rfl

@[simp] theorem questions_leave (s : Expansion) : s.leave.questions = s.questions := rfl

end Expansion

/-- What can be asked for: to read parts into what is found before them, or to read a file. -/
inductive Call where
  | line (parts : List Part) (found : Invocation)
  | file (path : String)

/-- The call made in one state returns with an outcome and another state, having at most `levels`
more files open at a time on the way. -/
inductive Returns (reader : AdaptiveReader) :
    Call → Expansion → Nat → Except ExpansionError Invocation → Expansion → Prop
  | finished {found s} : Returns reader (.line [] found) s 0 (.ok found) s
  | part {p rest found s levels outcome t} (hp : p.path? = none) :
      Returns reader (.line rest (p.add s.directories found))
        { s with directories := p.directories s.directories } levels outcome t →
      Returns reader (.line (p :: rest) found) s levels outcome t
  | spliced {reference path rest found s inner file t outer outcome u} :
      Returns reader (.file path) s inner (.ok file) t →
      Returns reader (.line rest (sortOut reference (splice file found))) t outer outcome u →
      Returns reader (.line (.file reference path :: rest) found) s (max inner outer) outcome u
  | failed {reference path rest found s levels error t} :
      Returns reader (.file path) s levels (.error error) t →
      Returns reader (.line (.file reference path :: rest) found) s levels (.error error) t
  | refused {path s error t} : s.enter reader path = (.error error, t) →
      Returns reader (.file path) s 0 (.error error) t
  | expanded {path s text t levels outcome u} : s.enter reader path = (.ok text, t) →
      Returns reader (.line (parts (argumentsOf text)) .empty) t levels outcome u →
      Returns reader (.file path) s (levels + 1) outcome u.leave

def Distinct (stack : List String) : Prop := (stack.map Path.components).Nodup

/-- A stack on which a file can be put: it has room, and the file is not on it yet. -/
def Admits (stack : List String) (path : String) : Prop :=
  stack.length < ResponseFile.maxDepth ∧ Path.components path ∉ stack.map Path.components

theorem any_same_iff {stack : List String} {path : String} :
    stack.any (Path.same path) = true ↔ Path.components path ∈ stack.map Path.components := by
  simp only [List.any_eq_true, Path.same_iff, List.mem_map]
  exact exists_congr fun p => and_congr_right fun _ => eq_comm

theorem Distinct.concat {stack : List String} {path : String} (h : Distinct stack)
    (hpath : Admits stack path) : Distinct (stack ++ [path]) := by
  rw [Distinct, List.map_append, List.map_singleton, ← List.concat_eq_append]
  exact List.Nodup.concat hpath.2 h

namespace Expansion

theorem enter_cases (reader : AdaptiveReader) (s : Expansion) (path : String) :
    (Path.components path ∈ s.stack.map Path.components ∧
      s.enter reader path = (.error (.cycle path), s)) ∨
    (Path.components path ∉ s.stack.map Path.components ∧
      ResponseFile.maxDepth ≤ s.stack.length ∧
      s.enter reader path = (.error (.tooDeep path), s)) ∨
    (Admits s.stack path ∧ ∃ cause, reader s.questions path = .error cause ∧
      s.enter reader path = (.error (.unreadable path cause), s.ask path)) ∨
    (Admits s.stack path ∧ ∃ text, reader s.questions path = .ok text ∧
      s.enter reader path = (.ok text, (s.ask path).push path)) := by
  by_cases hcycle : s.stack.any (Path.same path) = true
  · exact .inl ⟨any_same_iff.mp hcycle, if_pos hcycle⟩
  have hfree := any_same_iff.not.mp hcycle
  by_cases hdepth : ResponseFile.maxDepth ≤ s.stack.length
  · exact .inr (.inl ⟨hfree, hdepth, by rw [enter, if_neg hcycle, if_pos hdepth]⟩)
  have hadmits : Admits s.stack path := ⟨Nat.lt_of_not_le hdepth, hfree⟩
  refine .inr (.inr ?_)
  cases hread : reader s.questions path with
  | error cause =>
      exact .inl ⟨hadmits, cause, rfl, by rw [enter, if_neg hcycle, if_neg hdepth, hread]⟩
  | ok text =>
      exact .inr ⟨hadmits, text, rfl, by rw [enter, if_neg hcycle, if_neg hdepth, hread]⟩

/-- A file that cannot be entered leaves the stack alone, and was asked for only if it could be
put there. -/
theorem of_enter_error {reader : AdaptiveReader} {s t : Expansion} {path : String}
    {error : ExpansionError} (h : s.enter reader path = (.error error, t)) :
    t = s ∨ Admits s.stack path ∧ t = s.ask path := by
  rcases enter_cases reader s path with ⟨_, henter⟩ | ⟨_, _, henter⟩ |
    ⟨hadmits, _, _, henter⟩ | ⟨_, _, _, henter⟩ <;> rw [henter] at h <;> cases h
  · exact .inl rfl
  · exact .inl rfl
  · exact .inr ⟨hadmits, rfl⟩

theorem of_enter_ok {reader : AdaptiveReader} {s t : Expansion} {path text : String}
    (h : s.enter reader path = (.ok text, t)) :
    Admits s.stack path ∧ reader s.questions path = .ok text ∧ t = (s.ask path).push path := by
  rcases enter_cases reader s path with ⟨_, henter⟩ | ⟨_, _, henter⟩ |
    ⟨_, _, _, henter⟩ | ⟨hadmits, _, hread, henter⟩ <;> rw [henter] at h <;> cases h
  exact ⟨hadmits, hread, rfl⟩

end Expansion

variable {reader : AdaptiveReader} {call : Call} {s t : Expansion} {levels : Nat}
  {outcome : Except ExpansionError Invocation}

/-- A call that returns, in whichever way, leaves the stack as it found it. -/
theorem Returns.stack_eq (h : Returns reader call s levels outcome t) : t.stack = s.stack := by
  induction h with
  | finished => rfl
  | part _ _ ih => exact ih
  | spliced _ _ ihFile ihRest => exact ihRest.trans ihFile
  | failed _ ih => exact ih
  | refused henter =>
      rcases Expansion.of_enter_error henter with rfl | ⟨_, rfl⟩
      · rfl
      · rfl
  | @expanded path s text t _ _ u henter _ ih =>
      obtain ⟨_, _, rfl⟩ := Expansion.of_enter_ok henter
      rw [Expansion.stack_leave, ih]
      exact List.dropLast_concat

/-- However a call ends, it has no more files open at a time than there is room for. -/
theorem Returns.levels_le (h : Returns reader call s levels outcome t)
    (hs : s.stack.length ≤ ResponseFile.maxDepth) :
    levels + s.stack.length ≤ ResponseFile.maxDepth := by
  induction h with
  | finished => simpa using hs
  | part _ _ ih => exact ih hs
  | spliced hfile _ ihFile ihRest =>
      have hinner := ihFile hs
      have houter := ihRest (hfile.stack_eq ▸ hs)
      rw [hfile.stack_eq] at houter
      omega
  | failed _ ih => exact ih hs
  | refused _ => simpa using hs
  | expanded henter _ ih =>
      obtain ⟨⟨hroom, _⟩, _, rfl⟩ := Expansion.of_enter_ok henter
      have hinner := ih (by simpa using Nat.succ_le_of_lt hroom)
      simp only [Expansion.stack_push, Expansion.stack_ask, List.length_append,
        List.length_singleton] at hinner
      omega

/-- Every question is asked with room on a stack of different files, for a file not on it. -/
theorem Returns.questions_eq (h : Returns reader call s levels outcome t)
    (hs : Distinct s.stack) :
    ∃ asked, t.questions = s.questions ++ asked ∧
      ∀ q ∈ asked, Distinct q.opened ∧ Admits q.opened q.path := by
  induction h with
  | finished => exact ⟨[], by simp⟩
  | part _ _ ih => exact ih hs
  | spliced hfile _ ihFile ihRest =>
      obtain ⟨inner, hinner, hproper⟩ := ihFile hs
      obtain ⟨outer, houter, hproper'⟩ := ihRest (hfile.stack_eq ▸ hs)
      refine ⟨inner ++ outer, by rw [houter, hinner, List.append_assoc], fun q hq => ?_⟩
      rcases List.mem_append.mp hq with hq | hq
      · exact hproper q hq
      · exact hproper' q hq
  | failed _ ih => exact ih hs
  | @refused path s _ _ henter =>
      rcases Expansion.of_enter_error henter with rfl | ⟨hadmits, rfl⟩
      · exact ⟨[], by simp⟩
      · refine ⟨[⟨s.stack, path⟩], rfl, fun q hq => ?_⟩
        rw [List.mem_singleton.mp hq]
        exact ⟨hs, hadmits⟩
  | @expanded path s _ _ _ _ _ henter _ ih =>
      obtain ⟨hadmits, _, rfl⟩ := Expansion.of_enter_ok henter
      obtain ⟨inner, hinner, hproper⟩ := ih (hs.concat hadmits)
      refine ⟨⟨s.stack, path⟩ :: inner, ?_, fun q hq => ?_⟩
      · simp [hinner]
      · rcases List.mem_cons.mp hq with rfl | hq
        · exact ⟨hs, hadmits⟩
        · exact hproper q hq

theorem Returns.unique (h : Returns reader call s levels outcome t) {levels' : Nat}
    {outcome' : Except ExpansionError Invocation} {t' : Expansion}
    (h' : Returns reader call s levels' outcome' t') :
    levels' = levels ∧ outcome' = outcome ∧ t' = t := by
  induction h generalizing levels' outcome' t' with
  | finished =>
      cases h'
      exact ⟨rfl, rfl, rfl⟩
  | part hp _ ih =>
      cases h' with
      | part _ hrest => exact ih hrest
      | spliced _ _ => cases hp
      | failed _ => cases hp
  | spliced _ _ ihFile ihRest =>
      cases h' with
      | part hp _ => cases hp
      | spliced hfile hrest =>
          obtain ⟨rfl, houtcome, rfl⟩ := ihFile hfile
          cases houtcome
          obtain ⟨rfl, rfl, rfl⟩ := ihRest hrest
          exact ⟨rfl, rfl, rfl⟩
      | failed hfile => cases (ihFile hfile).2.1
  | failed _ ih =>
      cases h' with
      | part hp _ => cases hp
      | spliced hfile _ => cases (ih hfile).2.1
      | failed hfile => exact ih hfile
  | refused henter =>
      cases h' with
      | refused henter' =>
          cases henter.symm.trans henter'
          exact ⟨rfl, rfl, rfl⟩
      | expanded henter' _ => cases henter.symm.trans henter'
  | expanded henter _ ih =>
      cases h' with
      | refused henter' => cases henter.symm.trans henter'
      | expanded henter' hline =>
          cases henter.symm.trans henter'
          obtain ⟨rfl, rfl, rfl⟩ := ih hline
          exact ⟨rfl, rfl, rfl⟩

/-- How much of a call is left to do before another file is entered. -/
def Call.size : Call → Nat
  | line parts _ => parts.length + 1
  | file _ => 0

/-- Every call returns: the room left on the stack or else the parts left to read get less. -/
theorem exists_returns (reader : AdaptiveReader) (call : Call) (s : Expansion) :
    ∃ levels outcome t, Returns reader call s levels outcome t := by
  match call with
  | .line [] found => exact ⟨0, .ok found, s, .finished⟩
  | .line (p :: rest) found =>
      cases hp : p.path? with
      | none =>
          obtain ⟨levels, outcome, t, h⟩ := exists_returns reader
            (.line rest (p.add s.directories found))
            { s with directories := p.directories s.directories }
          exact ⟨levels, outcome, t, .part hp h⟩
      | some path =>
          obtain ⟨reference, rfl⟩ := Part.eq_file_of_path? hp
          obtain ⟨inner, outcome, t, hfile⟩ := exists_returns reader (.file path) s
          cases outcome with
          | error error => exact ⟨inner, .error error, t, .failed hfile⟩
          | ok file =>
              have hstack := hfile.stack_eq
              obtain ⟨outer, outcome, u, hrest⟩ := exists_returns reader
                (.line rest (sortOut reference (splice file found))) t
              exact ⟨max inner outer, outcome, u, .spliced hfile hrest⟩
  | .file path =>
      cases henter : s.enter reader path with
      | mk entered t =>
          cases entered with
          | error error => exact ⟨0, .error error, t, .refused henter⟩
          | ok text =>
              obtain ⟨⟨hroom, _⟩, _, ht⟩ := Expansion.of_enter_ok henter
              obtain ⟨levels, outcome, u, hline⟩ := exists_returns reader
                (.line (parts (argumentsOf text)) .empty) t
              exact ⟨levels + 1, outcome, u.leave, .expanded henter hline⟩
-- A file that is entered takes room from the stack; all other calls have less left to read.
termination_by (ResponseFile.maxDepth - s.stack.length, call.size)
decreasing_by
  · exact Prod.Lex.right _ (by simp [Call.size])
  · exact Prod.Lex.right _ (by simp [Call.size])
  · rw [hstack]
    exact Prod.Lex.right _ (by simp [Call.size])
  · apply Prod.Lex.left
    simp only [ht, Expansion.stack_push, Expansion.stack_ask, List.length_append,
      List.length_singleton]
    omega

/-- What a call answers where the open files are a parameter of reading. -/
def Call.Answers (reader : TextReader) (opened : List String) (d : DirectoryOptions)
    (reading : Reading) : Call → Prop
  | line ps found => ∀ words, parts (words.map unwrap) = ps →
      (readWords reader opened words found d).value = reading
  | file path =>
      match ResponseFile.read reader opened path with
      | .error error => reading = ⟨.error error, d⟩
      | .ok text =>
        (readWords reader (opened ++ [path]) (Shell.tokenize text).value .empty d).value = reading

namespace Expansion

theorem fst_enter (reader : TextReader) (s : Expansion) (path : String) :
    (s.enter (fun _ => reader) path).1 = ResponseFile.read reader s.stack path := by
  unfold enter ResponseFile.read
  split
  · rfl
  · split
    · rfl
    · dsimp only
      split <;> simp [*]

theorem directories_enter (reader : AdaptiveReader) (s : Expansion) (path : String) :
    (s.enter reader path).2.directories = s.directories := by
  rcases enter_cases reader s path with ⟨_, henter⟩ | ⟨_, _, henter⟩ |
    ⟨_, _, _, henter⟩ | ⟨_, _, _, henter⟩ <;> rw [henter] <;> rfl

end Expansion

/-- A reader that only looks at the path is read from alike with a stack and with a parameter. -/
theorem Returns.answers {reader : TextReader}
    (h : Returns (fun _ => reader) call s levels outcome t) :
    call.Answers reader s.stack s.directories ⟨outcome, t.directories⟩ := by
  induction h with
  | finished =>
      intro words hwords
      rw [List.map_eq_nil_iff.mp (eq_nil_of_parts hwords)]
      exact value_readWords_nil ..
  | part hp _ ih =>
      intro words hwords
      obtain ⟨left, hleft, hread⟩ := exists_left_of_parts hwords hp
      rw [hread]
      exact ih left hleft
  | @spliced reference path rest found s _ file t _ _ _ hfile _ ihFile ihRest =>
      intro words hwords
      obtain ⟨_, hcons, hleft, hmeaning⟩ := parts_eq_cons_file hwords
      obtain ⟨word, left, rfl, rfl, rfl⟩ := List.map_eq_cons_iff.mp hcons
      rw [value_readWords_file _ _ _ _ hmeaning]
      cases hread : ResponseFile.read reader s.stack path with
      | error error =>
          simp only [Call.Answers, hread] at ihFile
          cases ihFile
      | ok text =>
          simp only [Call.Answers, hread] at ihFile
          -- The file gave the stack back, so that the rest is read with the files open before.
          have hrest := ihRest left hleft
          rw [hfile.stack_eq] at hrest
          dsimp only
          rw [ihFile]
          exact hrest
  | @failed reference path rest found s _ error t _ ih =>
      intro words hwords
      obtain ⟨_, hcons, _, hmeaning⟩ := parts_eq_cons_file hwords
      obtain ⟨word, left, rfl, rfl, rfl⟩ := List.map_eq_cons_iff.mp hcons
      rw [value_readWords_file _ _ _ _ hmeaning]
      cases hread : ResponseFile.read reader s.stack path with
      | error other =>
          simp only [Call.Answers, hread] at ih
          exact ih.symm
      | ok text =>
          simp only [Call.Answers, hread] at ih
          dsimp only
          rw [ih]
  | @refused path s error t henter =>
      have hread := Expansion.fst_enter reader s path
      have hdirectories := Expansion.directories_enter (fun _ => reader) s path
      rw [henter] at hread hdirectories
      unfold Call.Answers
      dsimp only at hread hdirectories ⊢
      rw [← hread, hdirectories]
  | @expanded path s text t _ _ _ henter _ ih =>
      have hread := Expansion.fst_enter reader s path
      rw [henter] at hread
      obtain ⟨_, _, rfl⟩ := Expansion.of_enter_ok henter
      unfold Call.Answers
      dsimp only
      rw [← hread]
      exact ih (Shell.tokenize text).value rfl

/-- Reading a line is the call for its parts while nothing is open, whatever was asked before. -/
theorem value_readLine_of_returns {reader : TextReader} {line : String}
    (h : Returns (fun _ => reader) (.line (parts (argumentsOf line)) .empty) s levels outcome t)
    (hs : s.stack = []) :
    (readLine reader s.directories line).value =
      ⟨outcome.map fun found => { found with standard := standardOf found.options },
        t.directories⟩ := by
  have hwords : (readWords reader [] (Shell.tokenize line).value .empty s.directories).value =
      ⟨outcome, t.directories⟩ := by
    have hanswers := h.answers _ rfl
    rwa [hs] at hanswers
  simp [readLine, hwords]

theorem readLine_of_returns {reader : TextReader} {d : DirectoryOptions} {line : String}
    (h : Returns (fun _ => reader) (.line (parts (argumentsOf line)) .empty) (.start d)
      levels outcome t) :
    (readLine reader d line).value =
      ⟨outcome.map fun found => { found with standard := standardOf found.options },
        t.directories⟩ := value_readLine_of_returns h rfl

/-- The rules and `readLine` give one answer for each line. -/
theorem exists_returns_readLine (reader : TextReader) (d : DirectoryOptions) (line : String) :
    ∃ levels outcome t,
      Returns (fun _ => reader) (.line (parts (argumentsOf line)) .empty) (.start d)
        levels outcome t ∧
      (readLine reader d line).value =
        ⟨outcome.map fun found => { found with standard := standardOf found.options },
          t.directories⟩ := by
  obtain ⟨levels, outcome, t, h⟩ := exists_returns (fun _ => reader)
    (.line (parts (argumentsOf line)) .empty) (.start d)
  exact ⟨levels, outcome, t, h, readLine_of_returns h⟩

/-- Whatever a reader answers, expanding the response files of a line ends. No call returns with
another stack than it found, no question is asked without room for the file or for a file that is
open, and never more than 32 files are open at a time. -/
theorem expansion_ends_with_stack_balanced (reader : AdaptiveReader) (d : DirectoryOptions)
    (line : String) :
    (∀ call s, ∃ levels outcome t, Returns reader call s levels outcome t ∧ t.stack = s.stack ∧
      ∀ levels' outcome' t', Returns reader call s levels' outcome' t' →
        levels' = levels ∧ outcome' = outcome ∧ t' = t) ∧
    ∃ levels outcome t,
      Returns reader (.line (parts (argumentsOf line)) .empty) (.start d) levels outcome t ∧
      levels ≤ 32 ∧
      (∀ q ∈ t.questions, q.opened.length < 32 ∧ (q.opened.map Path.components).Nodup ∧
        Path.components q.path ∉ q.opened.map Path.components) ∧
      ∀ plain : TextReader, (∀ asked, reader asked = plain) →
        (readLine plain d line).value =
          ⟨outcome.map fun found => { found with standard := standardOf found.options },
            t.directories⟩ := by
  constructor
  · intro call s
    obtain ⟨levels, outcome, t, h⟩ := exists_returns reader call s
    exact ⟨levels, outcome, t, h, h.stack_eq, fun _ _ _ h' => h.unique h'⟩
  · obtain ⟨levels, outcome, t, h⟩ := exists_returns reader
      (.line (parts (argumentsOf line)) .empty) (.start d)
    have hlevels := h.levels_le (Nat.zero_le _)
    obtain ⟨asked, hasked, hproper⟩ := h.questions_eq List.nodup_nil
    refine ⟨levels, outcome, t, h, hlevels, fun q hq => ?_, fun plain hplain => ?_⟩
    · rw [hasked] at hq
      obtain ⟨hdistinct, hroom, hfree⟩ := hproper q hq
      exact ⟨hroom, hdistinct, hfree⟩
    · obtain rfl : reader = fun _ => plain := funext hplain
      exact readLine_of_returns h

end CompilerLog.Gcc
