import CompilerLog.Proofs.Gcc.Expansion
import CompilerLog.Proofs.Shell.Lines
/-!
# Lines read one below the other

A line that holds two lines, with a newline between them, is read as the first and then, from the
directory options left by that, as the second. What the two have found is put together, and the
first that fails is the one that counts. It is so where the newline stands between words, and where
no keyword is left waiting for a path.
-/

namespace CompilerLog

/-- What is found in one command and then in another. -/
def Invocation.followedBy (found more : Invocation) : Invocation where
  compiler := if found.hasCompiler then found.compiler else more.compiler
  includes := found.includes ++ more.includes
  defines := found.defines ++ more.defines
  options := found.options ++ more.options
  trash := found.trash ++ more.trash
  standard := if found.standard = .unset then more.standard else found.standard

namespace Gcc

section Parts

/-- Parts are cut alike with more arguments behind them, unless the last keyword takes its path
from these. -/
theorem parts_append {arguments more : List String}
    (h : ∀ last ∈ arguments.getLast?, ∀ next ∈ more.head?, Part.pair? last next = none) :
    parts (arguments ++ more) = parts arguments ++ parts more := by
  induction arguments using parts.induct with
  | case1 => rfl
  | case2 argument =>
      cases more with
      | nil => rfl
      | cons next rest =>
          have hpair : Part.pair? argument next = none := h argument rfl next rfl
          simp [parts, hpair]
  | case3 argument next rest part hpair ih =>
      have hrest := ih fun last hlast =>
        h last (List.mem_getLast?_cons (List.mem_getLast?_cons hlast))
      simp only [List.cons_append, parts, hpair]
      rw [hrest]
  | case4 argument next rest hpair ih =>
      have hrest := ih fun last hlast => h last (List.mem_getLast?_cons hlast)
      simp only [List.cons_append] at hrest
      simp only [List.cons_append, parts, hpair]
      rw [hrest]

theorem pair?_eq_none {argument next : String}
    (h : (∃ key, Argument.ofText argument = .directory key "") → startsFlag next = true) :
    Part.pair? argument next = none := by
  cases hpair : Part.pair? argument next with
  | none => rfl
  | some p =>
      obtain ⟨hflag, key, hmeaning, _⟩ := Part.exists_of_pair? hpair
      have hnext := h ⟨key, hmeaning⟩
      rw [hflag] at hnext
      cases hnext

end Parts

section Standards

theorem standardOf?_ne_unset {option : String} {s : Standard} (h : standardOf? option = some s) :
    s ≠ .unset := by
  obtain ⟨version, _, hversion⟩ := Option.bind_eq_some_iff.mp h
  unfold Standard.ofVersion? at hversion
  split_ifs at hversion <;> cases hversion <;> nofun

/-- The first option that selects a standard is in front if there is one in front. -/
theorem standardOf_append (options more : List String) :
    standardOf (options ++ more) =
      if standardOf options = .unset then standardOf more else standardOf options := by
  unfold standardOf
  rw [List.findSome?_append]
  cases h : options.findSome? standardOf? with
  | none => rfl
  | some s =>
      obtain ⟨option, _, hoption⟩ := List.exists_of_findSome?_eq_some h
      have hs : s ≠ .unset := standardOf?_ne_unset hoption
      exact (if_neg hs).symm

end Standards

section Found

variable (found more : Invocation)

theorem followedBy_empty : found.followedBy .empty = found := by
  obtain ⟨compiler, includes, defines, options, trash, standard⟩ := found
  by_cases hcompiler : compiler = "" <;> by_cases hstandard : standard = .unset <;>
    simp [Invocation.followedBy, Invocation.empty, Invocation.hasCompiler, hcompiler, hstandard]

theorem add_followedBy (d : DirectoryOptions) (p : Part) :
    p.add d (found.followedBy more) = found.followedBy (p.add d more) := by
  cases h : found.hasCompiler <;> simp_all [Part.add, Invocation.followedBy, Invocation.hasCompiler]

theorem sortOut_followedBy (argument : String) :
    sortOut argument (found.followedBy more) = found.followedBy (sortOut argument more) := by
  unfold sortOut
  split <;> simp [Invocation.followedBy]

theorem splice_followedBy (file : Invocation) :
    splice file (found.followedBy more) = found.followedBy (splice file more) := by
  simp [splice, Invocation.followedBy]

end Found

section Calls

variable {reader : AdaptiveReader} {ps qs : List Part} {found mid : Invocation} {s t u : Expansion}
  {levels levels' : Nat} {outcome : Except ExpansionError Invocation} {error : ExpansionError}

theorem Returns.append (h : Returns reader (.line ps found) s levels (.ok mid) t)
    (h' : Returns reader (.line qs mid) t levels' outcome u) :
    Returns reader (.line (ps ++ qs) found) s (max levels levels') outcome u := by
  induction ps generalizing found s levels with
  | nil =>
      cases h
      rwa [Nat.zero_max]
  | cons p ps ih =>
      cases h with
      | part hp hrest => exact .part hp (ih hrest)
      | spliced hfile hrest =>
          rw [List.cons_append, Nat.max_assoc]
          exact .spliced hfile (ih hrest)

theorem Returns.append_of_error (h : Returns reader (.line ps found) s levels (.error error) t)
    (qs : List Part) : Returns reader (.line (ps ++ qs) found) s levels (.error error) t := by
  induction ps generalizing found s levels with
  | nil => cases h
  | cons p ps ih =>
      cases h with
      | part hp hrest => exact .part hp (ih hrest)
      | spliced hfile hrest => exact .spliced hfile (ih hrest)
      | failed hfile => exact .failed hfile

/-- What is found does not depend on what was found before. -/
theorem Returns.followedBy (h : Returns reader (.line ps mid) s levels outcome t)
    (found : Invocation) : Returns reader (.line ps (found.followedBy mid)) s levels
      (outcome.map found.followedBy) t := by
  induction ps generalizing mid s levels with
  | nil =>
      cases h
      exact .finished
  | cons p ps ih =>
      cases h with
      | part hp hrest =>
          refine .part hp ?_
          rw [add_followedBy]
          exact ih hrest
      | spliced hfile hrest =>
          refine .spliced hfile ?_
          rw [splice_followedBy, sortOut_followedBy]
          exact ih hrest
      | failed hfile => exact .failed hfile

end Calls

theorem argumentsOf_lines {line next : String} (h : Shell.split? line.toList ≠ none)
    (hescape : ¬ Shell.EndsEscaping line.toList) (h' : Shell.split? next.toList ≠ none) :
    argumentsOf (line ++ "\n" ++ next) = argumentsOf line ++ argumentsOf next := by
  unfold argumentsOf
  rw [Shell.value_tokenize_lines h hescape h', List.map_append]

/-- Two lines below each other are read as the one and then, from the directory options that it
leaves, as the other, where a backslash does not escape the newline and a keyword at the end of the
first line finds no path in the second. -/
theorem reading_composes_over_lines (reader : TextReader) (d : DirectoryOptions) (a b : String)
    (ha : Shell.split? a.toList ≠ none) (hb : Shell.split? b.toList ≠ none)
    (hescape : ¬ Shell.EndsEscaping a.toList)
    (hkeyword : ∀ keyword ∈ (argumentsOf a).getLast?,
      (∃ key, Argument.ofText keyword = .directory key "") →
        ∀ next ∈ (argumentsOf b).head?, startsFlag next = true) :
    let first := (readLine reader d a).value
    let second := (readLine reader first.directories b).value
    (readLine reader d (a ++ "\n" ++ b)).value =
      match first.outcome with
      | .error _ => first
      | .ok found => ⟨second.outcome.map found.followedBy, second.directories⟩ := by
  have hparts : parts (argumentsOf (a ++ "\n" ++ b)) =
      parts (argumentsOf a) ++ parts (argumentsOf b) := by
    rw [argumentsOf_lines ha hescape hb]
    apply parts_append
    intro keyword hlast next hnext
    exact pair?_eq_none fun hwaits => hkeyword keyword hlast hwaits next hnext
  obtain ⟨levels, outcome, t, hreturns, hfirst⟩ := exists_returns_readLine reader d a
  intro first second
  cases outcome with
  | error error =>
      have hboth := hreturns.append_of_error (parts (argumentsOf b))
      rw [← hparts] at hboth
      have hvalue : first = ⟨.error error, t.directories⟩ := hfirst
      rw [readLine_of_returns hboth, hvalue]
      rfl
  | ok found =>
      have hvalue : first =
          ⟨.ok { found with standard := standardOf found.options }, t.directories⟩ := hfirst
      obtain ⟨levels', outcome', u, hmore⟩ := exists_returns (fun _ => reader)
        (.line (parts (argumentsOf b)) .empty) t
      have hsecond : second = ⟨outcome'.map fun found =>
          { found with standard := standardOf found.options }, u.directories⟩ := by
        have hmoreValue := value_readLine_of_returns hmore hreturns.stack_eq
        rw [← hmoreValue]
        show (readLine reader first.directories b).value = _
        rw [hvalue]
      have hrest := hmore.followedBy found
      rw [followedBy_empty] at hrest
      have hboth := hreturns.append hrest
      rw [← hparts] at hboth
      rw [readLine_of_returns hboth, hvalue, hsecond]
      cases outcome' with
      | error error => rfl
      | ok more =>
          have hoptions : (found.followedBy more).options = found.options ++ more.options := rfl
          simp only [Except.map]
          rw [hoptions, standardOf_append]
          rfl

/-- The prefix that a file of the first line declares is the one that the second line needs, and the
keyword that the first line ends with is in front of a flag. -/
theorem reading_composes_over_lines_of_shared_prefix :
    let reader : TextReader := fun path =>
      if path = "r" then .ok "-iprefix /p/" else .error (.ofSystem .notFound)
    let a := "g++ @r -isystem # c"
    let b := "-iwithprefix inc -std=c++17"
    Shell.split? a.toList ≠ none ∧ Shell.split? b.toList ≠ none ∧
      Argument.ofText "-isystem" = .directory .system "" ∧
      (argumentsOf a).getLast? = some "-isystem" ∧
      (argumentsOf b).head? = some "-iwithprefix" ∧
      (readLine reader .empty (a ++ "\n" ++ b)).value =
        ⟨.ok ⟨"g++", ["/p/inc"], [], ["-isystem", "-std=c++17"], ["@r"], .cpp17⟩,
          DirectoryOptions.empty.push .basePrefix "/p/"⟩ := by
  intro reader a b
  have hlineA : parts (argumentsOf a) = [.compiler "g++", .file "@r" "r", .flag "-isystem"] := by
    decide
  have hlineB : parts (argumentsOf b) = [.directory .withPrefix "inc", .flag "-std=c++17"] := by
    decide
  have hfile : parts (argumentsOf "-iprefix /p/") = [.directory .basePrefix "/p/"] := by decide
  have hlast : (argumentsOf a).getLast? = some "-isystem" := by decide
  have hhead : (argumentsOf b).head? = some "-iwithprefix" := by decide
  have ha : Shell.split? a.toList ≠ none := by decide
  have hb : Shell.split? b.toList ≠ none := by decide
  have hescape : ¬ Shell.EndsEscaping a.toList := by
    rintro ⟨front, hfront, _⟩
    have hc : a.toList.getLast? = some 'c' := by decide
    rw [hfront, List.getLast?_concat] at hc
    cases hc
  have hcontent : Returns (fun _ => reader) (.line (parts (argumentsOf "-iprefix /p/")) .empty)
      ⟨.empty, ["r"], [⟨[], "r"⟩]⟩ 0 (.ok .empty)
      ⟨DirectoryOptions.empty.push .basePrefix "/p/", ["r"], [⟨[], "r"⟩]⟩ := by
    rw [hfile]
    exact .part rfl .finished
  have hfirst : Returns (fun _ => reader) (.line (parts (argumentsOf a)) .empty) (.start .empty) 1
      (.ok ⟨"g++", [], [], ["-isystem"], ["@r"], .unset⟩)
      ⟨DirectoryOptions.empty.push .basePrefix "/p/", [], [⟨[], "r"⟩]⟩ := by
    rw [hlineA]
    exact .part rfl (.spliced (.expanded rfl hcontent) (.part rfl .finished))
  have hsecond : Returns (fun _ => reader) (.line (parts (argumentsOf b)) .empty)
      (.start (DirectoryOptions.empty.push .basePrefix "/p/")) 0
      (.ok ⟨"", ["/p/inc"], [], ["-std=c++17"], [], .unset⟩)
      (.start (DirectoryOptions.empty.push .basePrefix "/p/")) := by
    rw [hlineB]
    exact .part rfl (.part rfl .finished)
  have hboth := reading_composes_over_lines reader .empty a b ha hb hescape (by
    intro keyword hkeyword _ next hnext
    rw [hhead] at hnext
    cases hnext
    decide)
  refine ⟨ha, hb, by decide, hlast, hhead, ?_⟩
  rw [hboth, readLine_of_returns hfirst, readLine_of_returns hsecond]
  rfl

end Gcc

end CompilerLog
