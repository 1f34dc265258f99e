import CompilerLog.BuiltIn.ProbeOutput
import CompilerLog.Proofs.Text.Printed
/-!
# What a compiler printed is what is read

A compiler prints its macros one below the other, and its search path between markers. Around and
between them stand lines that mean something else; what is read from all of it are the macros and
the directories of the search path, in their order.
-/

namespace CompilerLog.ProbeOutput

def IsMarker (text : String) : Prop :=
  text = quoteMarker ∨ text = angleMarker ∨ text = endMarker

instance (text : String) : Decidable (IsMarker text) :=
  inferInstanceAs (Decidable (text = quoteMarker ∨ text = angleMarker ∨ text = endMarker))

/-- A macro with its value, if it has one. -/
structure Macro where
  name : String
  value? : Option String
  name_ne_empty : name ≠ ""
  name_solid : name.toList.any Text.isBlank = false
  value_ne_empty : ∀ value ∈ value?, value ≠ ""
  value_trimmed : ∀ value ∈ value?, Text.trim value = value
  value_unbroken : ∀ value ∈ value?, '\n' ∉ value.toList

/-- A directory of the search path, as it is printed. -/
structure Directory where
  path : String
  isFramework : Bool
  path_ne_empty : path ≠ ""
  path_trimmed : Text.trim path = path
  path_unbroken : '\n' ∉ path.toList
  not_isMarker : ¬ IsMarker path
  not_framework : isFramework = false → ¬ frameworkEnding.toList <:+ path.toList

namespace Macro

variable (m : Macro)

/-- What stands behind the word that announces the macro. -/
def definition : String :=
  m.name ++ m.value?.elim "" (" " ++ ·)

def line : String := defineMarker ++ m.definition

def define : String :=
  m.name ++ m.value?.elim "" ("=" ++ ·)

theorem not_isBlank_of_mem_name : ∀ c ∈ m.name.toList, Text.isBlank c = false :=
  fun c hc => Bool.eq_false_iff.mpr (List.any_eq_false.mp m.name_solid c hc)

theorem head?_name : ∀ c ∈ m.name.toList.head?, Text.isBlank c = false :=
  fun c hc => m.not_isBlank_of_mem_name c (List.mem_of_mem_head? hc)

theorem trim_definition : Text.trim m.definition = m.definition := by
  rw [definition]
  cases hvalue : m.value? with
  | none =>
      rw [Option.elim_none, String.append_empty, Text.trim_eq_self_iff]
      exact ⟨m.head?_name, fun c hc => m.not_isBlank_of_mem_name c (List.mem_of_mem_getLast? hc)⟩
  | some value =>
      have hne := m.value_ne_empty value hvalue
      have hend := ((Text.trim_eq_self_iff value).mp (m.value_trimmed value hvalue)).2
      refine Text.trim_append m.name_ne_empty (by simp) m.head?_name ?_
      rw [Option.elim_some, String.toList_append,
        List.getLast?_append_of_ne_nil _ (mt String.toList_eq_nil_iff.mp hne)]
      exact hend

theorem defineOf?_definition : defineOf? m.definition = some m.define := by
  have hname : ∀ c ∈ m.name.toList, decide (c ≠ ' ') = true := by
    intro c hc
    refine decide_eq_true fun hspace => ?_
    exact absurd (m.not_isBlank_of_mem_name c hc) (by rw [hspace]; decide)
  have hne := mt String.toList_eq_nil_iff.mp m.name_ne_empty
  rw [defineOf?, m.trim_definition, definition, define]
  cases hvalue : m.value? with
  | none =>
      rw [Option.elim_none, Option.elim_none, String.append_empty,
        List.takeWhile_eq_self_iff.mpr hname, List.drop_length]
      simp [hne]
  | some value =>
      have hstart := ((Text.trim_eq_self_iff value).mp (m.value_trimmed value hvalue)).1
      have hkept := (Text.dropWhile_isBlank_eq_self_iff value.toList).mpr hstart
      have htext : (m.name ++ (" " ++ value)).toList = m.name.toList ++ ' ' :: value.toList := by
        simp [String.toList_append]
      have htake : (m.name.toList ++ ' ' :: value.toList).takeWhile (· ≠ ' ') = m.name.toList := by
        rw [List.takeWhile_append_of_pos hname, List.takeWhile_cons_of_neg (by decide),
          List.append_nil]
      rw [Option.elim_some, Option.elim_some, htext, htake, List.drop_left]
      simp only [hkept]
      exact congrArg some (String.toList_inj.mp (by simp [String.toList_append]))

theorem defineOfLine?_line : defineOfLine? m.line = some m.define := by
  rw [defineOfLine?, line, String.toList_append,
    List.isPrefixOf?_eq_some_iff_append_eq.mpr rfl, Option.bind_some, String.ofList_toList]
  exact m.defineOf?_definition

end Macro

namespace Directory

variable (d : Directory)

/-- The directory as the compiler prints it, behind its indent. -/
def text : String :=
  d.path ++ if d.isFramework then frameworkEnding else ""

/-- A parenthesis is neither blank nor the end of a marker. -/
theorem getLast?_frameworkEnding : frameworkEnding.toList.getLast? = some ')' := by decide

theorem trim_text : Text.trim d.text = d.text := by
  rw [text]
  cases d.isFramework with
  | false => rw [if_neg Bool.false_ne_true, String.append_empty, d.path_trimmed]
  | true =>
      rw [if_pos rfl]
      have hstart := ((Text.trim_eq_self_iff d.path).mp d.path_trimmed).1
      refine Text.trim_append d.path_ne_empty (by decide) hstart ?_
      rw [getLast?_frameworkEnding]
      rintro c ⟨⟩
      decide

theorem text_ne_empty : d.text ≠ "" :=
  fun h => d.path_ne_empty (String.append_eq_empty_iff.mp h).1

theorem not_isMarker_text : ¬ IsMarker d.text := by
  rw [text]
  cases d.isFramework with
  | false =>
      rw [if_neg Bool.false_ne_true, String.append_empty]
      exact d.not_isMarker
  | true =>
      have hlast : (d.path ++ frameworkEnding).toList.getLast? = some ')' := by
        rw [String.toList_append, List.getLast?_append_of_ne_nil _ (by decide),
          getLast?_frameworkEnding]
      rintro (h | h | h) <;> rw [if_pos rfl] at h <;> rw [h] at hlast <;>
        exact absurd hlast (by decide)

theorem directoryOf_text : directoryOf d.text = d.path := by
  rw [directoryOf, text]
  cases hframework : d.isFramework with
  | false =>
      rw [if_neg Bool.false_ne_true, String.append_empty]
      have hnone : frameworkEnding.toList.isSuffixOf? d.path.toList = none := by
        rw [Option.eq_none_iff_forall_ne_some]
        intro front hfront
        exact d.not_framework hframework
          ⟨front, List.isSuffixOf?_eq_some_iff_append_eq.mp hfront⟩
      rw [hnone]
  | true =>
      rw [if_pos rfl, String.toList_append, List.isSuffixOf?_eq_some_iff_append_eq.mpr rfl]
      exact String.ofList_toList

end Directory

/-- Lines of the standard output, the macros in their order and what is none. -/
inductive PrintsMacros : List Macro → List String → Prop
  | nil : PrintsMacros [] []
  | defined {macros : List Macro} {lines : List String} (m : Macro) :
      PrintsMacros macros lines → PrintsMacros (m :: macros) (m.line :: lines)
  | other {macros : List Macro} {lines : List String} {line : String} :
      '\n' ∉ line.toList → ¬ defineMarker.toList <+: line.toList →
        PrintsMacros macros lines → PrintsMacros macros (line :: lines)

/-- Lines between two markers, the directories in their order and blank lines. -/
inductive PrintsDirectories : List Directory → List String → Prop
  | nil : PrintsDirectories [] []
  | listed {directories : List Directory} {lines : List String} (d : Directory)
      (indent : String) : Text.isAllBlank indent = true → '\n' ∉ indent.toList →
        PrintsDirectories directories lines →
          PrintsDirectories (d :: directories) ((indent ++ d.text) :: lines)
  | blank {directories : List Directory} {lines : List String} {line : String} :
      Text.isAllBlank line = true → '\n' ∉ line.toList →
        PrintsDirectories directories lines → PrintsDirectories directories (line :: lines)

/-- A line that stands outside the search path. -/
def IsOther (line : String) : Prop :=
  '\n' ∉ line.toList ∧ ¬ IsMarker (Text.trim line)

instance (line : String) : Decidable (IsOther line) :=
  inferInstanceAs (Decidable ('\n' ∉ line.toList ∧ ¬ IsMarker (Text.trim line)))

/-- Lines of the standard error: the search path, which has a part for quoted names and one for
names in angle brackets, and what stands around it. -/
inductive PrintsSearchPath (quote angle : List Directory) : List String → Prop
  | intro {before quoteLines angleLines after : List String} :
      (∀ line ∈ before, IsOther line) → PrintsDirectories quote quoteLines →
        PrintsDirectories angle angleLines → (∀ line ∈ after, IsOther line) →
          PrintsSearchPath quote angle (before ++ quoteMarker :: (quoteLines ++
            angleMarker :: (angleLines ++ endMarker :: after)))

section Unbroken

variable {macros : List Macro} {directories quote angle : List Directory} {lines : List String}

theorem Macro.newline_not_mem_line (m : Macro) : '\n' ∉ m.line.toList := by
  have hname : '\n' ∉ m.name.toList := fun h => absurd (m.not_isBlank_of_mem_name _ h) (by decide)
  rw [line, definition, String.toList_append, String.toList_append]
  cases hvalue : m.value? with
  | none => simp [hname, defineMarker]
  | some value => simp [hname, m.value_unbroken value hvalue, defineMarker]

theorem Directory.newline_not_mem_text (d : Directory) : '\n' ∉ d.text.toList := by
  rw [text, String.toList_append]
  cases d.isFramework <;> simp [d.path_unbroken, frameworkEnding]

theorem PrintsMacros.unbroken (h : PrintsMacros macros lines) :
    ∀ line ∈ lines, '\n' ∉ line.toList := by
  induction h with
  | nil => exact fun _ h => nomatch h
  | defined m _ ih => exact List.forall_mem_cons.mpr ⟨m.newline_not_mem_line, ih⟩
  | other hline _ _ ih => exact List.forall_mem_cons.mpr ⟨hline, ih⟩

theorem PrintsDirectories.unbroken (h : PrintsDirectories directories lines) :
    ∀ line ∈ lines, '\n' ∉ line.toList := by
  induction h with
  | nil => exact fun _ h => nomatch h
  | listed d _ _ hindent _ ih =>
      refine List.forall_mem_cons.mpr ⟨?_, ih⟩
      rw [String.toList_append, List.mem_append]
      exact not_or.mpr ⟨hindent, d.newline_not_mem_text⟩
  | blank _ hline _ ih => exact List.forall_mem_cons.mpr ⟨hline, ih⟩

theorem PrintsSearchPath.unbroken (h : PrintsSearchPath quote angle lines) :
    ∀ line ∈ lines, '\n' ∉ line.toList := by
  obtain ⟨hbefore, hquote, hangle, hafter⟩ := h
  simp only [List.forall_mem_append, List.forall_mem_cons]
  exact ⟨fun line hline => (hbefore line hline).1, by decide, hquote.unbroken, by decide,
    hangle.unbroken, by decide, fun line hline => (hafter line hline).1⟩

end Unbroken

section Defines

theorem defineOfLine?_eq_none {line : String} (h : ¬ defineMarker.toList <+: line.toList) :
    defineOfLine? line = none := by
  rw [defineOfLine?, Option.bind_eq_none_iff]
  intro rest hrest
  exact absurd ⟨rest, List.isPrefixOf?_eq_some_iff_append_eq.mp hrest⟩ h

/-- A carriage return that is gone from the end of a line is none of its define. -/
theorem defineOfLine?_eq_of_readFor {read printed : String} (h : Text.ReadFor read printed) :
    defineOfLine? read = defineOfLine? printed := by
  rcases h with rfl | rfl
  · rfl
  · by_cases hread : defineMarker.toList <+: read.toList
    · obtain ⟨rest, hrest⟩ := hread
      have hprinted : (read ++ "\r").toList = defineMarker.toList ++ (rest ++ ['\r']) := by
        rw [String.toList_append, ← hrest, List.append_assoc]
        rfl
      rw [defineOfLine?, defineOfLine?, ← hrest, hprinted,
        List.isPrefixOf?_eq_some_iff_append_eq.mpr rfl,
        List.isPrefixOf?_eq_some_iff_append_eq.mpr rfl, Option.bind_some, Option.bind_some,
        String.ofList_append, defineOf?, defineOf?, Text.trim_append_blank (by decide)]
    · have hprinted : ¬ defineMarker.toList <+: (read ++ "\r").toList := by
        rw [String.toList_append]
        intro hstart
        rcases List.prefix_concat_iff.mp hstart with hall | hstart
        · have hlast := congrArg List.getLast? hall
          rw [List.getLast?_concat] at hlast
          exact absurd hlast (by decide)
        · exact hread hstart
      rw [defineOfLine?_eq_none hread, defineOfLine?_eq_none hprinted]

theorem filterMap_defineOfLine? {macros : List Macro} {lines : List String}
    (h : PrintsMacros macros lines) :
    lines.filterMap defineOfLine? = macros.map Macro.define := by
  induction h with
  | nil => rfl
  | defined m _ ih => rw [List.filterMap_cons_some m.defineOfLine?_line, ih, List.map_cons]
  | other _ hother _ ih => rw [List.filterMap_cons_none (defineOfLine?_eq_none hother), ih]

theorem filterMap_eq_of_readFor {read printed : List String}
    (h : List.Forall₂ Text.ReadFor read printed) :
    read.filterMap defineOfLine? = printed.filterMap defineOfLine? := by
  induction h with
  | nil => rfl
  | cons hread _ ih =>
      rw [List.filterMap_cons, List.filterMap_cons, ih, defineOfLine?_eq_of_readFor hread]

end Defines

section Directories

variable {listed quote angle : List Directory} {lines before : List String}

theorem directories_eq_of_readFor {read printed : List String}
    (h : List.Forall₂ Text.ReadFor read printed) (inside : Bool) :
    directories inside read = directories inside printed := by
  induction h generalizing inside with
  | nil => rfl
  | cons hread _ ih => simp only [directories, hread.trim_eq, ih]

theorem directories_other (h : ∀ line ∈ before, IsOther line) (rest : List String) :
    directories false (before ++ rest) = directories false rest := by
  induction before with
  | nil => rfl
  | cons line before ih =>
      obtain ⟨⟨_, hline⟩, hbefore⟩ := List.forall_mem_cons.mp h
      rw [IsMarker, not_or, not_or] at hline
      simp [directories, hline, ih hbefore]

theorem directories_listed (h : PrintsDirectories listed lines) (rest : List String) :
    directories true (lines ++ rest) =
      listed.map Directory.path ++ directories true rest := by
  induction h with
  | nil => rfl
  | @listed listed lines d indent hindent _ _ ih =>
      have htrim : Text.trim (indent ++ d.text) = d.text := by
        rw [Text.trim_blank_append hindent, d.trim_text]
      have hmarker := d.not_isMarker_text
      rw [IsMarker, not_or, not_or] at hmarker
      simp [directories, htrim, hmarker, d.text_ne_empty, d.directoryOf_text, ih]
  | @blank listed lines line hblank _ _ ih =>
      have htrim : Text.trim line = "" := (Text.trim_eq_empty_iff line).mpr hblank
      have hmarker : ¬ IsMarker "" := by decide
      rw [IsMarker, not_or, not_or] at hmarker
      simp [directories, htrim, hmarker, ih]

theorem directories_startMarker {marker : String} (h : marker = quoteMarker ∨ marker = angleMarker)
    (inside : Bool) (rest : List String) :
    directories inside (marker :: rest) = directories true rest := by
  have htrim : Text.trim marker = marker := by rcases h with rfl | rfl <;> decide
  simp only [directories, htrim, if_pos h]

theorem directories_endMarker (inside : Bool) (rest : List String) :
    directories inside (endMarker :: rest) = directories false rest := by
  have htrim : Text.trim endMarker = endMarker := by decide
  have hstart : ¬ (endMarker = quoteMarker ∨ endMarker = angleMarker) := by decide
  simp only [directories, htrim, if_neg hstart, if_true]

theorem directories_searchPath (h : PrintsSearchPath quote angle lines) :
    directories false lines = (quote ++ angle).map Directory.path := by
  obtain ⟨hbefore, hquote, hangle, hafter⟩ := h
  have hend := directories_other hafter []
  rw [List.append_nil] at hend
  rw [directories_other hbefore, directories_startMarker (.inl rfl), directories_listed hquote,
    directories_startMarker (.inr rfl), directories_listed hangle, directories_endMarker, hend,
    List.map_append]
  exact congrArg _ (List.append_nil _)

end Directories

/-- Whatever the compiler prints around its macros and its search path, and however it ends its
lines, the macros and the directories are read, and nothing else. -/
theorem info_recovers_what_was_printed {macros : List Macro} {quote angle : List Directory}
    {outLines errLines : List String} {stdout stderr : String}
    (hmacros : PrintsMacros macros outLines) (hstdout : Text.Printed outLines stdout)
    (hsearch : PrintsSearchPath quote angle errLines) (hstderr : Text.Printed errLines stderr) :
    info ⟨stdout, stderr⟩ = ⟨(quote ++ angle).map Directory.path, macros.map Macro.define⟩ := by
  have hout := Text.lines_of_printed hstdout hmacros.unbroken
  have herr := Text.lines_of_printed hstderr hsearch.unbroken
  have hdefines : defines stdout = macros.map Macro.define := by
    rw [defines, filterMap_eq_of_readFor hout, filterMap_defineOfLine? hmacros]
  have hdirectories : directories false (Text.lines stderr) =
      (quote ++ angle).map Directory.path := by
    rw [directories_eq_of_readFor herr, directories_searchPath hsearch]
  rw [info, hdefines, hdirectories]

theorem info_recovers_what_was_printed_behind_a_warning :
    info ⟨"warning\r\n#define __GNUC__ 12\r\n#define __STRICT_ANSI__\n",
        "ignoring directory\n#include \"...\" search starts here:\r\n  /opt/quote\n" ++
        "#include <...> search starts here:\n\r\n /usr (framework directory)\n" ++
        "End of search list.\nCOMPILER_PATH=/usr"⟩ =
      ⟨["/opt/quote", "/usr"], ["__GNUC__=12", "__STRICT_ANSI__"]⟩ := by
  let gnuc : Macro :=
    ⟨"__GNUC__", some "12", by decide, by decide, by decide, by decide, by decide⟩
  let strict : Macro :=
    ⟨"__STRICT_ANSI__", none, by decide, by decide, by decide, by decide, by decide⟩
  let opt : Directory :=
    ⟨"/opt/quote", false, by decide, by decide, by decide, by decide, by decide⟩
  let usr : Directory :=
    ⟨"/usr", true, by decide, by decide, by decide, by decide, by decide⟩
  have hmacros : PrintsMacros [gnuc, strict] ["warning", gnuc.line, strict.line] :=
    .other (by decide) (by decide) (.defined gnuc (.defined strict .nil))
  have hsearch : PrintsSearchPath [opt] [usr]
      (["ignoring directory"] ++ quoteMarker :: (["  " ++ opt.text] ++
        angleMarker :: (["", " " ++ usr.text] ++ endMarker :: ["COMPILER_PATH=/usr"]))) :=
    .intro (by decide) (.listed opt "  " (by decide) (by decide) .nil)
      (.blank (by decide) (by decide) (.listed usr " " (by decide) (by decide) .nil)) (by decide)
  exact info_recovers_what_was_printed hmacros
    (.carriageReturn (.carriageReturn (.newline .nil))) hsearch
    (.newline (.carriageReturn (.newline (.newline (.carriageReturn (.newline
      (.newline (.unended (by decide)))))))))

end CompilerLog.ProbeOutput
