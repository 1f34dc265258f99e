import CompilerLog.Proofs.Gcc.Grammar
import CompilerLog.Proofs.Gcc.Inlining
/-!
# The standard that a command selects

A command has the standard of the first argument that selects one, in the order of the line with its
response files written out. Such an argument is a flag, so that it stands by itself wherever it
comes: no keyword takes it for a path, and what is in front of it and behind it means what it means
without it.
-/

namespace CompilerLog

/-- The versions of C++ by which a standard is selected. -/
def Standard.versions : List (String × Standard) :=
  [("98", cpp98), ("11", cpp11), ("14", cpp14), ("17", cpp17), ("20", cpp20)]

theorem Standard.ofVersion?_eq_some_iff {version : String} {s : Standard} :
    ofVersion? version = some s ↔ (version, s) ∈ versions := by
  unfold ofVersion? versions
  split_ifs <;> simp [*, eq_comm]

namespace Gcc

/-- An argument that selects a standard, with or without the extensions of GNU. -/
def Selects (argument : String) (s : Standard) : Prop :=
  ∃ version, (version, s) ∈ Standard.versions ∧
    (argument = "-std=c++" ++ version ∨ argument = "-std=gnu++" ++ version)

/-- The standard of the first argument that selects one, or none where there is none. -/
inductive FirstSelected : List String → Standard → Prop
  | first {before flag behind s} (hbefore : ∀ argument ∈ before, ∀ other, ¬ Selects argument other)
      (hflag : Selects flag s) : FirstSelected (before ++ flag :: behind) s
  | unset {arguments} (hnone : ∀ argument ∈ arguments, ∀ s, ¬ Selects argument s) :
      FirstSelected arguments .unset

/-- All arguments that select a standard. -/
def selecting : List (String × Standard) :=
  Standard.versions.flatMap fun v => [("-std=c++" ++ v.1, v.2), ("-std=gnu++" ++ v.1, v.2)]

variable {argument flag : String} {s : Standard}

theorem Selects.mem_selecting (h : Selects argument s) : (argument, s) ∈ selecting := by
  obtain ⟨version, hversion, htext⟩ := h
  refine List.mem_flatMap.mpr ⟨_, hversion, ?_⟩
  rcases htext with rfl | rfl
  · exact List.mem_cons_self
  · exact List.mem_cons_of_mem _ List.mem_cons_self

theorem flags_of_mem_selecting : ∀ entry ∈ selecting, Argument.ofText entry.1 = .option ∧
    startsFlag entry.1 = true ∧ standardOf? entry.1 = some entry.2 := by
  decide

theorem Selects.ofText (h : Selects flag s) : Argument.ofText flag = .option :=
  (flags_of_mem_selecting _ h.mem_selecting).1

theorem Selects.startsFlag (h : Selects flag s) : startsFlag flag = true :=
  (flags_of_mem_selecting _ h.mem_selecting).2.1

theorem standardOf?_eq_some_iff : standardOf? argument = some s ↔ Selects argument s := by
  have hrest {front : String} {rest : List Char}
      (h : front.toList.isPrefixOf? argument.toList = some rest) :
      argument = front ++ String.ofList rest := by
    rw [Argument.eq_append_iff, String.toList_ofList]
    exact (List.append_eq_of_isPrefixOf?_eq_some h).symm
  constructor
  · intro h
    obtain ⟨rest, hfront, hversion⟩ := Option.bind_eq_some_iff.mp h
    refine ⟨_, Standard.ofVersion?_eq_some_iff.mp hversion, ?_⟩
    rcases Option.or_eq_some_iff.mp hfront with hplain | ⟨_, hextended⟩
    · exact .inl (hrest hplain)
    · exact .inr (hrest hextended)
  · intro h
    exact (flags_of_mem_selecting _ h.mem_selecting).2.2

theorem standardOf?_eq_none (h : Argument.ofText argument ≠ .option) :
    standardOf? argument = none := by
  rw [Option.eq_none_iff_forall_ne_some]
  intro s hs
  exact h (standardOf?_eq_some_iff.mp hs).ofText

theorem standardOf?_eq_none_of_not_flag (h : startsFlag argument = false) :
    standardOf? argument = none := by
  rw [Option.eq_none_iff_forall_ne_some]
  intro s hs
  cases h.symm.trans (standardOf?_eq_some_iff.mp hs).startsFlag

theorem firstSelected_standardOf (arguments : List String) :
    FirstSelected arguments (standardOf arguments) := by
  unfold standardOf
  cases h : arguments.findSome? standardOf? with
  | none =>
      refine .unset fun argument hargument s hselects => ?_
      have hnone := List.findSome?_eq_none_iff.mp h argument hargument
      cases hnone.symm.trans (standardOf?_eq_some_iff.mpr hselects)
  | some s =>
      obtain ⟨before, flag, behind, rfl, hflag, hbefore⟩ := List.findSome?_eq_some_iff.mp h
      refine .first (fun argument hargument other hselects => ?_)
        (standardOf?_eq_some_iff.mp hflag)
      cases (hbefore argument hargument).symm.trans (standardOf?_eq_some_iff.mpr hselects)

/-- The arguments of a line with those of its files in their places. -/
def argumentsIn : List Item → List String
  | [] => []
  | .opening _ :: items | .closing _ :: items => argumentsIn items
  | .argument text :: items => text :: argumentsIn items

/-- The number of files that are open behind the items. -/
def level (depth : Nat) : List Item → Nat
  | [] => depth
  | .opening _ :: items => level (depth + 1) items
  | .closing _ :: items => level (depth - 1) items
  | .argument _ :: items => level depth items

section Classify

variable (depth : Nat) (items : List Item)

theorem findSome?_options_single (argument : String) :
    (Part.single argument).options.findSome? standardOf? = standardOf? argument := by
  by_cases hmeaning : Argument.ofText argument = .option
  · simp [Part.single, hmeaning]
  · rw [standardOf?_eq_none hmeaning]
    cases h : Argument.ofText argument with
    | option => exact absurd h hmeaning
    | directory key path =>
        by_cases hpath : path = ""
        · simp [Part.single, h, hpath, standardOf?_eq_none hmeaning]
        · simp [Part.single, h, hpath]
    | _ => simp [Part.single, h]

/-- The standards that the options select are searched as those of the arguments are. -/
def SearchedAlike (labelled : List (Nat × Part)) (arguments : List String) : Prop :=
  (labelled.flatMap (·.2.options)).findSome? standardOf? = arguments.findSome? standardOf?

theorem SearchedAlike.cons {labelled : List (Nat × Part)} {arguments : List String}
    (h : SearchedAlike labelled arguments) (argument : String) :
    SearchedAlike ((depth, .single argument) :: labelled) (argument :: arguments) := by
  rw [SearchedAlike, List.flatMap_cons, List.findSome?_append, findSome?_options_single, h,
    List.findSome?_cons]
  cases standardOf? argument <;> rfl

/-- No argument that selects a standard is lost among the options, and none comes from elsewhere. -/
theorem searchedAlike_classify : SearchedAlike (classify depth items) (argumentsIn items) := by
  induction depth, items using classify.induct with
  | case1 => rfl
  | case2 depth _ items ih => exact ih
  | case3 depth _ items ih => exact ih
  | case4 depth keyword next items p hpair ih =>
      obtain ⟨hnext, key, hkey, rfl⟩ := Part.exists_of_pair? hpair
      have hkeyword : standardOf? keyword = none := standardOf?_eq_none (by simp [hkey])
      have hpath : standardOf? next = none := standardOf?_eq_none_of_not_flag hnext
      simp only [SearchedAlike, classify, hpair, argumentsIn, List.findSome?_cons, hkeyword, hpath]
      exact ih
  | case5 depth argument next items hpair ih =>
      simp only [classify, hpair]
      exact ih.cons depth argument
  | case6 depth argument items hlast ih =>
      rw [classify_single depth fun next hhead => by
        obtain ⟨_, rfl⟩ := List.head?_eq_some_iff.mp hhead
        exact (hlast _ _ rfl).elim]
      exact ih.cons depth argument

/-- A flag that is kept stands by itself: what is in front of it and behind it is classified as it
would be without it. -/
theorem classify_append_flag (hmeaning : Argument.ofText flag = .option)
    (hflag : startsFlag flag = true) (behind : List Item) :
    classify depth (items ++ .argument flag :: behind) =
      classify depth items ++ (level depth items, .flag flag) ::
        classify (level depth items) behind := by
  have hbefore (argument : String) : Part.pair? argument flag = none := by
    simp [Part.pair?, hflag]
  have hbehind (next : String) : Part.pair? flag next = none := by
    simp [Part.pair?, Part.pathless?, hmeaning]
  have hself (depth : Nat) : classify depth (.argument flag :: behind) =
      (depth, .flag flag) :: classify depth behind := by
    rw [classify_single depth fun next _ => hbehind next]
    simp [Part.single, hmeaning]
  induction depth, items using classify.induct with
  | case1 depth => exact hself depth
  | case2 depth _ items ih => exact ih
  | case3 depth _ items ih => simpa [classify, level] using ih
  | case4 depth keyword next items p hpair ih => simpa [classify, hpair, level] using ih
  | case5 depth argument next items hpair ih => simpa [classify, hpair, level] using ih
  | case6 depth argument items hlast ih =>
      have hnext (next : String) (hhead : items.head? = some (.argument next)) :
          Part.pair? argument next = none := by
        obtain ⟨_, rfl⟩ := List.head?_eq_some_iff.mp hhead
        exact (hlast _ _ rfl).elim
      have hmore (next : String)
          (hhead : (items ++ .argument flag :: behind).head? = some (.argument next)) :
          Part.pair? argument next = none := by
        cases items with
        | nil =>
            obtain rfl : flag = next := by simpa using hhead
            exact hbefore argument
        | cons item rest => exact hnext next hhead
      rw [List.cons_append, classify_single depth hmore, classify_single depth hnext, ih]
      rfl

end Classify

theorem exists_inlined_readLine {reader : TextReader} {d : DirectoryOptions} {line : String}
    {found : Invocation} (h : (readLine reader d line).value.outcome = .ok found) :
    ∃ items, Inlined reader (argumentsOf line) items ∧
      found = { extend d 0 (classify 0 items) .empty with
        standard := standardOf ((classify 0 items).flatMap (·.2.options)) } ∧
      (readLine reader d line).value.directories =
        ((classify 0 items).map (·.2)).foldl Part.directories d := by
  obtain ⟨levels, outcome, t, hreturns, hvalue⟩ := exists_returns_readLine reader d line
  rw [hvalue] at h ⊢
  cases outcome with
  | error error => cases h
  | ok gathered =>
      cases h
      obtain ⟨items, hitems, hfound⟩ := hreturns.writtenOut rfl _ rfl
      obtain ⟨rfl, hdirectories⟩ := hfound 0
      refine ⟨items, hitems, ?_, hdirectories⟩
      simp [extend, Expansion.start, Invocation.empty, List.flatMap_map]

/-- The standard of a line is that of the first argument that selects one, in the order of the line
with its response files written out, and unset where no argument does. No argument hides another
one that selects: wherever such a flag stands it is among the options in its place, and all else
that is found is what the arguments in front of it and behind it give. From a file it is copied to
the trash, as all options of a file are. -/
theorem standard_is_first_selected (reader : TextReader) (d : DirectoryOptions) (line : String)
    (found : Invocation) (h : (readLine reader d line).value.outcome = .ok found) :
    ∃ items, Inlined reader (argumentsOf line) items ∧
      (∀ other, Inlined reader (argumentsOf line) other → other = items) ∧
      FirstSelected (argumentsIn items) found.standard ∧
      ∀ front flag behind s, items = front ++ .argument flag :: behind → Selects flag s →
        let before := classify 0 front
        let after := classify (level 0 front) behind
        let others := (before ++ after).map (·.2)
        found.options = before.flatMap (·.2.options) ++ flag :: after.flatMap (·.2.options) ∧
        found.defines = others.flatMap Part.defines ∧
        found.includes = includesOf d others ∧
        (readLine reader d line).value.directories = others.foldl Part.directories d ∧
        found.compiler = (compilersAt 0 (before ++ after)).headD "" ∧
        found.trash =
          trashAt 0 before ++ (if level 0 front = 0 then [] else [flag]) ++ trashAt 0 after := by
  obtain ⟨items, hitems, rfl, hdirectories⟩ := exists_inlined_readLine h
  refine ⟨items, hitems, fun other hother => hitems.unique hother, ?_, ?_⟩
  · have hstandard : standardOf ((classify 0 items).flatMap (·.2.options)) =
        standardOf (argumentsIn items) := congrArg (·.getD .unset) (searchedAlike_classify 0 items)
    rw [hstandard]
    exact firstSelected_standardOf _
  · rintro front flag behind s rfl hselects before after others
    have hclassify : classify 0 (front ++ .argument flag :: behind) =
        before ++ (level 0 front, .flag flag) :: after :=
      classify_append_flag 0 front hselects.ofText hselects.startsFlag behind
    rw [hdirectories, hclassify]
    refine ⟨?_, ?_, ?_, ?_, ?_, ?_⟩
    · simp [extend, Invocation.empty, List.flatMap_map]
    · simp [extend, Invocation.empty, others]
    · simp [extend, Invocation.empty, others, includesOf_append, includesOf]
    · simp [others]
    · simp [extend, Invocation.empty, Invocation.hasCompiler, compilersAt]
    · by_cases hlevel : level 0 front = 0 <;>
        simp [extend, Invocation.empty, trashAt, hlevel]

/-- A version that is not known, a file whose keyword is left waiting in front of the flag that
counts, and a later flag. -/
theorem standard_is_first_selected_of_flag_in_file :
    let reader : TextReader := fun path =>
      if path = "a" then .ok "-isystem -std=gnu++11" else .error (.ofSystem .notFound)
    let line := "g++ -std=c++23 @a -std=c++20"
    let found : Invocation :=
      ⟨"g++", [], [], ["-std=c++23", "-isystem", "-std=gnu++11", "-std=c++20"],
        ["-isystem", "-std=gnu++11", "@a"], .cpp11⟩
    let items : List Item :=
      [.argument "g++", .argument "-std=c++23", .opening "@a", .argument "-isystem",
        .argument "-std=gnu++11", .closing "@a", .argument "-std=c++20"]
    (readLine reader .empty line).value.outcome = .ok found ∧
      Inlined reader (argumentsOf line) items ∧
      FirstSelected (argumentsIn items) .cpp11 ∧ Selects "-std=gnu++11" .cpp11 ∧
      found.options = ["-std=c++23", "-isystem"] ++ "-std=gnu++11" :: ["-std=c++20"] ∧
      found.trash = ["-isystem"] ++ ["-std=gnu++11"] ++ ["@a"] := by
  intro reader line found items
  have hfile : parts (argumentsOf "-isystem -std=gnu++11") =
      [.flag "-isystem", .flag "-std=gnu++11"] := by decide
  have hline : parts (argumentsOf line) =
      [.compiler "g++", .flag "-std=c++23", .file "@a" "a", .flag "-std=c++20"] := by decide
  have hcontent : Returns (fun _ => reader)
      (.line (parts (argumentsOf "-isystem -std=gnu++11")) .empty)
      ⟨.empty, ["a"], [⟨[], "a"⟩]⟩ 0 (.ok ⟨"", [], [], ["-isystem", "-std=gnu++11"], [], .unset⟩)
      ⟨.empty, ["a"], [⟨[], "a"⟩]⟩ := by
    rw [hfile]
    exact .part rfl (.part rfl .finished)
  have hreturns : Returns (fun _ => reader) (.line (parts (argumentsOf line)) .empty)
      (.start .empty) 1 (.ok { found with standard := .unset }) ⟨.empty, [], [⟨[], "a"⟩]⟩ := by
    rw [hline]
    exact .part rfl (.part rfl (.spliced (.expanded rfl hcontent) (.part rfl .finished)))
  have hread : (readLine reader .empty line).value.outcome = .ok found := by
    rw [readLine_of_returns hreturns]
    decide
  have hselects : Selects "-std=gnu++11" .cpp11 := ⟨"11", by decide, .inr rfl⟩
  have hitems : Inlined reader (argumentsOf line) items := by
    have hwords : argumentsOf line = ["g++", "-std=c++23", "@a", "-std=c++20"] := by decide
    have hinner : argumentsOf "-isystem -std=gnu++11" = ["-isystem", "-std=gnu++11"] := by decide
    have hplain (argument : String) (meaning : Argument)
        (h : Argument.ofText argument = meaning) (hmeaning : ∀ path, meaning ≠ .responseFile path) :
        ∀ path, Argument.ofText argument ≠ .responseFile path := h ▸ hmeaning
    have hcompiler := hplain "g++" .compiler (by decide) nofun
    have hunknown := hplain "-std=c++23" .option (by decide) nofun
    have hkeyword := hplain "-isystem" (.directory .system "") (by decide) nofun
    have hfirst := hplain "-std=gnu++11" .option (by decide) nofun
    have hsecond := hplain "-std=c++20" .option (by decide) nofun
    have hinside : Inlined reader (argumentsOf "-isystem -std=gnu++11")
        [.argument "-isystem", .argument "-std=gnu++11"] := by
      rw [hinner]
      exact .single hkeyword (by decide) (.single hfirst (by decide) .nil)
    have hmeaning : Argument.ofText "@a" = .responseFile "a" := by decide
    have hread : reader "a" = .ok "-isystem -std=gnu++11" := rfl
    have hrest := Inlined.file hmeaning hread hinside (.single hsecond (by decide) .nil)
    rw [hwords]
    exact .single hcompiler (by decide) (.single hunknown (by decide) hrest)
  obtain ⟨_, _, hunique, hfirst, hflags⟩ :=
    standard_is_first_selected reader .empty line found hread
  obtain rfl := hunique items hitems
  obtain ⟨hoptions, _, _, _, _, htrash⟩ :=
    hflags [.argument "g++", .argument "-std=c++23", .opening "@a", .argument "-isystem"]
      "-std=gnu++11" [.closing "@a", .argument "-std=c++20"] .cpp11 rfl hselects
  exact ⟨hread, hitems, hfirst, hselects, hoptions, htrash⟩

end Gcc

end CompilerLog
