import CompilerLog.Proofs.Gcc.Walk
/-!
# Directory options declared by a line

Reading a line appends to the directory options what the parts of the line declare, and no empty
path among it. The parts of a file count where the file is named, up to the first file that cannot
be entered. Nothing of this depends on what was declared before.
-/

namespace CompilerLog.Gcc

section Words

theorem unescapeQuotes_ne_nil {text : List Char} (h : text ≠ []) : unescapeQuotes text ≠ [] := by
  unfold unescapeQuotes
  split
  · exact List.cons_ne_nil _ _
  · exact List.cons_ne_nil _ _
  · exact absurd rfl h

theorem unwrap_ne_empty {word : String} (h : word ≠ "") : unwrap word ≠ "" := by
  unfold unwrap
  split
  · split
    · rename_i inner _
      split
      · exact h
      · rename_i hinner
        have hne : inner.reverse ≠ [] := by simpa using hinner
        simpa using unescapeQuotes_ne_nil hne
    · exact h
  · exact h

theorem ne_empty_of_mem_argumentsOf {line argument : String} (h : argument ∈ argumentsOf line) :
    argument ≠ "" := by
  obtain ⟨word, hword, rfl⟩ := List.mem_map.mp h
  refine unwrap_ne_empty ?_
  obtain ⟨words, hwords⟩ : ∃ words : List (List Char),
      (Shell.tokenize line).value = (words.filter (· ≠ [])).map String.ofList := by
    unfold Shell.tokenize
    split
    · exact ⟨_, rfl⟩
    · exact ⟨_, rfl⟩
  rw [hwords, List.mem_map] at hword
  obtain ⟨chars, hchars, rfl⟩ := hword
  have hne := (List.mem_filter.mp hchars).2
  simpa using hne

end Words

/-- The paths that a part appends to those of a keyword. A keyword whose paths need a prefix keeps
none. -/
def Part.declared (option : DirectoryOption) : Part → List String
  | directory keyword path => if keyword = option ∧ !keyword.usesPrefix then [path] else []
  | _ => []

def declared (option : DirectoryOption) (ps : List Part) : List String :=
  ps.flatMap (Part.declared option)

section Declared

variable {option : DirectoryOption}

theorem Part.get_directories (d : DirectoryOptions) (p : Part) :
    (p.directories d).get option = d.get option ++ p.declared option := by
  cases p with
  | directory keyword path =>
      by_cases huses : keyword.usesPrefix = true
      · simp [Part.declared, huses]
      · by_cases hoption : option = keyword
        · simp [Part.declared, huses, DirectoryOptions.get_push, hoption]
        · simp [Part.declared, huses, DirectoryOptions.get_push, hoption, Ne.symm hoption]
  | _ => simp [Part.declared]

theorem get_foldl_directories (ps : List Part) (d : DirectoryOptions) :
    (ps.foldl Part.directories d).get option = d.get option ++ declared option ps := by
  induction ps generalizing d with
  | nil => simp [declared]
  | cons p ps ih =>
      rw [List.foldl_cons, ih, Part.get_directories, declared, declared, List.flatMap_cons,
        List.append_assoc]

theorem declared_of_usesPrefix (h : option.usesPrefix = true) (ps : List Part) :
    declared option ps = [] := by
  refine List.flatMap_eq_nil_iff.mpr fun p _ => ?_
  unfold Part.declared
  split
  · refine if_neg ?_
    rintro ⟨rfl, huses⟩
    simp [h] at huses
  · rfl

theorem empty_not_mem_declared_of_parts {arguments : List String}
    (h : ∀ argument ∈ arguments, argument ≠ "") :
    ∀ p ∈ parts arguments, "" ∉ p.declared option := by
  -- A path is glued to its keyword and not empty, or else it is an argument.
  have hsingle (argument : String) : "" ∉ (Part.single argument).declared option := by
    cases hmeaning : Argument.ofText argument with
    | directory keyword path =>
        by_cases hpath : path = ""
        · simp [Part.single, hmeaning, hpath, Part.declared]
        · simp [Part.single, hmeaning, hpath, Part.declared, Ne.symm hpath]
    | _ => simp [Part.single, hmeaning, Part.declared]
  refine forall_mem_parts (fun argument _ => hsingle argument) ?_
  intro path hpath keyword
  have hne : path ≠ "" := h path hpath
  simp [Part.declared, Ne.symm hne]

theorem empty_not_mem_declared_of_line (line : String) :
    ∀ p ∈ parts (argumentsOf line), "" ∉ p.declared option :=
  empty_not_mem_declared_of_parts fun _ => ne_empty_of_mem_argumentsOf

end Declared

/-- Parts, and the same with the parts of every file in the place of its name, up to the first file
that cannot be entered and the reason for that. -/
inductive Expanded (reader : TextReader) :
    List String → List Part → List Part → Option ExpansionError → Prop
  | nil {opened} : Expanded reader opened [] [] none
  | part {opened p rest flat error?} (hp : p.path? = none) :
      Expanded reader opened rest flat error? →
      Expanded reader opened (p :: rest) (p :: flat) error?
  | refused {opened reference path rest error} : Refused reader opened path error →
      Expanded reader opened (.file reference path :: rest) [] (some error)
  | failed {opened reference path text rest flat error} (hadmits : Admits opened path)
      (hread : reader path = .ok text) :
      Expanded reader (opened ++ [path]) (parts (argumentsOf text)) flat (some error) →
      Expanded reader opened (.file reference path :: rest) flat (some error)
  | entered {opened reference path text rest content flat error?} (hadmits : Admits opened path)
      (hread : reader path = .ok text) :
      Expanded reader (opened ++ [path]) (parts (argumentsOf text)) content none →
      Expanded reader opened rest flat error? →
      Expanded reader opened (.file reference path :: rest) (content ++ flat) error?

namespace Expanded

variable {reader : TextReader} {opened : List String} {p : Part} {ps rest flat more : List Part}
  {error? error?' : Option ExpansionError}

theorem unique (h : Expanded reader opened ps flat error?) {flat' : List Part}
    (h' : Expanded reader opened ps flat' error?') : flat' = flat ∧ error?' = error? := by
  induction h generalizing flat' error?' with
  | nil =>
      cases h'
      exact ⟨rfl, rfl⟩
  | part hp _ ih =>
      cases h' with
      | part _ hrest =>
          obtain ⟨rfl, rfl⟩ := ih hrest
          exact ⟨rfl, rfl⟩
      | refused _ => cases hp
      | failed _ _ _ => cases hp
      | entered _ _ _ _ => cases hp
  | refused hrefused =>
      cases h' with
      | part hp _ => cases hp
      | refused hrefused' => exact ⟨rfl, congrArg some (hrefused.unique hrefused')⟩
      | failed hadmits hread _ => exact absurd hrefused (not_refused hadmits hread _)
      | entered hadmits hread _ _ => exact absurd hrefused (not_refused hadmits hread _)
  | failed hadmits hread _ ih =>
      cases h' with
      | part hp _ => cases hp
      | refused hrefused => exact absurd hrefused (not_refused hadmits hread _)
      | failed _ hread' hcontent =>
          cases hread.symm.trans hread'
          exact ih hcontent
      | entered _ hread' hcontent _ =>
          cases hread.symm.trans hread'
          cases (ih hcontent).2
  | entered hadmits hread _ _ ihContent ihRest =>
      cases h' with
      | part hp _ => cases hp
      | refused hrefused => exact absurd hrefused (not_refused hadmits hread _)
      | failed _ hread' hcontent =>
          cases hread.symm.trans hread'
          cases (ihContent hcontent).2
      | entered _ hread' hcontent hrest =>
          cases hread.symm.trans hread'
          obtain ⟨rfl, _⟩ := ihContent hcontent
          obtain ⟨rfl, rfl⟩ := ihRest hrest
          exact ⟨rfl, rfl⟩

theorem stop {error : ExpansionError} (h : Expanded reader opened [p] flat (some error))
    (rest : List Part) : Expanded reader opened (p :: rest) flat (some error) := by
  cases h with
  | part _ h => cases h
  | refused hrefused => exact .refused hrefused
  | failed hadmits hread hcontent => exact .failed hadmits hread hcontent
  | entered _ _ _ h => cases h

theorem later (h : Expanded reader opened [p] flat none)
    (hrest : Expanded reader opened rest more error?) :
    Expanded reader opened (p :: rest) (flat ++ more) error? := by
  cases h with
  | part hp h =>
      cases h
      exact .part hp hrest
  | entered hadmits hread hcontent h =>
      cases h
      rw [List.append_nil]
      exact .entered hadmits hread hcontent hrest

theorem empty_not_mem_declared {option : DirectoryOption}
    (h : Expanded reader opened ps flat error?) (hps : ∀ p ∈ ps, "" ∉ p.declared option) :
    "" ∉ declared option flat := by
  induction h with
  | nil => nofun
  | part _ _ ih =>
      obtain ⟨hp, hrest⟩ := List.forall_mem_cons.mp hps
      rw [declared, List.flatMap_cons, List.mem_append]
      exact not_or.mpr ⟨hp, ih hrest⟩
  | refused _ => nofun
  | failed _ _ _ ih => exact ih (empty_not_mem_declared_of_line _)
  | entered _ _ _ _ ihContent ihRest =>
      have hcontent := ihContent (empty_not_mem_declared_of_line _)
      have hrest := ihRest (List.forall_mem_cons.mp hps).2
      rw [declared, List.flatMap_append, List.mem_append]
      exact not_or.mpr ⟨hcontent, hrest⟩

end Expanded

theorem Expansion.refused_of_enter {reader : TextReader} {s t : Expansion} {path : String}
    {error : ExpansionError} (h : s.enter (fun _ => reader) path = (.error error, t)) :
    Refused reader s.stack path error := by
  rcases Expansion.enter_cases _ s path with ⟨hcycle, henter⟩ | ⟨hfree, hdepth, henter⟩ |
    ⟨⟨hroom, hfree⟩, _, hread, henter⟩ | ⟨_, _, _, henter⟩ <;> cases h.symm.trans henter
  · exact .cycle hcycle
  · exact .tooDeep hfree hdepth
  · exact .unreadable hfree hroom hread

/-- What the parts of a call expand to. A file is as good as a line that names it. -/
def Call.Expands (reader : TextReader) (opened : List String) (flat : List Part)
    (error? : Option ExpansionError) : Call → Prop
  | line ps _ => Expanded reader opened ps flat error?
  | file path => ∀ reference, Expanded reader opened [.file reference path] flat error?

theorem Returns.exists_expands {reader : TextReader} {call : Call} {s t : Expansion} {levels : Nat}
    {outcome : Except ExpansionError Invocation}
    (h : Returns (fun _ => reader) call s levels outcome t) :
    ∃ flat, call.Expands reader s.stack flat (errorOf? outcome) ∧
      t.directories = flat.foldl Part.directories s.directories := by
  induction h with
  | finished => exact ⟨[], .nil, rfl⟩
  | part hp _ ih =>
      obtain ⟨flat, hflat, hdirectories⟩ := ih
      exact ⟨_, .part hp hflat, hdirectories⟩
  | spliced hfile _ ihFile ihRest =>
      obtain ⟨content, hcontent, hfile'⟩ := ihFile
      obtain ⟨flat, hflat, hrest⟩ := ihRest
      -- The file gave the stack back, so that the rest expands with the files open before.
      rw [hfile.stack_eq] at hflat
      refine ⟨content ++ flat, (hcontent _).later hflat, ?_⟩
      rw [hrest, hfile', List.foldl_append]
  | failed _ ih =>
      obtain ⟨flat, hflat, hdirectories⟩ := ih
      exact ⟨flat, (hflat _).stop _, hdirectories⟩
  | @refused path s _ _ henter =>
      have hdirectories := Expansion.directories_enter (fun _ => reader) s path
      rw [henter] at hdirectories
      exact ⟨[], fun _ => .refused (Expansion.refused_of_enter henter), hdirectories⟩
  | @expanded path s text t _ outcome _ henter _ ih =>
      obtain ⟨hadmits, hread, rfl⟩ := Expansion.of_enter_ok henter
      obtain ⟨flat, hflat, hdirectories⟩ := ih
      refine ⟨flat, fun reference => ?_, hdirectories⟩
      cases outcome with
      | error error => exact .failed hadmits hread hflat
      | ok found =>
          have hentered : Expanded reader s.stack [.file reference path] (flat ++ []) none :=
            .entered hadmits hread hflat .nil
          rwa [List.append_nil] at hentered

theorem exists_expanded_readLine (reader : TextReader) (d : DirectoryOptions) (line : String) :
    ∃ flat, Expanded reader [] (parts (argumentsOf line)) flat
        (errorOf? (readLine reader d line).value.outcome) ∧
      ∀ option, (readLine reader d line).value.directories.get option =
        d.get option ++ declared option flat := by
  obtain ⟨levels, outcome, t, h, hvalue⟩ := exists_returns_readLine reader d line
  obtain ⟨flat, hflat, hdirectories⟩ := h.exists_expands
  refine ⟨flat, ?_, fun option => ?_⟩
  · rw [hvalue]
    cases outcome with
    | error error => exact hflat
    | ok found => exact hflat
  · rw [hvalue, hdirectories]
    exact get_foldl_directories flat d

namespace DirectoryOptions

/-- What directory options can become: paths are appended, none of them empty, and none to a
keyword whose paths need a prefix. -/
structure Grows (d later : DirectoryOptions) : Prop where
  appended : ∀ option, ∃ paths, later.get option = d.get option ++ paths ∧ "" ∉ paths
  kept : ∀ option, option.usesPrefix = true → later.get option = d.get option

namespace Grows

variable {d later latest : DirectoryOptions}

theorem refl (d : DirectoryOptions) : Grows d d where
  appended option := ⟨[], by simp⟩
  kept _ _ := rfl

theorem trans (h : Grows d later) (h' : Grows later latest) : Grows d latest where
  appended := by
    intro option
    obtain ⟨paths, hpaths, hempty⟩ := h.appended option
    obtain ⟨more, hmore, hempty'⟩ := h'.appended option
    refine ⟨paths ++ more, by rw [hmore, hpaths, List.append_assoc], ?_⟩
    rw [List.mem_append]
    exact not_or.mpr ⟨hempty, hempty'⟩
  kept := by
    intro option huses
    rw [h'.kept option huses, h.kept option huses]

theorem declaredPrefix?_eq (h : Grows d later) (hd : d.get .basePrefix ≠ []) :
    later.declaredPrefix? = d.declaredPrefix? := by
  obtain ⟨paths, hpaths, _⟩ := h.appended .basePrefix
  rw [declaredPrefix?, declaredPrefix?, hpaths, List.head?_append_of_ne_nil _ hd]

end Grows

end DirectoryOptions

theorem grows_readLine (reader : TextReader) (d : DirectoryOptions) (line : String) :
    d.Grows (readLine reader d line).value.directories := by
  obtain ⟨flat, hflat, hdirectories⟩ := exists_expanded_readLine reader d line
  constructor
  · intro option
    have hempty : "" ∉ declared option flat :=
      hflat.empty_not_mem_declared (empty_not_mem_declared_of_line line)
    exact ⟨_, hdirectories option, hempty⟩
  · intro option huses
    rw [hdirectories, declared_of_usesPrefix huses, List.append_nil]

end CompilerLog.Gcc
