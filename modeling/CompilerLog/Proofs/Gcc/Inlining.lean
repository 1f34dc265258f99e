import CompilerLog.Proofs.Gcc.Expansion
/-!
# Response files written out in place

A line with response files means what the line means that has the arguments of each file in place of
its name, read once from left to right. Two things are lost in writing the files out, and are kept
beside the arguments: no keyword takes its path from beyond the end of its file, and the compiler
and the trash of a file are not those of the line.
-/

namespace CompilerLog.Gcc

/-- A place in a line whose response files are written out. -/
inductive Item where
  | argument (text : String)
  /-- Here the file begins that an argument names. -/
  | opening (reference : String)
  /-- Here it ends. -/
  | closing (reference : String)
  deriving DecidableEq, Repr

/-- Arguments, and the same with every file they name written out in its place. A name that is the
path of a keyword stays. -/
inductive Inlined (reader : TextReader) : List String → List Item → Prop
  | nil : Inlined reader [] []
  | pair {keyword next p rest items} (hpair : Part.pair? keyword next = some p) :
      Inlined reader rest items →
      Inlined reader (keyword :: next :: rest) (.argument keyword :: .argument next :: items)
  | file {reference path text rest content items}
      (hmeaning : Argument.ofText reference = .responseFile path)
      (hread : reader path = .ok text) :
      Inlined reader (argumentsOf text) content → Inlined reader rest items →
      Inlined reader (reference :: rest)
        (.opening reference :: content ++ .closing reference :: items)
  | single {argument rest items}
      (hmeaning : ∀ path, Argument.ofText argument ≠ .responseFile path)
      (hnext : ∀ next ∈ rest.head?, Part.pair? argument next = none) :
      Inlined reader rest items →
      Inlined reader (argument :: rest) (.argument argument :: items)

/-- The parts of a line that is written out, from left to right, each with the number of files that
it stands in. A keyword takes its path only from what follows it at once. A file that ends leaves
its name behind. -/
def classify (depth : Nat) : List Item → List (Nat × Part)
  | [] => []
  | .opening _ :: items => classify (depth + 1) items
  | .closing reference :: items => (depth - 1, .trash reference) :: classify (depth - 1) items
  | .argument argument :: .argument next :: items =>
    match Part.pair? argument next with
    | some p => (depth, p) :: classify depth items
    | none => (depth, .single argument) :: classify depth (.argument next :: items)
  | .argument argument :: items => (depth, .single argument) :: classify depth items

theorem classify_single (depth : Nat) {argument : String} {items : List Item}
    (h : ∀ next, items.head? = some (.argument next) → Part.pair? argument next = none) :
    classify depth (.argument argument :: items) =
      (depth, .single argument) :: classify depth items := by
  cases items with
  | nil => rfl
  | cons item items =>
      cases item with
      | argument next => simp [classify, h next rfl]
      | opening _ => rfl
      | closing _ => rfl

def includesOf (d : DirectoryOptions) : List Part → List String
  | [] => []
  | p :: rest => p.includes d ++ includesOf (p.directories d) rest

theorem includesOf_append (d : DirectoryOptions) (ps qs : List Part) :
    includesOf d (ps ++ qs) = includesOf d ps ++ includesOf (ps.foldl Part.directories d) qs := by
  induction ps generalizing d with
  | nil => rfl
  | cons p ps ih => simp [includesOf, ih]

namespace Inlined

variable {reader : TextReader} {arguments : List String} {items : List Item}

/-- An argument that comes first was first before. -/
theorem head?_eq (h : Inlined reader arguments items) {next : String}
    (hnext : items.head? = some (.argument next)) : arguments.head? = some next := by
  cases h with
  | nil => cases hnext
  | pair _ _ => simpa using hnext
  | file _ _ _ _ => simp at hnext
  | single _ _ _ => simpa using hnext

theorem unique (h : Inlined reader arguments items) {items' : List Item}
    (h' : Inlined reader arguments items') : items' = items := by
  induction h generalizing items' with
  | nil =>
      cases h'
      rfl
  | pair hpair _ ih =>
      cases h' with
      | pair _ hrest => rw [ih hrest]
      | file hmeaning _ _ _ => exact absurd hmeaning (Part.ofText_ne_responseFile hpair _)
      | single _ hnext _ => cases (hnext _ rfl).symm.trans hpair
  | file hmeaning hread _ _ ihContent ihRest =>
      cases h' with
      | pair hpair _ => exact absurd hmeaning (Part.ofText_ne_responseFile hpair _)
      | file hmeaning' hread' hcontent hrest =>
          cases hmeaning.symm.trans hmeaning'
          cases hread.symm.trans hread'
          rw [ihContent hcontent, ihRest hrest]
      | single hmeaning' _ _ => exact absurd hmeaning (hmeaning' _)
  | single hmeaning hnext _ ih =>
      cases h' with
      | pair hpair _ => cases (hnext _ rfl).symm.trans hpair
      | file hmeaning' _ _ _ => exact absurd hmeaning' (hmeaning _)
      | single _ _ hrest => rw [ih hrest]

/-- Where arguments end, no keyword takes a path from what follows. -/
theorem classify_append (h : Inlined reader arguments items) (depth : Nat) (tail : List Item)
    (htail : ∀ next, tail.head? ≠ some (.argument next)) :
    classify depth (items ++ tail) = classify depth items ++ classify depth tail := by
  -- The tail is arbitrary because what follows a file's content is first the end of the file.
  induction h generalizing depth tail with
  | nil => rfl
  | pair hpair _ ih => simp [classify, hpair, ih depth tail htail]
  | @file reference _ _ _ content _ _ _ _ _ ihContent ihRest =>
      have hcontent (more : List Item) :=
        ihContent (depth + 1) (.closing reference :: more) nofun
      simp [classify, hcontent, ihRest depth tail htail]
  | @single argument rest items _ hnext hrest ih =>
      have hitems (next : String) (hhead : items.head? = some (.argument next)) :
          Part.pair? argument next = none := hnext next (hrest.head?_eq hhead)
      have hmore (next : String) (hhead : (items ++ tail).head? = some (.argument next)) :
          Part.pair? argument next = none := by
        cases items with
        | nil => exact absurd hhead (htail next)
        | cons item _ => exact hitems next hhead
      rw [classify_single depth hitems, List.cons_append, classify_single depth hmore,
        ih depth tail htail, List.cons_append]

/-- A file that is written out stands one level deeper, and leaves its name at its end. -/
theorem classify_file {content : List Item} (h : Inlined reader arguments content) (depth : Nat)
    (reference : String) (items : List Item) :
    classify depth (.opening reference :: content ++ .closing reference :: items) =
      classify (depth + 1) content ++ (depth, .trash reference) :: classify depth items := by
  rw [List.cons_append, classify, h.classify_append _ _ (by simp), classify, Nat.add_sub_cancel]

theorem le_of_mem_classify (h : Inlined reader arguments items) (depth : Nat)
    {entry : Nat × Part} (hentry : entry ∈ classify depth items) : depth ≤ entry.1 := by
  induction h generalizing depth with
  | nil => cases hentry
  | pair hpair _ ih =>
      simp only [classify, hpair, List.mem_cons] at hentry
      rcases hentry with rfl | hentry
      · exact Nat.le_refl _
      · exact ih depth hentry
  | file _ _ hcontent _ ihContent ihRest =>
      rw [hcontent.classify_file, List.mem_append, List.mem_cons] at hentry
      rcases hentry with hentry | rfl | hentry
      · exact Nat.le_of_succ_le (ihContent (depth + 1) hentry)
      · exact Nat.le_refl _
      · exact ihRest depth hentry
  | single _ hnext hrest ih =>
      rw [classify_single depth fun next hhead => hnext next (hrest.head?_eq hhead)] at hentry
      rcases List.mem_cons.mp hentry with rfl | hentry
      · exact Nat.le_refl _
      · exact ih depth hentry

end Inlined

def compilersAt (depth : Nat) (labelled : List (Nat × Part)) : List String :=
  labelled.flatMap fun entry => if entry.1 = depth then entry.2.compilers else []

/-- The trash of the parts at a depth, and the options of those elsewhere, in order. -/
def trashAt (depth : Nat) (labelled : List (Nat × Part)) : List String :=
  labelled.flatMap fun entry => if entry.1 = depth then entry.2.trashed else entry.2.options

def extend (d : DirectoryOptions) (depth : Nat) (labelled : List (Nat × Part))
    (found : Invocation) : Invocation :=
  let flat := labelled.map (·.2)
  { found with
    compiler :=
      if found.hasCompiler then found.compiler
      else (compilersAt depth labelled).headD found.compiler
    includes := found.includes ++ includesOf d flat
    defines := found.defines ++ flat.flatMap Part.defines
    options := found.options ++ flat.flatMap Part.options
    trash := found.trash ++ trashAt depth labelled }

theorem extend_nil (d : DirectoryOptions) (depth : Nat) (found : Invocation) :
    extend d depth [] found = found := by
  simp [extend, compilersAt, trashAt, includesOf]

/-- A part of the line itself is added at once. -/
theorem extend_cons (d : DirectoryOptions) (depth : Nat) {p : Part}
    (hp : ∀ name ∈ p.compilers, name ≠ "") (labelled : List (Nat × Part)) (found : Invocation) :
    extend d depth ((depth, p) :: labelled) found =
      extend (p.directories d) depth labelled (p.add d found) := by
  have hcompiler : (extend d depth ((depth, p) :: labelled) found).compiler =
      (extend (p.directories d) depth labelled (p.add d found)).compiler := by
    -- A compiler without a name would not keep a later one from being named.
    cases p with
    | compiler name =>
        have hname := hp name (List.mem_singleton.mpr rfl)
        cases h : found.hasCompiler <;>
          simp_all [extend, compilersAt, Part.add, Invocation.hasCompiler]
    | _ => simp [extend, compilersAt, Part.add, Invocation.hasCompiler]
  have h := hcompiler
  simp only [extend] at h ⊢
  rw [h]
  simp [Part.add, includesOf, trashAt]

/-- Of a file nothing is kept but what `splice` keeps. -/
theorem extend_append {d : DirectoryOptions} {depth : Nat} {inner : List (Nat × Part)}
    (hinner : ∀ entry ∈ inner, depth < entry.1) (outer : List (Nat × Part)) (found : Invocation)
    (level : Nat) :
    extend d depth (inner ++ outer) found =
      extend ((inner.map (·.2)).foldl Part.directories d) depth outer
        (splice (extend d level inner .empty) found) := by
  have hcompilers : compilersAt depth (inner ++ outer) = compilersAt depth outer := by
    have hnone : compilersAt depth inner = [] := by
      refine List.flatMap_eq_nil_iff.mpr fun entry hentry => if_neg ?_
      exact Nat.ne_of_gt (hinner entry hentry)
    rw [compilersAt, List.flatMap_append]
    change compilersAt depth inner ++ _ = _
    rw [hnone]
    rfl
  have htrash : trashAt depth (inner ++ outer) =
      (inner.map (·.2)).flatMap Part.options ++ trashAt depth outer := by
    have hoptions : trashAt depth inner = (inner.map (·.2)).flatMap Part.options := by
      rw [trashAt, List.flatMap_map]
      refine List.flatMap_congr fun entry hentry => if_neg ?_
      exact Nat.ne_of_gt (hinner entry hentry)
    rw [← hoptions]
    exact List.flatMap_append
  simp [extend, splice, hcompilers, htrash, includesOf_append, Invocation.hasCompiler,
    Invocation.empty]

/-- What a call finds, told by the files that it writes out. -/
def Call.WrittenOut (reader : TextReader) (d : DirectoryOptions) (found : Invocation)
    (d' : DirectoryOptions) : Call → Prop
  | line ps before => ∀ arguments, parts arguments = ps →
      ∃ items, Inlined reader arguments items ∧ ∀ depth,
        found = extend d depth (classify depth items) before ∧
        d' = ((classify depth items).map (·.2)).foldl Part.directories d
  | file path => ∃ text items, reader path = .ok text ∧
      Inlined reader (argumentsOf text) items ∧ ∀ depth,
        found = extend d depth (classify depth items) .empty ∧
        d' = ((classify depth items).map (·.2)).foldl Part.directories d

/-- The directory options go through a file as through any other part, and all else that a file
adds does not depend on how deep it stands. -/
theorem Returns.writtenOut {reader : TextReader} {call : Call} {s t : Expansion} {levels : Nat}
    {outcome : Except ExpansionError Invocation}
    (h : Returns (fun _ => reader) call s levels outcome t) {found : Invocation}
    (hok : outcome = .ok found) : call.WrittenOut reader s.directories found t.directories := by
  induction h generalizing found with
  | finished =>
      cases hok
      intro arguments hparts
      rw [eq_nil_of_parts hparts]
      exact ⟨[], .nil, fun depth => ⟨(extend_nil _ _ _).symm, rfl⟩⟩
  | part hp _ ih =>
      intro arguments hparts
      rcases parts_eq_cons hparts with
        ⟨keyword, next, left, rfl, hpair, hleft⟩ | ⟨argument, left, rfl, hnext, rfl, hleft⟩
      · obtain ⟨items, hitems, hfound⟩ := ih hok left hleft
        refine ⟨_, .pair hpair hitems, fun depth => ?_⟩
        obtain ⟨rfl, hdirectories⟩ := hfound depth
        obtain ⟨_, option, _, rfl⟩ := Part.exists_of_pair? hpair
        simp only [classify, hpair]
        exact ⟨(extend_cons _ _ (by simp) _ _).symm, hdirectories⟩
      · obtain ⟨items, hitems, hfound⟩ := ih hok left hleft
        have hmeaning (path : String) : Argument.ofText argument ≠ .responseFile path := by
          intro hfile
          rw [Part.single_responseFile hfile] at hp
          cases hp
        refine ⟨_, .single hmeaning hnext hitems, fun depth => ?_⟩
        obtain ⟨rfl, hdirectories⟩ := hfound depth
        rw [classify_single depth fun next hhead => hnext next (hitems.head?_eq hhead)]
        exact ⟨(extend_cons _ _ (fun _ => Part.ne_empty_of_mem_compilers) _ _).symm, hdirectories⟩
  | spliced _ _ ihFile ihRest =>
      intro arguments hparts
      obtain ⟨left, rfl, hleft, hmeaning⟩ := parts_eq_cons_file hparts
      obtain ⟨text, content, hread, hcontent, hinner⟩ := ihFile rfl
      obtain ⟨items, hitems, houter⟩ := ihRest hok left hleft
      refine ⟨_, .file hmeaning hread hcontent hitems, fun depth => ?_⟩
      obtain ⟨rfl, hd⟩ := hinner (depth + 1)
      obtain ⟨rfl, hd'⟩ := houter depth
      -- Nothing of the file stands at the depth of the line, so that only its options count there.
      have hdeeper (entry : Nat × Part) (hentry : entry ∈ classify (depth + 1) content) :
          depth < entry.1 := hcontent.le_of_mem_classify (depth + 1) hentry
      rw [hcontent.classify_file]
      constructor
      · rw [extend_append hdeeper _ _ (depth + 1), ← hd, extend_cons _ _ (by simp),
          sortOut_of_ne_option (Argument.sorted_of_ofText_responseFile hmeaning)]
        rfl
      · rw [hd', hd]
        simp
  | failed => cases hok
  | refused => cases hok
  | expanded henter _ ih =>
      obtain ⟨_, hread, rfl⟩ := Expansion.of_enter_ok henter
      obtain ⟨items, hitems, hfound⟩ := ih hok _ rfl
      exact ⟨_, items, hread, hitems, hfound⟩

/-- A line that is read means what it means with its response files written out, classified once
from left to right. Its compiler is its own, and so is its trash, but for the options that its
files add, each file before its name. -/
theorem readLine_eq_inlined (reader : TextReader) (d : DirectoryOptions) (line : String)
    (found : Invocation) (h : (readLine reader d line).value.outcome = .ok found) :
    ∃ items, Inlined reader (argumentsOf line) items ∧
      (∀ other, Inlined reader (argumentsOf line) other → other = items) ∧
      let flat := (classify 0 items).map (·.2)
      found.includes = includesOf d flat ∧
      found.defines = flat.flatMap Part.defines ∧
      found.options = flat.flatMap Part.options ∧
      (readLine reader d line).value.directories = flat.foldl Part.directories d ∧
      found.compiler = (compilersAt 0 (classify 0 items)).headD "" ∧
      found.trash = trashAt 0 (classify 0 items) := by
  obtain ⟨levels, outcome, t, hreturns, hvalue⟩ := exists_returns_readLine reader d line
  rw [hvalue] at h ⊢
  cases outcome with
  | error error => cases h
  | ok gathered =>
      cases h
      obtain ⟨items, hitems, hfound⟩ := hreturns.writtenOut rfl _ rfl
      obtain ⟨hgathered, hdirectories⟩ := hfound 0
      rw [hgathered]
      exact ⟨items, hitems, fun other hother => hitems.unique hother, rfl, rfl, rfl, hdirectories,
        rfl, rfl⟩

/-- A file that names a compiler of its own and ends with a keyword, in front of what would be
the path of that keyword. -/
theorem readLine_eq_inlined_of_keyword_at_end :
    let reader : TextReader := fun path =>
      if path = "a" then .ok "avr-g++ -DX -Wall -isystem" else .error (.ofSystem .notFound)
    let found : Invocation :=
      ⟨"g++", [], ["X"], ["-Wall", "-isystem", "-w"], ["-Wall", "-isystem", "@a", "/x"], .unset⟩
    (readLine reader .empty "g++ @a /x -w").value.outcome = .ok found ∧
      ∃ items, Inlined reader (argumentsOf "g++ @a /x -w") items ∧
        found.options = ((classify 0 items).map (·.2)).flatMap Part.options ∧
        found.compiler = (compilersAt 0 (classify 0 items)).headD "" ∧
        found.trash = trashAt 0 (classify 0 items) := by
  intro reader found
  have hline : parts (argumentsOf "g++ @a /x -w") =
      [.compiler "g++", .file "@a" "a", .trash "/x", .flag "-w"] := by decide
  have hfile : parts (argumentsOf "avr-g++ -DX -Wall -isystem") =
      [.compiler "avr-g++", .define "X", .flag "-Wall", .flag "-isystem"] := by decide
  have hcontent : Returns (fun _ => reader)
      (.line (parts (argumentsOf "avr-g++ -DX -Wall -isystem")) .empty)
      ⟨.empty, ["a"], [⟨[], "a"⟩]⟩ 0
      (.ok ⟨"avr-g++", [], ["X"], ["-Wall", "-isystem"], [], .unset⟩)
      ⟨.empty, ["a"], [⟨[], "a"⟩]⟩ := by
    rw [hfile]
    exact .part rfl (.part rfl (.part rfl (.part rfl .finished)))
  have hreturns : Returns (fun _ => reader) (.line (parts (argumentsOf "g++ @a /x -w")) .empty)
      (.start .empty) 1 (.ok found) ⟨.empty, [], [⟨[], "a"⟩]⟩ := by
    rw [hline]
    exact .part rfl (.spliced (.expanded rfl hcontent) (.part rfl (.part rfl .finished)))
  have hread : (readLine reader .empty "g++ @a /x -w").value.outcome = .ok found := by
    rw [readLine_of_returns hreturns]
    decide
  obtain ⟨items, hitems, _, _, _, hoptions, _, hcompiler, htrash⟩ :=
    readLine_eq_inlined reader .empty "g++ @a /x -w" found hread
  exact ⟨hread, items, hitems, hoptions, hcompiler, htrash⟩

end CompilerLog.Gcc
