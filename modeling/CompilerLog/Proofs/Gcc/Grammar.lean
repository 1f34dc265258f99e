import CompilerLog.Proofs.Gcc.Argument
/-!
# The grammar of arguments

What a directive is made of: `Directive` says it of each meaning by itself, in terms of how its text
is put together. No text is two directives, so that the order in which they are tried does not
matter. All other text is trash, a flag or neither, and there the order does matter.
-/

namespace CompilerLog.Gcc

theorem DirectoryOption.keyword_injective {option other : DirectoryOption}
    (h : option.keyword = other.keyword) : option = other := by
  have hsame := ofKeyword?_keyword option
  rw [h, ofKeyword?_keyword] at hsame
  exact (Option.some.inj hsame).symm

namespace Argument

/-- What may stand in front of the name of the compiler. -/
inductive Target : List Char → Prop
  | nothing : Target []
  | slash {c} : c = '/' ∨ c = '\\' → Target [c]
  | path {first middle last} : first ≠ '-' → first ≠ '@' → '\n' ∉ middle →
      last = '-' ∨ last = '/' ∨ last = '\\' → Target (first :: (middle ++ [last]))

/-- A path behind a keyword, without the blank in front of it. -/
inductive Behind : List Char → List Char → Prop
  | glued {path} : (∀ c ∈ path.head?, Text.isBlank c = false) → Behind path path
  | blank {c path} : Text.isBlank c = true → Behind (c :: path) path

/-- A keyword that fits, with the path that it leaves. -/
def Fits (text : String) (option : DirectoryOption) (path : String) : Prop :=
  ∃ rest, text = "-i" ++ option.keyword ++ rest ∧ Behind rest.toList path.toList ∧
    '\n' ∉ path.toList

/-- Text on one line, and not empty. -/
def IsLine (chars : List Char) : Prop := chars ≠ [] ∧ '\n' ∉ chars

/-- The path of a file behind its mark: a blank in front is dropped if a path is left. -/
inductive Named : List Char → List Char → Prop
  | blank {c path} : Text.isBlank c = true → IsLine path → Named (c :: path) path
  | whole {path} : IsLine path →
      (∀ c rest, path = c :: rest → Text.isBlank c = true → ¬ IsLine rest) → Named path path

/-- The texts of a directive, for each meaning. The other meanings are no directives. -/
def Directive (text : String) : Argument → Prop
  | define value => text = "-D" ++ value ∧ IsLine value.toList
  | includePath value => text = "-I" ++ value ∧ IsLine value.toList
  | compiler => ∃ target, Target target.toList ∧
      (text = target ++ "g++" ∨ text = target ++ "g++.exe")
  | directory key path => Fits text key path ∧
      ∀ other left, Fits text other left → other.keyword.length ≤ key.keyword.length
  | responseFile path => ∃ rest, text = "@" ++ rest ∧ Named rest.toList path.toList
  | trash | option | residual => False

/-- Outputs, optimisation, debugging, compile-only flags and sources. -/
def IsTrash (text : String) : Prop :=
  (∃ flag ∈ ["-o", "-O", "-g", "-c"], ∃ rest, text = flag ++ rest) ∨
    ∃ ending ∈ ["cpp", "cpp.o"], ∃ front, text = front ++ ending

def IsFlag (text : String) : Prop := ∃ rest, text = "-" ++ rest

variable {text : String}

theorem eq_append_iff {front rest : String} :
    text = front ++ rest ↔ text.toList = front.toList ++ rest.toList := by
  rw [← String.toList_inj, String.toList_append]

theorem oneLine_iff {chars : List Char} : oneLine chars = true ↔ '\n' ∉ chars := by
  simp [oneLine]

theorem isLine_iff {chars : List Char} : chars ≠ [] ∧ oneLine chars = true ↔ IsLine chars :=
  and_congr_right fun _ => oneLine_iff

section Rules

theorem flagValue?_eq_some_iff {letter : Char} {chars : List Char} {value : String} :
    flagValue? letter chars = some value ↔
      chars = '-' :: letter :: value.toList ∧ IsLine value.toList := by
  constructor
  · intro h
    unfold flagValue? at h
    split at h
    · obtain ⟨⟨rfl, hline⟩, hvalue⟩ := Option.ite_none_right_eq_some.mp h
      obtain rfl := Option.some.inj hvalue
      rw [String.toList_ofList]
      exact ⟨rfl, isLine_iff.mp hline⟩
    · cases h
  · rintro ⟨rfl, hline⟩
    rw [flagValue?, if_pos ⟨rfl, isLine_iff.mpr hline⟩, String.ofList_toList]

theorem namesTarget_iff {chars : List Char} : namesTarget chars = true ↔ Target chars := by
  constructor
  · intro h
    unfold namesTarget at h
    split at h
    · exact .nothing
    · exact .slash (by simpa using h)
    · rename_i first rest hrest
      simp only [Bool.and_eq_true, decide_eq_true_eq, Option.any_eq_true, Bool.or_eq_true] at h
      obtain ⟨⟨⟨hflag, hfile⟩, hline⟩, last, hlast, hends⟩ := h
      rw [← List.dropLast_append_getLast? last hlast]
      exact .path hflag hfile (oneLine_iff.mp hline) (or_assoc.mp hends)
  · intro h
    cases h with
    | nothing => rfl
    | slash hc => simpa [namesTarget] using hc
    | @path first middle last hflag hfile hline hends =>
        obtain ⟨c, rest, hrest⟩ : ∃ c rest, middle ++ [last] = c :: rest :=
          List.exists_cons_of_ne_nil (by simp)
        have hdrop : (c :: rest).dropLast = middle := by rw [← hrest, List.dropLast_concat]
        have hlast : (c :: rest).getLast? = some last := by rw [← hrest, List.getLast?_concat]
        have hends' : (last = '-' ∨ last = '/') ∨ last = '\\' := or_assoc.mpr hends
        rw [hrest]
        simp [namesTarget, hdrop, hlast, hflag, hfile, hends', oneLine_iff.mpr hline]

theorem isCompiler_iff : isCompiler text.toList = true ↔ Directive text compiler := by
  have hname (name : String) : (name.toList.isSuffixOf? text.toList).any namesTarget = true ↔
      ∃ target : String, Target target.toList ∧ text = target ++ name := by
    rw [Option.any_eq_true]
    constructor
    · rintro ⟨target, htarget, hnames⟩
      refine ⟨String.ofList target, ?_, ?_⟩
      · rw [String.toList_ofList]
        exact namesTarget_iff.mp hnames
      · rw [eq_append_iff, String.toList_ofList]
        exact (List.isSuffixOf?_eq_some_iff_append_eq.mp htarget).symm
    · rintro ⟨target, htarget, htext⟩
      refine ⟨target.toList, ?_, namesTarget_iff.mpr htarget⟩
      exact List.isSuffixOf?_eq_some_iff_append_eq.mpr (eq_append_iff.mp htext).symm
  rw [isCompiler, Bool.or_eq_true, hname, hname, Directive, ← exists_or]
  exact exists_congr fun _ => and_or_left.symm

theorem dropBlank_eq_iff {rest path : List Char} : dropBlank rest = path ↔ Behind rest path := by
  constructor
  · rintro rfl
    cases rest with
    | nil => exact .glued nofun
    | cons c rest =>
        by_cases hc : Text.isBlank c = true
        · rw [dropBlank, if_pos hc]
          exact .blank hc
        · rw [dropBlank, if_neg hc]
          exact .glued (by simpa using hc)
  · intro h
    cases h with
    | glued hpath =>
        cases rest with
        | nil => rfl
        | cons c rest => simp [dropBlank, hpath c rfl]
    | blank hc => simp [dropBlank, hc]

theorem fits_iff {key : DirectoryOption} {path : String} :
    Fits text key path ↔ ∃ rest, key.text.toList ++ rest = text.toList ∧
      dropBlank rest = path.toList ∧ '\n' ∉ path.toList := by
  have htext (rest : String) : text = "-i" ++ key.keyword ++ rest ↔
      key.text.toList ++ rest.toList = text.toList := by
    rw [← DirectoryOption.text, eq_append_iff, eq_comm]
  constructor
  · rintro ⟨rest, hrest, hpath, hline⟩
    exact ⟨rest.toList, (htext rest).mp hrest, dropBlank_eq_iff.mpr hpath, hline⟩
  · rintro ⟨rest, hrest, hpath, hline⟩
    refine ⟨String.ofList rest, (htext _).mpr ?_, ?_, hline⟩
    · rwa [String.toList_ofList]
    · rw [String.toList_ofList]
      exact dropBlank_eq_iff.mp hpath

/-- What one keyword is tried for. -/
def ofKeyword? (chars : List Char) (key : DirectoryOption) : Option Argument :=
  match key.text.toList.isPrefixOf? chars with
  | none => none
  | some rest =>
    let path := dropBlank rest
    if oneLine path then some (.directory key (String.ofList path)) else none

theorem directory?_eq (chars : List Char) :
    directory? chars = longestFirst.findSome? (ofKeyword? chars) := rfl

theorem ofKeyword?_eq_some_iff {key : DirectoryOption} {argument : Argument} :
    ofKeyword? text.toList key = some argument ↔
      ∃ path, Fits text key path ∧ argument = .directory key path := by
  constructor
  · intro h
    unfold ofKeyword? at h
    split at h
    · cases h
    · rename_i rest hrest
      obtain ⟨hline, hargument⟩ := Option.ite_none_right_eq_some.mp h
      refine ⟨String.ofList (dropBlank rest), fits_iff.mpr ⟨rest, ?_, ?_, ?_⟩, ?_⟩
      · exact List.append_eq_of_isPrefixOf?_eq_some hrest
      · exact String.toList_ofList.symm
      · rw [String.toList_ofList]
        exact oneLine_iff.mp hline
      · exact (Option.some.inj hargument).symm
  · rintro ⟨path, hfits, rfl⟩
    obtain ⟨rest, hrest, hpath, hline⟩ := fits_iff.mp hfits
    have hstart := List.isPrefixOf?_eq_some_iff_append_eq.mpr hrest
    simp [ofKeyword?, hstart, hpath, oneLine_iff.mpr hline]

theorem mem_longestFirst (key : DirectoryOption) : key ∈ longestFirst := by cases key <;> decide

theorem pairwise_longestFirst :
    longestFirst.Pairwise fun key other => other.keyword.length ≤ key.keyword.length := by
  decide

/-- Two keywords of one length cannot both fit. -/
theorem Fits.unique {key other : DirectoryOption} {path left : String} (h : Fits text key path)
    (h' : Fits text other left) (hlength : other.keyword.length = key.keyword.length) :
    key = other ∧ path = left := by
  obtain ⟨rest, hrest, hpath, _⟩ := fits_iff.mp h
  obtain ⟨rest', hrest', hpath', _⟩ := fits_iff.mp h'
  have hlengths : key.text.toList.length = other.text.toList.length := by
    simp [DirectoryOption.text, String.length_toList, hlength]
  obtain ⟨htext, rfl⟩ := List.append_inj (hrest.trans hrest'.symm) hlengths
  have hkeyword : key.keyword = other.keyword := by
    rw [DirectoryOption.text, DirectoryOption.text, String.toList_append, String.toList_append]
      at htext
    exact String.toList_inj.mp (List.append_cancel_left htext)
  exact ⟨DirectoryOption.keyword_injective hkeyword, String.toList_inj.mp (hpath.symm.trans hpath')⟩

theorem directory?_eq_some_iff {argument : Argument} : directory? text.toList = some argument ↔
    ∃ key path, argument = .directory key path ∧ Directive text (.directory key path) := by
  have hlongest {found : Argument} (h : directory? text.toList = some found) :
      ∃ key path, found = .directory key path ∧ Directive text (.directory key path) := by
    rw [directory?_eq] at h
    obtain ⟨longer, key, shorter, hkeys, hkey, hnone⟩ := List.findSome?_eq_some_iff.mp h
    obtain ⟨path, hfits, hfound⟩ := ofKeyword?_eq_some_iff.mp hkey
    refine ⟨key, path, hfound, hfits, fun other left hother => ?_⟩
    -- No keyword that comes before the one found fits, and none behind it is longer.
    have hmem := mem_longestFirst other
    have hsorted := pairwise_longestFirst
    rw [hkeys] at hmem hsorted
    rcases List.mem_append.mp hmem with hbefore | hbehind
    · cases (hnone other hbefore).symm.trans (ofKeyword?_eq_some_iff.mpr ⟨left, hother, rfl⟩)
    · rcases List.mem_cons.mp hbehind with rfl | hshorter
      · exact Nat.le_refl _
      · exact List.rel_of_pairwise_cons (List.pairwise_append.mp hsorted).2.1 hshorter
  constructor
  · exact hlongest
  · rintro ⟨key, path, rfl, hfits, hmax⟩
    have hsome : (directory? text.toList).isSome := by
      rw [directory?_eq, List.findSome?_isSome_iff]
      refine ⟨key, mem_longestFirst key, ?_⟩
      rw [ofKeyword?_eq_some_iff.mpr ⟨path, hfits, rfl⟩]
      rfl
    obtain ⟨found, hfound⟩ := Option.isSome_iff_exists.mp hsome
    obtain ⟨other, left, rfl, hother, hmax'⟩ := hlongest hfound
    obtain ⟨rfl, rfl⟩ := hfits.unique hother (Nat.le_antisymm (hmax _ _ hother) (hmax' _ _ hfits))
    exact hfound

theorem responseFile?_cons_eq_some_iff {chars : List Char} {argument : Argument} :
    responseFile? ('@' :: chars) = some argument ↔
      ∃ path : String, argument = .responseFile path ∧ Named chars path.toList := by
  constructor
  · intro h
    rw [responseFile?] at h
    by_cases htrimmed : IsLine (dropBlank chars)
    · rw [if_pos (isLine_iff.mpr htrimmed)] at h
      refine ⟨_, (Option.some.inj h).symm, ?_⟩
      rw [String.toList_ofList]
      generalize hpath : dropBlank chars = path at htrimmed ⊢
      cases dropBlank_eq_iff.mp hpath with
      | glued hhead =>
          apply Named.whole htrimmed
          rintro c rest rfl hc
          simp [hhead c rfl] at hc
      | blank hc => exact .blank hc htrimmed
    · rw [if_neg (isLine_iff.not.mpr htrimmed)] at h
      obtain ⟨hline, hargument⟩ := Option.ite_none_right_eq_some.mp h
      refine ⟨_, (Option.some.inj hargument).symm, ?_⟩
      rw [String.toList_ofList]
      apply Named.whole (isLine_iff.mp hline)
      rintro c rest rfl hc
      rwa [dropBlank_eq_iff.mpr (.blank hc)] at htrimmed
  · rintro ⟨path, rfl, hnamed⟩
    rw [responseFile?]
    cases hnamed with
    | blank hc hpath =>
        rw [dropBlank_eq_iff.mpr (.blank hc), if_pos (isLine_iff.mpr hpath), String.ofList_toList]
    | whole hpath hplain =>
        by_cases htrimmed : IsLine (dropBlank path.toList)
        · have hdrop : dropBlank path.toList = path.toList := by
            apply dropBlank_eq_iff.mpr
            apply Behind.glued
            intro c hc
            obtain ⟨rest, hrest⟩ := List.head?_eq_some_iff.mp hc
            by_contra hblank
            rw [Bool.not_eq_false] at hblank
            rw [hrest, dropBlank_eq_iff.mpr (.blank hblank)] at htrimmed
            exact hplain c rest hrest hblank htrimmed
          rw [hdrop, if_pos (isLine_iff.mpr hpath), String.ofList_toList]
        · rw [if_neg (isLine_iff.not.mpr htrimmed), if_pos (isLine_iff.mpr hpath),
            String.ofList_toList]

theorem responseFile?_eq_some_iff {argument : Argument} :
    responseFile? text.toList = some argument ↔
      ∃ path, argument = .responseFile path ∧ Directive text (.responseFile path) := by
  constructor
  · intro h
    obtain ⟨_, chars, _, htext⟩ := exists_of_responseFile? h
    rw [htext, responseFile?_cons_eq_some_iff] at h
    obtain ⟨path, hargument, hnamed⟩ := h
    refine ⟨path, hargument, String.ofList chars, ?_, ?_⟩
    · simp [eq_append_iff, htext]
    · rwa [String.toList_ofList]
  · rintro ⟨path, rfl, rest, htext, hnamed⟩
    have hchars : text.toList = '@' :: rest.toList := eq_append_iff.mp htext
    rw [hchars, responseFile?_cons_eq_some_iff]
    exact ⟨path, rfl, hnamed⟩

theorem mem_of_mem_dropBlank {c : Char} {chars : List Char} (h : c ∈ dropBlank chars) :
    c ∈ chars := by
  generalize hpath : dropBlank chars = path at h
  cases dropBlank_eq_iff.mp hpath with
  | glued _ => exact h
  | blank _ => exact List.mem_cons_of_mem _ h

end Rules

section Precedence

theorem exists_cons_of_compiler (h : Directive text .compiler) :
    ∃ c rest, text.toList = c :: rest ∧ c ≠ '-' ∧ c ≠ '@' := by
  obtain ⟨target, htarget, htext⟩ := h
  obtain ⟨name, hname⟩ : ∃ name, text.toList = target.toList ++ 'g' :: name := by
    rcases htext with rfl | rfl
    · exact ⟨_, String.toList_append⟩
    · exact ⟨_, String.toList_append⟩
  rw [hname]
  generalize target.toList = chars at htarget
  cases htarget with
  | nothing => exact ⟨'g', name, rfl, by decide, by decide⟩
  | slash hc => rcases hc with rfl | rfl <;> exact ⟨_, _, rfl, by decide, by decide⟩
  | path hflag hfile => exact ⟨_, _, rfl, hflag, hfile⟩

theorem flagValue?_eq_none {letter : Char} {chars : List Char}
    (h : ∀ rest, chars ≠ '-' :: letter :: rest) : flagValue? letter chars = none := by
  rw [Option.eq_none_iff_forall_ne_some]
  intro value hvalue
  exact h _ (flagValue?_eq_some_iff.mp hvalue).1

theorem isCompiler_eq_false {c : Char} {rest : List Char} (htext : text.toList = c :: rest)
    (hc : c = '-' ∨ c = '@') : isCompiler text.toList = false := by
  rw [Bool.eq_false_iff, ne_eq, isCompiler_iff]
  intro hcompiler
  obtain ⟨_, _, hcons, hflag, hfile⟩ := exists_cons_of_compiler hcompiler
  obtain ⟨rfl, _⟩ := List.cons.inj (htext.symm.trans hcons)
  rcases hc with rfl | rfl
  · exact hflag rfl
  · exact hfile rfl

theorem directory?_cons_eq_none {rest : List Char} : directory? ('@' :: rest) = none := by
  rw [Option.eq_none_iff_forall_ne_some]
  intro argument hargument
  obtain ⟨key, _, _, _, htext, _⟩ := exists_of_directory? hargument
  cases key <;> cases htext

theorem ofText_of_not_flagValue (hdefine : ∀ rest, text.toList ≠ '-' :: 'D' :: rest)
    (hinclude : ∀ rest, text.toList ≠ '-' :: 'I' :: rest) :
    ofText text =
      if isCompiler text.toList then .compiler
      else ((directory? text.toList).or (responseFile? text.toList)).getD (sorted text) := by
  simp only [ofText, flagValue?_eq_none hdefine, flagValue?_eq_none hinclude]

/-- A directive is found whatever is tried before it. -/
theorem ofText_of_directive {argument : Argument} (h : Directive text argument) :
    ofText text = argument := by
  cases argument with
  | define value =>
      obtain ⟨htext, hvalue⟩ := h
      have hchars : text.toList = '-' :: 'D' :: value.toList := eq_append_iff.mp htext
      have hfound := flagValue?_eq_some_iff.mpr ⟨hchars, hvalue⟩
      simp only [ofText, hfound]
  | includePath value =>
      obtain ⟨htext, hvalue⟩ := h
      have hchars : text.toList = '-' :: 'I' :: value.toList := eq_append_iff.mp htext
      have hdefine : flagValue? 'D' text.toList = none := flagValue?_eq_none (by simp [hchars])
      have hfound := flagValue?_eq_some_iff.mpr ⟨hchars, hvalue⟩
      simp only [ofText, hdefine, hfound]
  | compiler =>
      obtain ⟨c, rest, hchars, hflag, _⟩ := exists_cons_of_compiler h
      rw [ofText_of_not_flagValue (by simp [hchars, hflag]) (by simp [hchars, hflag]),
        if_pos (isCompiler_iff.mpr h)]
  | directory key path =>
      have hfound := directory?_eq_some_iff.mpr ⟨key, path, rfl, h⟩
      obtain ⟨⟨rest, htext, _⟩, _⟩ := h
      have hchars : text.toList = '-' :: 'i' :: (key.keyword.toList ++ rest.toList) := by
        rw [htext, String.toList_append, String.toList_append]
        rfl
      rw [ofText_of_not_flagValue (by simp [hchars]) (by simp [hchars]),
        isCompiler_eq_false hchars (.inl rfl), hfound]
      rfl
  | responseFile path =>
      have hfound := responseFile?_eq_some_iff.mpr ⟨path, rfl, h⟩
      obtain ⟨rest, htext, _⟩ := h
      have hchars : text.toList = '@' :: rest.toList := eq_append_iff.mp htext
      rw [ofText_of_not_flagValue (by simp [hchars]) (by simp [hchars]),
        isCompiler_eq_false hchars (.inr rfl), hfound, hchars, directory?_cons_eq_none]
      rfl
  | trash => cases h
  | option => cases h
  | residual => cases h

theorem Directive.unique {argument other : Argument} (h : Directive text argument)
    (h' : Directive text other) : argument = other :=
  (ofText_of_directive h).symm.trans (ofText_of_directive h')

theorem ofText_of_not_directive (h : ∀ argument, ¬ Directive text argument) :
    ofText text = sorted text := by
  have hdefine : flagValue? 'D' text.toList = none := by
    rw [Option.eq_none_iff_forall_ne_some]
    intro value hvalue
    obtain ⟨hchars, hline⟩ := flagValue?_eq_some_iff.mp hvalue
    exact h (.define value) ⟨eq_append_iff.mpr hchars, hline⟩
  have hinclude : flagValue? 'I' text.toList = none := by
    rw [Option.eq_none_iff_forall_ne_some]
    intro value hvalue
    obtain ⟨hchars, hline⟩ := flagValue?_eq_some_iff.mp hvalue
    exact h (.includePath value) ⟨eq_append_iff.mpr hchars, hline⟩
  have hcompiler : isCompiler text.toList = false := by
    rw [Bool.eq_false_iff, ne_eq, isCompiler_iff]
    exact h .compiler
  have hdirectory : directory? text.toList = none := by
    rw [Option.eq_none_iff_forall_ne_some]
    intro argument hargument
    obtain ⟨_, _, _, hfits⟩ := directory?_eq_some_iff.mp hargument
    exact h _ hfits
  have hfile : responseFile? text.toList = none := by
    rw [Option.eq_none_iff_forall_ne_some]
    intro argument hargument
    obtain ⟨_, _, hnamed⟩ := responseFile?_eq_some_iff.mp hargument
    exact h _ hnamed
  simp [ofText, hdefine, hinclude, hcompiler, hdirectory, hfile]

/-- A meaning that is a directive's belongs to the text of one. -/
theorem directive_of_ofText {argument : Argument} (h : ofText text = argument)
    (hsorted : argument ≠ .trash ∧ argument ≠ .option ∧ argument ≠ .residual) :
    Directive text argument := by
  by_contra hnot
  have hnone : ∀ other, ¬ Directive text other := by
    intro other hother
    rw [← h, ofText_of_directive hother] at hnot
    exact hnot hother
  rw [ofText_of_not_directive hnone] at h
  obtain ⟨htrash, hoption, hresidual⟩ := hsorted
  rcases sorted_cases text with hs | hs | hs
  · exact htrash (h.symm.trans hs)
  · exact hoption (h.symm.trans hs)
  · exact hresidual (h.symm.trans hs)

/-- Where no directive is found, an argument is sorted. -/
theorem ofText_eq_iff_sorted {argument : Argument} (hsorted : ¬ Directive text argument) :
    ofText text = argument ↔ (∀ other, ¬ Directive text other) ∧ sorted text = argument := by
  constructor
  · intro h
    have hnone : ∀ other, ¬ Directive text other := by
      intro other hother
      obtain rfl : other = argument := (ofText_of_directive hother).symm.trans h
      exact hsorted hother
    exact ⟨hnone, (ofText_of_not_directive hnone).symm.trans h⟩
  · rintro ⟨hnone, h⟩
    exact (ofText_of_not_directive hnone).trans h

theorem isPrefixOf_iff {front : String} :
    front.toList.isPrefixOf text.toList = true ↔ ∃ rest, text = front ++ rest := by
  rw [List.isPrefixOf_iff_prefix]
  constructor
  · rintro ⟨rest, hrest⟩
    refine ⟨String.ofList rest, eq_append_iff.mpr ?_⟩
    rw [String.toList_ofList, hrest]
  · rintro ⟨rest, hrest⟩
    exact ⟨rest.toList, (eq_append_iff.mp hrest).symm⟩

theorem isSuffixOf_iff {ending : String} :
    ending.toList.isSuffixOf text.toList = true ↔ ∃ front, text = front ++ ending := by
  rw [List.isSuffixOf_iff_suffix]
  constructor
  · rintro ⟨front, hfront⟩
    refine ⟨String.ofList front, eq_append_iff.mpr ?_⟩
    rw [String.toList_ofList, hfront]
  · rintro ⟨front, hfront⟩
    exact ⟨front.toList, (eq_append_iff.mp hfront).symm⟩

theorem isTrash_iff : (trashFlags.any (·.isPrefixOf text.toList) ||
    sourceEndings.any (·.isSuffixOf text.toList)) = true ↔ IsTrash text := by
  have hflags : trashFlags = ["-o", "-O", "-g", "-c"].map String.toList := rfl
  have hendings : sourceEndings = ["cpp", "cpp.o"].map String.toList := rfl
  rw [Bool.or_eq_true, hflags, hendings, List.any_map, List.any_map, List.any_eq_true,
    List.any_eq_true, IsTrash]
  simp only [Function.comp_apply, isPrefixOf_iff, isSuffixOf_iff]

theorem isFlag_iff : ['-'].isPrefixOf text.toList = true ↔ IsFlag text := by
  have hdash : "-".toList.isPrefixOf text.toList = true ↔ IsFlag text := isPrefixOf_iff
  exact hdash

theorem sorted_eq_iff (text : String) :
    (sorted text = .trash ↔ IsTrash text) ∧
    (sorted text = .option ↔ ¬ IsTrash text ∧ IsFlag text) ∧
    (sorted text = .residual ↔ ¬ IsTrash text ∧ ¬ IsFlag text) := by
  rw [← isTrash_iff, ← isFlag_iff, sorted]
  split
  · simp [*]
  · split
    · simp [*]
    · simp [*]

end Precedence

/-- Behind the longer keyword nothing is left that the shorter one could take for its path. -/
theorem not_directive_withPrefix {rest path : String}
    (htext : text = "-iwithprefixbefore" ++ rest) :
    ¬ Directive text (.directory .withPrefix path) := by
  rintro ⟨hfits, hlongest⟩
  obtain ⟨rest', hrest', hpath, hline⟩ := fits_iff.mp hfits
  have hchars : text.toList = DirectoryOption.withPrefixBefore.text.toList ++ rest.toList :=
    eq_append_iff.mp htext
  obtain rfl : rest' = "before".toList ++ rest.toList := by
    have hsame : DirectoryOption.withPrefix.text.toList ++ rest' =
        DirectoryOption.withPrefix.text.toList ++ ("before".toList ++ rest.toList) := by
      rw [hrest', hchars, ← List.append_assoc]
      rfl
    exact List.append_cancel_left hsame
  have hrest : '\n' ∉ dropBlank rest.toList := by
    intro hmem
    apply hline
    rw [← hpath]
    exact List.mem_append_right "before".toList (mem_of_mem_dropBlank hmem)
  have hfits' : Fits text .withPrefixBefore (String.ofList (dropBlank rest.toList)) :=
    fits_iff.mpr ⟨rest.toList, hchars.symm, String.toList_ofList.symm, by simpa using hrest⟩
  have hlength := hlongest _ _ hfits'
  revert hlength
  decide

/-- An argument means what its text is made of, and no text is made in two ways. Where it is none of
the directives, what it begins or ends with decides, and trash comes before other flags. -/
theorem meaning_follows_grammar (text : String) :
    (∀ value, ofText text = .define value ↔ Directive text (.define value)) ∧
    (∀ value, ofText text = .includePath value ↔ Directive text (.includePath value)) ∧
    (ofText text = .compiler ↔ Directive text .compiler) ∧
    (∀ key path, ofText text = .directory key path ↔ Directive text (.directory key path)) ∧
    (∀ rest path, text = "-iwithprefixbefore" ++ rest →
      ofText text ≠ .directory .withPrefix path) ∧
    (∀ path, ofText text = .responseFile path ↔ Directive text (.responseFile path)) ∧
    (∀ argument other, Directive text argument → Directive text other → argument = other) ∧
    (ofText text = .trash ↔ (∀ argument, ¬ Directive text argument) ∧ IsTrash text) ∧
    (ofText text = .option ↔
      (∀ argument, ¬ Directive text argument) ∧ ¬ IsTrash text ∧ IsFlag text) ∧
    (ofText text = .residual ↔
      (∀ argument, ¬ Directive text argument) ∧ ¬ IsTrash text ∧ ¬ IsFlag text) := by
  have hdirective (argument : Argument)
      (h : argument ≠ .trash ∧ argument ≠ .option ∧ argument ≠ .residual) :
      ofText text = argument ↔ Directive text argument :=
    ⟨fun hfound => directive_of_ofText hfound h, ofText_of_directive⟩
  obtain ⟨htrash, hoption, hresidual⟩ := sorted_eq_iff text
  refine ⟨fun value => hdirective _ (by simp), fun value => hdirective _ (by simp),
    hdirective _ (by simp), fun key path => hdirective _ (by simp), ?_,
    fun path => hdirective _ (by simp), fun _ _ => Directive.unique, ?_, ?_, ?_⟩
  · intro rest path htext hmeaning
    exact not_directive_withPrefix htext (directive_of_ofText hmeaning (by simp))
  · rw [ofText_eq_iff_sorted id, htrash]
  · rw [ofText_eq_iff_sorted id, hoption]
  · rw [ofText_eq_iff_sorted id, hresidual]

end Argument

end CompilerLog.Gcc
