import CompilerLog.Proofs.Gcc.Mention
/-!
# The order in which files are asked for

A call asks the reader for the files that its line mentions, in the order of their places, up to
the first one that is not entered.
-/

namespace CompilerLog.Gcc

structure Refusal where
  mention : Mention
  error : ExpansionError

namespace Refusal

def inside (outer : String) (f : Refusal) : Refusal := ⟨f.mention.inside outer, f.error⟩

def later (f : Refusal) : Refusal := ⟨f.mention.later, f.error⟩

end Refusal

/-- Whether a file is asked for: it comes before the refusal, or it is refused because it cannot be
read. -/
def Reached (refusal? : Option Refusal) (m : Mention) : Prop := ∀ f ∈ refusal?,
  m.place < f.mention.place ∨ m = f.mention ∧ ∃ cause, f.error = .unreadable m.path cause

theorem reached_inside {refusal? : Option Refusal} {outer : String} {m : Mention} :
    Reached (refusal?.map (Refusal.inside outer)) (m.inside outer) ↔ Reached refusal? m := by
  cases refusal? with
  | none => simp [Reached]
  | some f =>
      simp only [Reached, Option.map_some, Option.mem_some_iff, forall_eq', Refusal.inside,
        Mention.inside_lt_inside, (Mention.inside_injective outer).eq_iff, Mention.path_inside]

theorem reached_later {refusal? : Option Refusal} {m : Mention} :
    Reached (refusal?.map Refusal.later) m.later ↔ Reached refusal? m := by
  cases refusal? with
  | none => simp [Reached]
  | some f =>
      simp only [Reached, Option.map_some, Option.mem_some_iff, forall_eq', Refusal.later,
        Mention.later_lt_later, Mention.later_injective.eq_iff, Mention.path_later]

/-- What was asked while the files `stack` were open, for files that are named, and the refusal
that ended it, if one did. -/
structure Walk (reader : TextReader) (stack paths : List String) (asked : List Mention)
    (refusal? : Option Refusal) : Prop where
  ordered : asked.Pairwise fun m n => m.place < n.place
  mem_iff : ∀ m, m ∈ asked ↔ Mentions reader paths m ∧ Reached refusal? m
  entered : ∀ m, Mentions reader paths m → (∀ f ∈ refusal?, m.place < f.mention.place) →
    ∀ error, ¬ Refused reader (stack ++ m.opened) m.path error
  refused : ∀ f ∈ refusal?, Mentions reader paths f.mention ∧
    Refused reader (stack ++ f.mention.opened) f.mention.path f.error

namespace Walk

variable {reader : TextReader} {stack rest : List String} {path : String}
  {asked more : List Mention} {refusal? : Option Refusal}

theorem mentions (h : Walk reader stack rest asked refusal?) {m : Mention} (hm : m ∈ asked) :
    Mentions reader rest m := ((h.mem_iff m).mp hm).1

theorem nil : Walk reader stack [] [] none where
  ordered := .nil
  mem_iff _ := ⟨nofun, fun h => nomatch h.1⟩
  entered _ h := nomatch h
  refused := nofun

/-- A file that is refused is asked for only if it is refused for that. -/
theorem refuse {error : ExpansionError} (h : Refused reader stack path error)
    (hasked : asked = [] ∧ (∀ cause, error ≠ .unreadable path cause) ∨
      asked = [.first path] ∧ ∃ cause, error = .unreadable path cause) :
    Walk reader stack [path] asked (some ⟨.first path, error⟩) where
  ordered := by
    rcases hasked with ⟨rfl, _⟩ | ⟨rfl, _⟩
    · exact .nil
    · exact List.pairwise_singleton _ _
  mem_iff m := by
    rcases hasked with ⟨rfl, hother⟩ | ⟨rfl, hcause⟩
    · refine ⟨nofun, fun ⟨hm, hbefore⟩ => ?_⟩
      rcases hbefore _ rfl with hlt | ⟨rfl, cause, hcause⟩
      · exact absurd hlt (hm.not_lt_first path)
      · exact absurd hcause (hother cause)
    · constructor
      · intro hm
        rw [List.mem_singleton.mp hm]
        refine ⟨.first, fun f hf => ?_⟩
        cases hf
        exact .inr ⟨rfl, hcause⟩
      · rintro ⟨hm, hbefore⟩
        rcases hbefore _ rfl with hlt | ⟨rfl, _⟩
        · exact absurd hlt (hm.not_lt_first path)
        · exact List.mem_singleton_self _
  entered m hm hlt := absurd (hlt _ rfl) (hm.not_lt_first path)
  refused := by
    rintro _ ⟨⟩
    exact ⟨.first, by simpa using h⟩

theorem stop {f : Refusal} (h : Walk reader stack [path] asked (some f)) (rest : List String) :
    Walk reader stack (path :: rest) asked (some f) where
  ordered := h.ordered
  mem_iff m := by
    rw [h.mem_iff m]
    constructor
    · rintro ⟨hm, hbefore⟩
      exact ⟨Mentions.cons_iff.mpr (.inl hm), hbefore⟩
    · rintro ⟨hm, hbefore⟩
      refine ⟨?_, hbefore⟩
      rcases Mentions.cons_iff.mp hm with hfirst | ⟨n, hn, rfl⟩
      · exact hfirst
      · obtain ⟨hf, _⟩ := h.refused f rfl
        rcases hbefore f rfl with hlt | ⟨heq, _⟩
        · exact absurd hlt (lt_asymm (hf.lt_later hn))
        · exact absurd (heq ▸ hf.lt_later hn) (lt_irrefl _)
  entered m hm hlt := by
    rcases Mentions.cons_iff.mp hm with hfirst | ⟨n, hn, rfl⟩
    · exact h.entered m hfirst hlt
    · exact absurd (hlt f rfl) (lt_asymm ((h.refused f rfl).1.lt_later hn))
  refused g hg := by
    obtain ⟨hmentions, hrefused⟩ := h.refused g hg
    exact ⟨Mentions.cons_iff.mpr (.inl hmentions), hrefused⟩

/-- A file that is entered is asked for first, and then what it mentions. -/
theorem inside {text : String} (hread : reader path = .ok text) (hadmits : Admits stack path)
    (h : Walk reader (stack ++ [path]) (references (argumentsOf text)) asked refusal?) :
    Walk reader stack [path] (.first path :: asked.map (Mention.inside path))
      (refusal?.map (Refusal.inside path)) where
  ordered := by
    refine List.pairwise_cons.mpr ⟨?_, ?_⟩
    · intro n hn
      obtain ⟨m, hm, rfl⟩ := List.mem_map.mp hn
      exact (h.mentions hm).first_lt_inside path
    · exact List.pairwise_map.mpr (h.ordered.imp fun hlt => Mention.inside_lt_inside.mpr hlt)
  mem_iff m := by
    rw [List.mem_cons, List.mem_map, Mentions.singleton_iff]
    constructor
    · rintro (rfl | ⟨n, hn, rfl⟩)
      · refine ⟨.inl rfl, fun g hg => .inl ?_⟩
        obtain ⟨f, hf, rfl⟩ := Option.map_eq_some_iff.mp hg
        exact (h.refused f hf).1.first_lt_inside path
      · obtain ⟨hmentions, hreached⟩ := (h.mem_iff n).mp hn
        exact ⟨.inr ⟨text, n, hread, hmentions, rfl⟩, reached_inside.mpr hreached⟩
    · rintro ⟨rfl | ⟨text', n, hread', hmentions, rfl⟩, hreached⟩
      · exact .inl rfl
      · cases hread.symm.trans hread'
        exact .inr ⟨n, (h.mem_iff n).mpr ⟨hmentions, reached_inside.mp hreached⟩, rfl⟩
  entered m hm hlt error := by
    rcases Mentions.singleton_iff.mp hm with rfl | ⟨text', n, hread', hn, rfl⟩
    · simpa using not_refused hadmits hread error
    · cases hread.symm.trans hread'
      have hbefore (f : Refusal) (hf : f ∈ refusal?) : n.place < f.mention.place := by
        have := hlt _ (Option.mem_map_of_mem (Refusal.inside path) hf)
        exact Mention.inside_lt_inside.mp this
      simpa using h.entered n hn hbefore error
  refused g hg := by
    obtain ⟨f, hf, rfl⟩ := Option.map_eq_some_iff.mp hg
    obtain ⟨hmentions, hrefused⟩ := h.refused f hf
    exact ⟨.inside hread hmentions, by simpa [Refusal.inside] using hrefused⟩

/-- Where nothing is refused in a file, its line goes on. -/
theorem later (h : Walk reader stack [path] asked none)
    (hmore : Walk reader stack rest more refusal?) :
    Walk reader stack (path :: rest) (asked ++ more.map Mention.later)
      (refusal?.map Refusal.later) where
  ordered := by
    refine List.pairwise_append.mpr ⟨h.ordered, ?_, ?_⟩
    · exact List.pairwise_map.mpr (hmore.ordered.imp fun hlt => Mention.later_lt_later.mpr hlt)
    · intro m hm n hn
      obtain ⟨n, hn', rfl⟩ := List.mem_map.mp hn
      exact (h.mentions hm).lt_later (hmore.mentions hn')
  mem_iff m := by
    rw [List.mem_append, List.mem_map, Mentions.cons_iff]
    constructor
    · rintro (hm | ⟨n, hn, rfl⟩)
      · refine ⟨.inl (h.mentions hm), fun g hg => .inl ?_⟩
        obtain ⟨f, hf, rfl⟩ := Option.map_eq_some_iff.mp hg
        exact (h.mentions hm).lt_later (hmore.refused f hf).1
      · obtain ⟨hmentions, hreached⟩ := (hmore.mem_iff n).mp hn
        exact ⟨.inr ⟨n, hmentions, rfl⟩, reached_later.mpr hreached⟩
    · rintro ⟨hm | ⟨n, hmentions, rfl⟩, hreached⟩
      · exact .inl ((h.mem_iff m).mpr ⟨hm, nofun⟩)
      · exact .inr ⟨n, (hmore.mem_iff n).mpr ⟨hmentions, reached_later.mp hreached⟩, rfl⟩
  entered m hm hlt error := by
    rcases Mentions.cons_iff.mp hm with hfirst | ⟨n, hn, rfl⟩
    · exact h.entered m hfirst nofun error
    · have hbefore (f : Refusal) (hf : f ∈ refusal?) : n.place < f.mention.place := by
        have := hlt _ (Option.mem_map_of_mem Refusal.later hf)
        exact Mention.later_lt_later.mp this
      exact hmore.entered n hn hbefore error
  refused g hg := by
    obtain ⟨f, hf, rfl⟩ := Option.map_eq_some_iff.mp hg
    obtain ⟨hmentions, hrefused⟩ := hmore.refused f hf
    exact ⟨.later hmentions, hrefused⟩

end Walk

def Call.paths : Call → List String
  | line ps _ => ps.filterMap Part.path?
  | file path => [path]

def errorOf? : Except ExpansionError Invocation → Option ExpansionError
  | .ok _ => none
  | .error error => some error

variable {reader : TextReader} {call : Call} {s t : Expansion} {levels : Nat}
  {outcome : Except ExpansionError Invocation}

/-- A call asks for files in the order of their places, and fails as it refuses one. -/
theorem Returns.exists_walk (h : Returns (fun _ => reader) call s levels outcome t) :
    ∃ asked refusal?, Walk reader s.stack call.paths asked refusal? ∧
      refusal?.map Refusal.error = errorOf? outcome ∧
      t.questions = s.questions ++ asked.map (Mention.question s.stack) := by
  induction h with
  | finished => exact ⟨[], none, .nil, rfl, by simp⟩
  | part hp _ ih =>
      obtain ⟨asked, refusal?, hwalk, herror, hquestions⟩ := ih
      refine ⟨asked, refusal?, ?_, herror, hquestions⟩
      rw [Call.paths, List.filterMap_cons_none hp]
      exact hwalk
  | spliced hfile _ ihFile ihRest =>
      obtain ⟨asked, refusal?, hwalk, herror, hasked⟩ := ihFile
      obtain ⟨more, refusal?', hwalk', herror', hmore⟩ := ihRest
      -- Without an error the walk through the file has no refusal, so that the rest follows it.
      rw [hfile.stack_eq] at hwalk' hmore
      obtain rfl : refusal? = none := Option.map_eq_none_iff.mp herror
      refine ⟨_, _, hwalk.later hwalk', ?_, ?_⟩
      · rw [Option.map_map, ← herror']
        rfl
      · rw [hmore, hasked, List.append_assoc, List.map_append, List.map_map]
        rfl
  | failed _ ih =>
      obtain ⟨asked, refusal?, hwalk, herror, hasked⟩ := ih
      obtain ⟨f, rfl, hf⟩ := Option.map_eq_some_iff.mp herror
      exact ⟨asked, _, hwalk.stop _, herror, hasked⟩
  | @refused path s error t henter =>
      rcases Expansion.enter_cases _ s path with ⟨hcycle, henter'⟩ | ⟨hfree, hdepth, henter'⟩ |
        ⟨⟨hroom, hfree⟩, cause, hread, henter'⟩ | ⟨_, _, _, henter'⟩ <;>
        cases henter.symm.trans henter'
      · exact ⟨[], _, .refuse (.cycle hcycle) (.inl ⟨rfl, nofun⟩), rfl, by simp⟩
      · exact ⟨[], _, .refuse (.tooDeep hfree hdepth) (.inl ⟨rfl, nofun⟩), rfl, by simp⟩
      · refine ⟨[.first path], _, .refuse (.unreadable hfree hroom hread) (.inr ⟨rfl, cause, rfl⟩),
          rfl, ?_⟩
        simp [Mention.question]
  | @expanded path s text t _ _ _ henter _ ih =>
      obtain ⟨hadmits, hread, rfl⟩ := Expansion.of_enter_ok henter
      obtain ⟨asked, refusal?, hwalk, herror, hasked⟩ := ih
      refine ⟨_, _, hwalk.inside hread hadmits, ?_, ?_⟩
      · rw [Option.map_map, ← herror]
        rfl
      · rw [Expansion.questions_leave, hasked]
        simp [Mention.question]

end CompilerLog.Gcc
