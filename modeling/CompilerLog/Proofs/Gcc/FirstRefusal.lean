import CompilerLog.Proofs.Gcc.Walk
/-!
# When reading a line fails

Reading a line fails at the first file that is refused, and the files asked for are those before
it. What the reader would answer for any other file does not matter.
-/

namespace CompilerLog.Gcc

/-- A file that is refused where none before it is. -/
structure FirstRefused (reader : TextReader) (paths : List String) (m : Mention)
    (error : ExpansionError) : Prop where
  mentions : Mentions reader paths m
  refused : Refused reader m.opened m.path error
  earlier : ∀ n, Mentions reader paths n → n.place < m.place →
    ∀ error, ¬ Refused reader n.opened n.path error

variable {reader : TextReader} {paths : List String} {m n : Mention} {error error' : ExpansionError}

theorem FirstRefused.unique (h : FirstRefused reader paths m error)
    (h' : FirstRefused reader paths n error') : m = n ∧ error = error' := by
  have heq : m = n := by
    rcases lt_trichotomy m.place n.place with hlt | hplace | hlt
    · exact absurd h.refused (h'.earlier m h.mentions hlt error)
    · exact h.mentions.eq_of_place h'.mentions hplace
    · exact absurd h'.refused (h.earlier n h'.mentions hlt error')
  subst heq
  exact ⟨rfl, h'.refused.unique h.refused⟩

namespace Walk

variable {asked : List Mention}

theorem firstRefused {f : Refusal} (h : Walk reader [] paths asked (some f)) :
    FirstRefused reader paths f.mention f.error where
  mentions := (h.refused f rfl).1
  refused := by simpa using (h.refused f rfl).2
  earlier n hn hlt error := by
    have hbefore (g : Refusal) (hg : g ∈ some f) : n.place < g.mention.place := by
      cases hg
      exact hlt
    simpa using h.entered n hn hbefore error

theorem not_refused (h : Walk reader [] paths asked none) (hm : Mentions reader paths m)
    (error : ExpansionError) : ¬ Refused reader m.opened m.path error := by
  simpa using h.entered m hm nofun error

end Walk

section ReadLine

variable (reader : TextReader) (d : DirectoryOptions) (line : String)

theorem exists_walk_readLine :
    ∃ asked refusal?, Walk reader [] (references (argumentsOf line)) asked refusal? ∧
      refusal?.map Refusal.error = errorOf? (readLine reader d line).value.outcome ∧
      ∀ levels outcome t, Returns (fun _ => reader) (.line (parts (argumentsOf line)) .empty)
        (.start d) levels outcome t → t.questions = asked.map fun m => ⟨m.opened, m.path⟩ := by
  obtain ⟨levels, outcome, t, h, hvalue⟩ := exists_returns_readLine reader d line
  obtain ⟨asked, refusal?, hwalk, herror, hquestions⟩ := h.exists_walk
  refine ⟨asked, refusal?, hwalk, ?_, fun levels' outcome' t' h' => ?_⟩
  · rw [hvalue, herror]
    cases outcome <;> rfl
  · obtain ⟨_, _, rfl⟩ := h.unique h'
    exact hquestions

/-- Reading fails with the reason for the first refusal. -/
theorem outcome_eq_error_iff (error : ExpansionError) :
    (readLine reader d line).value.outcome = .error error ↔
      ∃ m, FirstRefused reader (references (argumentsOf line)) m error := by
  obtain ⟨asked, refusal?, hwalk, herror, _⟩ := exists_walk_readLine reader d line
  constructor
  · intro h
    rw [h] at herror
    obtain ⟨f, rfl, rfl⟩ := Option.map_eq_some_iff.mp herror
    exact ⟨f.mention, hwalk.firstRefused⟩
  · rintro ⟨m, hm⟩
    cases refusal? with
    | none => exact absurd hm.refused (hwalk.not_refused hm.mentions error)
    | some f =>
        obtain ⟨_, rfl⟩ := hm.unique hwalk.firstRefused
        cases houtcome : (readLine reader d line).value.outcome with
        | ok found =>
            rw [houtcome] at herror
            cases herror
        | error error' =>
            rw [houtcome] at herror
            cases herror
            rfl

theorem outcome_isOk_iff :
    (∃ found, (readLine reader d line).value.outcome = .ok found) ↔
      ∀ m, Mentions reader (references (argumentsOf line)) m →
        ∀ error, ¬ Refused reader m.opened m.path error := by
  obtain ⟨asked, refusal?, hwalk, herror, _⟩ := exists_walk_readLine reader d line
  constructor
  · rintro ⟨found, hfound⟩ m hm
    rw [hfound] at herror
    obtain rfl : refusal? = none := Option.map_eq_none_iff.mp herror
    exact hwalk.not_refused hm
  · intro h
    cases houtcome : (readLine reader d line).value.outcome with
    | ok found => exact ⟨found, rfl⟩
    | error error =>
        obtain ⟨m, hm⟩ := (outcome_eq_error_iff reader d line error).mp houtcome
        exact absurd hm.refused (h m hm.mentions error)

/-- The files are asked for in order, and none behind the first refusal. -/
theorem exists_asked_readLine :
    ∃ asked : List Mention, asked.Pairwise (fun m n => m.place < n.place) ∧
      (∀ m, m ∈ asked ↔ Mentions reader (references (argumentsOf line)) m ∧
        ∀ n error, FirstRefused reader (references (argumentsOf line)) n error →
          m.place < n.place ∨ m = n ∧ ∃ cause, error = .unreadable m.path cause) ∧
      ∀ levels outcome t, Returns (fun _ => reader) (.line (parts (argumentsOf line)) .empty)
        (.start d) levels outcome t → t.questions = asked.map fun m => ⟨m.opened, m.path⟩ := by
  obtain ⟨asked, refusal?, hwalk, _, hquestions⟩ := exists_walk_readLine reader d line
  refine ⟨asked, hwalk.ordered, fun m => ?_, hquestions⟩
  rw [hwalk.mem_iff m]
  refine and_congr_right fun hm => ?_
  cases refusal? with
  | none =>
      refine ⟨fun _ n error hn => ?_, fun _ => nofun⟩
      exact absurd hn.refused (hwalk.not_refused hn.mentions error)
  | some f =>
      constructor
      · intro h n error hn
        obtain ⟨rfl, rfl⟩ := hn.unique hwalk.firstRefused
        exact h f rfl
      · rintro h _ ⟨⟩
        exact h f.mention f.error hwalk.firstRefused

end ReadLine

namespace Expansion

theorem enter_congr {other : TextReader} {s : Expansion} {path : String}
    (h : ∀ q ∈ (s.enter (fun _ => reader) path).2.questions, other q.path = reader q.path) :
    s.enter (fun _ => other) path = s.enter (fun _ => reader) path := by
  unfold enter at h ⊢
  split
  · rfl
  · rename_i hcycle
    split
    · rfl
    · rename_i hdepth
      rw [if_neg hcycle, if_neg hdepth] at h
      have hsame : other path = reader path := by
        refine h ⟨s.stack, path⟩ ?_
        cases hread : reader path <;> simp [hread]
      dsimp only
      rw [hsame]

end Expansion

/-- Readers that answer alike for the files that are asked for are read from alike. -/
theorem Returns.congr {other : TextReader} {call : Call} {s t : Expansion} {levels : Nat}
    {outcome : Except ExpansionError Invocation}
    (h : Returns (fun _ => reader) call s levels outcome t)
    (hother : ∀ q ∈ t.questions, other q.path = reader q.path) :
    Returns (fun _ => other) call s levels outcome t := by
  induction h with
  | finished => exact .finished
  | part hp _ ih => exact .part hp (ih hother)
  | spliced hfile hrest ihFile ihRest =>
      obtain ⟨_, _, _, _, hquestions⟩ := hrest.exists_walk
      refine .spliced (ihFile fun q hq => hother q ?_) (ihRest hother)
      rw [hquestions]
      exact List.mem_append_left _ hq
  | failed _ ih => exact .failed (ih hother)
  | refused henter =>
      refine .refused ?_
      rw [Expansion.enter_congr (by rwa [henter]), henter]
  | expanded henter hline ih =>
      obtain ⟨_, _, _, _, hquestions⟩ := hline.exists_walk
      refine .expanded ?_ (ih hother)
      rw [Expansion.enter_congr, henter]
      intro q hq
      refine hother q ?_
      rw [henter] at hq
      rw [Expansion.questions_leave, hquestions]
      exact List.mem_append_left _ hq

end CompilerLog.Gcc
