import CompilerLog.Proofs.Dispatcher
/-!
# The winner is the only engine that holds an invocation

What a dispatcher holds is written down twice: by the engine, and as the place of the engine. The
two agree at all times, whatever lines are read, whichever engines fail on them and whenever the
dispatcher is reset. From this it follows that nothing is read while an invocation is held, and that
a reset takes nothing away but the invocation.
-/

namespace CompilerLog.Dispatcher

variable {σ : Type}

/-- What a dispatcher can be told. -/
inductive Command where
  | read (line : String)
  | reset
  deriving DecidableEq, Repr

section

variable [InfoSource σ]

def obey (d : Dispatcher σ) : Command → Logged (Dispatcher σ)
  | .read line => d.readLine line
  | .reset => pure d.reset

def obeyAll (d : Dispatcher σ) (commands : List Command) : Logged (Dispatcher σ) :=
  commands.foldlM obey d

end

/-- The place of the winner, and what the engines hold, say the same. -/
structure Agrees (d : Dispatcher σ) : Prop where
  winner_holds : ∀ i, d.winner = some i →
    ∃ e found, d.engines[i]? = some e ∧ e.result = some found
  holder_wins : ∀ k e found, d.engines[k]? = some e → e.result = some found → d.winner = some k

variable {d : Dispatcher σ} {engines front rest : List (Engine σ)} {e : Engine σ} {line : String}
  {found : Invocation}

theorem agrees_of_none (h : ∀ e ∈ engines, e.result = none) : Agrees ⟨engines, none⟩ where
  winner_holds := by
    intro i hi
    cases hi
  holder_wins := by
    intro k e found he hfound
    rw [h e (List.mem_of_getElem? he)] at hfound
    cases hfound

theorem agrees_of_some (hfront : ∀ f ∈ front, f.result = none) (he : e.result = some found)
    (hrest : ∀ f ∈ rest, f.result = none) : Agrees ⟨front ++ e :: rest, some front.length⟩ where
  winner_holds := by
    intro i hi
    cases hi
    exact ⟨e, found, by simp, he⟩
  holder_wins := by
    intro k f other hf hother
    rcases Nat.lt_trichotomy k front.length with hlt | rfl | hgt
    · rw [List.getElem?_append_left hlt] at hf
      rw [hfront f (List.mem_of_getElem? hf)] at hother
      cases hother
    · rfl
    · have hk : k - front.length = (k - front.length - 1) + 1 := by omega
      rw [List.getElem?_append_right (Nat.le_of_lt hgt), hk, List.getElem?_cons_succ] at hf
      rw [hrest f (List.mem_of_getElem? hf)] at hother
      cases hother

namespace Agrees

theorem result_eq_none_of_ne (h : Agrees d) {k : Nat} (he : d.engines[k]? = some e)
    (hne : d.winner ≠ some k) : e.result = none :=
  Option.eq_none_iff_forall_ne_some.mpr fun found hfound =>
    hne (h.holder_wins k e found he hfound)

theorem result_eq_none (h : Agrees d) (hd : d.winner = none) :
    ∀ e ∈ d.engines, e.result = none := by
  intro e he
  obtain ⟨k, hk⟩ := List.mem_iff_getElem?.mp he
  exact h.result_eq_none_of_ne hk (by simp [hd])

theorem isSome_winner (h : Agrees d) (he : e ∈ d.engines) (hfound : e.result = some found) :
    d.winner.isSome = true := by
  obtain ⟨k, hk⟩ := List.mem_iff_getElem?.mp he
  rw [h.holder_wins k e found hk hfound]
  rfl

/-- An engine that does not win holds nothing, so that there is nothing to reset in it. -/
theorem reset_of_ne (h : Agrees d) {k : Nat} (he : d.engines[k]? = some e)
    (hne : d.winner ≠ some k) : e.reset = e := by
  have hnone := h.result_eq_none_of_ne he hne
  cases e
  cases hnone
  rfl

theorem result_of_some (h : Agrees d) {i : Nat} (hd : d.winner = some i) :
    ∃ e found, d.engines[i]? = some e ∧ e.result = some found ∧ d.result = some found := by
  obtain ⟨e, found, he, hfound⟩ := h.winner_holds i hd
  exact ⟨e, found, he, hfound, by simp [result, hd, he, hfound]⟩

theorem isSome_result_iff (h : Agrees d) :
    d.result.isSome = true ↔ ∃ e ∈ d.engines, e.result.isSome = true := by
  constructor
  · intro hresult
    cases hd : d.winner with
    | none => simp [result, hd] at hresult
    | some i =>
        obtain ⟨e, found, he, hfound⟩ := h.winner_holds i hd
        exact ⟨e, List.mem_of_getElem? he, by rw [hfound]; rfl⟩
  · rintro ⟨e, he, hfound⟩
    obtain ⟨found, hfound⟩ := Option.isSome_iff_exists.mp hfound
    obtain ⟨i, hi⟩ := Option.isSome_iff_exists.mp (h.isSome_winner he hfound)
    obtain ⟨_, _, _, _, hresult⟩ := h.result_of_some hi
    rw [hresult]
    rfl

end Agrees

theorem agrees_reset (d : Dispatcher σ) : Agrees d.reset := by
  refine agrees_of_none fun e he => ?_
  obtain ⟨f, _, rfl⟩ := List.mem_map.mp he
  exact Engine.result_reset f

section Read

variable [InfoSource σ]

/-- One offer either leaves all engines without an invocation, or makes the first engine that
accepts the line the holder of one. -/
theorem agrees_offer (h : ∀ e ∈ engines, e.result = none) (line : String) :
    Agrees ⟨(offer line 0 engines).value.2, (offer line 0 engines).value.1⟩ := by
  cases hfind : engines.find? fun e => (e.accepted? line).isSome with
  | none =>
      have hline : ∀ e ∈ engines, e.result = none ∧ e.accepted? line = none := by
        intro e he
        refine ⟨h e he, ?_⟩
        simpa using List.find?_eq_none.mp hfind e he
      rw [value_offer_of_not_accepted hline 0]
      refine agrees_of_none fun f hf => ?_
      obtain ⟨e, he, rfl⟩ := List.mem_map.mp hf
      rw [Engine.result_attempt]
      exact h e he
  | some e =>
      obtain ⟨haccepts, front, rest, rfl, hbefore⟩ := List.find?_eq_some_iff_append.mp hfind
      obtain ⟨found, hfound⟩ := Option.isSome_iff_exists.mp haccepts
      have hfront : ∀ f ∈ front, f.result = none ∧ f.accepted? line = none := by
        intro f hf
        refine ⟨h f (List.mem_append_left _ hf), ?_⟩
        simpa using hbefore f hf
      have he : e.result = none := h e (List.mem_append_right _ List.mem_cons_self)
      have hlength : front.length = (front.map (·.attempt line)).length :=
        (List.length_map _).symm
      rw [(offer_of_accepted hfront he hfound rest 0).1, Nat.zero_add, hlength]
      refine agrees_of_some ?_ rfl ?_
      · intro f' hf'
        obtain ⟨f, hf, rfl⟩ := List.mem_map.mp hf'
        rw [Engine.result_attempt]
        exact (hfront f hf).1
      · intro f hf
        exact h f (List.mem_append_right _ (List.mem_cons_of_mem _ hf))

theorem Agrees.readLine (h : Agrees d) (line : String) : Agrees (d.readLine line).value := by
  cases hd : d.winner with
  | some i =>
      rw [readLine_of_isSome (by simp [hd]) line]
      exact h
  | none =>
      simp only [Dispatcher.readLine, hd, Option.isSome_none, Bool.false_eq_true, if_false]
      exact agrees_offer (h.result_eq_none hd) line

theorem Agrees.obey (h : Agrees d) (command : Command) : Agrees (d.obey command).value := by
  cases command with
  | read line => exact h.readLine line
  | reset => exact agrees_reset d

theorem Agrees.obeyAll (h : Agrees d) (commands : List Command) :
    Agrees (d.obeyAll commands).value := by
  induction commands generalizing d with
  | nil => exact h
  | cons command commands ih =>
      rw [Dispatcher.obeyAll, List.foldlM_cons, Logged.value_bind]
      exact ih (h.obey command)

/-- Whatever a dispatcher over engines without an invocation is told, its winner is the only engine
that holds one, and without a winner no engine does. While one is held, a line changes nothing. A
reset takes it from the winner and leaves everything else as it is; a second reset has no effect. -/
theorem winner_is_only_holder (engines : List (Engine σ)) (h : ∀ e ∈ engines, e.result = none)
    (commands : List Command) :
    let d := ((ofEngines engines).obeyAll commands).value
    (∀ i, d.winner = some i → ∃ e found, d.engines[i]? = some e ∧ e.result = some found ∧
      d.result = some found ∧ ∀ k f, d.engines[k]? = some f → k ≠ i → f.result = none) ∧
    (d.winner = none → d.result = none ∧ ∀ e ∈ d.engines, e.result = none) ∧
    (d.result.isSome = true ↔ ∃ e ∈ d.engines, e.result.isSome = true) ∧
    (d.result.isSome = true → ∀ line, d.readLine line = pure d) ∧
    (d.reset.winner = none ∧ d.reset.engines.length = d.engines.length ∧
      ∀ k e, d.engines[k]? = some e → ∃ f, d.reset.engines[k]? = some f ∧ f.result = none ∧
        f.trigger = e.trigger ∧ f.dialect = e.dialect ∧ f.source = e.source ∧
        f.infoEnabled = e.infoEnabled ∧ (d.winner ≠ some k → f = e)) ∧
    d.reset.reset = d.reset := by
  intro d
  have hagrees : Agrees d := (agrees_of_none h).obeyAll commands
  refine ⟨?_, ?_, hagrees.isSome_result_iff, ?_, ⟨rfl, ?_, ?_⟩, d.reset_reset⟩
  · intro i hi
    obtain ⟨e, found, he, hfound, hresult⟩ := hagrees.result_of_some hi
    refine ⟨e, found, he, hfound, hresult, fun k f hf hne => ?_⟩
    have hloses : d.winner ≠ some k := by
      intro hk
      rw [hi] at hk
      exact hne (Option.some.inj hk).symm
    exact hagrees.result_eq_none_of_ne hf hloses
  · intro hnone
    exact ⟨by simp [result, hnone], hagrees.result_eq_none hnone⟩
  · intro hresult line
    obtain ⟨e, he, hfound⟩ := hagrees.isSome_result_iff.mp hresult
    obtain ⟨found, hfound⟩ := Option.isSome_iff_exists.mp hfound
    exact readLine_of_isSome (hagrees.isSome_winner he hfound) line
  · simp [reset]
  · intro k e he
    refine ⟨e.reset, by simp [reset, he], rfl, rfl, rfl, rfl, rfl, ?_⟩
    exact hagrees.reset_of_ne he

/-- Two engines that wait for different lines; the dispatcher is reset in between, so that the
second one wins in the end. -/
theorem winner_is_only_holder_after_reset :
    let waiting (word : String) : Engine CachingSource := .ofDialect
      ⟨[⟨.literal word, fun line => isInfix word.toList line.toList⟩], []⟩ .echo
    let d := ((ofEngines [waiting "one", waiting "two"]).obeyAll
      [.read "one", .read "two", .reset, .read "two"]).value
    (∀ e ∈ [waiting "one", waiting "two"], e.result = none) ∧ d.winner = some 1 ∧
      (∀ line, d.readLine line = pure d) ∧
      ∀ k f, d.engines[k]? = some f → k ≠ 1 → f.result = none := by
  intro waiting d
  have hengines : ∀ e ∈ [waiting "one", waiting "two"], e.result = none := by
    intro e he
    rcases List.mem_cons.mp he with rfl | he
    · rfl
    · rw [List.mem_singleton.mp he]
      rfl
  have hwinner : d.winner = some 1 := by rfl
  obtain ⟨hholds, _, _, hidle, _⟩ := winner_is_only_holder [waiting "one", waiting "two"] hengines
    [.read "one", .read "two", .reset, .read "two"]
  obtain ⟨_, _, _, _, hresult, hothers⟩ := hholds 1 hwinner
  refine ⟨hengines, hwinner, hidle ?_, hothers⟩
  change d.result = _ at hresult
  change d.result.isSome = true
  rw [hresult]
  rfl

end Read

end CompilerLog.Dispatcher
