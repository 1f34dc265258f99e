import CompilerLog.Dispatcher
import CompilerLog.Proofs.Engine
import Mathlib.Data.Nat.Find
/-!
# Dispatching a sequence of lines

The dispatcher holds what the first engine found that accepted a line, the lines in order and for
each the engines in order. An engine that fails on a line keeps what its dialect remembers of it,
and the line goes on to the next engine. Behind the first line that is accepted, and behind the
engine that accepts it, nothing happens any more.
-/

namespace CompilerLog.Dispatcher

variable {σ : Type}

def readLines [InfoSource σ] (d : Dispatcher σ) (lines : List String) : Logged (Dispatcher σ) :=
  lines.foldlM readLine d

/-- An engine accepts a line, where it attempted all lines before in vain. -/
def Accepted (engines : List (Engine σ)) (lines : List String) (i k : Nat) (found : Invocation) :
    Prop :=
  ∃ line e, lines[i]? = some line ∧ engines[k]? = some e ∧
    (e.attempts (lines.take i)).accepted? line = some found

/-- A line and an engine that come before all others of which the engine accepts the line. -/
def FirstAccepted (engines : List (Engine σ)) (lines : List String) (i k : Nat)
    (found : Invocation) : Prop :=
  Accepted engines lines i k found ∧
    ∀ i' k' found', Accepted engines lines i' k' found' → i < i' ∨ i = i' ∧ k ≤ k'

variable {engines front rest : List (Engine σ)} {e : Engine σ} {line : String}
  {lines : List String} {found : Invocation}

theorem exists_firstAccepted (h : ∃ i k found, Accepted engines lines i k found) :
    ∃ i k found, FirstAccepted engines lines i k found := by
  classical
  have hpair : ∃ k found, Accepted engines lines (Nat.find h) k found := Nat.find_spec h
  obtain ⟨found, hfound⟩ := Nat.find_spec hpair
  refine ⟨Nat.find h, Nat.find hpair, found, hfound, fun i' k' found' h' => ?_⟩
  rcases Nat.lt_or_eq_of_le (Nat.find_min' h ⟨k', found', h'⟩) with hlt | heq
  · exact .inl hlt
  · exact .inr ⟨heq, Nat.find_min' hpair ⟨found', heq ▸ h'⟩⟩

theorem Accepted.of_attempt {i k : Nat}
    (h : Accepted (engines.map (·.attempt line)) lines i k found) :
    Accepted engines (line :: lines) (i + 1) k found := by
  obtain ⟨next, e', hnext, he', hfound⟩ := h
  rw [List.getElem?_map] at he'
  obtain ⟨e, he, rfl⟩ := Option.map_eq_some_iff.mp he'
  exact ⟨next, e, hnext, he, hfound⟩

theorem Accepted.of_take {i k n : Nat} (h : Accepted engines (lines.take n) i k found) :
    i < n ∧ Accepted engines lines i k found := by
  obtain ⟨line, e, hline, he, hfound⟩ := h
  rw [List.getElem?_take, Option.ite_none_right_eq_some] at hline
  obtain ⟨hi, hline⟩ := hline
  rw [List.take_take, Nat.min_eq_left (Nat.le_of_lt hi)] at hfound
  exact ⟨hi, line, e, hline, he, hfound⟩

/-- Lines that follow are not looked at. -/
theorem Accepted.of_take_eq {more : List String} {i k : Nat} (h : Accepted engines lines i k found)
    (hmore : more.take (i + 1) = lines.take (i + 1)) : Accepted engines more i k found := by
  obtain ⟨line, e, hline, he, hfound⟩ := h
  have hlines : more.take i = lines.take i := by
    simpa [List.take_take] using congrArg (List.take i) hmore
  refine ⟨line, e, ?_, he, hlines ▸ hfound⟩
  rw [← hline, ← List.getElem?_take_of_succ, hmore, List.getElem?_take_of_succ]

namespace FirstAccepted

variable {i k : Nat}

theorem not_accepted_before (h : FirstAccepted engines lines i k found) (i' k' : Nat)
    (found' : Invocation) : ¬ Accepted engines (lines.take i) i' k' found' := by
  intro haccepted
  obtain ⟨hlt, hearlier⟩ := haccepted.of_take
  rcases h.2 i' k' found' hearlier with hgt | ⟨rfl, _⟩
  · exact absurd hlt (Nat.lt_asymm hgt)
  · exact absurd hlt (Nat.lt_irrefl _)

theorem accepted?_eq_none (h : FirstAccepted engines lines i k found)
    (hline : lines[i]? = some line) {f : Engine σ} (hf : f ∈ engines.take k) :
    (f.attempts (lines.take i)).accepted? line = none := by
  refine Option.eq_none_iff_forall_ne_some.mpr fun found' hfound' => ?_
  obtain ⟨k', hk'⟩ := List.mem_iff_getElem?.mp hf
  rw [List.getElem?_take, Option.ite_none_right_eq_some] at hk'
  obtain ⟨hlt, hk'⟩ := hk'
  rcases h.2 i k' found' ⟨line, f, hline, hk', hfound'⟩ with hgt | ⟨_, hle⟩
  · exact absurd hgt (Nat.lt_irrefl _)
  · exact absurd hlt (Nat.not_lt_of_le hle)

theorem of_take_eq (h : FirstAccepted engines lines i k found) {more : List String}
    (hmore : more.take (i + 1) = lines.take (i + 1)) : FirstAccepted engines more i k found := by
  refine ⟨h.1.of_take_eq hmore, fun i' k' found' h' => ?_⟩
  by_cases hlater : i < i'
  · exact .inl hlater
  · refine h.2 i' k' found' (h'.of_take_eq ?_)
    have hle : i' + 1 ≤ i + 1 := Nat.succ_le_succ (Nat.le_of_not_lt hlater)
    simpa [List.take_take, hle] using congrArg (List.take (i' + 1)) hmore.symm

end FirstAccepted

section Offer

variable [InfoSource σ]

theorem value_offer_of_not_accepted
    (h : ∀ e ∈ engines, e.result = none ∧ e.accepted? line = none) (place : Nat) :
    (offer line place engines).value = (none, engines.map (·.attempt line)) := by
  induction engines generalizing place with
  | nil => rfl
  | cons e engines ih =>
      obtain ⟨he, hline⟩ := h e List.mem_cons_self
      obtain ⟨outcome, hmatch, hne⟩ := Engine.value_matchLine_of_not_accepted he hline
      have hrest := ih (fun e he => h e (List.mem_cons_of_mem _ he)) (place + 1)
      cases outcome with
      | error error => simp [offer, hmatch, hrest]
      | ok held =>
          cases held with
          | false => simp [offer, hmatch, hrest]
          | true => exact absurd rfl hne

/-- Behind the first engine that accepts a line no engine is offered it. -/
theorem offer_of_accepted (hfront : ∀ f ∈ front, f.result = none ∧ f.accepted? line = none)
    (he : e.result = none) (hfound : e.accepted? line = some found) (rest : List (Engine σ))
    (place : Nat) :
    (offer line place (front ++ e :: rest)).value =
        (some (place + front.length),
          front.map (·.attempt line) ++ (e.attempt line).hold found :: rest) ∧
      offer line place (front ++ e :: rest) = (do
        let (winner, offered) ← offer line place (front ++ [e])
        pure (winner, offered ++ rest)) := by
  induction front generalizing place with
  | nil =>
      have hmatch := Engine.value_matchLine_of_accepted he hfound
      constructor
      · simp [offer, hmatch]
      · ext1 <;> simp [offer, hmatch]
  | cons f front ih =>
      obtain ⟨hf, hline⟩ := hfront f List.mem_cons_self
      obtain ⟨outcome, hmatch, hne⟩ := Engine.value_matchLine_of_not_accepted hf hline
      obtain ⟨hvalue, hoffer⟩ := ih (fun f hf => hfront f (List.mem_cons_of_mem _ hf)) (place + 1)
      have hplace : place + 1 + front.length = place + (front.length + 1) := by omega
      cases outcome with
      | error error =>
          constructor
          · simp [offer, hmatch, hvalue, hplace]
          · ext1 <;> simp [offer, hmatch, hoffer]
      | ok held =>
          cases held with
          | false =>
              constructor
              · simp [offer, hmatch, hvalue, hplace]
              · ext1 <;> simp [offer, hmatch, hoffer]
          | true => exact absurd rfl hne

theorem readLines_append (d : Dispatcher σ) (lines more : List String) :
    d.readLines (lines ++ more) = d.readLines lines >>= fun d => d.readLines more :=
  List.foldlM_append

/-- From the line on that an engine accepts, the lines are passed over. -/
theorem readLines_of_isSome {d : Dispatcher σ} (h : d.winner.isSome = true) :
    d.readLines lines = pure d := by
  induction lines with
  | nil => rfl
  | cons line lines ih =>
      rw [readLines, List.foldlM_cons, readLine_of_isSome h, pure_bind]
      exact ih

theorem readLines_of_accepted (hfront : ∀ f ∈ front, f.result = none ∧ f.accepted? line = none)
    (he : e.result = none) (hfound : e.accepted? line = some found) (rest : List (Engine σ))
    (lines : List String) :
    (readLines ⟨front ++ e :: rest, none⟩ (line :: lines)).value =
        ⟨front.map (·.attempt line) ++ (e.attempt line).hold found :: rest, some front.length⟩ ∧
      readLines ⟨front ++ e :: rest, none⟩ (line :: lines) = (do
        let (winner, offered) ← offer line 0 (front ++ [e])
        pure ⟨offered ++ rest, winner⟩) := by
  obtain ⟨hvalue, hoffer⟩ := offer_of_accepted hfront he hfound rest 0
  rw [Nat.zero_add] at hvalue
  have hread : readLine ⟨front ++ e :: rest, none⟩ line = (do
      let (winner, offered) ← offer line 0 (front ++ [e])
      pure ⟨offered ++ rest, winner⟩) := by
    rw [readLine, if_neg (by simp), hoffer, bind_assoc]
    rfl
  have hafter : (readLine ⟨front ++ e :: rest, none⟩ line).value =
      ⟨front.map (·.attempt line) ++ (e.attempt line).hold found :: rest, some front.length⟩ := by
    simp [readLine, hvalue]
  have hrun : readLines ⟨front ++ e :: rest, none⟩ (line :: lines) =
      readLine ⟨front ++ e :: rest, none⟩ line := by
    rw [readLines, List.foldlM_cons]
    refine (Logged.bind_eq_of_value ?_).trans (bind_pure _)
    rw [hafter]
    exact readLines_of_isSome rfl
  rw [hrun]
  exact ⟨hafter, hread⟩

theorem value_readLines_of_not_accepted (h : ∀ e ∈ engines, e.result = none)
    (hlines : ∀ i k found, ¬ Accepted engines lines i k found) :
    ((ofEngines engines).readLines lines).value = ⟨engines.map (·.attempts lines), none⟩ := by
  induction lines generalizing engines with
  | nil => simp [readLines, ofEngines]
  | cons line lines ih =>
      have hline (e : Engine σ) (he : e ∈ engines) :
          e.result = none ∧ e.accepted? line = none := by
        refine ⟨h e he, Option.eq_none_iff_forall_ne_some.mpr fun found hfound => ?_⟩
        obtain ⟨k, hk⟩ := List.mem_iff_getElem?.mp he
        exact hlines 0 k found ⟨line, e, rfl, hk, hfound⟩
      have hread : (readLine (ofEngines engines) line).value =
          ofEngines (engines.map (·.attempt line)) := by
        simp [readLine, ofEngines, value_offer_of_not_accepted hline]
      have hnone : ∀ e ∈ engines.map (·.attempt line), e.result = none := by simpa using h
      have hrest := ih hnone fun i k found hlater => hlines (i + 1) k found hlater.of_attempt
      rw [readLines, List.foldlM_cons, Logged.value_bind, hread]
      simpa [readLines, Function.comp_def] using hrest

/-- The run up to the first pair that is accepted, whatever lines follow. -/
theorem readLines_of_firstAccepted (h : ∀ e ∈ engines, e.result = none) {i k : Nat}
    (hfirst : FirstAccepted engines lines i k found) :
    ∃ line e, lines[i]? = some line ∧ engines[k]? = some e ∧ ∀ more,
      ((ofEngines engines).readLines (lines.take i ++ line :: more)).value =
        ⟨(engines.take k).map (·.attempts (lines.take (i + 1))) ++
          (e.attempts (lines.take (i + 1))).hold found ::
          (engines.drop (k + 1)).map (·.attempts (lines.take i)), some k⟩ ∧
      (ofEngines engines).readLines (lines.take i ++ line :: more) = (do
        let d ← (ofEngines engines).readLines (lines.take i)
        let (winner, offered) ← offer line 0 (d.engines.take (k + 1))
        pure ⟨offered ++ d.engines.drop (k + 1), winner⟩) := by
  obtain ⟨line, e, hline, he, hfound⟩ := hfirst.1
  obtain ⟨hi, rfl⟩ := List.getElem?_eq_some_iff.mp hline
  obtain ⟨hk, rfl⟩ := List.getElem?_eq_some_iff.mp he
  refine ⟨_, _, hline, he, fun more => ?_⟩
  have hbefore : ((ofEngines engines).readLines (lines.take i)).value =
      ⟨engines.map (·.attempts (lines.take i)), none⟩ :=
    value_readLines_of_not_accepted h hfirst.not_accepted_before
  have hnone (f : Engine σ) (hf : f ∈ engines) : (f.attempts (lines.take i)).result = none := by
    rw [Engine.result_attempts]
    exact h f hf
  have hfront : ∀ f ∈ (engines.take k).map (·.attempts (lines.take i)),
      f.result = none ∧ f.accepted? lines[i] = none := by
    intro f' hf'
    obtain ⟨f, hf, rfl⟩ := List.mem_map.mp hf'
    exact ⟨hnone f (List.mem_of_mem_take hf), hfirst.accepted?_eq_none hline hf⟩
  have hsplit : engines.map (·.attempts (lines.take i)) =
      (engines.take k).map (·.attempts (lines.take i)) ++ engines[k].attempts (lines.take i) ::
        (engines.drop (k + 1)).map (·.attempts (lines.take i)) := by
    conv_lhs => rw [← List.take_append_drop k engines, List.drop_eq_getElem_cons hk]
    rw [List.map_append, List.map_cons]
  have hlength : ((engines.take k).map (·.attempts (lines.take i))).length = k := by
    rw [List.length_map, List.length_take_of_le (Nat.le_of_lt hk)]
  obtain ⟨hvalue, hrun⟩ := readLines_of_accepted hfront (hnone _ (List.getElem_mem hk)) hfound
    ((engines.drop (k + 1)).map (·.attempts (lines.take i))) more
  rw [← hsplit] at hvalue hrun
  rw [readLines_append]
  constructor
  · rw [Logged.value_bind, hbefore, hvalue, hlength, List.map_map]
    simp only [Function.comp_def, Engine.attempts_take_succ _ hi]
  · refine Logged.bind_eq_of_value ?_
    have htake : (engines.map (·.attempts (lines.take i))).take (k + 1) =
        (engines.take k).map (·.attempts (lines.take i)) ++
          [engines[k].attempts (lines.take i)] := by
      rw [← List.map_take, ← List.take_append_getElem hk, List.map_append, List.map_singleton]
    have hdrop : (engines.map (·.attempts (lines.take i))).drop (k + 1) =
        (engines.drop (k + 1)).map (·.attempts (lines.take i)) := List.map_drop.symm
    rw [hbefore, hrun, htake, hdrop]

theorem result_of_firstAccepted (h : ∀ e ∈ engines, e.result = none) {i k : Nat}
    (hfirst : FirstAccepted engines lines i k found) (he : engines[k]? = some e) :
    ((ofEngines engines).readLines lines).value.result = some (e.enrich found).value.1.1 := by
  obtain ⟨line, e', hline, he', hrun⟩ := readLines_of_firstAccepted h hfirst
  cases he.symm.trans he'
  obtain ⟨hi, rfl⟩ := List.getElem?_eq_some_iff.mp hline
  obtain ⟨hk, _⟩ := List.getElem?_eq_some_iff.mp he
  obtain ⟨hvalue, _⟩ := hrun (lines.drop (i + 1))
  rw [List.getElem_cons_drop, List.take_append_drop] at hvalue
  have hlength : ((engines.take k).map (·.attempts (lines.take (i + 1)))).length = k := by
    rw [List.length_map, List.length_take_of_le (Nat.le_of_lt hk)]
  rw [hvalue]
  simp only [result, Option.bind_some]
  rw [List.getElem?_append_right (Nat.le_of_eq hlength), hlength, Nat.sub_self]
  simp only [List.getElem?_cons_zero, Option.bind_some, Engine.hold, Engine.enrich_attempts]

/-- After a sequence of lines the dispatcher holds what the first engine found that accepted a line,
with what the source of that engine knows. Engines that failed before have attempted the line
themselves and all lines before it, engines behind it only those before; nothing else happens, and
lines that follow change nothing. -/
theorem readLines_holds_first_accepted (engines : List (Engine σ))
    (h : ∀ e ∈ engines, e.result = none) (lines : List String) :
    let run := (ofEngines engines).readLines lines
    (run.value.result.isSome = true ↔ ∃ i k found, Accepted engines lines i k found) ∧
    ((∀ i k found, ¬ Accepted engines lines i k found) →
      run.value = ⟨engines.map (·.attempts lines), none⟩) ∧
    ((∃ i k found, Accepted engines lines i k found) →
      ∃ i k found line e, FirstAccepted engines lines i k found ∧
        lines[i]? = some line ∧ engines[k]? = some e ∧
        run.value.result = some (e.enrich found).value.1.1 ∧
        run.value = ⟨(engines.take k).map (·.attempts (lines.take (i + 1))) ++
          (e.attempts (lines.take (i + 1))).hold found ::
          (engines.drop (k + 1)).map (·.attempts (lines.take i)), some k⟩ ∧
        run = (do
          let d ← (ofEngines engines).readLines (lines.take i)
          let (winner, offered) ← offer line 0 (d.engines.take (k + 1))
          pure ⟨offered ++ d.engines.drop (k + 1), winner⟩) ∧
        ∀ more, (ofEngines engines).readLines (lines.take (i + 1) ++ more) = run) := by
  intro run
  have hnone (hlines : ∀ i k found, ¬ Accepted engines lines i k found) :
      run.value = ⟨engines.map (·.attempts lines), none⟩ :=
    value_readLines_of_not_accepted h hlines
  refine ⟨?_, hnone, ?_⟩
  · constructor
    · intro hresult
      by_contra hlines
      have hidle := hnone fun i k found haccepted => hlines ⟨i, k, found, haccepted⟩
      rw [hidle] at hresult
      cases hresult
    · intro haccepted
      obtain ⟨i, k, found, hfirst⟩ := exists_firstAccepted haccepted
      obtain ⟨_, e, _, he, _⟩ := hfirst.1
      rw [result_of_firstAccepted h hfirst he]
      rfl
  · intro haccepted
    obtain ⟨i, k, found, hfirst⟩ := exists_firstAccepted haccepted
    obtain ⟨line, e, hline, he, hrun⟩ := readLines_of_firstAccepted h hfirst
    obtain ⟨hi, rfl⟩ := List.getElem?_eq_some_iff.mp hline
    have hlines : lines.take i ++ lines[i] :: lines.drop (i + 1) = lines := by
      rw [List.getElem_cons_drop, List.take_append_drop]
    have htake (more : List String) :
        lines.take (i + 1) ++ more = lines.take i ++ lines[i] :: more := by
      rw [← List.take_append_getElem hi, List.append_assoc]
      rfl
    obtain ⟨hvalue, hequation⟩ := hrun (lines.drop (i + 1))
    rw [hlines] at hvalue hequation
    refine ⟨i, k, found, _, e, hfirst, hline, he, result_of_firstAccepted h hfirst he, hvalue,
      hequation, fun more => ?_⟩
    rw [htake, (hrun more).2]
    exact hequation.symm

/-- An engine that fails on its first line, in front of one that waits for the second. -/
theorem readLines_holds_first_accepted_after_failure :
    let late : Engine CachingSource := .ofDialect ⟨[], []⟩ (.other "late" (fun earlier line =>
      pure (if earlier = [] then .error (.cycle "a") else .ok ⟨"cc", [], [line], [], [], .unset⟩))
      [])
    let waiting : Engine CachingSource := .ofDialect
      ⟨[⟨.literal "second", fun line => isInfix "second".toList line.toList⟩], []⟩ .echo
    (∀ e ∈ [late, waiting], e.result = none) ∧
      ((ofEngines [late, waiting]).readLines ["first", "second"]).value.result.isSome = true := by
  intro late waiting
  have hengines : ∀ e ∈ [late, waiting], e.result = none := by
    intro e he
    rcases List.mem_cons.mp he with rfl | he
    · rfl
    · rw [List.mem_singleton.mp he]
      rfl
  refine ⟨hengines, ?_⟩
  rw [(readLines_holds_first_accepted [late, waiting] hengines ["first", "second"]).1]
  exact ⟨1, 0, ⟨"cc", [], ["second"], [], [], .unset⟩, "second", late, rfl, rfl, rfl⟩

end Offer

end CompilerLog.Dispatcher
