import CompilerLog.Application
import CompilerLog.Proofs.Gcc.Expansion
import CompilerLog.Proofs.Properties.Target
import CompilerLog.Proofs.Scan
import Mathlib
/-!
# What a run comes to

A run stores what the first line holds that an engine accepts, and succeeds if that can be stored.
In all other cases it fails and no file is touched: every failure but one of storing comes before
anything is written. Since no line behind the first accepted one is looked at, logs that agree as
far as that line come to the same.
-/

namespace CompilerLog

variable {σ : Type}

section Configure

variable {compile : RegexCompiler} {reader : TextReader} {source : σ} {a : Arguments} {s : Settings}
  {app : Application σ}

theorem forall₂_of_mapM_ok {α β ε : Type} {f : α → Except ε β} {l : List α} {r : List β}
    (h : l.mapM f = .ok r) : List.Forall₂ (fun a b => f a = .ok b) l r := by
  induction l generalizing r with
  | nil =>
      cases h
      exact .nil
  | cons a l ih =>
      rw [List.mapM_cons] at h
      cases ha : f a with
      | error error =>
          rw [ha] at h
          cases h
      | ok b =>
          cases hl : l.mapM f with
          | error error =>
              rw [ha, hl] at h
              cases h
          | ok rest =>
              rw [ha, hl] at h
              cases h
              exact .cons ha (ih hl)

theorem EngineSettings.of_engine_ok {e : EngineSettings} {infoEnabled : Bool} {engine : Engine σ}
    (h : e.engine compile reader source infoEnabled = .ok engine) :
    engine.result = none ∧ engine.infoEnabled = (e.infoEnabled && infoEnabled) := by
  unfold EngineSettings.engine at h
  cases htrigger : Trigger.ofPatterns compile e.required e.forbidden with
  | error error =>
      rw [htrigger] at h
      cases h
  | ok trigger =>
      rw [htrigger] at h
      cases h
      exact ⟨rfl, rfl⟩

/-- Engines that hold nothing yet, and ask no compiler about itself. -/
theorem fresh_of_forall₂ {infoEnabled : Bool} {settings : List EngineSettings}
    {engines : List (Engine σ)}
    (h : List.Forall₂ (fun e engine => e.engine compile reader source infoEnabled = .ok engine)
      settings engines)
    (hoff : ∀ e ∈ settings, (e.infoEnabled && infoEnabled) = false) :
    ∀ engine ∈ engines, engine.result = none ∧ engine.infoEnabled = false := by
  induction h with
  | nil => nofun
  | cons hengine _ ih =>
      obtain ⟨hresult, hinfo⟩ := EngineSettings.of_engine_ok hengine
      obtain ⟨hfirst, hrest⟩ := List.forall_mem_cons.mp hoff
      exact List.forall_mem_cons.mpr ⟨⟨hresult, hinfo.trans hfirst⟩, ih hrest⟩

namespace Application

theorem exists_engines_of_configure (h : (configure compile reader source a s).value = .ok app) :
    ∃ engines,
      List.Forall₂ (fun e engine => e.engine compile reader source a.infoEnabled = .ok engine)
        s.engines engines ∧
      app.origin = (if a.readsStandardInput then .standardInput else .file a.input) ∧
      app.dispatcher = .ofEngines engines ∧
      app.target = ⟨a.output, a.name.getD s.output.configuration, a.merge.getD s.output.merge⟩ := by
  unfold configure at h
  split at h
  · cases h
  · rename_i engines hengines
    simp only [Logged.value_bind] at h
    split at h
    · cases h
    · simp only [Logged.value_bind, Logged.value_pure] at h
      cases h
      exact ⟨engines, forall₂_of_mapM_ok hengines, rfl, rfl, rfl⟩

end Application

end Configure

namespace Application

variable [InfoSource σ] {app : Application σ} {describe : String → String}
  {engines : List (Engine σ)} {tree : FileTree} {standardInput input : Input}

theorem value_run (app : Application σ) (describe : String → String) (tree : FileTree)
    (standardInput : Input) :
    (app.run describe tree standardInput).value =
      match openLog app.origin tree standardInput with
      | .error _ => (false, tree)
      | .ok input =>
        match (app.dispatcher.scan input).value.outcome with
        | .ok (some found) =>
          ((app.target.store found tree).value.1.isOk, (app.target.store found tree).value.2)
        | _ => (false, tree) := by
  rw [run, Logged.value_bind, execute]
  cases openLog app.origin tree standardInput with
  | error error => rfl
  | ok input =>
      simp only [Logged.value_bind]
      cases (app.dispatcher.scan input).value.outcome with
      | error error => rfl
      | ok found? =>
          cases found? with
          | none => rfl
          | some found =>
              simp only [Logged.value_bind]
              cases (app.target.store found tree).value.1 <;> rfl

section Lines

variable (happ : app.dispatcher = .ofEngines engines)
  (hengines : ∀ e ∈ engines, e.result = none ∧ e.infoEnabled = false)
  (hopened : openLog app.origin tree standardInput = .ok input)

include happ hengines hopened

theorem value_run_of_not_accepted
    (h : ∀ i k found, ¬ Dispatcher.Accepted engines input.lines i k found) :
    (app.run describe tree standardInput).value = (false, tree) := by
  have hread := Dispatcher.value_readLines_of_not_accepted (fun e he => (hengines e he).1) h
  have hscan := Dispatcher.outcome_scan app.dispatcher (by rw [happ]; rfl) input
  rw [value_run, hopened]
  dsimp only
  rw [hscan, happ, hread]
  cases input.failure <;> rfl

theorem value_run_of_firstAccepted {i k : Nat} {found : Invocation}
    (h : Dispatcher.FirstAccepted engines input.lines i k found) :
    (app.run describe tree standardInput).value =
      ((app.target.store found tree).value.1.isOk, (app.target.store found tree).value.2) := by
  obtain ⟨_, e, _, he, _⟩ := h.1
  have hinfo : (e.enrich found).value.1.1 = found := by
    have hoff := (hengines e (List.mem_of_getElem? he)).2
    simp [Engine.enrich, hoff]
  have hresult := Dispatcher.result_of_firstAccepted (fun e he => (hengines e he).1) h he
  have hscan := Dispatcher.outcome_scan app.dispatcher (by rw [happ]; rfl) input
  rw [value_run, hopened]
  dsimp only
  rw [hscan, happ, hresult, hinfo]

theorem value_run_fst_iff : (app.run describe tree standardInput).value.1 = true ↔
    ∃ i k found written, Dispatcher.FirstAccepted engines input.lines i k found ∧
      (app.target.store found tree).value.1 = .ok written := by
  constructor
  · intro hsuccess
    by_cases hlines : ∃ i k found, Dispatcher.Accepted engines input.lines i k found
    · obtain ⟨i, k, found, hfirst⟩ := Dispatcher.exists_firstAccepted hlines
      rw [value_run_of_firstAccepted happ hengines hopened hfirst] at hsuccess
      cases hstored : (app.target.store found tree).value.1 with
      | error error =>
          rw [hstored] at hsuccess
          cases hsuccess
      | ok written => exact ⟨i, k, found, written, hfirst, hstored⟩
    · rw [value_run_of_not_accepted happ hengines hopened fun i k found haccepted =>
        hlines ⟨i, k, found, haccepted⟩] at hsuccess
      cases hsuccess
  · rintro ⟨i, k, found, written, hfirst, hstored⟩
    rw [value_run_of_firstAccepted happ hengines hopened hfirst, hstored]
    rfl

/-- Two logs come to the same that agree as far as the first line that is accepted. -/
theorem run_of_take_eq {i k : Nat} {found : Invocation}
    (h : Dispatcher.FirstAccepted engines input.lines i k found) {tree' : FileTree}
    {standardInput' input' : Input}
    (hopened' : openLog app.origin tree' standardInput' = .ok input')
    (hlines : input'.lines.take (i + 1) = input.lines.take (i + 1)) :
    let after := (app.run describe tree standardInput).value
    let after' := (app.run describe tree' standardInput').value
    (tree' = tree → after' = after) ∧
      ∀ names, tree.AlikeBut names tree' → tree.resolve app.target.path ≠ .ok names →
        after'.1 = after.1 ∧ after.2.AlikeBut names after'.2 ∧
        (after.1 = true →
          after'.2.readText app.target.path = after.2.readText app.target.path) := by
  intro after after'
  have hafter : after = _ := value_run_of_firstAccepted happ hengines hopened h
  have hafter' : after' = _ :=
    value_run_of_firstAccepted happ hengines hopened' (h.of_take_eq hlines)
  rw [hafter, hafter']
  constructor
  · rintro rfl
    rfl
  · intro names halike hpath
    obtain ⟨outcome, _, _, hstore, hstore', hleft, hread⟩ :=
      app.target.store_alikeBut found halike hpath
    rw [hstore, hstore']
    refine ⟨rfl, hleft, fun hsuccess => ?_⟩
    cases outcome with
    | error error => cases hsuccess
    | ok written => exact hread written rfl

end Lines

theorem value_run_of_undecodable (happ : app.dispatcher = .ofEngines engines)
    (hengines : ∀ e ∈ engines, e.result = none ∧ e.infoEnabled = false)
    (h : ∀ file c, tree.Holds app.target.path file → Content.ofFile? file ≠ some c) :
    (app.run describe tree standardInput).value = (false, tree) := by
  cases hopened : openLog app.origin tree standardInput with
  | error error => rw [value_run, hopened]
  | ok input =>
      by_cases hlines : ∃ i k found, Dispatcher.Accepted engines input.lines i k found
      · obtain ⟨i, k, found, hfirst⟩ := Dispatcher.exists_firstAccepted hlines
        rw [value_run_of_firstAccepted happ hengines hopened hfirst]
        -- an invocation is found, so that the properties file is read, and refused
        cases hread : (Document.empty.read tree app.target.path).value with
        | mk loaded d =>
            cases loaded with
            | error error =>
                rw [Target.value_store_of_refused hread]
                rfl
            | ok there =>
                obtain ⟨file, c, hfile, hc⟩ := Document.exists_ofFile?_of_read hread
                exact absurd hc (h file c hfile)
      · refine value_run_of_not_accepted happ hengines hopened fun i k found haccepted => ?_
        exact hlines ⟨i, k, found, haccepted⟩

open Dispatcher in
/-- Whatever expressions compile, a run in which no compiler is asked about itself succeeds if an
engine accepts a line of the log and what the first one finds can be stored, under the name and in
the mode that the arguments say, or else the settings. It leaves the files as storing does; where it
comes to no storing, or the properties file cannot be read as a content, it fails and leaves them as
they were. What follows the first accepted line in the log makes no difference. -/
theorem run_stores_first_accepted (compile : RegexCompiler) (describe : String → String)
    (reader : TextReader) (source : σ) (a : Arguments) (s : Settings) (app : Application σ)
    (happ : (configure compile reader source a s).value = .ok app)
    (hoff : ∀ e ∈ s.engines, (e.infoEnabled && a.infoEnabled) = false) :
    let target : Target :=
      ⟨a.output, a.name.getD s.output.configuration, a.merge.getD s.output.merge⟩
    let origin : LogOrigin := if a.readsStandardInput then .standardInput else .file a.input
    ∃ engines,
      List.Forall₂ (fun e engine => e.engine compile reader source a.infoEnabled = .ok engine)
        s.engines engines ∧
      ∀ tree standardInput,
        let after := (app.run describe tree standardInput).value
        (∀ error, openLog origin tree standardInput = .error error → after = (false, tree)) ∧
        ((∀ file c, tree.Holds a.output file → Content.ofFile? file ≠ some c) →
          after = (false, tree)) ∧
        ∀ input, openLog origin tree standardInput = .ok input →
          (after.1 = true ↔ ∃ i k found written, FirstAccepted engines input.lines i k found ∧
            (target.store found tree).value.1 = .ok written) ∧
          ((∀ i k found, ¬ Accepted engines input.lines i k found) → after = (false, tree)) ∧
          ∀ i k found, FirstAccepted engines input.lines i k found →
            after.2 = (target.store found tree).value.2 ∧
            ∀ tree' standardInput' input', openLog origin tree' standardInput' = .ok input' →
              input'.lines.take (i + 1) = input.lines.take (i + 1) →
              let after' := (app.run describe tree' standardInput').value
              (tree' = tree → after' = after) ∧
              ∀ names, tree.AlikeBut names tree' → tree.resolve a.output ≠ .ok names →
                after'.1 = after.1 ∧ after.2.AlikeBut names after'.2 ∧
                (after.1 = true → after'.2.readText a.output = after.2.readText a.output) := by
  intro target origin
  obtain ⟨engines, hforall, horigin, hdispatcher, htarget⟩ := exists_engines_of_configure happ
  have hengines := fresh_of_forall₂ hforall hoff
  refine ⟨engines, hforall, fun tree standardInput => ?_⟩
  rw [show origin = app.origin from horigin.symm, show target = app.target from htarget.symm]
  have hpath : a.output = app.target.path := by rw [htarget]
  rw [hpath]
  refine ⟨fun error hopened => ?_, value_run_of_undecodable hdispatcher hengines,
    fun input hopened => ⟨value_run_fst_iff hdispatcher hengines hopened,
      value_run_of_not_accepted hdispatcher hengines hopened, fun i k found hfirst => ⟨?_, ?_⟩⟩⟩
  · rw [value_run, hopened]
  · rw [value_run_of_firstAccepted hdispatcher hengines hopened hfirst]
  · intro tree' standardInput' input' hopened' hlines
    exact run_of_take_eq hdispatcher hengines hopened hfirst hopened' hlines

open Dispatcher in
/-- A log whose second line is accepted, and one that goes on with another compiler. The only
expression to be compiled asks for a beginning. -/
theorem run_stores_first_accepted_of_two_lines :
    let compile : RegexCompiler := fun _ => .ok fun line => "g++ ".toList.isPrefixOf line.toList
    let describe (_ : String) : String := "EOF while parsing a value"
    let e : EngineSettings := { EngineSettings.unset with required := [.regex "^g\\+\\+ "] }
    let s : Settings := { Settings.default with engines := [e] }
    let a : Arguments := ⟨none, "build.log", "p.json", some "board", none, false⟩
    let reader : TextReader := fun _ => .error (.ofSystem .notFound)
    let source : CachingSource := .ofProbe fun _ compiler => pure (.error (.notFound compiler))
    let log (bytes : List UInt8) : FileTree :=
      (FileTree.empty ["work"]).put ["work", "build.log"] (.file bytes false)
    let tree := log (Text.Utf8.encode "cd src\ng++ -DX\n")
    let tree' := log (Text.Utf8.encode "cd src\ng++ -DX\ng++ -DY\n")
    ∃ app, (configure compile reader source a s).value = .ok app ∧
      (∀ e ∈ s.engines, (e.infoEnabled && a.infoEnabled) = false) ∧
      (app.run describe tree ⟨[], none⟩).value.1 = true ∧
      (app.run describe tree' ⟨[], none⟩).value.1 = true ∧
      (app.run describe tree' ⟨[], none⟩).value.2.readText "p.json" =
        (app.run describe tree ⟨[], none⟩).value.2.readText "p.json" := by
  intro compile describe e s a reader source log tree tree'
  let engine : Engine CachingSource :=
    ⟨⟨[⟨.regex "^g\\+\\+ ", fun line => "g++ ".toList.isPrefixOf line.toList⟩], []⟩,
      .gcc reader .empty, some source, false, none⟩
  let app : Application CachingSource :=
    ⟨.file "build.log", .ofEngines [engine], ⟨"p.json", "board", .replace⟩⟩
  let found : Invocation := ⟨"g++", [], ["X"], [], [], .unset⟩
  have horigin : a.readsStandardInput = false := by decide
  have happ : (configure compile reader source a s).value = .ok app := by
    have hengines : (s.engines.mapM fun e => e.engine compile reader source a.infoEnabled) =
        .ok [engine] := by rfl
    have hname : Text.isAllBlank (effectiveName a s) = false := by decide
    unfold configure
    rw [hengines]
    simp [hname, horigin]
    rfl
  have hoff : ∀ e ∈ s.engines, (e.infoEnabled && a.infoEnabled) = false := by decide
  obtain ⟨engines, hforall, hrun⟩ :=
    run_stores_first_accepted compile describe reader source a s app happ hoff
  obtain rfl : engines = [engine] := by
    cases hforall with
    | cons hengine hnil =>
        cases hnil
        cases hengine
        rfl
  have hfirst : FirstAccepted [engine] ["cd src", "g++ -DX"] 1 0 found := by
    have hpassed : engine.accepted? "cd src" = none := by
      rw [Engine.accepted?, if_neg (by decide)]
    have hline : Gcc.parts (Gcc.argumentsOf "g++ -DX") = [.compiler "g++", .define "X"] := by decide
    have hreturns : Gcc.Returns (fun _ => reader)
        (.line (Gcc.parts (Gcc.argumentsOf "g++ -DX")) .empty) (.start .empty) 0 (.ok found)
        (.start .empty) := by
      rw [hline]
      exact .part rfl (.part rfl .finished)
    have hfound : (engine.attempts ["cd src"]).accepted? "g++ -DX" = some found := by
      have hattempt : engine.attempt "cd src" = engine := by
        rw [Engine.attempt, if_neg (by decide)]
      rw [Engine.attempts_cons, Engine.attempts_nil, hattempt, Engine.accepted?, if_pos (by decide)]
      simp only [engine, Dialect.read, Logged.value_bind, Logged.value_pure,
        Gcc.readLine_of_returns hreturns]
      rfl
    refine ⟨⟨_, _, rfl, rfl, hfound⟩, fun i k other h => ?_⟩
    obtain ⟨line, e', hline', he', hother⟩ := h
    rcases i with _ | _ | i
    · cases hline'
      rw [List.mem_singleton.mp (List.mem_of_getElem? he')] at hother
      cases hpassed.symm.trans hother
    · exact .inr ⟨rfl, Nat.zero_le k⟩
    · exact .inl (by omega)
  have hopened (bytes : List UInt8) : openLog (if a.readsStandardInput then .standardInput
      else .file a.input) (log bytes) ⟨[], none⟩ = .ok ⟨bytes, none⟩ := by
    have hfile : openLog (.file "build.log") (log bytes) ⟨[], none⟩ = .ok ⟨bytes, none⟩ := by rfl
    rw [if_neg (by simp [horigin])]
    exact hfile
  have hlines : Input.lines ⟨Text.Utf8.encode "cd src\ng++ -DX\n", none⟩ =
      ["cd src", "g++ -DX"] := by cbv
  have hlines' : Input.lines ⟨Text.Utf8.encode "cd src\ng++ -DX\ng++ -DY\n", none⟩ =
      ["cd src", "g++ -DX", "g++ -DY"] := by cbv
  have hstored : ∃ after, (Target.store ⟨a.output, a.name.getD s.output.configuration,
      a.merge.getD s.output.merge⟩ found tree).value = (.ok true, after) := by
    have hholds (bytes : List UInt8) : (log bytes).Holds "p.json" none :=
      ⟨.ofSystem .notFound, by rfl, rfl⟩
    have hwrite (bytes text : List UInt8) :
        ∃ after, (log bytes).writeFile "p.json" text = (.ok (), after) := ⟨_, rfl⟩
    obtain ⟨after, hwritten⟩ := hwrite _ _
    exact ⟨after, Target.value_store_of_written (hholds _) rfl (.inl rfl) hwritten⟩
  obtain ⟨after, hstored⟩ := hstored
  obtain ⟨_, _, hinput⟩ := hrun tree ⟨[], none⟩
  obtain ⟨hsuccess, _, hleft⟩ := hinput _ (hopened _)
  rw [hlines] at hsuccess hleft
  have hdone : (app.run describe tree ⟨[], none⟩).value.1 = true :=
    hsuccess.mpr ⟨1, 0, found, true, hfirst, by rw [hstored]⟩
  have halike : tree.AlikeBut ["work", "build.log"] tree' := FileTree.alikeBut_put _ (by simp) _ _
  have hpath (bytes : List UInt8) : (log bytes).resolve "p.json" ≠ .ok ["work", "build.log"] := by
    have hresolve : (log bytes).resolve "p.json" = .ok ["work", "p.json"] := by rfl
    rw [hresolve]
    decide
  obtain ⟨_, hlogs⟩ := hleft 1 0 found hfirst
  obtain ⟨_, hagree⟩ := hlogs tree' ⟨[], none⟩ _ (hopened _) (by rw [hlines']; rfl)
  obtain ⟨hsame, _, hfile⟩ := hagree _ halike (hpath _)
  exact ⟨app, happ, hoff, hdone, hsame.trans hdone, hfile hdone⟩

end Application

end CompilerLog
