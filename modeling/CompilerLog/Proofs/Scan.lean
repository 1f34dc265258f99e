import CompilerLog.Proofs.Dispatcher
import CompilerLog.Proofs.Text.Cut
import CompilerLog.Proofs.Text.Lossy
import CompilerLog.Scan
/-!
# Scanning a log is reading its text

A scan cuts the bytes of a log into lines and reads each line as text. It comes to the same to read
all bytes as one text, to cut that into lines, and to dispatch these until one is recognised. What
follows the recognised line is not read, and what follows the last newline is not dispatched when
the log fails.
-/

namespace CompilerLog

variable {σ : Type}

namespace Dispatcher

theorem isSome_winner_of_result {d : Dispatcher σ} (h : d.result.isSome = true) :
    d.winner.isSome = true := by
  cases hd : d.winner with
  | none => simp [result, hd] at h
  | some i => rfl

variable [InfoSource σ]

/-- Reads lines in order until an invocation is held. Answers how many were read. -/
def readUntilHeld (d : Dispatcher σ) : List String → Logged (Dispatcher σ × Nat)
  | [] => pure (d, 0)
  | line :: rest => do
    let d ← d.readLine line
    if d.result.isSome then pure (d, 1)
    else do
      let (d, count) ← readUntilHeld d rest
      pure (d, count + 1)

/-- The lines behind the recognised one would be passed over. -/
theorem value_readUntilHeld (d : Dispatcher σ) (lines : List String) :
    (d.readUntilHeld lines).value.1 = (d.readLines lines).value := by
  induction lines generalizing d with
  | nil => rfl
  | cons line lines ih =>
      rw [readUntilHeld, readLines, List.foldlM_cons, Logged.value_bind, Logged.value_bind]
      split
      · rename_i hheld
        have hrest : readLines (d.readLine line).value lines = pure (d.readLine line).value :=
          readLines_of_isSome (isSome_winner_of_result hheld)
        rw [readLines] at hrest
        rw [hrest]
        rfl
      · exact ih _

end Dispatcher

namespace Scan

/-- The lines of a log that is read as one text, without the carriage returns at their ends. -/
def textLines (bytes : List UInt8) : List String :=
  (Text.splitLines (Text.Utf8.decodeLossy bytes)).map fun line =>
    String.ofList (Text.dropEndWhile (· = '\r') line)

/-- The bytes up to the last newline. -/
def completeLines (bytes : List UInt8) : List UInt8 := Text.dropEndWhile (· ≠ 0x0A) bytes

/-- How many bytes the first lines take, with the newlines that end them. -/
def lengthOfLines : Nat → List UInt8 → Nat
  | 0, _ => 0
  | _, [] => 0
  | count + 1, b :: rest =>
    (if b = 0x0A then lengthOfLines count rest else lengthOfLines (count + 1) rest) + 1

/-- The bytes that make lines to be dispatched. -/
def dispatched (failure : Option FileError) (bytes : List UInt8) : List UInt8 :=
  match failure with
  | none => bytes
  | some _ => completeLines bytes

@[simp] theorem textLines_nil : textLines [] = [] := rfl

section Lines

variable {line rest : List UInt8}

theorem textLines_ended (hline : 0x0A ∉ line) :
    textLines (line ++ 0x0A :: rest) =
      String.ofList (Text.dropEndWhile (· = '\r') (Text.Utf8.decodeLossy line)) ::
        textLines rest := by
  have hnewline := Text.Utf8.newline_not_mem_decodeLossy hline
  rw [textLines, Text.Utf8.decodeLossy_append_newline, Text.splitLines_ended hnewline]
  rfl

theorem textLines_unended (hline : 0x0A ∉ line) (hne : line ≠ []) :
    textLines line =
      [String.ofList (Text.dropEndWhile (· = '\r') (Text.Utf8.decodeLossy line))] := by
  have hnewline := Text.Utf8.newline_not_mem_decodeLossy hline
  rw [textLines, Text.splitLines_unended hnewline (Text.Utf8.decodeLossy_ne_nil hne)]
  rfl

theorem lineText_unended (hline : 0x0A ∉ line) :
    lineText line =
      String.ofList (Text.dropEndWhile (· = '\r') (Text.Utf8.decodeLossy line)) := by
  have hnewline := Text.Utf8.newline_not_mem_decodeLossy hline
  rw [lineText, Text.dropEndWhile_congr (q := (· = '\r'))]
  intro c hc
  have hne : c ≠ '\n' := by
    rintro rfl
    exact hnewline hc
  simp [hne]

theorem lineText_ended (hline : 0x0A ∉ line) :
    lineText (line ++ [0x0A]) =
      String.ofList (Text.dropEndWhile (· = '\r') (Text.Utf8.decodeLossy line)) := by
  have hdecode : Text.Utf8.decodeLossy (line ++ [0x0A]) = Text.Utf8.decodeLossy line ++ ['\n'] :=
    Text.Utf8.decodeLossy_append_newline line []
  rw [← lineText_unended hline, lineText, hdecode, Text.dropEndWhile_concat, if_pos (by decide)]
  rfl

theorem lengthOfLines_ended (hline : 0x0A ∉ line) (count : Nat) :
    lengthOfLines (count + 1) (line ++ 0x0A :: rest) =
      line.length + 1 + lengthOfLines count rest := by
  induction line with
  | nil => simp [lengthOfLines, Nat.add_comm]
  | cons b line ih =>
      have hb : b ≠ 0x0A := fun h => hline (h ▸ List.mem_cons_self)
      have hrest := ih fun h => hline (List.mem_cons_of_mem _ h)
      simp only [List.cons_append, lengthOfLines, if_neg hb, hrest, List.length_cons]
      omega

theorem lengthOfLines_unended (hline : 0x0A ∉ line) (count : Nat) :
    lengthOfLines (count + 1) line = line.length := by
  induction line with
  | nil => rfl
  | cons b line ih =>
      have hb : b ≠ 0x0A := fun h => hline (h ▸ List.mem_cons_self)
      have hrest := ih fun h => hline (List.mem_cons_of_mem _ h)
      simp only [lengthOfLines, if_neg hb, hrest, List.length_cons]

theorem dispatched_ended (failure : Option FileError) (line rest : List UInt8) :
    dispatched failure (line ++ 0x0A :: rest) = line ++ 0x0A :: dispatched failure rest := by
  cases failure with
  | none => rfl
  | some error => exact Text.dropEndWhile_append_cons (by decide) line

theorem completeLines_unended (hline : 0x0A ∉ line) : completeLines line = [] := by
  refine Text.dropEndWhile_of_all fun b hb => ?_
  have hne : b ≠ 0x0A := by
    rintro rfl
    exact hline hb
  simpa using hne

end Lines

/-- Ends a scan that has read `number` lines with `consumed` bytes, and then `count` of `bytes`. -/
def conclude (failure : Option FileError) (bytes : List UInt8) (number consumed : Nat)
    (after : Dispatcher σ) (count : Nat) : Logged (Scan σ) :=
  if after.result.isSome then do
    log .info s!"Compiler invocation found on line {number + count}"
    finish after (number + count) (consumed + lengthOfLines count bytes) none
  else finish after (number + count) (consumed + bytes.length) failure

theorem outcome_conclude (failure : Option FileError) (bytes : List UInt8) (number consumed : Nat)
    (after : Dispatcher σ) (count : Nat) :
    (conclude failure bytes number consumed after count).value.outcome =
      match after.result with
      | some found => .ok (some found)
      | none =>
        match failure with
        | some error => .error error
        | none => .ok none := by
  cases hafter : after.result with
  | some found => simp [conclude, finish, hafter]
  | none => cases failure <;> simp [conclude, finish, hafter]

theorem conclude_ended (failure : Option FileError) {line rest : List UInt8} (hline : 0x0A ∉ line)
    (number consumed : Nat) (after : Dispatcher σ) (count : Nat) :
    conclude failure (line ++ 0x0A :: rest) number consumed after (count + 1) =
      conclude failure rest (number + 1) (consumed + (line ++ [0x0A]).length) after count := by
  have hnumber : number + (count + 1) = number + 1 + count := by omega
  have hfound : consumed + (line.length + 1 + lengthOfLines count rest) =
      consumed + (line ++ [0x0A]).length + lengthOfLines count rest := by
    rw [List.length_append, List.length_singleton]
    omega
  have hall : consumed + (line ++ 0x0A :: rest).length =
      consumed + (line ++ [0x0A]).length + rest.length := by
    simp only [List.length_append, List.length_cons, List.length_nil]
    omega
  rw [conclude, conclude, lengthOfLines_ended hline, hnumber, hfound, hall]

/-- Dispatching the lines of a log is reading the lines of its text. -/
theorem lines_cutAfter [InfoSource σ] (failure : Option FileError) (bytes : List UInt8)
    {d : Dispatcher σ} (hd : d.result = none) (number consumed : Nat) :
    lines failure d number consumed (Text.cutAfter (· = 0x0A) bytes) = (do
      let (after, count) ← d.readUntilHeld (textLines (dispatched failure bytes))
      conclude failure bytes number consumed after count) := by
  -- Each line that is not recognised leaves another dispatcher and more lines and bytes behind.
  induction bytes using Text.cut_induction (0x0A : UInt8) generalizing d number consumed with
  | unended piece hline =>
      by_cases hne : piece = []
      · subst hne
        have hnone : dispatched failure [] = [] := by cases failure <;> rfl
        rw [hnone, textLines_nil]
        simp [lines, Dispatcher.readUntilHeld, conclude, hd]
      · rw [Text.cutAfter_unended hline hne, lines]
        cases failure with
        | none =>
            rw [dispatched, textLines_unended hline hne, Dispatcher.readUntilHeld,
              lineText_unended hline]
            simp only [Option.isSome_none, Bool.false_and, Bool.false_eq_true, if_false, bind_assoc]
            refine Logged.bind_eq_of_value ?_
            split
            · rename_i hheld
              simp [conclude, hheld, lengthOfLines_unended hline]
            · rename_i hheld
              simp [conclude, hheld, lines, Dispatcher.readUntilHeld]
        | some error =>
            have hcut : isComplete piece = false :=
              decide_eq_false fun hlast => hline (List.mem_of_getLast? hlast)
            rw [dispatched, completeLines_unended hline, textLines_nil]
            simp [hcut, Dispatcher.readUntilHeld, conclude, hd]
  | ended piece rest hline ih =>
      have hcomplete : isComplete (piece ++ [0x0A]) = true := by simp [isComplete]
      rw [Text.cutAfter_ended hline, lines, hcomplete, lineText_ended hline, dispatched_ended,
        textLines_ended hline, Dispatcher.readUntilHeld]
      simp only [Bool.not_true, Bool.and_false, Bool.false_eq_true, if_false, bind_assoc]
      refine Logged.bind_eq_of_value ?_
      split
      · rename_i hheld
        simp [conclude, hheld, lengthOfLines_ended hline, lengthOfLines]
      · rename_i hheld
        rw [ih (by simpa using hheld)]
        simp only [bind_assoc, pure_bind, conclude_ended failure hline]

end Scan

/-- The lines of a log that are dispatched as long as none is recognised. -/
def Input.lines (input : Input) : List String :=
  Scan.textLines (Scan.dispatched input.failure input.bytes)

namespace Dispatcher

variable [InfoSource σ]

theorem scan_eq (d : Dispatcher σ) (hd : d.result = none) (input : Input) :
    d.scan input = (do
      let (after, count) ← d.readUntilHeld input.lines
      Scan.conclude input.failure input.bytes 0 0 after count) :=
  Scan.lines_cutAfter input.failure input.bytes hd 0 0

/-- What a scan finds, as a matter of the lines alone. -/
theorem outcome_scan (d : Dispatcher σ) (hd : d.result = none) (input : Input) :
    (d.scan input).value.outcome =
      match (d.readLines input.lines).value.result with
      | some found => .ok (some found)
      | none =>
        match input.failure with
        | some error => .error error
        | none => .ok none := by
  rw [scan_eq d hd, ← value_readUntilHeld, Logged.value_bind]
  exact Scan.outcome_conclude ..

open Scan in
/-- Scanning a log is reading the lines of its text until one is recognised. A log that fails is
scanned as far as its last newline, and the failure is reported if nothing is recognised before it;
the line that it cuts off is not dispatched. Of the bytes those up to the end of the recognised line
are read, or all. A dispatcher that holds an invocation keeps it: at most one line is read, and
nothing changes. -/
theorem scan_reads_lines_of_text (d : Dispatcher σ) (bytes : List UInt8) :
    (d.result = none → d.scan ⟨bytes, none⟩ = (do
      let (after, count) ← d.readUntilHeld (textLines bytes)
      match after.result with
      | some found => do
        log .info s!"Compiler invocation found on line {count}"
        log .debug s!"Lines scanned: {count}"
        pure ⟨after, .ok (some found), lengthOfLines count bytes⟩
      | none => do
        log .debug s!"Lines scanned: {count}"
        pure ⟨after, .ok none, bytes.length⟩)) ∧
    (d.result = none → ∀ error, d.scan ⟨bytes, some error⟩ = (do
      let (after, count) ← d.readUntilHeld (textLines (completeLines bytes))
      match after.result with
      | some found => do
        log .info s!"Compiler invocation found on line {count}"
        log .debug s!"Lines scanned: {count}"
        pure ⟨after, .ok (some found), lengthOfLines count bytes⟩
      | none => pure ⟨after, .error error, bytes.length⟩)) ∧
    ∀ found, d.result = some found →
      (d.scan ⟨bytes, none⟩).value = ⟨d, .ok (some found), lengthOfLines 1 bytes⟩ := by
  refine ⟨fun hd => ?_, fun hd error => ?_, fun found hd => ?_⟩
  · have hlines : Input.lines ⟨bytes, none⟩ = textLines bytes := rfl
    rw [scan_eq d hd, hlines]
    refine Logged.bind_eq_of_value ?_
    cases hafter : (d.readUntilHeld (textLines bytes)).value.1.result with
    | none => simp [conclude, finish, hafter]
    | some found => simp [conclude, finish, hafter]
  · have hlines : Input.lines ⟨bytes, some error⟩ = textLines (completeLines bytes) := rfl
    rw [scan_eq d hd, hlines]
    refine Logged.bind_eq_of_value ?_
    cases hafter : (d.readUntilHeld (textLines (completeLines bytes))).value.1.result with
    | none => simp [conclude, finish, hafter]
    | some found => simp [conclude, finish, hafter]
  · have hread (line : String) : d.readLine line = pure d :=
      readLine_of_isSome (isSome_winner_of_result (by simp [hd])) line
    rw [scan]
    induction bytes using Text.cut_induction (0x0A : UInt8) with
    | unended piece hline =>
        by_cases hne : piece = []
        · subst hne
          simp [Text.cutAfter, lines, finish, hd, lengthOfLines]
        · rw [Text.cutAfter_unended hline hne]
          simp [lines, hread, hd, finish, lengthOfLines_unended hline]
    | ended piece rest hline _ =>
        rw [Text.cutAfter_ended hline]
        simp [lines, hread, hd, finish, lengthOfLines_ended hline, lengthOfLines]

open Scan in
/-- A line that holds a malformed byte, one that is recognised, and bytes behind it; the same log
cut off within the second line; and a dispatcher that holds an invocation already. -/
theorem scan_reads_lines_of_text_with_malformed_byte :
    let plus : Engine CachingSource := .ofDialect
      ⟨[⟨.literal "+", fun line => isInfix "+".toList line.toList⟩], []⟩ .echo
    let d := ofEngines [plus]
    let holding : Dispatcher CachingSource := ⟨[plus.hold .empty], some 0⟩
    let broken := FileError.ofSystem .brokenPipe
    d.result = none ∧ holding.result = some .empty ∧
      (d.scan ⟨[0xFF, 0x0A, 0x2B, 0x0D, 0x0A, 0x2B], none⟩).value.outcome =
        .ok (some { Invocation.empty with options := ["+"] }) ∧
      (d.scan ⟨[0xFF, 0x0A, 0x2B, 0x0D, 0x0A, 0x2B], none⟩).value.consumed = 5 ∧
      (d.scan ⟨[0xFF, 0x0A, 0x2B], some broken⟩).value.outcome = .error broken ∧
      (holding.scan ⟨[0xFF, 0x0A, 0x2B], none⟩).value.consumed = 2 := by
  intro plus d holding broken
  have hd : d.result = none := rfl
  have hholding : holding.result = some .empty := rfl
  obtain ⟨hended, hfailed, _⟩ :=
    scan_reads_lines_of_text d [0xFF, 0x0A, 0x2B, 0x0D, 0x0A, 0x2B]
  obtain ⟨_, hcut, _⟩ := scan_reads_lines_of_text d [0xFF, 0x0A, 0x2B]
  obtain ⟨_, _, hheld⟩ := scan_reads_lines_of_text holding [0xFF, 0x0A, 0x2B]
  refine ⟨hd, hholding, ?_, ?_, ?_, ?_⟩
  · rw [hended hd]
    rfl
  · rw [hended hd]
    rfl
  · rw [hcut hd]
    rfl
  · rw [hheld _ hholding]
    rfl

end Dispatcher

end CompilerLog
