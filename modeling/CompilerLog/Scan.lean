import CompilerLog.Dispatcher
import CompilerLog.Text.Cut
import CompilerLog.Text.Utf8
/-!
# Scanning a build log

The bytes of a log are cut into lines, and the lines are read as text and dispatched until one of
them is recognised. Nothing behind that line is read.
-/

namespace CompilerLog

/-- Bytes to read, and the failure that follows them, if they do not end normally. -/
structure Input where
  bytes : List UInt8
  failure : Option FileError

/-- What a scan leads to. -/
structure Scan (σ : Type) where
  dispatcher : Dispatcher σ
  outcome : Except FileError (Option Invocation)
  /-- How many bytes were read. -/
  consumed : Nat

namespace Scan

variable {σ : Type}

/-- The text of a line: malformed bytes replaced, newlines and carriage returns at its end
dropped. -/
def lineText (bytes : List UInt8) : String :=
  String.ofList (Text.dropEndWhile (fun c => c = '\n' || c = '\r')
    (Text.Utf8.decodeLossy bytes))

def isComplete (line : List UInt8) : Bool := line.getLast? = some 0x0A

def finish (d : Dispatcher σ) (number consumed : Nat) (failure : Option FileError) :
    Logged (Scan σ) :=
  match failure with
  | some error => pure ⟨d, .error error, consumed⟩
  | none => do
    log .debug s!"Lines scanned: {number}"
    pure ⟨d, .ok d.result, consumed⟩

/-- Dispatches lines, of which `number` with `consumed` bytes came before. A line that the failure
cuts off is not dispatched. -/
def lines [InfoSource σ] (failure : Option FileError) (d : Dispatcher σ) (number consumed : Nat) :
    List (List UInt8) → Logged (Scan σ)
  | [] => finish d number consumed failure
  | line :: rest =>
    let consumed := consumed + line.length
    if failure.isSome && !isComplete line then finish d number consumed failure
    else do
      let d ← d.readLine (lineText line)
      if d.result.isSome then do
        log .info s!"Compiler invocation found on line {number + 1}"
        finish d (number + 1) consumed none
      else lines failure d (number + 1) consumed rest

end Scan

def Dispatcher.scan {σ : Type} [InfoSource σ] (d : Dispatcher σ) (input : Input) :
    Logged (Scan σ) :=
  Scan.lines input.failure d 0 0 (Text.cutAfter (· = 0x0A) input.bytes)

end CompilerLog
