/-!
# Cutting a text into lines

A line ends with its terminator; the last one may lack it. `cutAfter` keeps the terminators, so
that the pieces concatenate to the input, and `lines` drops them.
-/

namespace CompilerLog.Text

/-- Cuts a list behind each element that passes the test. No piece is empty. -/
def cutAfter {α : Type} (ends : α → Bool) : List α → List (List α)
  | [] => []
  | a :: rest =>
    if ends a then [a] :: cutAfter ends rest
    else match cutAfter ends rest with
      | [] => [[a]]
      | piece :: pieces => (a :: piece) :: pieces

@[simp] theorem cutAfter_nil {α : Type} (ends : α → Bool) : cutAfter ends [] = [] := rfl

/-- A line without its terminator: a newline, or a carriage return before a newline. -/
def dropTerminator (line : List Char) : List Char :=
  match line.reverse with
  | '\n' :: '\r' :: rest => rest.reverse
  | '\n' :: rest => rest.reverse
  | _ => line

/-- The lines of a text, without their terminators. -/
def lines (text : String) : List String :=
  (cutAfter (· = '\n') text.toList).map fun line => String.ofList (dropTerminator line)

end CompilerLog.Text
