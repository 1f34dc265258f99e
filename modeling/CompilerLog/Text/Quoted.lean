import CompilerLog.Unicode.Category
import CompilerLog.Unicode.Property
/-!
# Quoted text

Text in double quotes as log messages show it: quotes, backslashes and the usual control characters
have an escape of their own, what cannot be shown stands as its code point.
-/

namespace CompilerLog.Text.Quoted

/-- Whether a character is shown as it is: a visible one, or the space. -/
def isShown (c : Char) : Bool :=
  if c.toNat < 0x7f then ' ' ≤ c
  else match Unicode.Category.ofChar c with
    | .control | .format | .surrogate | .privateUse | .unassigned | .lineSeparator
    | .paragraphSeparator | .spaceSeparator => false
    | _ => true

/-- A code point in lower-case hexadecimal digits, between braces. -/
def codePoint (c : Char) : List Char :=
  ['\\', 'u', '\x7b'] ++ Nat.toDigits 16 c.toNat ++ ['\x7d']

def writeChar (c : Char) : List Char :=
  if c = '"' then ['\\', '"']
  else if c = '\\' then ['\\', '\\']
  else if c = '\t' then ['\\', 't']
  else if c = '\n' then ['\\', 'n']
  else if c = '\r' then ['\\', 'r']
  else if c = '\x00' then ['\\', '0']
  else if isShown c && !Unicode.graphemeExtend.contains c.toNat then [c]
  else codePoint c

def quote (text : String) : String :=
  String.ofList ('"' :: text.toList.flatMap writeChar ++ ['"'])

end CompilerLog.Text.Quoted
