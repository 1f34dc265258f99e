/-!
# Log records

A computation that reports what it does is a value with the records it made, in order. Reading
`value` forgets the records; every operation has one equation for either part.
-/

namespace CompilerLog

/-- How severe a record is, the most severe first. -/
inductive Level where
  | error
  | warn
  | info
  | debug
  | trace
  deriving DecidableEq, Repr

namespace Level

def rank : Level → Nat
  | error => 1
  | warn => 2
  | info => 3
  | debug => 4
  | trace => 5

def label : Level → String
  | error => "ERROR"
  | warn => "WARN"
  | info => "INFO"
  | debug => "DEBUG"
  | trace => "TRACE"

end Level

/-- One line of the log. -/
structure Record where
  level : Level
  message : String
  deriving DecidableEq, Repr

def Record.text (r : Record) : String :=
  r.level.label ++ " " ++ r.message

/-- A value together with the records made on the way to it. -/
structure Logged (α : Type) where
  value : α
  records : List Record

namespace Logged

def silent {α : Type} (value : α) : Logged α := ⟨value, []⟩

def andThen {α β : Type} (x : Logged α) (f : α → Logged β) : Logged β :=
  ⟨(f x.value).value, x.records ++ (f x.value).records⟩

instance : Monad Logged where
  pure := silent
  bind := andThen

@[simp] theorem value_pure {α : Type} (a : α) : (pure a : Logged α).value = a := rfl

@[simp] theorem records_pure {α : Type} (a : α) : (pure a : Logged α).records = [] := rfl

@[simp] theorem value_bind {α β : Type} (x : Logged α) (f : α → Logged β) :
    (x >>= f).value = (f x.value).value := rfl

@[simp] theorem records_bind {α β : Type} (x : Logged α) (f : α → Logged β) :
    (x >>= f).records = x.records ++ (f x.value).records := rfl

@[simp] theorem value_map {α β : Type} (f : α → β) (x : Logged α) :
    (f <$> x).value = f x.value := rfl

@[simp] theorem records_map {α β : Type} (f : α → β) (x : Logged α) :
    (f <$> x).records = x.records := List.append_nil x.records

@[ext] theorem ext {α : Type} {x y : Logged α} (hv : x.value = y.value)
    (hr : x.records = y.records) : x = y := by
  cases x; cases y; simp_all

instance : LawfulMonad Logged := LawfulMonad.mk' Logged
  (fun _ => by ext1 <;> simp [Functor.map, andThen, silent])
  (fun _ _ => by ext1 <;> simp)
  (fun _ _ _ => by ext1 <;> simp)

/-- What follows sees nothing but the value. -/
theorem bind_eq_of_value {α β : Type} {x : Logged α} {f g : α → Logged β}
    (h : f x.value = g x.value) : x >>= f = x >>= g := by
  ext1 <;> simp [h]

end Logged

def log (level : Level) (message : String) : Logged Unit :=
  ⟨(), [⟨level, message⟩]⟩

@[simp] theorem records_log (level : Level) (message : String) :
    (log level message).records = [⟨level, message⟩] := rfl

/-- The lines of the records at least as severe as the given rank, in order. -/
def linesUpTo (rank : Nat) (records : List Record) : List String :=
  (records.filter (·.level.rank ≤ rank)).map Record.text

end CompilerLog
