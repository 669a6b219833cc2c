/-!
# Log records

A logged result carries the records that were written on the way to it, in
order.
-/

namespace DiceCalculator

/-- How much a record matters, from the most to the least. -/
inductive Severity where
  | error
  | warn
  | info
  | debug
  | trace
  deriving DecidableEq, Repr

def Severity.label : Severity → String
  | .error => "ERROR"
  | .warn => "WARN"
  | .info => "INFO"
  | .debug => "DEBUG"
  | .trace => "TRACE"

/-- Whether the one matters at least as much as the other. -/
def Severity.reaches (severity threshold : Severity) : Bool :=
  severity.ctorIdx ≤ threshold.ctorIdx

structure LogRecord where
  severity : Severity
  message : String
  deriving DecidableEq, Repr

/-- A result and the records written on the way to it. -/
structure Logged (α : Type) where
  records : List LogRecord
  result : α

namespace Logged

variable {α : Type}

def write (severity : Severity) (message : String) : Logged Unit :=
  ⟨[⟨severity, message⟩], ()⟩

instance : Monad Logged where
  pure result := ⟨[], result⟩
  bind before next :=
    let after := next before.result
    ⟨before.records ++ after.records, after.result⟩

instance : LawfulMonad Logged where
  map_const := rfl
  id_map _ := by simp [Functor.map]
  seqLeft_eq _ _ := by simp [SeqLeft.seqLeft, Seq.seq, Functor.map]
  seqRight_eq _ _ := by simp [SeqRight.seqRight, Seq.seq, Functor.map]
  pure_seq _ _ := by simp [Seq.seq, Functor.map, pure]
  bind_pure_comp _ _ := rfl
  bind_map _ _ := rfl
  pure_bind _ _ := by simp [bind, pure]
  bind_assoc _ _ _ := by simp [bind]

@[simp]
theorem result_pure (a : α) : (pure a : Logged α).result = a :=
  rfl

@[simp]
theorem result_bind {β : Type} (before : Logged α) (next : α → Logged β) :
    (before >>= next).result = (next before.result).result :=
  rfl

/-- The records that matter at least as much as the threshold. -/
def recordsFrom (logged : Logged α) (threshold : Severity) : List LogRecord :=
  logged.records.filter (·.severity.reaches threshold)

end Logged

end DiceCalculator
