import FolderTag.Log.Entry

/-! # Traced computations

A traced value is a value with the log entries that were written on the way to it. What is computed
never depends on the entries, so every law about values can be stated without them. -/

namespace FolderTag.Log

open FolderTag.Document

/-- A value with what was logged on the way to it. -/
structure Traced (α : Type) where
  value : α
  entries : List Entry

namespace Traced

instance : Monad Traced where
  pure a := ⟨a, []⟩
  bind x f := ⟨(f x.value).value, x.entries ++ (f x.value).entries⟩

@[simp] theorem value_pure {α : Type} (a : α) : (pure a : Traced α).value = a := rfl

@[simp] theorem entries_pure {α : Type} (a : α) : (pure a : Traced α).entries = [] := rfl

@[simp] theorem value_bind {α β : Type} (x : Traced α) (f : α → Traced β) :
    (x >>= f).value = (f x.value).value := rfl

@[simp] theorem entries_bind {α β : Type} (x : Traced α) (f : α → Traced β) :
    (x >>= f).entries = x.entries ++ (f x.value).entries := rfl

@[simp] theorem value_map {α β : Type} (f : α → β) (x : Traced α) :
    (f <$> x).value = f x.value := rfl

/-- Puts outer named values before those of every entry. -/
def within {α : Type} (outer : Context) (x : Traced α) : Traced α :=
  ⟨x.value, x.entries.map fun e => { e with context := outer.extend e.context }⟩

@[simp] theorem value_within {α : Type} (outer : Context) (x : Traced α) :
    (x.within outer).value = x.value := rfl

end Traced

def log (level : Level) (message : String) (context : Context) : Traced Unit :=
  ⟨(), [{ level, message, context }]⟩

@[simp] theorem value_log (level : Level) (message : String) (context : Context) :
    (log level message context).value = () := rfl

/-- A traced computation that may be interrupted. -/
abbrev Attempt (ε α : Type) := ExceptT ε Traced α

namespace Attempt

/-- What came out: an interruption or a value. -/
def outcome {ε α : Type} (x : Attempt ε α) : Except ε α := (ExceptT.run x).value

/-- What was logged, also before an interruption. -/
def entries {ε α : Type} (x : Attempt ε α) : List Entry := (ExceptT.run x).entries

def within {ε α : Type} (outer : Context) (x : Attempt ε α) : Attempt ε α :=
  ExceptT.mk (Traced.within outer (ExceptT.run x))

/-- An attempt that logs nothing. -/
def ofExcept {ε α : Type} (r : Except ε α) : Attempt ε α := ExceptT.mk (pure r)

@[simp] theorem outcome_pure {ε α : Type} (a : α) : outcome (pure a : Attempt ε α) = .ok a := rfl

@[simp] theorem outcome_throw {ε α : Type} (e : ε) :
    outcome (throw e : Attempt ε α) = .error e := rfl

@[simp] theorem outcome_bind {ε α β : Type} (x : Attempt ε α) (f : α → Attempt ε β) :
    (x >>= f).outcome = x.outcome >>= fun a => (f a).outcome := by
  change (ExceptT.run x >>= ExceptT.bindCont f).value = _
  rw [Traced.value_bind, outcome]
  cases (ExceptT.run x).value with
  | error e => rfl
  | ok a => rfl

@[simp] theorem outcome_lift {ε α : Type} (x : Traced α) :
    outcome (liftM x : Attempt ε α) = .ok x.value := rfl

@[simp] theorem outcome_within {ε α : Type} (outer : Context) (x : Attempt ε α) :
    (x.within outer).outcome = x.outcome := rfl

@[simp] theorem outcome_ofExcept {ε α : Type} (r : Except ε α) :
    (ofExcept r).outcome = r := rfl

@[simp] theorem outcome_adapt {ε ε' α : Type} (f : ε → ε') (x : Attempt ε α) :
    outcome (ExceptT.adapt f x) = x.outcome.mapError f := rfl

end Attempt

end FolderTag.Log
