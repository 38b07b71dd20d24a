/-!
# Control flow of an exported function

A function exported to C runs a block of Rust code that falls through, returns early, unwinds, or
meets undefined behaviour. `Ffi` is that block over an arbitrary state, and a boundary turns the
block into the outcome its caller sees. The rules at the end say which changes a block can make
without looking inside it.
-/

namespace RustlsFfi.Control

/-- Undefined behaviour. -/
inductive Fault where
  | nullDeref
  /-- A pointer to no live object of its type, or a slice longer than its buffer. -/
  | dangling
  /-- A panic left a function that does not catch it. -/
  | unwind
  deriving DecidableEq, Repr

/-- How a block ends, with `ρ` the enclosing function's result. -/
inductive Flow (ρ α : Type) where
  | next (a : α)
  | ret (r : ρ)
  /-- An early return taken because a pointer was NULL. -/
  | rejected (r : ρ)
  | panic
  | fault (f : Fault)

/-- A block of code that reads and changes a state `σ`. -/
def Ffi (σ ρ α : Type) : Type := σ → Flow ρ α × σ

/-- The result of a call into another library. -/
inductive Res (ε α : Type) where
  | ok (a : α)
  | err (e : ε)
  | panic
  deriving DecidableEq, Repr

/-- What the caller of an exported function sees. -/
inductive Outcome (ρ : Type) where
  | returned (r : ρ)
  | rejected (r : ρ)
  | fault (f : Fault)
  deriving DecidableEq, Repr

def Outcome.value? {ρ : Type} : Outcome ρ → Option ρ
  | .returned r | .rejected r => some r
  | .fault _ => none

def Outcome.map {ρ τ : Type} (f : ρ → τ) : Outcome ρ → Outcome τ
  | .returned r => .returned (f r)
  | .rejected r => .rejected (f r)
  | .fault e => .fault e

/-- The value a function returns when a panic reaches its boundary. -/
class PanicOrDefault (ρ : Type) where
  panicValue : ρ

/-- The value a function returns when a required pointer is NULL. -/
class NullParameterOrDefault (ρ : Type) where
  nullValue : ρ

variable {σ ρ α β ε : Type}

namespace Ffi

def bind (x : Ffi σ ρ α) (f : α → Ffi σ ρ β) : Ffi σ ρ β := fun s =>
  match x s with
  | (.next a, s) => f a s
  | (.ret r, s) => (.ret r, s)
  | (.rejected r, s) => (.rejected r, s)
  | (.panic, s) => (.panic, s)
  | (.fault e, s) => (.fault e, s)

instance : Monad (Ffi σ ρ) where
  pure a := fun s => (.next a, s)
  bind := Ffi.bind

def ret (r : ρ) : Ffi σ ρ α := fun s => (.ret r, s)

/-- `return` on a failed NULL check. -/
def reject (r : ρ) : Ffi σ ρ α := fun s => (.rejected r, s)

def fault (e : Fault) : Ffi σ ρ α := fun s => (.fault e, s)

def get : Ffi σ ρ σ := fun s => (.next s, s)

def modify (f : σ → σ) : Ffi σ ρ Unit := fun s => (.next (), f s)

/-- Call into another library; its panic unwinds through the block. -/
def call (x : σ → Res ε α × σ) : Ffi σ ρ (Except ε α) := fun s =>
  match x s with
  | (.ok a, s) => (.next (.ok a), s)
  | (.err e, s) => (.next (.error e), s)
  | (.panic, s) => (.panic, s)

/-- `x` with a value in scope whose destructor `drop` runs unless `x` falls through with it. -/
def inScope (drop : σ → σ) (x : Ffi σ ρ α) : Ffi σ ρ α := fun s =>
  match x s with
  | (.next a, s) => (.next a, s)
  | (.ret r, s) => (.ret r, drop s)
  | (.rejected r, s) => (.rejected r, drop s)
  | (.panic, s) => (.panic, drop s)
  | (.fault e, s) => (.fault e, s)

end Ffi

def ffiPanicBoundary [PanicOrDefault ρ] (x : Ffi σ ρ ρ) (s : σ) : Outcome ρ × σ :=
  match x s with
  | (.next r, s) => (.returned r, s)
  | (.ret r, s) => (.returned r, s)
  | (.rejected r, s) => (.rejected r, s)
  | (.panic, s) => (.returned PanicOrDefault.panicValue, s)
  | (.fault e, s) => (.fault e, s)

/-- An exported function whose body is not wrapped in `ffi_panic_boundary!`. -/
def noBoundary (x : Ffi σ ρ ρ) (s : σ) : Outcome ρ × σ :=
  match x s with
  | (.next r, s) => (.returned r, s)
  | (.ret r, s) => (.returned r, s)
  | (.rejected r, s) => (.rejected r, s)
  | (.panic, s) => (.fault .unwind, s)
  | (.fault e, s) => (.fault e, s)

/-! ### Running a block -/

@[simp] theorem pure_run (a : α) (s : σ) : (pure a : Ffi σ ρ α) s = (.next a, s) := rfl

@[simp] theorem ret_run (r : ρ) (s : σ) : (Ffi.ret r : Ffi σ ρ α) s = (.ret r, s) := rfl

@[simp] theorem reject_run (r : ρ) (s : σ) : (Ffi.reject r : Ffi σ ρ α) s = (.rejected r, s) := rfl

@[simp] theorem fault_run (e : Fault) (s : σ) : (Ffi.fault e : Ffi σ ρ α) s = (.fault e, s) := rfl

@[simp] theorem get_run (s : σ) : (Ffi.get : Ffi σ ρ σ) s = (.next s, s) := rfl

@[simp] theorem modify_run (f : σ → σ) (s : σ) :
    (Ffi.modify f : Ffi σ ρ Unit) s = (.next (), f s) := rfl

theorem bind_run (x : Ffi σ ρ α) (f : α → Ffi σ ρ β) (s : σ) :
    (x >>= f) s = match x s with
      | (.next a, s) => f a s
      | (.ret r, s) => (.ret r, s)
      | (.rejected r, s) => (.rejected r, s)
      | (.panic, s) => (.panic, s)
      | (.fault e, s) => (.fault e, s) := rfl

end RustlsFfi.Control
