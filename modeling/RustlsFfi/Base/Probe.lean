import RustlsFfi.Base.Control

/-!
# The first error from below

A probe retraces a block up to the first error that a library under it reports. The rules read off
such an error what must have come before it.
-/

namespace RustlsFfi.Control

/-- How far the retracing gets: on to a value, to an error from below, or to any other end. -/
inductive Probe (φ α : Type) where
  | on (a : α)
  | met (f : φ)
  | ended

variable {φ α β ε : Type}

namespace Probe

def bind : Probe φ α → (α → Probe φ β) → Probe φ β
  | .on a, k => k a
  | .met f, _ => .met f
  | .ended, _ => .ended

instance : Monad (Probe φ) where
  pure := .on
  bind := bind

/-- The block goes on only with a value. -/
def need : Option α → Probe φ α
  | some a => .on a
  | none => .ended

/-- A call into a library. -/
def ask (wrap : ε → φ) : Res ε α → Probe φ α
  | .ok a => .on a
  | .err e => .met (wrap e)
  | .panic => .ended

/-- A call whose error carries nothing. -/
def answer (f : φ) : Option α → Probe φ α
  | some a => .on a
  | none => .met f

def error? : Probe φ α → Option φ
  | .met f => some f
  | _ => none

/-! ### What came before an error -/

variable {k : α → Probe φ β} {f : φ}

theorem met_of_error? {x : Probe φ α} (h : x.error? = some f) : x = .met f := by
  cases x with
  | met g => exact congrArg met (Option.some.inj h)
  | on a => cases h
  | ended => cases h

theorem met_bind {x : Probe φ α} (h : (x >>= k) = .met f) : x = .met f ∨ ∃ a, x = .on a ∧ k a = .met f := by
  cases x with
  | on a => exact .inr ⟨a, rfl, h⟩
  | met g => exact .inl (congrArg met (met.inj h))
  | ended => cases h

theorem met_ask {wrap : ε → φ} {r : Res ε α} (h : ask wrap r = .met f) : ∃ e, r = .err e ∧ f = wrap e := by
  cases r with
  | ok a => cases h
  | err e => exact ⟨e, rfl, (met.inj h).symm⟩
  | panic => cases h

theorem met_need_bind {o : Option α} (h : (need o >>= k) = .met f) : ∃ a, o = some a ∧ k a = .met f := by
  cases o with
  | none => cases h
  | some a => exact ⟨a, rfl, h⟩

theorem met_ask_bind {wrap : ε → φ} {r : Res ε α} (h : (ask wrap r >>= k) = .met f) :
    (∃ e, r = .err e ∧ f = wrap e) ∨ ∃ a, r = .ok a ∧ k a = .met f := by
  cases r with
  | ok a => exact .inr ⟨a, rfl, h⟩
  | err e => exact .inl ⟨e, rfl, (met.inj h).symm⟩
  | panic => cases h

theorem met_answer_bind {g : φ} {o : Option α} (h : (answer g o >>= k) = .met f) :
    (o = none ∧ f = g) ∨ ∃ a, o = some a ∧ k a = .met f := by
  cases o with
  | none => exact .inl ⟨rfl, (met.inj h).symm⟩
  | some a => exact .inr ⟨a, rfl, h⟩

theorem met_need {o : Option α} : need o ≠ (.met f : Probe φ α) := by
  cases o <;> exact nofun

/-! ### What came before a value -/

theorem on_need {o : Option α} {a : α} (h : (need o : Probe φ α) = .on a) : o = some a := by
  cases o with
  | none => cases h
  | some b => exact congrArg some (on.inj h)

theorem on_ask_bind {wrap : ε → φ} {r : Res ε α} {b : β} (h : (ask wrap r >>= k) = .on b) :
    ∃ a, r = .ok a ∧ k a = .on b := by
  cases r with
  | ok a => exact ⟨a, rfl, h⟩
  | err e => cases h
  | panic => cases h

end Probe

end RustlsFfi.Control
