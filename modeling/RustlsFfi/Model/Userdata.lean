import RustlsFfi.Base.Control

/-!
# The userdata stack

`lib.rs`: the thread-local stack that carries a connection's userdata and log callback to the
callbacks rustls makes, and the guard that takes an entry off again.
-/

namespace RustlsFfi
open Control

/-- A `void *` that is never dereferenced; `none` is NULL. -/
abbrev VoidPtr := Option Nat

abbrev FnPtr := Nat

structure Userdata where
  userdata : VoidPtr
  logCallback : Option FnPtr
  deriving DecidableEq, Repr

/-- `USERDATA: RefCell<Vec<Userdata>>` of one thread, the top of the stack first. -/
structure UserdataKey where
  /-- Set once the thread is being torn down. -/
  destroyed : Bool := false
  /-- The `RefCell` is borrowed. -/
  borrowed : Bool := false
  stack : List Userdata := []
  deriving DecidableEq, Repr

inductive UserdataError where
  | alreadyPopped | alreadyBorrowed | emptyStack | accessError | wrongData
  deriving DecidableEq, Repr

/-- `USERDATA.try_with(|userdata| userdata.try_borrow_mut() ..)`. -/
def UserdataKey.tryBorrowMut (k : UserdataKey) : Except UserdataError (List Userdata) :=
  if k.destroyed then .error .accessError
  else if k.borrowed then .error .alreadyBorrowed
  else .ok k.stack

structure UserdataGuard where
  data : Option Userdata
  deriving DecidableEq, Repr

/-- `UserdataGuard::new`: only the pointer is remembered, not the log callback. -/
def UserdataGuard.new (u : VoidPtr) : UserdataGuard := ⟨some ⟨u, none⟩⟩

def UserdataGuard.tryPop (g : UserdataGuard) (k : UserdataKey) :
    Except UserdataError Unit × UserdataGuard × UserdataKey :=
  match g.data with
  | none => (.error .alreadyPopped, g, k)
  | some expected =>
    match k.tryBorrowMut with
    | .error e => (.error e, g, k)
    | .ok [] => (.error .emptyStack, g, k)
    | .ok (u :: v) =>
      (if u.userdata = expected.userdata then .ok () else .error .wrongData,
        ⟨none⟩, { k with stack := v })

def UserdataGuard.drop (g : UserdataGuard) (k : UserdataKey) : UserdataKey := (g.tryPop k).2.2

/-- `UserdataGuard::try_drop`: an explicit pop, then the `Drop` of `self`. -/
def UserdataGuard.tryDrop (g : UserdataGuard) (k : UserdataKey) :
    Except UserdataError Unit × UserdataKey :=
  let (r, g, k) := g.tryPop k
  (r, g.drop k)

def userdataPush (u : VoidPtr) (cb : Option FnPtr) (k : UserdataKey) :
    Except UserdataError UserdataGuard × UserdataKey :=
  match k.tryBorrowMut with
  | .error e => (.error e, k)
  | .ok v => (.ok (.new u), { k with stack := ⟨u, cb⟩ :: v })

def userdataGet (k : UserdataKey) : Except UserdataError VoidPtr :=
  match k.tryBorrowMut with
  | .error e => .error e
  | .ok [] => .error .emptyStack
  | .ok (u :: _) => .ok u.userdata

def logCallbackGet (k : UserdataKey) : Except UserdataError (Option FnPtr × VoidPtr) :=
  match k.tryBorrowMut with
  | .error e => .error e
  | .ok [] => .error .emptyStack
  | .ok (u :: _) => .ok (u.logCallback, u.userdata)

/-! ### A key outside thread teardown, with no borrow held -/

/-- The state every operation finds outside thread teardown: no operation keeps the borrow. -/
def UserdataKey.Usable (k : UserdataKey) : Prop := k.destroyed = false ∧ k.borrowed = false

theorem tryBorrowMut_usable {k : UserdataKey} (h : k.Usable) : k.tryBorrowMut = .ok k.stack := by
  simp [UserdataKey.tryBorrowMut, h.1, h.2]

theorem userdataPush_usable {k : UserdataKey} (h : k.Usable) (u : VoidPtr) (cb : Option FnPtr) :
    userdataPush u cb k = (.ok (.new u), { k with stack := ⟨u, cb⟩ :: k.stack }) := by
  simp [userdataPush, tryBorrowMut_usable h]

theorem userdataPush_unusable {k : UserdataKey} (h : ¬ k.Usable) (u : VoidPtr) (cb : Option FnPtr) :
    ∃ e, userdataPush u cb k = (.error e, k) := by
  unfold userdataPush UserdataKey.tryBorrowMut
  cases destroyed : k.destroyed <;> cases borrowed : k.borrowed <;>
    simp_all [UserdataKey.Usable]

theorem userdataGet_top {k : UserdataKey} {u : Userdata} {v : List Userdata} (h : k.Usable)
    (top : k.stack = u :: v) : userdataGet k = .ok u.userdata := by
  simp [userdataGet, tryBorrowMut_usable h, top]

theorem userdataGet_ok {k : UserdataKey} {u : VoidPtr} (got : userdataGet k = .ok u) :
    k.Usable ∧ ∃ top, k.stack.head? = some top := by
  unfold userdataGet UserdataKey.tryBorrowMut at got
  cases destroyed : k.destroyed <;> cases borrowed : k.borrowed <;> cases stack : k.stack <;>
    simp_all [UserdataKey.Usable]

theorem logCallbackGet_top {k : UserdataKey} {u : Userdata} {v : List Userdata} (h : k.Usable)
    (top : k.stack = u :: v) : logCallbackGet k = .ok (u.logCallback, u.userdata) := by
  simp [logCallbackGet, tryBorrowMut_usable h, top]

theorem tryPop_top {k : UserdataKey} {u : Userdata} {v : List Userdata} (h : k.Usable)
    (top : k.stack = u :: v) (p : VoidPtr) :
    (UserdataGuard.new p).tryPop k =
      (if u.userdata = p then .ok () else .error .wrongData, ⟨none⟩, { k with stack := v }) := by
  simp [UserdataGuard.tryPop, UserdataGuard.new, tryBorrowMut_usable h, top]

theorem drop_spent (k : UserdataKey) : UserdataGuard.drop ⟨none⟩ k = k := rfl

/-- Releasing a guard over its own entry succeeds and uncovers the stack below. -/
theorem tryDrop_own {k : UserdataKey} {u : Userdata} {v : List Userdata} (h : k.Usable)
    (top : k.stack = u :: v) :
    (UserdataGuard.new u.userdata).tryDrop k = (.ok (), { k with stack := v }) := by
  simp [UserdataGuard.tryDrop, tryPop_top h top, drop_spent]

/-- Unwinding past a guard uncovers the stack below, whatever pointer the guard remembers. -/
theorem drop_top {k : UserdataKey} {u : Userdata} {v : List Userdata} (h : k.Usable)
    (top : k.stack = u :: v) (p : VoidPtr) :
    (UserdataGuard.new p).drop k = { k with stack := v } := by
  simp [UserdataGuard.drop, tryPop_top h top]

end RustlsFfi
