import Mathlib.Logic.Function.Basic
import RustlsFfi.Model.Rustls

/-!
# Pointers from C

`lib.rs`: the casts between C pointers and Rust values, and the macros that return early on NULL.
-/

namespace RustlsFfi
open Control

variable {Conn S ρ τ : Type}

/-! ### NULL checks -/

/-- `return crate::panic::NullParameterOrDefault::value()`. -/
def rejectNull [NullParameterOrDefault ρ] : Body Conn S ρ τ := .reject NullParameterOrDefault.nullValue

/-- `try_ref_from_ptr!` and `try_callback!` on a pointer to plain data or code. -/
def tryRef [NullParameterOrDefault ρ] (p : Option τ) : Body Conn S ρ τ :=
  match p with
  | some v => pure v
  | none => rejectNull

def fromRawParts (l : List τ) (count : Nat) : Body Conn S ρ (List τ) :=
  if count ≤ l.length then pure (l.take count) else .fault .dangling

def trySlice [NullParameterOrDefault ρ] (p : Option (List τ)) (count : Nat) :
    Body Conn S ρ (List τ) :=
  match p with
  | some l => fromRawParts l count
  | none => rejectNull

/-- `try_ref_from_ptr!`, `try_mut_from_ptr!` and `try_box_from_ptr!` on an object of `arena`. -/
def tryFromPtr [NullParameterOrDefault ρ] (arena : World Conn S → List (Option τ)) (p : Ptr) :
    Body Conn S ρ (Addr × τ) :=
  match p with
  | none => rejectNull
  | some a => fun w =>
    match Arena.get (arena w) a with
    | some v => (.next (a, v), w)
    | none => (.fault .dangling, w)

theorem tryFromPtr_live [NullParameterOrDefault ρ] {arena : World Conn S → List (Option τ)}
    {a : Addr} {v : τ} {w : World Conn S} (live : Arena.get (arena w) a = some v) :
    (tryFromPtr arena (some a) : Body Conn S ρ _) w = (.next (a, v), w) := by
  simp [tryFromPtr, live]

theorem tryFromPtr_dead [NullParameterOrDefault ρ] {arena : World Conn S → List (Option τ)}
    {a : Addr} {w : World Conn S} (dead : Arena.get (arena w) a = none) :
    (tryFromPtr arena (some a) : Body Conn S ρ _) w = (.fault .dangling, w) := by
  simp [tryFromPtr, dead]

/-- An output pointer checked by hand: `if out.is_null() { return r }`. -/
def rejectIfNull (p : Option τ) (r : ρ) : Body Conn S ρ Unit :=
  match p with
  | some _ => pure ()
  | none => .reject r

def nonNullOr (r : ρ) (p : Option τ) : Body Conn S ρ τ :=
  match p with
  | some v => pure v
  | none => .reject r

/-- `match x { Ok(v) => v, Err(e) => return f(e) }`. -/
def okOr {ε : Type} (f : ε → ρ) (x : Except ε τ) : Body Conn S ρ τ :=
  match x with
  | .ok v => pure v
  | .error e => .ret (f e)

/-- `match x { Some(v) => v, None => return r }`. -/
def someOr (r : ρ) (x : Option τ) : Body Conn S ρ τ :=
  match x with
  | some v => pure v
  | none => .ret r

/-- An infallible call into another library, where `none` is a panic. -/
def mayPanic (x : Option τ) : Body Conn S ρ τ := fun w =>
  match x with
  | some v => (.next v, w)
  | none => (.panic, w)

def unwrap {ε : Type} (x : Except ε τ) : Body Conn S ρ τ :=
  match x with
  | .ok v => pure v
  | .error _ => mayPanic none

/-- A fallible call that touches none of the state. -/
def callPure {ε : Type} (x : Res ε τ) : Body Conn S ρ (Except ε τ) := .call fun w => (x, w)

/-! ### `Arc`s shared with C -/

/-- The static types at which this crate drops an `Arc` made with `Arc::from_raw`. -/
inductive ArcType where
  | clientConfig
  | serverConfig
  | rustlsCertifiedKey
  | rustlsClientCertVerifier
  | rustlsClientCertVerifierOptional
  deriving DecidableEq, Repr

/-- The opaque structs hold a `[u8; 0]`, so nothing runs when one is dropped. -/
def ArcType.hasDropGlue : ArcType → Bool
  | .clientConfig | .serverConfig => true
  | .rustlsCertifiedKey | .rustlsClientCertVerifier | .rustlsClientCertVerifierOptional => false

/-- The value of a live `Arc`, if it is of the expected type. -/
def derefArc (h : Heap) (as : ArcValue → Option τ) (a : Addr) : Option τ :=
  match h[a]? with
  | some c => if 0 < c.strong then as c.value else none
  | none => none

theorem derefArc_eq_some {h : Heap} {as : ArcValue → Option τ} {a : Addr} {v : τ} :
    derefArc h as a = some v ↔ ∃ c, h[a]? = some c ∧ 0 < c.strong ∧ as c.value = some v := by
  unfold derefArc
  cases h[a]? with
  | none => simp
  | some c => simp

theorem strong_of_derefArc {h : Heap} {as : ArcValue → Option τ} {a : Addr} {v : τ}
    (found : derefArc h as a = some v) : 0 < Counting.strong h a := by
  obtain ⟨c, cell, positive, -⟩ := derefArc_eq_some.mp found
  simpa [Counting.strong, cell] using positive

theorem derefArc_retain {h : Heap} (as : ArcValue → Option τ) {a : Addr} (live : 0 < Counting.strong h a)
    (b : Addr) : derefArc (Counting.retain h a) as b = derefArc h as b := by
  obtain ⟨c, cell, count⟩ := Counting.found_of_strong live
  have positive : 0 < c.strong := count ▸ live
  by_cases same : a = b
  · subst same
    obtain ⟨bound, rfl⟩ := List.getElem?_eq_some_iff.mp cell
    simp [derefArc, Counting.retain, bound, positive]
  · simp [derefArc, Counting.retain, cell, same]

theorem derefArc_alloc_new (h : Heap) (as : ArcValue → Option τ) (v : ArcValue) :
    derefArc (Counting.alloc h v) as h.length = as v := by
  simp [derefArc, Counting.alloc]

/-- `try_ref_from_ptr!` on an `Arc`. -/
def tryRefFromArc [NullParameterOrDefault ρ] (as : ArcValue → Option τ) (p : Ptr) :
    Body Conn S ρ (Addr × τ) :=
  match p with
  | none => rejectNull
  | some a => fun w =>
    match derefArc w.arcs as a with
    | some v => (.next (a, v), w)
    | none => (.fault .dangling, w)

theorem tryRefFromArc_live [NullParameterOrDefault ρ] {as : ArcValue → Option τ} {a : Addr} {v : τ}
    {w : World Conn S} (live : derefArc w.arcs as a = some v) :
    (tryRefFromArc as (some a) : Body Conn S ρ _) w = (.next (a, v), w) := by
  simp [tryRefFromArc, live]

/-! ### Certificates lent to C -/

/-- A `*const rustls_certificate`: it points into the chain of a key, or into the peer's chain of a connection. -/
inductive CertificatePtr where
  | ofKey (certifiedKey : Addr) (i : Nat)
  | ofPeer (conn : Addr) (i : Nat)
  deriving DecidableEq, Repr

/-- The certificate, as long as the object that lent it exists and still has one there. -/
def derefCertificate (R : Rustls Conn S) (w : World Conn S) : CertificatePtr → Option Certificate
  | .ofKey a i => (derefArc w.arcs ArcValue.certifiedKey? a).bind fun key => key.cert[i]?
  | .ofPeer a i => (Arena.get w.conns a).bind fun c => (R.peerCertificates c.conn).join.bind fun certs => certs[i]?

/-- `try_ref_from_ptr!` on a certificate. -/
def tryCertificate [NullParameterOrDefault ρ] (R : Rustls Conn S) (p : Option CertificatePtr) :
    Body Conn S ρ Certificate :=
  match p with
  | none => rejectNull
  | some cert => fun w =>
    match derefCertificate R w cert with
    | some v => (.next v, w)
    | none => (.fault .dangling, w)

/-! ### Counts -/

def World.retain (a : Addr) (w : World Conn S) : World Conn S :=
  { w with arcs := Counting.retain w.arcs a }

/-- `try_arc_from_ptr!`. `to_arc` takes over C's count with `from_raw`, adds one with `clone`, and
gives C's count back with `forget`. -/
def tryArcFromPtr [NullParameterOrDefault ρ] (as : ArcValue → Option τ) (p : Ptr) :
    Body Conn S ρ (Addr × τ) :=
  match p with
  | none => rejectNull
  | some a => fun w =>
    match derefArc w.arcs as a with
    | some v => (.next (a, v), w.retain a)
    | none => (.fault .dangling, w)

theorem tryArcFromPtr_live [NullParameterOrDefault ρ] {as : ArcValue → Option τ} {a : Addr} {v : τ}
    {w : World Conn S} (live : derefArc w.arcs as a = some v) :
    (tryArcFromPtr as (some a) : Body Conn S ρ _) w = (.next (a, v), w.retain a) := by
  simp [tryArcFromPtr, live]

theorem tryArcFromPtr_dead [NullParameterOrDefault ρ] {as : ArcValue → Option τ} {a : Addr}
    {w : World Conn S} (dead : derefArc w.arcs as a = none) :
    (tryArcFromPtr as (some a) : Body Conn S ρ _) w = (.fault .dangling, w) := by
  simp [tryArcFromPtr, dead]

/-- Drop an `Arc` held by Rust code, at the type of its value. -/
def World.dropArc (w : World Conn S) (a : Addr) : World Conn S :=
  { w with arcs := Counting.release ArcValue.refs true w.arcs a }

def World.dropArcs (w : World Conn S) (refs : List Addr) : World Conn S := refs.foldl World.dropArc w

/-- A reference that is given back as it was taken leaves no trace. -/
theorem dropArc_retain {w : World Conn S} {a : Addr} (positive : 0 < Counting.strong w.arcs a) :
    (w.retain a).dropArc a = w := by
  simp only [World.dropArc, World.retain, Counting.release_retain ArcValue.refs true positive]

theorem dropArcs_eq (w : World Conn S) (l : List Addr) :
    w.dropArcs l = { w with arcs := l.foldl (Counting.release ArcValue.refs true) w.arcs } := by
  induction l generalizing w with
  | nil => rfl
  | cons a l ih => exact ih (w.dropArc a)

/-- `drop(Arc::from_raw(ptr))` at the static type `T`. -/
def World.dropFromRaw (T : ArcType) (w : World Conn S) (a : Addr) : World Conn S :=
  { w with arcs := Counting.release ArcValue.refs T.hasDropGlue w.arcs a }

/-- `ArcCastPtr::to_const_ptr`: the new `Arc` and its pointer. -/
def toConstPtr (v : ArcValue) : Body Conn S ρ Ptr := fun w =>
  (.next (some w.arcs.length), { w with arcs := Counting.alloc w.arcs v })

/-! ### Writes through output pointers -/

def writeSize (p : Ptr) (n : Nat) : Body Conn S ρ Unit :=
  match p with
  | none => .fault .nullDeref
  | some l => .modify fun w => { w with cells.size := Function.update w.cells.size l n }

def writePtr (p : Ptr) (v : Ptr) : Body Conn S ρ Unit :=
  match p with
  | none => .fault .nullDeref
  | some l => .modify fun w => { w with cells.ptr := Function.update w.cells.ptr l v }

def writeBuf (p : Ptr) (v : Bytes) : Body Conn S ρ Unit :=
  match p with
  | none => .fault .nullDeref
  | some l => .modify fun w => { w with cells.buf := Function.update w.cells.buf l v }

def writeData (p : Ptr) (v : Option Bytes) : Body Conn S ρ Unit :=
  match p with
  | none => .fault .nullDeref
  | some l => .modify fun w => { w with cells.data := Function.update w.cells.data l v }

end RustlsFfi
