import RustlsFfi.Base.Control

/-!
# Views of Rust memory

`rslice.rs`: the slices and strings that callbacks receive. A pointer is NULL (`none`) or the
memory it points at.
-/

namespace RustlsFfi
open Control

abbrev Bytes := List UInt8

structure RustlsSliceBytes where
  data : Option Bytes
  len : Nat
  deriving DecidableEq, Repr

/-- `From<&[u8]>`: an empty slice still has a non-NULL pointer. -/
def RustlsSliceBytes.ofSlice (s : Bytes) : RustlsSliceBytes := ⟨some s, s.length⟩

def RustlsSliceBytes.bytes (v : RustlsSliceBytes) : Bytes := (v.data.getD []).take v.len

@[simp] theorem bytes_ofSlice (s : Bytes) : (RustlsSliceBytes.ofSlice s).bytes = s := by
  simp [RustlsSliceBytes.ofSlice, RustlsSliceBytes.bytes]

structure RustlsSliceSliceBytes where
  inner : List Bytes
  deriving DecidableEq, Repr

def rustlsSliceSliceBytesLen (input : Option RustlsSliceSliceBytes) : Nat :=
  match input with
  | some c => c.inner.length
  | none => 0

def rustlsSliceSliceBytesGet (input : Option RustlsSliceSliceBytes) (n : Nat) : RustlsSliceBytes :=
  match input with
  | none => ⟨none, 0⟩
  | some input =>
    match input.inner[n]? with
    | some rsb => .ofSlice rsb
    | none => ⟨none, 0⟩

/-- What C collects by walking the view with `_len` and `_get`. -/
def RustlsSliceSliceBytes.enumerate (v : RustlsSliceSliceBytes) : List Bytes :=
  (List.range (rustlsSliceSliceBytesLen (some v))).map
    (fun n => (rustlsSliceSliceBytesGet (some v) n).bytes)

theorem enumerate_inner (v : RustlsSliceSliceBytes) : v.enumerate = v.inner := by
  apply List.ext_getElem
  · simp [RustlsSliceSliceBytes.enumerate, rustlsSliceSliceBytesLen]
  · intro n _ bound
    simp [RustlsSliceSliceBytes.enumerate, rustlsSliceSliceBytesGet, List.getElem?_eq_getElem bound]

/-- The UTF-8 encoding of a `&str`. -/
def utf8 (s : String) : Bytes := s.toList.flatMap String.utf8EncodeChar

structure RustlsStr where
  data : Option Bytes
  len : Nat
  deriving DecidableEq, Repr

/-- The memory that C sees. -/
def RustlsStr.bytes (s : RustlsStr) : Bytes := (s.data.getD []).take s.len

/-- `rustls_str::try_from`, with `none` for `NulByte`. -/
def RustlsStr.tryFrom (s : String) : Option RustlsStr :=
  if s.toList.contains '\x00' then none else some ⟨some (utf8 s), (utf8 s).length⟩

def RustlsStr.fromStrUnchecked (s : String) : RustlsStr := ⟨some (utf8 s), (utf8 s).length⟩

instance : PanicOrDefault RustlsStr := ⟨.fromStrUnchecked ""⟩
instance : NullParameterOrDefault RustlsStr := ⟨.fromStrUnchecked ""⟩

structure RustlsSliceStr where
  inner : List String
  deriving DecidableEq, Repr

def rustlsSliceStrLen (input : Option RustlsSliceStr) : Nat :=
  match input with
  | some c => c.inner.length
  | none => 0

def rustlsSliceStrGet (input : Option RustlsSliceStr) (n : Nat) : RustlsStr :=
  match input with
  | none => ⟨none, 0⟩
  | some input => (input.inner[n]?.bind RustlsStr.tryFrom).getD ⟨none, 0⟩

structure RustlsSliceU16 where
  data : Option (List UInt16)
  len : Nat
  deriving DecidableEq, Repr

/-- `From<&[u16]>`. -/
def RustlsSliceU16.ofSlice (s : List UInt16) : RustlsSliceU16 := ⟨some s, s.length⟩

end RustlsFfi
