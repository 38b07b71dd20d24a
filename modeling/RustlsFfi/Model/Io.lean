import RustlsFfi.Model.Error
import RustlsFfi.Model.Slice
import RustlsFfi.Model.Userdata

/-!
# I/O through callbacks

`io.rs`: readers and writers that hand each request to a C callback. `S` is the state of the C
program. A callback's `out_n` starts at 0 and is what the callback leaves in it.
-/

namespace RustlsFfi

/-- `std::io::ErrorKind`, as far as this crate tells the kinds apart. -/
inductive ErrorKind where
  | unexpectedEof
  | wouldBlock
  | other
  deriving DecidableEq, Repr

inductive IoError where
  | os (code : Int32)
  | simple (kind : ErrorKind)
  deriving DecidableEq, Repr

namespace IoError

def fromRawOsError (code : Int32) : IoError := .os code

def rawOsError : IoError → Option Int32
  | .os code => some code
  | .simple _ => none

/-- `Error::kind`; of the OS codes only `EAGAIN` has a kind that matters here. -/
def kind : IoError → ErrorKind
  | .os code => if code = 11 then .wouldBlock else .other
  | .simple kind => kind

end IoError

/-- `dyn Read`: a buffer goes in, the count and the filled buffer come out. -/
abbrev Reader (S : Type) := Bytes → S → Except IoError Nat × Bytes × S

structure Writer (S : Type) where
  write : Bytes → S → Except IoError Nat × S
  writeVectored : List Bytes → S → Except IoError Nat × S

structure IoReturn where
  result : RustlsIoResult
  outN : Nat
  deriving DecidableEq, Repr

/-- `ReadCallback`: the buffer to fill goes in, and comes out as the callback leaves it. -/
abbrev ReadCallback (S : Type) := VoidPtr → Bytes → S → IoReturn × Bytes × S

abbrev WriteCallback (S : Type) := VoidPtr → Bytes → S → IoReturn × S

abbrev VectoredWriteCallback (S : Type) := VoidPtr → List Bytes → S → IoReturn × S

/-- The `match result.0` at the end of each adapter. -/
def IoReturn.toResult (r : IoReturn) : Except IoError Nat :=
  if r.result.code = 0 then .ok r.outN else .error (.fromRawOsError r.result.code)

variable {S : Type}

structure CallbackReader (S : Type) where
  callback : ReadCallback S
  userdata : VoidPtr

def CallbackReader.read (r : CallbackReader S) : Reader S := fun buf s =>
  let (out, buf, s) := r.callback r.userdata buf s
  (out.toResult, buf, s)

theorem IoReturn.toResult_ok {out : IoReturn} {n : Nat} (read : out.toResult = .ok n) : out = ⟨⟨0⟩, n⟩ := by
  obtain ⟨⟨code⟩, outN⟩ := out
  unfold IoReturn.toResult at read
  split at read
  next zero =>
    obtain rfl := Except.ok.inj read
    obtain rfl : code = 0 := zero
    rfl
  · cases read

theorem IoReturn.toResult_error {out : IoReturn} {e : IoError} (failed : out.toResult = .error e) :
    out.result.code ≠ 0 ∧ e = .os out.result.code := by
  unfold IoReturn.toResult at failed
  split at failed
  · cases failed
  next nonzero => exact ⟨nonzero, (Except.error.inj failed).symm⟩

structure CallbackWriter (S : Type) where
  callback : WriteCallback S
  userdata : VoidPtr

def CallbackWriter.write (w : CallbackWriter S) (buf : Bytes) (s : S) : Except IoError Nat × S :=
  let (out, s) := w.callback w.userdata buf s
  (out.toResult, s)

/-- The buffer that the standard library's default `Write::write_vectored` passes on. -/
def firstNonEmpty (bufs : List Bytes) : Bytes := (bufs.find? (fun b => !b.isEmpty)).getD []

/-- `Write for CallbackWriter`, with the default `write_vectored`. -/
def CallbackWriter.toWriter (w : CallbackWriter S) : Writer S where
  write := w.write
  writeVectored bufs := w.write (firstNonEmpty bufs)

structure VectoredCallbackWriter (S : Type) where
  callback : VectoredWriteCallback S
  userdata : VoidPtr

def VectoredCallbackWriter.writeVectored (w : VectoredCallbackWriter S) (bufs : List Bytes) (s : S) :
    Except IoError Nat × S :=
  let (out, s) := w.callback w.userdata bufs s
  (out.toResult, s)

/-- `Write for VectoredCallbackWriter`. -/
def VectoredCallbackWriter.toWriter (w : VectoredCallbackWriter S) : Writer S where
  write buf := w.writeVectored [buf]
  writeVectored := w.writeVectored

end RustlsFfi
