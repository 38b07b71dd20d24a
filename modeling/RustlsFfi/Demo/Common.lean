import RustlsFfi.Base.Code
import RustlsFfi.Base.Memory
import RustlsFfi.Model.Connection
import RustlsFfi.Model.Report

/-!
# The demonstration programs: what they share

`tests/common.c`: the callbacks that move bytes between rustls and a socket, the growing buffer for
plaintext, and the search for the parts of an HTTP message. `S` is the state of the operating system, in
which the callbacks work too. What the programs print for their user is left out.
-/

namespace RustlsFfi.Demo
open Code Memory

variable {Conn S ρ τ : Type}

inductive DemoResult where
  | ok
  | error
  | again
  | eof
  deriving DecidableEq, Repr

/-- The value of the enumeration, which the client compares with what `select` returned. -/
def DemoResult.code : DemoResult → Int
  | .ok => 0
  | .error => 1
  | .again => 2
  | .eof => 3

/-! ### The operating system -/

abbrev Errno := { e : Int32 // e ≠ 0 }

def EAGAIN : Int32 := 11

def EWOULDBLOCK : Int32 := 11

/-- `SIZE_MAX + 1`, for a `size_t` of 64 bits. -/
def sizeRange : Nat := 18446744073709551616

def ptrdiffMax : Nat := 9223372036854775807

/-- A block of memory; no object has more than `PTRDIFF_MAX` bytes. -/
abbrev Block (n : Nat) := { bytes : Bytes // bytes.length = n ∧ n ≤ ptrdiffMax }

/-- The system calls and functions that the programs use, as arbitrary functions. -/
structure Os (S : Type) where
  recv : Int32 → (len : Nat) → S → Except Errno { bytes : Bytes // bytes.length ≤ len } × S
  send : Int32 → (buf : Bytes) → S → Except Errno { n : Nat // n ≤ buf.length } × S
  writev : Int32 → (bufs : List Bytes) → S → Except Errno { n : Nat // n ≤ bufs.flatten.length } × S
  /-- Whether the descriptor is ready for reading and for writing, of what was asked. -/
  select : Int32 → Bool → Bool → S → Except Errno (Bool × Bool) × S
  /-- `read` of one byte. -/
  read : Int32 → S → Except Errno { n : Nat // n ≤ 1 } × S
  write : Int32 → (buf : Bytes) → S → Except Errno { n : Nat // n ≤ buf.length } × S
  close : Int32 → S → S
  /-- `malloc` and `realloc`: a block of that size, or NULL. -/
  alloc : (n : Nat) → S → Option (Block n) × S
  /-- `getenv("VECTORED_IO")` is set. -/
  vectoredIo : Bool

/-! ### The program's memory -/

theorem nothing_fits : 0 ≤ ([] : Bytes).length := Nat.le_refl 0

theorem nothing_small : ([] : Bytes).length ≤ ptrdiffMax := Nat.zero_le ptrdiffMax

structure ByteVec where
  /-- The allocation; none for NULL. -/
  data : Bytes := []
  len : Nat := 0
  fits : len ≤ data.length := by exact nothing_fits
  small : data.length ≤ ptrdiffMax := by exact nothing_small

namespace ByteVec

def capacity (vec : ByteVec) : Nat := vec.data.length

def contents (vec : ByteVec) : Bytes := vec.data.take vec.len

/-- From `bytevec_writeable` to the end of the allocation. -/
def writeable (vec : ByteVec) : Bytes := vec.data.drop vec.len

/-- What a function leaves that was given the writeable part; it cannot reach further. -/
def store (vec : ByteVec) (bytes : Bytes) : ByteVec where
  data := vec.contents ++ (bytes.take vec.writeable.length ++ vec.writeable.drop bytes.length)
  len := vec.len
  fits := by
    have := vec.fits
    simp only [contents, List.length_append, List.length_take]
    omega
  small := by
    have := vec.fits
    have := vec.small
    simp only [contents, writeable, List.length_append, List.length_take, List.length_drop]
    omega

/-- The contents moved to a larger block. -/
def moved (vec : ByteVec) {n : Nat} (block : Block n) (larger : vec.len ≤ n) : ByteVec where
  data := vec.data.take n ++ block.1.drop vec.data.length
  len := vec.len
  fits := by
    have := vec.fits
    simp only [List.length_append, List.length_take]
    omega
  small := by
    have := block.2
    simp only [List.length_append, List.length_take, List.length_drop]
    omega

end ByteVec

/-- The process: the world of the library and of the system, the buffer of `struct conndata`, and what has been
written to standard output. -/
structure Process (Conn S : Type) where
  world : World Conn S
  data : ByteVec
  stdout : Bytes := []

/-- The other fields of `struct conndata`. -/
structure ConnData where
  fd : Int32
  rconn : Ptr
  /-- The address of the record itself, which the callbacks get. -/
  self : VoidPtr

/-- A call of an exported function. -/
def ffi (f : Api Conn S τ) : Code (Process Conn S) ρ τ := fun p =>
  match f p.world with
  | (.returned r, w) => (.next r, { p with world := w })
  | (.rejected r, w) => (.next r, { p with world := w })
  | (.fault _, w) => (.misuse, { p with world := w })

/-- A call of the operating system. -/
def sys (f : S → τ × S) : Code (Process Conn S) ρ τ := fun p =>
  let (r, s) := f p.world.app
  (.next r, { p with world.app := s })

/-- `write(STDOUT_FILENO, buf, …)`. -/
def writeStdout (os : Os S) (buf : Bytes) : Code (Process Conn S) ρ (Except Errno Nat) := fun p =>
  match os.write 1 buf p.world.app with
  | (.error e, s) => (.next (.error e), { p with world.app := s })
  | (.ok n, s) => (.next (.ok n), { p with world.app := s, stdout := p.stdout ++ buf.take n })

/-- Where the local variable `n` is. -/
def nAt : Addr := 0

/-- Where the writeable part of the buffer is during a call. -/
def bufAt : Addr := 0

def loadN : Code (Process Conn S) ρ Nat := fun p => (.next (p.world.cells.size nAt), p)

def storeN (n : Nat) : Code (Process Conn S) ρ Unit := fun p =>
  (.next (), { p with world.cells.size := Function.update p.world.cells.size nAt n })

/-! ### Callbacks -/

def readCb (os : Os S) (conn : ConnData) : ReadCallback S := fun _ buf s =>
  match os.recv conn.fd buf.length s with
  | (.error e, s) => (⟨⟨e⟩, 0⟩, buf, s)
  | (.ok bytes, s) => (⟨⟨0⟩, bytes.1.length⟩, bytes ++ buf.drop bytes.1.length, s)

def writeCb (os : Os S) (conn : ConnData) : WriteCallback S := fun _ buf s =>
  match os.send conn.fd buf s with
  | (.error e, s) => (⟨⟨e⟩, 0⟩, s)
  | (.ok n, s) => (⟨⟨0⟩, n⟩, s)

def writeVectoredCb (os : Os S) (conn : ConnData) : VectoredWriteCallback S := fun _ iov s =>
  match os.writev conn.fd iov s with
  | (.error e, s) => (⟨⟨e⟩, 0⟩, s)
  | (.ok n, s) => (⟨⟨0⟩, n⟩, s)

def writeTls (R : Rustls Conn S) (os : Os S) (conn : ConnData) : Code (Process Conn S) ρ RustlsIoResult :=
  if os.vectoredIo then
    ffi (rustlsConnectionWriteTlsVectored R conn.rconn (some (writeVectoredCb os conn)) conn.self (some nAt))
  else ffi (rustlsConnectionWriteTls R conn.rconn (some (writeCb os conn)) conn.self (some nAt))

/-! ### The buffer -/

/-- More than was available would put `len` past the allocation, and the next use of it would be one of
memory that is not there. -/
def bytevecConsume (n : Nat) : Code (Process Conn S) ρ Unit := fun p =>
  if fits : p.data.len + n ≤ p.data.data.length then
    (.next (), { p with data := { p.data with len := p.data.len + n, fits } })
  else (.fault, p)

/-- The size to ask for: `n` more than is used, or twice the capacity. -/
def newSize (vec : ByteVec) (n : Nat) : Nat :=
  max ((vec.len + n) % sizeRange) (vec.capacity * 2 % sizeRange)

/-- The result of `realloc` has room for what was there: `newsize` is not smaller than what is in use,
unless the sum wrapped around. -/
def bytevecEnsureAvailable (os : Os S) (n : Nat) : Code (Process Conn S) DemoResult DemoResult := fun p =>
  if p.data.capacity - p.data.len < n then
    match os.alloc (newSize p.data n) p.world.app with
    | (none, s) => (.ret .error, { p with world.app := s })
    | (some block, s) =>
      if larger : p.data.len ≤ newSize p.data n then
        (.next .ok, { p with world.app := s, data := p.data.moved block larger })
      else (.fault, { p with world.app := s })
  else (.next .ok, p)

/-- The memory at `bufAt` is `bytes` from now on. -/
def lend (bytes : Bytes) (w : World Conn S) : World Conn S :=
  { w with cells.buf := Function.update w.cells.buf bufAt bytes }

/-- `rustls_connection_read` into the writeable part. The cells know memory by the address it starts at, so
that part stands at one of its own during the call. -/
def readWriteable (R : Rustls Conn S) (rconn : Ptr) : Code (Process Conn S) ρ RustlsResult := do
  let p ← Code.get
  Code.modify fun p => { p with world := lend p.data.writeable p.world }
  let result ← ffi (rustlsConnectionRead R rconn (some bufAt) (p.data.capacity - p.data.len) (some nAt))
  Code.modify fun p => { p with data := p.data.store (p.world.cells.buf bufAt) }
  pure result

/-- A round of the loop, which is left only by `return`. -/
def copyRound (R : Rustls Conn S) (os : Os S) (conn : ConnData) :
    Code (Process Conn S) DemoResult (Unit ⊕ DemoResult) := do
  let result ← readWriteable R conn.rconn
  if result = .plaintextEmpty then Code.ret .ok
  else if result ≠ .ok then Code.ret .error
  else
    let n ← loadN
    if n = 0 then Code.ret .eof
    else
      bytevecConsume n
      if (← Code.call (bytevecEnsureAvailable os 1024)) ≠ .ok then Code.ret .error
      else pure (.inl ())

def copyPlaintextToBuffer (R : Rustls Conn S) (os : Os S) (fuel : Nat) (conn : ConnData) :
    Code (Process Conn S) DemoResult DemoResult := do
  if (← Code.call (bytevecEnsureAvailable os 1024)) ≠ .ok then Code.ret .error
  else Code.loop (fun _ => copyRound R os conn) fuel ()

/-! ### Searching -/

/-- The loop of `memmem`, with `p` where the search goes on. There are at most as many rounds as there are bytes. -/
def memmemFrom (mem : Bytes) (haystack haystacklen : Nat) (needle : Bytes) (needlelen : Nat) :
    Nat → Nat → Access (Option Nat)
  | 0, _ => .ok none
  | fuel + 1, p =>
    if needlelen ≤ haystacklen - (p - haystack) then do
      match ← memchr mem (← load needle 0) p (haystacklen - (p - haystack)) with
      | none => pure none
      | some p =>
        if (← memcmp mem p needle needlelen) = 0 then pure (some p)
        else memmemFrom mem haystack haystacklen needle needlelen fuel (p + 1)
    else pure none

/-- `memmem`, where `haystack` is a place in the allocation `mem`. -/
def memmem (mem : Bytes) (haystack haystacklen : Nat) (needle : Bytes) (needlelen : Nat) : Access (Option Nat) :=
  memmemFrom mem haystack haystacklen needle needlelen (haystacklen + 1) haystack

/-- `"\r\n"`. -/
def crlf : Bytes := [13, 10]

/-- `"\r\n\r\n"`. -/
def blankLine : Bytes := [13, 10, 13, 10]

def bodyBeginning (vec : ByteVec) : Access (Option Nat) := do
  match ← memmem vec.data 0 vec.len blankLine 4 with
  | none => pure none
  | some result => pure (some (result + 4))

/-- `strncasecmp(name, current, name_len) == 0 && current[name_len] == ':'`. -/
def isHeader (mem name : Bytes) (nameLen current : Nat) : Access Bool := do
  if (← strncasecmp name (mem.drop current) nameLen) = 0 then
    let colon ← load mem (current + nameLen)
    pure (colon = 58)
  else pure false

/-- The loop of `get_first_header_value`. `name` ends with a NUL. Besides the place of the value it gives what
is stored in `n`. -/
def headerValueFrom (mem name : Bytes) (nameLen : Nat) : Nat → (current len : Nat) → Access (Option (Nat × Nat))
  | 0, _, _ => .ok none
  | fuel + 1, current, len =>
    if len > nameLen + 3 then do
      match ← memmem mem current len crlf 2 with
      | none => pure none
      | some result =>
        let skipped := result - current + 2
        let len := usizeSub 64 len skipped
        let current := current + skipped
        if len < nameLen + 2 then pure none
        else if ← isHeader mem name nameLen current then
          let len := len - (nameLen + 1)
          let current := current + (nameLen + 1)
          match ← memmem mem current len crlf 2 with
          | none => pure (some (current, len))
          | some result => pure (some (current, result - current))
        else headerValueFrom mem name nameLen fuel current len
    else pure none

def getFirstHeaderValue (mem : Bytes) (headers headersLen : Nat) (name : Bytes) (nameLen : Nat) :
    Access (Option (Nat × Nat)) :=
  headerValueFrom mem name nameLen (headersLen + 1) headers headersLen

end RustlsFfi.Demo
