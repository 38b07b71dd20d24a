import RustlsFfi.Model.Cipher

/-!
# Connections

`connection.rs`.
-/

namespace RustlsFfi
open Control

variable {Conn S ρ α ε κ : Type}

/-- `Connection::from_client` and `Connection::from_server`: the rustls connection owns the config
it was created from. -/
def Connection.new (conn : Conn) (side : Side) (config : Addr) : Connection Conn :=
  ⟨conn, side, [config], none, none⟩

def Connection.asServer (c : Connection Conn) : Option Conn :=
  match c.side with
  | .server => some c.conn
  | .client => none

def World.putConn (a : Addr) (c : Connection Conn) (w : World Conn S) : World Conn S :=
  { w with conns := Arena.put w.conns a c }

/-- A call into rustls that drives connection `a` and runs an I/O callback. -/
def onConn (a : Addr) (c : Connection Conn) (f : S → Res ε α × Conn × S) :
    World Conn S → Res ε α × World Conn S := fun w =>
  let (r, conn, s) := f w.app
  (r, { w.putConn a { c with conn := conn } with app := s })

/-! ### Userdata and logging -/

def rustlsConnectionSetUserdata (conn : Ptr) (userdata : VoidPtr) : Api Conn S Unit :=
  noBoundary do
    let (a, c) ← tryFromPtr World.conns conn
    .modify (·.putConn a { c with userdata := userdata })

def rustlsConnectionSetLogCallback (conn : Ptr) (cb : Option FnPtr) : Api Conn S Unit :=
  noBoundary do
    let (a, c) ← tryFromPtr World.conns conn
    .modify (·.putConn a { c with logCallback := cb })

/-! ### TLS bytes -/

/-- `rustls_io_result(e.raw_os_error().unwrap_or(EIO))`. -/
def IoError.toIoResult (e : IoError) : RustlsIoResult := ⟨e.rawOsError.getD EIO⟩

def rustlsConnectionReadTls (R : Rustls Conn S) (conn : Ptr) (callback : Option (ReadCallback S))
    (userdata : VoidPtr) (outN : Ptr) : Api Conn S RustlsIoResult :=
  ffiPanicBoundary do
    let (a, c) ← tryFromPtr World.conns conn
    rejectIfNull outN ⟨EINVAL⟩
    let callback ← tryRef callback
    let reader : CallbackReader S := ⟨callback, userdata⟩
    let nRead ← okOr IoError.toIoResult (← .call (onConn a c (R.readTls c.conn reader.read)))
    writeSize outN nRead
    pure ⟨0⟩

section
variable {R : Rustls Conn S} {a l : Addr} {callback : ReadCallback S} {userdata : VoidPtr}
  {w : World Conn S} {c : Connection Conn} {conn : Conn} {s : S}

theorem readTls_received {n : Nat} (live : Arena.get w.conns a = some c)
    (received : R.readTls c.conn (CallbackReader.read ⟨callback, userdata⟩) w.app = (.ok n, conn, s)) :
    rustlsConnectionReadTls R (some a) (some callback) userdata (some l) w = (.returned ⟨0⟩,
      { w.putConn a { c with conn := conn } with
        app := s, cells.size := Function.update w.cells.size l n }) := by
  simp [rustlsConnectionReadTls, ffiPanicBoundary, bind_run, tryFromPtr_live live, rejectIfNull, tryRef,
    Ffi.call, okOr, onConn, received, writeSize, World.putConn]

theorem readTls_failed {e : IoError} (live : Arena.get w.conns a = some c)
    (failed : R.readTls c.conn (CallbackReader.read ⟨callback, userdata⟩) w.app = (.err e, conn, s)) :
    rustlsConnectionReadTls R (some a) (some callback) userdata (some l) w = (.returned e.toIoResult,
      { w.putConn a { c with conn := conn } with app := s }) := by
  simp [rustlsConnectionReadTls, ffiPanicBoundary, bind_run, tryFromPtr_live live, rejectIfNull, tryRef,
    Ffi.call, okOr, onConn, failed]

theorem readTls_nowhere (live : Arena.get w.conns a = some c) :
    rustlsConnectionReadTls R (some a) (some callback) userdata none w = (.rejected ⟨EINVAL⟩, w) := by
  simp [rustlsConnectionReadTls, ffiPanicBoundary, bind_run, tryFromPtr_live live, rejectIfNull]

/-- The connection after `read_tls` is the one that rustls leaves. -/
theorem readTls_conn (live : Arena.get w.conns a = some c) (callback : ReadCallback S) (userdata : VoidPtr) (l : Addr) :
    let done := R.readTls c.conn (CallbackReader.read ⟨callback, userdata⟩) w.app
    let o := rustlsConnectionReadTls R (some a) (some callback) userdata (some l) w
    Arena.get o.2.conns a = some { c with conn := done.2.1 } ∧ o.2.app = done.2.2 := by
  intro done o
  have stored := Arena.get_put_same { c with conn := done.2.1 } live
  rcases result : R.readTls c.conn (CallbackReader.read ⟨callback, userdata⟩) w.app with ⟨n | e | _, conn', s⟩
  · rw [show o = _ from readTls_received live result, show done = _ from result]
    exact ⟨Arena.get_put_same _ live, rfl⟩
  · rw [show o = _ from readTls_failed live result, show done = _ from result]
    exact ⟨Arena.get_put_same _ live, rfl⟩
  · rw [show done = _ from result] at stored ⊢
    simpa [o, rustlsConnectionReadTls, ffiPanicBoundary, bind_run, tryFromPtr_live live, rejectIfNull, tryRef,
      Ffi.call, onConn, result, World.putConn] using stored

end

/-- The body that the two write functions share, over the `Writer` each makes of its callback. -/
def writeTls (R : Rustls Conn S) (writer : κ → Writer S) (conn : Ptr)
    (callback : Option κ) (outN : Ptr) : Api Conn S RustlsIoResult :=
  ffiPanicBoundary do
    let (a, c) ← tryFromPtr World.conns conn
    rejectIfNull outN ⟨EINVAL⟩
    let callback ← tryRef callback
    let nWritten ←
      okOr IoError.toIoResult (← .call (onConn a c (R.writeTls c.conn (writer callback))))
    writeSize outN nWritten
    pure ⟨0⟩

/-- What a writing call does once its arguments are in order. -/
theorem writeTls_sent {R : Rustls Conn S} {writer : κ → Writer S} {a l : Addr} {cb : κ}
    {w : World Conn S} {c : Connection Conn} {n : Nat} {conn : Conn} {s : S}
    (live : Arena.get w.conns a = some c)
    (sent : R.writeTls c.conn (writer cb) w.app = (.ok n, conn, s)) :
    writeTls R writer (some a) (some cb) (some l) w = (.returned ⟨0⟩,
      { w.putConn a { c with conn := conn } with
        app := s, cells.size := Function.update w.cells.size l n }) := by
  simp [writeTls, ffiPanicBoundary, bind_run, tryFromPtr_live live, rejectIfNull, tryRef, Ffi.call, okOr,
    onConn, sent, writeSize, World.putConn]

theorem writeTls_failed {R : Rustls Conn S} {writer : κ → Writer S} {a l : Addr} {cb : κ}
    {w : World Conn S} {c : Connection Conn} {e : IoError} {conn : Conn} {s : S}
    (live : Arena.get w.conns a = some c)
    (failed : R.writeTls c.conn (writer cb) w.app = (.err e, conn, s)) :
    writeTls R writer (some a) (some cb) (some l) w = (.returned e.toIoResult,
      { w.putConn a { c with conn := conn } with app := s }) := by
  simp [writeTls, ffiPanicBoundary, bind_run, tryFromPtr_live live, rejectIfNull, tryRef, Ffi.call, okOr,
    onConn, failed]

def rustlsConnectionWriteTls (R : Rustls Conn S) (conn : Ptr) (callback : Option (WriteCallback S))
    (userdata : VoidPtr) (outN : Ptr) : Api Conn S RustlsIoResult :=
  writeTls R (fun cb => CallbackWriter.toWriter ⟨cb, userdata⟩) conn callback outN

def rustlsConnectionWriteTlsVectored (R : Rustls Conn S) (conn : Ptr)
    (callback : Option (VectoredWriteCallback S)) (userdata : VoidPtr) (outN : Ptr) :
    Api Conn S RustlsIoResult :=
  writeTls R (fun cb => VectoredCallbackWriter.toWriter ⟨cb, userdata⟩) conn callback outN

/-! ### Processing -/

def pushUserdata (u : VoidPtr) (cb : Option FnPtr) :
    Body Conn S ρ (Except UserdataError UserdataGuard) := fun w =>
  let (r, k) := userdataPush u cb w.userdata
  (.next r, { w with userdata := k })

def tryDropGuard (g : UserdataGuard) : Body Conn S ρ (Except UserdataError Unit) := fun w =>
  let (r, k) := g.tryDrop w.userdata
  (.next r, { w with userdata := k })

/-- `rustls_connection_process_new_packets`, over what rustls and its callbacks do meanwhile. -/
def rustlsConnectionProcessNewPackets
    (processNewPackets : Addr → World Conn S → Res Error Unit × World Conn S) (conn : Ptr) :
    Api Conn S RustlsResult :=
  ffiPanicBoundary do
    let (a, c) ← tryFromPtr World.conns conn
    let guard ← okOr (fun _ => .panic) (← pushUserdata c.userdata c.logCallback)
    -- A panic drops `guard` on its way to the boundary.
    let result ← Ffi.inScope (fun w => { w with userdata := guard.drop w.userdata }) do
      match ← .call (processNewPackets a) with
      | .ok _ => pure RustlsResult.ok
      | .error e => pure (mapError e)
    match ← tryDropGuard guard with
    | .ok _ => pure result
    | .error _ => pure .panic

/-- The frame that a call on `c` puts on the userdata stack. -/
def Connection.frame (c : Connection Conn) : Userdata := ⟨c.userdata, c.logCallback⟩

def World.enter (c : Connection Conn) (w : World Conn S) : World Conn S :=
  { w with userdata := { w.userdata with stack := c.frame :: w.userdata.stack } }

def processCode : Res Error Unit → RustlsResult
  | .ok _ => .ok
  | .err e => mapError e
  | .panic => .panic

theorem pushUserdata_usable {u : VoidPtr} {cb : Option FnPtr} {w : World Conn S}
    (usable : w.userdata.Usable) :
    (pushUserdata u cb : Body Conn S ρ _) w = (.next (.ok (.new u)),
      { w with userdata := { w.userdata with stack := ⟨u, cb⟩ :: w.userdata.stack } }) := by
  simp [pushUserdata, userdataPush_usable usable]

theorem processNewPackets_dangling {f : Addr → World Conn S → Res Error Unit × World Conn S}
    {w : World Conn S} {a : Addr} (dead : Arena.get w.conns a = none) :
    rustlsConnectionProcessNewPackets f (some a) w = (.fault .dangling, w) := by
  simp [rustlsConnectionProcessNewPackets, ffiPanicBoundary, bind_run, tryFromPtr_dead dead]

/-- If rustls leaves the userdata stack as it found it, the call restores the stack of its caller,
also when rustls unwinds, and reports how rustls ended. -/
theorem processNewPackets_live {f : Addr → World Conn S → Res Error Unit × World Conn S}
    {w : World Conn S} {a : Addr} {c : Connection Conn} (usable : w.userdata.Usable)
    (live : Arena.get w.conns a = some c)
    (kept : (f a (w.enter c)).2.userdata = (w.enter c).userdata) :
    rustlsConnectionProcessNewPackets f (some a) w =
      (.returned (processCode (f a (w.enter c)).1),
        { (f a (w.enter c)).2 with userdata := w.userdata }) := by
  have inside : (w.enter c).userdata.Usable := usable
  have top : (w.enter c).userdata.stack = c.frame :: w.userdata.stack := rfl
  have released : (UserdataGuard.new c.userdata).tryDrop (w.enter c).userdata = (.ok (), w.userdata) :=
    tryDrop_own inside top
  have unwound : (UserdataGuard.new c.userdata).drop (w.enter c).userdata = w.userdata :=
    drop_top inside top c.userdata
  have entered : (pushUserdata c.userdata c.logCallback : Body Conn S RustlsResult _) w =
      (.next (.ok (.new c.userdata)), w.enter c) := pushUserdata_usable usable
  generalize ended : f a (w.enter c) = e at kept ⊢
  obtain ⟨r, t⟩ := e
  rw [← kept] at released unwound
  cases r <;>
    simp [rustlsConnectionProcessNewPackets, ffiPanicBoundary, bind_run, tryFromPtr_live live,
      entered, ended, released, unwound, Ffi.inScope, Ffi.call, okOr, tryDropGuard, processCode,
      PanicOrDefault.panicValue]

/-- Once the frame is on the stack, the call changes only the stack on top of what rustls does. -/
theorem processNewPackets_entered {f : Addr → World Conn S → Res Error Unit × World Conn S}
    {w : World Conn S} {a : Addr} {c : Connection Conn} (usable : w.userdata.Usable)
    (live : Arena.get w.conns a = some c) :
    ∃ k, (rustlsConnectionProcessNewPackets f (some a) w).2 =
      { (f a (w.enter c)).2 with userdata := k } := by
  have entered : (pushUserdata c.userdata c.logCallback : Body Conn S RustlsResult _) w =
      (.next (.ok (.new c.userdata)), w.enter c) := pushUserdata_usable usable
  rcases ended : f a (w.enter c) with ⟨_ | _ | _, t⟩ <;>
    rcases popped : (UserdataGuard.new c.userdata).tryDrop t.userdata with ⟨_ | _, k⟩ <;>
    simp [rustlsConnectionProcessNewPackets, ffiPanicBoundary, bind_run, tryFromPtr_live live,
      entered, ended, popped, Ffi.inScope, Ffi.call, okOr, tryDropGuard]

theorem processNewPackets_refused {f : Addr → World Conn S → Res Error Unit × World Conn S}
    {w : World Conn S} {a : Addr} (unusable : ¬ w.userdata.Usable) :
    (rustlsConnectionProcessNewPackets f (some a) w).2 = w := by
  cases live : Arena.get w.conns a with
  | none => rw [processNewPackets_dangling live]
  | some c =>
    obtain ⟨e, refused⟩ := userdataPush_unusable unusable c.userdata c.logCallback
    simp [rustlsConnectionProcessNewPackets, ffiPanicBoundary, bind_run, tryFromPtr_live live,
      pushUserdata, refused, okOr]

theorem processNewPackets_returns {f : Addr → World Conn S → Res Error Unit × World Conn S}
    {w : World Conn S} {a : Addr} {c : Connection Conn} (live : Arena.get w.conns a = some c) :
    ∃ r, (rustlsConnectionProcessNewPackets f (some a) w).1 = .returned r := by
  rcases pushed : userdataPush c.userdata c.logCallback w.userdata with ⟨_ | guard, k⟩
  · simp [rustlsConnectionProcessNewPackets, ffiPanicBoundary, bind_run, tryFromPtr_live live,
      pushUserdata, pushed, okOr]
  · rcases ended : f a { w with userdata := k } with ⟨_ | _ | _, t⟩ <;>
      rcases popped : guard.tryDrop t.userdata with ⟨_ | _, k'⟩ <;>
      simp [rustlsConnectionProcessNewPackets, ffiPanicBoundary, bind_run, tryFromPtr_live live,
        pushUserdata, pushed, ended, popped, Ffi.inScope, Ffi.call, okOr, tryDropGuard]

/-! ### State of a connection -/

/-- The body of the functions that ask rustls one question about a connection. -/
def askConn [NullParameterOrDefault ρ] [PanicOrDefault ρ] (conn : Ptr)
    (f : Connection Conn → Body Conn S ρ ρ) : Api Conn S ρ :=
  ffiPanicBoundary do
    let (_, c) ← tryFromPtr World.conns conn
    f c

def rustlsConnectionWantsRead (R : Rustls Conn S) (conn : Ptr) : Api Conn S Bool :=
  askConn conn fun c => mayPanic (R.wantsRead c.conn)

def rustlsConnectionWantsWrite (R : Rustls Conn S) (conn : Ptr) : Api Conn S Bool :=
  askConn conn fun c => mayPanic (R.wantsWrite c.conn)

def rustlsConnectionIsHandshaking (R : Rustls Conn S) (conn : Ptr) : Api Conn S Bool :=
  askConn conn fun c => mayPanic (R.isHandshaking c.conn)

def rustlsConnectionSetBufferLimit (R : Rustls Conn S) (conn : Ptr) (n : Nat) : Api Conn S Unit :=
  ffiPanicBoundary do
    let (a, c) ← tryFromPtr World.conns conn
    let conn ← mayPanic (R.setBufferLimit c.conn n)
    .modify (·.putConn a { c with conn := conn })

def rustlsConnectionSendCloseNotify (R : Rustls Conn S) (conn : Ptr) : Api Conn S Unit :=
  ffiPanicBoundary do
    let (a, c) ← tryFromPtr World.conns conn
    let conn ← mayPanic (R.sendCloseNotify c.conn)
    .modify (·.putConn a { c with conn := conn })

def rustlsConnectionGetPeerCertificate (R : Rustls Conn S) (conn : Ptr) (i : Nat) :
    Api Conn S (Option CertificatePtr) :=
  askConn conn fun c => do
    let certs ← mayPanic (R.peerCertificates c.conn)
    pure (conn.bind fun a => (certs.bind fun certs => certs[i]?).map fun _ => .ofPeer a i)

def rustlsConnectionGetAlpnProtocol (R : Rustls Conn S) (conn protocolOut protocolOutLen : Ptr) :
    Api Conn S Unit :=
  ffiPanicBoundary do
    let (_, c) ← tryFromPtr World.conns conn
    rejectIfNull protocolOut ()
    rejectIfNull protocolOutLen ()
    match ← mayPanic (R.alpnProtocol c.conn) with
    | some p => do
      writeData protocolOut (some p)
      writeSize protocolOutLen p.length
    | none => do
      writeData protocolOut none
      writeSize protocolOutLen 0

def rustlsConnectionGetProtocolVersion (R : Rustls Conn S) (conn : Ptr) : Api Conn S UInt16 :=
  askConn conn fun c => do
    let version ← mayPanic (R.protocolVersion c.conn)
    pure (version.getD 0)

def rustlsConnectionGetNegotiatedCiphersuite (R : Rustls Conn S) (conn : Ptr) :
    Api Conn S (Option SupportedCipherSuite) :=
  askConn conn fun c => do
    let negotiated ← someOr none (← mayPanic (R.negotiatedCipherSuite c.conn))
    pure (allCipherSuites.find? (fun cs => negotiated == cs))

/-! ### Plaintext -/

def rustlsConnectionWrite (R : Rustls Conn S) (conn : Ptr) (buf : Option Bytes) (count : Nat)
    (outN : Ptr) : Api Conn S RustlsResult :=
  ffiPanicBoundary do
    let (a, c) ← tryFromPtr World.conns conn
    let writeBuf ← trySlice buf count
    rejectIfNull outN .nullParameter
    let (written, conn) := R.writerWrite c.conn writeBuf
    .modify (·.putConn a { c with conn := conn })
    let nWritten ← okOr (fun _ => .io) (← callPure written)
    writeSize outN nWritten
    pure .ok

def IoError.toReadResult (e : IoError) : RustlsResult :=
  match e.kind with
  | .unexpectedEof => .unexpectedEof
  | .wouldBlock => .plaintextEmpty
  | .other => .io

/-- The body that the two read functions share, over the reader's method. `buf` names memory of the
caller; the method sees its first `count` bytes. -/
def readPlaintext (read : Conn → Bytes → Res IoError Nat × Bytes × Conn) (conn buf : Ptr)
    (count : Nat) (outN : Ptr) : Api Conn S RustlsResult :=
  ffiPanicBoundary do
    let (a, c) ← tryFromPtr World.conns conn
    let l ← nonNullOr .nullParameter buf
    rejectIfNull outN .nullParameter
    let w ← Ffi.get
    let readBuf ← fromRawParts (w.cells.buf l) count
    let (nRead, filled, conn) := read c.conn readBuf
    .modify (·.putConn a { c with conn := conn })
    writeBuf buf (filled ++ (w.cells.buf l).drop count)
    let nRead ← okOr IoError.toReadResult (← callPure nRead)
    writeSize outN nRead
    pure .ok

section
variable {read : Conn → Bytes → Res IoError Nat × Bytes × Conn} {a l n : Addr} {count : Nat}
  {w : World Conn S} {c : Connection Conn} {filled : Bytes} {conn : Conn}

theorem readPlaintext_read {k : Nat} (live : Arena.get w.conns a = some c)
    (room : count ≤ (w.cells.buf l).length)
    (done : read c.conn ((w.cells.buf l).take count) = (.ok k, filled, conn)) :
    readPlaintext read (some a) (some l) count (some n) w = (.returned .ok,
      { w.putConn a { c with conn := conn } with
        cells.buf := Function.update w.cells.buf l (filled ++ (w.cells.buf l).drop count)
        cells.size := Function.update w.cells.size n k }) := by
  simp [readPlaintext, ffiPanicBoundary, bind_run, tryFromPtr_live live, nonNullOr, rejectIfNull, fromRawParts,
    room, done, callPure, Ffi.call, okOr, writeBuf, writeSize, World.putConn]

theorem readPlaintext_failed {e : IoError} (live : Arena.get w.conns a = some c)
    (room : count ≤ (w.cells.buf l).length)
    (failed : read c.conn ((w.cells.buf l).take count) = (.err e, filled, conn)) :
    readPlaintext read (some a) (some l) count (some n) w = (.returned e.toReadResult,
      { w.putConn a { c with conn := conn } with
        cells.buf := Function.update w.cells.buf l (filled ++ (w.cells.buf l).drop count) }) := by
  simp [readPlaintext, ffiPanicBoundary, bind_run, tryFromPtr_live live, nonNullOr, rejectIfNull, fromRawParts,
    room, failed, callPure, Ffi.call, okOr, writeBuf, World.putConn]

theorem readPlaintext_panicked (live : Arena.get w.conns a = some c)
    (room : count ≤ (w.cells.buf l).length)
    (panicked : read c.conn ((w.cells.buf l).take count) = (.panic, filled, conn)) :
    readPlaintext read (some a) (some l) count (some n) w = (.returned .panic,
      { w.putConn a { c with conn := conn } with
        cells.buf := Function.update w.cells.buf l (filled ++ (w.cells.buf l).drop count) }) := by
  simp [readPlaintext, ffiPanicBoundary, bind_run, tryFromPtr_live live, nonNullOr, rejectIfNull, fromRawParts,
    room, panicked, callPure, Ffi.call, writeBuf, World.putConn, PanicOrDefault.panicValue]

theorem readPlaintext_nowhere (read : Conn → Bytes → Res IoError Nat × Bytes × Conn) {buf outN : Ptr}
    (live : Arena.get w.conns a = some c)
    (nowhere : ¬ ∃ l n, buf = some l ∧ outN = some n ∧ count ≤ (w.cells.buf l).length) :
    (readPlaintext read (some a) buf count outN w).1 ≠ .returned .ok ∧
      (readPlaintext read (some a) buf count outN w).2 = w := by
  cases buf with
  | none => simp [readPlaintext, ffiPanicBoundary, bind_run, tryFromPtr_live live, nonNullOr]
  | some l =>
    cases outN with
    | none => simp [readPlaintext, ffiPanicBoundary, bind_run, tryFromPtr_live live, nonNullOr, rejectIfNull]
    | some n =>
      have short : ¬ count ≤ (w.cells.buf l).length := fun room => nowhere ⟨l, n, rfl, rfl, room⟩
      simp [readPlaintext, ffiPanicBoundary, bind_run, tryFromPtr_live live, nonNullOr, rejectIfNull,
        fromRawParts, if_neg short]

/-- The connection after a read is the one that rustls leaves. -/
theorem readPlaintext_conn {Related : Conn → Conn → Prop} (refl : ∀ conn, Related conn conn)
    (related : ∀ conn buf, Related conn (read conn buf).2.2) (live : Arena.get w.conns a = some c) (buf : Ptr)
    (count : Nat) (outN : Ptr) :
    let o := readPlaintext read (some a) buf count outN w
    (∃ c', Arena.get o.2.conns a = some c' ∧ Related c.conn c'.conn) ∧ o.2.app = w.app := by
  intro o
  by_cases somewhere : ∃ l n, buf = some l ∧ outN = some n ∧ count ≤ (w.cells.buf l).length
  · obtain ⟨l, n, rfl, rfl, room⟩ := somewhere
    have stored := fun new => Arena.get_put_same (w := new) live
    have kept := related c.conn ((w.cells.buf l).take count)
    rcases done : read c.conn ((w.cells.buf l).take count) with ⟨r, filled, conn'⟩
    rw [done] at kept
    cases r with
    | ok k =>
      rw [show o = _ from readPlaintext_read live room done]
      exact ⟨⟨_, stored _, kept⟩, rfl⟩
    | err e =>
      rw [show o = _ from readPlaintext_failed live room done]
      exact ⟨⟨_, stored _, kept⟩, rfl⟩
    | panic =>
      rw [show o = _ from readPlaintext_panicked live room done]
      exact ⟨⟨_, stored _, kept⟩, rfl⟩
  · rw [show o.2 = w from (readPlaintext_nowhere read live somewhere).2]
    exact ⟨⟨c, live, refl c.conn⟩, rfl⟩

end

def rustlsConnectionRead (R : Rustls Conn S) (conn buf : Ptr) (count : Nat) (outN : Ptr) :
    Api Conn S RustlsResult :=
  readPlaintext R.readerRead conn buf count outN

def rustlsConnectionRead2 (R : Rustls Conn S) (conn buf : Ptr) (count : Nat) (outN : Ptr) :
    Api Conn S RustlsResult :=
  readPlaintext R.readerReadBuf conn buf count outN

def rustlsConnectionFree (conn : Ptr) : Api Conn S Unit :=
  ffiPanicBoundary do
    let (a, c) ← tryFromPtr World.conns conn
    .modify fun w => ({ w with conns := Arena.free w.conns a } : World Conn S).dropArcs c.refs

end RustlsFfi
