import RustlsFfi.Demo.Copy
import RustlsFfi.Demo.Parse

/-!
# The calls of a conversation

What each call that the two programs make does to a connection and to the buffer of what was read from it. The
programs read alike: they take bytes in, process them and copy the plaintext.
-/

namespace RustlsFfi.Demo
open Code Memory Plaintext Outgoing EndToEnd Duplex

variable {Peer Conn S ρ : Type}

/-- What `do_read` of both programs does with the bytes that came in. After a clean close the peer must not send
anything more. -/
def processAndCopy (R : Rustls Conn S) (os : Os S) (fuel : Nat) (conn : ConnData) :
    Code (Process Conn S) DemoResult DemoResult := do
  if (← ffi (rustlsConnectionProcessNewPackets R.processNewPackets conn.rconn)) ≠ .ok then Code.ret .error
  else
    let result ← Code.call (copyPlaintextToBuffer R os fuel conn)
    if result ≠ .eof then Code.ret result
    else match ← sys (os.read conn.fd) with
      | .ok n => if n.1 > 0 then Code.ret .error else pure .eof
      | .error e => if e.1 ≠ EWOULDBLOCK then Code.ret .error else pure .eof

def wantsNeither (R : Rustls Conn S) (conn : ConnData) : Code (Process Conn S) ρ Bool := do
  if ← ffi (rustlsConnectionWantsRead R conn.rconn) then pure false
  else
    let wantsWrite ← ffi (rustlsConnectionWantsWrite R conn.rconn)
    pure (!wantsWrite)

/-- The head of a round of both programs: none if rustls wants nothing, or what `select` says of the socket, for reading and
for writing. -/
def await (R : Rustls Conn S) (os : Os S) (conn : ConnData) :
    Code (Process Conn S) ρ (Option (Except Errno (Bool × Bool))) := do
  let wantsRead ← ffi (rustlsConnectionWantsRead R conn.rconn)
  let wantsWrite ← ffi (rustlsConnectionWantsWrite R conn.rconn)
  if ← wantsNeither R conn then pure none
  else match ← sys (os.select conn.fd wantsRead wantsWrite) with
    | .error e => pure (some (.error e))
    | .ok (readable, writeable) => pure (some (.ok (readable && wantsRead, writeable && wantsWrite)))

/-! ### Invariants -/

/-- The process when a call has ended. -/
def Process.after {τ : Type} (p : Process Conn S) (f : Api Conn S τ) : Process Conn S := { p with world := (f p.world).2 }

/-- After the call `I` holds. Where `defined` holds the call returns. -/
def Calls {τ : Type} (defined : Prop) (I : Process Conn S → Prop) (f : Api Conn S τ) (p : Process Conn S) : Prop :=
  I (p.after f) ∧ (defined → (f p.world).1.value? ≠ none)

/-- `I` holds whatever the system does, whatever is in the buffer, and after each of the calls that move bytes over the
connection. -/
structure Invariant (defined : Prop) (R : Rustls Conn S) (conn : ConnData) (I : Process Conn S → Prop) : Prop where
  sys : ∀ p s, I p → I { p with world.app := s }
  data : ∀ p vec, I p → I { p with data := vec }
  cells : ∀ p c, I p → I { p with world.cells := c }
  write : ∀ p buf n, n ≤ buf.length → I p →
    Calls defined I (rustlsConnectionWrite R conn.rconn (some buf) n (some nAt)) p
  readTls : ∀ p cb, I p → Calls defined I (rustlsConnectionReadTls R conn.rconn (some cb) conn.self (some nAt)) p
  process : ∀ p, I p → Calls defined I (rustlsConnectionProcessNewPackets R.processNewPackets conn.rconn) p
  read : ∀ p, I p → Calls defined I (rustlsConnectionRead R conn.rconn (some bufAt) (p.data.capacity - p.data.len)
    (some nAt)) { p with world := lend p.data.writeable p.world }
  wantsRead : ∀ p, I p → Calls defined I (rustlsConnectionWantsRead R conn.rconn) p
  wantsWrite : ∀ p, I p → Calls defined I (rustlsConnectionWantsWrite R conn.rconn) p
  writeTls : ∀ p cb, I p → Calls defined I (rustlsConnectionWriteTls R conn.rconn (some cb) conn.self (some nAt)) p
  writeTlsVectored : ∀ p cb, I p →
    Calls defined I (rustlsConnectionWriteTlsVectored R conn.rconn (some cb) conn.self (some nAt)) p
  getAlpn : ∀ p out len, I p → Calls defined I (rustlsConnectionGetAlpnProtocol R conn.rconn (some out) (some len)) p

section
variable {defined : Prop} {I : Process Conn S → Prop}

theorem Calls.keeps {τ : Type} {f : Api Conn S τ} {p : Process Conn S} (calls : Calls defined I f p) :
    Keeps defined I (ffi f p : Exit ρ τ × _) := by
  obtain ⟨after, returns⟩ := calls
  unfold Process.after at after
  unfold ffi
  rcases ended : f p.world with ⟨r | r | e, w⟩ <;> rw [ended] at after returns
  · exact keeps_next after
  · exact keeps_next after
  · exact ⟨after, fun sure => absurd rfl (returns sure)⟩

theorem ffi_preserves {τ : Type} {f : Api Conn S τ} (calls : ∀ p, I p → Calls defined I f p) :
    Preserves defined I (ffi f : Code (Process Conn S) ρ τ) :=
  fun p before => (calls p before).keeps

theorem loadN_preserves : Preserves defined I (loadN : Code (Process Conn S) ρ Nat) :=
  preserves_next fun _ before => ⟨_, _, rfl, before⟩

end

section
variable {defined : Prop} {R : Rustls Conn S} {os : Os S} {fuel : Nat} {conn : ConnData} {I : Process Conn S → Prop}
  (invariant : Invariant defined R conn I)
include invariant

theorem sys_preserves {τ : Type} (f : S → τ × S) : Preserves defined I (sys f : Code (Process Conn S) ρ τ) :=
  preserves_next fun p before => ⟨_, _, rfl, invariant.sys p _ before⟩

theorem consume_preserves (n : Nat) : Preserves defined I (bytevecConsume n : Code (Process Conn S) ρ Unit) := by
  intro p before
  unfold bytevecConsume
  split
  · exact keeps_next (invariant.data p _ before)
  · exact keeps_fault before

theorem ensureAvailable_preserves (n : Nat) :
    Preserves defined I (bytevecEnsureAvailable os n : Code (Process Conn S) DemoResult DemoResult) := by
  intro p before
  unfold bytevecEnsureAvailable
  split
  · rcases os.alloc (newSize p.data n) p.world.app with ⟨_ | _, s⟩
    · exact keeps_ret (invariant.sys p s before)
    · dsimp only
      split
      · exact keeps_next (invariant.data _ _ (invariant.sys p s before))
      · exact keeps_fault (invariant.sys p s before)
  · exact keeps_next before

theorem readWriteable_preserves :
    Preserves defined I (readWriteable R conn.rconn : Code (Process Conn S) ρ RustlsResult) := by
  intro p before
  show Keeps defined I ((ffi _ >>= fun result => Code.modify _ >>= fun _ => pure result) { p with world := _ })
  exact keeps_bind (invariant.read p before).keeps fun _ =>
    preserves_bind (preserves_modify fun q => invariant.data q _) fun _ => preserves_pure _

theorem copyRound_preserves : Preserves defined I (copyRound R os conn) := by
  refine preserves_bind (readWriteable_preserves invariant) fun _ => preserves_ite (preserves_ret _) ?_
  refine preserves_ite (preserves_ret _) (preserves_bind loadN_preserves fun n => preserves_ite (preserves_ret _) ?_)
  refine preserves_bind (consume_preserves invariant n) fun _ => ?_
  refine preserves_bind (preserves_call (ensureAvailable_preserves invariant 1024)) fun _ => ?_
  exact preserves_ite (preserves_ret _) (preserves_pure _)

theorem copyPlaintextToBuffer_preserves : Preserves defined I (copyPlaintextToBuffer R os fuel conn) := by
  refine preserves_bind (preserves_call (ensureAvailable_preserves invariant 1024)) fun _ => ?_
  exact preserves_ite (preserves_ret _) (preserves_loop (fun _ => copyRound_preserves invariant) fuel ())

theorem processAndCopy_preserves : Preserves defined I (processAndCopy R os fuel conn) := by
  refine preserves_bind (ffi_preserves invariant.process) fun _ => preserves_ite (preserves_ret _) ?_
  refine preserves_bind (preserves_call (copyPlaintextToBuffer_preserves invariant)) fun _ =>
    preserves_ite (preserves_ret _) ?_
  refine preserves_bind (sys_preserves invariant _) ?_
  rintro (_ | _) <;> exact preserves_ite (preserves_ret _) (preserves_pure _)

theorem wantsNeither_preserves : Preserves defined I (wantsNeither R conn : Code (Process Conn S) ρ Bool) :=
  preserves_bind (ffi_preserves invariant.wantsRead) fun _ =>
    preserves_ite (preserves_pure _) (preserves_bind (ffi_preserves invariant.wantsWrite) fun _ => preserves_pure _)

theorem await_preserves : Preserves defined I (await R os conn : Code (Process Conn S) ρ _) := by
  refine preserves_bind (ffi_preserves invariant.wantsRead) fun _ => ?_
  refine preserves_bind (ffi_preserves invariant.wantsWrite) fun _ => ?_
  refine preserves_bind (wantsNeither_preserves invariant) fun _ => preserves_ite (preserves_pure _) ?_
  refine preserves_bind (sys_preserves invariant _) ?_
  rintro (_ | _) <;> exact preserves_pure _

theorem writeTls_preserves : Preserves defined I (writeTls R os conn : Code (Process Conn S) ρ RustlsIoResult) :=
  preserves_ite (ffi_preserves fun p => invariant.writeTlsVectored p _) (ffi_preserves fun p => invariant.writeTls p _)

end

/-- No call changes what has been written to standard output. -/
theorem stdout_invariant (R : Rustls Conn S) (conn : ConnData) (out : Bytes) :
    Invariant False R conn fun p => p.stdout = out := by
  have calls {τ : Type} (f : Api Conn S τ) {p : Process Conn S} (same : p.stdout = out) :
      Calls False (fun p => p.stdout = out) f p := ⟨same, False.elim⟩
  exact ⟨fun _ _ => id, fun _ _ => id, fun _ _ => id, fun _ _ _ _ => calls _, fun _ _ => calls _, fun _ => calls _,
    fun _ same => calls _ same, fun _ => calls _, fun _ => calls _,
    fun _ _ => calls _, fun _ _ => calls _, fun _ _ _ => calls _⟩

/-! ### A conversation -/

/-- Between two calls: besides, there is room to search in the buffer, and all that came in has been decrypted. -/
structure Talking (P : Party Peer Conn S) (g : Record Conn) (p : Process Conn S) : Prop extends Reading P g p where
  roomy : p.data.Roomy
  whole : g.history.decrypted = P.incoming.opens (P.got p.world.app)

section
variable {R : Rustls Conn S} {P : Party Peer Conn S} {os : Os S} {conn : ConnData} {g : Record Conn}
  {p : Process Conn S}

theorem Begins.talking {c : Connection Conn} (begins : Begins P c p) : Talking P { conn := c } p where
  toReading := begins.reading
  roomy := .inl begins.empty
  whole := by rw [begins.got, begins.nothing]

/-! ### System calls and questions -/

theorem sys_run {τ : Type} {f : S → τ × S} {r : τ} {s : S} (called : f p.world.app = (r, s)) :
    (sys f : Code (Process Conn S) ρ τ) p = (.next r, { p with world.app := s }) := by
  rw [sys, called]

theorem Talking.sys (talking : Talking P g p) {s : S} (still : P.Still p.world.app s) :
    Talking P g { p with world.app := s } where
  toReading := talking.untouched ⟨rfl, still, rfl⟩
  roomy := talking.roomy
  whole := by
    rw [show P.got s = P.got p.world.app from still.1.2]
    exact talking.whole

theorem Talking.apart (talking : Talking P g p) {w : World Conn S} (conns : w.conns = p.world.conns)
    (app : w.app = p.world.app) : Talking P g { p with world := w } where
  toReading := talking.untouched ⟨conns, by rw [app]; exact ⟨⟨rfl, rfl⟩, rfl⟩, rfl⟩
  roomy := talking.roomy
  whole := by
    rw [app]
    exact talking.whole

/-- The program's own variables are not about the session. -/
theorem Talking.cells (talking : Talking P g p) (cells : Cells) : Talking P g { p with world.cells := cells } :=
  talking.apart (w := { p.world with cells := cells }) rfl rfl

theorem askConn_bool {f : Conn → Option Bool} {w : World Conn S} {a : Addr} {c : Connection Conn}
    (live : Arena.get w.conns a = some c) :
    askConn (some a) (fun c => mayPanic (f c.conn)) w = (.returned ((f c.conn).getD false), w) := by
  cases answer : f c.conn <;>
    simp [askConn, Control.ffiPanicBoundary, Control.bind_run, tryFromPtr_live live, mayPanic, answer,
      Control.PanicOrDefault.panicValue]

theorem wp_wantsRead {Q : Post (Process Conn S) ρ Bool} (reading : Reading P g p) (named : conn.rconn = some P.rconn) :
    wp (ffi (rustlsConnectionWantsRead R conn.rconn)) Q p ↔ Q.next ((R.wantsRead g.conn.conn).getD false) p := by
  have asked := askConn_bool (f := R.wantsRead) reading.converses.live
  rw [named, rustlsConnectionWantsRead, wp_ffi (congrArg Prod.fst asked), asked]

theorem wp_wantsWrite {Q : Post (Process Conn S) ρ Bool} (reading : Reading P g p) (named : conn.rconn = some P.rconn) :
    wp (ffi (rustlsConnectionWantsWrite R conn.rconn)) Q p ↔ Q.next ((R.wantsWrite g.conn.conn).getD false) p := by
  have asked := askConn_bool (f := R.wantsWrite) reading.converses.live
  rw [named, rustlsConnectionWantsWrite, wp_ffi (congrArg Prod.fst asked), asked]

theorem wantsNeither_spec (reading : Reading P g p) (named : conn.rconn = some P.rconn) :
    wp (wantsNeither R conn : Code (Process Conn S) ρ Bool)
      ⟨fun neither p' => p' = p ∧
          (neither = true → R.wantsRead g.conn.conn ≠ some true ∧ R.wantsWrite g.conn.conn ≠ some true),
        fun _ _ => False, fun _ => False, fun _ => False⟩ p := by
  refine wp_bind.mpr ((wp_wantsRead reading named).mpr ?_)
  refine wp_ite.mpr ⟨fun _ => ⟨rfl, nofun⟩, fun idle => ?_⟩
  refine wp_bind.mpr ((wp_wantsWrite reading named).mpr ⟨rfl, fun quiet => ⟨?_, ?_⟩⟩)
  · intro reads
    simp [reads] at idle
  · intro writes
    simp [writes] at quiet

/-- Rustls has nothing to read or to write over the connection. -/
def Idle (R : Rustls Conn S) (conn : Conn) : Prop := R.wantsRead conn ≠ some true ∧ R.wantsWrite conn ≠ some true

theorem await_spec (serves : os.Serves P conn.fd) (talking : Talking P g p) (named : conn.rconn = some P.rconn) :
    wp (await R os conn : Code (Process Conn S) ρ _)
      ⟨fun ready p' => Talking P g p' ∧ (ready = none → Idle R g.conn.conn), fun _ _ => False, fun _ => False,
        fun _ => False⟩ p := by
  have reading := talking.toReading
  refine wp_bind.mpr ((wp_wantsRead reading named).mpr (wp_bind.mpr ((wp_wantsWrite reading named).mpr ?_)))
  refine wp_seq (wantsNeither_spec reading named) ?_ (fun _ _ => False.elim) (fun _ => False.elim) (fun _ => False.elim)
  rintro neither q ⟨rfl, idle⟩
  refine wp_ite.mpr ⟨fun none => ⟨talking, fun _ => idle none⟩, fun _ => ?_⟩
  have still := serves.select ((R.wantsRead g.conn.conn).getD false) ((R.wantsWrite g.conn.conn).getD false) q.world.app
  rcases called : os.select conn.fd ((R.wantsRead g.conn.conn).getD false) ((R.wantsWrite g.conn.conn).getD false)
    q.world.app with ⟨e | ⟨readable, writeable⟩, s⟩ <;> rw [called] at still <;> refine wp_then (sys_run called) ?_
  · exact ⟨talking.sys still, fun none => nomatch none⟩
  · exact ⟨talking.sys still, fun none => nomatch none⟩

/-! ### Writing -/

/-- What `rustls_connection_write` says it has taken of `buf`. -/
def taken (buf : Bytes) (r : RustlsResult) (p : Process Conn S) : Bytes :=
  if r = .ok then buf.take (p.world.cells.size nAt) else []

theorem taken_initial (buf : Bytes) (r : RustlsResult) (p : Process Conn S) : taken buf r p <+: buf := by
  unfold taken
  split
  · exact List.take_prefix _ _
  · exact List.nil_prefix

theorem write_returned {w : World Conn S} {a : Addr} {c : Connection Conn} (live : Arena.get w.conns a = some c)
    {buf : Bytes} {count : Nat} (room : count ≤ buf.length) (n : Addr) :
    ∃ r, (rustlsConnectionWrite R (some a) (some buf) count (some n) w).1 = .returned r ∧
      (r ≠ .ok → (rustlsConnectionWrite R (some a) (some buf) count (some n) w).2.cells = w.cells) := by
  have slice : (trySlice (some buf) count : Body Conn S RustlsResult Bytes) w = (.next (buf.take count), w) := by
    simp [trySlice, fromRawParts, room]
  rcases wrote : R.writerWrite c.conn (buf.take count) with ⟨_ | _ | _, conn'⟩ <;>
    simp [rustlsConnectionWrite, Control.ffiPanicBoundary, Control.bind_run, tryFromPtr_live live, slice, rejectIfNull,
      callPure, Control.Ffi.call, okOr, wrote, writeSize, World.putConn]

theorem write_talking (library : Speaks R P.toSession) (talking : Talking P g p) (named : conn.rconn = some P.rconn)
    {buf : Bytes} {count : Nat} (room : count ≤ buf.length) :
    wp (ffi (rustlsConnectionWrite R conn.rconn (some buf) count (some nAt)) : Code (Process Conn S) ρ _)
      ⟨fun r p' => (r ≠ .ok → p'.world.cells = p.world.cells) ∧
          ∃ c, Talking P { g with conn := c, written := g.written ++ taken (buf.take count) r p' } p',
        fun _ _ => False, fun _ => False, fun _ => False⟩ p := by
  obtain ⟨c, converses⟩ := write_converses library talking.converses (some buf) count (some nAt)
  have app := write_app R talking.converses.live (some buf) count (some nAt)
  obtain ⟨r, returned, cells⟩ := write_returned (R := R) talking.converses.live room nAt
  have told : reported (some buf) count (some nAt) (rustlsConnectionWrite R (some P.rconn) (some buf) count (some nAt)
      p.world) = taken (buf.take count) r { p with world := (rustlsConnectionWrite R (some P.rconn) (some buf) count
        (some nAt) p.world).2 } := by
    unfold reported taken
    rw [returned]
    by_cases ok : r = .ok
    · rw [ok, if_pos rfl]
    · rw [if_neg ok]
      split
      · rename_i same _ _
        exact absurd (Control.Outcome.returned.inj same) ok
      · rfl
  rw [named]
  refine (wp_ffi returned).mpr ⟨cells, c, ⟨?_, talking.contents⟩, talking.roomy, ?_⟩
  · rw [← told]
    exact converses
  · exact talking.whole.trans (congrArg (fun s => P.incoming.opens (P.got s)) app.symm)

theorem writeTls_talking (library : Speaks R P.toSession) (talking : Talking P g p) {call : SendCall S}
    (honest : call.Honest P.sent) (writes : P.OnlyWrites call.writer) :
    wp (ffi (call.exec R (some P.rconn) (some nAt)) : Code (Process Conn S) ρ _)
      ⟨fun _ p' => ∃ c, Talking P { g with conn := c } p', fun _ _ => False, fun _ => False, fun _ => False⟩ p := by
  obtain ⟨c, converses, kept⟩ := send_converses library talking.converses honest writes nAt
  obtain ⟨-, r, returned⟩ := exec_app (R := R) talking.converses.live call nAt
  refine (wp_ffi returned).mpr ⟨c, ⟨converses, talking.contents⟩, talking.roomy, ?_⟩
  exact talking.whole.trans (congrArg P.incoming.opens kept.2.symm)

theorem writeCb_honest (serves : os.Serves P conn.fd) : SendCall.Honest P.sent (.writeTls (writeCb os conn) conn.self) := by
  intro queue s
  obtain ⟨-, sent⟩ := serves.send (firstNonEmpty (queue.take 64)) s
  rcases called : os.send conn.fd (firstNonEmpty (queue.take 64)) s with ⟨e | n, s'⟩ <;> rw [called] at sent
  · simpa [SendCall.reply, writeCb, called, e.2] using sent
  · simpa [SendCall.reply, SendCall.offered, writeCb, called, n.2] using sent

theorem writeVectoredCb_honest (serves : os.Serves P conn.fd) :
    SendCall.Honest P.sent (.writeTlsVectored (writeVectoredCb os conn) conn.self) := by
  intro queue s
  obtain ⟨-, sent⟩ := serves.writev (queue.take 64) s
  rcases called : os.writev conn.fd (queue.take 64) s with ⟨e | n, s'⟩ <;> rw [called] at sent
  · simpa [SendCall.reply, writeVectoredCb, called, e.2] using sent
  · have reply : SendCall.reply queue s (.writeTlsVectored (writeVectoredCb os conn) conn.self) = (⟨⟨0⟩, n⟩, s') := by
      simp [SendCall.reply, writeVectoredCb, called]
    rw [reply, if_pos rfl]
    exact ⟨n.2, sent⟩

theorem writeCb_kept (serves : os.Serves P conn.fd) (buf : Bytes) (s : S) :
    P.Kept s (CallbackWriter.write ⟨writeCb os conn, conn.self⟩ buf s).2 := by
  have kept := (serves.send buf s).1
  rcases called : os.send conn.fd buf s with ⟨e | n, s'⟩ <;> rw [called] at kept <;>
    simpa [CallbackWriter.write, writeCb, called] using kept

theorem writeVectoredCb_kept (serves : os.Serves P conn.fd) (bufs : List Bytes) (s : S) :
    P.Kept s (VectoredCallbackWriter.writeVectored ⟨writeVectoredCb os conn, conn.self⟩ bufs s).2 := by
  have kept := (serves.writev bufs s).1
  rcases called : os.writev conn.fd bufs s with ⟨e | n, s'⟩ <;> rw [called] at kept <;>
    simpa [VectoredCallbackWriter.writeVectored, writeVectoredCb, called] using kept

theorem demoWriteTls_talking (library : Speaks R P.toSession) (serves : os.Serves P conn.fd) (talking : Talking P g p)
    (named : conn.rconn = some P.rconn) :
    wp (writeTls R os conn : Code (Process Conn S) ρ _)
      ⟨fun _ p' => ∃ c, Talking P { g with conn := c } p', fun _ _ => False, fun _ => False, fun _ => False⟩ p := by
  unfold writeTls
  rw [named]
  by_cases vectored : os.vectoredIo
  · exact wp_pos vectored (writeTls_talking library talking (writeVectoredCb_honest serves)
      ⟨fun buf => writeVectoredCb_kept serves [buf], writeVectoredCb_kept serves⟩)
  · exact wp_neg vectored (writeTls_talking library talking (writeCb_honest serves)
      ⟨writeCb_kept serves, fun bufs => writeCb_kept serves (firstNonEmpty bufs)⟩)

/-! ### Reading -/

theorem readCb_honest (serves : os.Serves P conn.fd) : Honest P.view (readCb os conn) := by
  intro u buf s
  have report := serves.reports buf.length s
  rcases called : os.recv conn.fd buf.length s with ⟨e | bytes, s'⟩ <;> rw [called] at report <;> simp only [readCb, called]
  · exact ⟨fun zero => absurd zero e.2, report⟩
  · exact ⟨fun _ => bytes.2, report⟩

theorem readCb_carries (serves : os.Serves P conn.fd) : Carries P.got P.wire (readCb os conn) := by
  intro u buf s next
  obtain ⟨carried, got⟩ := serves.got buf.length s next
  rcases called : os.recv conn.fd buf.length s with ⟨e | bytes, s'⟩ <;> rw [called] at carried got
  · simpa [readCb, called, e.2] using got
  · simpa [readCb, called] using ⟨got, carried⟩

theorem readCb_mute (serves : os.Serves P conn.fd) (u : VoidPtr) (buf : Bytes) (s : S) :
    P.sent (readCb os conn u buf s).2.2 = P.sent s := by
  have sent := serves.recv buf.length s
  rcases called : os.recv conn.fd buf.length s with ⟨e | bytes, s'⟩ <;> rw [called] at sent <;>
    simpa [readCb, called] using sent

theorem readTls_talking (library : Speaks R P.toSession) (serves : os.Serves P conn.fd) (talking : Talking P g p)
    (named : conn.rconn = some P.rconn) :
    wp (ffi (rustlsConnectionReadTls R conn.rconn (some (readCb os conn)) conn.self (some nAt)) : Code (Process Conn S) ρ _)
      ⟨fun r p' => p'.data = p.data ∧ ∃ c h, h.delivered = g.history.delivered ∧
          Reading P { g with conn := c, history := h } p' ∧ (r.code ≠ 0 → Talking P { g with conn := c, history := h } p'),
        fun _ _ => False, fun _ => False, fun _ => False⟩ p := by
  have honest := readCb_honest serves
  have carries := readCb_carries serves
  obtain ⟨c, converses⟩ :=
    readTls_converses library talking.converses honest carries (readCb_mute serves) conn.self nAt
  obtain ⟨r, returned, failed⟩ := readTls_failure library.unseals talking.converses.live honest carries
    talking.converses.receiving.carried conn.self nAt
  rw [named]
  obtain ⟨decrypted, delivered⟩ := g.history.received_bytes (some nAt)
    (rustlsConnectionReadTls R (some P.rconn) (some (readCb os conn)) conn.self (some nAt) p.world)
  have contents := talking.contents.trans delivered.symm
  refine (wp_ffi returned).mpr ⟨rfl, c, _, delivered, ⟨converses, contents⟩, fun code => ?_⟩
  refine ⟨⟨converses, contents⟩, talking.roomy, ?_⟩
  exact (decrypted.trans talking.whole).trans (congrArg P.incoming.opens (failed code).symm)

theorem process_talking (library : Speaks R P.toSession) (reading : Reading P g p) (roomy : p.data.Roomy)
    (named : conn.rconn = some P.rconn) :
    wp (ffi (rustlsConnectionProcessNewPackets R.processNewPackets conn.rconn) : Code (Process Conn S) ρ _)
      ⟨fun r p' => ∃ c h, h.delivered = g.history.delivered ∧
          Reading P { g with conn := c, history := h } p' ∧
          (r = .ok → Talking P { g with conn := c, history := h } p'),
        fun _ _ => False, fun _ => False, fun _ => False⟩ p := by
  obtain ⟨c, h, converses, delivered, whole⟩ := process_converses library reading.converses
  obtain ⟨r, returned⟩ := processNewPackets_returns (f := R.processNewPackets) reading.converses.live
  have contents := reading.contents.trans delivered.symm
  rw [named]
  refine (wp_ffi returned).mpr ⟨c, h, delivered, ⟨converses, contents⟩, ?_⟩
  rintro rfl
  exact ⟨⟨converses, contents⟩, roomy, whole returned⟩

/-- Nothing was written in between, and what had been read is still there. -/
structure Since (g g' : Record Conn) : Prop where
  written : g'.written = g.written
  delivered : g.history.delivered <+: g'.history.delivered

theorem Since.trans {g g' g'' : Record Conn} (first : Since g g') (second : Since g' g'') : Since g g'' :=
  ⟨second.written.trans first.written, first.delivered.trans second.delivered⟩

/-- What holds at any moment: the buffer holds what was read since `g₀` and before. -/
def Underway (P : Party Peer Conn S) (g₀ : Record Conn) (p : Process Conn S) : Prop := ∃ g, Since g₀ g ∧ Reading P g p

theorem Progress.underway {g₀ : Record Conn} {p₀ : Process Conn S} (progress : Progress P g₀ p₀ g p) : Underway P g₀ p :=
  ⟨g, ⟨progress.written, progress.delivered⟩, progress.reading⟩

theorem Underway.since {g₀ : Record Conn} (since : Since g₀ g) (underway : Underway P g p) : Underway P g₀ p := by
  obtain ⟨g', later, reading⟩ := underway
  exact ⟨g', since.trans later, reading⟩

/-- The program was told that it has written `written`. -/
def Held (P : Party Peer Conn S) (written : Bytes) (p : Process Conn S) : Prop :=
  ∃ g, Reading P g p ∧ g.written = written

theorem Underway.held (underway : Underway P g p) : Held P g.written p := by
  obtain ⟨g', since, reading⟩ := underway
  exact ⟨g', reading, since.written⟩

/-- How reading ends. Unless it failed, all that came in is in the buffer. -/
def Read (P : Party Peer Conn S) (g₀ : Record Conn) (r : DemoResult) (p : Process Conn S) : Prop :=
  ∃ g, Since g₀ g ∧
    match r with
    | .ok => Talking P g p ∧ g.history.delivered = g.history.decrypted ∧ g.history.finished = false ∧
        ended ∉ P.view.reports p.world.app
    | .eof => Talking P g p ∧ g.history.delivered = g.history.decrypted ∧ g.history.finished = true
    | .again => Talking P g p
    | .error => Reading P g p

theorem Read.since {g₀ : Record Conn} {r : DemoResult} (since : Since g₀ g) (read : Read P g r p) : Read P g₀ r p := by
  obtain ⟨g', later, ends⟩ := read
  exact ⟨g', since.trans later, ends⟩

theorem Copied.read {p₀ : Process Conn S} {r : DemoResult} (talking : Talking P g p₀) (copied : Copied P os g p₀ r p) :
    Read P g r p := by
  obtain ⟨g', progress, ends⟩ := copied
  have whole : g'.history.decrypted = P.incoming.opens (P.got p.world.app) := by
    rw [progress.decrypted, talking.whole, progress.still.1.2]
  refine ⟨g', ⟨progress.written, progress.delivered⟩, ?_⟩
  cases r with
  | ok => exact ⟨⟨progress.reading, .inr ends.2.2.2, whole⟩, ends.1, ends.2.1, ends.2.2.1⟩
  | eof => exact ⟨⟨progress.reading, .inr ends.2.2, whole⟩, ends.1, ends.2.1⟩
  | again => exact ends.elim
  | error => exact progress.reading

theorem processAndCopy_spec (library : Speaks R P.toSession) (serves : os.Serves P conn.fd) (reading : Reading P g p)
    (roomy : p.data.Roomy) (named : conn.rconn = some P.rconn) (fuel : Nat) :
    wp (processAndCopy R os fuel conn) (.during (Read P g) (Underway P g)) p := by
  refine wp_seq (process_talking library reading roomy named) ?_ (fun _ _ => False.elim) (fun _ => False.elim)
    (fun _ => False.elim)
  rintro result p₁ ⟨c₁, h₁, delivered, reading₁, ok⟩
  have since : Since g { g with conn := c₁, history := h₁ } := ⟨rfl, by rw [delivered]⟩
  by_cases processed : result = .ok
  · refine wp_neg (not_not_intro processed) ?_
    refine wp_called (copyPlaintextToBuffer_spec library.draws serves.alloc reading₁ named
      (.inr fun _ _ => Progress.underway)) ?_ (fun _ => False.elim) (fun _ => Underway.since since)
    intro r p₂ copied
    have read := copied.read (ok processed)
    by_cases finished : r = .eof
    · subst finished
      obtain ⟨g₂, later, talking₂, all, finished⟩ := read
      have still := serves.read p₂.world.app
      rcases called : os.read conn.fd p₂.world.app with ⟨e | n, s⟩ <;> rw [called] at still <;>
        refine wp_neg (not_not_intro rfl) (wp_then (sys_run called) ?_)
      all_goals
        have after := talking₂.sys still
        exact wp_ite.mpr ⟨fun _ => ⟨g₂, since.trans later, after.toReading⟩,
          fun _ => ⟨g₂, since.trans later, after, all, finished⟩⟩
    · exact wp_pos finished (read.since since)
  · exact wp_pos processed ⟨_, since, reading₁⟩

end

end RustlsFfi.Demo
