import Mathlib.Logic.Relation
import RustlsFfi.Stream.Outgoing
import RustlsFfi.Stream.Plaintext

/-!
# From one end to the other

Two C programs, each with a connection, and a transport between them: plaintext goes in through
`rustls_connection_write` at one end and comes out of `rustls_connection_read` at the other. In between,
the bytes pass through four sets of callbacks and through rustls on both sides, in any order of calls.
-/

namespace RustlsFfi.EndToEnd
open Control Outgoing Plaintext

variable {C₁ C₂ S₁ S₂ : Type}

/-! ### What is assumed of rustls and of the transport -/

/-- What is seen of the connection at either end, and the plaintext that a TLS stream of this session
carries. -/
structure Channel (C₁ C₂ : Type) where
  /-- Plaintext that the sender has accepted. -/
  accepted : C₁ → Bytes
  chunks : C₁ → List Bytes
  /-- Every TLS byte that the sender has queued so far. -/
  produced : C₁ → Bytes
  /-- Every TLS byte that the receiver has taken in. -/
  received : C₂ → Bytes
  /-- Every byte of plaintext that the receiver has decrypted. -/
  opened : C₂ → Bytes
  opens : Bytes → Bytes
  opens_mono : ∀ {stream longer}, stream <+: longer → opens stream <+: opens longer

/-- The sender queues nothing that carries more than it has accepted, and `write_tls` moves bytes only. -/
structure Seals (R : Rustls C₁ S₁) (X : Channel C₁ C₂) : Prop where
  queue : SendsQueue R X.chunks
  writeTls : ∀ conn writer s r conn' s', R.writeTls conn writer s = (r, conn', s') →
    X.accepted conn' = X.accepted conn ∧ X.produced conn' = X.produced conn
  write : ∀ conn buf r conn', R.writerWrite conn buf = (r, conn') →
    X.accepted conn' = X.accepted conn ++ (match r with | .ok n => buf.take n | _ => []) ∧
    ∃ added, X.chunks conn' = X.chunks conn ++ added ∧ X.produced conn' = X.produced conn ++ added.flatten
  sealed : ∀ conn, X.opens (X.produced conn) <+: X.accepted conn

def Channel.Same (X : Channel C₁ C₂) (conn conn' : C₂) : Prop :=
  X.received conn' = X.received conn ∧ X.opened conn' = X.opened conn

/-- The receiver takes in what its reader stores, decrypts what the stream carries, all of it if
processing succeeds, and hands out what it has decrypted. -/
structure Unseals (R : Rustls C₂ S₂) (V : View C₂ S₂) (got : S₂ → Bytes) (X : Channel C₁ C₂) : Prop where
  decrypts : Decrypts R V
  readTls : ∀ conn (reader : Reader S₂) s, Bounded reader →
    (∃ e conn', R.readTls conn reader s = (.err e, conn', s) ∧ X.Same conn conn') ∨
    (∃ buf n buf' s' conn', reader buf s = (.ok n, buf', s') ∧ R.readTls conn reader s = (.ok n, conn', s') ∧
      X.received conn' = X.received conn ++ buf'.take n ∧ X.opened conn' = X.opened conn) ∨
    (∃ buf e buf' s' conn', reader buf s = (.error e, buf', s') ∧
      R.readTls conn reader s = (.err e, conn', s') ∧ X.Same conn conn')
  process : ∀ a w c c', Arena.get w.conns a = some c → Arena.get (R.processNewPackets a w).2.conns a = some c' →
    X.received c'.conn = X.received c.conn ∧
    X.opened c'.conn = X.opened c.conn ++ (V.plaintext c'.conn).drop (V.plaintext c.conn).length ∧
    X.opened c'.conn <+: X.opens (X.received c'.conn) ∧
    ((R.processNewPackets a w).1 = .ok () → X.opened c'.conn = X.opens (X.received c'.conn)) ∧
    got (R.processNewPackets a w).2.app = got w.app
  read : ∀ conn buf, X.Same conn (R.readerRead conn buf).2.2

/-- A read callback over a reliable transport: with `wire` the bytes sent so far, it hands over the next
of them. `got` is what the callbacks of this end have handed over. -/
def Carries (got : S₂ → Bytes) (wire : Bytes) (callback : ReadCallback S₂) : Prop :=
  ∀ u buf s, got s <+: wire →
    if (callback u buf s).1.result.code = 0 then
      got (callback u buf s).2.2 = got s ++ (callback u buf s).2.1.take (callback u buf s).1.outN ∧
        got (callback u buf s).2.2 <+: wire
    else got (callback u buf s).2.2 = got s

/-! ### Runs -/

/-- The two ends, what the sender's program was told it has written, and what the receiver's program
has read. -/
structure Link (C₁ C₂ S₁ S₂ : Type) where
  sender : World C₁ S₁
  receiver : World C₂ S₂
  written : Bytes
  history : History

/-- The bytes that `rustls_connection_write` reports as written. -/
def reported (buf : Option Bytes) (count : Nat) (outN : Ptr) (o : Outcome RustlsResult × World C₁ S₁) : Bytes :=
  match o.1, buf, outN with
  | .returned .ok, some bytes, some n => (bytes.take count).take (o.2.cells.size n)
  | _, _, _ => []

section
variable (R₁ : Rustls C₁ S₁) (R₂ : Rustls C₂ S₂) (V : View C₂ S₂) (X : Channel C₁ C₂)
  (sent : S₁ → Bytes) (got : S₂ → Bytes) (p q : Addr)

/-- A step of the receiver that is about something else leaves the stream alone. -/
def Apart : Plaintext.Step C₂ S₂ → Prop
  | .elsewhere f => ∀ w c, Arena.get w.conns q = some c →
    ∃ c', Arena.get (f w).conns q = some c' ∧ X.Same c.conn c'.conn ∧ got (f w).app = got w.app
  | _ => True

/-- The callback of a step that reads from the transport. -/
def Delivering (wire : Bytes) : Plaintext.Step C₂ S₂ → Prop
  | .readTls callback _ _ => Carries got wire callback
  | _ => True

/-- One call at one of the two ends. What else the sender does may queue TLS bytes, but accepts no
plaintext and sends nothing. -/
inductive Step (l : Link C₁ C₂ S₁ S₂) : Link C₁ C₂ S₁ S₂ → Prop
  | write (buf : Option Bytes) (count : Nat) (outN : Ptr) :
      Step l { l with
        sender := (rustlsConnectionWrite R₁ (some p) buf count outN l.sender).2
        written := l.written ++ reported buf count outN (rustlsConnectionWrite R₁ (some p) buf count outN l.sender) }
  | send (call : SendCall S₁) (outN : Ptr) (honest : call.Honest sent) :
      Step l { l with sender := (call.exec R₁ (some p) outN l.sender).2 }
  | works {c : Connection C₁} (w' : World C₁ S₁) (c' : Connection C₁) (before : Arena.get l.sender.conns p = some c)
      (after : Arena.get w'.conns p = some c') (added : List Bytes)
      (queued : X.chunks c'.conn = X.chunks c.conn ++ added)
      (produced : X.produced c'.conn = X.produced c.conn ++ added.flatten)
      (accepted : X.accepted c'.conn = X.accepted c.conn) (same : sent w'.app = sent l.sender.app) :
      Step l { l with sender := w' }
  | receive (step : Plaintext.Step C₂ S₂) (valid : step.Valid V q) (apart : Apart X got q step)
      (delivering : Delivering got (sent l.sender.app) step) :
      Step l { l with
        receiver := (advance R₂ V q (l.receiver, l.history) step).1
        history := (advance R₂ V q (l.receiver, l.history) step).2 }

/-! ### What every step keeps -/

/-- The sender's side: what it has queued is what has left and what is still there, and it has
accepted what its program was told. -/
structure Sending (w : World C₁ S₁) (written : Bytes) (c : Connection C₁) : Prop where
  live : Arena.get w.conns p = some c
  accepted : X.accepted c.conn = written
  produced : X.produced c.conn = sent w.app ++ (X.chunks c.conn).flatten

/-- The receiver's side: what it has taken in is what its callbacks handed over, the next bytes of what
the other end has sent. -/
structure Receiving (wire : Bytes) (w : World C₂ S₂) (h : History) (c : Connection C₂) : Prop where
  balanced : Balanced V q c w h
  received : X.received c.conn = got w.app
  decrypted : h.decrypted = X.opened c.conn
  opened : X.opened c.conn <+: X.opens (X.received c.conn)
  carried : got w.app <+: wire

end

section
variable {R₁ : Rustls C₁ S₁} {R₂ : Rustls C₂ S₂} {V : View C₂ S₂} {X : Channel C₁ C₂}
  {sent : S₁ → Bytes} {got : S₂ → Bytes} {p q : Addr}

section
variable {w : World C₁ S₁} {written : Bytes} {c : Connection C₁}

/-- A write that gets to rustls reports exactly what rustls has accepted. -/
theorem write_reported (R₁ : Rustls C₁ S₁) (live : Arena.get w.conns p = some c) {bytes : Bytes} {count : Nat}
    (room : count ≤ bytes.length) (n : Addr) :
    let done := R₁.writerWrite c.conn (bytes.take count)
    let o := rustlsConnectionWrite R₁ (some p) (some bytes) count (some n) w
    Arena.get o.2.conns p = some { c with conn := done.2 } ∧ o.2.app = w.app ∧
      reported (some bytes) count (some n) o = (match done.1 with | .ok k => (bytes.take count).take k | _ => []) := by
  intro done o
  have slice : (trySlice (some bytes) count : Body C₁ S₁ RustlsResult Bytes) w = (.next (bytes.take count), w) := by
    simp [trySlice, fromRawParts, room]
  have stored := Arena.get_put_same { c with conn := done.2 } live
  rcases result : done.1 with k | e | _
  all_goals
    simp [o, rustlsConnectionWrite, ffiPanicBoundary, bind_run, tryFromPtr_live live, slice, rejectIfNull,
      callPure, Ffi.call, result, done, okOr, writeSize, reported, World.putConn, stored]

theorem write_nowhere (R₁ : Rustls C₁ S₁) (live : Arena.get w.conns p = some c) {buf : Option Bytes} {count : Nat}
    {outN : Ptr} (nowhere : ¬ ∃ bytes n, buf = some bytes ∧ outN = some n ∧ count ≤ bytes.length) :
    let o := rustlsConnectionWrite R₁ (some p) buf count outN w
    o.2 = w ∧ reported buf count outN o = [] := by
  cases buf with
  | none => simp [rustlsConnectionWrite, ffiPanicBoundary, bind_run, tryFromPtr_live live, trySlice, rejectNull, reported]
  | some bytes =>
    by_cases room : count ≤ bytes.length
    · cases outN with
      | none =>
        simp [rustlsConnectionWrite, ffiPanicBoundary, bind_run, tryFromPtr_live live, trySlice, fromRawParts, room,
          rejectIfNull, reported]
      | some n => exact absurd ⟨bytes, n, rfl, rfl, room⟩ nowhere
    · simp [rustlsConnectionWrite, ffiPanicBoundary, bind_run, tryFromPtr_live live, trySlice, fromRawParts, room,
        reported]

theorem write_app (R₁ : Rustls C₁ S₁) (live : Arena.get w.conns p = some c) (buf : Option Bytes) (count : Nat)
    (outN : Ptr) :
    (rustlsConnectionWrite R₁ (some p) buf count outN w).2.app = w.app := by
  by_cases somewhere : ∃ bytes n, buf = some bytes ∧ outN = some n ∧ count ≤ bytes.length
  · obtain ⟨bytes, n, rfl, rfl, room⟩ := somewhere
    exact (write_reported R₁ live room n).2.1
  · rw [(write_nowhere R₁ live somewhere).1]

theorem write_sending (library : Seals R₁ X) (sending : Sending X sent p w written c) (buf : Option Bytes)
    (count : Nat) (outN : Ptr) :
    let o := rustlsConnectionWrite R₁ (some p) buf count outN w
    ∃ c', Sending X sent p o.2 (written ++ reported buf count outN o) c' := by
  intro o
  by_cases somewhere : ∃ bytes n, buf = some bytes ∧ outN = some n ∧ count ≤ bytes.length
  · obtain ⟨bytes, n, rfl, rfl, room⟩ := somewhere
    obtain ⟨live, app, told⟩ := write_reported R₁ sending.live room n
    obtain ⟨accepted, added, queued, produced⟩ :=
      library.write c.conn (bytes.take count) _ _ (Prod.mk.eta (p := R₁.writerWrite c.conn (bytes.take count))).symm
    refine ⟨_, live, ?_, ?_⟩
    · rw [told, accepted, sending.accepted]
    · rw [app, produced, queued, sending.produced, List.flatten_append, List.append_assoc]
  · obtain ⟨same, told⟩ := write_nowhere R₁ sending.live somewhere
    refine ⟨c, ?_⟩
    rw [told, List.append_nil, same]
    exact sending

/-- The connection after a call of a writing function is the one that rustls leaves. -/
theorem send_conn (R₁ : Rustls C₁ S₁) (live : Arena.get w.conns p = some c) (call : SendCall S₁) (l : Addr) :
    ∃ r conn' s', R₁.writeTls c.conn call.writer w.app = (r, conn', s') ∧
      Arena.get (call.exec R₁ (some p) (some l) w).2.conns p = some { c with conn := conn' } := by
  rcases wrote : R₁.writeTls c.conn call.writer w.app with ⟨r, conn', s'⟩
  refine ⟨r, conn', s', rfl, ?_⟩
  have stored := Arena.get_put_same { c with conn := conn' } live
  rw [exec_eq]
  cases r with
  | ok n =>
    rw [writeTls_sent live wrote]
    exact stored
  | err e =>
    rw [writeTls_failed live wrote]
    exact stored
  | panic =>
    simpa [writeTls, ffiPanicBoundary, bind_run, tryFromPtr_live live, rejectIfNull, tryRef, Ffi.call, onConn,
      wrote, World.putConn] using stored

theorem exec_nowhere (live : Arena.get w.conns p = some c) (call : SendCall S₁) :
    call.exec R₁ (some p) none w = (.rejected ⟨EINVAL⟩, w) := by
  rw [exec_eq]
  simp [writeTls, ffiPanicBoundary, bind_run, tryFromPtr_live live, rejectIfNull]

theorem send_sending (library : Seals R₁ X) (sending : Sending X sent p w written c) {call : SendCall S₁}
    (honest : call.Honest sent) (outN : Ptr) :
    ∃ c', Sending X sent p (call.exec R₁ (some p) outN w).2 written c' := by
  cases outN with
  | none =>
    rw [exec_nowhere sending.live]
    exact ⟨c, sending⟩
  | some l =>
    obtain ⟨c', live, delivers⟩ := exec_delivers library.queue honest l sending.live
    obtain ⟨r, conn', s', wrote, left⟩ := send_conn R₁ sending.live call l
    obtain rfl := Option.some.inj (live.symm.trans left)
    obtain ⟨accepted, produced⟩ := library.writeTls _ _ _ _ _ _ wrote
    refine ⟨_, live, accepted.trans sending.accepted, ?_⟩
    rw [produced, sending.produced]
    exact delivers.conserves.symm

end

section
variable {wire : Bytes} {w : World C₂ S₂} {h : History} {c : Connection C₂}

theorem Receiving.later (receiving : Receiving V X got q wire w h c) {longer : Bytes} (more : wire <+: longer) :
    Receiving V X got q longer w h c :=
  { receiving with carried := receiving.carried.trans more }

/-- A call that takes nothing in and decrypts nothing. -/
theorem Receiving.same {w' : World C₂ S₂} {h' : History} {c' : Connection C₂}
    (receiving : Receiving V X got q wire w h c) (balanced : Balanced V q c' w' h') (same : X.Same c.conn c'.conn)
    (decrypted : h'.decrypted = h.decrypted) (handed : got w'.app = got w.app) :
    Receiving V X got q wire w' h' c' where
  balanced := balanced
  received := by rw [same.1, handed, receiving.received]
  decrypted := by rw [decrypted, same.2, receiving.decrypted]
  opened := by
    rw [same.1, same.2]
    exact receiving.opened
  carried := by
    rw [handed]
    exact receiving.carried

theorem Carries.handed {callback : ReadCallback S₂} (carries : Carries got wire callback) {u : VoidPtr}
    {buf buf' : Bytes} {s s' : S₂} {n : Nat} (next : got s <+: wire)
    (called : CallbackReader.read ⟨callback, u⟩ buf s = (.ok n, buf', s')) :
    got s' = got s ++ buf'.take n ∧ got s' <+: wire := by
  have moved := carries u buf s next
  rcases reply : callback u buf s with ⟨out, filled, t⟩
  rw [reply] at moved
  simp only [CallbackReader.read, reply, Prod.mk.injEq] at called
  obtain ⟨read, rfl, rfl⟩ := called
  obtain rfl := IoReturn.toResult_ok read
  simpa using moved

theorem Carries.nothing {callback : ReadCallback S₂} (carries : Carries got wire callback) {u : VoidPtr}
    {buf buf' : Bytes} {s s' : S₂} {e : IoError} (next : got s <+: wire)
    (called : CallbackReader.read ⟨callback, u⟩ buf s = (.error e, buf', s')) : got s' = got s := by
  have moved := carries u buf s next
  rcases reply : callback u buf s with ⟨out, filled, t⟩
  rw [reply] at moved
  simp only [CallbackReader.read, reply, Prod.mk.injEq] at called
  obtain ⟨failed, rfl, rfl⟩ := called
  obtain ⟨nonzero, -⟩ := IoReturn.toResult_error failed
  simpa [nonzero] using moved

/-- What the callback hands over is what the connection takes in. -/
theorem readTls_receiving (library : Unseals R₂ V got X) (receiving : Receiving V X got q wire w h c)
    {callback : ReadCallback S₂} (honest : Honest V callback) (carries : Carries got wire callback)
    (userdata : VoidPtr) (l : Addr) :
    let o := rustlsConnectionReadTls R₂ (some q) (some callback) userdata (some l) w
    ∃ c', Receiving V X got q wire o.2 (h.received (some l) o) c' := by
  intro o
  have live := receiving.balanced.live
  have decrypted := (h.received_bytes (some l) o).1
  obtain ⟨c', balanced⟩ := readTls_balanced library.decrypts receiving.balanced honest userdata l
  obtain ⟨left, app⟩ := readTls_conn (R := R₂) live callback userdata l
  have found := Option.some.inj (left.symm.trans balanced.live)
  refine ⟨c', ?_⟩
  rcases library.readTls c.conn (CallbackReader.read ⟨callback, userdata⟩) w.app (honest.bounded userdata) with
    ⟨e, conn', refused, same⟩ | ⟨buf, n, buf', s', conn', called, took, received, opened⟩ |
    ⟨buf, e, buf', s', conn', called, failed, same⟩
  · rw [refused] at app found
    subst found
    exact receiving.same balanced same decrypted (congrArg got app)
  · obtain ⟨handed, carried⟩ := carries.handed receiving.carried called
    rw [took] at app found
    subst found
    refine ⟨balanced, ?_, ?_, ?_, ?_⟩
    · rw [received, receiving.received, app, handed]
    · rw [opened, decrypted, receiving.decrypted]
    · have longer : X.received c.conn <+: X.received conn' := by
        rw [received]
        exact List.prefix_append _ _
      rw [opened]
      exact receiving.opened.trans (X.opens_mono longer)
    · rw [app]
      exact carried
  · have handed := carries.nothing receiving.carried called
    rw [failed] at app found
    subst found
    exact receiving.same balanced same decrypted ((congrArg got app).trans handed)

theorem read_receiving {read : C₂ → Bytes → Res IoError Nat × Bytes × C₂} (hands : Hands V read)
    (same : ∀ conn buf, X.Same conn (read conn buf).2.2) (receiving : Receiving V X got q wire w h c)
    (buf : Ptr) {count : Nat} (positive : 0 < count) (outN : Ptr) :
    let o := readPlaintext read (some q) buf count outN w
    ∃ c', Receiving V X got q wire o.2 (h.read buf outN o) c' := by
  intro o
  obtain ⟨c', balanced⟩ := readPlaintext_balanced hands receiving.balanced buf outN positive
  obtain ⟨⟨c'', live, kept⟩, app⟩ := readPlaintext_conn (fun _ => ⟨rfl, rfl⟩) same receiving.balanced.live buf count outN
  obtain rfl := Option.some.inj (live.symm.trans balanced.live)
  refine ⟨c'', receiving.same balanced kept (h.read_decrypted buf outN _) ?_⟩
  rw [app]

theorem Unseals.readBuf (library : Unseals R₂ V got X) (conn : C₂) (buf : Bytes) :
    X.Same conn (R₂.readerReadBuf conn buf).2.2 := by
  rw [(library.decrypts.readBuf conn buf).2.1]
  exact library.read conn buf

/-- The call reports success only if rustls does. -/
theorem processNewPackets_ok {f : Addr → World C₂ S₂ → Res Error Unit × World C₂ S₂}
    (live : Arena.get w.conns q = some c)
    (processed : (rustlsConnectionProcessNewPackets f (some q) w).1 = .returned .ok) :
    w.userdata.Usable ∧ (f q (w.enter c)).1 = .ok () := by
  by_cases usable : w.userdata.Usable
  · refine ⟨usable, ?_⟩
    have entered : (pushUserdata c.userdata c.logCallback : Body C₂ S₂ RustlsResult _) w =
        (.next (.ok (.new c.userdata)), w.enter c) := pushUserdata_usable usable
    rcases ended : f q (w.enter c) with ⟨_ | e | _, t⟩
    · rfl
    · rcases popped : (UserdataGuard.new c.userdata).tryDrop t.userdata with ⟨_ | _, k⟩ <;>
        simp [rustlsConnectionProcessNewPackets, ffiPanicBoundary, bind_run, tryFromPtr_live live, entered, ended,
          popped, Ffi.inScope, Ffi.call, okOr, tryDropGuard, mapError_ne_ok] at processed
    · simp [rustlsConnectionProcessNewPackets, ffiPanicBoundary, bind_run, tryFromPtr_live live, entered, ended,
        Ffi.inScope, Ffi.call, okOr, PanicOrDefault.panicValue] at processed
  · obtain ⟨e, refused⟩ := userdataPush_unusable usable c.userdata c.logCallback
    simp [rustlsConnectionProcessNewPackets, ffiPanicBoundary, bind_run, tryFromPtr_live live, pushUserdata, refused,
      okOr] at processed

theorem process_receiving (library : Unseals R₂ V got X) (receiving : Receiving V X got q wire w h c) :
    let w' := (rustlsConnectionProcessNewPackets R₂.processNewPackets (some q) w).2
    ∃ c', Receiving V X got q wire w' (h.processed V (Arena.get w.conns q) (Arena.get w'.conns q)) c' := by
  intro w'
  obtain ⟨c', balanced⟩ := process_balanced library.decrypts receiving.balanced
  have live := receiving.balanced.live
  have live' : Arena.get w'.conns q = some c' := balanced.live
  refine ⟨c', ?_⟩
  by_cases usable : w.userdata.Usable
  · obtain ⟨k, entered⟩ := processNewPackets_entered (f := R₂.processNewPackets) usable live
    have after : w' = { (R₂.processNewPackets q (w.enter c)).2 with userdata := k } := entered
    have found : Arena.get (R₂.processNewPackets q (w.enter c)).2.conns q = some c' := by
      rw [← live', after]
    obtain ⟨received, opened, carried, -, handed⟩ := library.process q (w.enter c) c c' live found
    refine ⟨balanced, ?_, ?_, carried, ?_⟩
    · rw [received, receiving.received, after]
      exact handed.symm
    · rw [live, live', opened, ← receiving.decrypted]
      rfl
    · rw [after]
      exact handed ▸ receiving.carried
  · have same : w' = w := processNewPackets_refused usable
    have unmoved : c = c' := Option.some.inj (live.symm.trans (same ▸ live'))
    subst unmoved
    refine receiving.same balanced ⟨rfl, rfl⟩ ?_ (by rw [same])
    rw [live, live']
    simp [History.processed]

theorem advance_receiving (library : Unseals R₂ V got X) (receiving : Receiving V X got q wire w h c)
    {step : Plaintext.Step C₂ S₂} (valid : step.Valid V q) (apart : Apart X got q step)
    (delivering : Delivering got wire step) :
    ∃ c', Receiving V X got q wire (advance R₂ V q (w, h) step).1 (advance R₂ V q (w, h) step).2 c' := by
  cases step with
  | readTls callback userdata outN =>
    cases outN with
    | none =>
      rw [advance, readTls_nowhere receiving.balanced.live]
      exact ⟨c, receiving⟩
    | some l => exact readTls_receiving library receiving valid delivering userdata l
  | processNewPackets => exact process_receiving library receiving
  | read buf count outN => exact read_receiving library.decrypts.read library.read receiving buf valid outN
  | read2 buf count outN => exact read_receiving library.decrypts.handsBuf library.readBuf receiving buf valid outN
  | elsewhere f =>
    obtain ⟨c', live, unread, -⟩ := valid w c receiving.balanced.live
    obtain ⟨c'', live', same, handed⟩ := apart w c receiving.balanced.live
    obtain rfl := Option.some.inj (live.symm.trans live')
    exact ⟨c', receiving.same (receiving.balanced.same c' live unread.1 ⟨rfl, rfl⟩) same rfl handed⟩

/-- Once all that was sent has been taken in and processed, all of it has been decrypted. -/
theorem process_complete (library : Unseals R₂ V got X) (receiving : Receiving V X got q wire w h c)
    (all : got w.app = wire)
    (processed : (rustlsConnectionProcessNewPackets R₂.processNewPackets (some q) w).1 = .returned .ok) :
    (advance R₂ V q (w, h) .processNewPackets).2.decrypted = X.opens wire := by
  have live := receiving.balanced.live
  obtain ⟨usable, succeeded⟩ := processNewPackets_ok live processed
  obtain ⟨c', after⟩ := process_receiving library receiving
  obtain ⟨k, entered⟩ := processNewPackets_entered (f := R₂.processNewPackets) usable live
  have found : Arena.get (R₂.processNewPackets q (w.enter c)).2.conns q = some c' := by
    have live' := after.balanced.live
    rwa [entered] at live'
  obtain ⟨received, -, -, whole, -⟩ := library.process q (w.enter c) c c' live found
  calc (advance R₂ V q (w, h) .processNewPackets).2.decrypted
      = X.opened c'.conn := after.decrypted
    _ = X.opens (X.received c'.conn) := whole succeeded
    _ = X.opens wire := by rw [received, receiving.received, all]

end

/-! ### Runs of both ends -/

/-- Both ends at the start: nothing has been accepted, sent, taken in or read. -/
structure Begins (V : View C₂ S₂) (X : Channel C₁ C₂) (sent : S₁ → Bytes) (got : S₂ → Bytes) (p q : Addr)
    (l : Link C₁ C₂ S₁ S₂) (c₁ : Connection C₁) (c₂ : Connection C₂) : Prop where
  live : Arena.get l.sender.conns p = some c₁
  accepted : X.accepted c₁.conn = []
  produced : X.produced c₁.conn = (X.chunks c₁.conn).flatten
  sent : sent l.sender.app = []
  fresh : Fresh V q l.receiver c₂
  received : X.received c₂.conn = []
  opened : X.opened c₂.conn = []
  got : got l.receiver.app = []
  written : l.written = []
  history : l.history = {}

/-- What holds of both ends at every moment. -/
def Linked (V : View C₂ S₂) (X : Channel C₁ C₂) (sent : S₁ → Bytes) (got : S₂ → Bytes) (p q : Addr)
    (l : Link C₁ C₂ S₁ S₂) : Prop :=
  (∃ c, Sending X sent p l.sender l.written c) ∧
    ∃ c, Receiving V X got q (sent l.sender.app) l.receiver l.history c

theorem Begins.linked {l : Link C₁ C₂ S₁ S₂} {c₁ : Connection C₁} {c₂ : Connection C₂}
    (begins : Begins V X sent got p q l c₁ c₂) : Linked V X sent got p q l := by
  refine ⟨⟨c₁, begins.live, ?_, ?_⟩, ⟨c₂, ?_, ?_, ?_, ?_, ?_⟩⟩
  · rw [begins.accepted, begins.written]
  · rw [begins.produced, begins.sent, List.nil_append]
  · rw [begins.history]
    exact begins.fresh.tracks.balanced
  · rw [begins.received, begins.got]
  · rw [begins.history, begins.opened]
  · rw [begins.opened]
    exact List.nil_prefix
  · rw [begins.got]
    exact List.nil_prefix

/-- A call of the sender only adds to what has been sent. -/
theorem exec_sends_more (library : Seals R₁ X) {w : World C₁ S₁} {c : Connection C₁}
    (live : Arena.get w.conns p = some c) {call : SendCall S₁} (honest : call.Honest sent) (outN : Ptr) :
    sent w.app <+: sent (call.exec R₁ (some p) outN w).2.app := by
  cases outN with
  | none =>
    rewrite [exec_nowhere live]
    exact List.prefix_rfl
  | some l =>
    obtain ⟨c', -, delivers⟩ := exec_delivers library.queue honest l live
    simp only [Delivers] at delivers
    split_ifs at delivers
    · exact delivers.2.2.2 ▸ List.prefix_rfl
    · exact delivers.2.2.2.1 ▸ List.prefix_append _ _
    · exact delivers.2.2.2 ▸ List.prefix_rfl

theorem step_linked (seals : Seals R₁ X) (unseals : Unseals R₂ V got X) {l l' : Link C₁ C₂ S₁ S₂}
    (linked : Linked V X sent got p q l) (step : Step R₁ R₂ V X sent got p q l l') :
    Linked V X sent got p q l' := by
  obtain ⟨⟨c₁, sending⟩, c₂, receiving⟩ := linked
  cases step with
  | write buf count outN =>
    refine ⟨write_sending seals sending buf count outN, c₂, ?_⟩
    rw [write_app R₁ sending.live]
    exact receiving
  | send call outN honest =>
    exact ⟨send_sending seals sending honest outN, c₂, receiving.later (exec_sends_more seals sending.live honest outN)⟩
  | works w' c' before after added queued produced accepted same =>
    obtain rfl := Option.some.inj (before.symm.trans sending.live)
    refine ⟨⟨c', after, accepted.trans sending.accepted, ?_⟩, c₂, ?_⟩
    · rw [produced, queued, sending.produced, same, List.flatten_append, List.append_assoc]
    · rw [same]
      exact receiving
  | receive step valid apart delivering =>
    exact ⟨⟨c₁, sending⟩, advance_receiving unseals receiving valid apart delivering⟩

theorem run_linked (seals : Seals R₁ X) (unseals : Unseals R₂ V got X) {l l' : Link C₁ C₂ S₁ S₂}
    (run : Relation.ReflTransGen (Step R₁ R₂ V X sent got p q) l l') (linked : Linked V X sent got p q l) :
    Linked V X sent got p q l' := by
  induction run with
  | refl => exact linked
  | tail _ step ih => exact step_linked seals unseals ih step

/-- What the receiver's program has read is always a prefix of what the sender's program was told it has
written. Once the sender's rustls has sealed all that it accepted (before the end of the handshake it holds
plaintext back), its queue is empty and all that it sent has been taken in and processed, either the
receiver's program has read everything or a further read gives it the next bytes. -/
theorem end_to_end_integrity {R₁ : Rustls C₁ S₁} {R₂ : Rustls C₂ S₂} {V : View C₂ S₂} {X : Channel C₁ C₂}
    {sent : S₁ → Bytes} {got : S₂ → Bytes} {p q : Addr} (seals : Seals R₁ X) (unseals : Unseals R₂ V got X)
    {start l : Link C₁ C₂ S₁ S₂} {c₁ : Connection C₁} {c₂ : Connection C₂}
    (begins : Begins V X sent got p q start c₁ c₂)
    (run : Relation.ReflTransGen (Step R₁ R₂ V X sent got p q) start l) :
    l.history.delivered <+: l.written ∧
    ∀ c, Arena.get l.sender.conns p = some c → X.chunks c.conn = [] →
      X.opens (X.produced c.conn) = X.accepted c.conn → got l.receiver.app = sent l.sender.app →
      let o := rustlsConnectionProcessNewPackets R₂.processNewPackets (some q) l.receiver
      o.1 = .returned .ok → ∀ b n count, 0 < count → count ≤ (o.2.cells.buf b).length →
        let read := rustlsConnectionRead R₂ (some q) (some b) count (some n) o.2
        l.history.delivered = l.written ∨
          read.1 = .returned .ok ∧ 1 ≤ read.2.cells.size n ∧
            l.history.delivered ++ (read.2.cells.buf b).take (read.2.cells.size n) <+: l.written := by
  obtain ⟨⟨c₁, sending⟩, c₂, receiving⟩ := run_linked seals unseals run begins.linked
  refine ⟨?_, ?_⟩
  · have read : l.history.delivered <+: X.opened c₂.conn := by
      rw [← receiving.decrypted]
      exact receiving.balanced.initial
    have taken : X.received c₂.conn <+: X.produced c₁.conn := by
      rw [receiving.received, sending.produced]
      exact receiving.carried.trans (List.prefix_append _ _)
    rw [← sending.accepted]
    exact ((read.trans receiving.opened).trans (X.opens_mono taken)).trans (seals.sealed c₁.conn)
  · intro c live idle sealed all o processed b n count positive room read
    obtain rfl := Option.some.inj (live.symm.trans sending.live)
    have decrypted : (advance R₂ V q (l.receiver, l.history) .processNewPackets).2.decrypted = l.written := by
      have wire := sending.produced
      rw [idle, List.flatten_nil, List.append_nil] at wire
      rw [process_complete unseals receiving all processed, ← wire, sealed, sending.accepted]
    obtain ⟨c', after⟩ := process_receiving unseals receiving
    have delivered : (advance R₂ V q (l.receiver, l.history) .processNewPackets).2.delivered = l.history.delivered :=
      History.processed_delivered ..
    by_cases done : l.history.delivered = l.written
    · exact .inl done
    · obtain ⟨-, ok, size, -, -, next⟩ := readPlaintext_delivers (n := n) unseals.decrypts.read after.balanced positive room
        (by rwa [← delivered, ← decrypted] at done)
      refine .inr ⟨ok, size, ?_⟩
      rw [← decrypted, ← delivered]
      exact next

end

/-! ### A library that meets the assumptions -/

def mask (b : UInt8) : UInt8 := b + 7

def unmask (b : UInt8) : UInt8 := b - 7

theorem unmask_mask (bytes : Bytes) : (bytes.map mask).map unmask = bytes := by
  rw [List.map_map, List.map_congr_left (g := id), List.map_id]
  intro b _
  exact UInt8.add_sub_cancel b 7

theorem unmask_nothing : ([] : Bytes) <+: ([] : Bytes).map unmask := List.nil_prefix

/-- A connection whose only records are the masked bytes of one write. -/
structure Masked where
  queue : List Bytes := []
  accepted : Bytes := []
  unread : Pipe := {}
  taken : Bytes := []
  opened : Bytes := []
  fits : opened <+: taken.map unmask := by exact unmask_nothing

namespace Masked

def write (m : Masked) (buf : Bytes) : Masked :=
  { m with queue := m.queue ++ [buf.map mask], accepted := m.accepted ++ buf }

/-- The plaintext of what has been taken in and not decrypted. -/
def pending (m : Masked) : Bytes := (m.taken.map unmask).drop m.opened.length

theorem opened_pending (m : Masked) : m.opened ++ m.pending = m.taken.map unmask := by
  obtain ⟨rest, whole⟩ := m.fits
  rw [pending, ← whole, List.drop_left]

def take (m : Masked) (n : Nat) (buf : Bytes) : Masked :=
  { m with
    unread := m.unread.take n
    taken := m.taken ++ buf.take n
    fits := m.fits.trans (by simp) }

def process (m : Masked) : Masked :=
  { m with
    unread := { m.unread with plaintext := m.unread.plaintext ++ m.pending, waiting := false }
    opened := m.taken.map unmask
    fits := List.prefix_rfl }

def read (m : Masked) (buf : Bytes) : Res IoError Nat × Bytes × Masked :=
  let (r, filled, unread) := m.unread.read buf
  (r, filled, { m with unread })

end Masked

section
variable {S : Type}

def maskedLibrary : Rustls Masked S :=
  { (Rustls.inert {} : Rustls Masked S) with
    wantsRead := fun _ => some true
    wantsWrite := fun m => some (!m.queue.isEmpty)
    writerWrite := fun m buf => (.ok buf.length, m.write buf)
    writeTls := fun m writer s =>
      if m.queue = [] then (.ok 0, m, s)
      else match writer.writeVectored (m.queue.take 64) s with
        | (.ok n, s) => (.ok n, { m with queue := consume n m.queue }, s)
        | (.error e, s) => (.err e, m, s)
    readTls := fun m reader s =>
      match reader (List.replicate 64 0) s with
      | (.ok n, buf, s) => (.ok n, m.take n buf, s)
      | (.error e, _, s) => (.err e, m, s)
    processNewPackets := fun a w =>
      match Arena.get w.conns a with
      | some c => (.ok (), w.putConn a { c with conn := c.conn.process })
      | none => (.panic, w)
    readerRead := Masked.read
    readerReadBuf := Masked.read }

def maskedView (reports : S → List IoReturn) : View Masked S :=
  ⟨fun m => m.unread.plaintext, fun m => m.unread.closed, fun m => m.unread.waiting, fun m => m.unread.seenEof, reports⟩

def maskedChannel : Channel Masked Masked where
  accepted := Masked.accepted
  chunks := Masked.queue
  produced m := m.accepted.map mask
  received := Masked.taken
  opened := Masked.opened
  opens stream := stream.map unmask
  opens_mono more := more.map unmask

theorem maskedLibrary_seals : Seals (maskedLibrary : Rustls Masked S) maskedChannel where
  queue.idle m writer s empty := ⟨m, by simp_all [maskedLibrary, maskedChannel], empty⟩
  queue.sent m writer s n s' some answer :=
    ⟨{ m with queue := consume n m.queue }, by simp_all [maskedLibrary, maskedChannel], flatten_consume n m.queue⟩
  queue.failed m writer s e s' some answer := ⟨m, by simp_all [maskedLibrary, maskedChannel], rfl⟩
  writeTls m writer s r m' s' wrote := by
    by_cases empty : m.queue = []
    · obtain ⟨-, rfl, -⟩ : _ ∧ m = m' ∧ _ := by simpa [maskedLibrary, empty] using wrote
      exact ⟨rfl, rfl⟩
    · rcases answer : writer.writeVectored (m.queue.take 64) s with ⟨e | n, t⟩
      · obtain ⟨-, rfl, -⟩ : _ ∧ m = m' ∧ _ := by simpa [maskedLibrary, empty, answer] using wrote
        exact ⟨rfl, rfl⟩
      · obtain ⟨-, rfl, -⟩ : _ ∧ { m with queue := consume n m.queue } = m' ∧ _ := by
          simpa [maskedLibrary, empty, answer] using wrote
        exact ⟨rfl, rfl⟩
  write m buf r m' wrote := by
    obtain ⟨rfl, rfl⟩ : _ ∧ _ := by simpa only [maskedLibrary, Prod.mk.injEq] using wrote
    exact ⟨by simp [maskedChannel, Masked.write], [buf.map mask], rfl, by simp [maskedChannel, Masked.write]⟩
  sealed m := by simp only [maskedChannel, unmask_mask, List.prefix_rfl]

theorem masked_reads (reports : S → List IoReturn) : Reads (maskedView reports) Masked.read where
  hands.available m buf room some := by
    obtain ⟨n, filled, unread, read, laws⟩ := pipe_reads.hands.available m.unread buf room some
    exact ⟨n, filled, { m with unread }, by simp [Masked.read, read], laws⟩
  hands.exhausted m buf := pipe_reads.hands.exhausted m.unread buf
  signals.finished m buf := pipe_reads.signals.finished m.unread buf
  signals.unfinished m buf := pipe_reads.signals.unfinished m.unread buf
  signals.kept m buf := pipe_reads.signals.kept m.unread buf

theorem maskedLibrary_receives (reports : S → List IoReturn) : Receives maskedLibrary (maskedView reports) where
  decrypts.readTls m reader s bounded := by
    rcases called : reader (List.replicate 64 0) s with ⟨e | n, buf, s'⟩
    · simp only [maskedLibrary, called]
    · simp only [maskedLibrary, called]
      rfl
  decrypts.process a w c live := by
    simp only [maskedLibrary, live]
    exact ⟨_, Arena.get_put_same _ live, List.prefix_append _ _⟩
  decrypts.read := (masked_reads reports).hands
  decrypts.readBuf _ _ := ⟨rfl, rfl, fun _ _ => rfl⟩
  closes.readTls m reader s bounded := by
    rcases called : reader (List.replicate 64 0) s with ⟨e | n, buf, s'⟩
    · exact .inr (.inr ⟨_, e, buf, s', m, called, by simp only [maskedLibrary, called], rfl, rfl, rfl⟩)
    · exact .inr (.inl ⟨_, n, buf, s', m.take n buf, called, by simp only [maskedLibrary, called], rfl, rfl, rfl⟩)
  closes.process a w c c' live after := by
    simp only [maskedLibrary, live] at after ⊢
    obtain rfl := Option.some.inj ((Arena.get_put_same _ live).symm.trans after)
    exact ⟨id, rfl, rfl⟩
  closes.read := (masked_reads reports).signals

theorem maskedLibrary_unseals (reports : S → List IoReturn) (got : S → Bytes) :
    Unseals maskedLibrary (maskedView reports) got maskedChannel where
  decrypts := (maskedLibrary_receives reports).decrypts
  readTls m reader s bounded := by
    rcases called : reader (List.replicate 64 0) s with ⟨e | n, buf, s'⟩
    · exact .inr (.inr ⟨_, e, buf, s', m, called, by simp only [maskedLibrary, called], rfl, rfl⟩)
    · exact .inr (.inl ⟨_, n, buf, s', m.take n buf, called, by simp only [maskedLibrary, called], rfl, rfl⟩)
  process a w c c' live after := by
    simp only [maskedLibrary, live] at after ⊢
    obtain rfl := Option.some.inj ((Arena.get_put_same _ live).symm.trans after)
    refine ⟨rfl, ?_, List.prefix_rfl, fun _ => rfl, rfl⟩
    simp [maskedChannel, maskedView, Masked.process, ← Masked.opened_pending]
  read m buf := ⟨rfl, rfl⟩

end

/-- The receiver's program: what its callbacks have returned and handed over. -/
structure Receiver where
  reports : List IoReturn := []
  got : Bytes := []

/-- A read callback that hands over the next bytes of `wire`, as far as there is room. -/
def handing (wire : Bytes) : ReadCallback Receiver := fun _ buf s =>
  let next := (wire.drop s.got.length).take buf.length
  (⟨⟨0⟩, next.length⟩, next ++ buf.drop next.length, ⟨s.reports ++ [⟨⟨0⟩, next.length⟩], s.got ++ next⟩)

theorem handing_honest (wire : Bytes) : Honest (maskedView Receiver.reports) (handing wire) :=
  fun _ _ _ => ⟨fun _ => by simp [handing], rfl⟩

theorem handing_carries (wire : Bytes) : Carries Receiver.got wire (handing wire) := by
  intro u buf s handed
  obtain ⟨rest, whole⟩ := handed
  have next : wire.drop s.got.length = rest := by rw [← whole, List.drop_left]
  simp only [handing, if_true, List.take_left, true_and, next]
  rw [← whole]
  exact (List.prefix_append_right_inj _).mpr (List.take_prefix _ _)

def sealing : Link Masked Masked Bytes Receiver where
  sender := { (World.initial [] : World Masked Bytes) with conns := [some ⟨{}, .client, [], none, none⟩] }
  receiver := { (World.initial {} : World Masked Receiver) with
    conns := [some ⟨{}, .server, [], none, none⟩]
    cells.buf := fun _ => [0, 0, 0] }
  written := []
  history := {}

theorem sealing_begins :
    Begins (maskedView Receiver.reports) maskedChannel id Receiver.got 0 0 sealing ⟨{}, .client, [], none, none⟩
      ⟨{}, .server, [], none, none⟩ :=
  ⟨rfl, rfl, rfl, rfl, ⟨rfl, rfl, rfl, rfl, rfl, rfl⟩, rfl, rfl, rfl, rfl, rfl⟩

/-- Three bytes are written and leave in two pieces, the second of which comes in after the first has
been read. -/
theorem end_to_end_integrity_masked :
    ∃ l, Relation.ReflTransGen
        (Step maskedLibrary maskedLibrary (maskedView Receiver.reports) maskedChannel id Receiver.got 0 0) sealing l ∧
      l.written = [1, 2, 3] ∧ l.history.delivered = [1, 2] ∧
      let w := (rustlsConnectionProcessNewPackets maskedLibrary.processNewPackets (some 0) l.receiver).2
      let read := rustlsConnectionRead maskedLibrary (some 0) (some 0) 3 (some 0) w
      read.1 = .returned .ok ∧ 1 ≤ read.2.cells.size 0 ∧
        [1, 2] ++ (read.2.cells.buf 0).take (read.2.cells.size 0) <+: [1, 2, 3] := by
  have run : Relation.ReflTransGen
      (Step maskedLibrary maskedLibrary (maskedView Receiver.reports) maskedChannel id Receiver.got 0 0) sealing _ :=
    .head (.write (some [1, 2, 3]) 3 (some 0)) <|
    .head (.send sipping (some 0) sipping_honest) <|
    .head (.receive (.readTls (handing [8, 9]) none (some 0)) (handing_honest _) trivial (handing_carries _)) <|
    .head (.receive .processNewPackets trivial trivial trivial) <|
    .head (.receive (.read (some 0) 2 (some 0)) Nat.two_pos trivial trivial) <|
    .head (.send sipping (some 0) sipping_honest) <|
    .single (.receive (.readTls (handing [8, 9, 10]) none (some 0)) (handing_honest _) trivial (handing_carries _))
  refine ⟨_, run, by decide +kernel, by decide +kernel, ?_⟩
  have complete := (end_to_end_integrity maskedLibrary_seals (maskedLibrary_unseals _ _) sealing_begins run).2
    ⟨{ accepted := [1, 2, 3] }, .client, [], none, none⟩ rfl rfl rfl rfl rfl 0 0 3 (by decide) (by decide +kernel)
  exact complete.resolve_left (by decide +kernel)

end RustlsFfi.EndToEnd
