import RustlsFfi.Stream.EndToEnd

/-!
# One end of a session

An end sends on one stream and receives on another, both over one connection. This is what each exported
function does to the two of them.
-/

namespace RustlsFfi.Duplex
open Control Outgoing Plaintext EndToEnd

variable {Peer Conn S : Type}

/-- How an end is seen. `got` and `sent` are the TLS bytes that its callbacks have handed over and taken. -/
structure Session (Peer Conn S : Type) where
  view : View Conn S
  incoming : Channel Peer Conn
  outgoing : Channel Conn Peer
  got : S → Bytes
  sent : S → Bytes

/-- TLS bytes may have been queued, but no plaintext was accepted. -/
def Grows (X : Channel Conn Peer) (conn conn' : Conn) : Prop :=
  X.accepted conn' = X.accepted conn ∧
    ∃ added, X.chunks conn' = X.chunks conn ++ added ∧ X.produced conn' = X.produced conn ++ added.flatten

theorem Grows.refl (X : Channel Conn Peer) (conn : Conn) : Grows X conn conn :=
  ⟨rfl, [], by simp, by simp⟩

namespace Session

/-- Nothing has come in. -/
def Unread (T : Session Peer Conn S) (conn conn' : Conn) : Prop :=
  T.view.Same conn conn' ∧ T.incoming.Same conn conn'

/-- No read callback was at work. -/
def Kept (T : Session Peer Conn S) (s s' : S) : Prop :=
  T.view.reports s' = T.view.reports s ∧ T.got s' = T.got s

def OnlyWrites (T : Session Peer Conn S) (writer : Writer S) : Prop :=
  (∀ buf s, T.Kept s (writer.write buf s).2) ∧ ∀ bufs s, T.Kept s (writer.writeVectored bufs s).2

end Session

/-- Rustls as documented, in both directions: what is about one of them leaves the other alone, except that
processing may have something to answer. -/
structure Speaks (R : Rustls Conn S) (T : Session Peer Conn S) : Prop where
  unseals : Unseals R T.view T.got T.incoming
  closes : Closes R T.view
  seals : Seals R T.outgoing
  readTls : ∀ conn (reader : Reader S) s, (∀ buf s, T.sent (reader buf s).2.2 = T.sent s) →
    Grows T.outgoing conn (R.readTls conn reader s).2.1 ∧ T.sent (R.readTls conn reader s).2.2 = T.sent s
  process : ∀ a w c c', Arena.get w.conns a = some c → Arena.get (R.processNewPackets a w).2.conns a = some c' →
    Grows T.outgoing c.conn c'.conn ∧ T.sent (R.processNewPackets a w).2.app = T.sent w.app
  read : ∀ conn buf, Grows T.outgoing conn (R.readerRead conn buf).2.2
  write : ∀ conn buf, T.Unread conn (R.writerWrite conn buf).2
  writeTls : ∀ conn writer s, T.OnlyWrites writer →
    T.Unread conn (R.writeTls conn writer s).2.1 ∧ T.Kept s (R.writeTls conn writer s).2.2

/-- What reading plaintext rests on. -/
structure Draws (R : Rustls Conn S) (T : Session Peer Conn S) : Prop where
  reads : Reads T.view R.readerRead
  incoming : ∀ conn buf, T.incoming.Same conn (R.readerRead conn buf).2.2
  outgoing : ∀ conn buf, Grows T.outgoing conn (R.readerRead conn buf).2.2

/-- The connection, and what has happened to its two streams. -/
structure Record (Conn : Type) where
  conn : Connection Conn
  history : History := {}
  /-- What the program was told it has written. -/
  written : Bytes := []

/-- What holds of an end between two calls, with `wire` all that will ever arrive. -/
structure Converses (T : Session Peer Conn S) (wire : Bytes) (a : Addr) (g : Record Conn) (w : World Conn S) : Prop where
  receiving : Receiving T.view T.incoming T.got a wire w g.history g.conn
  follows : Follows T.view g.conn w g.history
  sending : Sending T.outgoing T.sent a w g.written g.conn

section
variable {R : Rustls Conn S} {T : Session Peer Conn S} {wire : Bytes} {a : Addr} {g : Record Conn} {w w' : World Conn S}

theorem Speaks.receives (library : Speaks R T) : Receives R T.view := ⟨library.unseals.decrypts, library.closes⟩

theorem Speaks.draws (library : Speaks R T) : Draws R T :=
  ⟨library.receives.read, library.unseals.read, library.read⟩

theorem Converses.live (converses : Converses T wire a g w) : Arena.get w.conns a = some g.conn :=
  converses.sending.live

theorem Converses.tracks (converses : Converses T wire a g w) : Tracks T.view a g.conn w g.history :=
  ⟨converses.receiving.balanced, converses.follows⟩

/-- Something that is not about the connection. -/
theorem Converses.apart (converses : Converses T wire a g w) (live : Arena.get w'.conns a = some g.conn)
    (kept : T.Kept w.app w'.app) (sent : T.sent w'.app = T.sent w.app) : Converses T wire a g w' where
  receiving :=
    converses.receiving.same (converses.receiving.balanced.same _ live rfl ⟨rfl, rfl⟩) ⟨rfl, rfl⟩ rfl kept.2
  follows := converses.follows.same _ ⟨rfl, rfl, rfl⟩ ⟨rfl, rfl⟩ (by rw [kept.1])
  sending := ⟨live, converses.sending.accepted, by rw [converses.sending.produced, sent]⟩

/-! ### What each direction does to the other -/

/-- Nothing has come in, and this is what the sending direction is like. -/
theorem Converses.unread {c' : Connection Conn} {written : Bytes} (converses : Converses T wire a g w)
    (sending : Sending T.outgoing T.sent a w' written c') (unread : T.Unread g.conn.conn c'.conn)
    (kept : T.Kept w.app w'.app) : Converses T wire a { g with conn := c', written } w' where
  receiving := converses.receiving.same (converses.receiving.balanced.same c' sending.live unread.1.1 ⟨rfl, rfl⟩) unread.2
    rfl kept.2
  follows := converses.follows.same c' unread.1.2 ⟨rfl, rfl⟩ (by rw [kept.1])
  sending := sending

theorem sending_grows {X : Channel Conn Peer} {sent : S → Bytes} {written : Bytes} {c c' : Connection Conn}
    (sending : Sending X sent a w written c) (live : Arena.get w'.conns a = some c')
    (grows : Grows X c.conn c'.conn) (same : sent w'.app = sent w.app) : Sending X sent a w' written c' := by
  obtain ⟨accepted, added, queued, produced⟩ := grows
  refine ⟨live, accepted.trans sending.accepted, ?_⟩
  rw [produced, queued, sending.produced, same, List.flatten_append, List.append_assoc]

/-! ### Writing -/

/-- The connection after a write is as it was or the one that rustls leaves. -/
theorem write_unread (library : Speaks R T) {c : Connection Conn} (live : Arena.get w.conns a = some c)
    (buf : Option Bytes) (count : Nat) (outN : Ptr) :
    ∃ c', Arena.get (rustlsConnectionWrite R (some a) buf count outN w).2.conns a = some c' ∧
      T.Unread c.conn c'.conn := by
  by_cases somewhere : ∃ bytes n, buf = some bytes ∧ outN = some n ∧ count ≤ bytes.length
  · obtain ⟨bytes, n, rfl, rfl, room⟩ := somewhere
    exact ⟨_, (write_reported R live room n).1, library.write c.conn (bytes.take count)⟩
  · rw [(write_nowhere R live somewhere).1]
    exact ⟨c, live, .refl T.view c.conn, rfl, rfl⟩

theorem write_converses (library : Speaks R T) (converses : Converses T wire a g w) (buf : Option Bytes) (count : Nat)
    (outN : Ptr) :
    let o := rustlsConnectionWrite R (some a) buf count outN w
    ∃ c, Converses T wire a { g with conn := c, written := g.written ++ reported buf count outN o } o.2 := by
  intro o
  obtain ⟨c, sending⟩ := write_sending library.seals converses.sending buf count outN
  obtain ⟨c', live, unread⟩ := write_unread library converses.live buf count outN
  obtain rfl := Option.some.inj (live.symm.trans sending.live)
  have app := write_app R converses.live buf count outN
  refine ⟨c', converses.unread sending unread ⟨?_, ?_⟩⟩
  · rw [app]
  · rw [app]

/-- What a writing function leaves of the program's state, and that it returns. -/
theorem exec_app {c : Connection Conn} (live : Arena.get w.conns a = some c) (call : SendCall S) (l : Addr) :
    (call.exec R (some a) (some l) w).2.app = (R.writeTls c.conn call.writer w.app).2.2 ∧
      ∃ r, (call.exec R (some a) (some l) w).1 = .returned r := by
  rw [exec_eq]
  rcases wrote : R.writeTls c.conn call.writer w.app with ⟨n | e | _, conn', s⟩
  · rw [writeTls_sent live wrote]
    exact ⟨rfl, _, rfl⟩
  · rw [writeTls_failed live wrote]
    exact ⟨rfl, _, rfl⟩
  · simp [writeTls, ffiPanicBoundary, bind_run, tryFromPtr_live live, rejectIfNull, tryRef, Ffi.call, onConn, wrote]

theorem send_converses (library : Speaks R T) (converses : Converses T wire a g w) {call : SendCall S}
    (honest : call.Honest T.sent) (writes : T.OnlyWrites call.writer) (l : Addr) :
    let o := call.exec R (some a) (some l) w
    ∃ c, Converses T wire a { g with conn := c } o.2 ∧ T.Kept w.app o.2.app := by
  intro o
  obtain ⟨c, sending⟩ := send_sending library.seals converses.sending honest (some l)
  obtain ⟨unread, kept⟩ := library.writeTls g.conn.conn call.writer w.app writes
  obtain ⟨r, conn', s, wrote, live⟩ := send_conn R converses.live call l
  obtain rfl := Option.some.inj (live.symm.trans sending.live)
  rw [← (exec_app converses.live call l).1] at kept
  rw [wrote] at unread
  exact ⟨{ g.conn with conn := conn' }, converses.unread sending unread kept, kept⟩

/-! ### Reading -/

/-- A failure of `read_tls` has taken nothing in. -/
theorem readTls_failure (library : Unseals R T.view T.got T.incoming) {c : Connection Conn}
    (live : Arena.get w.conns a = some c) {callback : ReadCallback S} (honest : Honest T.view callback)
    (carries : Carries T.got wire callback) (next : T.got w.app <+: wire) (userdata : VoidPtr) (l : Addr) :
    let o := rustlsConnectionReadTls R (some a) (some callback) userdata (some l) w
    ∃ r, o.1 = .returned r ∧ (r.code ≠ 0 → T.got o.2.app = T.got w.app) := by
  intro o
  rcases library.readTls c.conn (CallbackReader.read ⟨callback, userdata⟩) w.app (honest.bounded userdata) with
    ⟨e, conn', refused, -⟩ | ⟨buf, n, buf', s', conn', -, took, -⟩ | ⟨buf, e, buf', s', conn', called, failed, -⟩
  · rw [show o = _ from readTls_failed live refused]
    exact ⟨_, rfl, fun _ => rfl⟩
  · rw [show o = _ from readTls_received live took]
    exact ⟨_, rfl, fun failed => absurd rfl failed⟩
  · rw [show o = _ from readTls_failed live failed]
    exact ⟨_, rfl, fun _ => carries.nothing next called⟩

theorem readTls_converses (library : Speaks R T) (converses : Converses T wire a g w) {callback : ReadCallback S}
    (honest : Honest T.view callback) (carries : Carries T.got wire callback)
    (mute : ∀ u buf s, T.sent (callback u buf s).2.2 = T.sent s) (userdata : VoidPtr) (l : Addr) :
    let o := rustlsConnectionReadTls R (some a) (some callback) userdata (some l) w
    ∃ c, Converses T wire a { g with conn := c, history := g.history.received (some l) o } o.2 := by
  intro o
  obtain ⟨c, receiving⟩ := readTls_receiving library.unseals converses.receiving honest carries userdata l
  obtain ⟨⟨c', found, follows⟩, -⟩ :=
    readTls_follows library.closes converses.live converses.follows honest userdata l
  obtain rfl := Option.some.inj (receiving.balanced.live.symm.trans found)
  have reads : ∀ buf s, T.sent (CallbackReader.read ⟨callback, userdata⟩ buf s).2.2 = T.sent s :=
    fun buf s => mute userdata buf s
  obtain ⟨grows, sent⟩ := library.readTls g.conn.conn _ w.app reads
  obtain ⟨live, app⟩ := readTls_conn (R := R) converses.live callback userdata l
  obtain rfl := Option.some.inj (live.symm.trans found)
  rw [← app] at sent
  exact ⟨{ g.conn with conn := (R.readTls g.conn.conn (CallbackReader.read ⟨callback, userdata⟩) w.app).2.1 }, receiving,
    follows, sending_grows converses.sending live grows sent⟩

theorem process_converses (library : Speaks R T) (converses : Converses T wire a g w) :
    let o := rustlsConnectionProcessNewPackets R.processNewPackets (some a) w
    ∃ c h, Converses T wire a { g with conn := c, history := h } o.2 ∧ h.delivered = g.history.delivered ∧
      (o.1 = .returned .ok → h.decrypted = T.incoming.opens (T.got o.2.app)) := by
  intro o
  obtain ⟨c, receiving⟩ := process_receiving library.unseals converses.receiving
  have live := converses.live
  have live' : Arena.get o.2.conns a = some c := receiving.balanced.live
  have follows := process_follows library.closes live converses.follows c live'
  by_cases usable : w.userdata.Usable
  · obtain ⟨k, entered⟩ := processNewPackets_entered (f := R.processNewPackets) usable live
    have after : o.2 = { (R.processNewPackets a (w.enter g.conn)).2 with userdata := k } := entered
    have found : Arena.get (R.processNewPackets a (w.enter g.conn)).2.conns a = some c := by
      rw [← live', after]
    obtain ⟨grows, sent⟩ := library.process a (w.enter g.conn) g.conn c live found
    obtain ⟨-, -, -, whole, -⟩ := library.unseals.process a (w.enter g.conn) g.conn c live found
    refine ⟨c, _, ⟨receiving, follows, sending_grows converses.sending live' grows ?_⟩, History.processed_delivered ..,
      fun ok => ?_⟩
    · rw [after]
      exact sent
    · have opened := whole (processNewPackets_ok live ok).2
      rw [receiving.received] at opened
      exact receiving.decrypted.trans opened
  · have same : o.2 = w := processNewPackets_refused usable
    obtain rfl : g.conn = c := Option.some.inj (live.symm.trans (same ▸ live'))
    refine ⟨g.conn, _, ⟨receiving, follows, ?_⟩, History.processed_delivered ..,
      fun ok => absurd (processNewPackets_ok live ok).1 usable⟩
    rw [same]
    exact converses.sending

theorem read_converses (library : Draws R T) (converses : Converses T wire a g w) (buf : Ptr) {count : Nat}
    (positive : 0 < count) (outN : Ptr) :
    let o := rustlsConnectionRead R (some a) buf count outN w
    ∃ c, Converses T wire a { g with conn := c, history := g.history.read buf outN o } o.2 := by
  intro o
  obtain ⟨c, receiving⟩ := read_receiving library.reads.hands library.incoming converses.receiving buf positive outN
  obtain ⟨c'', tracks⟩ := readPlaintext_tracks library.reads converses.tracks buf outN positive
  obtain ⟨⟨c', live, grows⟩, app⟩ :=
    readPlaintext_conn (Grows.refl T.outgoing) library.outgoing converses.live buf count outN
  obtain rfl := Option.some.inj (live.symm.trans receiving.balanced.live)
  obtain rfl := Option.some.inj (live.symm.trans tracks.balanced.live)
  exact ⟨c', receiving, tracks.follows, sending_grows converses.sending live grows (congrArg T.sent app)⟩

end

/-! ### A session that meets the assumptions -/

def maskedSession (reports : S → List IoReturn) (got sent : S → Bytes) : Session Masked Masked S :=
  ⟨maskedView reports, maskedChannel, maskedChannel, got, sent⟩

theorem maskedLibrary_speaks (reports : S → List IoReturn) (got sent : S → Bytes) :
    Speaks maskedLibrary (maskedSession reports got sent) where
  unseals := maskedLibrary_unseals reports got
  closes := (maskedLibrary_receives reports).closes
  seals := maskedLibrary_seals
  readTls m reader s mute := by
    have same := mute (List.replicate 64 0) s
    rcases called : reader (List.replicate 64 0) s with ⟨e | n, buf, s'⟩ <;> rw [called] at same <;>
      simp only [maskedLibrary, called]
    · exact ⟨Grows.refl _ _, same⟩
    · exact ⟨⟨rfl, [], (List.append_nil _).symm, (List.append_nil _).symm⟩, same⟩
  process a w c c' live after := by
    simp only [maskedLibrary, live] at after ⊢
    obtain rfl := Option.some.inj ((Arena.get_put_same _ live).symm.trans after)
    exact ⟨⟨rfl, [], (List.append_nil _).symm, (List.append_nil _).symm⟩, rfl⟩
  read m buf := ⟨rfl, [], (List.append_nil _).symm, (List.append_nil _).symm⟩
  write m buf := ⟨⟨rfl, rfl, rfl, rfl⟩, rfl, rfl⟩
  writeTls m writer s writes := by
    have kept := writes.2 (m.queue.take 64) s
    by_cases empty : m.queue = []
    · simp only [maskedLibrary, empty, if_true]
      exact ⟨⟨.refl _ _, rfl, rfl⟩, rfl, rfl⟩
    · rcases answer : writer.writeVectored (m.queue.take 64) s with ⟨e | n, s'⟩ <;> rw [answer] at kept <;>
        simp only [maskedLibrary, if_neg empty, answer]
      · exact ⟨⟨.refl _ _, rfl, rfl⟩, kept⟩
      · exact ⟨⟨⟨rfl, rfl, rfl, rfl⟩, rfl, rfl⟩, kept⟩

end RustlsFfi.Duplex
