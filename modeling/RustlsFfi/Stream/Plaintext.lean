import RustlsFfi.Model.Connection

/-!
# Incoming plaintext

TLS bytes come in through the callback of `rustls_connection_read_tls`, are decrypted by
`rustls_connection_process_new_packets` and leave through `rustls_connection_read`, which also says
how the stream ends.
-/

namespace RustlsFfi.Plaintext
open Control

variable {Conn S : Type}

/-! ### What is assumed of rustls and of the callbacks -/

/-- What is seen of a connection, and of the C program the reports of its read callbacks. -/
structure View (Conn S : Type) where
  /-- Decrypted and not read. -/
  plaintext : Conn → Bytes
  /-- The peer's close_notify has been processed. -/
  closed : Conn → Bool
  /-- Bytes have come in that are not processed. -/
  waiting : Conn → Bool
  /-- The end of the transport has been seen. -/
  seenEof : Conn → Bool
  reports : S → List IoReturn

/-- A callback's report of the end of the transport. -/
def ended : IoReturn := ⟨⟨0⟩, 0⟩

namespace View

/-- The stream is known to be complete. Bytes that came in after the close_notify leave that open. -/
def finished (V : View Conn S) (conn : Conn) : Bool := V.closed conn && !V.waiting conn

def SameEnd (V : View Conn S) (conn conn' : Conn) : Prop :=
  V.closed conn' = V.closed conn ∧ V.waiting conn' = V.waiting conn ∧ V.seenEof conn' = V.seenEof conn

def Same (V : View Conn S) (conn conn' : Conn) : Prop :=
  V.plaintext conn' = V.plaintext conn ∧ V.SameEnd conn conn'

theorem Same.refl (V : View Conn S) (conn : Conn) : V.Same conn conn := ⟨rfl, rfl, rfl, rfl⟩

end View

/-- The plaintext reader of rustls, on a buffer that is not empty, hands out what was decrypted in order. -/
structure Hands (V : View Conn S) (read : Conn → Bytes → Res IoError Nat × Bytes × Conn) : Prop where
  available : ∀ conn buf, buf ≠ [] → V.plaintext conn ≠ [] →
    ∃ n filled conn', read conn buf = (.ok n, filled, conn') ∧ 0 < n ∧ n ≤ buf.length ∧
      n ≤ (V.plaintext conn).length ∧ filled.take n = (V.plaintext conn).take n ∧
      V.plaintext conn' = (V.plaintext conn).drop n
  exhausted : ∀ conn buf, buf ≠ [] → V.plaintext conn = [] →
    V.plaintext (read conn buf).2.2 = [] ∧ ∀ n, (read conn buf).1 = .ok n → n = 0

/-- How the reader says that there is nothing to hand out. -/
structure Signals (V : View Conn S) (read : Conn → Bytes → Res IoError Nat × Bytes × Conn) : Prop where
  finished : ∀ conn buf, buf ≠ [] → V.plaintext conn = [] → V.finished conn = true → (read conn buf).1 = .ok 0
  unfinished : ∀ conn buf, buf ≠ [] → V.plaintext conn = [] → V.finished conn = false →
    ∃ e, (read conn buf).1 = .err e ∧ e.kind = if V.seenEof conn then .unexpectedEof else .wouldBlock
  kept : ∀ conn buf, V.SameEnd conn (read conn buf).2.2

structure Reads (V : View Conn S) (read : Conn → Bytes → Res IoError Nat × Bytes × Conn) : Prop where
  hands : Hands V read
  signals : Signals V read

/-- A reader that stores no more than it was given room for. -/
def Bounded (reader : Reader S) : Prop := ∀ buf s n, (reader buf s).1 = .ok n → n ≤ buf.length

/-- Rustls as documented, of the plaintext: processing adds to it, and only the reader takes from it. -/
structure Decrypts (R : Rustls Conn S) (V : View Conn S) : Prop where
  readTls : ∀ conn reader s, Bounded reader → V.plaintext (R.readTls conn reader s).2.1 = V.plaintext conn
  process : ∀ a w c, Arena.get w.conns a = some c →
    ∃ c', Arena.get (R.processNewPackets a w).2.conns a = some c' ∧ V.plaintext c.conn <+: V.plaintext c'.conn
  read : Hands V R.readerRead
  /-- `read_buf` is `read` into memory that need not be initialised. -/
  readBuf : ∀ conn buf, (R.readerReadBuf conn buf).1 = (R.readerRead conn buf).1 ∧
    (R.readerReadBuf conn buf).2.2 = (R.readerRead conn buf).2.2 ∧
    ∀ n, (R.readerRead conn buf).1 = .ok n →
      (R.readerReadBuf conn buf).2.1.take n = (R.readerRead conn buf).2.1.take n

/-- Rustls as documented, of the end of the stream. `read_tls` calls the reader once, unless it refuses with an
error of its own, and takes 0 bytes for the end of the transport. Other bytes wait to be processed. -/
structure Closes (R : Rustls Conn S) (V : View Conn S) : Prop where
  readTls : ∀ conn reader s, Bounded reader →
    (∃ e conn', R.readTls conn reader s = (.err e, conn', s) ∧ e.rawOsError = none ∧ V.SameEnd conn conn') ∨
    (∃ buf n buf' s' conn', reader buf s = (.ok n, buf', s') ∧ R.readTls conn reader s = (.ok n, conn', s') ∧
      V.closed conn' = V.closed conn ∧ V.waiting conn' = (V.waiting conn || n != 0) ∧
      V.seenEof conn' = (V.seenEof conn || n == 0)) ∨
    (∃ buf e buf' s' conn', reader buf s = (.error e, buf', s') ∧ R.readTls conn reader s = (.err e, conn', s') ∧
      V.SameEnd conn conn')
  process : ∀ a w c c', Arena.get w.conns a = some c → Arena.get (R.processNewPackets a w).2.conns a = some c' →
    (V.closed c.conn = true → V.closed c'.conn = true) ∧ V.seenEof c'.conn = V.seenEof c.conn ∧
      V.reports (R.processNewPackets a w).2.app = V.reports w.app
  read : Signals V R.readerRead

structure Receives (R : Rustls Conn S) (V : View Conn S) : Prop where
  decrypts : Decrypts R V
  closes : Closes R V

/-- The callback stores at most what it is offered and, in the C program's own record, reports what
it returns. -/
def Honest (V : View Conn S) (callback : ReadCallback S) : Prop :=
  ∀ u buf s, ((callback u buf s).1.result.code = 0 → (callback u buf s).1.outN ≤ buf.length) ∧
    V.reports (callback u buf s).2.2 = V.reports s ++ [(callback u buf s).1]

/-! ### Runs -/

inductive Step (Conn S : Type) where
  | readTls (callback : ReadCallback S) (userdata : VoidPtr) (outN : Ptr)
  | processNewPackets
  | read (buf : Ptr) (count : Nat) (outN : Ptr)
  | read2 (buf : Ptr) (count : Nat) (outN : Ptr)
  /-- Anything that is not about incoming data of this connection. -/
  | elsewhere (f : World Conn S → World Conn S)

def Step.Valid (V : View Conn S) (a : Addr) : Step Conn S → Prop
  | .readTls callback _ _ => Honest V callback
  | .processNewPackets => True
  | .read _ count _ | .read2 _ count _ => 0 < count
  | .elsewhere f => ∀ w c, Arena.get w.conns a = some c →
    ∃ c', Arena.get (f w).conns a = some c' ∧ V.Same c.conn c'.conn ∧ V.reports (f w).app = V.reports w.app

/-- What has happened to the stream so far. -/
structure History where
  decrypted : Bytes := []
  delivered : Bytes := []
  closed : Bool := false
  /-- Bytes have come in since all of them were processed. -/
  waiting : Bool := false

namespace History

def finished (h : History) : Bool := h.closed && !h.waiting

def received (h : History) (outN : Ptr) (o : Outcome RustlsIoResult × World Conn S) : History :=
  match o.1, outN with
  | .returned r, some n => if r.code = 0 then { h with waiting := h.waiting || o.2.cells.size n != 0 } else h
  | _, _ => h

def read (h : History) (buf outN : Ptr) (o : Outcome RustlsResult × World Conn S) : History :=
  match o.1, buf, outN with
  | .returned .ok, some l, some n =>
    { h with delivered := h.delivered ++ (o.2.cells.buf l).take (o.2.cells.size n) }
  | _, _, _ => h

def processed (V : View Conn S) (h : History) (before after : Option (Connection Conn)) : History :=
  match before, after with
  | some c, some c' =>
    { h with
      decrypted := h.decrypted ++ (V.plaintext c'.conn).drop (V.plaintext c.conn).length
      closed := h.closed || V.closed c'.conn
      waiting := V.waiting c'.conn }
  | _, _ => h

theorem received_bytes (h : History) (outN : Ptr) (o : Outcome RustlsIoResult × World Conn S) :
    (h.received outN o).decrypted = h.decrypted ∧ (h.received outN o).delivered = h.delivered := by
  unfold received
  split
  · split <;> exact ⟨rfl, rfl⟩
  · exact ⟨rfl, rfl⟩

theorem received_failed (h : History) (outN : Ptr) {r : RustlsIoResult} {o : Outcome RustlsIoResult × World Conn S}
    (returned : o.1 = .returned r) (failed : r.code ≠ 0) : h.received outN o = h := by
  unfold received
  rw [returned]
  cases outN with
  | none => rfl
  | some n => exact if_neg failed

theorem read_decrypted (h : History) (buf outN : Ptr) (o : Outcome RustlsResult × World Conn S) :
    (h.read buf outN o).decrypted = h.decrypted := by
  unfold read
  split <;> rfl

theorem read_end (h : History) (buf outN : Ptr) (o : Outcome RustlsResult × World Conn S) :
    (h.read buf outN o).closed = h.closed ∧ (h.read buf outN o).waiting = h.waiting := by
  unfold read
  split <;> exact ⟨rfl, rfl⟩

theorem read_finished (h : History) (buf outN : Ptr) (o : Outcome RustlsResult × World Conn S) :
    (h.read buf outN o).finished = h.finished := by
  rw [finished, (h.read_end buf outN o).1, (h.read_end buf outN o).2, finished]

theorem read_failed (h : History) (l n : Ptr) {o : Outcome RustlsResult × World Conn S}
    (failed : o.1 ≠ .returned .ok) : h.read l n o = h := by
  unfold read
  split
  · exact absurd ‹_› failed
  · rfl

theorem processed_delivered (V : View Conn S) (h : History) (before after : Option (Connection Conn)) :
    (h.processed V before after).delivered = h.delivered := by
  unfold processed
  split <;> rfl

end History

def advance (R : Rustls Conn S) (V : View Conn S) (a : Addr) :
    World Conn S × History → Step Conn S → World Conn S × History
  | (w, h), .readTls callback userdata outN =>
    let o := rustlsConnectionReadTls R (some a) (some callback) userdata outN w
    (o.2, h.received outN o)
  | (w, h), .processNewPackets =>
    let w' := (rustlsConnectionProcessNewPackets R.processNewPackets (some a) w).2
    (w', h.processed V (Arena.get w.conns a) (Arena.get w'.conns a))
  | (w, h), .read buf count outN =>
    let o := rustlsConnectionRead R (some a) buf count outN w
    (o.2, h.read buf outN o)
  | (w, h), .read2 buf count outN =>
    let o := rustlsConnectionRead2 R (some a) buf count outN w
    (o.2, h.read buf outN o)
  | (w, h), .elsewhere f => (f w, h)

def play (R : Rustls Conn S) (V : View Conn S) (a : Addr) (w : World Conn S) (steps : List (Step Conn S)) :
    World Conn S × History :=
  steps.foldl (advance R V a) (w, {})

structure Fresh (V : View Conn S) (a : Addr) (w : World Conn S) (c : Connection Conn) : Prop where
  live : Arena.get w.conns a = some c
  plaintext : V.plaintext c.conn = []
  closed : V.closed c.conn = false
  waiting : V.waiting c.conn = false
  seenEof : V.seenEof c.conn = false
  reports : V.reports w.app = []

/-- What a read of up to `count` bytes has to report. -/
def Reported (V : View Conn S) (h : History) (w : World Conn S) (l n : Addr) (count : Nat)
    (o : Outcome RustlsResult × World Conn S) : Prop :=
  if h.delivered ≠ h.decrypted then
    o.1 = .returned .ok ∧ 1 ≤ o.2.cells.size n ∧ o.2.cells.size n ≤ count ∧
      o.2.cells.size n ≤ (o.2.cells.buf l).length ∧
      h.delivered ++ (o.2.cells.buf l).take (o.2.cells.size n) <+: h.decrypted
  else if h.finished then o.1 = .returned .ok ∧ o.2.cells.size n = 0
  else if ended ∈ V.reports w.app then o.1 = .returned .unexpectedEof
  else o.1 = .returned .plaintextEmpty

/-! ### What every step keeps -/

/-- What was decrypted is what has been delivered and what is still there. -/
structure Balanced (V : View Conn S) (a : Addr) (c : Connection Conn) (w : World Conn S) (h : History) : Prop where
  live : Arena.get w.conns a = some c
  balance : h.decrypted = h.delivered ++ V.plaintext c.conn

/-- The connection knows how its stream has ended. -/
structure Follows (V : View Conn S) (c : Connection Conn) (w : World Conn S) (h : History) : Prop where
  closed : h.closed = V.closed c.conn
  waiting : h.waiting = V.waiting c.conn
  eof : V.seenEof c.conn = true ↔ ended ∈ V.reports w.app

/-- The history is that of connection `c`. -/
structure Tracks (V : View Conn S) (a : Addr) (c : Connection Conn) (w : World Conn S) (h : History) : Prop where
  balanced : Balanced V a c w h
  follows : Follows V c w h

section
variable {R : Rustls Conn S} {V : View Conn S} {a : Addr} {c : Connection Conn} {w : World Conn S} {h : History}

theorem Fresh.tracks (fresh : Fresh V a w c) : Tracks V a c w {} where
  balanced := ⟨fresh.live, by simp [fresh.plaintext]⟩
  follows := ⟨fresh.closed.symm, fresh.waiting.symm, by simp [fresh.seenEof, fresh.reports]⟩

theorem Balanced.same {w' : World Conn S} {h' : History} (balanced : Balanced V a c w h) (c' : Connection Conn)
    (live : Arena.get w'.conns a = some c') (same : V.plaintext c'.conn = V.plaintext c.conn)
    (bytes : h'.decrypted = h.decrypted ∧ h'.delivered = h.delivered) : Balanced V a c' w' h' where
  live := live
  balance := by rw [same, bytes.1, bytes.2, balanced.balance]

theorem Follows.same {w' : World Conn S} {h' : History} (follows : Follows V c w h) (c' : Connection Conn)
    (same : V.SameEnd c.conn c'.conn) (ends : h'.closed = h.closed ∧ h'.waiting = h.waiting)
    (reports : ended ∈ V.reports w'.app ↔ ended ∈ V.reports w.app) : Follows V c' w' h' where
  closed := by rw [same.1, ends.1, follows.closed]
  waiting := by rw [same.2.1, ends.2, follows.waiting]
  eof := by rw [same.2.2, reports, follows.eof]

theorem Tracks.same {w' : World Conn S} (tracks : Tracks V a c w h) (c' : Connection Conn)
    (live : Arena.get w'.conns a = some c') (same : V.Same c.conn c'.conn)
    (reports : V.reports w'.app = V.reports w.app) : Tracks V a c' w' h where
  balanced := tracks.balanced.same c' live same.1 ⟨rfl, rfl⟩
  follows := tracks.follows.same c' same.2 ⟨rfl, rfl⟩ (by rw [reports])

theorem Balanced.exhausted (balanced : Balanced V a c w h) :
    h.delivered = h.decrypted ↔ V.plaintext c.conn = [] := by
  rw [balanced.balance]
  simp

theorem Balanced.initial (balanced : Balanced V a c w h) : h.delivered <+: h.decrypted := by
  rw [balanced.balance]
  exact List.prefix_append _ _

theorem Follows.finished (follows : Follows V c w h) : h.finished = V.finished c.conn := by
  rw [History.finished, follows.closed, follows.waiting, View.finished]

/-! ### Reading plaintext -/

theorem Decrypts.readBuf_eq (library : Decrypts R V) {conn conn' : Conn} {buf filled : Bytes}
    {r : Res IoError Nat} (read : R.readerRead conn buf = (r, filled, conn')) :
    ∃ filled', R.readerReadBuf conn buf = (r, filled', conn') ∧
      ∀ n, r = .ok n → filled'.take n = filled.take n := by
  have alike := library.readBuf conn buf
  rcases other : R.readerReadBuf conn buf with ⟨r', filled', conn''⟩
  rw [read, other] at alike
  obtain ⟨rfl, rfl, copied⟩ := alike
  exact ⟨filled', rfl, copied⟩

theorem Decrypts.handsBuf (library : Decrypts R V) : Hands V R.readerReadBuf where
  available conn buf room some := by
    obtain ⟨n, filled, conn', read, positive, bound, within, copied, rest⟩ :=
      library.read.available conn buf room some
    obtain ⟨filled', read', alike⟩ := library.readBuf_eq read
    exact ⟨n, filled', conn', read', positive, bound, within, (alike n rfl).trans copied, rest⟩
  exhausted conn buf room none := by
    rw [(library.readBuf conn buf).1, (library.readBuf conn buf).2.1]
    exact library.read.exhausted conn buf room none

theorem Receives.read (library : Receives R V) : Reads V R.readerRead :=
  ⟨library.decrypts.read, library.closes.read⟩

theorem Receives.readBuf (library : Receives R V) : Reads V R.readerReadBuf where
  hands := library.decrypts.handsBuf
  signals.finished conn buf := by
    rw [(library.decrypts.readBuf conn buf).1]
    exact library.closes.read.finished conn buf
  signals.unfinished conn buf := by
    rw [(library.decrypts.readBuf conn buf).1]
    exact library.closes.read.unfinished conn buf
  signals.kept conn buf := by
    rw [(library.decrypts.readBuf conn buf).2.1]
    exact library.closes.read.kept conn buf

theorem Hands.stored {read : Conn → Bytes → Res IoError Nat × Bytes × Conn} (hands : Hands V read)
    {conn conn' : Conn} {buf filled : Bytes} {n : Nat} (room : buf ≠ [])
    (done : read conn buf = (.ok n, filled, conn')) : n ≤ filled.length := by
  by_cases none : V.plaintext conn = []
  · have nothing := (hands.exhausted conn buf room none).2 n (by rw [done])
    rw [nothing]
    exact Nat.zero_le _
  · obtain ⟨_, _, _, done', -, -, within, copied, -⟩ := hands.available conn buf room none
    rw [done] at done'
    cases done'
    have length := congrArg List.length copied
    rw [List.length_take, List.length_take] at length
    omega

theorem History.read_empty (l : Ptr) {n : Addr} {o : Outcome RustlsResult × World Conn S}
    (empty : o.2.cells.size n = 0) : h.read l (some n) o = h := by
  unfold History.read
  split
  next place =>
    obtain rfl := Option.some.inj place
    simp [empty]
  · rfl

theorem take_ne_nil {buf : Bytes} {count : Nat} (positive : 0 < count) (room : count ≤ buf.length) :
    buf.take count ≠ [] := by
  rw [← List.length_pos_iff, List.length_take]
  omega

theorem toReadResult_ne_ok (e : IoError) : e.toReadResult ≠ .ok := by
  cases code : e.kind <;> simp [IoError.toReadResult, code]

/-- While there is plaintext a read delivers the next bytes of it. -/
theorem readPlaintext_delivers {read : Conn → Bytes → Res IoError Nat × Bytes × Conn} (hands : Hands V read)
    (balanced : Balanced V a c w h) {l n : Addr} {count : Nat} (positive : 0 < count)
    (room : count ≤ (w.cells.buf l).length) (more : h.delivered ≠ h.decrypted) :
    let o := readPlaintext read (some a) (some l) count (some n) w
    (∃ c', Balanced V a c' o.2 (h.read (some l) (some n) o)) ∧
      o.1 = .returned .ok ∧ 1 ≤ o.2.cells.size n ∧ o.2.cells.size n ≤ count ∧
      o.2.cells.size n ≤ (o.2.cells.buf l).length ∧
      h.delivered ++ (o.2.cells.buf l).take (o.2.cells.size n) <+: h.decrypted := by
  have offered := take_ne_nil positive room
  obtain ⟨k, filled, conn', done, some, bound, within, copied, rest⟩ :=
    hands.available c.conn _ offered (mt balanced.exhausted.mpr more)
  rw [readPlaintext_read balanced.live room done]
  have stored := hands.stored offered done
  have got : (filled ++ (w.cells.buf l).drop count).take k = (V.plaintext c.conn).take k := by
    rw [List.take_append_of_le_length stored, copied]
  refine ⟨⟨{ c with conn := conn' }, Arena.get_put_same _ balanced.live, ?_⟩, ?_⟩
  · simp [History.read, got, rest, balanced.balance]
  · simp only [Function.update_self, got, balanced.balance]
    refine ⟨trivial, some, ?_, ?_, ?_⟩
    · exact Nat.le_trans bound (List.length_take_le _ _)
    · simp only [List.length_append]
      omega
    · exact (List.prefix_append_right_inj _).mpr (List.take_prefix _ _)

theorem readPlaintext_balanced {read : Conn → Bytes → Res IoError Nat × Bytes × Conn} (hands : Hands V read)
    (balanced : Balanced V a c w h) (buf outN : Ptr) {count : Nat} (positive : 0 < count) :
    let o := readPlaintext read (some a) buf count outN w
    ∃ c', Balanced V a c' o.2 (h.read buf outN o) := by
  intro o
  by_cases somewhere : ∃ l n, buf = some l ∧ outN = some n ∧ count ≤ (w.cells.buf l).length
  · obtain ⟨l, n, rfl, rfl, room⟩ := somewhere
    by_cases none : V.plaintext c.conn = []
    · obtain ⟨left, zero⟩ := hands.exhausted c.conn _ (take_ne_nil positive room) none
      have stays (new : Cells) : Balanced V a { c with conn := (read c.conn ((w.cells.buf l).take count)).2.2 }
          { w.putConn a { c with conn := (read c.conn ((w.cells.buf l).take count)).2.2 } with cells := new } h :=
        balanced.same _ (Arena.get_put_same _ balanced.live) (left.trans none.symm) ⟨rfl, rfl⟩
      rcases done : read c.conn ((w.cells.buf l).take count) with ⟨r, filled, conn'⟩
      rw [done] at zero stays
      refine ⟨{ c with conn := conn' }, ?_⟩
      cases r with
      | ok k =>
        obtain rfl := zero k rfl
        rw [show o = _ from readPlaintext_read balanced.live room done, History.read_empty _ (Function.update_self n 0 _)]
        exact stays _
      | err e =>
        rw [show o = _ from readPlaintext_failed balanced.live room done,
          History.read_failed _ _ _ fun returned => toReadResult_ne_ok e (Outcome.returned.inj returned)]
        exact stays _
      | panic =>
        have failed : (.returned .panic : Outcome RustlsResult) ≠ .returned .ok := by simp
        rw [show o = _ from readPlaintext_panicked balanced.live room done, History.read_failed _ _ _ failed]
        exact stays _
    · exact (readPlaintext_delivers hands balanced positive room (mt balanced.exhausted.mp none)).1
  · obtain ⟨failed, same⟩ := readPlaintext_nowhere read balanced.live somewhere
    refine ⟨c, ?_⟩
    rw [h.read_failed buf outN failed, same]
    exact balanced

theorem readPlaintext_tracks {read : Conn → Bytes → Res IoError Nat × Bytes × Conn} (reads : Reads V read)
    (tracks : Tracks V a c w h) (buf outN : Ptr) {count : Nat} (positive : 0 < count) :
    let o := readPlaintext read (some a) buf count outN w
    ∃ c', Tracks V a c' o.2 (h.read buf outN o) := by
  intro o
  obtain ⟨c', balanced⟩ := readPlaintext_balanced reads.hands tracks.balanced buf outN positive
  obtain ⟨⟨c'', live, same⟩, app⟩ :=
    readPlaintext_conn (fun _ => ⟨rfl, rfl, rfl⟩) reads.signals.kept tracks.balanced.live buf count outN
  obtain rfl := Option.some.inj (live.symm.trans balanced.live)
  refine ⟨c'', balanced, tracks.follows.same c'' same (h.read_end buf outN _) ?_⟩
  rw [app]

/-- A read reports what it has to. -/
theorem readPlaintext_reported {read : Conn → Bytes → Res IoError Nat × Bytes × Conn} (reads : Reads V read)
    (tracks : Tracks V a c w h) {l n : Addr} {count : Nat} (positive : 0 < count)
    (room : count ≤ (w.cells.buf l).length) :
    Reported V h w l n count (readPlaintext read (some a) (some l) count (some n) w) := by
  have offered := take_ne_nil positive room
  by_cases more : h.delivered = h.decrypted
  · have none := tracks.balanced.exhausted.mp more
    rw [Reported, if_neg (not_not_intro more), tracks.follows.finished]
    cases finished : V.finished c.conn with
    | true =>
      have nothing := reads.signals.finished c.conn _ offered none finished
      rcases done : read c.conn ((w.cells.buf l).take count) with ⟨r, filled, conn'⟩
      rw [done] at nothing
      obtain rfl : r = .ok 0 := nothing
      rw [readPlaintext_read tracks.balanced.live room done]
      exact ⟨rfl, Function.update_self n 0 _⟩
    | false =>
      obtain ⟨e, failed, kind⟩ := reads.signals.unfinished c.conn _ offered none finished
      rcases done : read c.conn ((w.cells.buf l).take count) with ⟨r, filled, conn'⟩
      rw [done] at failed
      obtain rfl : r = .err e := failed
      rw [readPlaintext_failed tracks.balanced.live room done, IoError.toReadResult, kind]
      cases seen : V.seenEof c.conn with
      | true => simp [tracks.follows.eof.mp seen]
      | false =>
        have unended : ended ∉ V.reports w.app := fun member => by simp [tracks.follows.eof.mpr member] at seen
        simp [unended]
  · rw [Reported, if_pos more]
    exact (readPlaintext_delivers reads.hands tracks.balanced positive room more).2

/-- The two functions agree on everything but memory past what was read. -/
theorem read2_alike (library : Decrypts R V) (live : Arena.get w.conns a = some c) {l n : Addr} {count : Nat}
    (positive : 0 < count) (room : count ≤ (w.cells.buf l).length) :
    let o := rustlsConnectionRead R (some a) (some l) count (some n) w
    let o₂ := rustlsConnectionRead2 R (some a) (some l) count (some n) w
    o₂.1 = o.1 ∧ o₂.2.cells.size = o.2.cells.size ∧ o₂.2.conns = o.2.conns ∧
      (o.1 = .returned .ok →
        (o₂.2.cells.buf l).take (o₂.2.cells.size n) = (o.2.cells.buf l).take (o.2.cells.size n)) := by
  have offered := take_ne_nil positive room
  unfold rustlsConnectionRead rustlsConnectionRead2
  rcases done : R.readerRead c.conn ((w.cells.buf l).take count) with ⟨r, filled, conn'⟩
  obtain ⟨filled', done', alike⟩ := library.readBuf_eq done
  cases r with
  | ok k =>
    rw [readPlaintext_read live room done, readPlaintext_read live room done']
    refine ⟨rfl, rfl, rfl, fun _ => ?_⟩
    simp only [Function.update_self]
    rw [List.take_append_of_le_length (library.handsBuf.stored offered done'),
      List.take_append_of_le_length (library.read.stored offered done), alike k rfl]
  | err e =>
    rw [readPlaintext_failed live room done, readPlaintext_failed live room done']
    exact ⟨rfl, rfl, rfl, fun returned => absurd (Outcome.returned.inj returned) (toReadResult_ne_ok e)⟩
  | panic =>
    rw [readPlaintext_panicked live room done, readPlaintext_panicked live room done']
    exact ⟨rfl, rfl, rfl, fun returned => nomatch returned⟩

theorem Reported.code_eq {w' : World Conn S} {l n : Addr} {count : Nat}
    {o o' : Outcome RustlsResult × World Conn S} (before : Reported V h w l n count o)
    (after : Reported V h w' l n count o') (same : ended ∈ V.reports w'.app ↔ ended ∈ V.reports w.app) :
    o'.1 = o.1 := by
  unfold Reported at before after
  simp only [same] at after
  split_ifs at before after
  · exact after.1.trans before.1.symm
  · exact after.1.trans before.1.symm
  · exact after.trans before.symm
  · exact after.trans before.symm

/-! ### TLS bytes come in -/

theorem Honest.received {callback : ReadCallback S} (honest : Honest V callback) {u : VoidPtr} {buf buf' : Bytes}
    {s s' : S} {n : Nat} (called : CallbackReader.read ⟨callback, u⟩ buf s = (.ok n, buf', s')) :
    n ≤ buf.length ∧ V.reports s' = V.reports s ++ [⟨⟨0⟩, n⟩] := by
  obtain ⟨within, report⟩ := honest u buf s
  rcases reply : callback u buf s with ⟨out, filled, t⟩
  rw [reply] at within report
  simp only [CallbackReader.read, reply, Prod.mk.injEq] at called
  obtain ⟨read, rfl, rfl⟩ := called
  obtain rfl := IoReturn.toResult_ok read
  exact ⟨within rfl, report⟩

theorem Honest.failed {callback : ReadCallback S} (honest : Honest V callback) {u : VoidPtr} {buf buf' : Bytes}
    {s s' : S} {e : IoError} (called : CallbackReader.read ⟨callback, u⟩ buf s = (.error e, buf', s')) :
    ∃ out : IoReturn, out.result.code ≠ 0 ∧ e = .os out.result.code ∧ V.reports s' = V.reports s ++ [out] := by
  obtain ⟨-, report⟩ := honest u buf s
  rcases reply : callback u buf s with ⟨out, filled, t⟩
  rw [reply] at report
  simp only [CallbackReader.read, reply, Prod.mk.injEq] at called
  obtain ⟨failed, rfl, rfl⟩ := called
  obtain ⟨nonzero, rfl⟩ := IoReturn.toResult_error failed
  exact ⟨out, nonzero, rfl, report⟩

theorem Honest.bounded {callback : ReadCallback S} (honest : Honest V callback) (u : VoidPtr) :
    Bounded (CallbackReader.read ⟨callback, u⟩) := by
  intro buf s n read
  rcases called : CallbackReader.read ⟨callback, u⟩ buf s with ⟨r, buf', s'⟩
  rw [called] at read
  obtain rfl : r = .ok n := read
  exact (honest.received called).1

theorem ended_append {reports : List IoReturn} {out : IoReturn} (nonzero : out.result.code ≠ 0) :
    ended ∈ reports ++ [out] ↔ ended ∈ reports := by
  have unended : ended ≠ out := by
    rintro rfl
    exact nonzero rfl
  rw [List.mem_append, List.mem_singleton, or_iff_left unended]

theorem readTls_balanced (library : Decrypts R V) (balanced : Balanced V a c w h) {callback : ReadCallback S}
    (honest : Honest V callback) (userdata : VoidPtr) (l : Addr) :
    let o := rustlsConnectionReadTls R (some a) (some callback) userdata (some l) w
    ∃ c', Balanced V a c' o.2 (h.received (some l) o) := by
  intro o
  have live := (readTls_conn (R := R) balanced.live callback userdata l).1
  exact ⟨_, balanced.same _ live (library.readTls c.conn _ w.app (honest.bounded userdata)) (h.received_bytes _ _)⟩

/-- `read_tls` passes on what the callback returns. A success with 0 bytes ends the transport, and other bytes wait
to be processed. -/
theorem readTls_follows (library : Closes R V) (live : Arena.get w.conns a = some c) (follows : Follows V c w h)
    {callback : ReadCallback S} (honest : Honest V callback) (userdata : VoidPtr) (l : Addr) :
    let o := rustlsConnectionReadTls R (some a) (some callback) userdata (some l) w
    (∃ c', Arena.get o.2.conns a = some c' ∧ Follows V c' o.2 (h.received (some l) o)) ∧ o.2.cells.buf = w.cells.buf ∧
      (o.1 = .returned ⟨ EIO⟩ ∧ V.reports o.2.app = V.reports w.app ∨
        ∃ out, V.reports o.2.app = V.reports w.app ++ [out] ∧ o.1 = .returned out.result ∧
          (out.result.code = 0 → o.2.cells.size l = out.outN)) := by
  intro o
  rcases library.readTls c.conn (CallbackReader.read ⟨callback, userdata⟩) w.app (honest.bounded userdata) with
    ⟨e, conn', refused, own, same⟩ | ⟨buf, n, buf', s', conn', called, received, closed, waiting, eof⟩ |
    ⟨buf, e, buf', s', conn', called, failed, same⟩
  · have code : e.toIoResult = ⟨ EIO⟩ := by simp [IoError.toIoResult, own]
    rw [show o = _ from readTls_failed live refused, h.received_failed _ rfl (by rw [code]; decide)]
    exact ⟨⟨_, Arena.get_put_same _ live, follows.same { c with conn := conn' } same ⟨rfl, rfl⟩ Iff.rfl⟩, rfl,
      .inl ⟨by rw [code], rfl⟩⟩
  · have report := (honest.received called).2
    rw [show o = _ from readTls_received live received]
    refine ⟨⟨{ c with conn := conn' }, Arena.get_put_same _ live, ?_, ?_, ?_⟩, rfl,
      .inr ⟨_, report, rfl, fun _ => Function.update_self l _ _⟩⟩
    · exact follows.closed.trans closed.symm
    · rw [waiting, ← follows.waiting]
      simp [History.received]
    · have last : n = 0 ↔ ended = ⟨⟨0⟩, n⟩ := by simp [ended, eq_comm]
      simp only [eof, report, Bool.or_eq_true, beq_iff_eq, List.mem_append, List.mem_singleton, follows.eof, last]
  · obtain ⟨out, nonzero, rfl, report⟩ := honest.failed called
    rw [show o = _ from readTls_failed live failed, h.received_failed _ rfl nonzero]
    refine ⟨⟨_, Arena.get_put_same _ live, follows.same { c with conn := conn' } same ⟨rfl, rfl⟩ ?_⟩, rfl,
      .inr ⟨out, report, rfl, fun zero => absurd zero nonzero⟩⟩
    rw [report, ended_append nonzero]

theorem readTls_tracks (library : Receives R V) (tracks : Tracks V a c w h) {callback : ReadCallback S}
    (honest : Honest V callback) (userdata : VoidPtr) (l : Addr) :
    let o := rustlsConnectionReadTls R (some a) (some callback) userdata (some l) w
    ∃ c', Tracks V a c' o.2 (h.received (some l) o) := by
  intro o
  obtain ⟨c', balanced⟩ := readTls_balanced library.decrypts tracks.balanced honest userdata l
  obtain ⟨⟨c'', live, follows⟩, -⟩ :=
    readTls_follows library.closes tracks.balanced.live tracks.follows honest userdata l
  obtain rfl := Option.some.inj (live.symm.trans balanced.live)
  exact ⟨c'', balanced, follows⟩

/-! ### Processing -/

theorem process_balanced (library : Decrypts R V) (balanced : Balanced V a c w h) :
    let w' := (rustlsConnectionProcessNewPackets R.processNewPackets (some a) w).2
    ∃ c', Balanced V a c' w' (h.processed V (Arena.get w.conns a) (Arena.get w'.conns a)) := by
  intro w'
  by_cases usable : w.userdata.Usable
  · obtain ⟨c', live, added, more⟩ := library.process a (w.enter c) c balanced.live
    obtain ⟨k, entered⟩ := processNewPackets_entered (f := R.processNewPackets) usable balanced.live
    have live' : Arena.get w'.conns a = some c' := by
      rw [show w' = _ from entered]
      exact live
    rw [balanced.live, live']
    refine ⟨c', live', ?_⟩
    simp [History.processed, ← more, balanced.balance]
  · have same : w' = w := processNewPackets_refused usable
    rw [same, balanced.live]
    refine ⟨c, balanced.live, ?_⟩
    simp [History.processed, balanced.balance]

theorem process_follows (library : Closes R V) (live : Arena.get w.conns a = some c) (follows : Follows V c w h) :
    let w' := (rustlsConnectionProcessNewPackets R.processNewPackets (some a) w).2
    ∀ c', Arena.get w'.conns a = some c' →
      Follows V c' w' (h.processed V (Arena.get w.conns a) (Arena.get w'.conns a)) := by
  intro w' c' live'
  rw [live, live']
  by_cases usable : w.userdata.Usable
  · obtain ⟨k, entered⟩ := processNewPackets_entered (f := R.processNewPackets) usable live
    have after : w' = { (R.processNewPackets a (w.enter c)).2 with userdata := k } := entered
    have found : Arena.get (R.processNewPackets a (w.enter c)).2.conns a = some c' := by
      rw [← live', after]
    obtain ⟨closed, eof, reports⟩ := library.process a (w.enter c) c c' live found
    refine ⟨?_, rfl, ?_⟩
    · simp only [History.processed, follows.closed]
      cases known : V.closed c.conn with
      | false => rfl
      | true => rw [closed known, Bool.or_self]
    · rw [eof, after]
      exact follows.eof.trans (by rw [reports]; rfl)
  · have same : w' = w := processNewPackets_refused usable
    obtain rfl : c = c' := Option.some.inj (live.symm.trans (same ▸ live'))
    rw [same]
    refine ⟨?_, rfl, follows.eof⟩
    simp [History.processed, follows.closed]

theorem process_tracks (library : Receives R V) (tracks : Tracks V a c w h) :
    let w' := (rustlsConnectionProcessNewPackets R.processNewPackets (some a) w).2
    ∃ c', Tracks V a c' w' (h.processed V (Arena.get w.conns a) (Arena.get w'.conns a)) := by
  intro w'
  obtain ⟨c', balanced⟩ := process_balanced library.decrypts tracks.balanced
  exact ⟨c', balanced, process_follows library.closes tracks.balanced.live tracks.follows c' balanced.live⟩

/-! ### Whole runs -/

theorem advance_tracks (library : Receives R V) (tracks : Tracks V a c w h) {step : Step Conn S}
    (valid : step.Valid V a) :
    ∃ c', Tracks V a c' (advance R V a (w, h) step).1 (advance R V a (w, h) step).2 := by
  cases step with
  | readTls callback userdata outN =>
    cases outN with
    | none =>
      rw [advance, readTls_nowhere tracks.balanced.live]
      exact ⟨c, tracks⟩
    | some l => exact readTls_tracks library tracks valid userdata l
  | processNewPackets => exact process_tracks library tracks
  | read buf count outN => exact readPlaintext_tracks library.read tracks buf outN valid
  | read2 buf count outN => exact readPlaintext_tracks library.readBuf tracks buf outN valid
  | elsewhere f =>
    obtain ⟨c', live, same, reports⟩ := valid w c tracks.balanced.live
    exact ⟨c', tracks.same c' live same reports⟩

theorem foldl_tracks (library : Receives R V) (steps : List (Step Conn S)) (valid : ∀ step ∈ steps, step.Valid V a)
    (tracks : Tracks V a c w h) :
    ∃ c', Tracks V a c' (steps.foldl (advance R V a) (w, h)).1 (steps.foldl (advance R V a) (w, h)).2 := by
  induction steps generalizing c w h with
  | nil => exact ⟨c, tracks⟩
  | cons step rest ih =>
    obtain ⟨c', tracks⟩ := advance_tracks library tracks (valid step (by simp))
    exact ih (fun step member => valid step (by simp [member])) tracks

end

/-- In every state of every run, what has been delivered is a prefix of what was decrypted, and a
further read by either function reports what it has to: bytes while there are some, then a clean
close exactly if the close_notify has been processed and nothing that came in is left to process, and
otherwise an unexpected end exactly if a callback has reported one. What a callback returns is passed on,
and after an error of the callback a read reports what it would have reported before. -/
theorem plaintext_stream_integrity {R : Rustls Conn S} {V : View Conn S} (library : Receives R V) {a : Addr}
    {w₀ : World Conn S} {c₀ : Connection Conn} (fresh : Fresh V a w₀ c₀) (steps : List (Step Conn S))
    (valid : ∀ step ∈ steps, step.Valid V a) :
    let w := (play R V a w₀ steps).1
    let h := (play R V a w₀ steps).2
    h.delivered <+: h.decrypted ∧
    (∀ l n count, 0 < count → count ≤ (w.cells.buf l).length →
      Reported V h w l n count (rustlsConnectionRead R (some a) (some l) count (some n) w) ∧
      Reported V h w l n count (rustlsConnectionRead2 R (some a) (some l) count (some n) w) ∧
      let o := rustlsConnectionRead R (some a) (some l) count (some n) w
      let o₂ := rustlsConnectionRead2 R (some a) (some l) count (some n) w
      o₂.1 = o.1 ∧ o₂.2.cells.size = o.2.cells.size ∧ o₂.2.conns = o.2.conns ∧
        (o.1 = .returned .ok → (o₂.2.cells.buf l).take (o₂.2.cells.size n) = (o.2.cells.buf l).take (o.2.cells.size n))) ∧
    ∀ callback userdata k, Honest V callback →
      let o := rustlsConnectionReadTls R (some a) (some callback) userdata (some k) w
      (o.1 = .returned ⟨ EIO⟩ ∧ V.reports o.2.app = V.reports w.app) ∨
      ∃ out, V.reports o.2.app = V.reports w.app ++ [out] ∧ o.1 = .returned out.result ∧
        (out.result.code = 0 → o.2.cells.size k = out.outN) ∧
        (out.result.code ≠ 0 → ∀ l n count, 0 < count → count ≤ (w.cells.buf l).length →
          (rustlsConnectionRead R (some a) (some l) count (some n) o.2).1 =
            (rustlsConnectionRead R (some a) (some l) count (some n) w).1) := by
  intro w h
  obtain ⟨c, tracks⟩ : ∃ c, Tracks V a c w h := foldl_tracks library steps valid fresh.tracks
  refine ⟨tracks.balanced.initial, ?_, ?_⟩
  · intro l n count positive room
    exact ⟨readPlaintext_reported library.read tracks positive room,
      readPlaintext_reported library.readBuf tracks positive room,
      read2_alike library.decrypts tracks.balanced.live positive room⟩
  · intro callback userdata k honest o
    obtain ⟨c', after⟩ := readTls_tracks library tracks honest userdata k
    obtain ⟨-, memory, refused | ⟨out, report, passed, size⟩⟩ :=
      readTls_follows library.closes tracks.balanced.live tracks.follows honest userdata k
    · exact .inl refused
    · refine .inr ⟨out, report, passed, size, fun nonzero l n count positive room => ?_⟩
      rw [h.received_failed _ passed nonzero] at after
      have same : ended ∈ V.reports o.2.app ↔ ended ∈ V.reports w.app := by
        rw [report, ended_append nonzero]
      have room' : count ≤ (o.2.cells.buf l).length := by rwa [memory]
      exact (readPlaintext_reported library.read tracks positive room).code_eq
        (readPlaintext_reported library.read after positive room') same

/-! ### A library that meets the assumptions -/

/-- A connection without a cipher, with records of two bytes: 0 comes first in the close_notify, and any other
byte before a byte of plaintext. A byte without its second one has to wait. -/
structure Pipe where
  received : Bytes := []
  waiting : Bool := false
  plaintext : Bytes := []
  closed : Bool := false
  seenEof : Bool := false

namespace Pipe

/-- The reader has stored `n` bytes. -/
def take (p : Pipe) (n : Nat) : Pipe :=
  { p with waiting := p.waiting || n != 0, seenEof := p.seenEof || n == 0 }

def deframe (p : Pipe) : Bytes → Pipe
  | kind :: byte :: rest =>
    deframe (if kind = 0 then { p with closed := true } else { p with plaintext := p.plaintext ++ [byte] }) rest
  | rest => { p with received := rest, waiting := !rest.isEmpty }

def process (p : Pipe) : Pipe := p.deframe p.received

def read (p : Pipe) (buf : Bytes) : Res IoError Nat × Bytes × Pipe :=
  if p.plaintext = [] then
    if p.closed && !p.waiting then (.ok 0, buf, p)
    else (.err (.simple (if p.seenEof then .unexpectedEof else .wouldBlock)), buf, p)
  else
    let n := min buf.length p.plaintext.length
    (.ok n, p.plaintext.take n ++ buf.drop n, { p with plaintext := p.plaintext.drop n })

theorem deframe_plaintext (p : Pipe) (bytes : Bytes) : p.plaintext <+: (p.deframe bytes).plaintext := by
  fun_induction deframe p bytes with
  | case1 p kind byte rest ih =>
    refine .trans ?_ ih
    split
    · exact List.prefix_rfl
    · exact List.prefix_append _ _
  | case2 p rest => exact List.prefix_rfl

theorem deframe_end (p : Pipe) (bytes : Bytes) :
    (p.closed = true → (p.deframe bytes).closed = true) ∧ (p.deframe bytes).seenEof = p.seenEof := by
  fun_induction deframe p bytes with
  | case1 p kind byte rest ih =>
    by_cases close : kind = 0
    · rw [if_pos close] at ih ⊢
      exact ⟨fun _ => ih.1 rfl, ih.2⟩
    · rw [if_neg close] at ih ⊢
      exact ih
  | case2 p rest => exact ⟨id, rfl⟩

end Pipe

def pipeLibrary : Rustls Pipe (List IoReturn) :=
  { Rustls.inert {} with
    readTls := fun p reader s =>
      match reader [0, 0, 0, 0] s with
      | (.ok n, buf, s) => (.ok n, { p.take n with received := p.received ++ buf.take n }, s)
      | (.error e, _, s) => (.err e, p, s)
    processNewPackets := fun a w =>
      match Arena.get w.conns a with
      | some c => (.ok (), w.putConn a { c with conn := c.conn.process })
      | none => (.panic, w)
    readerRead := Pipe.read
    readerReadBuf := Pipe.read }

def pipeView : View Pipe (List IoReturn) := ⟨Pipe.plaintext, Pipe.closed, Pipe.waiting, Pipe.seenEof, id⟩

theorem pipe_reads : Reads pipeView Pipe.read where
  hands.available p buf room some := by
    have full : p.plaintext ≠ [] := some
    have first := List.length_pos_iff.mpr room
    have second := List.length_pos_iff.mpr full
    refine ⟨min buf.length p.plaintext.length, _,
      { p with plaintext := p.plaintext.drop (min buf.length p.plaintext.length) },
      by rw [Pipe.read, if_neg full], ?_, ?_, ?_, ?_, rfl⟩
    · omega
    · omega
    · exact Nat.min_le_right _ _
    · simp [pipeView]
  hands.exhausted p buf room none := by
    have empty : p.plaintext = [] := none
    rw [Pipe.read, if_pos empty]
    split
    · exact ⟨empty, fun n read => (Res.ok.inj read).symm⟩
    · exact ⟨empty, fun n read => nomatch read⟩
  signals.finished p buf room none finished := by
    have empty : p.plaintext = [] := none
    have complete : (p.closed && !p.waiting) = true := finished
    rw [Pipe.read, if_pos empty, if_pos complete]
  signals.unfinished p buf room none unfinished := by
    have empty : p.plaintext = [] := none
    have going : ¬ (p.closed && !p.waiting) = true := Bool.eq_false_iff.mp unfinished
    rw [Pipe.read, if_pos empty, if_neg going]
    exact ⟨_, rfl, rfl⟩
  signals.kept p buf := by
    unfold Pipe.read
    split
    · split <;> exact ⟨rfl, rfl, rfl⟩
    · exact ⟨rfl, rfl, rfl⟩

theorem pipeLibrary_receives : Receives pipeLibrary pipeView where
  decrypts.readTls p reader s bounded := by
    rcases called : reader [0, 0, 0, 0] s with ⟨e | n, buf, s'⟩
    · simp only [pipeLibrary, called]
    · simp only [pipeLibrary, called]
      rfl
  decrypts.process a w c live := by
    simp only [pipeLibrary, live]
    exact ⟨_, Arena.get_put_same _ live, c.conn.deframe_plaintext c.conn.received⟩
  decrypts.read := pipe_reads.hands
  decrypts.readBuf _ _ := ⟨rfl, rfl, fun _ _ => rfl⟩
  closes.readTls p reader s bounded := by
    rcases called : reader [0, 0, 0, 0] s with ⟨e | n, buf, s'⟩
    · exact .inr (.inr ⟨_, e, buf, s', p, called, by simp only [pipeLibrary, called], rfl, rfl, rfl⟩)
    · exact .inr (.inl ⟨_, n, buf, s', { p.take n with received := p.received ++ buf.take n }, called,
        by simp only [pipeLibrary, called], rfl, rfl, rfl⟩)
  closes.process a w c c' live after := by
    simp only [pipeLibrary, live] at after ⊢
    obtain rfl := Option.some.inj ((Arena.get_put_same _ live).symm.trans after)
    obtain ⟨closed, eof⟩ := c.conn.deframe_end c.conn.received
    exact ⟨closed, eof, rfl⟩
  closes.read := pipe_reads.signals

/-- A callback that stores what it has, as far as there is room. -/
def having (bytes : Bytes) : ReadCallback (List IoReturn) := fun _ buf s =>
  (⟨⟨0⟩, min bytes.length buf.length⟩, bytes.take buf.length ++ buf.drop bytes.length,
    s ++ [⟨⟨0⟩, min bytes.length buf.length⟩])

/-- A callback that fails with `EAGAIN`. -/
def blocking : ReadCallback (List IoReturn) := fun _ buf s => (⟨⟨11⟩, 0⟩, buf, s ++ [⟨⟨11⟩, 0⟩])

theorem having_honest (bytes : Bytes) : Honest pipeView (having bytes) :=
  fun _ _ _ => ⟨fun _ => Nat.min_le_right _ _, rfl⟩

theorem blocking_honest : Honest pipeView blocking := fun _ _ _ => ⟨nofun, rfl⟩

def opened : World Pipe (List IoReturn) :=
  { (World.initial [] : World Pipe (List IoReturn)) with
    conns := [some ⟨{}, .client, [], none, none⟩]
    cells.buf := fun _ => [0, 0, 0] }

theorem opened_fresh : Fresh pipeView 0 opened ⟨{}, .client, [], none, none⟩ := ⟨rfl, rfl, rfl, rfl, rfl, rfl⟩

/-- Two bytes come in and are read, and then the transport ends. -/
def truncated : List (Step Pipe (List IoReturn)) :=
  [.readTls (having [1, 7, 1, 8]) none (some 0), .processNewPackets, .readTls blocking none (some 0),
    .read (some 0) 1 (some 0), .readTls (having []) none (some 0), .read2 (some 0) 1 (some 0)]

theorem plaintext_stream_integrity_truncated :
    let w := (play pipeLibrary pipeView 0 opened truncated).1
    (play pipeLibrary pipeView 0 opened truncated).2.delivered = [7, 8] ∧
      (rustlsConnectionRead pipeLibrary (some 0) (some 0) 2 (some 0) w).1 = .returned .unexpectedEof := by
  intro w
  have valid : ∀ step ∈ truncated, step.Valid pipeView 0 := by
    simp [truncated, Step.Valid, having_honest, blocking_honest]
  have reported := ((plaintext_stream_integrity pipeLibrary_receives opened_fresh truncated valid).2.1 0 0 2
    (by decide) (by decide +kernel)).1
  refine ⟨by decide +kernel, ?_⟩
  rwa [Reported, if_neg (by decide +kernel), if_neg (by decide +kernel), if_pos (by decide +kernel)] at reported

/-- The close_notify comes in with one byte more, and is processed. -/
def stray : List (Step Pipe (List IoReturn)) := [.readTls (having [0, 0, 1]) none (some 0), .processNewPackets]

/-- A read after the close_notify has been processed need not report a clean close. As long as the stray byte waits
there is no plaintext yet, and once the transport has ended the stream counts as truncated. -/
theorem truncated_after_close :
    let steps := stray ++ [.readTls (having []) none (some 0)]
    let before := play pipeLibrary pipeView 0 opened stray
    let after := play pipeLibrary pipeView 0 opened steps
    Receives pipeLibrary pipeView ∧ Fresh pipeView 0 opened ⟨{}, .client, [], none, none⟩ ∧
      (∀ step ∈ steps, step.Valid pipeView 0) ∧
      before.2.closed = true ∧ before.2.delivered = before.2.decrypted ∧
      (rustlsConnectionRead pipeLibrary (some 0) (some 0) 2 (some 0) before.1).1 = .returned .plaintextEmpty ∧
      after.2.closed = true ∧ after.2.delivered = after.2.decrypted ∧
      ¬ ((rustlsConnectionRead pipeLibrary (some 0) (some 0) 2 (some 0) after.1).1 = .returned .unexpectedEof ↔
        after.2.closed = false ∧ ended ∈ pipeView.reports after.1.app) := by
  refine ⟨pipeLibrary_receives, opened_fresh, ?_, by decide +kernel, by decide +kernel, by decide +kernel,
    by decide +kernel, by decide +kernel, by decide +kernel⟩
  simp [stray, Step.Valid, having_honest]

end RustlsFfi.Plaintext
