import RustlsFfi.Model.Connection

/-!
# Outgoing TLS bytes

Bytes leave a connection through the callbacks of `rustls_connection_write_tls` and
`rustls_connection_write_tls_vectored`, which take as much as they like of what they are offered.
-/

namespace RustlsFfi.Outgoing
open Control

variable {Conn S : Type}

/-! ### What is assumed of rustls and of the callbacks -/

/-- `write_tls` of rustls, over the chunks a connection has queued: it offers at most 64 of them to
`write_vectored`, takes off what was accepted, and passes an error on. -/
structure SendsQueue (R : Rustls Conn S) (chunks : Conn → List Bytes) : Prop where
  idle : ∀ conn writer s, chunks conn = [] →
    ∃ conn', R.writeTls conn writer s = (.ok 0, conn', s) ∧ chunks conn' = []
  sent : ∀ conn writer s n s', chunks conn ≠ [] →
    writer.writeVectored ((chunks conn).take 64) s = (.ok n, s') →
    ∃ conn', R.writeTls conn writer s = (.ok n, conn', s') ∧
      (chunks conn').flatten = (chunks conn).flatten.drop n
  failed : ∀ conn writer s e s', chunks conn ≠ [] →
    writer.writeVectored ((chunks conn).take 64) s = (.error e, s') →
    ∃ conn', R.writeTls conn writer s = (.err e, conn', s') ∧ chunks conn' = chunks conn

/-- A call of one of the two functions, by its callback and the callback's userdata. -/
inductive SendCall (S : Type) where
  | writeTls (callback : WriteCallback S) (userdata : VoidPtr)
  | writeTlsVectored (callback : VectoredWriteCallback S) (userdata : VoidPtr)

namespace SendCall

def exec (R : Rustls Conn S) (conn outN : Ptr) : SendCall S → Api Conn S RustlsIoResult
  | .writeTls callback userdata => rustlsConnectionWriteTls R conn (some callback) userdata outN
  | .writeTlsVectored callback userdata =>
    rustlsConnectionWriteTlsVectored R conn (some callback) userdata outN

def offered (queue : List Bytes) : SendCall S → Bytes
  | .writeTls _ _ => firstNonEmpty (queue.take 64)
  | .writeTlsVectored _ _ => (queue.take 64).flatten

def reply (queue : List Bytes) (s : S) : SendCall S → IoReturn × S
  | .writeTls callback userdata => callback userdata (firstNonEmpty (queue.take 64)) s
  | .writeTlsVectored callback userdata => callback userdata (queue.take 64) s

/-- The callback fails with any code but 0, or accepts a prefix of what it is offered. `sent` is
what the callbacks have accepted so far. -/
def Honest (sent : S → Bytes) (call : SendCall S) : Prop :=
  ∀ queue s,
    if (call.reply queue s).1.result.code = 0 then
      (call.reply queue s).1.outN ≤ (call.offered queue).length ∧
        sent (call.reply queue s).2 = sent s ++ (call.offered queue).take (call.reply queue s).1.outN
    else sent (call.reply queue s).2 = sent s

end SendCall

/-- What one call must do: `c` and `c'` are the connection before and after. -/
def Delivers (chunks : Conn → List Bytes) (sent : S → Bytes) (call : SendCall S) (l : Addr)
    (w : World Conn S) (c c' : Connection Conn) (o : Outcome RustlsIoResult × World Conn S) : Prop :=
  if chunks c.conn = [] then
    o.1 = .returned ⟨0⟩ ∧ o.2.cells.size l = 0 ∧ chunks c'.conn = [] ∧ sent o.2.app = sent w.app
  else
    let answer := (call.reply (chunks c.conn) w.app).1
    if answer.result.code = 0 then
      o.1 = .returned ⟨0⟩ ∧ o.2.cells.size l = answer.outN ∧
        answer.outN ≤ (chunks c.conn).flatten.length ∧
        sent o.2.app = sent w.app ++ (chunks c.conn).flatten.take answer.outN ∧
        (chunks c'.conn).flatten = (chunks c.conn).flatten.drop answer.outN
    else
      o.1 = .returned answer.result ∧ o.2.cells = w.cells ∧ chunks c'.conn = chunks c.conn ∧
        sent o.2.app = sent w.app

/-- Runs on connection `a`, with every byte appended to its queue so far. Any other activity may
append chunks. -/
inductive Run (R : Rustls Conn S) (chunks : Conn → List Bytes) (sent : S → Bytes) (a : Addr)
    (w₀ : World Conn S) (appended₀ : Bytes) : World Conn S → Bytes → Prop where
  | start : Run R chunks sent a w₀ appended₀ w₀ appended₀
  | append {w w' appended added} {c c' : Connection Conn} (run : Run R chunks sent a w₀ appended₀ w appended)
      (before : Arena.get w.conns a = some c) (after : Arena.get w'.conns a = some c')
      (more : chunks c'.conn = chunks c.conn ++ added) (same : sent w'.app = sent w.app) :
      Run R chunks sent a w₀ appended₀ w' (appended ++ added.flatten)
  | send {w appended call outN} (run : Run R chunks sent a w₀ appended₀ w appended)
      (honest : SendCall.Honest sent call) :
      Run R chunks sent a w₀ appended₀ (call.exec R (some a) outN w).2 appended

/-! ### Offers are prefixes of the queue -/

theorem firstNonEmpty_initial (bufs : List Bytes) : firstNonEmpty bufs <+: bufs.flatten := by
  induction bufs with
  | nil => exact List.prefix_rfl
  | cons b rest ih =>
    cases b with
    | nil => simpa [firstNonEmpty] using ih
    | cons x b => simp [firstNonEmpty]

theorem offered_initial (queue : List Bytes) (call : SendCall S) :
    call.offered queue <+: queue.flatten := by
  have window : (queue.take 64).flatten <+: queue.flatten := by
    conv => rhs; rw [← List.take_append_drop 64 queue, List.flatten_append]
    exact List.prefix_append _ _
  cases call with
  | writeTls callback userdata => exact (firstNonEmpty_initial _).trans window
  | writeTlsVectored callback userdata => exact window

theorem take_offered {queue : List Bytes} {call : SendCall S} {n : Nat}
    (within : n ≤ (call.offered queue).length) :
    (call.offered queue).take n = queue.flatten.take n := by
  obtain ⟨rest, split⟩ := offered_initial queue call
  rw [← split, List.take_append_of_le_length within]

/-! ### One call -/

def SendCall.writer : SendCall S → Writer S
  | .writeTls callback userdata => CallbackWriter.toWriter ⟨callback, userdata⟩
  | .writeTlsVectored callback userdata => VectoredCallbackWriter.toWriter ⟨callback, userdata⟩

theorem exec_eq (R : Rustls Conn S) (conn outN : Ptr) (call : SendCall S) :
    call.exec R conn outN = RustlsFfi.writeTls R SendCall.writer conn (some call) outN := by
  cases call <;> rfl

theorem writeVectored_eq (queue : List Bytes) (s : S) (call : SendCall S) :
    call.writer.writeVectored (queue.take 64) s =
      ((call.reply queue s).1.toResult, (call.reply queue s).2) := by
  cases call <;> rfl

theorem exec_delivers {R : Rustls Conn S} {chunks : Conn → List Bytes} {sent : S → Bytes}
    (library : SendsQueue R chunks) {call : SendCall S} (honest : call.Honest sent) {a : Addr} (l : Addr)
    {w : World Conn S} {c : Connection Conn} (live : Arena.get w.conns a = some c) :
    ∃ c', Arena.get (call.exec R (some a) (some l) w).2.conns a = some c' ∧
      Delivers chunks sent call l w c c' (call.exec R (some a) (some l) w) := by
  have accepted := honest (chunks c.conn) w.app
  have answer := writeVectored_eq (chunks c.conn) w.app call
  rw [exec_eq]
  by_cases queue : chunks c.conn = []
  · obtain ⟨conn', wrote, empty⟩ := library.idle c.conn call.writer w.app queue
    rw [writeTls_sent live wrote]
    exact ⟨_, Arena.get_put_same _ live, by simp [Delivers, queue, empty]⟩
  · by_cases code : (call.reply (chunks c.conn) w.app).1.result.code = 0
    · rw [if_pos code] at accepted
      rw [IoReturn.toResult, if_pos code] at answer
      obtain ⟨conn', wrote, rest⟩ := library.sent _ _ _ _ _ queue answer
      rw [writeTls_sent live wrote]
      refine ⟨_, Arena.get_put_same _ live, ?_⟩
      have bound := Nat.le_trans accepted.1 (offered_initial (chunks c.conn) call).length_le
      have took := accepted.2
      rw [take_offered accepted.1] at took
      simp only [Delivers, queue, code, ↓reduceIte, Function.update_self]
      exact ⟨trivial, trivial, bound, took, rest⟩
    · rw [if_neg code] at accepted
      rw [IoReturn.toResult, if_neg code] at answer
      obtain ⟨conn', wrote, rest⟩ := library.failed _ _ _ _ _ queue answer
      rw [writeTls_failed live wrote]
      refine ⟨_, Arena.get_put_same _ live, ?_⟩
      simp [Delivers, queue, code, accepted, rest, IoError.toIoResult, IoError.fromRawOsError,
        IoError.rawOsError, World.putConn]

/-- Whatever a call takes off the queue it adds to the stream. -/
theorem Delivers.conserves {chunks : Conn → List Bytes} {sent : S → Bytes} {call : SendCall S}
    {l : Addr} {w : World Conn S} {c c' : Connection Conn} {o : Outcome RustlsIoResult × World Conn S}
    (h : Delivers chunks sent call l w c c' o) :
    sent o.2.app ++ (chunks c'.conn).flatten = sent w.app ++ (chunks c.conn).flatten := by
  unfold Delivers at h
  split at h
  next queue =>
    obtain ⟨-, -, empty, same⟩ := h
    rw [empty, same, queue]
  · dsimp only at h
    split at h
    · obtain ⟨-, -, -, took, rest⟩ := h
      rw [took, rest, List.append_assoc, List.take_append_drop]
    · obtain ⟨-, -, rest, same⟩ := h
      rw [rest, same]

/-! ### Whole runs -/

/-- The connection stays where it is, and no byte is lost, repeated or reordered. -/
theorem Run.conserves {R : Rustls Conn S} {chunks : Conn → List Bytes} {sent : S → Bytes}
    (library : SendsQueue R chunks) {a : Addr} {w₀ w : World Conn S} {appended₀ appended : Bytes}
    {c₀ : Connection Conn} (live : Arena.get w₀.conns a = some c₀)
    (start : sent w₀.app ++ (chunks c₀.conn).flatten = appended₀)
    (run : Run R chunks sent a w₀ appended₀ w appended) :
    ∃ c, Arena.get w.conns a = some c ∧ sent w.app ++ (chunks c.conn).flatten = appended := by
  induction run with
  | start => exact ⟨c₀, live, start⟩
  | append run before after more same ih =>
    obtain ⟨c, found, balance⟩ := ih
    obtain rfl := Option.some.inj (found.symm.trans before)
    refine ⟨_, after, ?_⟩
    rw [same, more, List.flatten_append, ← List.append_assoc, balance]
  | @send w _ call outN run honest ih =>
    obtain ⟨c, found, balance⟩ := ih
    cases outN with
    | none =>
      -- NULL is refused before rustls is asked.
      have refused : call.exec R (some a) none w = (.rejected ⟨EINVAL⟩, w) := by
        rw [exec_eq]
        simp [writeTls, ffiPanicBoundary, bind_run, tryFromPtr_live found, rejectIfNull]
      rw [refused]
      exact ⟨c, found, balance⟩
    | some l =>
      obtain ⟨c', found', delivers⟩ := exec_delivers library honest l found
      exact ⟨c', found', delivers.conserves.trans balance⟩

/-- In every state of every run, what the callbacks have accepted and what is still queued make up
everything appended, and every further call by either path delivers. -/
theorem outgoing_stream_integrity {R : Rustls Conn S} {chunks : Conn → List Bytes} {sent : S → Bytes}
    (library : SendsQueue R chunks) {a : Addr} {w₀ w : World Conn S} {appended₀ appended : Bytes}
    {c₀ : Connection Conn} (live : Arena.get w₀.conns a = some c₀)
    (start : sent w₀.app ++ (chunks c₀.conn).flatten = appended₀)
    (run : Run R chunks sent a w₀ appended₀ w appended) :
    ∃ c, Arena.get w.conns a = some c ∧
      sent w.app ++ (chunks c.conn).flatten = appended ∧
      ∀ (call : SendCall S) (l : Addr), call.Honest sent →
        ∃ c', Arena.get (call.exec R (some a) (some l) w).2.conns a = some c' ∧
          Delivers chunks sent call l w c c' (call.exec R (some a) (some l) w) := by
  obtain ⟨c, found, balance⟩ := run.conserves library live start
  exact ⟨c, found, balance, fun call l honest => exec_delivers library honest l found⟩

/-! ### A library that meets the assumptions -/

def consume : Nat → List Bytes → List Bytes
  | _, [] => []
  | n, b :: rest => if n < b.length then b.drop n :: rest else consume (n - b.length) rest

theorem flatten_consume (n : Nat) (queue : List Bytes) :
    (consume n queue).flatten = queue.flatten.drop n := by
  induction queue generalizing n with
  | nil => simp [consume]
  | cons b rest ih =>
    unfold consume
    split
    next inside => simp [List.drop_append_of_le_length (Nat.le_of_lt inside)]
    next past =>
      have whole : b.length ≤ n := Nat.le_of_not_lt past
      rw [ih, List.flatten_cons, List.drop_append, List.drop_eq_nil_of_le whole, List.nil_append]

/-- A connection that is nothing but its queue. -/
def queueLibrary : Rustls (List Bytes) Bytes :=
  { Rustls.inert [] with
    writeTls := fun queue writer s =>
      if queue = [] then (.ok 0, queue, s)
      else match writer.writeVectored (queue.take 64) s with
        | (.ok n, s) => (.ok n, consume n queue, s)
        | (.error e, s) => (.err e, queue, s) }

theorem queueLibrary_sendsQueue : SendsQueue queueLibrary id where
  idle queue writer s empty := ⟨queue, by simp_all [queueLibrary], empty⟩
  sent queue writer s n s' some answer :=
    ⟨consume n queue, by simp_all [queueLibrary], flatten_consume n queue⟩
  failed queue writer s e s' some answer := ⟨queue, by simp_all [queueLibrary], rfl⟩

/-- A callback that takes at most two bytes at a time. -/
def sipping : SendCall Bytes :=
  .writeTls (fun _ buf s => (⟨⟨0⟩, min 2 buf.length⟩, s ++ buf.take 2)) none

theorem sipping_honest : sipping.Honest id := by
  intro queue s
  simp [sipping, SendCall.reply, SendCall.offered]

def oneQueue : World (List Bytes) Bytes :=
  { (World.initial [] : World (List Bytes) Bytes) with
    conns := [some ⟨[[1, 2, 3], [4]], .client, [], none, none⟩] }

theorem outgoing_stream_integrity_sipping :
    ∃ c, Arena.get (sipping.exec queueLibrary (some 0) (some 0) oneQueue).2.conns 0 = some c ∧
      (sipping.exec queueLibrary (some 0) (some 0) oneQueue).2.app ++ c.conn.flatten =
        [1, 2, 3, 4] := by
  obtain ⟨c, found, balance, -⟩ := outgoing_stream_integrity (a := 0) queueLibrary_sendsQueue
    rfl rfl (.send (w := oneQueue) .start sipping_honest)
  exact ⟨c, found, balance⟩

end RustlsFfi.Outgoing
