import RustlsFfi.Demo.Steps

/-!
# The server

`tests/server.c`: one accepted connection. The server reads until it has seen the end of a request's headers, queues its
response, and goes on until the client leaves.
-/

namespace RustlsFfi.Demo.Server
open Code Memory Plaintext EndToEnd Duplex

variable {Peer Conn S ρ : Type}

inductive ExchangeState where
  | readingRequest
  | sentResponse
  deriving DecidableEq, Repr

/-- `do_read` of the server, which takes a read of 0 bytes for the end. -/
def doRead (R : Rustls Conn S) (os : Os S) (fuel : Nat) (conn : ConnData) :
    Code (Process Conn S) DemoResult DemoResult := do
  let err ← ffi (rustlsConnectionReadTls R conn.rconn (some (readCb os conn)) conn.self (some nAt))
  if err.code = EAGAIN ∨ err.code = EWOULDBLOCK then Code.ret .again
  else if err.code ≠ 0 then Code.ret .error
  else
    let n ← loadN
    if n = 0 then Code.ret .eof else processAndCopy R os fuel conn

/-! ### The response -/

/-- The string `prefix`. -/
def statusAndName : Bytes := utf8 "HTTP/1.1 200 OK\r\nContent-Length:"

def bodySize : Nat := 10000

/-- What `sprintf` writes, without the NUL at the end. -/
def responseHead : Bytes := statusAndName ++ utf8 " " ++ utf8 (Nat.repr bodySize) ++ utf8 "\r\n\r\n"

/-- The writes to the block of `response_size` bytes. -/
def writeResponse (response : Bytes) : Access Bytes := do
  let response ← store response 0 (responseHead ++ [0])
  let response ← store response responseHead.length (List.replicate bodySize 97)
  let response ← store response (responseHead.length + bodySize) [10]
  store response (responseHead.length + bodySize + 1) [0]

/-- The result of `rustls_connection_write` is not looked at. If it fails, `n` is what `sprintf` returned. -/
def sendResponse (R : Rustls Conn S) (os : Os S) (conn : ConnData) : Code (Process Conn S) DemoResult DemoResult := do
  match ← sys (os.alloc (statusAndName.length + 15 + bodySize)) with
  | none => Code.ret .error
  | some block =>
    let response ← Code.access (writeResponse block.1)
    storeN responseHead.length
    let responseSize ← Code.access (strlen response)
    let _ ← ffi (rustlsConnectionWrite R conn.rconn (some response) responseSize (some nAt))
    let n ← loadN
    if n ≠ responseSize then Code.ret .error else pure .ok

/-! ### The loops -/

/-- One round of the loop that reads all there is: false for `goto cleanup`. -/
def readRound (R : Rustls Conn S) (os : Os S) (fuel : Nat) (conn : ConnData) : Code (Process Conn S) Unit (Unit ⊕ Bool) := do
  let result ← Code.call (doRead R os fuel conn)
  if result = .again then pure (.inr true)
  else if result = .eof then pure (.inr false)
  else if result ≠ .ok then pure (.inr false)
  else pure (.inl ())

def writeOnce (R : Rustls Conn S) (os : Os S) (conn : ConnData) : Code (Process Conn S) Unit Bool := do
  let err ← writeTls R os conn
  if err.code ≠ 0 then pure false
  else
    let n ← loadN
    pure (n ≠ 0)

/-- Where the variables for the protocol are. -/
def alpnAt : Addr := 0

def alpnLenAt : Addr := 1

/-- The end of a round: the response is sent once the end of the headers has been seen. -/
def respond (R : Rustls Conn S) (os : Os S) (conn : ConnData) (state : ExchangeState) :
    Code (Process Conn S) Unit (ExchangeState ⊕ Unit) := do
  if state ≠ .readingRequest then pure (.inl state)
  else
    let p ← Code.get
    match ← Code.access (bodyBeginning p.data) with
    | none => pure (.inl state)
    | some _ =>
      ffi (rustlsConnectionGetAlpnProtocol R conn.rconn (some alpnAt) (some alpnLenAt))
      let result ← Code.call (sendResponse R os conn)
      if result ≠ .ok then pure (.inr ()) else pure (.inl .sentResponse)

/-- Where a round goes when it has read and written: back to its head, to the search for the end of the headers, or to
`cleanup`. -/
inductive Turn where
  | again
  | search
  | cleanup
  deriving DecidableEq, Repr

/-- A round before that search. `select` waits for a second at most. -/
def pump (R : Rustls Conn S) (os : Os S) (fuel : Nat) (conn : ConnData) : Code (Process Conn S) Unit Turn := do
  match ← await R os conn with
  | none => pure .cleanup
  | some (.error _) => pure .cleanup
  | some (.ok (read, write)) =>
    if !read && !write then pure .again
    else if !(← (if read then Code.loop (fun _ => readRound R os fuel conn) fuel () else pure true)) then pure .cleanup
    else if !(← (if write then writeOnce R os conn else pure true)) then pure .cleanup
    else pure .search

/-- One round of the main loop, which is left for `cleanup`. -/
def serveRound (R : Rustls Conn S) (os : Os S) (fuel : Nat) (conn : ConnData) (state : ExchangeState) :
    Code (Process Conn S) Unit (ExchangeState ⊕ Unit) := do
  match ← pump R os fuel conn with
  | .again => pure (.inl state)
  | .search => respond R os conn state
  | .cleanup => pure (.inr ())

/-- `handle_conn`, which frees the buffer at the end. -/
def handleConn (R : Rustls Conn S) (os : Os S) (fuel : Nat) (conn : ConnData) : Code (Process Conn S) Unit Unit := do
  Code.loop (serveRound R os fuel conn) fuel .readingRequest
  (if conn.fd > 0 then sys fun s => ((), os.close conn.fd s) else pure ())
  Code.modify fun p => { p with data := {} }

/-! ### What the server sends -/

def response : Bytes := responseHead ++ List.replicate bodySize 97 ++ [10]

theorem two_of_length {bytes : Bytes} (long : 2 ≤ bytes.length) : ∃ x y rest, bytes = x :: y :: rest := by
  match bytes, long with
  | x :: y :: rest, _ => exact ⟨x, y, rest, rfl⟩

/-- The block has room for the response and the NUL after it. -/
theorem writeResponse_ok {block : Bytes} (size : block.length = statusAndName.length + 15 + bodySize) :
    ∃ rest, writeResponse block = .ok (response ++ 0 :: rest) := by
  have head : responseHead.length + 5 = statusAndName.length + 15 := by decide +kernel
  generalize body : List.replicate bodySize (97 : UInt8) = text
  have count : text.length = bodySize := by rw [← body, List.length_replicate]
  have first : store ([] ++ block) 0 (responseHead ++ [0]) =
      .ok ([] ++ (responseHead ++ [0]) ++ block.drop (responseHead ++ [0]).length) :=
    store_append rfl (by rw [List.length_append, List.length_singleton]; omega)
  have left : (block.drop (responseHead ++ [0]).length).length = bodySize + 4 := by
    rw [List.length_drop, List.length_append, List.length_singleton]
    omega
  generalize block.drop (responseHead ++ [0]).length = after at first left
  rw [List.nil_append, List.nil_append, List.append_assoc] at first
  have second : store (responseHead ++ (([0] : Bytes) ++ after)) responseHead.length text =
      .ok (responseHead ++ text ++ (([0] : Bytes) ++ after).drop text.length) :=
    store_append rfl (by rw [List.length_append, List.length_singleton]; omega)
  have long : 2 ≤ ((([0] : Bytes) ++ after).drop text.length).length := by
    rw [List.length_drop, List.length_append, List.length_singleton]
    omega
  obtain ⟨x, y, rest, split⟩ := two_of_length long
  rw [split] at second
  have third : store (responseHead ++ text ++ x :: y :: rest) (responseHead.length + bodySize) [10] =
      .ok (responseHead ++ text ++ [10] ++ y :: rest) :=
    store_append (by rw [List.length_append, count]) (by simp)
  have fourth : store (responseHead ++ text ++ [10] ++ y :: rest) (responseHead.length + bodySize + 1) [0] =
      .ok (responseHead ++ text ++ [10] ++ [0] ++ rest) :=
    store_append (by rw [List.length_append, List.length_append, count, List.length_singleton]) (by simp)
  refine ⟨rest, ?_⟩
  rw [writeResponse, first, ok_bind, body, second, ok_bind, third, ok_bind, fourth, response, body, List.append_assoc _ [0]]
  rfl

theorem response_nonzero : 0 ∉ response := by
  have head : 0 ∉ responseHead := by decide +kernel
  simp [response, head, List.mem_replicate]

theorem responseHead_shorter : responseHead.length < response.length := by
  rw [response, List.length_append, List.length_append, List.length_singleton]
  omega

/-- The string that the writes leave. -/
theorem writeResponse_spec {block : Bytes} (size : block.length = statusAndName.length + 15 + bodySize) :
    ∃ mem, writeResponse block = .ok mem ∧ strlen mem = .ok response.length ∧ response.length ≤ mem.length ∧
      mem.take response.length = response := by
  obtain ⟨rest, filled⟩ := writeResponse_ok size
  refine ⟨_, filled, strlen_append response_nonzero, ?_, List.take_left⟩
  rw [List.length_append]
  exact Nat.le_add_right _ _

section
variable {R : Rustls Conn S} {P : Party Peer Conn S} {os : Os S} {conn : ConnData} {g : Record Conn}
  {p : Process Conn S}

/-- The response was queued as far as it was taken, all of it with OK. -/
def Sent (P : Party Peer Conn S) (g : Record Conn) (r : DemoResult) (p : Process Conn S) : Prop :=
  ∃ c written, Talking P { g with conn := c, written := g.written ++ written } p ∧ written <+: response ∧
    (r = .ok → written = response)

theorem sendResponse_spec (library : Speaks R P.toSession) (serves : os.Serves P conn.fd) (talking : Talking P g p)
    (named : conn.rconn = some P.rconn) :
    wp (sendResponse R os conn) ⟨Sent P g, Sent P g, fun _ => False, fun _ => False⟩ p := by
  have unsent : ∀ {r : DemoResult} {q : Process Conn S}, Talking P g q → r ≠ .ok → Sent P g r q := by
    intro r q talking failed
    refine ⟨g.conn, [], ?_, List.nil_prefix, fun ok => absurd ok failed⟩
    rwa [List.append_nil]
  have still := serves.alloc (statusAndName.length + 15 + bodySize) p.world.app
  rcases called : os.alloc (statusAndName.length + 15 + bodySize) p.world.app with ⟨_ | block, s⟩ <;>
    rw [called] at still <;> refine wp_then (sys_run called) ?_
  · exact unsent (talking.sys still) nofun
  · obtain ⟨mem, filled, length, room, text⟩ := writeResponse_spec block.2.1
    refine wp_then (access_ok filled _) (wp_then rfl (wp_then (access_ok length _) ?_))
    refine wp_seq (write_talking library ((talking.sys still).cells _) named room) ?_ (fun _ _ => False.elim)
      (fun _ => False.elim) (fun _ => False.elim)
    rintro r p₁ ⟨failed, c, talking₁⟩
    rw [text] at talking₁
    have sent : ∀ {r' : DemoResult}, (r' = .ok → taken response r p₁ = response) → Sent P g r' p₁ :=
      fun all => ⟨c, _, talking₁, taken_initial _ _ _, all⟩
    refine wp_then rfl (wp_ite.mpr ⟨fun _ => sent nofun, fun whole => sent fun _ => ?_⟩)
    by_cases ok : r = .ok
    · rw [taken, if_pos ok, not_not.mp whole, List.take_length]
    · -- `n` is still what `sprintf` returned.
      have short : Function.update p.world.cells.size nAt responseHead.length nAt = response.length := by
        rw [← not_not.mp whole, failed ok]
      rw [Function.update_self] at short
      exact absurd short (Nat.ne_of_lt responseHead_shorter)

/-! ### The rounds -/

/-- How reading ends here: the loop goes on after OK and stops after EAGAIN. -/
def Left (P : Party Peer Conn S) (g₀ : Record Conn) (r : DemoResult) (p : Process Conn S) : Prop :=
  ∃ g, Since g₀ g ∧ Reading P g p ∧ (r = .ok ∨ r = .again → Talking P g p)

theorem Read.left {g₀ : Record Conn} {r : DemoResult} (since : Since g₀ g) (read : Read P g r p) : Left P g₀ r p := by
  obtain ⟨g', later, ends⟩ := read
  cases r with
  | ok => exact ⟨g', since.trans later, ends.1.toReading, fun _ => ends.1⟩
  | eof => exact ⟨g', since.trans later, ends.1.toReading, fun _ => ends.1⟩
  | again => exact ⟨g', since.trans later, ends.toReading, fun _ => ends⟩
  | error => exact ⟨g', since.trans later, ends, fun other => by simp at other⟩

theorem doRead_spec (library : Speaks R P.toSession) (serves : os.Serves P conn.fd) (talking : Talking P g p)
    (named : conn.rconn = some P.rconn) (fuel : Nat) :
    wp (doRead R os fuel conn) (.during (Left P g) (Underway P g)) p := by
  refine wp_seq (readTls_talking library serves talking named) ?_ (fun _ _ => False.elim) (fun _ => False.elim)
    (fun _ => False.elim)
  rintro err p₁ ⟨data, c₁, h₁, delivered, reading₁, failed⟩
  have since : Since g { g with conn := c₁, history := h₁ } := ⟨rfl, by rw [delivered]⟩
  have roomy : p₁.data.Roomy := by
    rw [data]
    exact talking.roomy
  refine wp_ite.mpr ⟨fun again => ⟨_, since, reading₁, fun _ => failed ?_⟩, fun _ => wp_ite.mpr ⟨fun _ => ?_, fun _ => ?_⟩⟩
  · rcases again with code | code <;> rw [code] <;> decide
  · exact ⟨_, since, reading₁, fun other => by simp at other⟩
  · refine wp_then rfl (wp_ite.mpr ⟨fun _ => ⟨_, since, reading₁, fun other => by simp at other⟩, fun _ => ?_⟩)
    exact wp_mono (processAndCopy_spec library serves reading₁ roomy named fuel) (fun _ _ => Read.left since)
      (fun _ _ => Read.left since) (fun _ => id) (fun _ => Underway.since since)

/-- The end of a request's headers was seen in the server's own buffer, at one of the moments `Just`, and the text begins
with what the buffer held then. The blank line begins in that. It may end up to three bytes after it, which are of no
message. -/
def Asked (Just : Process Conn S → Prop) (text : Bytes) : Prop :=
  ∃ q b, Just q ∧ q.data.contents <+: text ∧ bodyBeginning q.data = .ok (some b) ∧ 4 ≤ b ∧ b ≤ q.data.len + 3 ∧
    At q.data.data blankLine (b - 4) ∧ (b ≤ q.data.len → At text blankLine (b - 4))

theorem at_initial {text longer needle : Bytes} {i : Nat} (here : At text needle i) (more : text <+: longer) :
    At longer needle i := by
  obtain ⟨rest, rfl⟩ := more
  unfold At at here ⊢
  rw [List.drop_append]
  exact here.trans (List.prefix_append _ _)

theorem at_contents {vec : ByteVec} {i : Nat} (here : At vec.data blankLine i) (inside : i + 4 ≤ vec.len) :
    At vec.contents blankLine i := by
  unfold At at here ⊢
  rw [ByteVec.contents, List.drop_take]
  exact List.prefix_take_iff.mpr ⟨here, by rw [show blankLine.length = 4 from rfl]; omega⟩

theorem Asked.more {Just : Process Conn S → Prop} {text longer : Bytes} (asked : Asked Just text) (more : text <+: longer) :
    Asked Just longer := by
  obtain ⟨q, b, just, contents, found, four, bound, here, inside⟩ := asked
  exact ⟨q, b, just, contents.trans more, found, four, bound, here, fun fits => at_initial (inside fits) more⟩

theorem asked_of_found {Just : Process Conn S → Prop} {b : Nat} (just : Just p) (talking : Talking P g p)
    (found : bodyBeginning p.data = .ok (some b)) (four : 4 ≤ b) (bound : b ≤ p.data.len + 3)
    (here : At p.data.data blankLine (b - 4)) : Asked Just g.history.delivered := by
  have contents : p.data.contents <+: g.history.delivered := by rw [talking.contents]
  refine ⟨p, b, just, contents, found, four, bound, here, fun fits => ?_⟩
  exact at_initial (at_contents here (by omega)) contents

section
variable {Just : Process Conn S → Prop}

/-- What has been written in each state. -/
def Answered (Just : Process Conn S → Prop) (g : Record Conn) : ExchangeState → Prop
  | .readingRequest => g.written = []
  | .sentResponse => g.written = response ∧ Asked Just g.history.delivered

theorem Answered.since {g' : Record Conn} {state : ExchangeState} (answered : Answered Just g state) (since : Since g g') :
    Answered Just g' state := by
  cases state with
  | readingRequest => exact since.written.trans answered
  | sentResponse => exact ⟨since.written.trans answered.1, answered.2.more since.delivered⟩

/-- At the head of the main loop. -/
def Serving (P : Party Peer Conn S) (Just : Process Conn S → Prop) (state : ExchangeState) (p : Process Conn S) : Prop :=
  ∃ g, Talking P g p ∧ Answered Just g state

/-- At any moment: no response has been written, or a part of one, to a client that had asked for it. -/
def Answers (P : Party Peer Conn S) (Just : Process Conn S → Prop) (p : Process Conn S) : Prop :=
  ∃ g, Converses P.toSession P.wire P.rconn g p.world ∧
    (g.written = [] ∨ g.written <+: response ∧ Asked Just g.history.delivered)

theorem Answered.answers {state : ExchangeState} (answered : Answered Just g state) (reading : Reading P g p) :
    Answers P Just p := by
  refine ⟨g, reading.converses, ?_⟩
  cases state with
  | readingRequest => exact .inl answered
  | sentResponse => exact .inr ⟨by rw [answered.1], answered.2⟩

theorem Serving.answers {state : ExchangeState} (serving : Serving P Just state p) : Answers P Just p := by
  obtain ⟨g, talking, answered⟩ := serving
  exact answered.answers talking.toReading

/-- What every part of the server meets. -/
abbrev Part (P : Party Peer Conn S) (Just : Process Conn S → Prop) (next : ρ → Process Conn S → Prop) :
    Post (Process Conn S) Unit ρ :=
  ⟨next, fun _ _ => False, fun _ => False, Answers P Just⟩

theorem readRound_spec (library : Speaks R P.toSession) (serves : os.Serves P conn.fd) (named : conn.rconn = some P.rconn)
    (fuel : Nat) {state : ExchangeState} (serving : Serving P Just state p) :
    wp (readRound R os fuel conn)
      (Post.round (Part P Just fun going p' => if going = true then Serving P Just state p' else Answers P Just p')
        fun _ => Serving P Just state) p := by
  obtain ⟨g, talking, answered⟩ := serving
  refine wp_called (doRead_spec library serves talking named fuel) ?_ (fun _ => False.elim) ?_
  · rintro r p₁ ⟨g₁, since, reading₁, going⟩
    have after := answered.since since
    refine wp_ite.mpr ⟨fun again => ⟨g₁, going (.inr again), after⟩, fun _ => wp_ite.mpr ⟨fun _ => ?_, fun _ => ?_⟩⟩
    · exact after.answers reading₁
    · exact wp_ite.mpr ⟨fun _ => after.answers reading₁, fun ok => ⟨g₁, going (.inl (not_not.mp ok)), after⟩⟩
  · rintro p₁ ⟨g₁, since, reading₁⟩
    exact (answered.since since).answers reading₁

theorem writeOnce_spec (library : Speaks R P.toSession) (serves : os.Serves P conn.fd) (named : conn.rconn = some P.rconn)
    {state : ExchangeState} (serving : Serving P Just state p) :
    wp (writeOnce R os conn) (Part P Just fun _ => Serving P Just state) p := by
  obtain ⟨g, talking, answered⟩ := serving
  refine wp_seq (demoWriteTls_talking library serves talking named) ?_ (fun _ _ => False.elim) (fun _ => False.elim)
    (fun _ => False.elim)
  rintro err p₁ ⟨c₁, talking₁⟩
  have after : Serving P Just state p₁ := ⟨_, talking₁, answered.since ⟨rfl, List.prefix_rfl⟩⟩
  exact wp_ite.mpr ⟨fun _ => after, fun _ => wp_then rfl after⟩

theorem alpn_talking (talking : Talking P g p) (named : conn.rconn = some P.rconn) :
    wp (ffi (rustlsConnectionGetAlpnProtocol R conn.rconn (some alpnAt) (some alpnLenAt)) : Code (Process Conn S) ρ _)
      ⟨fun _ p' => p'.data = p.data ∧ Talking P g p', fun _ _ => False, fun _ => False, fun _ => False⟩ p := by
  have live := talking.converses.live
  have asked : let o := rustlsConnectionGetAlpnProtocol R (some P.rconn) (some alpnAt) (some alpnLenAt) p.world
      o.1 = .returned () ∧ o.2.conns = p.world.conns ∧ o.2.app = p.world.app := by
    rcases answer : R.alpnProtocol g.conn.conn with _ | _ | _ <;>
      simp [rustlsConnectionGetAlpnProtocol, Control.ffiPanicBoundary, Control.bind_run, tryFromPtr_live live, rejectIfNull,
        mayPanic, answer, writeData, writeSize]
  obtain ⟨returned, conns, app⟩ := asked
  rw [named]
  exact (wp_ffi returned).mpr ⟨rfl, talking.apart conns app⟩

theorem respond_spec (library : Speaks R P.toSession) (serves : os.Serves P conn.fd) (named : conn.rconn = some P.rconn)
    {state : ExchangeState} (serving : Serving P Just state p) (just : state = .readingRequest → Just p) :
    wp (respond R os conn state) (Post.round (Part P Just fun _ => Answers P Just) (Serving P Just)) p := by
  refine wp_ite.mpr ⟨fun _ => serving, fun reading => wp_then rfl ?_⟩
  obtain ⟨g, talking, answered⟩ := serving
  obtain rfl := not_not.mp reading
  have unwritten : g.written = [] := answered
  rcases bodyBeginning_spec talking.roomy with ⟨b, found, four, bound, first⟩ | ⟨missing, -⟩
  · have asked := asked_of_found (just rfl) talking found four bound first.here
    refine wp_then (access_ok found p) ?_
    refine wp_seq (alpn_talking talking named) ?_ (fun _ _ => False.elim) (fun _ => False.elim) (fun _ => False.elim)
    rintro - p₁ ⟨data, talking₁⟩
    refine wp_called (sendResponse_spec library serves talking₁ named) ?_ (fun _ => False.elim) (fun _ => False.elim)
    rintro r p₂ ⟨c, written, talking₂, initial, whole⟩
    rw [unwritten, List.nil_append] at talking₂
    refine wp_ite.mpr ⟨fun _ => ⟨_, talking₂.converses, .inr ⟨initial, asked⟩⟩, fun ok => ⟨_, talking₂, ?_, asked⟩⟩
    exact whole (not_not.mp ok)
  · exact wp_then (access_ok missing p) ⟨g, talking, answered⟩

/-- How a round gets to the search. -/
abbrev AfterPump (P : Party Peer Conn S) (Just : Process Conn S → Prop) (state : ExchangeState) :
    Turn → Process Conn S → Prop
  | .again, p => Serving P Just state p
  | .search, p => Serving P Just state p
  | .cleanup, p => Answers P Just p

theorem pump_spec (library : Speaks R P.toSession) (serves : os.Serves P conn.fd) (named : conn.rconn = some P.rconn)
    (fuel : Nat) {state : ExchangeState} (serving : Serving P Just state p) :
    wp (pump R os fuel conn) (Part P Just (AfterPump P Just state)) p := by
  obtain ⟨g, talking, answered⟩ := serving
  refine wp_seq (await_spec serves talking named) ?_ (fun _ _ => False.elim) (fun _ => False.elim) (fun _ => False.elim)
  rintro (_ | _ | ⟨read, write⟩) p₁ ⟨talking₁, -⟩
  · exact answered.answers talking₁.toReading
  · exact answered.answers talking₁.toReading
  · have selected : Serving P Just state p₁ := ⟨g, talking₁, answered⟩
    refine wp_ite.mpr ⟨fun _ => selected, fun _ => ?_⟩
    have reads : wp (if read = true then Code.loop (fun _ => readRound R os fuel conn) fuel () else pure true)
        (Part P Just fun going p' => if going = true then Serving P Just state p' else Answers P Just p') p₁ := by
      refine wp_ite.mpr ⟨fun _ => ?_, fun _ => selected⟩
      exact wp_loop (fun _ _ => Serving.answers) (fun _ _ => readRound_spec library serves named fuel) fuel selected
    refine wp_seq reads ?_ (fun _ _ => id) (fun _ => id) (fun _ => id)
    intro going p₂ after
    cases going with
    | false => exact after
    | true =>
      have writing : wp (if write = true then writeOnce R os conn else pure true)
          (Part P Just fun _ => Serving P Just state) p₂ :=
        wp_ite.mpr ⟨fun _ => writeOnce_spec library serves named after, fun _ => after⟩
      refine wp_seq writing ?_ (fun _ _ => id) (fun _ => id) (fun _ => id)
      intro wrote p₃ after₃
      exact wp_ite.mpr ⟨fun _ => Serving.answers after₃, fun _ => after₃⟩

theorem serveRound_spec (library : Speaks R P.toSession) (serves : os.Serves P conn.fd)
    (named : conn.rconn = some P.rconn) (fuel : Nat) {state : ExchangeState} (serving : Serving P Just state p)
    (looks : ∀ q, state = .readingRequest → pump R os fuel conn p = (.next .search, q) → Just q) :
    wp (serveRound R os fuel conn state) (Post.round (Part P Just fun _ => Answers P Just) (Serving P Just)) p := by
  refine wp_seq_ran (pump_spec library serves named fuel serving) ?_ (fun _ _ => id) (fun _ => id) (fun _ => id)
  intro turn p₁ after ran
  cases turn with
  | again => exact after
  | search => exact respond_spec library serves named after fun state => looks p₁ state ran
  | cleanup => exact after

end

/-- In a run of `handle_conn` from `p`, the server has got to the search for the end of the headers, at `q`. -/
inductive Looks (R : Rustls Conn S) (os : Os S) (fuel : Nat) (conn : ConnData) (p : Process Conn S) :
    Process Conn S → Prop
  | intro {q₁ q : Process Conn S}
      (round : Reaches (serveRound R os fuel conn) .readingRequest p .readingRequest q₁)
      (search : pump R os fuel conn q₁ = (.next .search, q)) : Looks R os fuel conn p q

theorem Answers.still {Just : Process Conn S → Prop} {s : S} (answers : Answers P Just p)
    (still : P.Still p.world.app s) : Answers P Just { p with world.app := s } := by
  obtain ⟨g, converses, written⟩ := answers
  exact ⟨g, converses.apart converses.live still.1 still.2, written⟩

theorem handleConn_spec (library : Speaks R P.toSession) (serves : os.Serves P conn.fd)
    (named : conn.rconn = some P.rconn) {c : Connection Conn} (begins : Begins P c p) (fuel : Nat) :
    wp (handleConn R os fuel conn) (Part P (Looks R os fuel conn p) fun _ => Answers P (Looks R os fuel conn p)) p := by
  have serving : Serving P (Looks R os fuel conn p) .readingRequest p := ⟨_, begins.talking, rfl⟩
  have looped : wp (Code.loop (serveRound R os fuel conn) fuel .readingRequest)
      (Part P (Looks R os fuel conn p) fun _ => Answers P (Looks R os fuel conn p)) p := by
    refine wp_loop_reached (fun _ _ _ => Serving.answers) (fun state q₁ round serving => ?_) fuel serving
    refine serveRound_spec library serves named fuel serving fun q reading search => ?_
    exact .intro (reading ▸ round) search
  refine wp_seq looped ?_ (fun _ _ => id) (fun _ => id) (fun _ => id)
  intro _ p₁ answers
  by_cases isOpen : conn.fd > 0
  · rw [if_pos isOpen]
    exact wp_then rfl (answers.still (serves.close p₁.world.app))
  · rw [if_neg isOpen]
    exact wp_then rfl answers

end

/-- However long it runs, the server uses no memory that it does not have, and over one connection it queues at most one
response. It does so only after it has looked for the end of the request's headers and found it in its buffer, which held
the beginning of what the client had sent. -/
theorem one_response_per_connection {R : Rustls Conn S} {P : Party Peer Conn S} {os : Os S} {conn : ConnData}
    {p : Process Conn S} {c : Connection Conn} (library : Speaks R P.toSession) (serves : os.Serves P conn.fd)
    (named : conn.rconn = some P.rconn) (begins : Begins P c p) (fuel : Nat) :
    let run := handleConn R os fuel conn p
    (run.1 = .next () ∨ run.1 = .running) ∧
      ∃ c', Arena.get run.2.world.conns P.rconn = some c' ∧
        (P.outgoing.accepted c'.conn = [] ∨
          P.outgoing.accepted c'.conn <+: response ∧
            Asked (Looks R os fuel conn p) (P.incoming.opens (P.got run.2.world.app))) := by
  intro run
  have spec : Post.holds _ run := handleConn_spec library serves named begins fuel
  have served : (run.1 = .next () ∨ run.1 = .running) ∧ Answers P (Looks R os fuel conn p) run.2 := by
    clear_value run
    rcases run with ⟨_ | _ | _ | _ | _, p'⟩
    · exact ⟨.inl rfl, spec⟩
    · exact spec.elim
    · exact spec.elim
    · exact spec.elim
    · exact ⟨.inr rfl, spec⟩
  obtain ⟨ends, g, converses, written⟩ := served
  have told := converses.sending.accepted
  refine ⟨ends, g.conn, converses.live, ?_⟩
  rcases written with nothing | ⟨initial, asked⟩
  · exact .inl (told.trans nothing)
  · refine .inr ⟨told ▸ initial, asked.more ?_⟩
    have balance := converses.receiving.balanced.balance
    have opened := converses.receiving.opened
    rw [converses.receiving.received, ← converses.receiving.decrypted, balance] at opened
    exact (List.prefix_append _ _).trans opened

def unfinished : Bytes := utf8 "GET / HTTP/1.1\r\n"

def unfinishedRun : Exit Unit Unit × Process Masked Tape :=
  handleConn maskedLibrary (tapeOs (unfinished.map mask)) 2 tapeConn (tapeProcess .server)

/-- There is no response before the request is complete. -/
theorem one_response_per_connection_unfinished :
    unfinishedRun.1 = .running ∧ ∃ c, Arena.get unfinishedRun.2.world.conns 0 = some c ∧ c.conn.accepted = [] := by
  have ends : unfinishedRun.1 = .running := by decide +kernel
  have nothing : (Arena.get unfinishedRun.2.world.conns 0).map (fun c => c.conn.accepted) = some [] := by decide +kernel
  obtain ⟨-, c, live, -⟩ := one_response_per_connection (maskedLibrary_speaks _ _ _) (tapeOs_serves _) rfl
    (tapeProcess_begins (unfinished.map mask) .server) 2
  rw [← unfinishedRun] at live
  refine ⟨ends, c, live, ?_⟩
  rw [show Arena.get unfinishedRun.2.world.conns 0 = some c from live] at nothing
  exact Option.some.inj nothing

end RustlsFfi.Demo.Server
