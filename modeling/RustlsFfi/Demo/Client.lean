import RustlsFfi.Demo.Steps

/-!
# The client

`tests/client.c`: one request over an established connection. The loop waits for the socket, reads until the
whole response is there or the server closes, and writes what rustls has queued.
-/

namespace RustlsFfi.Demo.Client
open Code Memory Plaintext EndToEnd Duplex

variable {Peer Conn S ρ : Type}

/-! ### Reading from the connection -/

/-- `do_read` of the client. -/
def doRead (R : Rustls Conn S) (os : Os S) (fuel : Nat) (conn : ConnData) :
    Code (Process Conn S) DemoResult DemoResult := do
  let err ← ffi (rustlsConnectionReadTls R conn.rconn (some (readCb os conn)) conn.self (some nAt))
  if err.code = EAGAIN ∨ err.code = EWOULDBLOCK then Code.ret .again
  else if err.code ≠ 0 then Code.ret .error
  else processAndCopy R os fuel conn

/-! ### The request -/

/-- A string of C. -/
abbrev CString := { bytes : Bytes // 0 ∉ bytes }

/-- What `snprintf` leaves in a buffer of 2048 bytes, without the NUL at the end. -/
def request (hostname path : CString) : Bytes :=
  (utf8 "GET " ++ path ++ utf8 " HTTP/1.1\r\nHost: " ++ hostname ++ utf8 "\r\nUser-Agent: " ++ rustlsVersion.bytes ++
    utf8 "\r\nAccept: carcinization/inevitable, text/html\r\nConnection: close\r\n\r\n").take 2047

/-- `"Content-Length"`. -/
def contentLengthName : Bytes := [67, 111, 110, 116, 101, 110, 116, 45, 76, 101, 110, 103, 116, 104]

/-- The variables `headers_len` and `content_length`. -/
structure Lengths where
  headersLen : Nat := 0
  contentLength : Nat := 0
  deriving DecidableEq, Repr

/-- The search for the end of the headers and for the length they declare. -/
def findLengths : Code (Process Conn S) Int Lengths := do
  let p ← Code.get
  match ← Code.access (bodyBeginning p.data) with
  | none => pure {}
  | some headersLen =>
    match ← Code.access (getFirstHeaderValue p.data.data 0 headersLen (contentLengthName ++ [0]) 14) with
    | none => Code.ret 1
    | some (value, _) =>
      let (contentLength, valueEnd) ← Code.access (strtoul p.data.data value)
      if valueEnd = value then Code.ret 1 else pure { headersLen, contentLength }

/-! ### The loops -/

/-- One round of the loop that reads all there is. It is left with the lengths as they are, and whether it is left for
`drain_plaintext`; otherwise there is nothing to read for now. -/
def readRound (R : Rustls Conn S) (os : Os S) (fuel : Nat) (conn : ConnData) (v : Lengths) :
    Code (Process Conn S) Int (Lengths ⊕ Bool × Lengths) := do
  let result ← Code.call (doRead R os fuel conn)
  if result = .again then pure (.inr (false, v))
  else if result = .eof then pure (.inr (true, v))
  else if result ≠ .ok then Code.ret 1
  else
    let v ← (if v.headersLen = 0 then findLengths else pure v)
    let p ← Code.get
    if v.headersLen ≠ 0 ∧ (v.headersLen + v.contentLength) % sizeRange ≤ p.data.len then pure (.inr (true, v))
    else pure (.inl v)

/-- One round of the loop that writes what rustls has queued. `result` is still that of the last read, or of
`select` if there was none. -/
def writeRound (R : Rustls Conn S) (os : Os S) (conn : ConnData) (result : Int) :
    Code (Process Conn S) Int (Unit ⊕ Unit) := do
  let err ← writeTls R os conn
  if err.code ≠ 0 then Code.ret 1
  else if result = DemoResult.again.code then pure (.inr ())
  else
    let n ← loadN
    if n = 0 then pure (.inr ()) else pure (.inl ())

/-- One round of the main loop, which is left for `drain_plaintext`. -/
def exchangeRound (R : Rustls Conn S) (os : Os S) (fuel : Nat) (conn : ConnData) (v : Lengths) :
    Code (Process Conn S) Int (Lengths ⊕ Lengths) := do
  match ← await R os conn with
  | none => pure (.inr v)
  | some (.error _) => Code.ret 1
  | some (.ok (read, write)) =>
    let (drained, v) ← (if read then Code.loop (readRound R os fuel conn) fuel v else pure (false, v))
    if drained then pure (.inr v)
    else
      let result := if read then DemoResult.again.code else if write then 1 else 0
      (if write then Code.loop (fun _ => writeRound R os conn result) fuel () else pure ())
      pure (.inl v)

def sendRequest (R : Rustls Conn S) (conn : ConnData) (hostname path : CString) : Code (Process Conn S) Int Unit := do
  let buf := request hostname path
  if (← ffi (rustlsConnectionWrite R conn.rconn (some buf) buf.length (some nAt))) ≠ .ok then Code.ret 1
  else if (← loadN) ≠ buf.length then Code.ret 1
  else pure ()

/-- From the request to `drain_plaintext`, with the lengths as they are then. -/
def talk (R : Rustls Conn S) (os : Os S) (fuel : Nat) (conn : ConnData) (hostname path : CString) :
    Code (Process Conn S) Int Lengths := do
  sendRequest R conn hostname path
  Code.loop (exchangeRound R os fuel conn) fuel {}

/-- From `drain_plaintext` to `cleanup`, with what `ret` is then. -/
def drainPlaintext (R : Rustls Conn S) (os : Os S) (fuel : Nat) (conn : ConnData) : Code (Process Conn S) Int Int := do
  let result ← Code.call (copyPlaintextToBuffer R os fuel conn)
  if result ≠ .ok ∧ result ≠ .eof then Code.ret 1
  else
    let p ← Code.get
    match ← writeStdout os p.data.contents with
    | .error _ => Code.ret 1
    | .ok _ => pure 0

def exchange (R : Rustls Conn S) (os : Os S) (fuel : Nat) (conn : ConnData) (hostname path : CString) :
    Code (Process Conn S) Int Int := do
  let _ ← talk R os fuel conn hostname path
  drainPlaintext R os fuel conn

def sendRequestAndReadResponse (R : Rustls Conn S) (os : Os S) (fuel : Nat) (conn : ConnData)
    (hostname path : CString) : Code (Process Conn S) Int Int := do
  let ret ← Code.call (exchange R os fuel conn hostname path)
  (if conn.fd > 0 then sys fun s => ((), os.close conn.fd s) else pure ())
  pure ret

/-! ### The lengths -/

/-- There is a Content-Length header with nothing but spaces in it. `strtoul` then reads on, past the end of the
line. -/
def BlankLength (vec : ByteVec) : Prop :=
  ∃ headersLen value n, bodyBeginning vec = .ok (some headersLen) ∧
    getFirstHeaderValue vec.data 0 headersLen (contentLengthName ++ [0]) 14 = .ok (some (value, n)) ∧
    ∀ j b, value ≤ j → j < value + n → vec.data[j]? = some b → isspace b = true

section
variable {R : Rustls Conn S} {P : Party Peer Conn S} {os : Os S} {conn : ConnData} {g : Record Conn}
  {p : Process Conn S}

/-- The buffer holds headers with a Content-Length, which are `v`. -/
def Declares (vec : ByteVec) (v : Lengths) : Prop :=
  bodyBeginning vec = .ok (some v.headersLen) ∧ ∃ value n valueEnd,
    getFirstHeaderValue vec.data 0 v.headersLen (contentLengthName ++ [0]) 14 = .ok (some (value, n)) ∧
    strtoul vec.data value = .ok (v.contentLength, valueEnd)

theorem findLengths_spec (roomy : p.data.Roomy) :
    wp (findLengths : Code (Process Conn S) Int Lengths)
      ⟨fun v p' => p' = p ∧ (v.headersLen ≠ 0 → Declares p.data v), fun r p' => r = 1 ∧ p' = p,
        fun p' => BlankLength p.data ∧ p' = p, fun _ => False⟩ p := by
  refine wp_then rfl ?_
  rcases bodyBeginning_spec roomy with ⟨b, found, four, bound, first⟩ | ⟨missing, -⟩
  · have block := headerBlock roomy four bound first
    refine wp_then (access_ok found p) ?_
    rcases getFirstHeaderValue_spec block (by decide : 0 ∉ contentLengthName) with
      ⟨s, q, given, -, ends, -⟩ | ⟨given, -⟩
    · refine wp_then (access_ok given p) ?_
      rcases parsed : strtoul p.data.data (s + contentLengthName.length + 1) with e | ⟨contentLength, valueEnd⟩
      · refine wp_faults (access_error parsed p) ⟨⟨b, _, _, found, given, fun j byte ge less here => ?_⟩, rfl⟩
        by_contra text
        obtain ⟨r, done⟩ := strtoul_ok ge here (Bool.eq_false_of_not_eq_true text) (q := q) (by omega)
          (crlf_bytes ends.here).1 rfl
        rw [done] at parsed
        cases parsed
      · refine wp_then (access_ok parsed p) (wp_ite.mpr ⟨fun _ => ⟨rfl, rfl⟩, fun _ => ⟨rfl, fun _ => ?_⟩⟩)
        exact ⟨found, _, _, _, given, parsed⟩
    · exact wp_then (access_ok given p) ⟨rfl, rfl⟩
  · exact wp_then (access_ok missing p) ⟨rfl, fun some => absurd rfl some⟩

/-! ### The rounds -/

theorem doRead_spec (library : Speaks R P.toSession) (serves : os.Serves P conn.fd) (talking : Talking P g p)
    (named : conn.rconn = some P.rconn) (fuel : Nat) :
    wp (doRead R os fuel conn) (.during (Read P g) (Underway P g)) p := by
  refine wp_seq (readTls_talking library serves talking named) ?_ (fun _ _ => False.elim) (fun _ => False.elim)
    (fun _ => False.elim)
  rintro err p₁ ⟨data, c₁, h₁, delivered, reading₁, failed⟩
  have since : Since g { g with conn := c₁, history := h₁ } := ⟨rfl, by rw [delivered]⟩
  have roomy : p₁.data.Roomy := by
    rw [data]
    exact talking.roomy
  refine wp_ite.mpr ⟨fun again => ⟨_, since, failed ?_⟩, fun _ => wp_ite.mpr ⟨fun _ => ⟨_, since, reading₁⟩, fun _ => ?_⟩⟩
  · rcases again with code | code <;> rw [code] <;> decide
  · exact wp_mono (processAndCopy_spec library serves reading₁ roomy named fuel) (fun _ _ read => read.since since)
      (fun _ _ read => read.since since) (fun _ => id) (fun _ => Underway.since since)

/-- The lengths were found in the client's own buffer, at one of the moments `Just`, and the text begins with what it held
then. The search may have looked at up to three bytes past that, which are of no message. -/
def Found (Just : Process Conn S → Prop) (v : Lengths) (text : Bytes) : Prop :=
  ∃ q, Just q ∧ q.data.Roomy ∧ q.data.contents <+: text ∧ (findLengths : Code (Process Conn S) Int Lengths) q = (.next v, q)

theorem Found.declares {Just : Process Conn S → Prop} {v : Lengths} {text : Bytes} (found : Found Just v text)
    (some : v.headersLen ≠ 0) : ∃ vec : ByteVec, vec.Roomy ∧ vec.contents <+: text ∧ Declares vec v := by
  obtain ⟨q, -, roomy, contents, ran⟩ := found
  have spec := findLengths_spec roomy
  rw [wp, ran] at spec
  exact ⟨q.data, roomy, contents, spec.2 some⟩

theorem Found.more {Just : Process Conn S → Prop} {v : Lengths} {text longer : Bytes} (found : Found Just v text)
    (more : text <+: longer) : Found Just v longer := by
  obtain ⟨q, just, roomy, contents, ran⟩ := found
  exact ⟨q, just, roomy, contents.trans more, ran⟩

/-- Why the client has stopped reading: the server has closed the connection cleanly, as much has come as was declared, or
rustls wants neither to read from the connection nor to write to it. -/
def Complete (R : Rustls Conn S) (Just : Process Conn S → Prop) (v : Lengths) (g : Record Conn) : Prop :=
  g.history.finished = true ∨
    (v.headersLen ≠ 0 ∧ Found Just v g.history.delivered ∧
      (v.headersLen + v.contentLength) % sizeRange ≤ g.history.delivered.length) ∨
    Idle R g.conn.conn

/-- At the head of a loop. -/
def Waiting (P : Party Peer Conn S) (Just : Process Conn S → Prop) (written : Bytes) (v : Lengths) (p : Process Conn S) :
    Prop :=
  ∃ g, Talking P g p ∧ g.written = written ∧ (v.headersLen ≠ 0 → Found Just v g.history.delivered)

/-- At `drain_plaintext`. -/
def Draining (R : Rustls Conn S) (P : Party Peer Conn S) (Just : Process Conn S → Prop) (written : Bytes) (v : Lengths)
    (p : Process Conn S) : Prop :=
  ∃ g, Talking P g p ∧ g.written = written ∧ Complete R Just v g

theorem Waiting.held {Just : Process Conn S → Prop} {written : Bytes} {v : Lengths} (waiting : Waiting P Just written v p) :
    Held P written p := by
  obtain ⟨g, talking, told, -⟩ := waiting
  exact ⟨g, talking.toReading, told⟩

/-- Where `strtoul` reads out of bounds. -/
def Misled (P : Party Peer Conn S) (written : Bytes) (p : Process Conn S) : Prop :=
  BlankLength p.data ∧ p.data.Roomy ∧ Held P written p

/-- What every part of the client meets: it may be left with an error, and it reads out of bounds only on a blank
length. -/
abbrev Part (P : Party Peer Conn S) (written : Bytes) (next : ρ → Process Conn S → Prop) : Post (Process Conn S) Int ρ :=
  ⟨next, fun r p => r = 1 ∧ Held P written p, Misled P written, Held P written⟩

section
variable {Just : Process Conn S → Prop} {written : Bytes} {v : Lengths}

/-- How the loop that reads ends. -/
abbrev AfterReads (R : Rustls Conn S) (P : Party Peer Conn S) (Just : Process Conn S → Prop) (written : Bytes) :
    Bool × Lengths → Process Conn S → Prop
  | (true, v), p => Draining R P Just written v p
  | (false, v), p => Waiting P Just written v p

theorem readRound_spec (library : Speaks R P.toSession) (serves : os.Serves P conn.fd) (named : conn.rconn = some P.rconn)
    (fuel : Nat) (waiting : Waiting P Just written v p)
    (reads : ∀ q, v.headersLen = 0 → (Code.call (doRead R os fuel conn) : Code _ Int _) p = (.next .ok, q) → Just q) :
    wp (readRound R os fuel conn v)
      (Post.round (Part P written (AfterReads R P Just written)) (Waiting P Just written)) p := by
  obtain ⟨g, talking, rfl, found⟩ := waiting
  refine wp_called_ran (doRead_spec library serves talking named fuel) ?_ (fun _ => False.elim) (fun _ => Underway.held)
  rintro r p₁ ⟨g₁, since, ends⟩ ran
  cases r with
  | again => exact wp_pos rfl ⟨g₁, ends, since.written, fun some => (found some).more since.delivered⟩
  | eof =>
    obtain ⟨talking₁, -, finished⟩ := ends
    exact wp_neg nofun (wp_pos rfl ⟨g₁, talking₁, since.written, .inl finished⟩)
  | error => exact wp_neg nofun (wp_neg nofun (wp_pos nofun ⟨rfl, g₁, ends, since.written⟩))
  | ok =>
    obtain ⟨talking₁, -⟩ := ends
    refine wp_neg nofun (wp_neg nofun (wp_neg (not_not_intro rfl) ?_))
    have held : Held P g.written p₁ := ⟨g₁, talking₁.toReading, since.written⟩
    have search : wp (if v.headersLen = 0 then findLengths else pure v)
        (Part P g.written fun v' p' => p' = p₁ ∧ (v'.headersLen ≠ 0 → Found Just v' g₁.history.delivered)) p₁ := by
      refine wp_ite.mpr ⟨fun unknown => ?_, fun some => ⟨rfl, fun _ => (found some).more since.delivered⟩⟩
      refine wp_mono (wp_ran (findLengths_spec talking₁.roomy)) ?_ ?_ ?_ (fun _ h => h.1.elim)
      · rintro v' p₁ ⟨⟨rfl, -⟩, ran'⟩
        exact ⟨rfl, fun _ => ⟨p₁, reads p₁ unknown ran, talking₁.roomy, by rw [talking₁.contents], ran'⟩⟩
      · rintro _ _ ⟨⟨rfl, rfl⟩, -⟩
        exact ⟨rfl, held⟩
      · rintro _ ⟨⟨blank, rfl⟩, -⟩
        exact ⟨blank, talking₁.roomy, held⟩
    refine wp_seq search ?_ (fun _ _ => id) (fun _ => id) (fun _ => id)
    rintro v' _ ⟨rfl, found'⟩
    refine wp_then rfl (wp_ite.mpr ⟨fun enough => ?_, fun _ => ⟨g₁, talking₁, since.written, found'⟩⟩)
    refine ⟨g₁, talking₁, since.written, .inr (.inl ⟨enough.1, found' enough.1, ?_⟩)⟩
    rw [← talking₁.len]
    exact enough.2

theorem writeRound_spec (library : Speaks R P.toSession) (serves : os.Serves P conn.fd) (named : conn.rconn = some P.rconn)
    (result : Int) (waiting : Waiting P Just written v p) :
    wp (writeRound R os conn result)
      (Post.round (Part P written fun _ => Waiting P Just written v) fun _ => Waiting P Just written v) p := by
  obtain ⟨g, talking, told, found⟩ := waiting
  refine wp_seq (demoWriteTls_talking library serves talking named) ?_ (fun _ _ => False.elim) (fun _ => False.elim)
    (fun _ => False.elim)
  rintro err p₁ ⟨c₁, talking₁⟩
  have after : Waiting P Just written v p₁ := ⟨_, talking₁, told, found⟩
  refine wp_ite.mpr ⟨fun _ => ⟨rfl, after.held⟩, fun _ => wp_ite.mpr ⟨fun _ => after, fun _ => ?_⟩⟩
  exact wp_then rfl (wp_ite.mpr ⟨fun _ => after, fun _ => after⟩)

theorem exchangeRound_spec (library : Speaks R P.toSession) (serves : os.Serves P conn.fd)
    (named : conn.rconn = some P.rconn) (fuel : Nat) (waiting : Waiting P Just written v p)
    (reads : ∀ write q₂ v₂ q₃ q, (await R os conn : Code _ Int _) p = (.next (some (.ok (true, write))), q₂) →
      Reaches (readRound R os fuel conn) v q₂ v₂ q₃ → v₂.headersLen = 0 →
      (Code.call (doRead R os fuel conn) : Code _ Int _) q₃ = (.next .ok, q) → Just q) :
    wp (exchangeRound R os fuel conn v)
      (Post.round (Part P written (Draining R P Just written)) (Waiting P Just written)) p := by
  obtain ⟨g, talking, told, found⟩ := waiting
  refine wp_seq_ran (await_spec serves talking named) ?_ (fun _ _ => False.elim) (fun _ => False.elim) (fun _ => False.elim)
  rintro (_ | _ | ⟨read, write⟩) p₁ ⟨talking₁, idle⟩ ready
  · exact ⟨g, talking₁, told, .inr (.inr (idle rfl))⟩
  · exact ⟨rfl, g, talking₁.toReading, told⟩
  · have before : Waiting P Just written v p₁ := ⟨g, talking₁, told, found⟩
    have reading : wp (if read = true then Code.loop (readRound R os fuel conn) fuel v else pure (false, v))
        (Part P written (AfterReads R P Just written)) p₁ := by
      refine wp_ite.mpr ⟨?_, fun _ => before⟩
      rintro rfl
      refine wp_loop_reached (fun _ _ _ => Waiting.held) (fun v₂ q₃ reached waiting => ?_) fuel before
      exact readRound_spec library serves named fuel waiting fun q => reads write p₁ v₂ q₃ q ready reached
    refine wp_seq reading ?_ (fun _ _ => id) (fun _ => id) (fun _ => id)
    rintro ⟨drained, v'⟩ p₂ after
    cases drained with
    | true => exact wp_pos rfl after
    | false =>
      have writing : ∀ result : Int,
          wp (if write = true then Code.loop (fun _ => writeRound R os conn result) fuel () else pure ())
            (Part P written fun _ => Waiting P Just written v') p₂ := by
        intro result
        refine wp_ite.mpr ⟨fun _ => ?_, fun _ => after⟩
        exact wp_loop (fun _ _ => Waiting.held) (fun _ _ => writeRound_spec library serves named result) fuel after
      exact wp_neg nofun (wp_seq (writing _) (fun _ _ => id) (fun _ _ => id) (fun _ => id) (fun _ => id))

end

/-! ### Invariants -/

section
variable {defined : Prop} {I : Process Conn S → Prop} (invariant : Invariant defined R conn I)

theorem findLengths_preserves : Preserves defined I (findLengths : Code (Process Conn S) Int Lengths) := by
  refine preserves_bind preserves_get fun _ => preserves_bind (preserves_access _) ?_
  rintro (_ | _)
  · exact preserves_pure _
  · refine preserves_bind (preserves_access _) ?_
    rintro (_ | _)
    · exact preserves_ret _
    · exact preserves_bind (preserves_access _) fun _ => preserves_ite (preserves_ret _) (preserves_pure _)

include invariant

theorem doRead_preserves (fuel : Nat) : Preserves defined I (doRead R os fuel conn) :=
  preserves_bind (ffi_preserves fun p => invariant.readTls p _) fun _ =>
    preserves_ite (preserves_ret _) (preserves_ite (preserves_ret _) (processAndCopy_preserves invariant))

theorem readRound_preserves (fuel : Nat) (v : Lengths) : Preserves defined I (readRound R os fuel conn v) := by
  refine preserves_bind (preserves_call (doRead_preserves invariant fuel)) fun _ => preserves_ite (preserves_pure _) ?_
  refine preserves_ite (preserves_pure _) (preserves_ite (preserves_ret _) ?_)
  refine preserves_bind (preserves_ite findLengths_preserves (preserves_pure v)) fun _ => ?_
  exact preserves_bind preserves_get fun _ => preserves_ite (preserves_pure _) (preserves_pure _)

theorem writeRound_preserves (result : Int) : Preserves defined I (writeRound R os conn result) := by
  refine preserves_bind (writeTls_preserves invariant) fun _ => preserves_ite (preserves_ret _) ?_
  refine preserves_ite (preserves_pure _) (preserves_bind loadN_preserves fun _ => ?_)
  exact preserves_ite (preserves_pure _) (preserves_pure _)

theorem exchangeRound_preserves (fuel : Nat) (v : Lengths) : Preserves defined I (exchangeRound R os fuel conn v) := by
  refine preserves_bind (await_preserves invariant) ?_
  rintro (_ | _ | ⟨read, write⟩)
  · exact preserves_pure _
  · exact preserves_ret _
  · refine preserves_bind (preserves_ite (preserves_loop (readRound_preserves invariant fuel) fuel v) (preserves_pure _)) ?_
    rintro ⟨drained, v⟩
    refine preserves_ite (preserves_pure _) (preserves_bind (preserves_ite ?_ (preserves_pure ())) fun _ => preserves_pure _)
    exact preserves_loop (fun _ => writeRound_preserves invariant _) fuel ()

theorem sendRequest_preserves (hostname path : CString) : Preserves defined I (sendRequest R conn hostname path) := by
  refine preserves_bind (ffi_preserves fun p => invariant.write p _ _ (Nat.le_refl _)) fun _ =>
    preserves_ite (preserves_ret _) ?_
  exact preserves_bind loadN_preserves fun _ => preserves_ite (preserves_ret _) (preserves_pure _)

theorem talk_preserves (fuel : Nat) (hostname path : CString) : Preserves defined I (talk R os fuel conn hostname path) :=
  preserves_bind (sendRequest_preserves invariant hostname path) fun _ =>
    preserves_loop (exchangeRound_preserves invariant fuel) fuel {}

/-- The output is left out of the invariant: the end of the exchange prints. -/
theorem sendRequestAndReadResponse_preserves (printed : ∀ p out, I p → I { p with stdout := out }) (fuel : Nat)
    (hostname path : CString) : Preserves defined I (sendRequestAndReadResponse R os fuel conn hostname path) := by
  have prints (buf : Bytes) : Preserves defined I (writeStdout os buf : Code (Process Conn S) Int (Except Errno Nat)) := by
    intro p before
    unfold writeStdout
    rcases os.write 1 buf p.world.app with ⟨_ | n, s⟩
    · exact ⟨invariant.sys p s before, fun _ => nofun⟩
    · exact ⟨printed _ _ (invariant.sys p s before), fun _ => nofun⟩
  have exchanges : Preserves defined I (exchange R os fuel conn hostname path) := by
    refine preserves_bind (talk_preserves invariant fuel hostname path) fun _ => ?_
    refine preserves_bind (preserves_call (copyPlaintextToBuffer_preserves invariant)) fun _ =>
      preserves_ite (preserves_ret _) ?_
    refine preserves_bind preserves_get fun _ => preserves_bind (prints _) ?_
    rintro (_ | _)
    · exact preserves_ret _
    · exact preserves_pure _
  refine preserves_bind (preserves_call exchanges) fun _ => ?_
  exact preserves_bind (preserves_ite (sys_preserves invariant _) (preserves_pure ())) fun _ => preserves_pure _

end

/-! ### The whole request -/

/-- In a run from `p`, whose lengths are still unknown, the client has just read more into its buffer, at `q`. -/
inductive HasRead (R : Rustls Conn S) (os : Os S) (fuel : Nat) (conn : ConnData) (hostname path : CString)
    (p : Process Conn S) : Process Conn S → Prop
  | intro {p₁ q₁ q₂ q₃ q : Process Conn S} {v₁ v₂ : Lengths} {write : Bool}
      (asked : sendRequest R conn hostname path p = (.next (), p₁))
      (round : Reaches (exchangeRound R os fuel conn) {} p₁ v₁ q₁)
      (ready : (await R os conn : Code _ Int _) q₁ = (.next (some (.ok (true, write))), q₂))
      (reads : Reaches (readRound R os fuel conn) v₁ q₂ v₂ q₃) (unknown : v₂.headersLen = 0)
      (more : (Code.call (doRead R os fuel conn) : Code _ Int _) q₃ = (.next .ok, q)) :
      HasRead R os fuel conn hostname path p q

/-- What a success says, of the state `p₂` at `drain_plaintext`. Everything that came in was decrypted and was not cut off.
The buffer then held all of it, and the `write` of the buffer took the first `n` bytes. -/
structure Printed (R : Rustls Conn S) (P : Party Peer Conn S) (os : Os S) (fuel : Nat) (conn : ConnData) (out : Bytes)
    (p₂ : Process Conn S) (g : Record Conn) (p : Process Conn S) : Prop extends Reading P g p where
  whole : g.history.decrypted = P.incoming.opens (P.got p.world.app)
  untruncated : g.history.finished = true ∨ ended ∉ P.view.reports p.world.app
  printed : ∃ r p₃ n, (Code.call (copyPlaintextToBuffer R os fuel conn) : Code _ Int _) p₂ = (.next r, p₃) ∧
    p₃.data.contents = g.history.decrypted ∧ (os.write 1 p₃.data.contents p₃.world.app).1 = .ok n ∧
    p.stdout = out ++ g.history.decrypted.take n

/-- The client's success: it got to `drain_plaintext` with the whole request written and for a good reason, and printed what
it had got by then. -/
def Succeeded (R : Rustls Conn S) (P : Party Peer Conn S) (os : Os S) (fuel : Nat) (conn : ConnData) (hostname path : CString)
    (p p' : Process Conn S) : Prop :=
  ∃ v p₂ g₂ g, talk R os fuel conn hostname path p = (.next v, p₂) ∧ Talking P g₂ p₂ ∧
    g₂.written = request hostname path ∧ Complete R (HasRead R os fuel conn hostname path p) v g₂ ∧
    g.history.decrypted = g₂.history.decrypted ∧ g.written = g₂.written ∧ Printed R P os fuel conn p.stdout p₂ g p'

theorem Succeeded.sys {fuel : Nat} {hostname path : CString} {p' : Process Conn S}
    (succeeded : Succeeded R P os fuel conn hostname path p p') {s : S} (still : P.Still p'.world.app s) :
    Succeeded R P os fuel conn hostname path p { p' with world.app := s } := by
  obtain ⟨v, p₂, g₂, g, talked, talking, written, complete, decrypted, same, printed⟩ := succeeded
  refine ⟨v, p₂, g₂, g, talked, talking, written, complete, decrypted, same, printed.untouched ⟨rfl, still, rfl⟩, ?_, ?_,
    printed.printed⟩
  · rw [printed.whole, show P.got s = _ from still.1.2]
  · rw [show P.view.reports s = _ from still.1.1]
    exact printed.untruncated

theorem writeStdout_ok {buf : Bytes} {n : { n // n ≤ buf.length }} {s : S}
    (wrote : os.write 1 buf p.world.app = (.ok n, s)) :
    (writeStdout os buf : Code (Process Conn S) ρ _) p =
      (.next (.ok n), { p with world.app := s, stdout := p.stdout ++ buf.take n }) := by
  rw [writeStdout, wrote]

theorem writeStdout_error {buf : Bytes} {e : Errno} {s : S} (failed : os.write 1 buf p.world.app = (.error e, s)) :
    (writeStdout os buf : Code (Process Conn S) ρ _) p = (.next (.error e), { p with world.app := s }) := by
  rw [writeStdout, failed]

/-- Nothing was printed, and no more was written than the request. -/
def Unprinted (P : Party Peer Conn S) (request out : Bytes) (p : Process Conn S) : Prop :=
  p.stdout = out ∧ ∃ written, written <+: request ∧ Held P written p

theorem Unprinted.sys {request out : Bytes} (unprinted : Unprinted P request out p) {s : S}
    (still : P.Still p.world.app s) : Unprinted P request out { p with world.app := s } := by
  obtain ⟨same, written, initial, g, reading, told⟩ := unprinted
  exact ⟨same, written, initial, g, reading.untouched ⟨rfl, still, rfl⟩, told⟩

theorem sendRequest_spec (library : Speaks R P.toSession) (talking : Talking P g p) (named : conn.rconn = some P.rconn)
    (fresh : g.written = []) (hostname path : CString) :
    wp (sendRequest R conn hostname path)
      ⟨fun _ p' => ∃ g', Talking P g' p' ∧ g'.written = request hostname path,
        fun r p' => r = 1 ∧ ∃ written, written <+: request hostname path ∧ Held P written p', fun _ => False,
        fun _ => False⟩ p := by
  refine wp_seq (write_talking library talking named (Nat.le_refl _)) ?_ (fun _ _ => False.elim) (fun _ => False.elim)
    (fun _ => False.elim)
  rintro result p₁ ⟨-, c₁, talking₁⟩
  rw [List.take_length, fresh, List.nil_append] at talking₁
  have short : ∃ written, written <+: request hostname path ∧ Held P written p₁ :=
    ⟨_, taken_initial _ result p₁, _, talking₁.toReading, rfl⟩
  refine wp_ite.mpr ⟨fun _ => ⟨rfl, short⟩, fun ok => wp_then rfl (wp_ite.mpr ⟨fun _ => ⟨rfl, short⟩, fun all => ?_⟩)⟩
  refine ⟨_, talking₁, ?_⟩
  rw [taken, if_pos (not_not.mp ok), not_not.mp all, List.take_length]

theorem talk_spec (library : Speaks R P.toSession) (serves : os.Serves P conn.fd) (talking : Talking P g p)
    (named : conn.rconn = some P.rconn) (fresh : g.written = []) (fuel : Nat) (hostname path : CString) :
    wp (talk R os fuel conn hostname path)
      ⟨Draining R P (HasRead R os fuel conn hostname path p) (request hostname path),
        fun r p' => r = 1 ∧ ∃ written, written <+: request hostname path ∧ Held P written p',
        Misled P (request hostname path), Held P (request hostname path)⟩ p := by
  refine wp_seq_ran (sendRequest_spec library talking named fresh hostname path) ?_ (fun _ _ => id) (fun _ => False.elim)
    (fun _ => False.elim)
  rintro ⟨⟩ p₁ ⟨g₁, talking₁, written⟩ asked
  have waiting : Waiting P (HasRead R os fuel conn hostname path p) (request hostname path) {} p₁ :=
    ⟨g₁, talking₁, written, fun found => absurd rfl found⟩
  have looped : wp (Code.loop (exchangeRound R os fuel conn) fuel {})
      (Part P (request hostname path) (Draining R P (HasRead R os fuel conn hostname path p) (request hostname path))) p₁ := by
    refine wp_loop_reached (fun _ _ _ => Waiting.held) (fun v₁ q₁ round waiting => ?_) fuel waiting
    exact exchangeRound_spec library serves named fuel waiting fun _ _ _ _ _ ready reads unknown more =>
      .intro asked round ready reads unknown more
  exact wp_mono looped (fun _ _ => id) (fun _ _ h => ⟨h.1, _, List.prefix_rfl, h.2⟩) (fun _ => id) (fun _ => id)

theorem drainPlaintext_spec (library : Speaks R P.toSession) (serves : os.Serves P conn.fd) (talking : Talking P g p)
    (named : conn.rconn = some P.rconn) (fuel : Nat) :
    wp (drainPlaintext R os fuel conn)
      ⟨fun r p' => r = 0 ∧ ∃ g', g'.history.decrypted = g.history.decrypted ∧ g'.written = g.written ∧
          Printed R P os fuel conn p.stdout p g' p',
        fun r p' => r = 1 ∧ p'.stdout = p.stdout ∧ Held P g.written p', fun _ => False,
        fun p' => p'.stdout = p.stdout ∧ Held P g.written p'⟩ p := by
  have copied : wp (copyPlaintextToBuffer R os fuel conn) (.during (Copied P os g p) (Underway P g)) p :=
    copyPlaintextToBuffer_spec library.draws serves.alloc talking.toReading named (.inr fun _ _ => Progress.underway)
  refine wp_called_ran (wp_frame (copyPlaintextToBuffer_preserves (stdout_invariant R conn p.stdout)) rfl copied) ?_
    (fun _ h => h.1.elim) (fun _ h => ⟨h.2, h.1.held⟩)
  rintro r p₁ ⟨⟨g₁, progress, ends⟩, same⟩ ran
  have held : Held P g.written p₁ := progress.underway.held
  refine wp_ite.mpr ⟨fun _ => ⟨rfl, same, held⟩, fun fine => wp_then rfl ?_⟩
  have all : g₁.history.delivered = g₁.history.decrypted ∧
      (g₁.history.finished = true ∨ ended ∉ P.view.reports p₁.world.app) := by
    cases r with
    | ok => exact ⟨ends.1, .inr ends.2.2.1⟩
    | eof => exact ⟨ends.1, .inl ends.2.1⟩
    | error => exact absurd ⟨nofun, nofun⟩ fine
    | again => exact ends.elim
  have text : p₁.data.contents = g₁.history.decrypted := progress.reading.contents.trans all.1
  have still := serves.write p₁.data.contents p₁.world.app
  rcases wrote : os.write 1 p₁.data.contents p₁.world.app with ⟨e | n, s⟩ <;> rw [wrote] at still
  · obtain ⟨g', reading, told⟩ := held
    exact wp_then (writeStdout_error wrote) ⟨rfl, same, g', reading.untouched ⟨rfl, still, rfl⟩, told⟩
  · refine wp_then (writeStdout_ok wrote) ⟨rfl, g₁, progress.decrypted, progress.written, ?_⟩
    refine ⟨progress.reading.untouched ⟨rfl, still, rfl⟩, ?_, ?_, r, p₁, n, ran, text, congrArg Prod.fst wrote, ?_⟩
    · rw [progress.decrypted, talking.whole, show P.got s = _ from still.1.2, progress.still.1.2]
    · rw [show P.view.reports s = _ from still.1.1]
      exact all.2
    · rw [← text, same]

theorem exchange_spec (library : Speaks R P.toSession) (serves : os.Serves P conn.fd) (talking : Talking P g p)
    (named : conn.rconn = some P.rconn) (fresh : g.written = []) (fuel : Nat) (hostname path : CString) :
    wp (exchange R os fuel conn hostname path)
      ⟨fun r p' => r = 0 ∧ Succeeded R P os fuel conn hostname path p p',
        fun r p' => r = 1 ∧ Unprinted P (request hostname path) p.stdout p',
        fun p' => Misled P (request hostname path) p' ∧ p'.stdout = p.stdout,
        Unprinted P (request hostname path) p.stdout⟩ p := by
  refine wp_seq_ran (wp_frame (talk_preserves (stdout_invariant R conn p.stdout) fuel hostname path) rfl
    (talk_spec library serves talking named fresh fuel hostname path)) ?_ (fun _ _ h => ⟨h.1.1, h.2, h.1.2⟩) (fun _ => id)
    (fun _ h => ⟨h.2, _, List.prefix_rfl, h.1⟩)
  rintro v p₂ ⟨⟨g₂, talking₂, told, complete⟩, same⟩ talked
  have unprinted : ∀ q : Process Conn S, q.stdout = p₂.stdout ∧ Held P g₂.written q →
      Unprinted P (request hostname path) p.stdout q :=
    fun q h => ⟨h.1.trans same, _, List.prefix_rfl, told ▸ h.2⟩
  refine wp_mono (drainPlaintext_spec library serves talking₂ named fuel) ?_ (fun _ q h => ⟨h.1, unprinted q h.2⟩)
    (fun _ => False.elim) unprinted
  rintro r p' ⟨rfl, g, decrypted, written, printed⟩
  rw [same] at printed
  exact ⟨rfl, v, p₂, g₂, g, talked, talking₂, told, complete, decrypted, written, printed⟩

theorem sendRequestAndReadResponse_spec (library : Speaks R P.toSession) (serves : os.Serves P conn.fd)
    (named : conn.rconn = some P.rconn) {c : Connection Conn} (begins : Begins P c p) (fuel : Nat) (hostname path : CString) :
    wp (sendRequestAndReadResponse R os fuel conn hostname path)
      ⟨fun r p' => r = 0 ∧ Succeeded R P os fuel conn hostname path p p' ∨
          r = 1 ∧ Unprinted P (request hostname path) p.stdout p',
        fun _ _ => False, fun p' => Misled P (request hostname path) p' ∧ p'.stdout = p.stdout,
        Unprinted P (request hostname path) p.stdout⟩ p := by
  refine wp_calls (exchange_spec library serves begins.talking named rfl fuel hostname path) ?_ ?_ (fun _ => id)
    (fun _ => id)
  · rintro _ p₁ ⟨rfl, succeeded⟩
    by_cases isOpen : conn.fd > 0
    · rw [if_pos isOpen]
      exact wp_then rfl (.inl ⟨rfl, succeeded.sys (serves.close p₁.world.app)⟩)
    · rw [if_neg isOpen]
      exact wp_then rfl (.inl ⟨rfl, succeeded⟩)
  · rintro _ p₁ ⟨rfl, unprinted⟩
    by_cases isOpen : conn.fd > 0
    · rw [if_pos isOpen]
      exact wp_then rfl (.inr ⟨rfl, unprinted.sys (serves.close p₁.world.app)⟩)
    · rw [if_neg isOpen]
      exact wp_then rfl (.inr ⟨rfl, unprinted⟩)

end

/-- A client that exits with 0 has given its standard output all the plaintext of what came in, complete and not cut
off. Otherwise it has printed nothing: it exits with 1, is still running, or has read past a blank length. -/
theorem response_printed_or_nothing {R : Rustls Conn S} {P : Party Peer Conn S} {os : Os S} {conn : ConnData}
    {p : Process Conn S} {c : Connection Conn} (library : Speaks R P.toSession) (serves : os.Serves P conn.fd)
    (named : conn.rconn = some P.rconn) (begins : Begins P c p) (fuel : Nat) (hostname path : CString) :
    let run := sendRequestAndReadResponse R os fuel conn hostname path p
    (run.1 = .next 0 ∧ Succeeded R P os fuel conn hostname path p run.2) ∨
      run.2.stdout = p.stdout ∧ (run.1 = .next 1 ∨ run.1 = .running ∨ run.1 = .fault ∧ BlankLength run.2.data) := by
  intro run
  have spec : Post.holds _ run := sendRequestAndReadResponse_spec library serves named begins fuel hostname path
  clear_value run
  rcases run with ⟨r | r | _ | _ | _, p'⟩
  · rcases spec with ⟨rfl, succeeded⟩ | ⟨rfl, same, -⟩
    · exact .inl ⟨rfl, succeeded⟩
    · exact .inr ⟨same, .inl rfl⟩
  · exact spec.elim
  · exact .inr ⟨spec.2, .inr (.inr ⟨rfl, spec.1.1⟩)⟩
  · exact spec.elim
  · exact .inr ⟨spec.1, .inr (.inl rfl)⟩

def reply : Bytes := utf8 "HTTP/1.1 200 OK\r\nContent-Length: 2\r\n\r\nhi"

def localhost : CString := ⟨utf8 "localhost", by decide⟩

def root : CString := ⟨utf8 "/", by decide⟩

/-- The whole reply has arrived before the client looks for it. -/
def replyRun : Exit Int Int × Process Masked Tape :=
  sendRequestAndReadResponse maskedLibrary (tapeOs (reply.map mask)) 8 tapeConn localhost root (tapeProcess .client)

theorem response_printed_or_nothing_reply :
    replyRun.2.stdout = reply ∧
      Succeeded maskedLibrary (tapeParty (reply.map mask)) (tapeOs (reply.map mask)) 8 tapeConn localhost root
        (tapeProcess .client) replyRun.2 := by
  have ends : replyRun.1 = .next 0 := by decide +kernel
  refine ⟨by decide +kernel, ?_⟩
  have printed := response_printed_or_nothing (maskedLibrary_speaks _ _ _) (tapeOs_serves _) rfl
    (tapeProcess_begins (reply.map mask) .client) 8 localhost root
  rw [← replyRun] at printed
  rcases printed with ⟨-, succeeded⟩ | ⟨-, one | running | ⟨fault, -⟩⟩
  · exact succeeded
  · cases ends.symm.trans one
  · cases ends.symm.trans running
  · cases ends.symm.trans fault

end RustlsFfi.Demo.Client
