import RustlsFfi.Base.Probe
import RustlsFfi.Roots.AddPem
import RustlsFfi.Userdata.CallTree

/-!
# Errors of the libraries

What an exported function reports when rustls or rustls-pemfile returns an `Err` to it. Each function is
retraced up to the call that may fail; its code for the error follows.
-/

namespace RustlsFfi.Failures
open Control Probe

variable {Conn S τ : Type}

/-- An `Err` that a function gets from the libraries. -/
inductive Failure where
  /-- A `rustls::Error`, met while a connection was created or driven. -/
  | connection (e : Error)
  | io (e : IoError)
  /-- An error that no function looks into. -/
  | other
  deriving DecidableEq, Repr

/-! ### The way to a library -/

def object (arena : List (Option τ)) (p : Ptr) : Probe Failure (Addr × τ) :=
  need (p.bind fun a => (Arena.get arena a).map (a, ·))

def shared (h : Heap) (as : ArcValue → Option τ) (p : Ptr) : Probe Failure τ :=
  need (p.bind (derefArc h as))

def slice (p : Option (List τ)) (count : Nat) : Probe Failure (List τ) :=
  need (p.bind fun l => if count ≤ l.length then some (l.take count) else none)

def clientConnectionNew (R : Rustls Conn S) (w : World Conn S) (config : Ptr) (hostname : Option Bytes) :
    Probe Failure Conn := do
  let hostname ← need hostname
  let config ← shared w.arcs ArcValue.clientConfig? config
  let hostname ← need (utf8Decode hostname)
  let serverName ← answer .other (R.serverName hostname)
  ask .connection (R.clientConnectionNew config serverName)

def serverConnectionNew (R : Rustls Conn S) (w : World Conn S) (config : Ptr) : Probe Failure Conn := do
  let config ← shared w.arcs ArcValue.serverConfig? config
  ask .connection (R.serverConnectionNew config)

def processNewPackets (R : Rustls Conn S) (w : World Conn S) (conn : Ptr) : Probe Failure Unit := do
  let (a, c) ← object w.conns conn
  let _ ← need (userdataPush c.userdata c.logCallback w.userdata).1.toOption
  ask .connection (R.processNewPackets a (w.enter c)).1

def write (R : Rustls Conn S) (w : World Conn S) (conn : Ptr) (buf : Option Bytes) (count : Nat) (outN : Ptr) :
    Probe Failure Nat := do
  let (_, c) ← object w.conns conn
  let writeBuf ← slice buf count
  let _ ← need outN
  ask .io (R.writerWrite c.conn writeBuf).1

def read (read : Conn → Bytes → Res IoError Nat × Bytes × Conn) (w : World Conn S) (conn buf : Ptr) (count : Nat)
    (outN : Ptr) : Probe Failure Nat := do
  let (_, c) ← object w.conns conn
  let readBuf ← slice (buf.map w.cells.buf) count
  let _ ← need outN
  ask .io (read c.conn readBuf).1

def known (entry : Option SupportedCipherSuite) : Bool := entry.any allCipherSuites.contains

def newCustom (R : Rustls Conn S) (cipherSuites : Option (List (Option SupportedCipherSuite)))
    (cipherSuitesLen : Nat) (tlsVersions : Option (List UInt16)) (tlsVersionsLen : Nat) : Probe Failure Unit := do
  let cipherSuites ← slice cipherSuites cipherSuitesLen
  let csVec ← need (if cipherSuites.all known then some cipherSuites.reduceOption else none)
  let tlsVersions ← slice tlsVersions tlsVersionsLen
  ask (fun _ => .other) (R.withProtocolVersions csVec (tlsVersions.filterMap protocolVersion?))

def loadRootsFromFile (R : Rustls Conn S) (w : World Conn S) (configBuilder : Ptr) (filename : Option Bytes) :
    Probe Failure (List Bytes) := do
  let _ ← object w.clientBuilders configBuilder
  let filename ← need filename
  let filename ← need (utf8Decode filename)
  let cafile ← need (R.openFile filename)
  ask (fun _ => .other) (R.certs cafile)

def addPem (R : Rustls Conn S) (w : World Conn S) (store : Ptr) (pem : Option Bytes) (pemLen : Nat) :
    Probe Failure (List Bytes) := do
  let certsPem ← slice pem pemLen
  let _ ← object w.stores store
  ask (fun _ => .other) (R.certs certsPem)

def privateKey (R : Rustls Conn S) (text : Bytes) : Probe Failure Bytes := do
  let privateKeys ← ask (fun _ => .other) (R.pkcs8PrivateKeys text)
  match privateKeys.getLast? with
  | some p => pure p
  | none => do
    let privateKeys ← ask (fun _ => .other) (R.rsaPrivateKeys text)
    need privateKeys.getLast?

def certifiedKeyBuild (R : Rustls Conn S) (certChain : Option Bytes) (certChainLen : Nat) (key : Option Bytes)
    (keyLen : Nat) (certifiedKeyOut : Ptr) : Probe Failure (List Bytes) := do
  let _ ← need certifiedKeyOut
  let certChain ← slice certChain certChainLen
  let text ← slice key keyLen
  let der ← privateKey R text
  let _ ← ask (fun _ => .other) (R.anySupportedType der)
  ask (fun _ => .other) (R.certs certChain)

/-- The error that a call gets from the libraries, if it gets so far and gets one. -/
def libraryError? (R : Rustls Conn S) (w : World Conn S) : Call S → Option Failure
  | .clientConnectionNew config hostname _ => (clientConnectionNew R w config hostname).error?
  | .serverConnectionNew config _ => (serverConnectionNew R w config).error?
  | .connectionProcessNewPackets conn => (processNewPackets R w conn).error?
  | .connectionWrite conn buf count outN => (write R w conn buf count outN).error?
  | .connectionRead conn buf count outN => (read R.readerRead w conn buf count outN).error?
  | .connectionRead2 conn buf count outN => (read R.readerReadBuf w conn buf count outN).error?
  | .clientConfigBuilderNewCustom suites n versions k _ => (newCustom R suites n versions k).error?
  | .serverConfigBuilderNewCustom suites n versions k _ => (newCustom R suites n versions k).error?
  | .clientConfigBuilderLoadRootsFromFile builder filename => (loadRootsFromFile R w builder filename).error?
  | .rootCertStoreAddPem store pem pemLen _ => (addPem R w store pem pemLen).error?
  | .certifiedKeyBuild chain n key k out => (certifiedKeyBuild R chain n key k out).error?
  | _ => none

section
variable {R : Rustls Conn S} {w : World Conn S} {f : Failure} {β : Type}

theorem met_object_bind {arena : List (Option τ)} {p : Ptr} {k : Addr × τ → Probe Failure β}
    (met : (object arena p >>= k) = .met f) :
    ∃ a v, p = some a ∧ Arena.get arena a = some v ∧ k (a, v) = .met f := by
  obtain ⟨⟨a, v⟩, found, met⟩ := met_need_bind met
  obtain ⟨b, rfl, found⟩ := Option.bind_eq_some_iff.mp found
  obtain ⟨u, live, same⟩ := Option.map_eq_some_iff.mp found
  obtain ⟨rfl, rfl⟩ := Prod.mk.inj same
  exact ⟨b, u, rfl, live, met⟩

theorem met_shared_bind {h : Heap} {as : ArcValue → Option τ} {p : Ptr} {k : τ → Probe Failure β}
    (met : (shared h as p >>= k) = .met f) :
    ∃ a v, p = some a ∧ derefArc h as a = some v ∧ k v = .met f := by
  obtain ⟨v, found, met⟩ := met_need_bind met
  obtain ⟨a, given, live⟩ := Option.bind_eq_some_iff.mp found
  exact ⟨a, v, given, live, met⟩

theorem met_slice_bind {p : Option (List τ)} {count : Nat} {k : List τ → Probe Failure β}
    (met : (slice p count >>= k) = .met f) :
    ∃ l, p = some l ∧ count ≤ l.length ∧ k (l.take count) = .met f := by
  obtain ⟨part, found, met⟩ := met_need_bind met
  obtain ⟨l, rfl, cut⟩ := Option.bind_eq_some_iff.mp found
  obtain ⟨room, same⟩ := Option.ite_none_right_eq_some.mp cut
  obtain rfl := Option.some.inj same
  exact ⟨l, rfl, room, met⟩

/-! ### Creating and driving a connection -/

theorem serverConnectionNew_failed {config : Ptr} (connOut : Ptr) (met : serverConnectionNew R w config = .met f) :
    ∃ e, f = .connection e ∧ rustlsServerConnectionNew R config connOut w = (.returned (mapError e), w) := by
  obtain ⟨a, value, given, found, met⟩ := met_shared_bind met
  obtain ⟨e, failed, rfl⟩ := met_ask met
  subst given
  refine ⟨e, rfl, ?_⟩
  have restored := dropArc_retain (strong_of_derefArc found)
  simp [rustlsServerConnectionNew, ffiPanicBoundary, bind_run, tryArcFromPtr_live found, Ffi.inScope, callPure,
    Ffi.call, failed, okOr, restored]

/-- The name is turned down with a code of its own, but an error of the constructor is unwrapped. -/
theorem clientConnectionNew_failed {config : Ptr} {hostname : Option Bytes} (connOut : Ptr)
    (met : clientConnectionNew R w config hostname = .met f) :
    (f = .other ∧ rustlsClientConnectionNew R config hostname connOut w = (.returned .invalidDnsNameError, w)) ∨
      ∃ e, f = .connection e ∧ rustlsClientConnectionNew R config hostname connOut w = (.returned .panic, w) := by
  obtain ⟨host, hostGiven, met⟩ := met_need_bind met
  obtain ⟨a, value, given, found, met⟩ := met_shared_bind met
  obtain ⟨name, decoded, met⟩ := met_need_bind met
  have restored := dropArc_retain (strong_of_derefArc found)
  rcases met_answer_bind met with ⟨unnamed, rfl⟩ | ⟨server, named, met⟩
  · left
    subst hostGiven given
    refine ⟨rfl, ?_⟩
    simp [rustlsClientConnectionNew, ffiPanicBoundary, bind_run, tryRef, tryArcFromPtr_live found, Ffi.inScope,
      someOr, decoded, unnamed, restored]
  · right
    obtain ⟨e, failed, rfl⟩ := met_ask met
    subst hostGiven given
    refine ⟨e, rfl, ?_⟩
    simp [rustlsClientConnectionNew, ffiPanicBoundary, bind_run, tryRef, tryArcFromPtr_live found, Ffi.inScope,
      someOr, decoded, named, callPure, Ffi.call, failed, unwrap, mayPanic, restored]

/-- The frame that the call has put on the userdata stack comes off again once rustls is done. -/
def Released (R : Rustls Conn S) (w : World Conn S) (a : Addr) (c : Connection Conn) : Prop :=
  ((UserdataGuard.new c.userdata).tryDrop (R.processNewPackets a (w.enter c)).2.userdata).1 = .ok ()

theorem processNewPackets_failed {conn : Ptr} (met : processNewPackets R w conn = .met f) :
    ∃ a c e, conn = some a ∧ Arena.get w.conns a = some c ∧ w.userdata.Usable ∧ f = .connection e ∧
      (Released R w a c → (rustlsConnectionProcessNewPackets R.processNewPackets conn w).1 = .returned (mapError e)) ∧
      (¬ Released R w a c → (rustlsConnectionProcessNewPackets R.processNewPackets conn w).1 = .returned .panic) := by
  obtain ⟨a, c, given, live, met⟩ := met_object_bind met
  obtain ⟨guard, pushed, met⟩ := met_need_bind met
  obtain ⟨e, failed, rfl⟩ := met_ask met
  -- rustls was called, so the frame was put on the stack.
  have usable : w.userdata.Usable := by
    by_contra unusable
    obtain ⟨e, refused⟩ := userdataPush_unusable unusable c.userdata c.logCallback
    simp [refused, Except.toOption] at pushed
  subst given
  refine ⟨a, c, e, rfl, live, usable, rfl, ?_⟩
  have entered : (pushUserdata c.userdata c.logCallback : Body Conn S RustlsResult _) w =
      (.next (.ok (.new c.userdata)), w.enter c) := pushUserdata_usable usable
  rcases ended : R.processNewPackets a (w.enter c) with ⟨result, t⟩
  obtain rfl : result = .err e := by rw [← failed, ended]
  unfold Released
  rcases popped : (UserdataGuard.new c.userdata).tryDrop t.userdata with ⟨_ | _, k⟩ <;>
    simp [rustlsConnectionProcessNewPackets, ffiPanicBoundary, bind_run, tryFromPtr_live live, entered, ended,
      popped, Ffi.inScope, Ffi.call, okOr, tryDropGuard]

/-! ### Plaintext -/

theorem write_failed {conn : Ptr} {buf : Option Bytes} {count : Nat} {outN : Ptr}
    (met : write R w conn buf count outN = .met f) :
    ∃ e, f = .io e ∧ (rustlsConnectionWrite R conn buf count outN w).1 = .returned .io := by
  obtain ⟨a, c, given, live, met⟩ := met_object_bind met
  obtain ⟨l, bufGiven, room, met⟩ := met_slice_bind met
  obtain ⟨out, outGiven, met⟩ := met_need_bind met
  obtain ⟨e, failed, rfl⟩ := met_ask met
  subst given bufGiven outGiven
  refine ⟨e, rfl, ?_⟩
  simp [rustlsConnectionWrite, ffiPanicBoundary, bind_run, tryFromPtr_live live, trySlice, fromRawParts, room,
    rejectIfNull, callPure, Ffi.call, failed, okOr]

theorem read_failed {method : Conn → Bytes → Res IoError Nat × Bytes × Conn} {conn buf : Ptr} {count : Nat}
    {outN : Ptr} (met : read method w conn buf count outN = .met f) :
    ∃ e, f = .io e ∧ (readPlaintext method conn buf count outN w).1 = .returned e.toReadResult := by
  obtain ⟨a, c, given, live, met⟩ := met_object_bind met
  obtain ⟨l, bufGiven, room, met⟩ := met_slice_bind met
  obtain ⟨out, outGiven, met⟩ := met_need_bind met
  obtain ⟨e, failed, rfl⟩ := met_ask met
  obtain ⟨p, rfl, rfl⟩ := Option.map_eq_some_iff.mp bufGiven
  subst given outGiven
  refine ⟨e, rfl, ?_⟩
  rw [readPlaintext_failed live room (Prod.ext failed rfl)]

theorem toReadResult_reports (e : IoError) : e.toReadResult ≠ .ok ∧ e.toReadResult ≠ .panic := by
  unfold IoError.toReadResult
  cases e.kind <;> decide

/-! ### Suites, roots and keys -/

theorem newCustomBase_failed {cipherSuites : Option (List (Option SupportedCipherSuite))} {cipherSuitesLen : Nat}
    {tlsVersions : Option (List UInt16)} {tlsVersionsLen : Nat}
    (met : newCustom R cipherSuites cipherSuitesLen tlsVersions tlsVersionsLen = .met f) :
    f = .other ∧ newCustomBase R cipherSuites cipherSuitesLen tlsVersions tlsVersionsLen w =
      (.ret .invalidParameter, w) := by
  obtain ⟨entries, given, room, met⟩ := met_slice_bind met
  obtain ⟨suites, collected, met⟩ := met_need_bind met
  obtain ⟨versions, given', room', met⟩ := met_slice_bind met
  obtain ⟨e, failed, rfl⟩ := met_ask met
  subst given given'
  refine ⟨rfl, ?_⟩
  obtain ⟨all, same⟩ := Option.ite_none_right_eq_some.mp collected
  obtain rfl := Option.some.inj same
  have found : ∀ cs ∈ entries.take cipherSuitesLen, ∃ s ∈ allCipherSuites, cs = some s := by
    intro cs inside
    have listed := List.all_eq_true.mp all cs inside
    obtain ⟨s, rfl, member⟩ := (Option.any_eq_true _ _).mp listed
    exact ⟨s, List.contains_iff_mem.mp member, rfl⟩
  have collected : (collectSuites (entries.take cipherSuitesLen) [] : Body Conn S RustlsResult _) w =
      (.next (entries.take cipherSuitesLen).reduceOption, w) := collectSuites_known found []
  simp only [newCustomBase, bind_run, trySlice, fromRawParts, room, room', ↓reduceIte, pure_run, collected]
  simp [callPure, Ffi.call, failed, okOr]

theorem newCustom_failed {suites : Option (List (Option SupportedCipherSuite))} {n : Nat} {versions : Option (List UInt16)}
    {k : Nat} (out : Ptr) (met : newCustom R suites n versions k = .met f) :
    f = .other ∧ ∀ toMutPtr,
      (configBuilderNewCustom R toMutPtr suites n versions k out w).1 = .returned .invalidParameter := by
  obtain ⟨rfl, failed⟩ := newCustomBase_failed (w := w) met
  simp [configBuilderNewCustom, ffiPanicBoundary, bind_run, failed]

theorem loadRootsFromFile_failed {configBuilder : Ptr} {filename : Option Bytes}
    (met : loadRootsFromFile R w configBuilder filename = .met f) :
    f = .other ∧ rustlsClientConfigBuilderLoadRootsFromFile R configBuilder filename w = (.returned .io, w) := by
  obtain ⟨b, builder, given, live, met⟩ := met_object_bind met
  obtain ⟨bytes, nameGiven, met⟩ := met_need_bind met
  obtain ⟨name, decoded, met⟩ := met_need_bind met
  obtain ⟨file, opened, met⟩ := met_need_bind met
  obtain ⟨e, failed, rfl⟩ := met_ask met
  subst given nameGiven
  refine ⟨rfl, ?_⟩
  simp [rustlsClientConfigBuilderLoadRootsFromFile, ffiPanicBoundary, bind_run, tryFromPtr_live live, tryRef, someOr,
    decoded, opened, callPure, Ffi.call, failed, okOr]

theorem addPem_failed {store : Ptr} {pem : Option Bytes} {pemLen : Nat} (strict : Bool)
    (met : addPem R w store pem pemLen = .met f) :
    f = .other ∧ rustlsRootCertStoreAddPem R store pem pemLen strict w = (.returned .certificateParseError, w) := by
  obtain ⟨text, pemGiven, room, met⟩ := met_slice_bind met
  obtain ⟨a, roots, given, live, met⟩ := met_object_bind met
  obtain ⟨e, failed, rfl⟩ := met_ask met
  subst given pemGiven
  exact ⟨rfl, Roots.addPem_damaged live room failed⟩

theorem lastPrivateKey_found {text der : Bytes} (found : privateKey R text = .on der) :
    lastPrivateKey R text w = (.next der, w) := by
  obtain ⟨sections, pkcs8, found⟩ := on_ask_bind found
  cases last : sections.getLast? with
  | some p =>
    rw [last] at found
    obtain rfl := Probe.on.inj found
    simp [lastPrivateKey, bind_run, callPure, Ffi.call, pkcs8, okOr, last]
  | none =>
    rw [last] at found
    obtain ⟨sections', rsa, found⟩ := on_ask_bind found
    have last' := on_need found
    simp [lastPrivateKey, bind_run, callPure, Ffi.call, pkcs8, rsa, okOr, last, last', someOr]

theorem lastPrivateKey_failed {text : Bytes} (met : privateKey R text = .met f) :
    f = .other ∧ lastPrivateKey R text w = (.ret .privateKeyParseError, w) := by
  rcases met_ask_bind met with ⟨e, failed, rfl⟩ | ⟨sections, pkcs8, met⟩
  · simp [lastPrivateKey, bind_run, callPure, Ffi.call, failed, okOr]
  cases last : sections.getLast? with
  | some p =>
    rw [last] at met
    cases met
  | none =>
    rw [last] at met
    rcases met_ask_bind met with ⟨e, failed, rfl⟩ | ⟨sections', rsa, met⟩
    · simp [lastPrivateKey, bind_run, callPure, Ffi.call, pkcs8, failed, okOr, last]
    · exact absurd met met_need

theorem certifiedKeyBuild_failed {certChain : Option Bytes} {certChainLen : Nat} {key : Option Bytes} {keyLen : Nat}
    {out : Ptr} (met : certifiedKeyBuild R certChain certChainLen key keyLen out = .met f) :
    ∃ r, (r = .privateKeyParseError ∨ r = .certificateParseError) ∧ f = .other ∧
      rustlsCertifiedKeyBuild R certChain certChainLen key keyLen out w = (.returned r, w) := by
  obtain ⟨l, outGiven, met⟩ := met_need_bind met
  obtain ⟨chain, chainGiven, room, met⟩ := met_slice_bind met
  obtain ⟨text, keyGiven, room', met⟩ := met_slice_bind met
  rcases met_bind met with met | ⟨der, found, met⟩
  · obtain ⟨rfl, failed⟩ := lastPrivateKey_failed (w := w) met
    subst outGiven chainGiven keyGiven
    refine ⟨.privateKeyParseError, .inl rfl, rfl, ?_⟩
    simp [rustlsCertifiedKeyBuild, RustlsFfi.certifiedKeyBuild, ffiPanicBoundary, bind_run, rejectIfNull, trySlice,
      fromRawParts, room, room', failed]
  have located := lastPrivateKey_found (w := w) found
  rcases met_ask_bind met with ⟨e, failed, rfl⟩ | ⟨signer, supported, met⟩
  · subst outGiven chainGiven keyGiven
    refine ⟨.privateKeyParseError, .inl rfl, rfl, ?_⟩
    simp [rustlsCertifiedKeyBuild, RustlsFfi.certifiedKeyBuild, ffiPanicBoundary, bind_run, rejectIfNull, trySlice,
      fromRawParts, room, room', located, callPure, Ffi.call, failed, okOr]
  · obtain ⟨e, failed, rfl⟩ := met_ask met
    subst outGiven chainGiven keyGiven
    refine ⟨.certificateParseError, .inr rfl, rfl, ?_⟩
    simp [rustlsCertifiedKeyBuild, RustlsFfi.certifiedKeyBuild, ffiPanicBoundary, bind_run, rejectIfNull, trySlice,
      fromRawParts, room, room', located, callPure, Ffi.call, supported, failed, okOr]

end

/-! ### Any call -/

/-- The code is one of an error but not that of a panic, and that of `map_error` for an error of a
connection. -/
structure Reported (f : Failure) (o : Outcome Value) : Prop where
  code : ∃ r, o = .returned (.result r) ∧ r ≠ .ok ∧ r ≠ .panic
  mapped : ∀ e, f = .connection e → o = .returned (.result (mapError e))

/-- The calls that report an error of the libraries as a panic: `ClientConnection::new` is unwrapped, and
a frame that does not come off the userdata stack overrides the code of the connection. -/
def Misreported (R : Rustls Conn S) (w : World Conn S) : Call S → Failure → Prop
  | .clientConnectionNew _ _ _, .connection _ => True
  | .connectionProcessNewPackets conn, _ =>
    ∃ a c, conn = some a ∧ Arena.get w.conns a = some c ∧ ¬ Released R w a c
  | _, _ => False

def Creates : Call S → Prop
  | .clientConnectionNew _ _ _ | .serverConnectionNew _ _ => True
  | _ => False

section
variable {R : Rustls Conn S} {w : World Conn S} {f : Failure}

theorem reported_mapped {g : Api Conn S RustlsResult} {e : Error} (back : (g w).1 = .returned (mapError e)) :
    Reported (.connection e) (g.as .result w).1 := by
  rw [Api.as, back]
  refine ⟨⟨mapError e, rfl, mapError_ne_ok e, mapError_ne_panic e⟩, ?_⟩
  rintro e' same
  rw [Failure.connection.inj same]
  rfl

theorem reported_code {g : Api Conn S RustlsResult} {r : RustlsResult} (back : (g w).1 = .returned r)
    (error : r ≠ .ok) (calm : r ≠ .panic) (apart : ∀ e, f ≠ .connection e) : Reported f (g.as .result w).1 := by
  rw [Api.as, back]
  exact ⟨⟨r, rfl, error, calm⟩, fun e same => absurd same (apart e)⟩

theorem not_reported_panic {g : Api Conn S RustlsResult} (back : (g w).1 = .returned .panic) :
    ¬ Reported f (g.as .result w).1 := by
  rw [Api.as, back]
  rintro ⟨⟨r, same, -, calm⟩, -⟩
  obtain rfl := Value.result.inj (Outcome.returned.inj same)
  exact calm rfl

/-- An error that a library returns to an exported function is reported, and not as a panic, exactly if
the call is none of the misreported ones. A connection that cannot be created leaves no trace, misreported
or not. -/
theorem library_errors_reported_iff {call : Call S} (met : libraryError? R w call = some f) :
    (Reported f (exec R call w).1 ↔ ¬ Misreported R w call f) ∧ (Creates call → (exec R call w).2 = w) := by
  cases call with
  | clientConnectionNew config hostname connOut =>
    rcases clientConnectionNew_failed connOut (met_of_error? met) with ⟨rfl, run⟩ | ⟨e, rfl, run⟩
    · refine ⟨iff_of_true ?_ id, fun _ => congrArg Prod.snd run⟩
      exact reported_code (congrArg Prod.fst run) (by decide) (by decide) nofun
    · refine ⟨iff_of_false ?_ (not_not_intro trivial), fun _ => congrArg Prod.snd run⟩
      exact not_reported_panic (congrArg Prod.fst run)
  | serverConnectionNew config connOut =>
    obtain ⟨e, rfl, run⟩ := serverConnectionNew_failed connOut (met_of_error? met)
    have reported := reported_mapped (congrArg Prod.fst run)
    exact ⟨iff_of_true reported id, fun _ => congrArg Prod.snd run⟩
  | connectionProcessNewPackets conn =>
    obtain ⟨a, c, e, rfl, live, -, rfl, released, stuck⟩ := processNewPackets_failed (met_of_error? met)
    refine ⟨?_, False.elim⟩
    by_cases free : Released R w a c
    · refine iff_of_true (reported_mapped (released free)) ?_
      rintro ⟨a', c', same, live', bound⟩
      obtain rfl := Option.some.inj same
      obtain rfl := Option.some.inj (live.symm.trans live')
      exact bound free
    · exact iff_of_false (not_reported_panic (stuck free)) (not_not_intro ⟨a, c, rfl, live, free⟩)
  | connectionWrite conn buf count outN =>
    obtain ⟨e, rfl, back⟩ := write_failed (met_of_error? met)
    refine ⟨iff_of_true ?_ id, False.elim⟩
    exact reported_code back (by decide) (by decide) nofun
  | connectionRead conn buf count outN | connectionRead2 conn buf count outN =>
    obtain ⟨e, rfl, back⟩ := read_failed (met_of_error? met)
    obtain ⟨error, calm⟩ := toReadResult_reports e
    refine ⟨iff_of_true ?_ id, False.elim⟩
    exact reported_code back error calm nofun
  | clientConfigBuilderNewCustom suites n versions k out | serverConfigBuilderNewCustom suites n versions k out =>
    obtain ⟨rfl, back⟩ := newCustom_failed (w := w) out (met_of_error? met)
    refine ⟨iff_of_true ?_ id, False.elim⟩
    exact reported_code (back _) (by decide) (by decide) nofun
  | clientConfigBuilderLoadRootsFromFile builder filename =>
    obtain ⟨rfl, run⟩ := loadRootsFromFile_failed (met_of_error? met)
    refine ⟨iff_of_true ?_ id, False.elim⟩
    exact reported_code (congrArg Prod.fst run) (by decide) (by decide) nofun
  | rootCertStoreAddPem store pem pemLen strict =>
    obtain ⟨rfl, run⟩ := addPem_failed strict (met_of_error? met)
    refine ⟨iff_of_true ?_ id, False.elim⟩
    exact reported_code (congrArg Prod.fst run) (by decide) (by decide) nofun
  | certifiedKeyBuild chain n key k out =>
    obtain ⟨r, codes, rfl, run⟩ := certifiedKeyBuild_failed (w := w) (met_of_error? met)
    have error : r ≠ .ok := by rcases codes with rfl | rfl <;> decide
    have calm : r ≠ .panic := by rcases codes with rfl | rfl <;> decide
    refine ⟨iff_of_true ?_ id, False.elim⟩
    exact reported_code (congrArg Prod.fst run) error calm nofun
  | _ => cases met

end

/-! ### Processing under a call tree -/

section
open CallTree

variable {R : Rustls Conn (List Event)} {w : Traced Conn} {f : Failure}

theorem released_of_script {a : Addr} {c : Connection Conn} (script : Script) (usable : w.userdata.Usable)
    (runs : R.processNewPackets a (w.enter c) = script.run c.frame (w.enter c)) : Released R w a c := by
  have inside : (w.enter c).userdata.Usable := usable
  have top : (w.enter c).userdata.stack = c.frame :: w.userdata.stack := rfl
  obtain ⟨-, kept⟩ := script.run_kept c.frame (w.enter c) inside rfl
  rw [Released, runs, kept.userdata]
  exact congrArg Prod.fst (tryDrop_own inside top)

/-- Whatever rustls and the callbacks do through the API, the error of the connection is reported. -/
theorem scripted_error_reported {conn : Ptr}
    (runs : ∀ a c, ∃ script : Script, R.processNewPackets a (w.enter c) = script.run c.frame (w.enter c))
    (met : libraryError? R w (.connectionProcessNewPackets conn) = some f) :
    Reported f (exec R (.connectionProcessNewPackets conn) w).1 := by
  obtain ⟨a, c, e, -, -, usable, rfl, released, -⟩ := processNewPackets_failed (met_of_error? met)
  obtain ⟨script, runs⟩ := runs a c
  exact reported_mapped (released (released_of_script script usable runs))

end

/-! ### A library without randomness -/

def noRandomness : Rustls Unit Unit where
  __ := Rustls.inert ()
  serverConnectionNew _ := .err .failedToGetRandomBytes
  clientConnectionNew _ _ := .err .failedToGetRandomBytes

/-- A server config and a client config. -/
def twoConfigs : World Unit Unit :=
  { World.initial () with
    arcs := [⟨1, .serverConfig ⟨⟨[], []⟩, .noClientAuth, .clientHelloResolver 0, .builtin, [], false⟩, 0⟩,
      ⟨1, .clientConfig ⟨⟨[], []⟩, .noneVerifier, none, [], true⟩, 0⟩] }

theorem library_errors_reported_iff_server :
    libraryError? noRandomness twoConfigs (.serverConnectionNew (some 0) (some 0)) =
        some (.connection .failedToGetRandomBytes) ∧
      Reported (.connection .failedToGetRandomBytes)
        (exec noRandomness (.serverConnectionNew (some 0) (some 0)) twoConfigs).1 := by
  have met : libraryError? noRandomness twoConfigs (.serverConnectionNew (some 0) (some 0)) =
      some (.connection .failedToGetRandomBytes) := rfl
  exact ⟨met, (library_errors_reported_iff met).1.mpr id⟩

/-- The same error of the two constructors comes back as two codes. -/
theorem constructorError_panics :
    libraryError? noRandomness twoConfigs (.clientConnectionNew (some 1) (some [97]) (some 0)) =
        some (.connection .failedToGetRandomBytes) ∧
      exec noRandomness (.clientConnectionNew (some 1) (some [97]) (some 0)) twoConfigs =
        (.returned (.result .panic), twoConfigs) ∧
      exec noRandomness (.serverConnectionNew (some 0) (some 0)) twoConfigs =
        (.returned (.result .failedToGetRandomBytes), twoConfigs) := by
  refine ⟨?_, ?_, ?_⟩
  · decide +kernel
  · rfl
  · rfl

end RustlsFfi.Failures
