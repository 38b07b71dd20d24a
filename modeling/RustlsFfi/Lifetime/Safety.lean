import RustlsFfi.Contract.Footprint
import RustlsFfi.Contract.NullSafety
import RustlsFfi.Lifetime.Programs

/-!
# Programs that keep to the ownership rules

A C program owns handles of all kinds: it gets them from the functions that create an object, passes
only handles it owns, and gives each back at most once. Whatever else such a program does, no call it
makes is undefined behaviour, and the objects that exist are exactly those that it still owns or that
these refer to.
-/

namespace RustlsFfi.Lifetime
open Control Counting Contract

variable {Conn S : Type}

/-! ### Handles -/

inductive Handle where
  | arc (type : ArcType) (a : Addr)
  | box (kind : BoxKind) (a : Addr)
  deriving DecidableEq, Repr

def Handle.arc? : Handle → Ptr
  | .arc _ a => some a
  | .box _ _ => none

/-- The value is of the type that the pointer claims. -/
def Holds : ArcType → ArcValue → Prop
  | .clientConfig, v => v.clientConfig? ≠ none
  | .serverConfig, v => v.serverConfig? ≠ none
  | .rustlsCertifiedKey, v => v.certifiedKey? ≠ none
  | .rustlsClientCertVerifier, v => v.clientCertVerifier? ≠ none
  | .rustlsClientCertVerifierOptional, v => v.clientCertVerifierOptional? ≠ none

def LiveBox (w : World Conn S) : BoxKind → Addr → Prop
  | .clientBuilder, b => Arena.get w.clientBuilders b ≠ none
  | .serverBuilder, b => Arena.get w.serverBuilders b ≠ none
  | .store, a => Arena.get w.stores a ≠ none
  | .conn, a => Arena.get w.conns a ≠ none

/-- The handle is to a live object of its type. -/
def Handle.Live (w : World Conn S) : Handle → Prop
  | .arc type a => 0 < strong w.arcs a ∧ ∃ v, valueAt w.arcs a = some v ∧ Holds type v
  | .box kind a => LiveBox w kind a

def handle (mk : Addr → Handle) (p : Ptr) : List Handle := (p.map mk).toList

def keyHandles (keys : Option (List Ptr)) (count : Nat) : List Handle :=
  keys.elim [] fun l => (l.take count).flatMap (handle (.arc .rustlsCertifiedKey))

/-- Whoever lent the pointer. -/
def lender : CertificatePtr → Handle
  | .ofKey a _ => .arc .rustlsCertifiedKey a
  | .ofPeer a _ => .box .conn a

/-- The objects that a call gets pointers to. A certificate is used through the object that lent it. -/
def uses : Call S → List Handle
  | .certificateGetDer cert _ _ => (cert.map lender).toList
  | .certifiedKeyGetCertificate key _ => handle (.arc .rustlsCertifiedKey) key
  | .certifiedKeyCloneWithOcsp key _ _ => handle (.arc .rustlsCertifiedKey) key
  | .certifiedKeyFree key => handle (.arc .rustlsCertifiedKey) key
  | .rootCertStoreAddPem store _ _ _ => handle (.box .store) store
  | .rootCertStoreFree store => handle (.box .store) store
  | .clientCertVerifierNew store => handle (.box .store) store
  | .clientCertVerifierFree verifier => handle (.arc .rustlsClientCertVerifier) verifier
  | .clientCertVerifierOptionalNew store => handle (.box .store) store
  | .clientCertVerifierOptionalFree verifier => handle (.arc .rustlsClientCertVerifierOptional) verifier
  | .connectionSetUserdata conn _ => handle (.box .conn) conn
  | .connectionSetLogCallback conn _ => handle (.box .conn) conn
  | .connectionReadTls conn _ _ _ => handle (.box .conn) conn
  | .connectionWriteTls conn _ _ _ => handle (.box .conn) conn
  | .connectionWriteTlsVectored conn _ _ _ => handle (.box .conn) conn
  | .connectionProcessNewPackets conn => handle (.box .conn) conn
  | .connectionWantsRead conn => handle (.box .conn) conn
  | .connectionWantsWrite conn => handle (.box .conn) conn
  | .connectionIsHandshaking conn => handle (.box .conn) conn
  | .connectionSetBufferLimit conn _ => handle (.box .conn) conn
  | .connectionSendCloseNotify conn => handle (.box .conn) conn
  | .connectionGetPeerCertificate conn _ => handle (.box .conn) conn
  | .connectionGetAlpnProtocol conn _ _ => handle (.box .conn) conn
  | .connectionGetProtocolVersion conn => handle (.box .conn) conn
  | .connectionGetNegotiatedCiphersuite conn => handle (.box .conn) conn
  | .connectionWrite conn _ _ _ => handle (.box .conn) conn
  | .connectionRead conn _ _ _ => handle (.box .conn) conn
  | .connectionRead2 conn _ _ _ => handle (.box .conn) conn
  | .connectionFree conn => handle (.box .conn) conn
  | .clientConfigBuilderDangerousSetCertificateVerifier builder _ => handle (.box .clientBuilder) builder
  | .clientConfigBuilderUseRoots builder roots =>
    handle (.box .clientBuilder) builder ++ handle (.box .store) roots
  | .clientConfigBuilderLoadRootsFromFile builder _ => handle (.box .clientBuilder) builder
  | .clientConfigBuilderSetAlpnProtocols builder _ _ => handle (.box .clientBuilder) builder
  | .clientConfigBuilderSetEnableSni builder _ => handle (.box .clientBuilder) builder
  | .clientConfigBuilderSetCertifiedKey builder keys n =>
    handle (.box .clientBuilder) builder ++ keyHandles keys n
  | .clientConfigBuilderBuild builder => handle (.box .clientBuilder) builder
  | .clientConfigBuilderFree builder => handle (.box .clientBuilder) builder
  | .clientConfigFree config => handle (.arc .clientConfig) config
  | .clientConnectionNew config _ _ => handle (.arc .clientConfig) config
  | .serverConfigBuilderSetClientVerifier builder verifier =>
    handle (.box .serverBuilder) builder ++ handle (.arc .rustlsClientCertVerifier) verifier
  | .serverConfigBuilderSetClientVerifierOptional builder verifier =>
    handle (.box .serverBuilder) builder ++ handle (.arc .rustlsClientCertVerifierOptional) verifier
  | .serverConfigBuilderSetIgnoreClientOrder builder _ => handle (.box .serverBuilder) builder
  | .serverConfigBuilderSetAlpnProtocols builder _ _ => handle (.box .serverBuilder) builder
  | .serverConfigBuilderSetCertifiedKeys builder keys n =>
    handle (.box .serverBuilder) builder ++ keyHandles keys n
  | .serverConfigBuilderSetHelloCallback builder _ => handle (.box .serverBuilder) builder
  | .serverConfigBuilderSetPersistence builder _ _ => handle (.box .serverBuilder) builder
  | .serverConfigBuilderBuild builder => handle (.box .serverBuilder) builder
  | .serverConfigBuilderFree builder => handle (.box .serverBuilder) builder
  | .serverConfigFree config => handle (.arc .serverConfig) config
  | .serverConnectionNew config _ => handle (.arc .serverConfig) config
  | .serverConnectionGetSniHostname conn _ _ _ => handle (.box .conn) conn
  | .clientHelloSelectCertifiedKey _ keys n _ => keyHandles keys n
  | _ => []

/-- The handle that a call takes back. -/
def consumed : Call S → Option Handle
  | .certifiedKeyFree key => key.map (.arc .rustlsCertifiedKey)
  | .rootCertStoreFree store => store.map (.box .store)
  | .clientCertVerifierFree verifier => verifier.map (.arc .rustlsClientCertVerifier)
  | .clientCertVerifierOptionalFree verifier => verifier.map (.arc .rustlsClientCertVerifierOptional)
  | .connectionFree conn => conn.map (.box .conn)
  | .clientConfigBuilderBuild builder => builder.map (.box .clientBuilder)
  | .clientConfigBuilderFree builder => builder.map (.box .clientBuilder)
  | .clientConfigFree config => config.map (.arc .clientConfig)
  | .serverConfigBuilderBuild builder => builder.map (.box .serverBuilder)
  | .serverConfigBuilderFree builder => builder.map (.box .serverBuilder)
  | .serverConfigFree config => config.map (.arc .serverConfig)
  | _ => none

/-- The handle that a call hands out. -/
def granted (call : Call S) (v : Value) (w' : World Conn S) : Option Handle :=
  match call, v with
  | .certifiedKeyBuild _ _ _ _ out, .result r => (handleIn out r w').map (.arc .rustlsCertifiedKey)
  | .certifiedKeyCloneWithOcsp _ _ out, .result r => (handleIn out r w').map (.arc .rustlsCertifiedKey)
  | .rootCertStoreNew, .ptr p => p.map (.box .store)
  | .clientCertVerifierNew _, .ptr p => p.map (.arc .rustlsClientCertVerifier)
  | .clientCertVerifierOptionalNew _, .ptr p => p.map (.arc .rustlsClientCertVerifierOptional)
  | .clientConfigBuilderNew, .ptr p => p.map (.box .clientBuilder)
  | .clientConfigBuilderNewCustom _ _ _ _ out, .result r => (handleIn out r w').map (.box .clientBuilder)
  | .clientConfigBuilderBuild _, .ptr p => p.map (.arc .clientConfig)
  | .clientConnectionNew _ _ out, .result r => (handleIn out r w').map (.box .conn)
  | .serverConfigBuilderNew, .ptr p => p.map (.box .serverBuilder)
  | .serverConfigBuilderNewCustom _ _ _ _ out, .result r => (handleIn out r w').map (.box .serverBuilder)
  | .serverConfigBuilderBuild _, .ptr p => p.map (.arc .serverConfig)
  | .serverConnectionNew _ out, .result r => (handleIn out r w').map (.box .conn)
  | _, _ => none

/-- The lender, if it is there, has a certificate where the pointer is to. -/
def Lent (R : Rustls Conn S) (w : World Conn S) : CertificatePtr → Prop
  | .ofKey a i => ∀ key, valueAt w.arcs a = some (.certifiedKey key) → i < key.cert.length
  | .ofPeer a i => ∀ c, Arena.get w.conns a = some c →
      ∃ certs, R.peerCertificates c.conn = some (some certs) ∧ i < certs.length

/-- The arrays and buffers that are not objects are as long as the call says, and the certificate is still there. -/
def DataFits (R : Rustls Conn S) (w : World Conn S) : Call S → Prop
  | .certificateGetDer cert _ _ => ∀ c, cert = some c → Lent R w c
  | .certifiedKeyBuild chain n key k _ => ValidSlice chain n ∧ ValidSlice key k
  | .certifiedKeyCloneWithOcsp _ ocsp _ => ∀ s, ocsp = some s → ValidSlice s.data s.len
  | .rootCertStoreAddPem _ pem n _ => ValidSlice pem n
  | .connectionWrite _ buf n _ => ValidSlice buf n
  | .connectionRead _ buf n _ => ValidSlice (buf.map w.cells.buf) n
  | .connectionRead2 _ buf n _ => ValidSlice (buf.map w.cells.buf) n
  | .clientConfigBuilderNewCustom suites n versions k _ => ValidSlice suites n ∧ ValidSlice versions k
  | .clientConfigBuilderSetAlpnProtocols _ protocols n => ValidSlices protocols n
  | .clientConfigBuilderSetCertifiedKey _ keys n => ValidSlice keys n
  | .serverConfigBuilderNewCustom suites n versions k _ => ValidSlice suites n ∧ ValidSlice versions k
  | .serverConfigBuilderSetAlpnProtocols _ protocols n => ValidSlices protocols n
  | .serverConfigBuilderSetCertifiedKeys _ keys n => ValidSlice keys n
  | .clientHelloSelectCertifiedKey hello keys n _ => ValidSlice keys n ∧
      ∀ h, hello = some h → ValidSlice h.signatureSchemes.data h.signatureSchemes.len
  | _ => True

/-- There is a place for the address of the object that the call creates. -/
def HasPlace : Call S → Prop
  | .clientConfigBuilderNewCustom _ _ _ _ out => out ≠ none
  | .clientConnectionNew _ _ out => out ≠ none
  | .serverConfigBuilderNewCustom _ _ _ _ out => out ≠ none
  | .serverConnectionNew _ out => out ≠ none
  | _ => True

/-! ### Owned handles are valid pointers -/

section
variable {w : World Conn S}

theorem live_of_handle {mk : Addr → Handle} {p : Ptr} (live : ∀ h ∈ handle mk p, h.Live w) {a : Addr}
    (given : p = some a) : (mk a).Live w :=
  live (mk a) (by simp [handle, given])

theorem validArc_of_live {τ : Type} {as : ArcValue → Option τ} {T : ArcType} {p : Ptr}
    (typed : ∀ v, Holds T v → as v ≠ none) (live : ∀ h ∈ handle (.arc T) p, h.Live w) :
    ValidArc w.arcs as p := by
  intro a given dangling
  obtain ⟨positive, v, found, holds⟩ := live_of_handle live given
  obtain ⟨c, cell, count⟩ := found_of_strong positive
  obtain rfl : c.value = v := by simpa [valueAt, cell] using found
  obtain ⟨u, value⟩ := Option.ne_none_iff_exists'.mp (typed _ holds)
  rw [derefArc_eq_some.mpr ⟨c, cell, count ▸ positive, value⟩] at dangling
  cases dangling

theorem validKeys_of_live {keys : Option (List Ptr)} {count : Nat} (fits : ValidSlice keys count)
    (live : ∀ h ∈ keyHandles keys count, h.Live w) : ValidKeys w.arcs keys count := by
  refine ⟨fits, ?_⟩
  rintro l rfl p member
  refine validArc_of_live (T := .rustlsCertifiedKey) (fun _ => id) ?_
  intro h own
  exact live h (List.mem_flatMap.mpr ⟨p, member, own⟩)

theorem certificate_of_live {R : Rustls Conn S} {cert : CertificatePtr} (live : (lender cert).Live w)
    (lent : Lent R w cert) : derefCertificate R w cert ≠ none := by
  cases cert with
  | ofKey a i =>
    obtain ⟨positive, v, found, holds⟩ := live
    obtain ⟨c, cell, count⟩ := found_of_strong positive
    obtain rfl : c.value = v := by simpa [valueAt, cell] using found
    obtain ⟨key, value⟩ := Option.ne_none_iff_exists'.mp holds
    have inside : i < key.cert.length := by
      refine lent key (found.trans (congrArg some ?_))
      cases same : c.value <;> simp_all [ArcValue.certifiedKey?]
    rw [derefCertificate, derefArc_eq_some.mpr ⟨c, cell, count ▸ positive, value⟩, Option.bind_some,
      List.getElem?_eq_getElem inside]
    exact Option.some_ne_none _
  | ofPeer a i =>
    obtain ⟨c, found⟩ := Option.ne_none_iff_exists'.mp live
    obtain ⟨certs, asked, inside⟩ := lent c found
    simp [derefCertificate, found, asked, inside]

theorem valid_of_uses {R : Rustls Conn S} {call : Call S} (live : ∀ h ∈ uses call, h.Live w) (fits : DataFits R w call) :
    Valid R w call := by
  cases call with
  | certificateGetDer cert _ _ =>
    intro c given
    exact certificate_of_live (live (lender c) (by simp [uses, given])) (fits c given)
  | connectionSetUserdata _ _ | connectionSetLogCallback _ _ | connectionReadTls _ _ _ _
  | connectionWriteTls _ _ _ _ | connectionWriteTlsVectored _ _ _ _ | connectionProcessNewPackets _
  | connectionWantsRead _ | connectionWantsWrite _ | connectionIsHandshaking _
  | connectionSetBufferLimit _ _ | connectionSendCloseNotify _ | connectionGetPeerCertificate _ _
  | connectionGetAlpnProtocol _ _ _ | connectionGetProtocolVersion _ | connectionGetNegotiatedCiphersuite _
  | connectionFree _ | serverConnectionGetSniHostname _ _ _ _
  | rootCertStoreFree _ | clientCertVerifierNew _ | clientCertVerifierOptionalNew _
  | clientConfigBuilderDangerousSetCertificateVerifier _ _ | clientConfigBuilderLoadRootsFromFile _ _
  | clientConfigBuilderSetEnableSni _ _ | clientConfigBuilderBuild _ | clientConfigBuilderFree _
  | serverConfigBuilderSetIgnoreClientOrder _ _ | serverConfigBuilderSetHelloCallback _ _
  | serverConfigBuilderSetPersistence _ _ _ | serverConfigBuilderBuild _ | serverConfigBuilderFree _ =>
    exact fun a given => live_of_handle live given
  | rootCertStoreAddPem _ _ _ _ | connectionWrite _ _ _ _ | connectionRead _ _ _ _ | connectionRead2 _ _ _ _
  | clientConfigBuilderSetAlpnProtocols _ _ _ | serverConfigBuilderSetAlpnProtocols _ _ _ =>
    exact ⟨fun a given => live_of_handle live given, fits⟩
  | certifiedKeyGetCertificate _ _ | certifiedKeyFree _ =>
    exact validArc_of_live (T := .rustlsCertifiedKey) (fun _ => id) live
  | certifiedKeyCloneWithOcsp _ _ _ =>
    exact ⟨validArc_of_live (T := .rustlsCertifiedKey) (fun _ => id) live, fits⟩
  | clientCertVerifierFree _ =>
    exact validArc_of_live (T := .rustlsClientCertVerifier) (fun _ => id) live
  | clientCertVerifierOptionalFree _ =>
    exact validArc_of_live (T := .rustlsClientCertVerifierOptional) (fun _ => id) live
  | clientConfigFree _ | clientConnectionNew _ _ _ =>
    exact validArc_of_live (T := .clientConfig) (fun _ => id) live
  | serverConfigFree _ | serverConnectionNew _ _ =>
    exact validArc_of_live (T := .serverConfig) (fun _ => id) live
  | clientConfigBuilderUseRoots _ _ =>
    obtain ⟨builder, roots⟩ := List.forall_mem_append.mp live
    exact ⟨fun a given => live_of_handle builder given, fun a given => live_of_handle roots given⟩
  | clientConfigBuilderSetCertifiedKey _ _ _ | serverConfigBuilderSetCertifiedKeys _ _ _ =>
    obtain ⟨builder, keys⟩ := List.forall_mem_append.mp live
    exact ⟨fun a given => live_of_handle builder given, validKeys_of_live fits keys⟩
  | serverConfigBuilderSetClientVerifier _ _ =>
    obtain ⟨builder, verifier⟩ := List.forall_mem_append.mp live
    exact ⟨fun a given => live_of_handle builder given,
      validArc_of_live (T := .rustlsClientCertVerifier) (fun _ => id) verifier⟩
  | serverConfigBuilderSetClientVerifierOptional _ _ =>
    obtain ⟨builder, verifier⟩ := List.forall_mem_append.mp live
    exact ⟨fun a given => live_of_handle builder given,
      validArc_of_live (T := .rustlsClientCertVerifierOptional) (fun _ => id) verifier⟩
  | clientHelloSelectCertifiedKey _ _ _ _ => exact ⟨validKeys_of_live fits.1 live, fits.2⟩
  | certifiedKeyBuild _ _ _ _ _ | clientConfigBuilderNewCustom _ _ _ _ _
  | serverConfigBuilderNewCustom _ _ _ _ _ => exact fits
  | sliceSliceBytesLen _ | sliceSliceBytesGet _ _ | sliceStrLen _ | sliceStrGet _ _ | error _ _ _ _
  | resultIsCertError _ | logLevelStr _ | version
  | supportedCiphersuiteGetSuite _ | supportedCiphersuiteGetName _ | allCiphersuitesLen
  | allCiphersuitesGetEntry _ | defaultCiphersuitesLen | defaultCiphersuitesGetEntry _ | rootCertStoreNew
  | clientConfigBuilderNew | serverConfigBuilderNew => exact trivial

theorem not_writesNull {R : Rustls Conn S} {call : Call S} (place : HasPlace call) : ¬ WritesNull R w call := by
  intro writes
  unfold WritesNull at writes
  split at writes
  · exact place rfl
  · exact place rfl
  · exact place rfl
  · exact place rfl
  · exact writes

/-- A call on live objects, with its arrays as long as it says and a place for what it creates,
completes or is refused. -/
theorem exec_defined {R : Rustls Conn S} {call : Call S} (live : ∀ h ∈ uses call, h.Live w)
    (fits : DataFits R w call) (place : HasPlace call) (f : Fault) : (exec R call w).1 ≠ .fault f := by
  intro undefined
  have refuses := exec_refuses R call (valid_of_uses live fits) (not_writesNull place)
  unfold Ends at refuses
  rw [undefined] at refuses
  exact refuses

/-! ### What a call does to the objects that exist -/

/-- The object of this kind that the call gets by a mutable pointer. -/
def mutated (f : Footprint) : BoxKind → Ptr
  | .clientBuilder => f.clientBuilder
  | .serverBuilder => f.serverBuilder
  | .store => f.store
  | .conn => f.conn

theorem frame_live {f : Footprint} {w' : World Conn S} (frame : Frame f w w') {kind : BoxKind} {a : Addr}
    (spared : f.consumes = true → mutated f kind ≠ some a) (live : LiveBox w kind a) : LiveBox w' kind a := by
  cases kind with
  | clientBuilder => exact frame.clientBuilders.alive spared live
  | serverBuilder => exact frame.serverBuilders.alive spared live
  | store => exact frame.stores.alive spared live
  | conn => exact frame.conns.alive spared live

theorem frame_was {f : Footprint} {w' : World Conn S} (frame : Frame f w w') {kind : BoxKind} {a : Addr}
    (none : f.creates ≠ some kind) (live : LiveBox w' kind a) : LiveBox w kind a := by
  cases kind with
  | clientBuilder => exact frame.clientBuilders.was (by simpa using none) live
  | serverBuilder => exact frame.serverBuilders.was (by simpa using none) live
  | store => exact frame.stores.was (by simpa using none) live
  | conn => exact frame.conns.was (by simpa using none) live

/-- A call takes an object over only from its owner. -/
theorem consumed_of_footprint (call : Call S) {kind : BoxKind} {a : Addr}
    (consumes : (footprint call).consumes = true) (given : mutated (footprint call) kind = some a) :
    consumed call = some (.box kind a) := by
  cases call <;> simp [footprint] at consumes <;> cases kind <;> simp_all [footprint, mutated, consumed]

theorem freed_eq (call : Call S) : freed call = (consumed call).bind Handle.arc? := by
  cases call with
  | certifiedKeyFree p | clientCertVerifierFree p | clientCertVerifierOptionalFree p | clientConfigFree p
  | serverConfigFree p | rootCertStoreFree p | connectionFree p | clientConfigBuilderBuild p
  | clientConfigBuilderFree p | serverConfigBuilderBuild p | serverConfigBuilderFree p => cases p <;> rfl
  | _ => rfl

theorem obtained_eq (call : Call S) (v : Value) (w' : World Conn S) :
    obtained call v w' = (granted call v w').bind Handle.arc? := by
  unfold granted
  split
  all_goals simp [obtained, Handle.arc?, Option.bind_map, Function.comp_def]

/-- The call leaves one object more of its kind, the new one that `h` is a handle to, or none more. -/
def Grants (kind : BoxKind) (w : World Conn S) (h : Option Handle) (w' : World Conn S) : Prop :=
  (∀ new, h = some new → ∃ a, new = .box kind a ∧ ¬ LiveBox w kind a) ∧
    ∀ a, LiveBox w' kind a ↔ LiveBox w kind a ∨ h = some (.box kind a)

theorem grants_none {kind : BoxKind} {w' : World Conn S} (same : ∀ a, LiveBox w' kind a ↔ LiveBox w kind a) :
    Grants kind w none w' :=
  ⟨by simp, by simpa using same⟩

theorem grants_alloc {τ : Type} {kind : BoxKind} (arena : World Conn S → List (Option τ))
    (arenaOf : ∀ (w : World Conn S) a, LiveBox w kind a ↔ Arena.get (arena w) a ≠ none) {w' : World Conn S} {v : τ}
    (new : arena w' = Arena.alloc (arena w) v) : Grants kind w (some (.box kind (arena w).length)) w' := by
  refine ⟨?_, ?_⟩
  · intro h same
    obtain rfl := Option.some.inj same
    refine ⟨_, rfl, ?_⟩
    rw [arenaOf, Arena.get_eq_none (Nat.le_refl _)]
    simp
  · intro a
    rw [arenaOf, arenaOf, new, Arena.live_alloc]
    simp [eq_comm]

theorem grants_failed {kind : BoxKind} {w' : World Conn S} {out : Ptr} {r : RustlsResult} (failed : r ≠ .ok)
    (same : ∀ a, LiveBox w' kind a ↔ LiveBox w kind a) :
    Grants kind w ((handleIn out r w').map (.box kind)) w' := by
  simpa [handleIn, failed] using grants_none same

section
variable {R : Rustls Conn S}

theorem newCustom_grants {τ : Type} {kind : BoxKind} {toMutPtr : ConfigBase → Body Conn S RustlsResult Ptr}
    (arena : World Conn S → List (Option τ))
    (arenaOf : ∀ (w : World Conn S) a, LiveBox w kind a ↔ Arena.get (arena w) a ≠ none)
    (boxes : ∀ base l, ∃ v w', toMutPtr base w = (.next (some (arena w).length), w') ∧
      arena { w' with cells.ptr := Function.update w'.cells.ptr l (some (arena w).length) } = Arena.alloc (arena w) v)
    (suites : Option (List (Option SupportedCipherSuite))) (n : Nat) (versions : Option (List UInt16)) (k : Nat) (out : Ptr) :
    Ends (configBuilderNewCustom R toMutPtr suites n versions k out w) (Returns fun r w' =>
      Grants kind w ((handleIn out r w').map (.box kind)) w') := by
  refine ends_newCustom (fun r failed => grants_failed failed fun _ => Iff.rfl)
    (grants_failed (by decide) fun _ => Iff.rfl) (fun _ _ => trivial) fun base => ?_
  cases out with
  | none =>
    obtain ⟨v, w', boxed, -⟩ := boxes base 0
    unfold wp
    rw [boxed]
    exact fun _ given => nomatch given
  | some l =>
    obtain ⟨v, w', boxed, new⟩ := boxes base l
    unfold wp
    rw [boxed]
    rintro _ ⟨⟩
    simpa [handleIn] using grants_alloc arena arenaOf new

theorem setConnPtr_grants {out : Ptr} (a : Addr) (c : Connection Conn) :
    wp (setConnPtr out c : Body Conn S RustlsResult Unit)
      ((Post.boundary (Returns fun r w' => Grants .conn w ((handleIn out r w').map (.box .conn)) w')).onNext
        fun _ w' => Grants .conn w ((handleIn out .ok w').map (.box .conn)) w') (w.retain a) := by
  refine wp_setConnPtr.mpr ⟨fun _ => trivial, ?_⟩
  rintro l rfl
  simpa [handleIn, World.retain] using grants_alloc World.conns (fun _ _ => Iff.rfl) rfl

theorem clientConnectionNew_grants (config : Ptr) (hostname : Option Bytes) (out : Ptr) :
    Ends (rustlsClientConnectionNew R config hostname out w) (Returns fun r w' =>
      Grants .conn w ((handleIn out r w').map (.box .conn)) w') := by
  simp only [rustlsClientConnectionNew, ends_boundary, wp_bind, wp_inScope]
  refine wp_tryRef.mpr ⟨fun _ => grants_failed (by simp) fun _ => Iff.rfl, ?_⟩
  intro host _
  refine wp_tryArcFromPtr.mpr ⟨fun _ => grants_failed (by simp) fun _ => Iff.rfl, fun a _ => ⟨?_, fun _ => trivial⟩⟩
  intro value _
  refine wp_someOr.mpr ⟨?_, fun _ => grants_failed (by simp) fun _ => Iff.rfl⟩
  intro host _
  refine wp_someOr.mpr ⟨?_, fun _ => grants_failed (by simp) fun _ => Iff.rfl⟩
  intro name _
  refine wp_callPure.mpr ⟨?_, fun _ _ => grants_failed (by simp) fun _ => Iff.rfl,
    fun _ => grants_failed (by simp) fun _ => Iff.rfl⟩
  intro conn _
  exact setConnPtr_grants a _

theorem serverConnectionNew_grants (config out : Ptr) :
    Ends (rustlsServerConnectionNew R config out w) (Returns fun r w' =>
      Grants .conn w ((handleIn out r w').map (.box .conn)) w') := by
  simp only [rustlsServerConnectionNew, ends_boundary, wp_bind, wp_inScope]
  refine wp_tryArcFromPtr.mpr ⟨fun _ => grants_failed (by simp) fun _ => Iff.rfl, fun a _ => ⟨?_, fun _ => trivial⟩⟩
  intro value _
  refine wp_callPure.mpr ⟨?_, fun e _ => grants_failed (mapError_ne_ok e) fun _ => Iff.rfl,
    fun _ => grants_failed (by simp) fun _ => Iff.rfl⟩
  intro conn _
  exact setConnPtr_grants a _

theorem exec_grants (R : Rustls Conn S) (call : Call S) {kind : BoxKind}
    (creates : (footprint call).creates = some kind) :
    Ends (exec R call w) (Returns fun v w' => Grants kind w (granted call v w') w') := by
  cases call with
  | rootCertStoreNew =>
    obtain rfl := Option.some.inj creates
    exact ends_as (grants_alloc World.stores (fun _ _ => Iff.rfl) rfl)
  | clientConfigBuilderNew =>
    obtain rfl := Option.some.inj creates
    exact ends_as (grants_alloc World.clientBuilders (fun _ _ => Iff.rfl) rfl)
  | clientConfigBuilderNewCustom suites n versions k out =>
    obtain rfl := Option.some.inj creates
    refine ends_as (newCustom_grants World.clientBuilders (fun _ _ => Iff.rfl) ?_ suites n versions k out)
    exact fun base _ => ⟨.new base, _, rfl, rfl⟩
  | clientConnectionNew config host out =>
    obtain rfl := Option.some.inj creates
    exact ends_as (clientConnectionNew_grants config host out)
  | serverConfigBuilderNew =>
    obtain rfl := Option.some.inj creates
    exact ends_as (grants_alloc World.serverBuilders (fun _ _ => Iff.rfl) rfl)
  | serverConfigBuilderNewCustom suites n versions k out =>
    obtain rfl := Option.some.inj creates
    refine ends_as (newCustom_grants World.serverBuilders (fun _ _ => Iff.rfl) ?_ suites n versions k out)
    exact fun base _ => ⟨.new base, _, rfl, rfl⟩
  | serverConnectionNew config out =>
    obtain rfl := Option.some.inj creates
    exact ends_as (serverConnectionNew_grants config out)
  | _ => cases creates

/-- A box that is handed out is of the kind that the call creates. -/
theorem creates_of_granted {call : Call S} {v : Value} {w' : World Conn S} {kind : BoxKind} {a : Addr}
    (new : granted call v w' = some (.box kind a)) : (footprint call).creates = some kind := by
  unfold granted at new
  split at new
  all_goals simp_all [footprint]

/-- What is handed out behind an `Arc` is of the type that the handle is to. -/
def Typed (h : Option Handle) (w' : World Conn S) : Prop :=
  ∀ type a, h = some (.arc type a) → ∃ u, valueAt w'.arcs a = some u ∧ Holds type u

theorem typed_none {w' : World Conn S} : Typed none w' := by
  simp [Typed]

theorem typed_failed {type : ArcType} {w' : World Conn S} {out : Ptr} {r : RustlsResult} (failed : r ≠ .ok) :
    Typed ((handleIn out r w').map (.arc type)) w' := by
  simpa [handleIn, failed] using typed_none

theorem typed_alloc {type : ArcType} {v : ArcValue} {w' : World Conn S} (holds : Holds type v)
    (new : w'.arcs = Counting.alloc w.arcs v) : Typed (some (.arc type w.arcs.length)) w' := by
  rintro type' a same
  obtain ⟨rfl, rfl⟩ := Handle.arc.inj (Option.some.inj same)
  exact ⟨v, by rw [new, valueAt_alloc_new], holds⟩

theorem certifiedKeyBuild_typed (chain : Option Bytes) (n : Nat) (key : Option Bytes) (k : Nat) (out : Ptr) :
    Ends (rustlsCertifiedKeyBuild R chain n key k out w) (Returns fun r w' =>
      Typed ((handleIn out r w').map (.arc .rustlsCertifiedKey)) w') := by
  have checks := certifiedKeyBuild_looks (w := w) R chain n key k (.inl trivial)
  simp only [rustlsCertifiedKeyBuild, ends_boundary, wp_bind]
  refine wp_rejectIfNull.mpr ⟨fun _ => typed_failed (by simp), ?_⟩
  rintro l rfl
  refine checks.wp ?_ ?_ ?_ (typed_failed (by simp)) (fun _ _ => trivial)
  · intro built
    simpa [handleIn] using typed_alloc (v := .certifiedKey built) (by simp [Holds, ArcValue.certifiedKey?]) rfl
  · rintro r (rfl | rfl) <;> exact typed_failed (by simp)
  · rintro r rfl
    exact typed_failed (by simp)

theorem certifiedKeyCloneWithOcsp_typed (key : Ptr) (ocsp : Option RustlsSliceBytes) (out : Ptr) :
    Ends (rustlsCertifiedKeyCloneWithOcsp key ocsp out w) (Returns fun r w' =>
      Typed ((handleIn out r w').map (.arc .rustlsCertifiedKey)) w') := by
  simp only [rustlsCertifiedKeyCloneWithOcsp, ends_boundary, wp_bind]
  refine wp_rejectIfNull.mpr ⟨fun _ => typed_failed (by simp), ?_⟩
  rintro l rfl
  refine wp_tryRefFromArc.mpr ⟨fun _ => typed_failed (by simp), fun a _ => ⟨?_, fun _ => trivial⟩⟩
  intro old _
  have new (clone : CertifiedKey) : Typed (some (.arc .rustlsCertifiedKey w.arcs.length)) { w with
      arcs := Counting.alloc w.arcs (.certifiedKey clone)
      cells.ptr := Function.update w.cells.ptr l (some w.arcs.length) } :=
    typed_alloc (by simp [Holds, ArcValue.certifiedKey?]) rfl
  cases ocsp <;> simp [handleIn, new, typed_none]

theorem clientCertVerifierNew_typed {type : ArcType} {value : RootCertStore → ArcValue}
    (holds : ∀ roots, Holds type (value roots)) (store : Ptr) :
    Ends (clientCertVerifierNew value store w) (Returns fun p w' => Typed (p.map (.arc type)) w') := by
  simp only [clientCertVerifierNew, ends_bare, wp_bind]
  refine wp_tryFromPtr.mpr ⟨fun _ => typed_none, fun a _ => ⟨?_, fun _ => trivial⟩⟩
  intro roots _
  exact typed_alloc (holds roots) rfl

theorem clientConfigBuilderBuild_typed (builder : Ptr) :
    Ends (rustlsClientConfigBuilderBuild builder w) (Returns fun p w' =>
      Typed (p.map (.arc .clientConfig)) w') := by
  simp only [rustlsClientConfigBuilderBuild, ends_boundary, wp_bind]
  refine wp_tryFromPtr.mpr ⟨fun _ => typed_none, fun a _ => ⟨?_, fun _ => trivial⟩⟩
  intro old _
  exact typed_alloc (by simp [Holds, ArcValue.clientConfig?]) rfl

theorem serverConfigBuilderBuild_typed (builder : Ptr) :
    Ends (rustlsServerConfigBuilderBuild R builder w) (Returns fun p w' =>
      Typed (p.map (.arc .serverConfig)) w') := by
  simp only [rustlsServerConfigBuilderBuild, ends_boundary, wp_bind]
  refine wp_tryFromPtr.mpr ⟨fun _ => typed_none, fun a _ => ⟨?_, fun _ => trivial⟩⟩
  intro old _
  cases slot : old.certResolver with
  | none => simpa [slot] using typed_none
  | some r =>
    simpa [slot] using typed_alloc (w := w) (v := .serverConfig (old.toConfig R r))
      (by simp [Holds, ArcValue.serverConfig?]) rfl

theorem exec_typed (R : Rustls Conn S) (call : Call S) :
    Ends (exec R call w) (Returns fun v w' => Typed (granted call v w') w') := by
  cases call with
  | certifiedKeyBuild chain n key k out => exact ends_as (certifiedKeyBuild_typed chain n key k out)
  | certifiedKeyCloneWithOcsp key ocsp out => exact ends_as (certifiedKeyCloneWithOcsp_typed key ocsp out)
  | clientCertVerifierNew store =>
    exact ends_as (clientCertVerifierNew_typed (by simp [Holds, ArcValue.clientCertVerifier?]) store)
  | clientCertVerifierOptionalNew store =>
    exact ends_as (clientCertVerifierNew_typed (by simp [Holds, ArcValue.clientCertVerifierOptional?]) store)
  | clientConfigBuilderBuild builder => exact ends_as (clientConfigBuilderBuild_typed builder)
  | serverConfigBuilderBuild builder => exact ends_as (serverConfigBuilderBuild_typed builder)
  | rootCertStoreNew | clientConfigBuilderNew | clientConfigBuilderNewCustom _ _ _ _ _ | clientConnectionNew _ _ _
  | serverConfigBuilderNew | serverConfigBuilderNewCustom _ _ _ _ _ | serverConnectionNew _ _ =>
    refine ends_of_forall fun v w' => ?_
    cases v <;> simp [granted, Typed]
  | _ => exact ends_of_forall fun v w' => typed_none

/-- After a call that takes a box over, the box is gone. -/
theorem exec_gone (R : Rustls Conn S) {call : Call S} {kind : BoxKind} {a : Addr}
    (given : consumed call = some (.box kind a)) :
    Ends (exec R call w) (Returns fun _ w' => ¬ LiveBox w' kind a) := by
  cases call with
  | rootCertStoreFree store =>
    obtain ⟨b, rfl, same⟩ := Option.map_eq_some_iff.mp given
    obtain ⟨rfl, rfl⟩ := Handle.box.inj same
    exact ends_as (by simp [rustlsRootCertStoreFree, LiveBox, Arena.get_free_same])
  | connectionFree conn =>
    obtain ⟨b, rfl, same⟩ := Option.map_eq_some_iff.mp given
    obtain ⟨rfl, rfl⟩ := Handle.box.inj same
    exact ends_as (by simp [rustlsConnectionFree, LiveBox, Arena.get_free_same, dropArcs_eq])
  | clientConfigBuilderBuild builder =>
    obtain ⟨b, rfl, same⟩ := Option.map_eq_some_iff.mp given
    obtain ⟨rfl, rfl⟩ := Handle.box.inj same
    exact ends_as (by simp [rustlsClientConfigBuilderBuild, LiveBox, Arena.get_free_same])
  | clientConfigBuilderFree builder =>
    obtain ⟨b, rfl, same⟩ := Option.map_eq_some_iff.mp given
    obtain ⟨rfl, rfl⟩ := Handle.box.inj same
    exact ends_as (by simp [rustlsClientConfigBuilderFree, LiveBox, Arena.get_free_same, dropArcs_eq])
  | serverConfigBuilderBuild builder =>
    obtain ⟨b, rfl, same⟩ := Option.map_eq_some_iff.mp given
    obtain ⟨rfl, rfl⟩ := Handle.box.inj same
    refine ends_as ?_
    simp only [rustlsServerConfigBuilderBuild, ends_boundary, wp_bind]
    refine wp_tryFromPtr.mpr ⟨by simp, fun a given => ⟨?_, fun _ => trivial⟩⟩
    obtain rfl := Option.some.inj given
    intro old _
    cases slot : old.certResolver <;> simp [slot, LiveBox, Arena.get_free_same, dropArcs_eq]
  | serverConfigBuilderFree builder =>
    obtain ⟨b, rfl, same⟩ := Option.map_eq_some_iff.mp given
    obtain ⟨rfl, rfl⟩ := Handle.box.inj same
    exact ends_as (by simp [rustlsServerConfigBuilderFree, LiveBox, Arena.get_free_same, dropArcs_eq])
  | _ => simp [consumed] at given

end

end

/-! ### Programs -/

def handles : Handles Conn S Handle where
  taken := consumed
  given := granted
  arc? := Handle.arc?
  freed_eq := freed_eq
  obtained_eq := obtained_eq

abbrev Program (Conn S : Type) := Owner Conn S Handle

/-- The rule of ownership: a call gets handles that C owns. A connection that is processing packets is with rustls until
that call returns, and no other call gets it. -/
structure Owning (m : Program Conn S) (call : Call S) : Prop where
  owns : ∀ h ∈ uses call, h ∈ m.owned
  idle : ∀ p ∈ m.active, .box .conn p.addr ∉ uses call

abbrev ProgramStep : Program Conn S → Program Conn S → Prop := Owner.Step handles Owning

abbrev ProgramRun : Program Conn S → Program Conn S → Prop := Relation.ReflTransGen ProgramStep

/-- The counts are right, C owns each handle once and only to live objects, and no box is without its
owner. -/
structure Sound (m : Program Conn S) : Prop where
  counted : Counted (fun _ => True) m.world (Owner.arcs (handles : Handles Conn S Handle) m.owned)
  unique : m.owned.Nodup
  live : ∀ h ∈ m.owned, h.Live m.world
  covered : ∀ kind a, LiveBox m.world kind a → .box kind a ∈ m.owned

section
variable {m m' : Program Conn S} {R : Rustls Conn S} {call : Call S} {v : Value}

theorem consumed_mem_uses {h : Handle} (given : consumed call = some h) : h ∈ uses call := by
  unfold consumed at given
  split at given
  all_goals simp_all [uses, handle]

theorem Owning.takes (owning : Owning m call) (h : Handle) (given : consumed call = some h) : h ∈ m.owned :=
  owning.owns h (consumed_mem_uses given)

theorem program_call (R : Rustls Conn S) (outside : ¬ Processes m.world call) (owning : Owning m call)
    (back : (exec R call m.world).1.value? = some v) : ProgramStep m (m.after handles R call v) :=
  .call R call outside owning owning.takes back

theorem lends_spared (unique : m.owned.Nodup) {h : Handle} (member : h ∈ m.lends handles call) :
    consumed call ≠ some h := by
  intro given
  rw [Owner.lends, show handles.taken call = some h from given] at member
  exact absurd rfl (List.Nodup.mem_erase_iff unique |>.mp member).1

theorem mem_lends {h : Handle} (member : h ∈ m.owned) (spared : consumed call ≠ some h) : h ∈ m.lends handles call := by
  unfold Owner.lends
  cases given : handles.taken call with
  | none => exact member
  | some g =>
    refine (List.mem_erase_of_ne ?_).mpr member
    rintro rfl
    exact spared given

theorem call_frame (outside : ¬ Processes m.world call) (back : (exec R call m.world).1.value? = some v) :
    Frame (footprint call) m.world (exec R call m.world).2 := by
  refine returns_value (exec_stays R call ?_) back
  rintro a rfl
  exact outside

/-- Objects that outlive a call are of the type they were. -/
theorem live_of_counted {w w' : World Conn S} {owned : List Handle}
    (values : w.arcs.map Cell.value <+: w'.arcs.map Cell.value)
    (counted : Counted (fun _ => True) w' (Owner.arcs (handles : Handles Conn S Handle) owned)) {type : ArcType} {a : Addr}
    (own : .arc type a ∈ owned) (live : Handle.Live w (.arc type a)) : Handle.Live w' (.arc type a) := by
  obtain ⟨-, u, found, holds⟩ := live
  refine ⟨counted.alive (List.mem_filterMap.mpr ⟨_, own, rfl⟩), u, valueAt_extends values found, holds⟩

theorem call_live (sound : Sound m) (outside : ¬ Processes m.world call) (owning : Owning m call)
    (back : (exec R call m.world).1.value? = some v) :
    ∀ h ∈ (m.after handles R call v).owned, h.Live (m.after handles R call v).world := by
  have frame := call_frame outside back
  have counted := call_counted (stable_true ArcValue.refs) sound.counted (fun _ _ => trivial) outside
    owning.takes back
  intro h member
  rcases List.mem_append.mp member with new | old
  · have new : granted call v (exec R call m.world).2 = some h := Option.mem_toList.mp new
    cases h with
    | arc type a =>
      obtain ⟨u, found, holds⟩ := returns_value (exec_typed R call) back type a new
      exact ⟨counted.alive (List.mem_filterMap.mpr ⟨_, member, rfl⟩), u, found, holds⟩
    | box kind a =>
      have grants := returns_value (exec_grants R call (creates_of_granted new)) back
      exact (grants.2 a).mpr (.inr new)
  · have before := sound.live h (lends_sub old)
    cases h with
    | arc type a => exact live_of_counted frame.values counted member before
    | box kind a =>
      refine frame_live frame (fun consumes given => ?_) before
      exact lends_spared sound.unique old (consumed_of_footprint call consumes given)

/-- A handle that is handed out is to an object that was not there before. -/
theorem granted_fresh (sound : Sound m) (outside : ¬ Processes m.world call) (owning : Owning m call)
    (back : (exec R call m.world).1.value? = some v) {h : Handle}
    (new : granted call v (exec R call m.world).2 = some h) : ¬ h.Live m.world := by
  intro before
  cases h with
  | arc type a =>
    have gives := call_gives (stable_true ArcValue.refs) sound.counted (fun _ _ => trivial) outside
      owning.takes back
    rw [obtained_eq, new] at gives
    obtain ⟨-, u, found, -⟩ := before
    exact absurd (valueAt_lt found) (by rw [gives.1]; exact Nat.lt_irrefl _)
  | box kind a =>
    have grants := returns_value (exec_grants R call (creates_of_granted new)) back
    obtain ⟨b, same, fresh⟩ := grants.1 _ new
    obtain ⟨-, rfl⟩ := Handle.box.inj same
    exact fresh before

theorem call_unique (sound : Sound m) (outside : ¬ Processes m.world call) (owning : Owning m call)
    (back : (exec R call m.world).1.value? = some v) : (m.after handles R call v).owned.Nodup := by
  have rest := lends_nodup handles sound.unique call
  unfold Owner.after
  cases new : handles.given call v (exec R call m.world).2 with
  | none => exact rest
  | some h =>
    refine List.nodup_cons.mpr ⟨fun old => ?_, rest⟩
    exact granted_fresh sound outside owning back new (sound.live h (lends_sub old))

theorem call_covered (sound : Sound m) (outside : ¬ Processes m.world call)
    (back : (exec R call m.world).1.value? = some v) (kind : BoxKind) (a : Addr)
    (live : LiveBox (m.after handles R call v).world kind a) : .box kind a ∈ (m.after handles R call v).owned := by
  have old (before : LiveBox m.world kind a) : .box kind a ∈ (m.after handles R call v).owned := by
    refine List.mem_append_right _ (mem_lends (sound.covered kind a before) fun given => ?_)
    exact returns_value (exec_gone R given) back live
  by_cases creates : (footprint call).creates = some kind
  · have grants := returns_value (exec_grants R call creates) back
    rcases (grants.2 a).mp live with before | new
    · exact old before
    · exact List.mem_append_left _ (Option.mem_toList.mpr new)
  · exact old (frame_was (call_frame outside back) creates live)

/-- A step that leaves every box where it is and C's handles alone. -/
theorem Sound.moves {w' : World Conn S} {active : List (Processing Conn S)} (sound : Sound m)
    (counted : Counted (fun _ => True) w' (Owner.arcs (handles : Handles Conn S Handle) m.owned))
    (values : m.world.arcs.map Cell.value <+: w'.arcs.map Cell.value)
    (boxes : ∀ kind a, LiveBox w' kind a ↔ LiveBox m.world kind a) : Sound ⟨w', m.owned, active⟩ where
  counted := counted
  unique := sound.unique
  live h own := by
    have before := sound.live h own
    cases h with
    | arc type a => exact live_of_counted values counted own before
    | box kind a => exact (boxes kind a).mpr before
  covered kind a live := sound.covered kind a ((boxes kind a).mp live)

theorem live_putConn {w : World Conn S} {a : Addr} {c : Connection Conn} (new : Connection Conn)
    (live : Arena.get w.conns a = some c) (kind : BoxKind) (b : Addr) :
    LiveBox (w.putConn a new) kind b ↔ LiveBox w kind b := by
  cases kind with
  | conn =>
    have kept : Arena.Kept (some a) false false w.conns (Arena.put w.conns a new) := .put new rfl live
    exact ⟨kept.was rfl, kept.alive (by simp)⟩
  | _ => exact Iff.rfl

theorem works_values {w w' : World Conn S} (works : Works w w') : w.arcs.map Cell.value <+: w'.arcs.map Cell.value := by
  cases works with
  | drive live conn => exact List.prefix_rfl
  | @takes a r c live alive => exact (values_eq (valueAt_retain w.arcs r)) ▸ List.prefix_rfl
  | @drops a r c live own => exact (values_eq (valueAt_release ArcValue.refs true w.arcs r)) ▸ List.prefix_rfl
  | memory cells app => exact List.prefix_rfl

theorem works_boxes {w w' : World Conn S} (works : Works w w') (kind : BoxKind) (a : Addr) :
    LiveBox w' kind a ↔ LiveBox w kind a := by
  cases works with
  | drive live conn => exact live_putConn _ live kind a
  | @takes b r c live alive => exact live_putConn (w := w.retain r) _ live kind a
  | @drops b r c live own =>
    rw [← live_putConn { c with refs := c.refs.erase r } live kind a]
    cases kind <;> exact Iff.rfl
  | memory cells app => cases kind <;> exact Iff.rfl

theorem works_sound {w' : World Conn S} (sound : Sound m) (works : Works m.world w') : Sound { m with world := w' } :=
  sound.moves (works_counted (stable_true ArcValue.refs) sound.counted works) (works_values works) (works_boxes works)

theorem initial_sound (s : S) : Sound (.initial s : Program Conn S) where
  counted := (initial_accounted s trivial).counted
  unique := List.nodup_nil
  live := by simp [Owner.initial]
  covered kind a live := by cases kind <;> simp [LiveBox, Owner.initial, World.initial, Arena.get] at live

theorem step_sound (sound : Sound m) (step : ProgramStep m m') : Sound m' := by
  have counted := step_counted (stable_true ArcValue.refs) (fun _ _ _ _ _ => trivial) sound.counted step
  cases step with
  | call R call outside owning takes back =>
    exact ⟨counted, call_unique sound outside owning back, call_live sound outside owning back,
      call_covered sound outside back⟩
  | enter p here owning =>
    refine sound.moves counted List.prefix_rfl fun kind b => ?_
    cases kind <;> exact Iff.rfl
  | leave R top ended =>
    obtain ⟨k, same⟩ := leave_world ended
    rw [same] at counted ⊢
    refine sound.moves counted List.prefix_rfl fun kind b => ?_
    cases kind <;> exact Iff.rfl
  | work works => exact works_sound sound works

theorem run_sound (sound : Sound m) (run : ProgramRun m m') : Sound m' := by
  induction run with
  | refl => exact sound
  | tail _ step ih => exact step_sound ih step

/-- The boxes that exist are those that C owns. -/
theorem Sound.boxes (sound : Sound m) (kind : BoxKind) (a : Addr) : LiveBox m.world kind a ↔ .box kind a ∈ m.owned :=
  ⟨sound.covered kind a, fun own => sound.live _ own⟩

/-- Once C owns nothing, no reference is left either: what could hold one is gone. -/
theorem Sound.quiet (sound : Sound m) (none : m.owned = []) (a : Addr) : strong m.world.arcs a = 0 := by
  have empty (kind : BoxKind) (b : Addr) : ¬ LiveBox m.world kind b := by
    intro live
    simpa [none] using sound.covered kind b live
  refine (sound.counted.balanced.congr fun b => ?_).quiet a
  have clients : Arena.total (fun x => x.refs.count b) m.world.clientBuilders = 0 :=
    Arena.total_eq_zero _ fun c => by simpa [LiveBox] using empty .clientBuilder c
  have servers : Arena.total (fun x => x.refs.count b) m.world.serverBuilders = 0 :=
    Arena.total_eq_zero _ fun c => by simpa [LiveBox] using empty .serverBuilder c
  have conns : Arena.total (fun x => x.refs.count b) m.world.conns = 0 :=
    Arena.total_eq_zero _ fun c => by simpa [LiveBox] using empty .conn c
  simp [heldByBuilders, heldByConnections, clients, servers, conns, none]

end

/-- A connection that outlives C's handle to its config. -/
def configFirst : List (Call Unit × Value) :=
  [(.clientConfigBuilderNew, .ptr (some 0)),
   (.clientConfigBuilderBuild (some 0), .ptr (some 0)),
   (.clientConnectionNew (some 0) (some [97]) (some 3), .result .ok),
   (.clientConfigFree (some 0), .unit)]

instance (m : Program Conn S) (call : Call S) : Decidable (Owning m call) :=
  decidable_of_iff ((∀ h ∈ uses call, h ∈ m.owned) ∧ ∀ p ∈ m.active, .box .conn p.addr ∉ uses call)
    ⟨fun rules => ⟨rules.1, rules.2⟩, fun owning => ⟨owning.owns, owning.idle⟩⟩

/-- What is left when such a program stops is what it still owns: the boxes are exactly its own, and
once it has given everything back, no box and no reference is left. -/
theorem program_leaves_nothing {s : S} {m : Program Conn S} (run : ProgramRun (.initial s) m) :
    (∀ kind a, LiveBox m.world kind a ↔ .box kind a ∈ m.owned) ∧
    (m.owned = [] → ∀ a, strong m.world.arcs a = 0) := by
  have sound := run_sound (initial_sound s) run
  exact ⟨sound.boxes, sound.quiet⟩

theorem program_leaves_nothing_configFirst :
    let m := Owner.play handles (.inert ()) (.initial () : Program Unit Unit)
      (configFirst ++ [(.connectionFree (some 0), .unit)])
    m.owned = [] ∧ ∀ a, strong m.world.arcs a = 0 := by
  intro m
  have own : m.owned = [] := by decide +kernel
  have run : ProgramRun (.initial ()) m := run_play (by decide +kernel)
  exact ⟨own, (program_leaves_nothing run).2 own⟩

end RustlsFfi.Lifetime
