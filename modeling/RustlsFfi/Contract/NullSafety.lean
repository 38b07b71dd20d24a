import Mathlib.Data.List.ReduceOption
import RustlsFfi.Model.Api
import RustlsFfi.Model.Rules

/-!
# NULL arguments

With any of its pointers NULL and the others valid, an exported function completes or refuses the
call, and refusing leaves the objects alone. The exception are the four functions that create an
object and write its address through an output pointer that they do not check.
-/

namespace RustlsFfi.Contract
open Control

variable {Conn S ρ τ : Type} {w : World Conn S}

/-! ### Valid pointers -/

/-- NULL or a live object. -/
abbrev ValidPtr (arena : List (Option τ)) (p : Ptr) : Prop := ∀ a, p = some a → Arena.get arena a ≠ none

abbrev ValidArc (h : Heap) (as : ArcValue → Option τ) (p : Ptr) : Prop :=
  ∀ a, p = some a → derefArc h as a ≠ none

abbrev ValidSlice (p : Option (List τ)) (count : Nat) : Prop := ∀ l, p = some l → count ≤ l.length

/-- NULL or an array of keys, each NULL or valid. -/
def ValidKeys (h : Heap) (p : Option (List Ptr)) (count : Nat) : Prop :=
  ValidSlice p count ∧ ∀ l, p = some l → ∀ key ∈ l.take count, ValidArc h ArcValue.certifiedKey? key

/-- NULL or an array of slices, each with its data NULL or valid. -/
def ValidSlices (p : Option (List RustlsSliceBytes)) (count : Nat) : Prop :=
  ValidSlice p count ∧ ∀ l, p = some l → ∀ s ∈ l.take count, ValidSlice s.data s.len

/-- Every pointer of the call is NULL or valid. Output locations are valid unless NULL. -/
def Valid (R : Rustls Conn S) (w : World Conn S) : Call S → Prop
  | .certificateGetDer cert _ _ => ∀ c, cert = some c → derefCertificate R w c ≠ none
  | .certifiedKeyBuild chain n key k _ => ValidSlice chain n ∧ ValidSlice key k
  | .certifiedKeyGetCertificate key _ => ValidArc w.arcs ArcValue.certifiedKey? key
  | .certifiedKeyCloneWithOcsp key ocsp _ => ValidArc w.arcs ArcValue.certifiedKey? key ∧
      ∀ s, ocsp = some s → ValidSlice s.data s.len
  | .certifiedKeyFree key => ValidArc w.arcs ArcValue.certifiedKey? key
  | .rootCertStoreAddPem store pem n _ => ValidPtr w.stores store ∧ ValidSlice pem n
  | .rootCertStoreFree store => ValidPtr w.stores store
  | .clientCertVerifierNew store => ValidPtr w.stores store
  | .clientCertVerifierFree verifier => ValidArc w.arcs ArcValue.clientCertVerifier? verifier
  | .clientCertVerifierOptionalNew store => ValidPtr w.stores store
  | .clientCertVerifierOptionalFree verifier =>
    ValidArc w.arcs ArcValue.clientCertVerifierOptional? verifier
  | .connectionSetUserdata conn _ => ValidPtr w.conns conn
  | .connectionSetLogCallback conn _ => ValidPtr w.conns conn
  | .connectionReadTls conn _ _ _ => ValidPtr w.conns conn
  | .connectionWriteTls conn _ _ _ => ValidPtr w.conns conn
  | .connectionWriteTlsVectored conn _ _ _ => ValidPtr w.conns conn
  | .connectionProcessNewPackets conn => ValidPtr w.conns conn
  | .connectionWantsRead conn => ValidPtr w.conns conn
  | .connectionWantsWrite conn => ValidPtr w.conns conn
  | .connectionIsHandshaking conn => ValidPtr w.conns conn
  | .connectionSetBufferLimit conn _ => ValidPtr w.conns conn
  | .connectionSendCloseNotify conn => ValidPtr w.conns conn
  | .connectionGetPeerCertificate conn _ => ValidPtr w.conns conn
  | .connectionGetAlpnProtocol conn _ _ => ValidPtr w.conns conn
  | .connectionGetProtocolVersion conn => ValidPtr w.conns conn
  | .connectionGetNegotiatedCiphersuite conn => ValidPtr w.conns conn
  | .connectionWrite conn buf n _ => ValidPtr w.conns conn ∧ ValidSlice buf n
  | .connectionRead conn buf n _ => ValidPtr w.conns conn ∧ ValidSlice (buf.map w.cells.buf) n
  | .connectionRead2 conn buf n _ => ValidPtr w.conns conn ∧ ValidSlice (buf.map w.cells.buf) n
  | .connectionFree conn => ValidPtr w.conns conn
  | .clientConfigBuilderNewCustom suites n versions k _ => ValidSlice suites n ∧ ValidSlice versions k
  | .clientConfigBuilderDangerousSetCertificateVerifier builder _ => ValidPtr w.clientBuilders builder
  | .clientConfigBuilderUseRoots builder roots =>
    ValidPtr w.clientBuilders builder ∧ ValidPtr w.stores roots
  | .clientConfigBuilderLoadRootsFromFile builder _ => ValidPtr w.clientBuilders builder
  | .clientConfigBuilderSetAlpnProtocols builder protocols n =>
    ValidPtr w.clientBuilders builder ∧ ValidSlices protocols n
  | .clientConfigBuilderSetEnableSni builder _ => ValidPtr w.clientBuilders builder
  | .clientConfigBuilderSetCertifiedKey builder keys n =>
    ValidPtr w.clientBuilders builder ∧ ValidKeys w.arcs keys n
  | .clientConfigBuilderBuild builder => ValidPtr w.clientBuilders builder
  | .clientConfigBuilderFree builder => ValidPtr w.clientBuilders builder
  | .clientConfigFree config => ValidArc w.arcs ArcValue.clientConfig? config
  | .clientConnectionNew config _ _ => ValidArc w.arcs ArcValue.clientConfig? config
  | .serverConfigBuilderNewCustom suites n versions k _ => ValidSlice suites n ∧ ValidSlice versions k
  | .serverConfigBuilderSetClientVerifier builder verifier =>
    ValidPtr w.serverBuilders builder ∧ ValidArc w.arcs ArcValue.clientCertVerifier? verifier
  | .serverConfigBuilderSetClientVerifierOptional builder verifier =>
    ValidPtr w.serverBuilders builder ∧ ValidArc w.arcs ArcValue.clientCertVerifierOptional? verifier
  | .serverConfigBuilderSetIgnoreClientOrder builder _ => ValidPtr w.serverBuilders builder
  | .serverConfigBuilderSetAlpnProtocols builder protocols n =>
    ValidPtr w.serverBuilders builder ∧ ValidSlices protocols n
  | .serverConfigBuilderSetCertifiedKeys builder keys n =>
    ValidPtr w.serverBuilders builder ∧ ValidKeys w.arcs keys n
  | .serverConfigBuilderSetHelloCallback builder _ => ValidPtr w.serverBuilders builder
  | .serverConfigBuilderSetPersistence builder _ _ => ValidPtr w.serverBuilders builder
  | .serverConfigBuilderBuild builder => ValidPtr w.serverBuilders builder
  | .serverConfigBuilderFree builder => ValidPtr w.serverBuilders builder
  | .serverConfigFree config => ValidArc w.arcs ArcValue.serverConfig? config
  | .serverConnectionNew config _ => ValidArc w.arcs ArcValue.serverConfig? config
  | .serverConnectionGetSniHostname conn _ _ _ => ValidPtr w.conns conn
  | .clientHelloSelectCertifiedKey hello keys n _ => ValidKeys w.arcs keys n ∧
      ∀ h, hello = some h → ValidSlice h.signatureSchemes.data h.signatureSchemes.len
  | _ => True

/-! ### Refusing a call -/

/-- What a function hands back for a NULL pointer. -/
def NullValue : Value → Prop
  | .unit => True
  | .bool b => b = false
  | .size n => n = 0
  | .u16 n => n = 0
  | .ptr p => p = none
  | .certificate c => c = none
  | .ciphersuite c => c = none
  | .bytes b => b = ⟨none, 0⟩
  | .str s => s = .fromStrUnchecked ""
  | .result r => r = .nullParameter ∨ r = .invalidParameter
  | .io r => r = ⟨EINVAL⟩

def Untouched (w w' : World Conn S) : Prop :=
  w'.clientBuilders = w.clientBuilders ∧ w'.serverBuilders = w.serverBuilders ∧
    w'.stores = w.stores ∧ w'.conns = w.conns

@[simp] theorem Untouched.refl : Untouched w w := ⟨rfl, rfl, rfl, rfl⟩

/-- The function completes, or refuses with a value in `N` and leaves the objects alone. -/
@[simp] def Refuses (N : ρ → Prop) (w : World Conn S) : Outcome ρ → World Conn S → Prop
  | .returned _, _ => True
  | .rejected v, w' => N v ∧ Untouched w w'
  | .fault _, _ => False

theorem refuses_as {f : Api Conn S ρ} {wrap : ρ → Value} {N : Value → Prop}
    (h : Ends (f w) (Refuses (fun r => N (wrap r)) w)) : Ends (f.as wrap w) (Refuses N w) := by
  unfold Ends at h ⊢
  unfold Api.as
  cases outcome : (f w).1 <;> simp_all [Outcome.map]

/-! ### Steps on valid pointers -/

section
variable [NullParameterOrDefault ρ]

theorem wp_tryFromPtr_valid {arena : World Conn S → List (Option τ)} {p : Ptr} {Q : Post (World Conn S) ρ (Addr × τ)}
    (valid : ValidPtr (arena w) p) (null : Q.rejected NullParameterOrDefault.nullValue w)
    (next : ∀ a v, p = some a → Arena.get (arena w) a = some v → Q.next (a, v) w) :
    wp (tryFromPtr arena p) Q w := by
  refine wp_tryFromPtr.mpr ⟨fun _ => null, fun a given => ⟨fun v => next a v given, ?_⟩⟩
  intro dangling
  exact absurd dangling (valid a given)

theorem wp_tryArcFromPtr_valid {as : ArcValue → Option τ} {p : Ptr} {Q : Post (World Conn S) ρ (Addr × τ)}
    (valid : ValidArc w.arcs as p) (null : Q.rejected NullParameterOrDefault.nullValue w)
    (next : ∀ a v, p = some a → derefArc w.arcs as a = some v → Q.next (a, v) (w.retain a)) :
    wp (tryArcFromPtr as p) Q w := by
  refine wp_tryArcFromPtr.mpr ⟨fun _ => null, fun a given => ⟨fun v => next a v given, ?_⟩⟩
  intro dangling
  exact absurd dangling (valid a given)

theorem wp_trySlice_valid {p : Option (List τ)} {count : Nat} {Q : Post (World Conn S) ρ (List τ)}
    (valid : ValidSlice p count) (null : Q.rejected NullParameterOrDefault.nullValue w)
    (next : ∀ l, p = some l → Q.next (l.take count) w) : wp (trySlice p count) Q w := by
  refine wp_trySlice.mpr ⟨fun _ => null, fun l given => ⟨fun _ => next l given, ?_⟩⟩
  intro past
  have within := valid l given
  omega

end

/-! ### The loops -/

/-- The loop over keys changes nothing but counts, and refuses nothing but a NULL entry. -/
theorem collectKeys_refuses (l : List Ptr) (keys : List Addr)
    (valid : ∀ p ∈ l, ValidArc w.arcs ArcValue.certifiedKey? p) :
    wp (collectKeys l keys)
      { next := fun _ w' => ∃ h, w' = { w with arcs := h }
        ret := fun _ _ => False
        rejected := fun r w' => r = .nullParameter ∧ ∃ h, w' = { w with arcs := h }
        panic := fun _ => False
        fault := fun _ _ => False } w := by
  induction l generalizing keys w with
  | nil => exact ⟨w.arcs, rfl⟩
  | cons p rest ih =>
    simp only [collectKeys, wp_bind, wp_inScope, wp_tryArcFromPtr, Post.dropping, Post.onNext]
    refine ⟨fun _ => ⟨rfl, _, dropArcs_eq w keys⟩, fun a given => ⟨fun v found => ?_, fun dangling => ?_⟩⟩
    · have later : ∀ p ∈ rest, ValidArc (w.retain a).arcs ArcValue.certifiedKey? p := by
        intro p member b given
        rw [World.retain, derefArc_retain _ (strong_of_derefArc found)]
        exact valid p (by simp [member]) b given
      refine wp_mono (ih (keys ++ [a]) later) ?_ (fun _ _ h => h) ?_ (fun _ h => h) (fun _ _ h => h)
      · rintro keys' w' ⟨h, rfl⟩
        exact ⟨h, rfl⟩
      · rintro r w' ⟨null, h, rfl⟩
        exact ⟨null, h, rfl⟩
    · exact valid p (by simp) a given dangling

theorem wp_collectKeys_valid {Q : Post (World Conn S) RustlsResult (List Addr)} {l : List Ptr}
    (valid : ∀ p ∈ l, ValidArc w.arcs ArcValue.certifiedKey? p) (next : ∀ keys h, Q.next keys { w with arcs := h })
    (null : ∀ h, Q.rejected .nullParameter { w with arcs := h }) : wp (collectKeys l []) Q w := by
  refine wp_mono (collectKeys_refuses l [] valid) ?_ (fun _ _ => False.elim) ?_ (fun _ => False.elim)
    (fun _ _ => False.elim)
  · rintro keys w' ⟨h, rfl⟩
    exact next keys h
  · rintro r w' ⟨rfl, h, rfl⟩
    exact null h

/-! ### Creating an object -/

def AcceptsCustom (R : Rustls Conn S) (cipherSuites : Option (List (Option SupportedCipherSuite)))
    (cipherSuitesLen : Nat) (tlsVersions : Option (List UInt16)) (tlsVersionsLen : Nat) : Prop :=
  ∃ suites versions, cipherSuites = some suites ∧ tlsVersions = some versions ∧
    (∀ cs ∈ suites.take cipherSuitesLen, ∃ s ∈ allCipherSuites, cs = some s) ∧
    R.withProtocolVersions (suites.take cipherSuitesLen).reduceOption
      ((versions.take tlsVersionsLen).filterMap protocolVersion?) = .ok ()

/-- The call creates an object and has no place to put its address. -/
def WritesNull (R : Rustls Conn S) (w : World Conn S) : Call S → Prop
  | .clientConfigBuilderNewCustom suites n versions k none => AcceptsCustom R suites n versions k
  | .serverConfigBuilderNewCustom suites n versions k none => AcceptsCustom R suites n versions k
  | .clientConnectionNew (some a) (some hostname) none => ∃ config host name conn,
    derefArc w.arcs ArcValue.clientConfig? a = some config ∧ utf8Decode hostname = some host ∧
      R.serverName host = some name ∧ R.clientConnectionNew config name = .ok conn
  | .serverConnectionNew (some a) none => ∃ config conn,
    derefArc w.arcs ArcValue.serverConfig? a = some config ∧ R.serverConnectionNew config = .ok conn
  | _ => False

theorem collectSuites_next (l : List (Option SupportedCipherSuite)) (csVec : List SupportedCipherSuite) :
    wp (collectSuites l csVec)
      { next := fun cs w' => w' = w ∧ cs = csVec ++ l.reduceOption ∧
          ∀ cs ∈ l, ∃ s ∈ allCipherSuites, cs = some s
        ret := fun _ _ => True
        rejected := fun r w' => r = .nullParameter ∧ w' = w
        panic := fun _ => False
        fault := fun _ _ => False } w := by
  induction l generalizing csVec with
  | nil => simp [collectSuites]
  | cons cs rest ih =>
    simp only [collectSuites, wp_bind, wp_tryRef, wp_someOr, find_suite, Post.onNext]
    refine ⟨by simp, fun s given => ⟨fun known found => ?_, fun _ => trivial⟩⟩
    obtain ⟨member, rfl⟩ : s ∈ allCipherSuites ∧ s = known := by simpa using found
    refine wp_mono (ih (csVec ++ [s])) ?_ (fun _ _ h => h) (fun _ _ h => h) (fun _ h => h) (fun _ _ h => h)
    rintro suites w' ⟨rfl, rfl, others⟩
    exact ⟨rfl, by simp [given], by simpa [given, member] using others⟩

theorem newCustomBase_next {R : Rustls Conn S} {cipherSuites : Option (List (Option SupportedCipherSuite))}
    {cipherSuitesLen : Nat} {tlsVersions : Option (List UInt16)} {tlsVersionsLen : Nat}
    (suites : ValidSlice cipherSuites cipherSuitesLen) (versions : ValidSlice tlsVersions tlsVersionsLen) :
    wp (newCustomBase R cipherSuites cipherSuitesLen tlsVersions tlsVersionsLen)
      { next := fun _ w' => w' = w ∧ AcceptsCustom R cipherSuites cipherSuitesLen tlsVersions tlsVersionsLen
        ret := fun _ _ => True
        rejected := fun r w' => r = .nullParameter ∧ w' = w
        panic := fun _ => True
        fault := fun _ _ => False } w := by
  simp only [newCustomBase, wp_bind, wp_trySlice]
  refine ⟨fun _ => ⟨rfl, rfl⟩, fun ss given => ⟨fun _ => ?_, fun past => ?_⟩⟩
  · refine wp_mono (collectSuites_next (ss.take cipherSuitesLen) []) ?_ (fun _ _ h => h)
      (fun _ _ h => h) (fun _ h => h.elim) (fun _ _ h => h)
    rintro csVec w' ⟨rfl, rfl, known⟩
    cases tlsVersions with
    | none => simp
    | some vs =>
      have accepts (accepted : R.withProtocolVersions (ss.take cipherSuitesLen).reduceOption
          ((vs.take tlsVersionsLen).filterMap protocolVersion?) = .ok ()) :
          AcceptsCustom R cipherSuites cipherSuitesLen (some vs) tlsVersionsLen :=
        ⟨ss, vs, given, rfl, known, accepted⟩
      simpa [versions vs rfl] using fun _ => accepts
  · exact absurd (suites ss given) (Nat.not_le.mpr past)

theorem wp_newCustomBase_valid {R : Rustls Conn S} {Q : Post (World Conn S) RustlsResult ConfigBase}
    {cipherSuites : Option (List (Option SupportedCipherSuite))} {cipherSuitesLen : Nat}
    {tlsVersions : Option (List UInt16)} {tlsVersionsLen : Nat}
    (suites : ValidSlice cipherSuites cipherSuitesLen) (versions : ValidSlice tlsVersions tlsVersionsLen)
    (next : ∀ base, AcceptsCustom R cipherSuites cipherSuitesLen tlsVersions tlsVersionsLen → Q.next base w)
    (ret : ∀ r w', Q.ret r w') (null : Q.rejected .nullParameter w) (panic : ∀ w', Q.panic w') :
    wp (newCustomBase R cipherSuites cipherSuitesLen tlsVersions tlsVersionsLen) Q w := by
  refine wp_mono (newCustomBase_next suites versions) ?_ (fun r w' _ => ret r w') ?_ (fun w' _ => panic w')
    (fun _ _ => False.elim)
  · rintro base w' ⟨rfl, accepts⟩
    exact next base accepts
  · rintro r w' ⟨rfl, rfl⟩
    exact null

theorem newCustomBase_accepts {R : Rustls Conn S} {cipherSuites : Option (List (Option SupportedCipherSuite))}
    {cipherSuitesLen : Nat} {tlsVersions : Option (List UInt16)} {tlsVersionsLen : Nat}
    (suites : ValidSlice cipherSuites cipherSuitesLen) (versions : ValidSlice tlsVersions tlsVersionsLen)
    (accepts : AcceptsCustom R cipherSuites cipherSuitesLen tlsVersions tlsVersionsLen) :
    ∃ base, newCustomBase R cipherSuites cipherSuitesLen tlsVersions tlsVersionsLen w = (.next base, w) := by
  obtain ⟨ss, vs, rfl, rfl, known, accepted⟩ := accepts
  have within := suites ss rfl
  have within' := versions vs rfl
  simp [newCustomBase, bind_run, trySlice, fromRawParts, within, within', collectSuites_known known,
    callPure, Ffi.call, accepted, okOr]

/-! ### Function by function -/

section
variable {R : Rustls Conn S}

theorem readTls_refuses {conn : Ptr} {callback : Option (ReadCallback S)} {userdata : VoidPtr} {outN : Ptr}
    (valid : ValidPtr w.conns conn) :
    Ends (rustlsConnectionReadTls R conn callback userdata outN w) (Refuses (fun r => NullValue (.io r)) w) := by
  refine ends_readTls ⟨rfl, .refl⟩ ?_ (fun _ _ _ _ _ _ => trivial) (fun _ _ _ _ _ _ _ => trivial)
  intro a given dangling
  exact absurd dangling (valid a given)

theorem writeTls_refuses {κ : Type} {writer : κ → Writer S} {conn : Ptr} {callback : Option κ} {outN : Ptr}
    (valid : ValidPtr w.conns conn) :
    Ends (writeTls R writer conn callback outN w) (Refuses (fun r => NullValue (.io r)) w) := by
  refine ends_writeTls ⟨rfl, .refl⟩ ?_ (fun _ _ _ _ _ _ => trivial) (fun _ _ _ _ _ _ _ => trivial)
  intro a given dangling
  exact absurd dangling (valid a given)

theorem write_refuses {conn : Ptr} {buf : Option Bytes} {count : Nat} {outN : Ptr} (valid : ValidPtr w.conns conn)
    (slice : ValidSlice buf count) :
    Ends (rustlsConnectionWrite R conn buf count outN w) (Refuses (fun r => NullValue (.result r)) w) := by
  simp only [rustlsConnectionWrite, ends_boundary, wp_bind]
  refine wp_tryFromPtr_valid valid ⟨.inl rfl, .refl⟩ ?_
  intro a c _ _
  refine wp_trySlice_valid slice ⟨.inl rfl, .refl⟩ ?_
  intro l _
  refine wp_rejectIfNull.mpr ⟨fun _ => ⟨.inl rfl, .refl⟩, ?_⟩
  intro out given
  simp [given]

theorem rootCertStoreAddPem_refuses {store : Ptr} {pem : Option Bytes} {pemLen : Nat} {strict : Bool}
    (valid : ValidPtr w.stores store) (slice : ValidSlice pem pemLen) :
    Ends (rustlsRootCertStoreAddPem R store pem pemLen strict w) (Refuses (fun r => NullValue (.result r)) w) := by
  simp only [rustlsRootCertStoreAddPem, ends_boundary, wp_bind]
  refine wp_trySlice_valid slice ⟨.inl rfl, .refl⟩ ?_
  intro l _
  refine wp_tryFromPtr_valid valid ⟨.inl rfl, .refl⟩ ?_
  intro a roots _ _
  simp [wp_ite]

theorem loadRootsFromFile_refuses {builder : Ptr} {filename : Option Bytes} (valid : ValidPtr w.clientBuilders builder) :
    Ends (rustlsClientConfigBuilderLoadRootsFromFile R builder filename w)
      (Refuses (fun r => NullValue (.result r)) w) := by
  simp only [rustlsClientConfigBuilderLoadRootsFromFile, ends_boundary, wp_bind]
  refine wp_tryFromPtr_valid valid ⟨.inl rfl, .refl⟩ ?_
  intro b old _ _
  refine wp_tryRef.mpr ⟨fun _ => ⟨.inl rfl, .refl⟩, ?_⟩
  intro name _
  simp [wp_ite]

/-- The functions that ask a question about a connection refuse only the connection. -/
theorem askConn_refuses [NullParameterOrDefault ρ] [PanicOrDefault ρ] {f : Connection Conn → Body Conn S ρ ρ}
    {N : ρ → Prop} {conn : Ptr} (valid : ValidPtr w.conns conn) (null : N NullParameterOrDefault.nullValue)
    (asks : ∀ c, Looks (fun _ => True) N False (f c) w) : Ends (askConn conn f w) (Refuses N w) := by
  simp only [askConn, ends_boundary, wp_bind]
  refine wp_tryFromPtr_valid valid ⟨null, .refl⟩ ?_
  intro a c _ _
  exact (asks c).wp (fun _ => trivial) (fun _ _ => trivial) (fun _ refused => ⟨refused, .refl⟩) trivial
    (fun _ => False.elim)

theorem processNewPackets_refuses {conn : Ptr} (valid : ValidPtr w.conns conn) :
    Ends (rustlsConnectionProcessNewPackets R.processNewPackets conn w)
      (Refuses (fun r => NullValue (.result r)) w) := by
  cases conn with
  | none => exact ⟨.inl rfl, .refl⟩
  | some a =>
    obtain ⟨c, live⟩ := Option.ne_none_iff_exists'.mp (valid a rfl)
    obtain ⟨r, back⟩ := processNewPackets_returns (f := R.processNewPackets) live
    simp [Ends, back]

theorem getAlpnProtocol_refuses {conn protocolOut protocolOutLen : Ptr} (valid : ValidPtr w.conns conn) :
    Ends (rustlsConnectionGetAlpnProtocol R conn protocolOut protocolOutLen w)
      (Refuses (fun _ => NullValue .unit) w) := by
  simp only [rustlsConnectionGetAlpnProtocol, ends_boundary, wp_bind]
  refine wp_tryFromPtr_valid valid ⟨trivial, .refl⟩ ?_
  intro a c _ _
  refine wp_rejectIfNull.mpr ⟨fun _ => ⟨trivial, .refl⟩, ?_⟩
  intro data _
  refine wp_rejectIfNull.mpr ⟨fun _ => ⟨trivial, .refl⟩, ?_⟩
  intro len _
  refine wp_mayPanic.mpr ⟨?_, fun _ => trivial⟩
  intro protocol _
  cases protocol <;> simp_all

theorem getSniHostname_refuses {conn buf outN : Ptr} {count : Nat} (valid : ValidPtr w.conns conn) :
    Ends (rustlsServerConnectionGetSniHostname R conn buf count outN w)
      (Refuses (fun r => NullValue (.result r)) w) := by
  simp only [rustlsServerConnectionGetSniHostname, ends_boundary, wp_bind]
  refine wp_tryFromPtr_valid valid ⟨.inl rfl, .refl⟩ ?_
  intro a c _ _
  refine wp_nonNullOr.mpr ⟨fun _ => ⟨.inl rfl, .refl⟩, ?_⟩
  intro l _
  refine wp_rejectIfNull.mpr ⟨fun _ => ⟨.inl rfl, .refl⟩, ?_⟩
  intro out _
  refine wp_someOr.mpr ⟨?_, fun _ => trivial⟩
  intro server _
  refine wp_mayPanic.mpr ⟨?_, fun _ => trivial⟩
  intro name _
  cases name <;> simp_all [wp_ite]

theorem readPlaintext_refuses {read : Conn → Bytes → Res IoError Nat × Bytes × Conn} {conn buf outN : Ptr}
    {count : Nat} (valid : ValidPtr w.conns conn) (slice : ValidSlice (buf.map w.cells.buf) count) :
    Ends (readPlaintext read conn buf count outN w) (Refuses (fun r => NullValue (.result r)) w) := by
  have bound (l : Addr) (given : buf = some l) : count ≤ (w.cells.buf l).length := slice _ (by simp [given])
  simp +contextual [readPlaintext, NullValue, valid, bound]

theorem serverConfigBuilderBuild_refuses {builder : Ptr} (valid : ValidPtr w.serverBuilders builder) :
    Ends (rustlsServerConfigBuilderBuild R builder w) (Refuses (fun p => NullValue (.ptr p)) w) := by
  simp only [rustlsServerConfigBuilderBuild, ends_boundary, wp_bind]
  refine wp_tryFromPtr_valid valid ⟨rfl, .refl⟩ ?_
  intro b old _ _
  cases slot : old.certResolver <;> simp [slot]

theorem setClientVerifier_refuses {as : ArcValue → Option τ} {slot : Addr → ClientCertVerifier}
    {builder verifier : Ptr} (valid : ValidPtr w.serverBuilders builder) (arc : ValidArc w.arcs as verifier) :
    Ends (setClientVerifier as slot builder verifier w) (Refuses (fun _ => NullValue .unit) w) := by
  simp +contextual [setClientVerifier, NullValue, valid, arc]

theorem collectAlpn_refuses {Q : Post (World Conn S) RustlsResult (List Bytes)} {l : List RustlsSliceBytes}
    (valid : ∀ s ∈ l, ValidSlice s.data s.len) (next : ∀ vv, Q.next vv w)
    (null : Q.rejected .nullParameter w) (panic : Q.panic w) : wp (collectAlpn l []) Q w := by
  refine (collectAlpn_looks (F := False) l [] (.inr valid)).wp next (fun _ => False.elim) ?_ panic
    (fun _ => False.elim)
  rintro r rfl
  exact null

theorem setAlpnProtocols_refuses {arena : World Conn S → List (Option τ)}
    {put : Addr → τ → List Bytes → World Conn S → World Conn S} {builder : Ptr}
    {protocols : Option (List RustlsSliceBytes)} {len : Nat} (valid : ValidPtr (arena w) builder)
    (slices : ValidSlices protocols len) :
    Ends (setAlpnProtocols arena put builder protocols len w) (Refuses (fun r => NullValue (.result r)) w) := by
  simp only [setAlpnProtocols, ends_boundary, wp_bind]
  refine wp_tryFromPtr_valid valid ⟨.inl rfl, .refl⟩ ?_
  intro b old _ _
  refine wp_trySlice_valid slices.1 ⟨.inl rfl, .refl⟩ ?_
  intro l given
  exact collectAlpn_refuses (slices.2 l given) (fun _ => trivial) ⟨.inl rfl, .refl⟩ trivial

/-- The functions that set certified keys collect them first, and `rest` does not fail. -/
theorem setKeys_refuses {arena : World Conn S → List (Option τ)} {builder : Ptr} {certifiedKeys : Option (List Ptr)}
    {certifiedKeysLen : Nat} {rest : Addr × τ → List Addr → Body Conn S RustlsResult RustlsResult}
    (valid : ValidPtr (arena w) builder) (keys : ValidKeys w.arcs certifiedKeys certifiedKeysLen)
    (done : ∀ b l h, wp (rest b l) (Post.boundary (Refuses (fun r => NullValue (.result r)) w)) { w with arcs := h }) :
    Ends (ffiPanicBoundary (do
      let b ← tryFromPtr arena builder
      let l ← trySlice certifiedKeys certifiedKeysLen
      let keys ← collectKeys l []
      rest b keys) w) (Refuses (fun r => NullValue (.result r)) w) := by
  simp only [ends_boundary, wp_bind]
  refine wp_tryFromPtr_valid valid ⟨.inl rfl, .refl⟩ ?_
  intro b old _ _
  refine wp_trySlice_valid keys.1 ⟨.inl rfl, .refl⟩ ?_
  intro l given
  refine wp_collectKeys_valid (keys.2 l given) (fun _ _ => done _ _ _) ?_
  intro h
  exact ⟨.inl rfl, rfl, rfl, rfl, rfl⟩

theorem configBuilderNewCustom_refuses {toMutPtr : ConfigBase → Body Conn S RustlsResult Ptr}
    (boxes : ∀ base w, ∃ p w', toMutPtr base w = (.next p, w'))
    {suites : Option (List (Option SupportedCipherSuite))} {n : Nat} {versions : Option (List UInt16)} {k : Nat} {out : Ptr}
    (valid : ValidSlice suites n) (valid' : ValidSlice versions k)
    (checked : out = none → ¬ AcceptsCustom R suites n versions k) :
    Ends (configBuilderNewCustom R toMutPtr suites n versions k out w) (Refuses (fun r => NullValue (.result r)) w) := by
  simp only [configBuilderNewCustom, ends_boundary, wp_bind]
  refine wp_newCustomBase_valid valid valid' ?_ (fun _ _ => trivial) ⟨.inl rfl, .refl⟩ (fun _ => trivial)
  intro base accepts
  obtain ⟨p, w', boxed⟩ := boxes base w
  show Post.holds _ (toMutPtr base w)
  rw [boxed]
  cases out with
  | none => exact absurd accepts (checked rfl)
  | some l => exact trivial

theorem clientConnectionNew_refuses {config : Ptr} {hostname : Option Bytes} {out : Ptr}
    (valid : ValidArc w.arcs ArcValue.clientConfig? config)
    (checked : ¬ WritesNull R w (.clientConnectionNew config hostname out)) :
    Ends (rustlsClientConnectionNew R config hostname out w) (Refuses (fun r => NullValue (.result r)) w) := by
  simp only [rustlsClientConnectionNew, ends_boundary, wp_bind]
  refine wp_tryRef.mpr ⟨fun _ => ⟨.inl rfl, .refl⟩, ?_⟩
  intro host given
  refine wp_tryArcFromPtr_valid valid ⟨.inl rfl, .refl⟩ ?_
  intro a value given' found
  subst given given'
  cases out with
  | none =>
    have unreached (name : String) (decoded : utf8Decode host = some name) (server : ServerName)
        (parsed : R.serverName name = some server) (conn : Conn) :
        R.clientConnectionNew value server ≠ .ok conn :=
      fun created => checked ⟨value, name, server, conn, found, decoded, parsed, created⟩
    simp +contextual [unreached]
  | some l => simp

theorem serverConnectionNew_refuses {config out : Ptr} (valid : ValidArc w.arcs ArcValue.serverConfig? config)
    (checked : ¬ WritesNull R w (.serverConnectionNew config out)) :
    Ends (rustlsServerConnectionNew R config out w) (Refuses (fun r => NullValue (.result r)) w) := by
  simp only [rustlsServerConnectionNew, ends_boundary, wp_bind]
  refine wp_tryArcFromPtr_valid valid ⟨.inl rfl, .refl⟩ ?_
  intro a value given found
  subst given
  cases out with
  | none =>
    have unreached (conn : Conn) : R.serverConnectionNew value ≠ .ok conn :=
      fun created => checked ⟨value, conn, found, created⟩
    simp [unreached]
  | some l => simp

theorem clientHelloSelectCertifiedKey_refuses {hello : Option RustlsClientHello}
    {certifiedKeys : Option (List Ptr)} {certifiedKeysLen : Nat} {outKey : Ptr}
    (keys : ValidKeys w.arcs certifiedKeys certifiedKeysLen)
    (schemes : ∀ h, hello = some h → ValidSlice h.signatureSchemes.data h.signatureSchemes.len) :
    Ends (rustlsClientHelloSelectCertifiedKey R hello certifiedKeys certifiedKeysLen outKey w)
      (Refuses (fun r => NullValue (.result r)) w) := by
  simp only [rustlsClientHelloSelectCertifiedKey, ends_boundary, wp_bind]
  refine wp_tryRef.mpr ⟨fun _ => ⟨.inl rfl, .refl⟩, ?_⟩
  intro hello given
  refine wp_trySlice_valid (schemes hello given) ⟨.inl rfl, .refl⟩ ?_
  intro schemes _
  refine wp_rejectIfNull.mpr ⟨fun _ => ⟨.inl rfl, .refl⟩, ?_⟩
  intro out outGiven
  refine wp_trySlice_valid keys.1 ⟨.inl rfl, .refl⟩ ?_
  intro l given
  have live : ∀ a, some a ∈ l.take certifiedKeysLen → derefArc w.arcs ArcValue.certifiedKey? a ≠ none :=
    fun a member => keys.2 l given _ member a rfl
  refine wp_mono (selectCertifiedKey_wp (F := False) R _ outKey _ (.inr ⟨by simp [outGiven], live⟩))
    (fun _ _ _ => trivial) (fun _ _ _ => trivial) ?_ (fun _ _ => trivial) (fun _ _ => False.elim)
  rintro r w' ⟨rfl, rfl⟩
  exact ⟨.inl rfl, .refl⟩

theorem certifiedKeyBuild_refuses {certChain : Option Bytes} {certChainLen : Nat} {privateKey : Option Bytes}
    {privateKeyLen : Nat} {out : Ptr} (chain : ValidSlice certChain certChainLen)
    (key : ValidSlice privateKey privateKeyLen) :
    Ends (rustlsCertifiedKeyBuild R certChain certChainLen privateKey privateKeyLen out w)
      (Refuses (fun r => NullValue (.result r)) w) := by
  simp only [rustlsCertifiedKeyBuild, ends_boundary, wp_bind, wp_rejectIfNull]
  refine ⟨by simp [NullValue], fun l given => ?_⟩
  refine (certifiedKeyBuild_looks (F := False) R certChain certChainLen privateKey privateKeyLen
    (.inr ⟨chain, key⟩)).wp ?_ ?_ ?_ ?_ ?_ <;> simp [given, NullValue]

theorem certifiedKeyCloneWithOcsp_refuses {certifiedKey : Ptr} {ocspResponse : Option RustlsSliceBytes} {out : Ptr}
    (valid : ValidArc w.arcs ArcValue.certifiedKey? certifiedKey)
    (ocsp : ∀ s, ocspResponse = some s → ValidSlice s.data s.len) :
    Ends (rustlsCertifiedKeyCloneWithOcsp certifiedKey ocspResponse out w)
      (Refuses (fun r => NullValue (.result r)) w) := by
  cases ocspResponse with
  | none => simp +contextual [rustlsCertifiedKeyCloneWithOcsp, NullValue, valid]
  | some s =>
    have slice := ocsp s rfl
    simp +contextual [rustlsCertifiedKeyCloneWithOcsp, NullValue, valid, slice]

theorem supportedCiphersuiteGetName_refuses {suite : Option SupportedCipherSuite} :
    Ends (rustlsSupportedCiphersuiteGetName R suite w) (Refuses (fun s => NullValue (.str s)) w) := by
  simp only [rustlsSupportedCiphersuiteGetName, ends_bare, wp_bind, wp_tryRef]
  refine ⟨by simp [NullValue, NullParameterOrDefault.nullValue], fun suite _ => ?_⟩
  dsimp only [Post.onNext]
  split <;> simp

end

theorem exec_refuses (R : Rustls Conn S) (call : Call S) (valid : Valid R w call)
    (checked : ¬ WritesNull R w call) : Ends (exec R call w) (Refuses NullValue w) := by
  cases call with
  | connectionSetUserdata conn | connectionSetLogCallback conn | connectionSetBufferLimit conn
  | connectionSendCloseNotify conn | connectionFree conn =>
    have valid : ValidPtr w.conns conn := valid
    exact refuses_as (by
      simp +contextual [rustlsConnectionSetUserdata, rustlsConnectionSetLogCallback,
        rustlsConnectionSetBufferLimit, rustlsConnectionSendCloseNotify, rustlsConnectionFree, NullValue, valid])
  | connectionReadTls conn cb userdata out => exact refuses_as (readTls_refuses valid)
  | connectionWriteTls conn cb userdata out | connectionWriteTlsVectored conn cb userdata out =>
    exact refuses_as (writeTls_refuses valid)
  | connectionWantsRead conn | connectionWantsWrite conn | connectionIsHandshaking conn
  | connectionGetPeerCertificate conn | connectionGetProtocolVersion conn
  | connectionGetNegotiatedCiphersuite conn =>
    exact refuses_as (askConn_refuses valid rfl (by simp [Looks]))
  | connectionProcessNewPackets conn => exact refuses_as (processNewPackets_refuses valid)
  | connectionGetAlpnProtocol conn data len => exact refuses_as (getAlpnProtocol_refuses valid)
  | serverConnectionGetSniHostname conn buf n out => exact refuses_as (getSniHostname_refuses valid)
  | connectionWrite conn buf n out => exact refuses_as (write_refuses valid.1 valid.2)
  | connectionRead conn buf n out | connectionRead2 conn buf n out =>
    exact refuses_as (readPlaintext_refuses valid.1 valid.2)
  | rootCertStoreFree store | clientCertVerifierNew store | clientCertVerifierOptionalNew store =>
    have valid : ValidPtr w.stores store := valid
    exact refuses_as (by
      simp +contextual [rustlsRootCertStoreFree, rustlsClientCertVerifierNew,
        rustlsClientCertVerifierOptionalNew, clientCertVerifierNew, NullValue, valid,
        NullParameterOrDefault.nullValue])
  | rootCertStoreAddPem store pem n strict => exact refuses_as (rootCertStoreAddPem_refuses valid.1 valid.2)
  | certifiedKeyGetCertificate key | certifiedKeyFree key =>
    have valid : ValidArc w.arcs ArcValue.certifiedKey? key := valid
    exact refuses_as (by
      simp +contextual [rustlsCertifiedKeyGetCertificate, rustlsCertifiedKeyFree, NullValue, valid,
        NullParameterOrDefault.nullValue])
  | clientCertVerifierFree verifier =>
    have valid : ValidArc w.arcs ArcValue.clientCertVerifier? verifier := valid
    exact refuses_as (by simp +contextual [rustlsClientCertVerifierFree, NullValue, valid])
  | clientCertVerifierOptionalFree verifier =>
    have valid : ValidArc w.arcs ArcValue.clientCertVerifierOptional? verifier := valid
    exact refuses_as (by simp +contextual [rustlsClientCertVerifierOptionalFree, NullValue, valid])
  | clientConfigFree config =>
    have valid : ValidArc w.arcs ArcValue.clientConfig? config := valid
    exact refuses_as (by simp +contextual [rustlsClientConfigFree, NullValue, valid])
  | serverConfigFree config =>
    have valid : ValidArc w.arcs ArcValue.serverConfig? config := valid
    exact refuses_as (by simp +contextual [rustlsServerConfigFree, NullValue, valid])
  | clientConfigBuilderDangerousSetCertificateVerifier builder | clientConfigBuilderSetEnableSni builder
  | clientConfigBuilderBuild builder =>
    have valid : ValidPtr w.clientBuilders builder := valid
    exact refuses_as (by
      simp +contextual [rustlsClientConfigBuilderDangerousSetCertificateVerifier,
        rustlsClientConfigBuilderSetEnableSni, rustlsClientConfigBuilderBuild, NullValue, valid,
        NullParameterOrDefault.nullValue])
  | clientConfigBuilderLoadRootsFromFile builder filename => exact refuses_as (loadRootsFromFile_refuses valid)
  | clientConfigBuilderFree builder =>
    have valid : ValidPtr w.clientBuilders builder := valid
    cases builder <;> exact refuses_as (by simp_all [rustlsClientConfigBuilderFree, NullValue])
  | clientConfigBuilderUseRoots builder roots =>
    obtain ⟨valid, store⟩ : ValidPtr w.clientBuilders builder ∧ ValidPtr w.stores roots := valid
    exact refuses_as (by simp +contextual [rustlsClientConfigBuilderUseRoots, NullValue, valid, store])
  | serverConfigBuilderSetIgnoreClientOrder builder | serverConfigBuilderSetHelloCallback builder
  | serverConfigBuilderSetPersistence builder =>
    have valid : ValidPtr w.serverBuilders builder := valid
    exact refuses_as (by
      simp +contextual [rustlsServerConfigBuilderSetIgnoreClientOrder,
        rustlsServerConfigBuilderSetHelloCallback, rustlsServerConfigBuilderSetPersistence, NullValue,
        valid])
  | serverConfigBuilderBuild builder => exact refuses_as (serverConfigBuilderBuild_refuses valid)
  | serverConfigBuilderFree builder =>
    have valid : ValidPtr w.serverBuilders builder := valid
    cases builder <;> exact refuses_as (by simp_all [rustlsServerConfigBuilderFree, NullValue])
  | serverConfigBuilderSetClientVerifier builder verifier =>
    exact refuses_as (setClientVerifier_refuses valid.1 valid.2)
  | serverConfigBuilderSetClientVerifierOptional builder verifier =>
    exact refuses_as (setClientVerifier_refuses valid.1 valid.2)
  | clientConfigBuilderSetAlpnProtocols builder protocols n | serverConfigBuilderSetAlpnProtocols builder protocols n =>
    exact refuses_as (setAlpnProtocols_refuses valid.1 valid.2)
  | clientConfigBuilderSetCertifiedKey builder keys n | serverConfigBuilderSetCertifiedKeys builder keys n =>
    exact refuses_as (setKeys_refuses valid.1 valid.2 fun _ _ _ => trivial)
  | clientConfigBuilderNewCustom suites n versions k out | serverConfigBuilderNewCustom suites n versions k out =>
    refine refuses_as (configBuilderNewCustom_refuses (fun _ _ => ⟨_, _, rfl⟩) valid.1 valid.2 ?_)
    rintro rfl
    exact checked
  | clientConnectionNew config host out => exact refuses_as (clientConnectionNew_refuses valid checked)
  | serverConnectionNew config out => exact refuses_as (serverConnectionNew_refuses valid checked)
  | clientHelloSelectCertifiedKey hello keys n out =>
    exact refuses_as (clientHelloSelectCertifiedKey_refuses valid.1 valid.2)
  | certifiedKeyBuild chain n key k out => exact refuses_as (certifiedKeyBuild_refuses valid.1 valid.2)
  | certifiedKeyCloneWithOcsp key ocsp out =>
    exact refuses_as (certifiedKeyCloneWithOcsp_refuses valid.1 valid.2)
  | certificateGetDer cert data len =>
    have valid : ∀ c, cert = some c → derefCertificate R w c ≠ none := valid
    exact refuses_as (by simp +contextual [rustlsCertificateGetDer, NullValue, valid])
  | error result buf len out => exact refuses_as (by simp +contextual [rustlsError, rustlsErrorOn, NullValue])
  | supportedCiphersuiteGetSuite suite =>
    exact refuses_as (by
      simp [rustlsSupportedCiphersuiteGetSuite, NullValue, NullParameterOrDefault.nullValue])
  | supportedCiphersuiteGetName suite => exact refuses_as supportedCiphersuiteGetName_refuses
  | rootCertStoreNew | clientConfigBuilderNew | serverConfigBuilderNew => exact refuses_as trivial
  | sliceSliceBytesLen _ | sliceSliceBytesGet _ _ | sliceStrLen _ | sliceStrGet _ _
  | resultIsCertError _ | logLevelStr _ | version | allCiphersuitesLen | allCiphersuitesGetEntry _
  | defaultCiphersuitesLen | defaultCiphersuitesGetEntry _ => exact trivial

/-- With a NULL where it would put the address, a function that gets to create its object writes
through it. -/
theorem exec_writesNull {R : Rustls Conn S} {call : Call S} (valid : Valid R w call)
    (writes : WritesNull R w call) : (exec R call w).1 = .fault .nullDeref := by
  cases call with
  | clientConfigBuilderNewCustom suites n versions k out | serverConfigBuilderNewCustom suites n versions k out =>
    cases out with
    | none =>
      obtain ⟨base, accepted⟩ := newCustomBase_accepts (w := w) valid.1 valid.2 writes
      simp [exec, Api.as, rustlsClientConfigBuilderNewCustom, rustlsServerConfigBuilderNewCustom, configBuilderNewCustom,
        ffiPanicBoundary, bind_run, accepted, clientBuilderToMutPtr, serverBuilderToMutPtr, writePtr, Outcome.map]
    | some l => exact writes.elim
  | clientConnectionNew config host out =>
    rcases config with _ | a <;> rcases host with _ | host <;> rcases out with _ | l <;>
      try exact writes.elim
    obtain ⟨config, host, name, conn, found, decoded, parsed, created⟩ := writes
    simp [exec, Api.as, rustlsClientConnectionNew, ffiPanicBoundary, bind_run, tryRef,
      tryArcFromPtr_live found, decoded, parsed, created, Ffi.inScope, someOr, callPure, Ffi.call, unwrap,
      setConnPtr, writePtr, Outcome.map]
  | serverConnectionNew config out =>
    rcases config with _ | a <;> rcases out with _ | l <;> try exact writes.elim
    obtain ⟨config, conn, found, created⟩ := writes
    simp [exec, Api.as, rustlsServerConnectionNew, ffiPanicBoundary, bind_run, tryArcFromPtr_live found,
      created, Ffi.inScope, okOr, callPure, Ffi.call, setConnPtr, writePtr, Outcome.map]
  | _ => exact writes.elim

/-- The fallback values of the functions that read a callback's slices. These check for NULL by hand, and return. -/
def nullSlice? : Call S → Option Value
  | .sliceSliceBytesLen none => some (.size 0)
  | .sliceSliceBytesGet none _ => some (.bytes ⟨none, 0⟩)
  | .sliceStrLen none => some (.size 0)
  | .sliceStrGet none _ => some (.str ⟨none, 0⟩)
  | _ => none

theorem exec_nullSlice (R : Rustls Conn S) {call : Call S} {v : Value} (fallback : nullSlice? call = some v) :
    exec R call w = (.returned v, w) := by
  unfold nullSlice? at fallback
  split at fallback <;> cases fallback <;> rfl

/-- A call whose pointers are all NULL or valid completes, or refuses and leaves every builder, store
and connection alone, exactly if it does not create an object with no place to put its address. A
slice that is NULL is read as empty. -/
theorem null_refused_iff (R : Rustls Conn S) (call : Call S) {w : World Conn S} (valid : Valid R w call) :
    (Refuses NullValue w (exec R call w).1 (exec R call w).2 ↔ ¬ WritesNull R w call) ∧
      ∀ v, nullSlice? call = some v → exec R call w = (.returned v, w) := by
  refine ⟨⟨?_, exec_refuses R call valid⟩, fun _ => exec_nullSlice R⟩
  intro refuses writes
  rw [exec_writesNull valid writes] at refuses
  exact refuses

/-- A key that is in use by C, and a builder. -/
def keyAndBuilder : World Unit Unit where
  __ := World.initial ()
  arcs := [⟨1, .certifiedKey ⟨[⟨[1]⟩], ⟨[2]⟩, none⟩, 0⟩]
  serverBuilders := [some (.new ⟨[], []⟩)]

/-- The NULL is the last of three keys. -/
theorem null_refused_iff_lastKey :
    exec (.inert ()) (.serverConfigBuilderSetCertifiedKeys (some 0) (some [some 0, some 0, none]) 3) keyAndBuilder =
        (.rejected (.result .nullParameter), keyAndBuilder) ∧
      Refuses NullValue keyAndBuilder
        (exec (.inert ()) (.serverConfigBuilderSetCertifiedKeys (some 0) (some [some 0, some 0, none]) 3) keyAndBuilder).1
        (exec (.inert ()) (.serverConfigBuilderSetCertifiedKeys (some 0) (some [some 0, some 0, none]) 3) keyAndBuilder).2 := by
  have valid : Valid (.inert ()) keyAndBuilder
      (.serverConfigBuilderSetCertifiedKeys (some 0) (some [some 0, some 0, none]) 3) := by
    refine ⟨?_, ?_, ?_⟩
    · rintro _ ⟨⟩
      decide
    · rintro _ ⟨⟩
      decide
    · rintro _ ⟨⟩ key member a given
      obtain rfl : a = 0 := by simpa [given] using member
      decide
  exact ⟨rfl, (null_refused_iff (.inert ()) _ valid).1.mpr id⟩

/-- One suite, one version, and NULL for `builder_out`. -/
theorem builderOut_written :
    Valid (.inert ()) (World.initial () : World Unit Unit)
        (.clientConfigBuilderNewCustom (some [some (.tls13 0x1302)]) 1 (some [0x0304]) 1 none) ∧
      (exec (.inert ()) (.clientConfigBuilderNewCustom (some [some (.tls13 0x1302)]) 1 (some [0x0304]) 1
        none) (World.initial () : World Unit Unit)).1 = .fault .nullDeref :=
  ⟨⟨by simp [ValidSlice], by simp [ValidSlice]⟩, by decide +kernel⟩

end RustlsFfi.Contract
