import RustlsFfi.Lifetime.Ledger
import RustlsFfi.Model.Api

/-!
# What each exported function does to the counts

Every lemma starts from a state whose counts are right and says whose references `loc` stands for
when the function returns, by whichever way it returns.
-/

namespace RustlsFfi.Lifetime
open Control Counting

variable {Conn S τ : Type} {P : Heap → Prop} {bare : Nat → Prop} {w : World Conn S} {loc : List Addr}

/-- The counts after a call that hands out the handle `p`: a handle is always to a new object. -/
def Gives (P : Heap → Prop) (w : World Conn S) (loc : List Addr) (p : Ptr) (w' : World Conn S) : Prop :=
  match p with
  | none => Counted P w' loc
  | some a => a = w.arcs.length ∧ Counted P w' (a :: loc)

/-- The handle in an output location, if the function succeeded. -/
def handleIn (out : Ptr) (r : RustlsResult) (w' : World Conn S) : Ptr :=
  if r = .ok then out.bind w'.cells.ptr else none

theorem leaf_of_derefArc {as : ArcValue → Option τ} {a : Addr} {v : τ}
    (owns : ∀ u v, as u = some v → u.refs = []) (found : derefArc w.arcs as a = some v) :
    Leaf ArcValue.refs w.arcs a := by
  obtain ⟨c, cell, -, value⟩ := derefArc_eq_some.mp found
  exact ⟨c.value, by simp [valueAt, cell], owns c.value v value⟩

theorem certifiedKey_refs (u : ArcValue) (v : CertifiedKey) (h : u.certifiedKey? = some v) :
    u.refs = [] := by
  cases u <;> simp_all [ArcValue.certifiedKey?, ArcValue.refs]

theorem clientCertVerifier_refs (u : ArcValue) (v : RootCertStore)
    (h : u.clientCertVerifier? = some v) : u.refs = [] := by
  cases u <;> simp_all [ArcValue.clientCertVerifier?, ArcValue.refs]

theorem clientCertVerifierOptional_refs (u : ArcValue) (v : RootCertStore)
    (h : u.clientCertVerifierOptional? = some v) : u.refs = [] := by
  cases u <;> simp_all [ArcValue.clientCertVerifierOptional?, ArcValue.refs]

/-! ### `cipher.rs` -/

theorem freeArc_counted (stable : Stable ArcValue.refs bare P) {as : ArcValue → Option τ} {T : ArcType}
    {p : Ptr} (counted : Counted P w (p.toList ++ loc))
    (typed : T.hasDropGlue = true ∨ (∀ u v, as u = some v → u.refs = []) ∧
      ∀ a, p = some a → bare (strong w.arcs a)) :
    Ends (ffiPanicBoundary (do
      let (a, _) ← tryRefFromArc as p
      .modify (·.dropFromRaw T a) : Body Conn S Unit Unit) w) (Returns fun _ w' => Counted P w' loc) := by
  cases p with
  | none => simpa using counted
  | some a =>
    have dropped {v : τ} (found : derefArc w.arcs as a = some v) : Counted P (w.dropFromRaw T a) loc := by
      refine counted_dropFromRaw stable counted (typed.imp_right ?_)
      rintro ⟨owns, last⟩
      exact ⟨leaf_of_derefArc owns found, last a rfl⟩
    simpa using fun v found => dropped (v := v) found

theorem certifiedKeyBuild_counted (stable : Stable ArcValue.refs bare P) (counted : Counted P w loc)
    (R : Rustls Conn S) (certChain : Option Bytes) (certChainLen : Nat) (privateKey : Option Bytes)
    (privateKeyLen : Nat) (out : Ptr) :
    Ends (rustlsCertifiedKeyBuild R certChain certChainLen privateKey privateKeyLen out w)
      (Returns fun r w' => Gives P w loc (handleIn out r w') w') := by
  have checks := certifiedKeyBuild_looks (w := w) R certChain certChainLen privateKey privateKeyLen
    (.inl trivial)
  have new (key : CertifiedKey) :=
    counted_alloc stable (v := .certifiedKey key) counted (by simp [ArcValue.refs])
  simp only [rustlsCertifiedKeyBuild, ends_boundary, wp_bind, wp_rejectIfNull]
  refine ⟨by simp [Gives, handleIn, counted], fun l given => checks.wp ?_ ?_ ?_ ?_ ?_⟩
  · simp +contextual [Gives, handleIn, given, new]
  · rintro r (rfl | rfl) <;> simpa [Gives, handleIn] using counted
  · rintro r rfl
    simpa [Gives, handleIn] using counted
  · simpa [Gives, handleIn] using counted
  · simp

theorem certifiedKeyCloneWithOcsp_counted (stable : Stable ArcValue.refs bare P)
    (counted : Counted P w loc) (certifiedKey : Ptr) (ocspResponse : Option RustlsSliceBytes) (out : Ptr) :
    Ends (rustlsCertifiedKeyCloneWithOcsp certifiedKey ocspResponse out w)
      (Returns fun r w' => Gives P w loc (handleIn out r w') w') := by
  have new (key : CertifiedKey) :=
    counted_alloc stable (v := .certifiedKey key) counted (by simp [ArcValue.refs])
  cases ocspResponse <;>
    simp +contextual [rustlsCertifiedKeyCloneWithOcsp, Gives, handleIn, counted, new]

theorem clientCertVerifierNew_counted (stable : Stable ArcValue.refs bare P) (counted : Counted P w loc)
    {value : RootCertStore → ArcValue} (owns : ∀ roots, (value roots).refs = []) (store : Ptr) :
    Ends (clientCertVerifierNew value store w) (Returns fun p w' => Gives P w loc p w') := by
  have new (roots : RootCertStore) : Counted P { w with arcs := alloc w.arcs (value roots) } _ :=
    counted_alloc stable (show Counted P w ((value roots).refs ++ loc) by simpa [owns] using counted)
      (by simp [owns])
  simp +contextual [clientCertVerifierNew, Gives, counted, new, NullParameterOrDefault.nullValue]

/-! ### `connection.rs` -/

theorem counted_sameConn {a : Addr} {c : Connection Conn} (new : Connection Conn)
    (counted : Counted P w loc) (live : Arena.get w.conns a = some c) (same : new.refs = c.refs) :
    Counted P (w.putConn a new) loc :=
  counted_putConn counted live (by rw [same])

theorem setUserdata_counted (counted : Counted P w loc) (conn : Ptr) (userdata : VoidPtr) :
    Ends (rustlsConnectionSetUserdata conn userdata w) (Returns fun _ w' => Counted P w' loc) := by
  have same {a : Addr} {c : Connection Conn} (live : Arena.get w.conns a = some c) :=
    counted_sameConn { c with userdata := userdata } counted live rfl
  simp +contextual [rustlsConnectionSetUserdata, counted, same]

theorem setLogCallback_counted (counted : Counted P w loc) (conn : Ptr) (cb : Option FnPtr) :
    Ends (rustlsConnectionSetLogCallback conn cb w) (Returns fun _ w' => Counted P w' loc) := by
  have same {a : Addr} {c : Connection Conn} (live : Arena.get w.conns a = some c) :=
    counted_sameConn { c with logCallback := cb } counted live rfl
  simp +contextual [rustlsConnectionSetLogCallback, counted, same]

/-- rustls may change its own state of a connection, not the references. -/
theorem counted_driven (counted : Counted P w loc) {a : Addr} {c : Connection Conn}
    (live : Arena.get w.conns a = some c) (conn : Conn) :
    Counted P (w.putConn a { c with conn := conn }) loc :=
  counted_sameConn { c with conn := conn } counted live rfl

theorem readTls_counted (counted : Counted P w loc) (R : Rustls Conn S) (conn : Ptr)
    (callback : Option (ReadCallback S)) (userdata : VoidPtr) (outN : Ptr) :
    Ends (rustlsConnectionReadTls R conn callback userdata outN w)
      (Returns fun _ w' => Counted P w' loc) := by
  refine ends_readTls counted (fun _ _ _ => trivial) ?_ ?_
  · intro a c r conn s live
    exact counted_driven counted live conn
  · intro a c n conn s l live
    exact counted_driven counted live conn

theorem writeTls_counted {κ : Type} (counted : Counted P w loc) (R : Rustls Conn S)
    (writer : κ → Writer S) (conn : Ptr) (callback : Option κ) (outN : Ptr) :
    Ends (writeTls R writer conn callback outN w) (Returns fun _ w' => Counted P w' loc) := by
  refine ends_writeTls counted (fun _ _ _ => trivial) ?_ ?_
  · intro a c r conn s live
    exact counted_driven counted live conn
  · intro a c n conn s l live
    exact counted_driven counted live conn

theorem setBufferLimit_counted (counted : Counted P w loc) (R : Rustls Conn S) (conn : Ptr) (n : Nat) :
    Ends (rustlsConnectionSetBufferLimit R conn n w) (Returns fun _ w' => Counted P w' loc) := by
  simp +contextual [rustlsConnectionSetBufferLimit, counted, counted_driven counted]

theorem sendCloseNotify_counted (counted : Counted P w loc) (R : Rustls Conn S) (conn : Ptr) :
    Ends (rustlsConnectionSendCloseNotify R conn w) (Returns fun _ w' => Counted P w' loc) := by
  simp +contextual [rustlsConnectionSendCloseNotify, counted, counted_driven counted]

theorem write_counted (counted : Counted P w loc) (R : Rustls Conn S) (conn : Ptr) (buf : Option Bytes)
    (count : Nat) (outN : Ptr) :
    Ends (rustlsConnectionWrite R conn buf count outN w) (Returns fun _ w' => Counted P w' loc) := by
  simp +contextual [rustlsConnectionWrite, counted, counted_driven counted]

theorem readPlaintext_counted (counted : Counted P w loc)
    (read : Conn → Bytes → Res IoError Nat × Bytes × Conn) (conn buf : Ptr) (count : Nat) (outN : Ptr) :
    Ends (readPlaintext read conn buf count outN w) (Returns fun _ w' => Counted P w' loc) := by
  simp +contextual [readPlaintext, counted, counted_driven counted]

theorem connectionFree_counted (stable : Stable ArcValue.refs bare P) (counted : Counted P w loc)
    (conn : Ptr) : Ends (rustlsConnectionFree conn w) (Returns fun _ w' => Counted P w' loc) := by
  have freed {a : Addr} {c : Connection Conn} (live : Arena.get w.conns a = some c) :=
    counted_dropArcs stable c.refs (counted_freeConn counted live)
  simp +contextual [rustlsConnectionFree, counted, freed]

/-! ### The loop over certified keys -/

/-- The loop ends with one reference to each key it went over; when it gives up, it has given back
what it had. -/
theorem collectKeys_counted (stable : Stable ArcValue.refs bare P) (l : List Ptr) (keys : List Addr)
    (counted : Counted P w (keys ++ loc)) (leaves : ∀ k ∈ keys, Leaf ArcValue.refs w.arcs k) :
    wp (collectKeys l keys)
      { next := fun keys' w' => (∃ h, w' = { w with arcs := h }) ∧ Counted P w' (keys' ++ loc) ∧
          ∀ k ∈ keys', Leaf ArcValue.refs w'.arcs k
        ret := fun _ w' => Counted P w' loc
        rejected := fun _ w' => Counted P w' loc
        panic := fun w' => Counted P w' loc
        fault := fun _ _ => True } w := by
  induction l generalizing keys w with
  | nil => exact ⟨⟨w.arcs, rfl⟩, counted, leaves⟩
  | cons p rest ih =>
    simp only [collectKeys, wp_bind, wp_inScope, wp_tryArcFromPtr, Post.dropping, Post.onNext]
    refine ⟨fun _ => counted_dropArcs stable keys counted, fun a _ => ⟨fun v found => ?_, fun _ => trivial⟩⟩
    have cloned : Counted P (w.retain a) ((keys ++ [a]) ++ loc) := by
      refine (counted_retain stable counted (strong_of_derefArc found)).perm ?_
      simp [List.perm_middle.symm]
    have leaves' : ∀ k ∈ keys ++ [a], Leaf ArcValue.refs (w.retain a).arcs k := by
      intro k member
      rw [World.retain, leaf_iff_of_values (valueAt_retain w.arcs a)]
      rcases List.mem_append.mp member with old | new
      · exact leaves k old
      · rw [List.mem_singleton.mp new]
        exact leaf_of_derefArc certifiedKey_refs found
    refine wp_mono (ih (keys ++ [a]) cloned leaves') ?_ (fun _ _ h => h) (fun _ _ h => h)
      (fun _ h => h) (fun _ _ h => h)
    rintro keys' w' ⟨⟨h, rfl⟩, rest⟩
    exact ⟨⟨h, rfl⟩, rest⟩

/-! ### `client.rs` -/

theorem counted_sameClientBuilder {b : Addr} {old : ClientConfigBuilder} (new : ClientConfigBuilder)
    (counted : Counted P w loc) (live : Arena.get w.clientBuilders b = some old)
    (same : new.refs = old.refs) : Counted P (w.putClientBuilder b new) loc := by
  refine counted_putClientBuilder counted live ?_ (by rw [same])
  rw [same]
  exact counted.clientLeaves b old live

theorem clientConfigBuilderNew_counted (counted : Counted P w loc) (R : Rustls Conn S) :
    Ends (rustlsClientConfigBuilderNew R w) (Returns fun _ w' => Counted P w' loc) := by
  simpa [rustlsClientConfigBuilderNew] using counted_newClientBuilder _ counted rfl

theorem clientConfigBuilderNewCustom_counted (counted : Counted P w loc) (R : Rustls Conn S)
    (cipherSuites : Option (List (Option SupportedCipherSuite))) (cipherSuitesLen : Nat)
    (tlsVersions : Option (List UInt16)) (tlsVersionsLen : Nat) (builderOut : Ptr) :
    Ends (rustlsClientConfigBuilderNewCustom R cipherSuites cipherSuitesLen tlsVersions tlsVersionsLen
      builderOut w) (Returns fun _ w' => Counted P w' loc) :=
  ends_newCustom (fun _ _ => counted) counted (fun _ _ => trivial)
    fun base _ _ => counted_newClientBuilder (.new base) counted rfl

theorem dangerousSetCertificateVerifier_counted (counted : Counted P w loc) (builder : Ptr)
    (callback : Option FnPtr) :
    Ends (rustlsClientConfigBuilderDangerousSetCertificateVerifier builder callback w)
      (Returns fun _ w' => Counted P w' loc) := by
  have same {b : Addr} {old : ClientConfigBuilder} (live : Arena.get w.clientBuilders b = some old)
      (v : ServerCertVerifier) := counted_sameClientBuilder { old with verifier := v } counted live rfl
  simp +contextual [rustlsClientConfigBuilderDangerousSetCertificateVerifier, counted, same]

theorem useRoots_counted (counted : Counted P w loc) (builder roots : Ptr) :
    Ends (rustlsClientConfigBuilderUseRoots builder roots w) (Returns fun _ w' => Counted P w' loc) := by
  have same {b : Addr} {old : ClientConfigBuilder} (live : Arena.get w.clientBuilders b = some old)
      (v : ServerCertVerifier) := counted_sameClientBuilder { old with verifier := v } counted live rfl
  simp +contextual [rustlsClientConfigBuilderUseRoots, counted, same]

theorem loadRootsFromFile_counted (counted : Counted P w loc) (R : Rustls Conn S) (builder : Ptr)
    (filename : Option Bytes) :
    Ends (rustlsClientConfigBuilderLoadRootsFromFile R builder filename w)
      (Returns fun _ w' => Counted P w' loc) := by
  have same {b : Addr} {old : ClientConfigBuilder} (live : Arena.get w.clientBuilders b = some old)
      (v : ServerCertVerifier) := counted_sameClientBuilder { old with verifier := v } counted live rfl
  simp +contextual [rustlsClientConfigBuilderLoadRootsFromFile, counted, same, wp_ite]

theorem clientSetAlpnProtocols_counted (counted : Counted P w loc) (builder : Ptr)
    (protocols : Option (List RustlsSliceBytes)) (len : Nat) :
    Ends (rustlsClientConfigBuilderSetAlpnProtocols builder protocols len w)
      (Returns fun _ w' => Counted P w' loc) :=
  ends_setAlpnProtocols (fun _ _ => counted) counted (fun _ _ => trivial)
    fun _ _ _ _ live => counted_sameClientBuilder _ counted live rfl

theorem setEnableSni_counted (counted : Counted P w loc) (builder : Ptr) (enable : Bool) :
    Ends (rustlsClientConfigBuilderSetEnableSni builder enable w)
      (Returns fun _ w' => Counted P w' loc) := by
  have same {b : Addr} {old : ClientConfigBuilder} (live : Arena.get w.clientBuilders b = some old) :=
    counted_sameClientBuilder { old with enableSni := enable } counted live rfl
  simp +contextual [rustlsClientConfigBuilderSetEnableSni, counted, same]

/-- The new keys move into the resolver and those of the resolver it replaces are dropped. -/
theorem setCertifiedKey_counted (stable : Stable ArcValue.refs bare P) (counted : Counted P w loc)
    (builder : Ptr) (certifiedKeys : Option (List Ptr)) (certifiedKeysLen : Nat) :
    Ends (rustlsClientConfigBuilderSetCertifiedKey builder certifiedKeys certifiedKeysLen w)
      (Returns fun _ w' => Counted P w' loc) := by
  simp only [rustlsClientConfigBuilderSetCertifiedKey, ends_boundary, wp_bind]
  refine wp_tryFromPtr.mpr ⟨fun _ => counted, fun b _ => ⟨?_, fun _ => trivial⟩⟩
  intro old live
  refine wp_trySlice.mpr ⟨fun _ => counted, fun l _ => ⟨?_, fun _ => trivial⟩⟩
  intro _
  refine wp_mono (collectKeys_counted stable _ [] counted (by simp)) ?_ (fun _ _ h => h)
    (fun _ _ h => h) (fun _ h => h) (fun _ _ h => h)
  rintro keys w' ⟨⟨h, rfl⟩, collected, leaves⟩
  refine counted_dropArcs stable old.refs ?_
  exact counted_putClientBuilder collected live leaves (exchange_ends old.refs loc keys)

theorem clientConfigBuilderBuild_counted (stable : Stable ArcValue.refs bare P)
    (counted : Counted P w loc) (builder : Ptr) :
    Ends (rustlsClientConfigBuilderBuild builder w) (Returns fun p w' => Gives P w loc p w') := by
  have built {b : Addr} {old : ClientConfigBuilder} (live : Arena.get w.clientBuilders b = some old) :=
    counted_alloc stable (counted_freeClientBuilder counted live) (v := .clientConfig ⟨old.base,
      old.verifier, old.certResolver, old.alpnProtocols, old.enableSni⟩) (counted.clientLeaves b old live)
  simp +contextual [rustlsClientConfigBuilderBuild, Gives, counted, built,
    NullParameterOrDefault.nullValue]

theorem clientConfigBuilderFree_counted (stable : Stable ArcValue.refs bare P)
    (counted : Counted P w loc) (builder : Ptr) :
    Ends (rustlsClientConfigBuilderFree builder w) (Returns fun _ w' => Counted P w' loc) := by
  have freed {b : Addr} {old : ClientConfigBuilder} (live : Arena.get w.clientBuilders b = some old) :=
    counted_dropArcs stable old.refs (counted_freeClientBuilder counted live)
  cases builder <;> simp +contextual [rustlsClientConfigBuilderFree, counted, freed]

/-- The connection keeps the reference that was taken for it, and every failure gives it back. -/
theorem clientConnectionNew_counted (stable : Stable ArcValue.refs bare P) (counted : Counted P w loc)
    (R : Rustls Conn S) (config : Ptr) (hostname : Option Bytes) (connOut : Ptr) :
    Ends (rustlsClientConnectionNew R config hostname connOut w)
      (Returns fun _ w' => Counted P w' loc) := by
  simp only [rustlsClientConnectionNew, ends_boundary, wp_bind]
  refine wp_tryRef.mpr ⟨fun _ => counted, ?_⟩
  intro host _
  refine wp_tryArcFromPtr.mpr ⟨fun _ => counted, fun a _ => ⟨?_, fun _ => trivial⟩⟩
  intro value found
  have cloned := counted_retain stable counted (strong_of_derefArc found)
  have dropped := counted_dropArc stable cloned
  have kept (conn : Conn) := counted_newConn (.new conn .client a) cloned
  simp [dropped, kept]

/-! ### `server.rs` -/

theorem counted_sameServerBuilder {b : Addr} {old : ServerConfigBuilder} (new : ServerConfigBuilder)
    (counted : Counted P w loc) (live : Arena.get w.serverBuilders b = some old)
    (same : new.refs = old.refs) : Counted P (w.putServerBuilder b new) loc := by
  refine counted_putServerBuilder counted live ?_ (by rw [same])
  rw [same]
  exact counted.serverLeaves b old live

theorem serverConfigBuilderNew_counted (counted : Counted P w loc) (R : Rustls Conn S) :
    Ends (rustlsServerConfigBuilderNew R w) (Returns fun _ w' => Counted P w' loc) := by
  simpa [rustlsServerConfigBuilderNew] using counted_newServerBuilder _ counted rfl

theorem serverConfigBuilderNewCustom_counted (counted : Counted P w loc) (R : Rustls Conn S)
    (cipherSuites : Option (List (Option SupportedCipherSuite))) (cipherSuitesLen : Nat)
    (tlsVersions : Option (List UInt16)) (tlsVersionsLen : Nat) (builderOut : Ptr) :
    Ends (rustlsServerConfigBuilderNewCustom R cipherSuites cipherSuitesLen tlsVersions tlsVersionsLen
      builderOut w) (Returns fun _ w' => Counted P w' loc) :=
  ends_newCustom (fun _ _ => counted) counted (fun _ _ => trivial)
    fun base _ _ => counted_newServerBuilder (.new base) counted rfl

/-- The clone moves into the slot and the verifier it replaces is dropped. -/
theorem setClientVerifier_counted (stable : Stable ArcValue.refs bare P) (counted : Counted P w loc)
    {as : ArcValue → Option τ} {slot : Addr → ClientCertVerifier}
    (owns : ∀ u v, as u = some v → u.refs = []) (holds : ∀ a, (slot a).refs = [a])
    (builder verifier : Ptr) :
    Ends (setClientVerifier as slot builder verifier w) (Returns fun _ w' => Counted P w' loc) := by
  simp only [setClientVerifier, ends_boundary, wp_bind]
  refine wp_tryFromPtr.mpr ⟨fun _ => counted, fun b _ => ⟨?_, fun _ => trivial⟩⟩
  intro old live
  refine wp_tryArcFromPtr.mpr ⟨fun _ => counted, fun a _ => ⟨?_, fun _ => trivial⟩⟩
  intro v found
  have cloned := counted_retain stable counted (strong_of_derefArc found)
  refine counted_dropArcs stable old.verifier.refs ?_
  refine counted_putServerBuilder cloned live ?_ ?_
  · intro r own
    rw [World.retain, leaf_iff_of_values (valueAt_retain w.arcs a)]
    rcases List.mem_append.mp own with verifier | resolver
    · rw [holds, List.mem_singleton] at verifier
      exact verifier ▸ leaf_of_derefArc owns found
    · exact counted.serverLeaves b old live r (List.mem_append_right _ resolver)
  · rw [List.perm_iff_count]
    intro r
    simp only [ServerConfigBuilder.refs, holds, List.count_append, List.count_cons, List.count_nil]
    omega

theorem setIgnoreClientOrder_counted (counted : Counted P w loc) (builder : Ptr) (ignore : Bool) :
    Ends (rustlsServerConfigBuilderSetIgnoreClientOrder builder ignore w)
      (Returns fun _ w' => Counted P w' loc) := by
  have same {b : Addr} {old : ServerConfigBuilder} (live : Arena.get w.serverBuilders b = some old) :=
    counted_sameServerBuilder { old with ignoreClientOrder := some ignore } counted live rfl
  simp +contextual [rustlsServerConfigBuilderSetIgnoreClientOrder, counted, same]

theorem serverSetAlpnProtocols_counted (counted : Counted P w loc) (builder : Ptr)
    (protocols : Option (List RustlsSliceBytes)) (len : Nat) :
    Ends (rustlsServerConfigBuilderSetAlpnProtocols builder protocols len w)
      (Returns fun _ w' => Counted P w' loc) :=
  ends_setAlpnProtocols (fun _ _ => counted) counted (fun _ _ => trivial)
    fun _ _ _ _ live => counted_sameServerBuilder _ counted live rfl

theorem counted_putResolver (stable : Stable ArcValue.refs bare P) {b : Addr} {old : ServerConfigBuilder}
    {r : ServerCertResolver} (counted : Counted P w (r.refs ++ loc))
    (live : Arena.get w.serverBuilders b = some old)
    (leaves : ∀ a ∈ r.refs, Leaf ArcValue.refs w.arcs a) :
    Counted P ((w.putServerBuilder b { old with certResolver := some r }).dropArcs
      (resolverRefs old.certResolver)) loc := by
  refine counted_dropArcs stable _ ?_
  refine counted_putServerBuilder counted live ?_ ?_
  · intro a own
    rcases List.mem_append.mp own with verifier | resolver
    · exact counted.serverLeaves b old live a (List.mem_append_left _ verifier)
    · exact leaves a resolver
  · rw [List.perm_iff_count]
    intro a
    simp only [ServerConfigBuilder.refs, resolverRefs, Option.elim_some, List.count_append]
    omega

theorem retainAll_leaf (keys : List Addr) (a : Addr) :
    Leaf ArcValue.refs (keys.foldl (fun w key => w.retain key) w).arcs a ↔
      Leaf ArcValue.refs w.arcs a := by
  induction keys generalizing w with
  | nil => rfl
  | cons k keys ih =>
    rw [List.foldl_cons, ih]
    exact leaf_iff_of_values (valueAt_retain w.arcs k)

/-- `ResolvesServerCertFromChoices::new` takes a second reference to every key. -/
theorem counted_retainAll (stable : Stable ArcValue.refs bare P) (keys : List Addr)
    (counted : Counted P w loc) (held : ∀ k ∈ keys, k ∈ loc) :
    Counted P (keys.foldl (fun w key => w.retain key) w) (keys ++ loc) := by
  induction keys generalizing w loc with
  | nil => exact counted
  | cons k keys ih =>
    have first := counted_retain stable counted (counted.alive (held k (by simp)))
    have rest := ih first fun key member => List.mem_cons_of_mem k (held key (by simp [member]))
    exact rest.perm List.perm_middle

theorem setCertifiedKeys_counted (stable : Stable ArcValue.refs bare P) (counted : Counted P w loc)
    (builder : Ptr) (certifiedKeys : Option (List Ptr)) (certifiedKeysLen : Nat) :
    Ends (rustlsServerConfigBuilderSetCertifiedKeys builder certifiedKeys certifiedKeysLen w)
      (Returns fun _ w' => Counted P w' loc) := by
  simp only [rustlsServerConfigBuilderSetCertifiedKeys, ends_boundary, wp_bind]
  refine wp_tryFromPtr.mpr ⟨fun _ => counted, fun b _ => ⟨?_, fun _ => trivial⟩⟩
  intro old live
  refine wp_trySlice.mpr ⟨fun _ => counted, fun l _ => ⟨?_, fun _ => trivial⟩⟩
  intro _
  refine wp_mono (collectKeys_counted stable _ [] counted (by simp)) ?_ (fun _ _ h => h)
    (fun _ _ h => h) (fun _ h => h) (fun _ _ h => h)
  rintro keys w' ⟨⟨h, rfl⟩, collected, leaves⟩
  have doubled := counted_retainAll stable keys collected (by simp +contextual)
  refine counted_dropArcs stable keys ?_
  refine counted_putResolver stable (r := .resolvesServerCertFromChoices keys) doubled ?_ ?_
  · simpa [retainAll_serverBuilders] using live
  · intro k member
    exact (retainAll_leaf keys k).mpr (leaves k member)

theorem setHelloCallback_counted (stable : Stable ArcValue.refs bare P) (counted : Counted P w loc)
    (builder : Ptr) (callback : Option FnPtr) :
    Ends (rustlsServerConfigBuilderSetHelloCallback builder callback w)
      (Returns fun _ w' => Counted P w' loc) := by
  have replaced {b : Addr} {old : ServerConfigBuilder} (live : Arena.get w.serverBuilders b = some old)
      (cb : FnPtr) := counted_putResolver stable (r := .clientHelloResolver cb) counted live
        (by simp [ServerCertResolver.refs])
  simp +contextual [rustlsServerConfigBuilderSetHelloCallback, counted, replaced]

theorem setPersistence_counted (counted : Counted P w loc) (builder : Ptr) (getCb putCb : Option FnPtr) :
    Ends (rustlsServerConfigBuilderSetPersistence builder getCb putCb w)
      (Returns fun _ w' => Counted P w' loc) := by
  have same {b : Addr} {old : ServerConfigBuilder} (live : Arena.get w.serverBuilders b = some old)
      (s : SessionStoreBroker) :=
    counted_sameServerBuilder { old with sessionStorage := some s } counted live rfl
  simp +contextual [rustlsServerConfigBuilderSetPersistence, counted, same]

theorem serverConfigBuilderBuild_counted (stable : Stable ArcValue.refs bare P)
    (counted : Counted P w loc) (R : Rustls Conn S) (builder : Ptr) :
    Ends (rustlsServerConfigBuilderBuild R builder w) (Returns fun p w' => Gives P w loc p w') := by
  simp only [rustlsServerConfigBuilderBuild, ends_boundary, wp_bind, wp_tryFromPtr]
  refine ⟨fun _ => counted, fun b _ => ⟨fun old live => ?_, fun _ => trivial⟩⟩
  have opened := counted_freeServerBuilder counted live
  have leaves := counted.serverLeaves b old live
  cases slot : old.certResolver with
  | none =>
    have dropped := counted_dropArcs stable old.verifier.refs
      (show Counted P _ (old.verifier.refs ++ loc) by
        simpa [ServerConfigBuilder.refs, resolverRefs, slot] using opened)
    simpa [Gives, slot] using dropped
  | some r =>
    have owns : (ArcValue.serverConfig (old.toConfig R r)).refs = old.refs := by
      simp [ArcValue.refs, ServerConfigBuilder.toConfig, ServerConfigBuilder.refs, resolverRefs, slot]
    have built := counted_alloc stable (v := .serverConfig (old.toConfig R r)) (owns ▸ opened)
      (owns ▸ leaves)
    simpa [Gives, slot] using built

theorem serverConfigBuilderFree_counted (stable : Stable ArcValue.refs bare P)
    (counted : Counted P w loc) (builder : Ptr) :
    Ends (rustlsServerConfigBuilderFree builder w) (Returns fun _ w' => Counted P w' loc) := by
  have freed {b : Addr} {old : ServerConfigBuilder} (live : Arena.get w.serverBuilders b = some old) :=
    counted_dropArcs stable old.refs (counted_freeServerBuilder counted live)
  cases builder <;> simp +contextual [rustlsServerConfigBuilderFree, counted, freed]

theorem serverConnectionNew_counted (stable : Stable ArcValue.refs bare P) (counted : Counted P w loc)
    (R : Rustls Conn S) (config connOut : Ptr) :
    Ends (rustlsServerConnectionNew R config connOut w) (Returns fun _ w' => Counted P w' loc) := by
  simp only [rustlsServerConnectionNew, ends_boundary, wp_bind]
  refine wp_tryArcFromPtr.mpr ⟨fun _ => counted, fun a _ => ⟨?_, fun _ => trivial⟩⟩
  intro value found
  have cloned := counted_retain stable counted (strong_of_derefArc found)
  have dropped := counted_dropArc stable cloned
  have kept (conn : Conn) := counted_newConn (.new conn .server a) cloned
  simp [dropped, kept]

/-! ### Functions that hold and release nothing -/

theorem error_counted (counted : Counted P w loc) (R : Rustls Conn S) (result : UInt32) (buf : Ptr)
    (len : Nat) (outN : Ptr) :
    Ends (rustlsError R result buf len outN w) (Returns fun _ w' => Counted P w' loc) := by
  simp +contextual [rustlsError, rustlsErrorOn, counted]

theorem certificateGetDer_counted (counted : Counted P w loc) (R : Rustls Conn S) (cert : Option CertificatePtr)
    (outDerData outDerLen : Ptr) :
    Ends (rustlsCertificateGetDer R cert outDerData outDerLen w) (Returns fun _ w' => Counted P w' loc) := by
  simp +contextual [rustlsCertificateGetDer, counted]

theorem supportedCiphersuiteGetSuite_counted (counted : Counted P w loc)
    (suite : Option SupportedCipherSuite) :
    Ends (rustlsSupportedCiphersuiteGetSuite suite w) (Returns fun _ w' => Counted P w' loc) := by
  simp +contextual [rustlsSupportedCiphersuiteGetSuite, counted]

theorem certifiedKeyGetCertificate_counted (counted : Counted P w loc) (certifiedKey : Ptr) (i : Nat) :
    Ends (rustlsCertifiedKeyGetCertificate certifiedKey i w) (Returns fun _ w' => Counted P w' loc) := by
  simp +contextual [rustlsCertifiedKeyGetCertificate, counted]

theorem rootCertStoreAddPem_counted (counted : Counted P w loc) (R : Rustls Conn S) (store : Ptr)
    (pem : Option Bytes) (pemLen : Nat) (strict : Bool) :
    Ends (rustlsRootCertStoreAddPem R store pem pemLen strict w)
      (Returns fun _ w' => Counted P w' loc) := by
  simp +contextual [rustlsRootCertStoreAddPem, counted, wp_ite]

theorem rootCertStoreFree_counted (counted : Counted P w loc) (store : Ptr) :
    Ends (rustlsRootCertStoreFree store w) (Returns fun _ w' => Counted P w' loc) := by
  simp +contextual [rustlsRootCertStoreFree, counted]

theorem askConn_counted {ρ : Type} [NullParameterOrDefault ρ] [PanicOrDefault ρ]
    {f : Connection Conn → Body Conn S ρ ρ} (counted : Counted P w loc) (conn : Ptr)
    (asks : ∀ c, Looks (fun _ => True) (fun _ => True) True (f c) w) :
    Ends (askConn conn f w) (Returns fun _ w' => Counted P w' loc) := by
  simp only [askConn, ends_boundary, wp_bind, wp_tryFromPtr]
  refine ⟨fun _ => counted, fun a _ => ⟨fun c _ => ?_, fun _ => trivial⟩⟩
  exact (asks c).wp (fun _ => counted) (fun _ _ => counted) (fun _ _ => counted) counted
    (fun _ _ => trivial)

theorem clientHelloSelectCertifiedKey_counted (counted : Counted P w loc) (R : Rustls Conn S)
    (hello : Option RustlsClientHello) (certifiedKeys : Option (List Ptr)) (certifiedKeysLen : Nat)
    (outKey : Ptr) :
    Ends (rustlsClientHelloSelectCertifiedKey R hello certifiedKeys certifiedKeysLen outKey w)
      (Returns fun _ w' => Counted P w' loc) := by
  simp only [rustlsClientHelloSelectCertifiedKey, ends_boundary, wp_bind]
  refine wp_tryRef.mpr ⟨fun _ => counted, ?_⟩
  intro hello _
  refine wp_trySlice.mpr ⟨fun _ => counted, fun schemes _ => ⟨?_, fun _ => trivial⟩⟩
  intro _
  refine wp_rejectIfNull.mpr ⟨fun _ => counted, ?_⟩
  intro l _
  refine wp_trySlice.mpr ⟨fun _ => counted, fun keys _ => ⟨?_, fun _ => trivial⟩⟩
  intro _
  refine wp_mono (selectCertifiedKey_wp R _ outKey _ (.inl trivial)) ?_ ?_ ?_ ?_ (fun _ _ _ => trivial)
  · rintro r w' ⟨-, rfl⟩
    exact counted
  · rintro r w' ⟨-, l, key, rfl⟩
    exact counted
  · rintro r w' ⟨-, rfl⟩
    exact counted
  · rintro w' rfl
    exact counted

theorem supportedCiphersuiteGetName_counted (counted : Counted P w loc) (R : Rustls Conn S)
    (suite : Option SupportedCipherSuite) :
    Ends (rustlsSupportedCiphersuiteGetName R suite w) (Returns fun _ w' => Counted P w' loc) := by
  cases suite with
  | none => exact counted
  | some suite =>
    simp only [rustlsSupportedCiphersuiteGetName, ends_bare, wp_bind, wp_tryRef]
    refine ⟨fun _ => counted, fun suite _ => ?_⟩
    dsimp only [Post.onNext]
    split <;> exact counted

theorem getAlpnProtocol_counted (counted : Counted P w loc) (R : Rustls Conn S)
    (conn protocolOut protocolOutLen : Ptr) :
    Ends (rustlsConnectionGetAlpnProtocol R conn protocolOut protocolOutLen w)
      (Returns fun _ w' => Counted P w' loc) := by
  simp only [rustlsConnectionGetAlpnProtocol, ends_boundary, wp_bind]
  refine wp_tryFromPtr.mpr ⟨fun _ => counted, fun a _ => ⟨?_, fun _ => trivial⟩⟩
  intro c _
  refine wp_rejectIfNull.mpr ⟨fun _ => counted, ?_⟩
  intro data _
  refine wp_rejectIfNull.mpr ⟨fun _ => counted, ?_⟩
  intro len _
  refine wp_mayPanic.mpr ⟨?_, fun _ => counted⟩
  intro protocol _
  cases protocol <;> simp [counted]

theorem getSniHostname_counted (counted : Counted P w loc) (R : Rustls Conn S) (conn buf : Ptr)
    (count : Nat) (outN : Ptr) :
    Ends (rustlsServerConnectionGetSniHostname R conn buf count outN w)
      (Returns fun _ w' => Counted P w' loc) := by
  simp only [rustlsServerConnectionGetSniHostname, ends_boundary, wp_bind]
  refine wp_tryFromPtr.mpr ⟨fun _ => counted, fun a _ => ⟨?_, fun _ => trivial⟩⟩
  intro c _
  refine wp_nonNullOr.mpr ⟨fun _ => counted, ?_⟩
  intro l _
  refine wp_rejectIfNull.mpr ⟨fun _ => counted, ?_⟩
  intro out _
  refine wp_someOr.mpr ⟨?_, fun _ => counted⟩
  intro server _
  refine wp_mayPanic.mpr ⟨?_, fun _ => counted⟩
  intro name _
  cases name <;> simp [counted, wp_ite]

end RustlsFfi.Lifetime
