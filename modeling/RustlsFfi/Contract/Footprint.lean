import RustlsFfi.Model.Api
import RustlsFfi.Model.Rules

/-!
# What a call may change

A call changes the object it gets by a mutable pointer and the output locations it is given. It takes
over an object only in the functions that free or build, and makes a new one only in those that create
one. What is behind an `Arc` never changes. `process_new_packets` is left out once it runs callbacks,
which make calls of their own.
-/

namespace RustlsFfi.Contract
open Control Counting

variable {Conn S τ : Type} {w : World Conn S}

inductive BoxKind where
  | clientBuilder
  | serverBuilder
  | store
  | conn
  deriving DecidableEq, Repr

/-- The objects passed by a mutable pointer and whether the call takes them over, the kind of object
it makes, its output locations, and whether it runs an I/O callback. -/
structure Footprint where
  clientBuilder : Ptr := none
  serverBuilder : Ptr := none
  store : Ptr := none
  conn : Ptr := none
  consumes : Bool := false
  creates : Option BoxKind := none
  outs : List Ptr := []
  callbacks : Bool := false

def footprint : Call S → Footprint
  | .error _ buf _ outN => { outs := [buf, outN] }
  | .certificateGetDer _ outDerData outDerLen => { outs := [outDerData, outDerLen] }
  | .certifiedKeyBuild _ _ _ _ certifiedKeyOut => { outs := [certifiedKeyOut] }
  | .certifiedKeyCloneWithOcsp _ _ clonedKeyOut => { outs := [clonedKeyOut] }
  | .rootCertStoreNew => { creates := some .store }
  | .rootCertStoreAddPem store _ _ _ => { store := store }
  | .rootCertStoreFree store => { store := store, consumes := true }
  | .connectionSetUserdata conn _ => { conn := conn }
  | .connectionSetLogCallback conn _ => { conn := conn }
  | .connectionReadTls conn _ _ outN => { conn := conn, outs := [outN], callbacks := true }
  | .connectionWriteTls conn _ _ outN => { conn := conn, outs := [outN], callbacks := true }
  | .connectionWriteTlsVectored conn _ _ outN => { conn := conn, outs := [outN], callbacks := true }
  | .connectionSetBufferLimit conn _ => { conn := conn }
  | .connectionSendCloseNotify conn => { conn := conn }
  | .connectionGetAlpnProtocol _ protocolOut protocolOutLen => { outs := [protocolOut, protocolOutLen] }
  | .connectionWrite conn _ _ outN => { conn := conn, outs := [outN] }
  | .connectionRead conn buf _ outN => { conn := conn, outs := [buf, outN] }
  | .connectionRead2 conn buf _ outN => { conn := conn, outs := [buf, outN] }
  | .connectionFree conn => { conn := conn, consumes := true }
  | .clientConfigBuilderNew => { creates := some .clientBuilder }
  | .clientConfigBuilderNewCustom _ _ _ _ builderOut =>
    { creates := some .clientBuilder, outs := [builderOut] }
  | .clientConfigBuilderDangerousSetCertificateVerifier builder _ => { clientBuilder := builder }
  | .clientConfigBuilderUseRoots builder _ => { clientBuilder := builder }
  | .clientConfigBuilderLoadRootsFromFile builder _ => { clientBuilder := builder }
  | .clientConfigBuilderSetAlpnProtocols builder _ _ => { clientBuilder := builder }
  | .clientConfigBuilderSetEnableSni builder _ => { clientBuilder := builder }
  | .clientConfigBuilderSetCertifiedKey builder _ _ => { clientBuilder := builder }
  | .clientConfigBuilderBuild builder => { clientBuilder := builder, consumes := true }
  | .clientConfigBuilderFree builder => { clientBuilder := builder, consumes := true }
  | .clientConnectionNew _ _ connOut => { creates := some .conn, outs := [connOut] }
  | .serverConfigBuilderNew => { creates := some .serverBuilder }
  | .serverConfigBuilderNewCustom _ _ _ _ builderOut =>
    { creates := some .serverBuilder, outs := [builderOut] }
  | .serverConfigBuilderSetClientVerifier builder _ => { serverBuilder := builder }
  | .serverConfigBuilderSetClientVerifierOptional builder _ => { serverBuilder := builder }
  | .serverConfigBuilderSetIgnoreClientOrder builder _ => { serverBuilder := builder }
  | .serverConfigBuilderSetAlpnProtocols builder _ _ => { serverBuilder := builder }
  | .serverConfigBuilderSetCertifiedKeys builder _ _ => { serverBuilder := builder }
  | .serverConfigBuilderSetHelloCallback builder _ => { serverBuilder := builder }
  | .serverConfigBuilderSetPersistence builder _ _ => { serverBuilder := builder }
  | .serverConfigBuilderBuild builder => { serverBuilder := builder, consumes := true }
  | .serverConfigBuilderFree builder => { serverBuilder := builder, consumes := true }
  | .serverConnectionNew _ connOut => { creates := some .conn, outs := [connOut] }
  | .serverConnectionGetSniHostname _ buf _ outN => { outs := [buf, outN] }
  | .clientHelloSelectCertifiedKey _ _ _ outKey => { outs := [outKey] }
  | _ => {}

/-! ### The frame -/

/-- The caller's memory outside the given locations is as it was. -/
def Cells.SameOutside (outs : List Ptr) (c c' : Cells) : Prop :=
  ∀ l, some l ∉ outs → c'.size l = c.size l ∧ c'.ptr l = c.ptr l ∧ c'.buf l = c.buf l ∧ c'.data l = c.data l

/-- `w'` differs from `w` only within the footprint. Counts are not part of this. -/
structure Frame (f : Footprint) (w w' : World Conn S) : Prop where
  clientBuilders : Arena.Kept f.clientBuilder f.consumes (f.creates = some .clientBuilder)
    w.clientBuilders w'.clientBuilders
  serverBuilders : Arena.Kept f.serverBuilder f.consumes (f.creates = some .serverBuilder)
    w.serverBuilders w'.serverBuilders
  stores : Arena.Kept f.store f.consumes (f.creates = some .store) w.stores w'.stores
  conns : Arena.Kept f.conn f.consumes (f.creates = some .conn) w.conns w'.conns
  values : w.arcs.map Cell.value <+: w'.arcs.map Cell.value
  cells : Cells.SameOutside f.outs w.cells w'.cells
  userdata : w'.userdata = w.userdata
  app : f.callbacks = false → w'.app = w.app

section
variable {f : Footprint} {w w₁ : World Conn S}

@[simp] theorem Cells.SameOutside.refl (outs : List Ptr) (c : Cells) : Cells.SameOutside outs c c :=
  fun _ _ => ⟨rfl, rfl, rfl, rfl⟩

@[simp] theorem Frame.refl : Frame f w w :=
  ⟨.refl, .refl, .refl, .refl, List.prefix_rfl, .refl _ _, rfl, fun _ => rfl⟩

/-- Counts move, the values stay. -/
theorem Frame.arcs {h : Heap} (frame : Frame f w w₁) (same : ∀ b, valueAt h b = valueAt w₁.arcs b) :
    Frame f w { w₁ with arcs := h } :=
  { frame with values := by rw [values_eq same]; exact frame.values }

theorem Frame.retain (frame : Frame f w w₁) (a : Addr) : Frame f w (w₁.retain a) :=
  frame.arcs (valueAt_retain _ _)

theorem Frame.retainAll (frame : Frame f w w₁) (keys : List Addr) :
    Frame f w (keys.foldl (fun w key => w.retain key) w₁) := by
  induction keys generalizing w₁ with
  | nil => exact frame
  | cons a keys ih => exact ih (frame.retain a)

theorem Frame.dropFromRaw (frame : Frame f w w₁) (T : ArcType) (a : Addr) :
    Frame f w (w₁.dropFromRaw T a) :=
  frame.arcs (valueAt_release _ _ _ _)

theorem Frame.dropArc (frame : Frame f w w₁) (a : Addr) : Frame f w (w₁.dropArc a) :=
  frame.arcs (valueAt_release _ _ _ _)

theorem Frame.dropArcs (frame : Frame f w w₁) (l : List Addr) : Frame f w (w₁.dropArcs l) := by
  induction l generalizing w₁ with
  | nil => exact frame
  | cons a l ih => exact ih (frame.dropArc a)

theorem Frame.newArc (frame : Frame f w w₁) (v : ArcValue) :
    Frame f w { w₁ with arcs := Counting.alloc w₁.arcs v } :=
  { frame with values := frame.values.trans (by simp [Counting.alloc]) }

theorem Frame.written {c : Cells} (frame : Frame f w w₁) (same : Cells.SameOutside f.outs w₁.cells c) :
    Frame f w { w₁ with cells := c } where
  __ := frame
  cells l outside := by
    obtain ⟨size, ptr, buf, data⟩ := frame.cells l outside
    obtain ⟨size', ptr', buf', data'⟩ := same l outside
    exact ⟨size'.trans size, ptr'.trans ptr, buf'.trans buf, data'.trans data⟩

theorem ne_of_outside {outs : List Ptr} {k l : Addr} (out : some l ∈ outs) (outside : some k ∉ outs) : k ≠ l :=
  fun same => outside (same ▸ out)

theorem Frame.size (frame : Frame f w w₁) {l : Addr} (out : some l ∈ f.outs) (n : Nat) :
    Frame f w { w₁ with cells.size := Function.update w₁.cells.size l n } :=
  frame.written fun k outside => by simp [ne_of_outside out outside]

theorem Frame.ptr (frame : Frame f w w₁) {l : Addr} (out : some l ∈ f.outs) (p : Ptr) :
    Frame f w { w₁ with cells.ptr := Function.update w₁.cells.ptr l p } :=
  frame.written fun k outside => by simp [ne_of_outside out outside]

theorem Frame.buf (frame : Frame f w w₁) {l : Addr} (out : some l ∈ f.outs) (b : Bytes) :
    Frame f w { w₁ with cells.buf := Function.update w₁.cells.buf l b } :=
  frame.written fun k outside => by simp [ne_of_outside out outside]

theorem Frame.data (frame : Frame f w w₁) {l : Addr} (out : some l ∈ f.outs) (d : Option Bytes) :
    Frame f w { w₁ with cells.data := Function.update w₁.cells.data l d } :=
  frame.written fun k outside => by simp [ne_of_outside out outside]

theorem Frame.appMoves (frame : Frame f w w₁) (callbacks : f.callbacks = true) (s : S) :
    Frame f w { w₁ with app := s } where
  __ := frame
  app quiet := by simp [callbacks] at quiet

/-! Each of these finds the arena still as it was. -/

theorem Frame.putConn {a : Addr} {c : Connection Conn} (new : Connection Conn) (given : f.conn = some a)
    (live : Arena.get w.conns a = some c) : Frame f w (w.putConn a new) where
  __ := Frame.refl
  conns := .put new given live

theorem Frame.putStore {a : Addr} {r : RootCertStore} (new : RootCertStore) (given : f.store = some a)
    (live : Arena.get w.stores a = some r) : Frame f w { w with stores := Arena.put w.stores a new } where
  __ := Frame.refl
  stores := .put new given live

theorem Frame.putClientBuilder {b : Addr} {old : ClientConfigBuilder} (new : ClientConfigBuilder)
    (given : f.clientBuilder = some b) (frame : Frame f w w₁) (same : w₁.clientBuilders = w.clientBuilders)
    (live : Arena.get w.clientBuilders b = some old) : Frame f w (w₁.putClientBuilder b new) where
  __ := frame
  clientBuilders := by
    rw [World.putClientBuilder, same]
    exact .put new given live

theorem Frame.putServerBuilder {b : Addr} {old : ServerConfigBuilder} (new : ServerConfigBuilder)
    (given : f.serverBuilder = some b) (frame : Frame f w w₁) (same : w₁.serverBuilders = w.serverBuilders)
    (live : Arena.get w.serverBuilders b = some old) : Frame f w (w₁.putServerBuilder b new) where
  __ := frame
  serverBuilders := by
    rw [World.putServerBuilder, same]
    exact .put new given live

theorem Frame.newConn {c : Connection Conn} (frame : Frame f w w₁) (same : w₁.conns = w.conns)
    (creates : f.creates = some .conn) : Frame f w { w₁ with conns := Arena.alloc w₁.conns c } where
  __ := frame
  conns := by
    rw [same]
    exact .alloc c (by simp [creates])

end

/-! ### Function by function -/

/-- Whichever way it returns, the call has changed nothing outside `f`. -/
abbrev Stays {ρ : Type} (f : Footprint) (w : World Conn S) (o : Outcome ρ × World Conn S) : Prop :=
  Ends o (Returns fun _ w' => Frame f w w')

section
variable {f : Footprint} {R : Rustls Conn S}

theorem freeArc_stays {as : ArcValue → Option τ} {T : ArcType} {p : Ptr} :
    Stays f w (ffiPanicBoundary (do
      let (a, _) ← tryRefFromArc as p
      .modify (·.dropFromRaw T a) : Body Conn S Unit Unit) w) := by
  simp [Frame.refl.dropFromRaw]

theorem error_stays (result : UInt32) (buf : Ptr) (len : Nat) (outN : Ptr) :
    Stays { outs := [buf, outN] } w (rustlsError R result buf len outN w) := by
  simp only [rustlsError, rustlsErrorOn, ends_boundary, wp_bind]
  refine wp_nonNullOr.mpr ⟨fun _ => .refl, ?_⟩
  rintro l rfl
  refine wp_rejectIfNull.mpr ⟨fun _ => .refl, ?_⟩
  rintro n rfl
  exact (Frame.refl.buf (by simp) _).size (by simp) _

theorem certificateGetDer_stays (cert : Option CertificatePtr) (outDerData outDerLen : Ptr) :
    Stays { outs := [outDerData, outDerLen] } w (rustlsCertificateGetDer R cert outDerData outDerLen w) := by
  simp only [rustlsCertificateGetDer, ends_boundary, wp_bind]
  refine wp_tryCertificate.mpr ⟨fun _ => .refl, fun cert _ => ⟨?_, fun _ => trivial⟩⟩
  intro cert _
  refine wp_rejectIfNull.mpr ⟨fun _ => .refl, ?_⟩
  rintro data rfl
  refine wp_rejectIfNull.mpr ⟨fun _ => .refl, ?_⟩
  rintro len rfl
  exact (Frame.refl.data (by simp) _).size (by simp) _

theorem supportedCiphersuiteGetName_stays (suite : Option SupportedCipherSuite) :
    Stays f w (rustlsSupportedCiphersuiteGetName R suite w) := by
  simp only [rustlsSupportedCiphersuiteGetName, ends_bare, wp_bind]
  refine wp_tryRef.mpr ⟨fun _ => .refl, ?_⟩
  intro suite _
  dsimp only [Post.onNext]
  split <;> exact Frame.refl

theorem certifiedKeyBuild_stays (certChain : Option Bytes) (certChainLen : Nat) (privateKey : Option Bytes)
    (privateKeyLen : Nat) (out : Ptr) :
    Stays { outs := [out] } w
      (rustlsCertifiedKeyBuild R certChain certChainLen privateKey privateKeyLen out w) := by
  have checks := certifiedKeyBuild_looks (w := w) R certChain certChainLen privateKey privateKeyLen
    (.inl trivial)
  simp only [rustlsCertifiedKeyBuild, ends_boundary, wp_bind]
  refine wp_rejectIfNull.mpr ⟨fun _ => .refl, ?_⟩
  rintro l rfl
  refine checks.wp ?_ (fun _ _ => .refl) (fun _ _ => .refl) .refl (fun _ _ => trivial)
  intro key
  exact (Frame.refl.newArc _).ptr (by simp) _

theorem certifiedKeyCloneWithOcsp_stays (certifiedKey : Ptr) (ocspResponse : Option RustlsSliceBytes)
    (out : Ptr) :
    Stays { outs := [out] } w (rustlsCertifiedKeyCloneWithOcsp certifiedKey ocspResponse out w) := by
  simp only [rustlsCertifiedKeyCloneWithOcsp, ends_boundary, wp_bind]
  refine wp_rejectIfNull.mpr ⟨fun _ => .refl, ?_⟩
  rintro l rfl
  have new (v : ArcValue) : Frame { outs := [some l] } w { w with
      arcs := Counting.alloc w.arcs v
      cells.ptr := Function.update w.cells.ptr l (some w.arcs.length) } :=
    (Frame.refl.newArc v).ptr (by simp) _
  refine wp_tryRefFromArc.mpr ⟨fun _ => .refl, fun a _ => ⟨?_, fun _ => trivial⟩⟩
  intro key _
  cases ocspResponse <;> simp [new]

theorem rootCertStoreAddPem_stays (store : Ptr) (pem : Option Bytes) (pemLen : Nat) (strict : Bool) :
    Stays { store := store } w (rustlsRootCertStoreAddPem R store pem pemLen strict w) := by
  simp only [rustlsRootCertStoreAddPem, ends_boundary, wp_bind]
  refine wp_trySlice.mpr ⟨fun _ => .refl, fun l _ => ⟨?_, fun _ => trivial⟩⟩
  intro _
  refine wp_tryFromPtr.mpr ⟨fun _ => .refl, fun a given => ⟨?_, fun _ => trivial⟩⟩
  intro r live
  have added (new : RootCertStore) := Frame.putStore (f := { store := store }) new given live
  simp [wp_ite, added]

theorem rootCertStoreFree_stays (store : Ptr) :
    Stays { store := store, consumes := true } w (rustlsRootCertStoreFree store w) := by
  simp only [rustlsRootCertStoreFree, ends_boundary, wp_bind]
  refine wp_tryFromPtr.mpr ⟨fun _ => .refl, fun a given => ⟨?_, fun _ => trivial⟩⟩
  intro r _
  exact { Frame.refl with stores := .free given rfl }

theorem clientCertVerifierNew_stays (value : RootCertStore → ArcValue) (store : Ptr) :
    Stays f w (clientCertVerifierNew value store w) := by
  simp [clientCertVerifierNew, Frame.refl.newArc]

/-! `connection.rs` -/

theorem setUserdata_stays (conn : Ptr) (userdata : VoidPtr) :
    Stays { conn := conn } w (rustlsConnectionSetUserdata conn userdata w) := by
  simp only [rustlsConnectionSetUserdata, ends_bare, wp_bind]
  refine wp_tryFromPtr.mpr ⟨fun _ => .refl, fun a given => ⟨?_, fun _ => trivial⟩⟩
  intro c live
  exact .putConn _ given live

theorem setLogCallback_stays (conn : Ptr) (cb : Option FnPtr) :
    Stays { conn := conn } w (rustlsConnectionSetLogCallback conn cb w) := by
  simp only [rustlsConnectionSetLogCallback, ends_bare, wp_bind]
  refine wp_tryFromPtr.mpr ⟨fun _ => .refl, fun a given => ⟨?_, fun _ => trivial⟩⟩
  intro c live
  exact .putConn _ given live

theorem setBufferLimit_stays (conn : Ptr) (n : Nat) :
    Stays { conn := conn } w (rustlsConnectionSetBufferLimit R conn n w) := by
  simp only [rustlsConnectionSetBufferLimit, ends_boundary, wp_bind]
  refine wp_tryFromPtr.mpr ⟨fun _ => .refl, fun a given => ⟨?_, fun _ => trivial⟩⟩
  intro c live
  refine wp_mayPanic.mpr ⟨?_, fun _ => .refl⟩
  intro conn _
  exact .putConn _ given live

theorem sendCloseNotify_stays (conn : Ptr) :
    Stays { conn := conn } w (rustlsConnectionSendCloseNotify R conn w) := by
  simp only [rustlsConnectionSendCloseNotify, ends_boundary, wp_bind]
  refine wp_tryFromPtr.mpr ⟨fun _ => .refl, fun a given => ⟨?_, fun _ => trivial⟩⟩
  intro c live
  refine wp_mayPanic.mpr ⟨?_, fun _ => .refl⟩
  intro conn _
  exact .putConn _ given live

/-- The functions that move TLS bytes, over what they have in common. -/
theorem moveTls_stays {κ : Type} (g : Connection Conn → κ → S → Res IoError Nat × Conn × S)
    (conn : Ptr) (callback : Option κ) (outN : Ptr) :
    Stays { conn := conn, outs := [outN], callbacks := true } w (ffiPanicBoundary (do
      let (a, c) ← tryFromPtr World.conns conn
      rejectIfNull outN ⟨EINVAL⟩
      let callback ← tryRef callback
      let n ← okOr IoError.toIoResult (← .call (onConn a c (g c callback)))
      writeSize outN n
      pure ⟨0⟩) w) := by
  simp only [ends_boundary, wp_bind]
  refine wp_tryFromPtr.mpr ⟨fun _ => .refl, fun a given => ⟨?_, fun _ => trivial⟩⟩
  intro c live
  refine wp_rejectIfNull.mpr ⟨fun _ => .refl, ?_⟩
  rintro l rfl
  refine wp_tryRef.mpr ⟨fun _ => .refl, ?_⟩
  intro callback _
  have driven (conn' : Conn) (s : S) : Frame { conn := conn, outs := [some l], callbacks := true } w
      { w.putConn a { c with conn := conn' } with app := s } :=
    (Frame.putConn _ given live).appMoves rfl s
  refine wp_onConn.mpr ⟨?_, ?_, ?_⟩
  · intro n conn' s _
    exact (driven conn' s).size (by simp) n
  · intro e conn' s _
    exact driven conn' s
  · intro conn' s _
    exact driven conn' s

theorem readTls_stays (conn : Ptr) (callback : Option (ReadCallback S)) (userdata : VoidPtr) (outN : Ptr) :
    Stays { conn := conn, outs := [outN], callbacks := true } w
      (rustlsConnectionReadTls R conn callback userdata outN w) :=
  moveTls_stays (fun c callback => R.readTls c.conn (CallbackReader.read ⟨callback, userdata⟩)) conn
    callback outN

theorem writeTls_stays {κ : Type} (writer : κ → Writer S) (conn : Ptr) (callback : Option κ) (outN : Ptr) :
    Stays { conn := conn, outs := [outN], callbacks := true } w (writeTls R writer conn callback outN w) :=
  moveTls_stays (fun c callback => R.writeTls c.conn (writer callback)) conn callback outN

theorem askConn_stays {ρ : Type} [NullParameterOrDefault ρ] [PanicOrDefault ρ]
    {g : Connection Conn → Body Conn S ρ ρ} (conn : Ptr)
    (asks : ∀ c, Looks (fun _ => True) (fun _ => True) True (g c) w) : Stays f w (askConn conn g w) := by
  simp only [askConn, ends_boundary, wp_bind]
  refine wp_tryFromPtr.mpr ⟨fun _ => .refl, fun a _ => ⟨?_, fun _ => trivial⟩⟩
  intro c _
  exact (asks c).wp (fun _ => .refl) (fun _ _ => .refl) (fun _ _ => .refl) .refl (fun _ _ => trivial)

theorem getAlpnProtocol_stays (conn protocolOut protocolOutLen : Ptr) :
    Stays { outs := [protocolOut, protocolOutLen] } w
      (rustlsConnectionGetAlpnProtocol R conn protocolOut protocolOutLen w) := by
  simp only [rustlsConnectionGetAlpnProtocol, ends_boundary, wp_bind]
  refine wp_tryFromPtr.mpr ⟨fun _ => .refl, fun a _ => ⟨?_, fun _ => trivial⟩⟩
  intro c _
  refine wp_rejectIfNull.mpr ⟨fun _ => .refl, ?_⟩
  rintro data rfl
  refine wp_rejectIfNull.mpr ⟨fun _ => .refl, ?_⟩
  rintro len rfl
  refine wp_mayPanic.mpr ⟨?_, fun _ => .refl⟩
  intro protocol _
  have written (d : Option Bytes) (n : Nat) : Frame { outs := [some data, some len] } w { w with
      cells.data := Function.update w.cells.data data d
      cells.size := Function.update w.cells.size len n } :=
    (Frame.refl.data (by simp) d).size (by simp) n
  cases protocol <;> simp [written]

theorem write_stays (conn : Ptr) (buf : Option Bytes) (count : Nat) (outN : Ptr) :
    Stays { conn := conn, outs := [outN] } w (rustlsConnectionWrite R conn buf count outN w) := by
  simp only [rustlsConnectionWrite, ends_boundary, wp_bind]
  refine wp_tryFromPtr.mpr ⟨fun _ => .refl, fun a given => ⟨?_, fun _ => trivial⟩⟩
  intro c live
  refine wp_trySlice.mpr ⟨fun _ => .refl, fun l _ => ⟨?_, fun _ => trivial⟩⟩
  intro _
  refine wp_rejectIfNull.mpr ⟨fun _ => .refl, ?_⟩
  rintro n rfl
  have driven (conn' : Conn) : Frame { conn := conn, outs := [some n] } w
      (w.putConn a { c with conn := conn' }) := .putConn _ given live
  refine wp_callPure.mpr ⟨?_, fun _ _ => driven _, fun _ => driven _⟩
  intro k _
  exact (driven _).size (by simp) k

theorem readPlaintext_stays (read : Conn → Bytes → Res IoError Nat × Bytes × Conn) (conn buf : Ptr)
    (count : Nat) (outN : Ptr) :
    Stays { conn := conn, outs := [buf, outN] } w (readPlaintext read conn buf count outN w) := by
  simp only [readPlaintext, ends_boundary, wp_bind]
  refine wp_tryFromPtr.mpr ⟨fun _ => .refl, fun a given => ⟨?_, fun _ => trivial⟩⟩
  intro c live
  refine wp_nonNullOr.mpr ⟨fun _ => .refl, ?_⟩
  rintro l rfl
  refine wp_rejectIfNull.mpr ⟨fun _ => .refl, ?_⟩
  rintro n rfl
  refine wp_fromRawParts.mpr ⟨?_, fun _ => trivial⟩
  intro _
  have driven (conn' : Conn) : Frame { conn := conn, outs := [some l, some n] } w
      (w.putConn a { c with conn := conn' }) := .putConn _ given live
  have copied (conn' : Conn) (b : Bytes) := (driven conn').buf (l := l) (by simp) b
  refine wp_callPure.mpr ⟨?_, fun _ _ => copied _ _, fun _ => copied _ _⟩
  intro k _
  exact (copied _ _).size (by simp) k

theorem connectionFree_stays (conn : Ptr) :
    Stays { conn := conn, consumes := true } w (rustlsConnectionFree conn w) := by
  simp only [rustlsConnectionFree, ends_boundary, wp_bind]
  refine wp_tryFromPtr.mpr ⟨fun _ => .refl, fun a given => ⟨?_, fun _ => trivial⟩⟩
  intro c _
  have gone : Frame { conn := conn, consumes := true } w { w with conns := Arena.free w.conns a } :=
    { Frame.refl with conns := .free given rfl }
  exact gone.dropArcs c.refs

theorem getSniHostname_stays (conn buf : Ptr) (count : Nat) (outN : Ptr) :
    Stays { outs := [buf, outN] } w (rustlsServerConnectionGetSniHostname R conn buf count outN w) := by
  simp only [rustlsServerConnectionGetSniHostname, ends_boundary, wp_bind]
  refine wp_tryFromPtr.mpr ⟨fun _ => .refl, fun a _ => ⟨?_, fun _ => trivial⟩⟩
  intro c _
  refine wp_nonNullOr.mpr ⟨fun _ => .refl, ?_⟩
  rintro l rfl
  refine wp_rejectIfNull.mpr ⟨fun _ => .refl, ?_⟩
  rintro n rfl
  have sized (k : Nat) : Frame { outs := [some l, some n] } w
      { w with cells.size := Function.update w.cells.size n k } := Frame.refl.size (by simp) k
  refine wp_someOr.mpr ⟨?_, fun _ => .refl⟩
  intro server _
  refine wp_mayPanic.mpr ⟨?_, fun _ => .refl⟩
  intro name _
  cases name with
  | none => exact sized 0
  | some name =>
    refine wp_ite.mpr ⟨fun _ => sized 0, fun _ => ?_⟩
    exact (Frame.refl.buf (by simp) _).size (by simp) _

/-! `client.rs` -/

/-- The loop over keys moves counts only. -/
theorem collectKeys_stays (l : List Ptr) (keys : List Addr) :
    wp (collectKeys l keys)
      { next := fun _ w' => (∃ h, w' = { w with arcs := h }) ∧ Frame f w w'
        ret := fun _ w' => Frame f w w'
        rejected := fun _ w' => Frame f w w'
        panic := fun w' => Frame f w w'
        fault := fun _ _ => True } w := by
  induction l generalizing keys w with
  | nil => exact ⟨⟨w.arcs, rfl⟩, .refl⟩
  | cons p rest ih =>
    simp only [collectKeys, wp_bind, wp_inScope]
    refine wp_tryArcFromPtr.mpr ⟨fun _ => Frame.refl.dropArcs keys, fun a _ => ⟨?_, fun _ => trivial⟩⟩
    intro v _
    have back {w' : World Conn S} (frame : Frame f (w.retain a) w') : Frame f w w' :=
      { frame with values := by rw [← values_eq (valueAt_retain w.arcs a)]; exact frame.values }
    refine wp_mono (ih (keys ++ [a])) ?_ (fun _ _ => back) (fun _ _ => back) (fun _ => back)
      (fun _ _ _ => trivial)
    rintro keys' w' ⟨⟨h, rfl⟩, frame⟩
    exact ⟨⟨h, rfl⟩, back frame⟩

theorem clientConfigBuilderNewCustom_stays (cipherSuites : Option (List (Option SupportedCipherSuite)))
    (cipherSuitesLen : Nat) (tlsVersions : Option (List UInt16)) (tlsVersionsLen : Nat) (builderOut : Ptr) :
    Stays { creates := some .clientBuilder, outs := [builderOut] } w (rustlsClientConfigBuilderNewCustom R
      cipherSuites cipherSuitesLen tlsVersions tlsVersionsLen builderOut w) := by
  refine ends_newCustom (fun _ _ => .refl) .refl (fun _ _ => trivial) fun base => ?_
  rintro l rfl
  have new : Frame { creates := some .clientBuilder, outs := [some l] } w
      { w with clientBuilders := Arena.alloc w.clientBuilders (.new base) } :=
    { Frame.refl with clientBuilders := .alloc _ (by simp) }
  exact new.ptr (by simp) _

theorem dangerousSetCertificateVerifier_stays (builder : Ptr) (callback : Option FnPtr) :
    Stays { clientBuilder := builder } w
      (rustlsClientConfigBuilderDangerousSetCertificateVerifier builder callback w) := by
  simp only [rustlsClientConfigBuilderDangerousSetCertificateVerifier, ends_boundary, wp_bind]
  refine wp_tryFromPtr.mpr ⟨fun _ => .refl, fun b given => ⟨?_, fun _ => trivial⟩⟩
  intro old live
  refine wp_nonNullOr.mpr ⟨fun _ => .refl, ?_⟩
  intro callback _
  exact .putClientBuilder _ given .refl rfl live

theorem useRoots_stays (builder roots : Ptr) :
    Stays { clientBuilder := builder } w (rustlsClientConfigBuilderUseRoots builder roots w) := by
  simp only [rustlsClientConfigBuilderUseRoots, ends_boundary, wp_bind]
  refine wp_tryFromPtr.mpr ⟨fun _ => .refl, fun b given => ⟨?_, fun _ => trivial⟩⟩
  intro old live
  refine wp_tryFromPtr.mpr ⟨fun _ => .refl, fun a _ => ⟨?_, fun _ => trivial⟩⟩
  intro store _
  exact .putClientBuilder _ given .refl rfl live

theorem loadRootsFromFile_stays (builder : Ptr) (filename : Option Bytes) :
    Stays { clientBuilder := builder } w
      (rustlsClientConfigBuilderLoadRootsFromFile R builder filename w) := by
  simp only [rustlsClientConfigBuilderLoadRootsFromFile, ends_boundary, wp_bind]
  refine wp_tryFromPtr.mpr ⟨fun _ => .refl, fun b given => ⟨?_, fun _ => trivial⟩⟩
  intro old live
  have put (new : ClientConfigBuilder) : Frame { clientBuilder := builder } w (w.putClientBuilder b new) :=
    .putClientBuilder new given .refl rfl live
  simp [wp_ite, put]

theorem clientSetAlpnProtocols_stays (builder : Ptr) (protocols : Option (List RustlsSliceBytes))
    (len : Nat) :
    Stays { clientBuilder := builder } w
      (rustlsClientConfigBuilderSetAlpnProtocols builder protocols len w) :=
  ends_setAlpnProtocols (fun _ _ => .refl) .refl (fun _ _ => trivial)
    fun _ _ _ given live => .putClientBuilder _ given .refl rfl live

theorem setEnableSni_stays (builder : Ptr) (enable : Bool) :
    Stays { clientBuilder := builder } w (rustlsClientConfigBuilderSetEnableSni builder enable w) := by
  simp only [rustlsClientConfigBuilderSetEnableSni, ends_boundary, wp_bind]
  refine wp_tryFromPtr.mpr ⟨fun _ => .refl, fun b given => ⟨?_, fun _ => trivial⟩⟩
  intro old live
  exact .putClientBuilder _ given .refl rfl live

theorem setCertifiedKey_stays (builder : Ptr) (certifiedKeys : Option (List Ptr)) (certifiedKeysLen : Nat) :
    Stays { clientBuilder := builder } w
      (rustlsClientConfigBuilderSetCertifiedKey builder certifiedKeys certifiedKeysLen w) := by
  simp only [rustlsClientConfigBuilderSetCertifiedKey, ends_boundary, wp_bind]
  refine wp_tryFromPtr.mpr ⟨fun _ => .refl, fun b given => ⟨?_, fun _ => trivial⟩⟩
  intro old live
  refine wp_trySlice.mpr ⟨fun _ => .refl, fun l _ => ⟨?_, fun _ => trivial⟩⟩
  intro _
  refine wp_mono (collectKeys_stays _ []) ?_ (fun _ _ h => h) (fun _ _ h => h) (fun _ h => h)
    (fun _ _ h => h)
  rintro keys w' ⟨⟨h, rfl⟩, collected⟩
  exact (Frame.putClientBuilder _ given collected rfl live).dropArcs old.refs

theorem clientConfigBuilderBuild_stays (builder : Ptr) :
    Stays { clientBuilder := builder, consumes := true } w (rustlsClientConfigBuilderBuild builder w) := by
  simp only [rustlsClientConfigBuilderBuild, ends_boundary, wp_bind]
  refine wp_tryFromPtr.mpr ⟨fun _ => .refl, fun b given => ⟨?_, fun _ => trivial⟩⟩
  intro old _
  have gone : Frame { clientBuilder := builder, consumes := true } w
      { w with clientBuilders := Arena.free w.clientBuilders b } :=
    { Frame.refl with clientBuilders := .free given rfl }
  exact gone.newArc _

theorem clientConfigBuilderFree_stays (builder : Ptr) :
    Stays { clientBuilder := builder, consumes := true } w (rustlsClientConfigBuilderFree builder w) := by
  cases builder with
  | none => exact Frame.refl
  | some b =>
    simp only [rustlsClientConfigBuilderFree, ends_boundary, wp_bind]
    refine wp_tryFromPtr.mpr ⟨fun _ => .refl, fun b' given => ⟨?_, fun _ => trivial⟩⟩
    intro old _
    have gone : Frame { clientBuilder := some b, consumes := true } w
        { w with clientBuilders := Arena.free w.clientBuilders b' } :=
      { Frame.refl with clientBuilders := .free given rfl }
    exact gone.dropArcs old.refs

theorem setConnPtr_stays {ρ : Type} {f : Footprint} {w w₁ : World Conn S} {Q : Post (World Conn S) ρ Unit}
    {connOut : Ptr} (c : Connection Conn) (frame : Frame f w w₁) (same : w₁.conns = w.conns)
    (creates : f.creates = some .conn) (out : connOut ∈ f.outs)
    (next : ∀ w', Frame f w w' → Q.next () w') (null : ∀ w', Q.fault .nullDeref w') :
    wp (setConnPtr connOut c) Q w₁ := by
  refine wp_setConnPtr.mpr ⟨fun _ => null _, ?_⟩
  rintro l rfl
  exact next _ ((frame.newConn same creates).ptr out _)

theorem clientConnectionNew_stays (config : Ptr) (hostname : Option Bytes) (connOut : Ptr) :
    Stays { creates := some .conn, outs := [connOut] } w
      (rustlsClientConnectionNew R config hostname connOut w) := by
  simp only [rustlsClientConnectionNew, ends_boundary, wp_bind, wp_inScope]
  refine wp_tryRef.mpr ⟨fun _ => .refl, ?_⟩
  intro host _
  refine wp_tryArcFromPtr.mpr ⟨fun _ => .refl, fun a _ => ⟨?_, fun _ => trivial⟩⟩
  intro value _
  have kept (c : Connection Conn) : wp (setConnPtr connOut c : Body Conn S RustlsResult Unit)
      ((Post.boundary (Returns fun _ w' => Frame { creates := some .conn, outs := [connOut] } w w')).onNext
        fun _ w' => Frame { creates := some .conn, outs := [connOut] } w w') (w.retain a) :=
    setConnPtr_stays c (Frame.refl.retain a) rfl rfl (by simp) (fun _ frame => frame) (fun _ => trivial)
  have dropped := (Frame.refl (f := { creates := some .conn, outs := [connOut] }) (w := w).retain a).dropArc a
  refine wp_someOr.mpr ⟨?_, fun _ => dropped⟩
  intro host _
  refine wp_someOr.mpr ⟨?_, fun _ => dropped⟩
  intro name _
  refine wp_callPure.mpr ⟨?_, fun _ _ => dropped, fun _ => dropped⟩
  intro conn _
  exact kept _

/-! `server.rs` -/

theorem serverConfigBuilderNewCustom_stays (cipherSuites : Option (List (Option SupportedCipherSuite)))
    (cipherSuitesLen : Nat) (tlsVersions : Option (List UInt16)) (tlsVersionsLen : Nat) (builderOut : Ptr) :
    Stays { creates := some .serverBuilder, outs := [builderOut] } w (rustlsServerConfigBuilderNewCustom R
      cipherSuites cipherSuitesLen tlsVersions tlsVersionsLen builderOut w) := by
  refine ends_newCustom (fun _ _ => .refl) .refl (fun _ _ => trivial) fun base => ?_
  rintro l rfl
  have new : Frame { creates := some .serverBuilder, outs := [some l] } w
      { w with serverBuilders := Arena.alloc w.serverBuilders (.new base) } :=
    { Frame.refl with serverBuilders := .alloc _ (by simp) }
  exact new.ptr (by simp) _

theorem setClientVerifier_stays (as : ArcValue → Option τ) (slot : Addr → ClientCertVerifier)
    (builder verifier : Ptr) :
    Stays { serverBuilder := builder } w (setClientVerifier as slot builder verifier w) := by
  simp only [setClientVerifier, ends_boundary, wp_bind]
  refine wp_tryFromPtr.mpr ⟨fun _ => .refl, fun b given => ⟨?_, fun _ => trivial⟩⟩
  intro old live
  refine wp_tryArcFromPtr.mpr ⟨fun _ => .refl, fun a _ => ⟨?_, fun _ => trivial⟩⟩
  intro v _
  exact (Frame.putServerBuilder _ given (Frame.refl.retain a) rfl live).dropArcs _

theorem setIgnoreClientOrder_stays (builder : Ptr) (ignore : Bool) :
    Stays { serverBuilder := builder } w
      (rustlsServerConfigBuilderSetIgnoreClientOrder builder ignore w) := by
  simp only [rustlsServerConfigBuilderSetIgnoreClientOrder, ends_boundary, wp_bind]
  refine wp_tryFromPtr.mpr ⟨fun _ => .refl, fun b given => ⟨?_, fun _ => trivial⟩⟩
  intro old live
  exact .putServerBuilder _ given .refl rfl live

theorem serverSetAlpnProtocols_stays (builder : Ptr) (protocols : Option (List RustlsSliceBytes))
    (len : Nat) :
    Stays { serverBuilder := builder } w
      (rustlsServerConfigBuilderSetAlpnProtocols builder protocols len w) :=
  ends_setAlpnProtocols (fun _ _ => .refl) .refl (fun _ _ => trivial)
    fun _ _ _ given live => .putServerBuilder _ given .refl rfl live

theorem setCertifiedKeys_stays (builder : Ptr) (certifiedKeys : Option (List Ptr)) (certifiedKeysLen : Nat) :
    Stays { serverBuilder := builder } w
      (rustlsServerConfigBuilderSetCertifiedKeys builder certifiedKeys certifiedKeysLen w) := by
  simp only [rustlsServerConfigBuilderSetCertifiedKeys, ends_boundary, wp_bind]
  refine wp_tryFromPtr.mpr ⟨fun _ => .refl, fun b given => ⟨?_, fun _ => trivial⟩⟩
  intro old live
  refine wp_trySlice.mpr ⟨fun _ => .refl, fun l _ => ⟨?_, fun _ => trivial⟩⟩
  intro _
  refine wp_mono (collectKeys_stays _ []) ?_ (fun _ _ h => h) (fun _ _ h => h) (fun _ h => h)
    (fun _ _ h => h)
  rintro keys w' ⟨⟨h, rfl⟩, collected⟩
  have doubled := collected.retainAll keys
  have same := retainAll_serverBuilders keys ({ w with arcs := h } : World Conn S)
  exact ((Frame.putServerBuilder _ given doubled same live).dropArcs _).dropArcs keys

theorem setHelloCallback_stays (builder : Ptr) (callback : Option FnPtr) :
    Stays { serverBuilder := builder } w
      (rustlsServerConfigBuilderSetHelloCallback builder callback w) := by
  simp only [rustlsServerConfigBuilderSetHelloCallback, ends_boundary, wp_bind]
  refine wp_tryRef.mpr ⟨fun _ => .refl, ?_⟩
  intro callback _
  refine wp_tryFromPtr.mpr ⟨fun _ => .refl, fun b given => ⟨?_, fun _ => trivial⟩⟩
  intro old live
  exact (Frame.putServerBuilder _ given .refl rfl live).dropArcs _

theorem setPersistence_stays (builder : Ptr) (getCb putCb : Option FnPtr) :
    Stays { serverBuilder := builder } w
      (rustlsServerConfigBuilderSetPersistence builder getCb putCb w) := by
  simp only [rustlsServerConfigBuilderSetPersistence, ends_boundary, wp_bind]
  refine wp_tryRef.mpr ⟨fun _ => .refl, ?_⟩
  intro getCb _
  refine wp_tryRef.mpr ⟨fun _ => .refl, ?_⟩
  intro putCb _
  refine wp_tryFromPtr.mpr ⟨fun _ => .refl, fun b given => ⟨?_, fun _ => trivial⟩⟩
  intro old live
  exact .putServerBuilder _ given .refl rfl live

theorem serverConfigBuilderBuild_stays (builder : Ptr) :
    Stays { serverBuilder := builder, consumes := true } w (rustlsServerConfigBuilderBuild R builder w) := by
  simp only [rustlsServerConfigBuilderBuild, ends_boundary, wp_bind]
  refine wp_tryFromPtr.mpr ⟨fun _ => .refl, fun b given => ⟨?_, fun _ => trivial⟩⟩
  intro old _
  have gone : Frame { serverBuilder := builder, consumes := true } w
      { w with serverBuilders := Arena.free w.serverBuilders b } :=
    { Frame.refl with serverBuilders := .free given rfl }
  cases slot : old.certResolver with
  | none => simpa [slot] using gone.dropArcs old.verifier.refs
  | some r => simpa [slot] using gone.newArc _

theorem serverConfigBuilderFree_stays (builder : Ptr) :
    Stays { serverBuilder := builder, consumes := true } w (rustlsServerConfigBuilderFree builder w) := by
  cases builder with
  | none => exact Frame.refl
  | some b =>
    simp only [rustlsServerConfigBuilderFree, ends_boundary, wp_bind]
    refine wp_tryFromPtr.mpr ⟨fun _ => .refl, fun b' given => ⟨?_, fun _ => trivial⟩⟩
    intro old _
    have gone : Frame { serverBuilder := some b, consumes := true } w
        { w with serverBuilders := Arena.free w.serverBuilders b' } :=
      { Frame.refl with serverBuilders := .free given rfl }
    exact gone.dropArcs old.refs

theorem serverConnectionNew_stays (config connOut : Ptr) :
    Stays { creates := some .conn, outs := [connOut] } w (rustlsServerConnectionNew R config connOut w) := by
  simp only [rustlsServerConnectionNew, ends_boundary, wp_bind, wp_inScope]
  refine wp_tryArcFromPtr.mpr ⟨fun _ => .refl, fun a _ => ⟨?_, fun _ => trivial⟩⟩
  intro value _
  have dropped := (Frame.refl (f := { creates := some .conn, outs := [connOut] }) (w := w).retain a).dropArc a
  refine wp_callPure.mpr ⟨?_, fun _ _ => dropped, fun _ => dropped⟩
  intro conn _
  exact setConnPtr_stays _ (Frame.refl.retain a) rfl rfl (by simp) (fun _ frame => frame) (fun _ => trivial)

theorem selectCertifiedKey_stays (schemes : List SignatureScheme) (outKey : Ptr) (keys : List Ptr) :
    wp (selectCertifiedKey R schemes outKey keys)
      (.boundary (Returns fun _ w' => Frame { outs := [outKey] } w w')) w := by
  induction keys with
  | nil => exact Frame.refl
  | cons p rest ih =>
    simp only [selectCertifiedKey, wp_bind]
    refine wp_tryRefFromArc.mpr ⟨fun _ => .refl, fun a _ => ⟨?_, fun _ => trivial⟩⟩
    intro key _
    refine wp_mayPanic.mpr ⟨?_, fun _ => .refl⟩
    intro chosen _
    refine wp_ite.mpr ⟨fun _ => ?_, fun _ => ih⟩
    refine wp_bind.mpr (wp_writePtr.mpr ⟨fun _ => trivial, ?_⟩)
    rintro l rfl
    exact Frame.refl.ptr (by simp) p

theorem clientHelloSelectCertifiedKey_stays (hello : Option RustlsClientHello)
    (certifiedKeys : Option (List Ptr)) (certifiedKeysLen : Nat) (outKey : Ptr) :
    Stays { outs := [outKey] } w
      (rustlsClientHelloSelectCertifiedKey R hello certifiedKeys certifiedKeysLen outKey w) := by
  simp only [rustlsClientHelloSelectCertifiedKey, ends_boundary, wp_bind]
  refine wp_tryRef.mpr ⟨fun _ => .refl, ?_⟩
  intro hello _
  refine wp_trySlice.mpr ⟨fun _ => .refl, fun schemes _ => ⟨?_, fun _ => trivial⟩⟩
  intro _
  refine wp_rejectIfNull.mpr ⟨fun _ => .refl, ?_⟩
  intro l _
  refine wp_trySlice.mpr ⟨fun _ => .refl, fun keys _ => ⟨?_, fun _ => trivial⟩⟩
  intro _
  exact selectCertifiedKey_stays _ outKey _

end

/-! ### All functions -/

theorem exec_stays (R : Rustls Conn S) (call : Call S)
    (outside : ∀ a, call = .connectionProcessNewPackets (some a) → ¬ w.userdata.Usable) :
    Ends (exec R call w) (Returns fun _ w' => Frame (footprint call) w w') := by
  cases call with
  | error result buf len outN => exact ends_as (error_stays result buf len outN)
  | certificateGetDer cert data len => exact ends_as (certificateGetDer_stays cert data len)
  | supportedCiphersuiteGetSuite suite => exact ends_as (by simp [rustlsSupportedCiphersuiteGetSuite])
  | supportedCiphersuiteGetName suite => exact ends_as (supportedCiphersuiteGetName_stays suite)
  | certifiedKeyBuild chain n key k out => exact ends_as (certifiedKeyBuild_stays chain n key k out)
  | certifiedKeyGetCertificate key i => exact ends_as (by simp [rustlsCertifiedKeyGetCertificate])
  | certifiedKeyCloneWithOcsp key ocsp out => exact ends_as (certifiedKeyCloneWithOcsp_stays key ocsp out)
  | certifiedKeyFree key => exact ends_as freeArc_stays
  | rootCertStoreNew => exact ends_as { Frame.refl with stores := .alloc _ (by simp [footprint]) }
  | rootCertStoreAddPem store pem n strict => exact ends_as (rootCertStoreAddPem_stays store pem n strict)
  | rootCertStoreFree store => exact ends_as (rootCertStoreFree_stays store)
  | clientCertVerifierNew store => exact ends_as (clientCertVerifierNew_stays _ store)
  | clientCertVerifierFree verifier => exact ends_as freeArc_stays
  | clientCertVerifierOptionalNew store => exact ends_as (clientCertVerifierNew_stays _ store)
  | clientCertVerifierOptionalFree verifier => exact ends_as freeArc_stays
  | connectionSetUserdata conn userdata => exact ends_as (setUserdata_stays conn userdata)
  | connectionSetLogCallback conn cb => exact ends_as (setLogCallback_stays conn cb)
  | connectionReadTls conn cb userdata out => exact ends_as (readTls_stays conn cb userdata out)
  | connectionWriteTls conn cb userdata out => exact ends_as (writeTls_stays _ conn cb out)
  | connectionWriteTlsVectored conn cb userdata out => exact ends_as (writeTls_stays _ conn cb out)
  | connectionProcessNewPackets conn =>
    cases conn with
    | none => exact Frame.refl
    | some a =>
      refine ends_as (ends_state ?_)
      rw [processNewPackets_refused (outside a rfl)]
      exact .refl
  | connectionWantsRead conn => exact ends_as (askConn_stays conn (by simp [Looks]))
  | connectionWantsWrite conn => exact ends_as (askConn_stays conn (by simp [Looks]))
  | connectionIsHandshaking conn => exact ends_as (askConn_stays conn (by simp [Looks]))
  | connectionSetBufferLimit conn n => exact ends_as (setBufferLimit_stays conn n)
  | connectionSendCloseNotify conn => exact ends_as (sendCloseNotify_stays conn)
  | connectionGetPeerCertificate conn i => exact ends_as (askConn_stays conn (by simp [Looks]))
  | connectionGetAlpnProtocol conn data len => exact ends_as (getAlpnProtocol_stays conn data len)
  | connectionGetProtocolVersion conn => exact ends_as (askConn_stays conn (by simp [Looks]))
  | connectionGetNegotiatedCiphersuite conn => exact ends_as (askConn_stays conn (by simp [Looks]))
  | connectionWrite conn buf n out => exact ends_as (write_stays conn buf n out)
  | connectionRead conn buf n out => exact ends_as (readPlaintext_stays _ conn buf n out)
  | connectionRead2 conn buf n out => exact ends_as (readPlaintext_stays _ conn buf n out)
  | connectionFree conn => exact ends_as (connectionFree_stays conn)
  | clientConfigBuilderNew =>
    exact ends_as { Frame.refl with clientBuilders := .alloc _ (by simp [footprint]) }
  | clientConfigBuilderNewCustom suites n versions k out =>
    exact ends_as (clientConfigBuilderNewCustom_stays suites n versions k out)
  | clientConfigBuilderDangerousSetCertificateVerifier builder cb =>
    exact ends_as (dangerousSetCertificateVerifier_stays builder cb)
  | clientConfigBuilderUseRoots builder roots => exact ends_as (useRoots_stays builder roots)
  | clientConfigBuilderLoadRootsFromFile builder name => exact ends_as (loadRootsFromFile_stays builder name)
  | clientConfigBuilderSetAlpnProtocols builder protocols n =>
    exact ends_as (clientSetAlpnProtocols_stays builder protocols n)
  | clientConfigBuilderSetEnableSni builder enable => exact ends_as (setEnableSni_stays builder enable)
  | clientConfigBuilderSetCertifiedKey builder keys n => exact ends_as (setCertifiedKey_stays builder keys n)
  | clientConfigBuilderBuild builder => exact ends_as (clientConfigBuilderBuild_stays builder)
  | clientConfigBuilderFree builder => exact ends_as (clientConfigBuilderFree_stays builder)
  | clientConfigFree config => exact ends_as freeArc_stays
  | clientConnectionNew config host out => exact ends_as (clientConnectionNew_stays config host out)
  | serverConfigBuilderNew =>
    exact ends_as { Frame.refl with serverBuilders := .alloc _ (by simp [footprint]) }
  | serverConfigBuilderNewCustom suites n versions k out =>
    exact ends_as (serverConfigBuilderNewCustom_stays suites n versions k out)
  | serverConfigBuilderSetClientVerifier builder verifier =>
    exact ends_as (setClientVerifier_stays _ _ builder verifier)
  | serverConfigBuilderSetClientVerifierOptional builder verifier =>
    exact ends_as (setClientVerifier_stays _ _ builder verifier)
  | serverConfigBuilderSetIgnoreClientOrder builder ignore =>
    exact ends_as (setIgnoreClientOrder_stays builder ignore)
  | serverConfigBuilderSetAlpnProtocols builder protocols n =>
    exact ends_as (serverSetAlpnProtocols_stays builder protocols n)
  | serverConfigBuilderSetCertifiedKeys builder keys n =>
    exact ends_as (setCertifiedKeys_stays builder keys n)
  | serverConfigBuilderSetHelloCallback builder cb => exact ends_as (setHelloCallback_stays builder cb)
  | serverConfigBuilderSetPersistence builder getCb putCb =>
    exact ends_as (setPersistence_stays builder getCb putCb)
  | serverConfigBuilderBuild builder => exact ends_as (serverConfigBuilderBuild_stays builder)
  | serverConfigBuilderFree builder => exact ends_as (serverConfigBuilderFree_stays builder)
  | serverConfigFree config => exact ends_as freeArc_stays
  | serverConnectionNew config out => exact ends_as (serverConnectionNew_stays config out)
  | serverConnectionGetSniHostname conn buf n out => exact ends_as (getSniHostname_stays conn buf n out)
  | clientHelloSelectCertifiedKey hello keys n out =>
    exact ends_as (clientHelloSelectCertifiedKey_stays hello keys n out)
  | sliceSliceBytesLen _ | sliceSliceBytesGet _ _ | sliceStrLen _ | sliceStrGet _ _
  | resultIsCertError _ | logLevelStr _ | version | allCiphersuitesLen | allCiphersuitesGetEntry _
  | defaultCiphersuitesLen | defaultCiphersuitesGetEntry _ => exact Frame.refl

/-! ### Sequences of calls -/

/-- The calls one after the other, as long as none is undefined behaviour. -/
def execAll (R : Rustls Conn S) : List (Call S) → World Conn S → Option (World Conn S)
  | [], w => some w
  | call :: rest, w =>
    match (exec R call w).1.value? with
    | some _ => execAll R rest (exec R call w).2
    | none => none

/-- `w'` differs from `w` only where one of the calls may change it. -/
structure Frames (calls : List (Call S)) (w w' : World Conn S) : Prop where
  clientBuilders : ∀ b v, (∀ call ∈ calls, (footprint call).clientBuilder ≠ some b) →
    Arena.get w.clientBuilders b = some v → Arena.get w'.clientBuilders b = some v
  serverBuilders : ∀ b v, (∀ call ∈ calls, (footprint call).serverBuilder ≠ some b) →
    Arena.get w.serverBuilders b = some v → Arena.get w'.serverBuilders b = some v
  stores : ∀ a v, (∀ call ∈ calls, (footprint call).store ≠ some a) →
    Arena.get w.stores a = some v → Arena.get w'.stores a = some v
  conns : ∀ a c, (∀ call ∈ calls, (footprint call).conn ≠ some a) →
    Arena.get w.conns a = some c → Arena.get w'.conns a = some c
  values : ∀ a v, valueAt w.arcs a = some v → valueAt w'.arcs a = some v
  cells : Cells.SameOutside (calls.flatMap fun call => (footprint call).outs) w.cells w'.cells
  userdata : w'.userdata = w.userdata
  app : (∀ call ∈ calls, (footprint call).callbacks = false) → w'.app = w.app

theorem Frames.refl : Frames [] w w :=
  ⟨fun _ _ _ h => h, fun _ _ _ h => h, fun _ _ _ h => h, fun _ _ _ h => h, fun _ _ h => h, .refl _ _, rfl,
    fun _ => rfl⟩

theorem Frames.cons {call : Call S} {calls : List (Call S)} {w₁ w₂ : World Conn S}
    (first : Frame (footprint call) w w₁) (rest : Frames calls w₁ w₂) : Frames (call :: calls) w w₂ where
  clientBuilders b v free was := by
    obtain ⟨here, later⟩ := List.forall_mem_cons.mp free
    exact rest.clientBuilders b v later (first.clientBuilders.same b v here was)
  serverBuilders b v free was := by
    obtain ⟨here, later⟩ := List.forall_mem_cons.mp free
    exact rest.serverBuilders b v later (first.serverBuilders.same b v here was)
  stores a v free was := by
    obtain ⟨here, later⟩ := List.forall_mem_cons.mp free
    exact rest.stores a v later (first.stores.same a v here was)
  conns a c free was := by
    obtain ⟨here, later⟩ := List.forall_mem_cons.mp free
    exact rest.conns a c later (first.conns.same a c here was)
  values a v was := rest.values a v (valueAt_extends first.values was)
  cells l outside := by
    rw [List.flatMap_cons, List.mem_append, not_or] at outside
    obtain ⟨size, ptr, buf, data⟩ := first.cells l outside.1
    obtain ⟨size', ptr', buf', data'⟩ := rest.cells l outside.2
    exact ⟨size'.trans size, ptr'.trans ptr, buf'.trans buf, data'.trans data⟩
  userdata := rest.userdata.trans first.userdata
  app quiet := by
    obtain ⟨here, later⟩ := List.forall_mem_cons.mp quiet
    exact (rest.app later).trans (first.app here)

/-- However many calls C makes, an object that none of them gets by a mutable pointer is what it was
before, and so are the locations that none of them has as an output and everything behind an `Arc`. A location
is a whole variable or buffer. Counts may change, and objects may be new. -/
theorem execAll_frames {R : Rustls Conn S} {calls : List (Call S)} {w w' : World Conn S}
    (ran : execAll R calls w = some w')
    (outside : ∀ a, .connectionProcessNewPackets (some a) ∉ calls) : Frames calls w w' := by
  induction calls generalizing w with
  | nil =>
    obtain rfl : w = w' := by simpa [execAll] using ran
    exact .refl
  | cons call rest ih =>
    unfold execAll at ran
    split at ran
    next v back =>
      have first := returns_value (exec_stays (w := w) R call fun a same => absurd (by simp [same]) (outside a)) back
      refine Frames.cons first (ih ran ?_)
      intro a member
      exact outside a (by simp [member])
    · cases ran

/-- Two stores and a key in use, while the calls work on one of the stores and on a builder. -/
theorem execAll_frames_oneStore :
    let calls : List (Call Unit) := [.rootCertStoreAddPem (some 0) (some [1]) 1 true, .clientConfigBuilderNew,
      .clientConfigBuilderUseRoots (some 0) (some 0), .rootCertStoreFree (some 0)]
    let w : World Unit Unit := { World.initial () with
      stores := [some ⟨[]⟩, some ⟨[[7]]⟩], arcs := [⟨1, .clientCertVerifier ⟨[[7]]⟩, 0⟩] }
    ∃ w', execAll (.inert ()) calls w = some w' ∧ Frames calls w w' ∧ Arena.get w'.stores 1 = some ⟨[[7]]⟩ ∧
      Arena.get w'.stores 0 = none := by
  intro calls w
  have ran : execAll (.inert ()) calls w = some { World.initial () with
      stores := [none, some ⟨[[7]]⟩], arcs := [⟨1, .clientCertVerifier ⟨[[7]]⟩, 0⟩]
      clientBuilders := [some { ClientConfigBuilder.new ⟨[], []⟩ with verifier := .webPkiVerifier ⟨[[1]]⟩ }] } := rfl
  refine ⟨_, ran, execAll_frames ran ?_, rfl, rfl⟩
  intro a member
  simp [calls] at member

end RustlsFfi.Contract
