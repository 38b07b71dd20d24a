import RustlsFfi.Model.Api
import RustlsFfi.Model.Rules

/-!
# Output arguments

A function that reports a failure leaves the locations it was given for its outputs alone, with one
exception: `rustls_server_connection_get_sni_hostname` clears `*out_n` when the buffer is too small.
-/

namespace RustlsFfi.Contract
open Control

variable {Conn S : Type} {w : World Conn S}

/-- The functions with a result code and output parameters. -/
def hasOutputs : Call S → Bool
  | .connectionReadTls .. | .connectionWriteTls .. | .connectionWriteTlsVectored ..
  | .connectionWrite .. | .connectionRead .. | .connectionRead2 ..
  | .serverConnectionGetSniHostname .. | .clientHelloSelectCertifiedKey ..
  | .clientConnectionNew .. | .serverConnectionNew ..
  | .clientConfigBuilderNewCustom .. | .serverConfigBuilderNewCustom ..
  | .certifiedKeyBuild .. | .certifiedKeyCloneWithOcsp .. | .certificateGetDer .. => true
  | _ => false

def Succeeded : Value → Prop
  | .result r => r = .ok
  | .io r => r = ⟨0⟩
  | _ => True

/-- A reader's method that fails or panics has not touched the buffer. -/
def LeavesBuffer (read : Conn → Bytes → Res IoError Nat × Bytes × Conn) : Prop :=
  ∀ c buf, (∀ n, (read c buf).1 ≠ .ok n) → (read c buf).2.1 = buf

/-- The call clears an `*out_n` that was not zero while it reports that the buffer is too small. -/
def ClearsOutN (R : Rustls Conn S) (w : World Conn S) : Call S → Prop
  | .serverConnectionGetSniHostname (some a) (some _) count (some l) =>
    ∃ c server name, Arena.get w.conns a = some c ∧ c.asServer = some server ∧
      R.sniHostname server = some (some name) ∧ count < (utf8 name).length ∧ w.cells.size l ≠ 0
  | _ => False

@[simp] theorem putConn_cells (a : Addr) (c : Connection Conn) : (w.putConn a c).cells = w.cells := rfl

@[simp] theorem retain_cells (a : Addr) : (w.retain a).cells = w.cells := rfl

@[simp] theorem dropArc_cells (a : Addr) : (w.dropArc a).cells = w.cells := rfl

/-! ### Function by function -/

theorem readTls_keeps (R : Rustls Conn S) (conn : Ptr) (callback : Option (ReadCallback S))
    (userdata : VoidPtr) (outN : Ptr) :
    Ends (rustlsConnectionReadTls R conn callback userdata outN w)
      (Returns fun r w' => r ≠ ⟨0⟩ → w'.cells = w.cells) := by
  refine ends_readTls (fun _ => rfl) (fun _ _ _ => trivial) (fun _ _ _ _ _ _ _ => rfl) ?_
  intro a c n conn s l _ failed
  exact absurd rfl failed

theorem writeTls_keeps {κ : Type} (R : Rustls Conn S) (writer : κ → Writer S) (conn : Ptr)
    (callback : Option κ) (outN : Ptr) :
    Ends (writeTls R writer conn callback outN w) (Returns fun r w' => r ≠ ⟨0⟩ → w'.cells = w.cells) := by
  refine ends_writeTls (fun _ => rfl) (fun _ _ _ => trivial) (fun _ _ _ _ _ _ _ => rfl) ?_
  intro a c n conn s l _ failed
  exact absurd rfl failed

theorem write_keeps (R : Rustls Conn S) (conn : Ptr) (buf : Option Bytes) (count : Nat) (outN : Ptr) :
    Ends (rustlsConnectionWrite R conn buf count outN w)
      (Returns fun r w' => r ≠ .ok → w'.cells = w.cells) := by
  simp +contextual [rustlsConnectionWrite]

theorem clientConnectionNew_keeps (R : Rustls Conn S) (config : Ptr) (hostname : Option Bytes)
    (connOut : Ptr) :
    Ends (rustlsClientConnectionNew R config hostname connOut w)
      (Returns fun r w' => r ≠ .ok → w'.cells = w.cells) := by
  simp +contextual [rustlsClientConnectionNew]

theorem serverConnectionNew_keeps (R : Rustls Conn S) (config connOut : Ptr) :
    Ends (rustlsServerConnectionNew R config connOut w)
      (Returns fun r w' => r ≠ .ok → w'.cells = w.cells) := by
  simp +contextual [rustlsServerConnectionNew]

theorem certifiedKeyCloneWithOcsp_keeps (certifiedKey : Ptr) (ocspResponse : Option RustlsSliceBytes)
    (out : Ptr) :
    Ends (rustlsCertifiedKeyCloneWithOcsp certifiedKey ocspResponse out w)
      (Returns fun r w' => r ≠ .ok → w'.cells = w.cells) := by
  cases ocspResponse <;> simp +contextual [rustlsCertifiedKeyCloneWithOcsp]

theorem certificateGetDer_keeps (R : Rustls Conn S) (cert : Option CertificatePtr) (outDerData outDerLen : Ptr) :
    Ends (rustlsCertificateGetDer R cert outDerData outDerLen w)
      (Returns fun r w' => r ≠ .ok → w'.cells = w.cells) := by
  simp +contextual [rustlsCertificateGetDer]

theorem certifiedKeyBuild_keeps (R : Rustls Conn S) (certChain : Option Bytes) (certChainLen : Nat)
    (privateKey : Option Bytes) (privateKeyLen : Nat) (out : Ptr) :
    Ends (rustlsCertifiedKeyBuild R certChain certChainLen privateKey privateKeyLen out w)
      (Returns fun r w' => r ≠ .ok → w'.cells = w.cells) := by
  simp only [rustlsCertifiedKeyBuild, ends_boundary, wp_bind, wp_rejectIfNull]
  refine ⟨by simp, fun l given => ?_⟩
  refine (certifiedKeyBuild_looks R certChain certChainLen privateKey privateKeyLen (.inl trivial)).wp
    ?_ ?_ ?_ ?_ ?_ <;> simp

theorem configBuilderNewCustom_keeps (R : Rustls Conn S) {toMutPtr : ConfigBase → Body Conn S RustlsResult Ptr}
    (boxes : ∀ base w, ∃ p w', toMutPtr base w = (.next p, w')) (cipherSuites : Option (List (Option SupportedCipherSuite)))
    (cipherSuitesLen : Nat) (tlsVersions : Option (List UInt16)) (tlsVersionsLen : Nat) (builderOut : Ptr) :
    Ends (configBuilderNewCustom R toMutPtr cipherSuites cipherSuitesLen tlsVersions tlsVersionsLen builderOut w)
      (Returns fun r w' => r ≠ .ok → w'.cells = w.cells) := by
  refine ends_newCustom (fun _ _ _ => rfl) (fun _ => rfl) (fun _ _ => trivial) fun base => ?_
  obtain ⟨p, w', boxed⟩ := boxes base w
  unfold wp
  rw [boxed]
  exact fun _ _ error => absurd rfl error

theorem clientHelloSelectCertifiedKey_keeps (R : Rustls Conn S) (hello : Option RustlsClientHello)
    (certifiedKeys : Option (List Ptr)) (certifiedKeysLen : Nat) (outKey : Ptr) :
    Ends (rustlsClientHelloSelectCertifiedKey R hello certifiedKeys certifiedKeysLen outKey w)
      (Returns fun r w' => r ≠ .ok → w'.cells = w.cells) := by
  simp only [rustlsClientHelloSelectCertifiedKey, ends_boundary, wp_bind]
  refine wp_tryRef.mpr ⟨by simp, ?_⟩
  intro hello _
  refine wp_trySlice.mpr ⟨by simp, fun schemes _ => ⟨?_, fun _ => trivial⟩⟩
  intro _
  refine wp_rejectIfNull.mpr ⟨by simp, ?_⟩
  intro l _
  refine wp_trySlice.mpr ⟨by simp, fun keys _ => ⟨?_, fun _ => trivial⟩⟩
  intro _
  refine wp_mono (selectCertifiedKey_wp R _ outKey _ (.inl trivial)) ?_ ?_ ?_ ?_ (fun _ _ _ => trivial)
  · rintro r w' ⟨-, rfl⟩ -
    rfl
  · rintro r w' ⟨rfl, -⟩ failed
    exact absurd rfl failed
  · rintro r w' ⟨-, rfl⟩ -
    rfl
  · rintro w' rfl -
    rfl

theorem readPlaintext_keeps {read : Conn → Bytes → Res IoError Nat × Bytes × Conn}
    (leaves : LeavesBuffer read) (conn buf : Ptr) (count : Nat) (outN : Ptr) :
    Ends (readPlaintext read conn buf count outN w)
      (Returns fun r w' => r ≠ .ok → w'.cells = w.cells) := by
  simp only [readPlaintext, ends_boundary, wp_bind]
  refine wp_tryFromPtr.mpr ⟨by simp, fun a _ => ⟨?_, fun _ => trivial⟩⟩
  intro c _
  refine wp_nonNullOr.mpr ⟨by simp, ?_⟩
  intro l given
  refine wp_rejectIfNull.mpr ⟨by simp, ?_⟩
  intro out _
  simp only [Post.onNext, wp_get, wp_fromRawParts]
  refine ⟨?_, fun _ => trivial⟩
  intro _
  have untouched := leaves c.conn ((w.cells.buf l).take count)
  rcases reply : read c.conn ((w.cells.buf l).take count) with ⟨_ | _ | _, filled, conn'⟩
  · simp
  · obtain rfl : filled = _ := by simpa [reply] using untouched
    simp [given]
  · obtain rfl : filled = _ := by simpa [reply] using untouched
    simp [given]

theorem getSniHostname_clears {R : Rustls Conn S} {conn buf outN : Ptr} {count : Nat}
    (clears : ClearsOutN R w (.serverConnectionGetSniHostname conn buf count outN)) :
    ∃ l, w.cells.size l ≠ 0 ∧ rustlsServerConnectionGetSniHostname R conn buf count outN w =
      (.returned .insufficientSize, { w with cells.size := Function.update w.cells.size l 0 }) := by
  rcases conn with _ | a <;> rcases buf with _ | b <;> rcases outN with _ | l <;> try exact clears.elim
  obtain ⟨c, server, name, live, side, sni, short, nonzero⟩ := clears
  refine ⟨l, nonzero, ?_⟩
  simp [rustlsServerConnectionGetSniHostname, ffiPanicBoundary, bind_run, tryFromPtr_live live, nonNullOr,
    rejectIfNull, side, someOr, sni, mayPanic, short, writeSize]

theorem getSniHostname_keeps (R : Rustls Conn S) (conn buf : Ptr) (count : Nat) (outN : Ptr)
    (kept : ¬ ClearsOutN R w (.serverConnectionGetSniHostname conn buf count outN)) :
    Ends (rustlsServerConnectionGetSniHostname R conn buf count outN w)
      (Returns fun r w' => r ≠ .ok → w'.cells = w.cells) := by
  simp only [rustlsServerConnectionGetSniHostname, ends_boundary, wp_bind]
  refine wp_tryFromPtr.mpr ⟨by simp, fun a conn => ⟨?_, fun _ => trivial⟩⟩
  intro c live
  refine wp_nonNullOr.mpr ⟨by simp, ?_⟩
  intro b buf
  refine wp_rejectIfNull.mpr ⟨by simp, ?_⟩
  intro l out
  refine wp_someOr.mpr ⟨?_, by simp⟩
  intro server side
  refine wp_mayPanic.mpr ⟨?_, by simp⟩
  intro name sni
  subst conn buf out
  cases name with
  | none => simp
  | some name =>
    have zero (short : count < (utf8 name).length) : w.cells.size l = 0 := by
      by_contra nonzero
      exact kept ⟨c, server, name, live, side, sni, short, nonzero⟩
    have same (short : count < (utf8 name).length) : Function.update w.cells.size l 0 = w.cells.size :=
      zero short ▸ Function.update_eq_self l w.cells.size
    simp +contextual [wp_ite, same]

/-! ### All of them -/

theorem exec_keeps {R : Rustls Conn S} (reads : LeavesBuffer R.readerRead)
    (readsBuf : LeavesBuffer R.readerReadBuf) {call : Call S} (outputs : hasOutputs call = true)
    (kept : ¬ ClearsOutN R w call) :
    Ends (exec R call w) (Returns fun v w' => ¬ Succeeded v → w'.cells = w.cells) := by
  cases call with
  | connectionReadTls conn cb userdata out => exact ends_as (readTls_keeps R conn cb userdata out)
  | connectionWriteTls conn cb userdata out => exact ends_as (writeTls_keeps R _ conn cb out)
  | connectionWriteTlsVectored conn cb userdata out => exact ends_as (writeTls_keeps R _ conn cb out)
  | connectionWrite conn buf n out => exact ends_as (write_keeps R conn buf n out)
  | connectionRead conn buf n out => exact ends_as (readPlaintext_keeps reads conn buf n out)
  | connectionRead2 conn buf n out => exact ends_as (readPlaintext_keeps readsBuf conn buf n out)
  | serverConnectionGetSniHostname conn buf n out => exact ends_as (getSniHostname_keeps R conn buf n out kept)
  | clientHelloSelectCertifiedKey hello keys n out =>
    exact ends_as (clientHelloSelectCertifiedKey_keeps R hello keys n out)
  | clientConnectionNew config host out => exact ends_as (clientConnectionNew_keeps R config host out)
  | serverConnectionNew config out => exact ends_as (serverConnectionNew_keeps R config out)
  | clientConfigBuilderNewCustom suites n versions k out | serverConfigBuilderNewCustom suites n versions k out =>
    exact ends_as (configBuilderNewCustom_keeps R (fun _ _ => ⟨_, _, rfl⟩) suites n versions k out)
  | certifiedKeyBuild chain n key k out => exact ends_as (certifiedKeyBuild_keeps R chain n key k out)
  | certifiedKeyCloneWithOcsp key ocsp out => exact ends_as (certifiedKeyCloneWithOcsp_keeps key ocsp out)
  | certificateGetDer cert data len => exact ends_as (certificateGetDer_keeps R cert data len)
  | _ => cases outputs

/-- A call that does not report success leaves every output location as it was, exactly if it is not
one that clears `*out_n` over a buffer that is too small. -/
theorem outputs_only_on_success {R : Rustls Conn S} (reads : LeavesBuffer R.readerRead)
    (readsBuf : LeavesBuffer R.readerReadBuf) {call : Call S} (outputs : hasOutputs call = true)
    (w : World Conn S) :
    (∀ v, (exec R call w).1.value? = some v → ¬ Succeeded v → (exec R call w).2.cells = w.cells) ↔
      ¬ ClearsOutN R w call := by
  constructor
  · intro kept clears
    cases call with
    | serverConnectionGetSniHostname conn buf count out =>
      obtain ⟨l, nonzero, cleared⟩ := getSniHostname_clears clears
      have same := kept (.result .insufficientSize) (by simp [exec, Api.as, cleared, Outcome.map, Outcome.value?])
        (by simp [Succeeded])
      have zero : w.cells.size l = 0 := by
        rw [← same]
        simp [exec, Api.as, cleared]
      exact nonzero zero
    | _ => exact clears
  · intro kept v back
    exact returns_value (exec_keeps reads readsBuf outputs kept) back

theorem inert_leavesBuffer (conn : Conn) :
    LeavesBuffer (Rustls.inert conn : Rustls Conn S).readerRead ∧
      LeavesBuffer (Rustls.inert conn : Rustls Conn S).readerReadBuf :=
  ⟨fun _ _ _ => rfl, fun _ _ _ => rfl⟩

/-- A key that is in use by C, and an output location that already holds an address. -/
def occupied : World Unit Unit where
  __ := World.initial ()
  arcs := [⟨1, .certifiedKey ⟨[⟨[1]⟩], ⟨[2]⟩, none⟩, 0⟩]
  cells.ptr := fun _ => some 5

/-- The OCSP response is NULL with a length of 3. -/
theorem outputs_only_on_success_ocsp :
    exec (.inert ()) (.certifiedKeyCloneWithOcsp (some 0) (some ⟨none, 3⟩) (some 0)) occupied =
        (.rejected (.result .nullParameter), occupied) ∧
      (exec (.inert ()) (.certifiedKeyCloneWithOcsp (some 0) (some ⟨none, 3⟩) (some 0)) occupied).2.cells = occupied.cells := by
  refine ⟨rfl, ?_⟩
  exact (outputs_only_on_success (inert_leavesBuffer ()).1 (inert_leavesBuffer ()).2 rfl occupied).mpr
    id (.result .nullParameter) rfl (by simp [Succeeded])

/-- A server connection to a client that asked for `"ab"`, and a `*out_n` of 7. -/
def shortBuffer : World Unit Unit :=
  { (World.initial () : World Unit Unit) with
    conns := [some ⟨(), .server, [], none, none⟩], cells.size := fun _ => 7 }

def namedLibrary : Rustls Unit Unit := { Rustls.inert () with sniHostname := fun _ => some (some "ab") }

theorem outN_cleared :
    (exec namedLibrary (.serverConnectionGetSniHostname (some 0) (some 0) 1 (some 0)) shortBuffer).1 =
        .returned (.result .insufficientSize) ∧
      shortBuffer.cells.size 0 = 7 ∧
      (exec namedLibrary (.serverConnectionGetSniHostname (some 0) (some 0) 1 (some 0))
        shortBuffer).2.cells.size 0 = 0 := by
  refine ⟨?_, ?_, ?_⟩ <;> decide +kernel

end RustlsFfi.Contract
