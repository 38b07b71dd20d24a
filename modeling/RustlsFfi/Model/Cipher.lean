import RustlsFfi.Model.Cast

/-!
# Cipher suites, certified keys, root stores and client-certificate verifiers

`cipher.rs`.
-/

namespace RustlsFfi
open Control

variable {Conn S : Type}

/-! ### Certificates and cipher suites -/

def rustlsCertificateGetDer (R : Rustls Conn S) (cert : Option CertificatePtr) (outDerData outDerLen : Ptr) :
    Api Conn S RustlsResult :=
  ffiPanicBoundary do
    let cert ← tryCertificate R cert
    rejectIfNull outDerData .nullParameter
    rejectIfNull outDerLen .nullParameter
    writeData outDerData (some cert.der)
    writeSize outDerLen cert.der.length
    pure .ok

def SupportedCipherSuite.suite : SupportedCipherSuite → UInt16
  | .tls12 n | .tls13 n => n

def rustlsSupportedCiphersuiteGetSuite (suite : Option SupportedCipherSuite) : Api Conn S UInt16 :=
  noBoundary do
    let suite ← tryRef suite
    pure suite.suite

def rustlsSupportedCiphersuiteGetName (R : Rustls Conn S) (suite : Option SupportedCipherSuite) :
    Api Conn S RustlsStr :=
  noBoundary do
    let suite ← tryRef suite
    let s := (R.cipherSuiteName suite).getD ""
    match RustlsStr.tryFrom s with
    | some s => pure s
    | none => pure (.fromStrUnchecked "")

/-- `ALL_CIPHER_SUITES`, in the order of `RUSTLS_ALL_CIPHER_SUITES`. -/
def allCipherSuites : List SupportedCipherSuite :=
  [.tls13 0x1302, .tls13 0x1301, .tls13 0x1303, .tls12 0xc02c, .tls12 0xc02b, .tls12 0xcca9,
   .tls12 0xc030, .tls12 0xc02f, .tls12 0xcca8]

/-- `DEFAULT_CIPHER_SUITES`, in the order of `RUSTLS_DEFAULT_CIPHER_SUITES`. -/
def defaultCipherSuites : List SupportedCipherSuite :=
  [.tls13 0x1302, .tls13 0x1301, .tls13 0x1303, .tls12 0xc02c, .tls12 0xc02b, .tls12 0xcca9,
   .tls12 0xc030, .tls12 0xc02f, .tls12 0xcca8]

def rustlsAllCiphersuitesLen : Nat := allCipherSuites.length

def rustlsAllCiphersuitesGetEntry (i : Nat) : Option SupportedCipherSuite := allCipherSuites[i]?

def rustlsDefaultCiphersuitesLen : Nat := defaultCipherSuites.length

def rustlsDefaultCiphersuitesGetEntry (i : Nat) : Option SupportedCipherSuite :=
  defaultCipherSuites[i]?

/-! ### Certified keys -/

/-- The private key that `certified_key_build` takes from a file: `pop` gives the last PKCS#8 section,
and only without one are PKCS#1 sections looked at. -/
def lastPrivateKey (R : Rustls Conn S) (privateKey : Bytes) : Body Conn S RustlsResult Bytes := do
  let privateKeys ←
    okOr (fun _ => .privateKeyParseError) (← callPure (R.pkcs8PrivateKeys privateKey))
  match privateKeys.getLast? with
  | some p => pure p
  | none => do
    let privateKeys ←
      okOr (fun _ => .privateKeyParseError) (← callPure (R.rsaPrivateKeys privateKey))
    someOr .privateKeyParseError privateKeys.getLast?

/-- `rustls_certified_key::certified_key_build`. Every `Err` goes straight to the caller's
`return`, so it is a `return` here. -/
def certifiedKeyBuild (R : Rustls Conn S) (certChain : Option Bytes) (certChainLen : Nat)
    (privateKey : Option Bytes) (privateKeyLen : Nat) : Body Conn S RustlsResult CertifiedKey := do
  let certChain ← trySlice certChain certChainLen
  let privateKey ← trySlice privateKey privateKeyLen
  let privateKey ← lastPrivateKey R privateKey
  let signingKey ← okOr (fun _ => .privateKeyParseError) (← callPure (R.anySupportedType privateKey))
  let parsedChain ← okOr (fun _ => .certificateParseError) (← callPure (R.certs certChain))
  pure ⟨parsedChain.map Certificate.mk, signingKey, none⟩

def rustlsCertifiedKeyBuild (R : Rustls Conn S) (certChain : Option Bytes) (certChainLen : Nat)
    (privateKey : Option Bytes) (privateKeyLen : Nat) (certifiedKeyOut : Ptr) :
    Api Conn S RustlsResult :=
  ffiPanicBoundary do
    rejectIfNull certifiedKeyOut .nullParameter
    let certifiedKey ← certifiedKeyBuild R certChain certChainLen privateKey privateKeyLen
    let certifiedKey ← toConstPtr (.certifiedKey certifiedKey)
    writePtr certifiedKeyOut certifiedKey
    pure .ok

def rustlsCertifiedKeyGetCertificate (certifiedKey : Ptr) (i : Nat) :
    Api Conn S (Option CertificatePtr) :=
  ffiPanicBoundary do
    let (a, certifiedKey) ← tryRefFromArc ArcValue.certifiedKey? certifiedKey
    pure (certifiedKey.cert[i]?.map fun _ => .ofKey a i)

def rustlsCertifiedKeyCloneWithOcsp (certifiedKey : Ptr) (ocspResponse : Option RustlsSliceBytes)
    (clonedKeyOut : Ptr) : Api Conn S RustlsResult :=
  ffiPanicBoundary do
    rejectIfNull clonedKeyOut .nullParameter
    let (_, newKey) ← tryRefFromArc ArcValue.certifiedKey? certifiedKey
    let newKey ← match ocspResponse with
      | some ocspSlice => do
        let ocsp ← trySlice ocspSlice.data ocspSlice.len
        pure { newKey with ocsp := some ocsp }
      | none => pure { newKey with ocsp := none }
    let clonedKey ← toConstPtr (.certifiedKey newKey)
    writePtr clonedKeyOut clonedKey
    pure .ok

/-- `rustls_certified_key_free`: the `Arc` is rebuilt from a `*const rustls_certified_key`. -/
def rustlsCertifiedKeyFree (key : Ptr) : Api Conn S Unit :=
  ffiPanicBoundary do
    let (a, _) ← tryRefFromArc ArcValue.certifiedKey? key
    .modify (·.dropFromRaw .rustlsCertifiedKey a)

/-! ### Root stores -/

def RootCertStore.empty : RootCertStore := ⟨[]⟩

/-- `RootCertStore::add_parsable_certificates`, with the numbers parsed and rejected. -/
def RootCertStore.addParsableCertificates (R : Rustls Conn S) (store : RootCertStore)
    (ders : List Bytes) : RootCertStore × Nat × Nat :=
  (⟨store.roots ++ ders.filter R.parsable⟩, ders.countP R.parsable,
    ders.countP (fun der => !R.parsable der))

def rustlsRootCertStoreNew : Api Conn S Ptr :=
  ffiPanicBoundary fun w =>
    (.next (some w.stores.length), { w with stores := Arena.alloc w.stores RootCertStore.empty })

def rustlsRootCertStoreAddPem (R : Rustls Conn S) (store : Ptr) (pem : Option Bytes) (pemLen : Nat)
    (strict : Bool) : Api Conn S RustlsResult :=
  ffiPanicBoundary do
    let certsPem ← trySlice pem pemLen
    let (a, store) ← tryFromPtr World.stores store
    let certsDer ← okOr (fun _ => .certificateParseError) (← callPure (R.certs certsPem))
    -- Staged in a temporary store, so that a failure leaves the caller's store alone.
    let (newStore, parsed, rejected) := RootCertStore.empty.addParsableCertificates R certsDer
    if strict && (decide (rejected > 0) || parsed == 0) then .ret .certificateParseError
    else do
      .modify fun w => { w with stores := Arena.put w.stores a ⟨store.roots ++ newStore.roots⟩ }
      pure .ok

def rustlsRootCertStoreFree (store : Ptr) : Api Conn S Unit :=
  ffiPanicBoundary do
    let (a, _) ← tryFromPtr World.stores store
    .modify fun w => { w with stores := Arena.free w.stores a }

/-! ### Client-certificate verifiers -/

def clientCertVerifierNew (value : RootCertStore → ArcValue) (store : Ptr) : Api Conn S Ptr :=
  noBoundary do
    let (_, store) ← tryFromPtr World.stores store
    toConstPtr (value store)

def rustlsClientCertVerifierNew (store : Ptr) : Api Conn S Ptr :=
  clientCertVerifierNew .clientCertVerifier store

def rustlsClientCertVerifierOptionalNew (store : Ptr) : Api Conn S Ptr :=
  clientCertVerifierNew .clientCertVerifierOptional store

/-- `rustls_client_cert_verifier_free`: rebuilt from a `*const rustls_client_cert_verifier`. -/
def rustlsClientCertVerifierFree (verifier : Ptr) : Api Conn S Unit :=
  ffiPanicBoundary do
    let (a, _) ← tryRefFromArc ArcValue.clientCertVerifier? verifier
    .modify (·.dropFromRaw .rustlsClientCertVerifier a)

/-- `rustls_client_cert_verifier_optional_free`: likewise at the opaque type. -/
def rustlsClientCertVerifierOptionalFree (verifier : Ptr) : Api Conn S Unit :=
  ffiPanicBoundary do
    let (a, _) ← tryRefFromArc ArcValue.clientCertVerifierOptional? verifier
    .modify (·.dropFromRaw .rustlsClientCertVerifierOptional a)

end RustlsFfi
