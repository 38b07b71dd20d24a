import RustlsFfi.Base.Triple
import RustlsFfi.Model.Report
import RustlsFfi.Model.Callback

/-!
# The exported functions

One call of the API with its arguments, and what it does.
-/

namespace RustlsFfi
open Control

variable {Conn S : Type}

/-- A call of an exported function. Pointers to plain data carry the data; pointers to objects and
output locations are addresses. -/
inductive Call (S : Type) where
  -- `rslice.rs`
  | sliceSliceBytesLen (input : Option RustlsSliceSliceBytes)
  | sliceSliceBytesGet (input : Option RustlsSliceSliceBytes) (n : Nat)
  | sliceStrLen (input : Option RustlsSliceStr)
  | sliceStrGet (input : Option RustlsSliceStr) (n : Nat)
  -- `error.rs`, `log.rs`, `lib.rs`
  | error (result : UInt32) (buf : Ptr) (len : Nat) (outN : Ptr)
  | resultIsCertError (result : UInt32)
  | logLevelStr (level : Nat)
  | version
  -- `cipher.rs`
  | certificateGetDer (cert : Option CertificatePtr) (outDerData outDerLen : Ptr)
  | supportedCiphersuiteGetSuite (suite : Option SupportedCipherSuite)
  | supportedCiphersuiteGetName (suite : Option SupportedCipherSuite)
  | allCiphersuitesLen
  | allCiphersuitesGetEntry (i : Nat)
  | defaultCiphersuitesLen
  | defaultCiphersuitesGetEntry (i : Nat)
  | certifiedKeyBuild (certChain : Option Bytes) (certChainLen : Nat) (privateKey : Option Bytes)
      (privateKeyLen : Nat) (certifiedKeyOut : Ptr)
  | certifiedKeyGetCertificate (certifiedKey : Ptr) (i : Nat)
  | certifiedKeyCloneWithOcsp (certifiedKey : Ptr) (ocspResponse : Option RustlsSliceBytes)
      (clonedKeyOut : Ptr)
  | certifiedKeyFree (key : Ptr)
  | rootCertStoreNew
  | rootCertStoreAddPem (store : Ptr) (pem : Option Bytes) (pemLen : Nat) (strict : Bool)
  | rootCertStoreFree (store : Ptr)
  | clientCertVerifierNew (store : Ptr)
  | clientCertVerifierFree (verifier : Ptr)
  | clientCertVerifierOptionalNew (store : Ptr)
  | clientCertVerifierOptionalFree (verifier : Ptr)
  -- `connection.rs`
  | connectionSetUserdata (conn : Ptr) (userdata : VoidPtr)
  | connectionSetLogCallback (conn : Ptr) (cb : Option FnPtr)
  | connectionReadTls (conn : Ptr) (callback : Option (ReadCallback S)) (userdata : VoidPtr)
      (outN : Ptr)
  | connectionWriteTls (conn : Ptr) (callback : Option (WriteCallback S)) (userdata : VoidPtr)
      (outN : Ptr)
  | connectionWriteTlsVectored (conn : Ptr) (callback : Option (VectoredWriteCallback S))
      (userdata : VoidPtr) (outN : Ptr)
  | connectionProcessNewPackets (conn : Ptr)
  | connectionWantsRead (conn : Ptr)
  | connectionWantsWrite (conn : Ptr)
  | connectionIsHandshaking (conn : Ptr)
  | connectionSetBufferLimit (conn : Ptr) (n : Nat)
  | connectionSendCloseNotify (conn : Ptr)
  | connectionGetPeerCertificate (conn : Ptr) (i : Nat)
  | connectionGetAlpnProtocol (conn protocolOut protocolOutLen : Ptr)
  | connectionGetProtocolVersion (conn : Ptr)
  | connectionGetNegotiatedCiphersuite (conn : Ptr)
  | connectionWrite (conn : Ptr) (buf : Option Bytes) (count : Nat) (outN : Ptr)
  | connectionRead (conn buf : Ptr) (count : Nat) (outN : Ptr)
  | connectionRead2 (conn buf : Ptr) (count : Nat) (outN : Ptr)
  | connectionFree (conn : Ptr)
  -- `client.rs`
  | clientConfigBuilderNew
  | clientConfigBuilderNewCustom (cipherSuites : Option (List (Option SupportedCipherSuite)))
      (cipherSuitesLen : Nat) (tlsVersions : Option (List UInt16)) (tlsVersionsLen : Nat)
      (builderOut : Ptr)
  | clientConfigBuilderDangerousSetCertificateVerifier (builder : Ptr) (callback : Option FnPtr)
  | clientConfigBuilderUseRoots (builder roots : Ptr)
  | clientConfigBuilderLoadRootsFromFile (builder : Ptr) (filename : Option Bytes)
  | clientConfigBuilderSetAlpnProtocols (builder : Ptr) (protocols : Option (List RustlsSliceBytes))
      (len : Nat)
  | clientConfigBuilderSetEnableSni (builder : Ptr) (enable : Bool)
  | clientConfigBuilderSetCertifiedKey (builder : Ptr) (certifiedKeys : Option (List Ptr))
      (certifiedKeysLen : Nat)
  | clientConfigBuilderBuild (builder : Ptr)
  | clientConfigBuilderFree (builder : Ptr)
  | clientConfigFree (config : Ptr)
  | clientConnectionNew (config : Ptr) (hostname : Option Bytes) (connOut : Ptr)
  -- `server.rs`
  | serverConfigBuilderNew
  | serverConfigBuilderNewCustom (cipherSuites : Option (List (Option SupportedCipherSuite)))
      (cipherSuitesLen : Nat) (tlsVersions : Option (List UInt16)) (tlsVersionsLen : Nat)
      (builderOut : Ptr)
  | serverConfigBuilderSetClientVerifier (builder verifier : Ptr)
  | serverConfigBuilderSetClientVerifierOptional (builder verifier : Ptr)
  | serverConfigBuilderSetIgnoreClientOrder (builder : Ptr) (ignore : Bool)
  | serverConfigBuilderSetAlpnProtocols (builder : Ptr) (protocols : Option (List RustlsSliceBytes))
      (len : Nat)
  | serverConfigBuilderSetCertifiedKeys (builder : Ptr) (certifiedKeys : Option (List Ptr))
      (certifiedKeysLen : Nat)
  | serverConfigBuilderSetHelloCallback (builder : Ptr) (callback : Option FnPtr)
  | serverConfigBuilderSetPersistence (builder : Ptr) (getCb putCb : Option FnPtr)
  | serverConfigBuilderBuild (builder : Ptr)
  | serverConfigBuilderFree (builder : Ptr)
  | serverConfigFree (config : Ptr)
  | serverConnectionNew (config connOut : Ptr)
  | serverConnectionGetSniHostname (conn buf : Ptr) (count : Nat) (outN : Ptr)
  | clientHelloSelectCertifiedKey (hello : Option RustlsClientHello)
      (certifiedKeys : Option (List Ptr)) (certifiedKeysLen : Nat) (outKey : Ptr)

inductive Value where
  | unit
  | bool (b : Bool)
  | size (n : Nat)
  | u16 (n : UInt16)
  | ptr (p : Ptr)
  | certificate (c : Option CertificatePtr)
  | ciphersuite (c : Option SupportedCipherSuite)
  | bytes (b : RustlsSliceBytes)
  | str (s : RustlsStr)
  | result (r : RustlsResult)
  | io (r : RustlsIoResult)
  deriving DecidableEq, Repr

def Api.as {ρ : Type} (f : Api Conn S ρ) (wrap : ρ → Value) : Api Conn S Value := fun w =>
  ((f w).1.map wrap, (f w).2)

theorem ends_as {ρ : Type} {f : Api Conn S ρ} {wrap : ρ → Value} {w : World Conn S}
    {Q : Value → World Conn S → Prop} (h : Ends (f w) (Returns fun r w' => Q (wrap r) w')) :
    Ends (f.as wrap w) (Returns Q) := by
  unfold Ends at h ⊢
  unfold Api.as
  cases outcome : (f w).1 <;> simp_all [Outcome.map]

/-- An exported function that touches none of the state. -/
def Api.const (v : Value) : Api Conn S Value := fun w => (.returned v, w)

def exec (R : Rustls Conn S) : Call S → Api Conn S Value
  | .sliceSliceBytesLen input => .const (.size (rustlsSliceSliceBytesLen input))
  | .sliceSliceBytesGet input n => .const (.bytes (rustlsSliceSliceBytesGet input n))
  | .sliceStrLen input => .const (.size (rustlsSliceStrLen input))
  | .sliceStrGet input n => .const (.str (rustlsSliceStrGet input n))
  | .error result buf len outN => (rustlsError R result buf len outN).as fun _ => .unit
  | .resultIsCertError result => .const (.bool (rustlsResultIsCertError result))
  | .logLevelStr level => .const (.str (rustlsLogLevelStr level))
  | .version => .const (.str rustlsVersion)
  | .certificateGetDer cert outDerData outDerLen =>
    (rustlsCertificateGetDer R cert outDerData outDerLen).as .result
  | .supportedCiphersuiteGetSuite suite => (rustlsSupportedCiphersuiteGetSuite suite).as .u16
  | .supportedCiphersuiteGetName suite => (rustlsSupportedCiphersuiteGetName R suite).as .str
  | .allCiphersuitesLen => .const (.size rustlsAllCiphersuitesLen)
  | .allCiphersuitesGetEntry i => .const (.ciphersuite (rustlsAllCiphersuitesGetEntry i))
  | .defaultCiphersuitesLen => .const (.size rustlsDefaultCiphersuitesLen)
  | .defaultCiphersuitesGetEntry i => .const (.ciphersuite (rustlsDefaultCiphersuitesGetEntry i))
  | .certifiedKeyBuild certChain certChainLen privateKey privateKeyLen certifiedKeyOut =>
    (rustlsCertifiedKeyBuild R certChain certChainLen privateKey privateKeyLen certifiedKeyOut).as
      .result
  | .certifiedKeyGetCertificate certifiedKey i =>
    (rustlsCertifiedKeyGetCertificate certifiedKey i).as .certificate
  | .certifiedKeyCloneWithOcsp certifiedKey ocspResponse clonedKeyOut =>
    (rustlsCertifiedKeyCloneWithOcsp certifiedKey ocspResponse clonedKeyOut).as .result
  | .certifiedKeyFree key => (rustlsCertifiedKeyFree key).as fun _ => .unit
  | .rootCertStoreNew => rustlsRootCertStoreNew.as .ptr
  | .rootCertStoreAddPem store pem pemLen strict =>
    (rustlsRootCertStoreAddPem R store pem pemLen strict).as .result
  | .rootCertStoreFree store => (rustlsRootCertStoreFree store).as fun _ => .unit
  | .clientCertVerifierNew store => (rustlsClientCertVerifierNew store).as .ptr
  | .clientCertVerifierFree verifier => (rustlsClientCertVerifierFree verifier).as fun _ => .unit
  | .clientCertVerifierOptionalNew store => (rustlsClientCertVerifierOptionalNew store).as .ptr
  | .clientCertVerifierOptionalFree verifier =>
    (rustlsClientCertVerifierOptionalFree verifier).as fun _ => .unit
  | .connectionSetUserdata conn userdata =>
    (rustlsConnectionSetUserdata conn userdata).as fun _ => .unit
  | .connectionSetLogCallback conn cb => (rustlsConnectionSetLogCallback conn cb).as fun _ => .unit
  | .connectionReadTls conn callback userdata outN =>
    (rustlsConnectionReadTls R conn callback userdata outN).as .io
  | .connectionWriteTls conn callback userdata outN =>
    (rustlsConnectionWriteTls R conn callback userdata outN).as .io
  | .connectionWriteTlsVectored conn callback userdata outN =>
    (rustlsConnectionWriteTlsVectored R conn callback userdata outN).as .io
  | .connectionProcessNewPackets conn =>
    (rustlsConnectionProcessNewPackets R.processNewPackets conn).as .result
  | .connectionWantsRead conn => (rustlsConnectionWantsRead R conn).as .bool
  | .connectionWantsWrite conn => (rustlsConnectionWantsWrite R conn).as .bool
  | .connectionIsHandshaking conn => (rustlsConnectionIsHandshaking R conn).as .bool
  | .connectionSetBufferLimit conn n => (rustlsConnectionSetBufferLimit R conn n).as fun _ => .unit
  | .connectionSendCloseNotify conn => (rustlsConnectionSendCloseNotify R conn).as fun _ => .unit
  | .connectionGetPeerCertificate conn i =>
    (rustlsConnectionGetPeerCertificate R conn i).as .certificate
  | .connectionGetAlpnProtocol conn protocolOut protocolOutLen =>
    (rustlsConnectionGetAlpnProtocol R conn protocolOut protocolOutLen).as fun _ => .unit
  | .connectionGetProtocolVersion conn => (rustlsConnectionGetProtocolVersion R conn).as .u16
  | .connectionGetNegotiatedCiphersuite conn =>
    (rustlsConnectionGetNegotiatedCiphersuite R conn).as .ciphersuite
  | .connectionWrite conn buf count outN => (rustlsConnectionWrite R conn buf count outN).as .result
  | .connectionRead conn buf count outN => (rustlsConnectionRead R conn buf count outN).as .result
  | .connectionRead2 conn buf count outN => (rustlsConnectionRead2 R conn buf count outN).as .result
  | .connectionFree conn => (rustlsConnectionFree conn).as fun _ => .unit
  | .clientConfigBuilderNew => (rustlsClientConfigBuilderNew R).as .ptr
  | .clientConfigBuilderNewCustom cipherSuites cipherSuitesLen tlsVersions tlsVersionsLen builderOut =>
    (rustlsClientConfigBuilderNewCustom R cipherSuites cipherSuitesLen tlsVersions tlsVersionsLen
      builderOut).as .result
  | .clientConfigBuilderDangerousSetCertificateVerifier builder callback =>
    (rustlsClientConfigBuilderDangerousSetCertificateVerifier builder callback).as .result
  | .clientConfigBuilderUseRoots builder roots =>
    (rustlsClientConfigBuilderUseRoots builder roots).as .result
  | .clientConfigBuilderLoadRootsFromFile builder filename =>
    (rustlsClientConfigBuilderLoadRootsFromFile R builder filename).as .result
  | .clientConfigBuilderSetAlpnProtocols builder protocols len =>
    (rustlsClientConfigBuilderSetAlpnProtocols builder protocols len).as .result
  | .clientConfigBuilderSetEnableSni builder enable =>
    (rustlsClientConfigBuilderSetEnableSni builder enable).as fun _ => .unit
  | .clientConfigBuilderSetCertifiedKey builder certifiedKeys certifiedKeysLen =>
    (rustlsClientConfigBuilderSetCertifiedKey builder certifiedKeys certifiedKeysLen).as .result
  | .clientConfigBuilderBuild builder => (rustlsClientConfigBuilderBuild builder).as .ptr
  | .clientConfigBuilderFree builder => (rustlsClientConfigBuilderFree builder).as fun _ => .unit
  | .clientConfigFree config => (rustlsClientConfigFree config).as fun _ => .unit
  | .clientConnectionNew config hostname connOut =>
    (rustlsClientConnectionNew R config hostname connOut).as .result
  | .serverConfigBuilderNew => (rustlsServerConfigBuilderNew R).as .ptr
  | .serverConfigBuilderNewCustom cipherSuites cipherSuitesLen tlsVersions tlsVersionsLen builderOut =>
    (rustlsServerConfigBuilderNewCustom R cipherSuites cipherSuitesLen tlsVersions tlsVersionsLen
      builderOut).as .result
  | .serverConfigBuilderSetClientVerifier builder verifier =>
    (rustlsServerConfigBuilderSetClientVerifier builder verifier).as fun _ => .unit
  | .serverConfigBuilderSetClientVerifierOptional builder verifier =>
    (rustlsServerConfigBuilderSetClientVerifierOptional builder verifier).as fun _ => .unit
  | .serverConfigBuilderSetIgnoreClientOrder builder ignore =>
    (rustlsServerConfigBuilderSetIgnoreClientOrder builder ignore).as .result
  | .serverConfigBuilderSetAlpnProtocols builder protocols len =>
    (rustlsServerConfigBuilderSetAlpnProtocols builder protocols len).as .result
  | .serverConfigBuilderSetCertifiedKeys builder certifiedKeys certifiedKeysLen =>
    (rustlsServerConfigBuilderSetCertifiedKeys builder certifiedKeys certifiedKeysLen).as .result
  | .serverConfigBuilderSetHelloCallback builder callback =>
    (rustlsServerConfigBuilderSetHelloCallback builder callback).as .result
  | .serverConfigBuilderSetPersistence builder getCb putCb =>
    (rustlsServerConfigBuilderSetPersistence builder getCb putCb).as .result
  | .serverConfigBuilderBuild builder => (rustlsServerConfigBuilderBuild R builder).as .ptr
  | .serverConfigBuilderFree builder => (rustlsServerConfigBuilderFree builder).as fun _ => .unit
  | .serverConfigFree config => (rustlsServerConfigFree config).as fun _ => .unit
  | .serverConnectionNew config connOut => (rustlsServerConnectionNew R config connOut).as .result
  | .serverConnectionGetSniHostname conn buf count outN =>
    (rustlsServerConnectionGetSniHostname R conn buf count outN).as .result
  | .clientHelloSelectCertifiedKey hello certifiedKeys certifiedKeysLen outKey =>
    (rustlsClientHelloSelectCertifiedKey R hello certifiedKeys certifiedKeysLen outKey).as .result

end RustlsFfi
