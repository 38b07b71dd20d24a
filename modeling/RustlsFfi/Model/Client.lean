import RustlsFfi.Model.Connection

/-!
# Client configs

`client.rs`, with the parts of the builder that the client and the server side have in common.
-/

namespace RustlsFfi
open Control

variable {Conn S ρ : Type}

/-! ### Shared by the two builders -/

def collectSuites : List (Option SupportedCipherSuite) → List SupportedCipherSuite →
    Body Conn S RustlsResult (List SupportedCipherSuite)
  | [], csVec => pure csVec
  | cs :: rest, csVec => do
    let cs ← tryRef cs
    let scs ← someOr .invalidParameter (allCipherSuites.find? (fun acs => cs == acs))
    collectSuites rest (csVec ++ [scs])

/-- The version that a number stands for; the loops over versions skip every other number. -/
def protocolVersion? (n : UInt16) : Option SupportedProtocolVersion :=
  if n = 0x0303 then some .TLS12 else if n = 0x0304 then some .TLS13 else none

/-- The checks of the two `_new_custom` functions, up to the finished base. -/
def newCustomBase (R : Rustls Conn S) (cipherSuites : Option (List (Option SupportedCipherSuite)))
    (cipherSuitesLen : Nat) (tlsVersions : Option (List UInt16)) (tlsVersionsLen : Nat) :
    Body Conn S RustlsResult ConfigBase := do
  let cipherSuites ← trySlice cipherSuites cipherSuitesLen
  let csVec ← collectSuites cipherSuites []
  let tlsVersions ← trySlice tlsVersions tlsVersionsLen
  let versions := tlsVersions.filterMap protocolVersion?
  okOr (fun _ => .invalidParameter) (← callPure (R.withProtocolVersions csVec versions))
  pure ⟨csVec, versions⟩

/-- What the two `_new_custom` functions do; `toMutPtr` is the new builder in its box. -/
def configBuilderNewCustom (R : Rustls Conn S) (toMutPtr : ConfigBase → Body Conn S RustlsResult Ptr)
    (cipherSuites : Option (List (Option SupportedCipherSuite))) (cipherSuitesLen : Nat)
    (tlsVersions : Option (List UInt16)) (tlsVersionsLen : Nat) (builderOut : Ptr) : Api Conn S RustlsResult :=
  ffiPanicBoundary do
    let base ← newCustomBase R cipherSuites cipherSuitesLen tlsVersions tlsVersionsLen
    let builder ← toMutPtr base
    -- `set_mut_ptr` does not check its destination.
    writePtr builderOut builder
    pure .ok

def collectAlpn : List RustlsSliceBytes → List Bytes → Body Conn S RustlsResult (List Bytes)
  | [], vv => pure vv
  | p :: rest, vv => do
    let v ← trySlice p.data p.len
    collectAlpn rest (vv ++ [v])

/-- What both functions that set ALPN protocols do; `put` is the builder with the protocols in its place. -/
def setAlpnProtocols {τ : Type} (arena : World Conn S → List (Option τ))
    (put : Addr → τ → List Bytes → World Conn S → World Conn S) (builder : Ptr)
    (protocols : Option (List RustlsSliceBytes)) (len : Nat) : Api Conn S RustlsResult :=
  ffiPanicBoundary do
    let (b, config) ← tryFromPtr arena builder
    let protocols ← trySlice protocols len
    let vv ← collectAlpn protocols []
    .modify (put b config vv)
    pure .ok

/-- The loop over the caller's certified keys. The keys collected so far are dropped when an entry
is NULL. -/
def collectKeys : List Ptr → List Addr → Body Conn S RustlsResult (List Addr)
  | [], keys => pure keys
  | keyPtr :: rest, keys => do
    let (key, _) ← Ffi.inScope (·.dropArcs keys) (tryArcFromPtr ArcValue.certifiedKey? keyPtr)
    collectKeys rest (keys ++ [key])

/-- `CStr::to_str` and `str::from_utf8`. -/
def utf8Decode (bytes : Bytes) : Option String := String.fromUTF8? ⟨bytes.toArray⟩

def World.putClientBuilder (b : Addr) (builder : ClientConfigBuilder) (w : World Conn S) :
    World Conn S :=
  { w with clientBuilders := Arena.put w.clientBuilders b builder }

/-! ### Creation -/

def ClientConfigBuilder.new (base : ConfigBase) : ClientConfigBuilder where
  base := base
  verifier := .noneVerifier
  certResolver := none
  alpnProtocols := []
  enableSni := true

/-- `BoxCastPtr::to_mut_ptr` on a client builder. -/
def clientBuilderToMutPtr (builder : ClientConfigBuilder) : Body Conn S ρ Ptr := fun w =>
  (.next (some w.clientBuilders.length),
    { w with clientBuilders := Arena.alloc w.clientBuilders builder })

def rustlsClientConfigBuilderNew (R : Rustls Conn S) : Api Conn S Ptr :=
  ffiPanicBoundary (clientBuilderToMutPtr (.new R.safeDefaults))

def rustlsClientConfigBuilderNewCustom (R : Rustls Conn S)
    (cipherSuites : Option (List (Option SupportedCipherSuite))) (cipherSuitesLen : Nat)
    (tlsVersions : Option (List UInt16)) (tlsVersionsLen : Nat) (builderOut : Ptr) :
    Api Conn S RustlsResult :=
  configBuilderNewCustom R (fun base => clientBuilderToMutPtr (.new base)) cipherSuites cipherSuitesLen tlsVersions
    tlsVersionsLen builderOut

/-! ### Setters -/

def rustlsClientConfigBuilderDangerousSetCertificateVerifier (configBuilder : Ptr)
    (callback : Option FnPtr) : Api Conn S RustlsResult :=
  ffiPanicBoundary do
    let (b, builder) ← tryFromPtr World.clientBuilders configBuilder
    let callback ← nonNullOr .invalidParameter callback
    .modify (·.putClientBuilder b { builder with verifier := .verifier callback })
    pure .ok

def rustlsClientConfigBuilderUseRoots (configBuilder roots : Ptr) : Api Conn S RustlsResult :=
  ffiPanicBoundary do
    let (b, builder) ← tryFromPtr World.clientBuilders configBuilder
    let (_, rootStore) ← tryFromPtr World.stores roots
    .modify (·.putClientBuilder b { builder with verifier := .webPkiVerifier rootStore })
    pure .ok

/-- `rustls_client_config_builder_load_roots_from_file`; `filename` is the bytes before the NUL. -/
def rustlsClientConfigBuilderLoadRootsFromFile (R : Rustls Conn S) (configBuilder : Ptr)
    (filename : Option Bytes) : Api Conn S RustlsResult :=
  ffiPanicBoundary do
    let (b, builder) ← tryFromPtr World.clientBuilders configBuilder
    let filename ← tryRef filename
    let filename ← someOr .io (utf8Decode filename)
    let cafile ← someOr .io (R.openFile filename)
    let certs ← okOr (fun _ => .io) (← callPure (R.certs cafile))
    let (roots, _, failed) := RootCertStore.empty.addParsableCertificates R certs
    if failed > 0 then .ret .certificateParseError
    else do
      .modify (·.putClientBuilder b { builder with verifier := .webPkiVerifier roots })
      pure .ok

def rustlsClientConfigBuilderSetAlpnProtocols (builder : Ptr)
    (protocols : Option (List RustlsSliceBytes)) (len : Nat) : Api Conn S RustlsResult :=
  setAlpnProtocols World.clientBuilders
    (fun b config vv w => w.putClientBuilder b { config with alpnProtocols := vv }) builder protocols len

def rustlsClientConfigBuilderSetEnableSni (config : Ptr) (enable : Bool) : Api Conn S Unit :=
  ffiPanicBoundary do
    let (b, config) ← tryFromPtr World.clientBuilders config
    .modify (·.putClientBuilder b { config with enableSni := enable })

def rustlsClientConfigBuilderSetCertifiedKey (builder : Ptr) (certifiedKeys : Option (List Ptr))
    (certifiedKeysLen : Nat) : Api Conn S RustlsResult :=
  ffiPanicBoundary do
    let (b, config) ← tryFromPtr World.clientBuilders builder
    let keysPtrs ← trySlice certifiedKeys certifiedKeysLen
    let keys ← collectKeys keysPtrs []
    -- `keys` moves into the resolver, and the assignment drops the one it replaces.
    .modify (·.putClientBuilder b { config with certResolver := some ⟨keys⟩ })
    .modify (·.dropArcs config.refs)
    pure .ok

/-! ### Building and freeing -/

def rustlsClientConfigBuilderBuild (builder : Ptr) : Api Conn S Ptr :=
  ffiPanicBoundary do
    let (b, builder) ← tryFromPtr World.clientBuilders builder
    .modify fun w => { w with clientBuilders := Arena.free w.clientBuilders b }
    toConstPtr (.clientConfig {
      base := builder.base
      verifier := builder.verifier
      certResolver := builder.certResolver
      alpnProtocols := builder.alpnProtocols
      enableSni := builder.enableSni })

/-- `rustls_client_config_builder_free`: NULL is not an early return here. -/
def rustlsClientConfigBuilderFree (config : Ptr) : Api Conn S Unit :=
  ffiPanicBoundary do
    match config with
    | none => pure ()
    | some _ => do
      let (b, builder) ← tryFromPtr World.clientBuilders config
      .modify fun w =>
        ({ w with clientBuilders := Arena.free w.clientBuilders b } : World Conn S).dropArcs builder.refs

def rustlsClientConfigFree (config : Ptr) : Api Conn S Unit :=
  ffiPanicBoundary do
    let (a, _) ← tryRefFromArc ArcValue.clientConfig? config
    .modify (·.dropFromRaw .clientConfig a)

/-- `BoxCastPtr::set_mut_ptr` on a connection. -/
def setConnPtr (connOut : Ptr) (c : Connection Conn) : Body Conn S ρ Unit := do
  let w ← Ffi.get
  .modify fun w => { w with conns := Arena.alloc w.conns c }
  writePtr connOut (some w.conns.length)

def rustlsClientConnectionNew (R : Rustls Conn S) (config : Ptr) (hostname : Option Bytes)
    (connOut : Ptr) : Api Conn S RustlsResult :=
  ffiPanicBoundary do
    let hostname ← tryRef hostname
    let (a, config) ← tryArcFromPtr ArcValue.clientConfig? config
    let client ← Ffi.inScope (·.dropArc a) do
      let hostname ← someOr .invalidDnsNameError (utf8Decode hostname)
      let serverName ← someOr .invalidDnsNameError (R.serverName hostname)
      -- The constructor owns the config and drops it unless it succeeds.
      unwrap (← callPure (R.clientConnectionNew config serverName))
    setConnPtr connOut (.new client .client a)
    pure .ok

end RustlsFfi
