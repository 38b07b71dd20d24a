import RustlsFfi.Model.Client

/-!
# Server configs

`server.rs`.
-/

namespace RustlsFfi
open Control

variable {Conn S ρ τ : Type}

def World.putServerBuilder (b : Addr) (builder : ServerConfigBuilder) (w : World Conn S) :
    World Conn S :=
  { w with serverBuilders := Arena.put w.serverBuilders b builder }

/-! ### Creation -/

def ServerConfigBuilder.new (base : ConfigBase) : ServerConfigBuilder where
  base := base
  verifier := .noClientAuth
  certResolver := none
  sessionStorage := none
  alpnProtocols := []
  ignoreClientOrder := none

/-- `BoxCastPtr::to_mut_ptr` on a server builder. -/
def serverBuilderToMutPtr (builder : ServerConfigBuilder) : Body Conn S ρ Ptr := fun w =>
  (.next (some w.serverBuilders.length),
    { w with serverBuilders := Arena.alloc w.serverBuilders builder })

def rustlsServerConfigBuilderNew (R : Rustls Conn S) : Api Conn S Ptr :=
  ffiPanicBoundary (serverBuilderToMutPtr (.new R.safeDefaults))

def rustlsServerConfigBuilderNewCustom (R : Rustls Conn S)
    (cipherSuites : Option (List (Option SupportedCipherSuite))) (cipherSuitesLen : Nat)
    (tlsVersions : Option (List UInt16)) (tlsVersionsLen : Nat) (builderOut : Ptr) :
    Api Conn S RustlsResult :=
  configBuilderNewCustom R (fun base => serverBuilderToMutPtr (.new base)) cipherSuites cipherSuitesLen tlsVersions
    tlsVersionsLen builderOut

/-! ### Setters -/

/-- The body that the two client-verifier setters share: the assignment drops the old verifier. -/
def setClientVerifier (as : ArcValue → Option τ) (slot : Addr → ClientCertVerifier)
    (builder verifier : Ptr) : Api Conn S Unit :=
  ffiPanicBoundary do
    let (b, builder) ← tryFromPtr World.serverBuilders builder
    let (verifier, _) ← tryArcFromPtr as verifier
    .modify (·.putServerBuilder b { builder with verifier := slot verifier })
    .modify (·.dropArcs builder.verifier.refs)

def rustlsServerConfigBuilderSetClientVerifier (builder verifier : Ptr) : Api Conn S Unit :=
  setClientVerifier ArcValue.clientCertVerifier? .allowAnyAuthenticatedClient builder verifier

def rustlsServerConfigBuilderSetClientVerifierOptional (builder verifier : Ptr) : Api Conn S Unit :=
  setClientVerifier ArcValue.clientCertVerifierOptional? .allowAnyAnonymousOrAuthenticatedClient
    builder verifier

def rustlsServerConfigBuilderSetIgnoreClientOrder (builder : Ptr) (ignore : Bool) :
    Api Conn S RustlsResult :=
  ffiPanicBoundary do
    let (b, config) ← tryFromPtr World.serverBuilders builder
    .modify (·.putServerBuilder b { config with ignoreClientOrder := some ignore })
    pure .ok

def rustlsServerConfigBuilderSetAlpnProtocols (builder : Ptr)
    (protocols : Option (List RustlsSliceBytes)) (len : Nat) : Api Conn S RustlsResult :=
  setAlpnProtocols World.serverBuilders
    (fun b config vv w => w.putServerBuilder b { config with alpnProtocols := vv }) builder protocols len

def rustlsServerConfigBuilderSetCertifiedKeys (builder : Ptr) (certifiedKeys : Option (List Ptr))
    (certifiedKeysLen : Nat) : Api Conn S RustlsResult :=
  ffiPanicBoundary do
    let (b, builder) ← tryFromPtr World.serverBuilders builder
    let keysPtrs ← trySlice certifiedKeys certifiedKeysLen
    let keys ← collectKeys keysPtrs []
    -- `ResolvesServerCertFromChoices::new(&keys)` clones every `Arc` into its own `Vec`.
    .modify fun w => keys.foldl (fun w key => w.retain key) w
    .modify (·.putServerBuilder b
      { builder with certResolver := some (.resolvesServerCertFromChoices keys) })
    .modify (·.dropArcs (resolverRefs builder.certResolver))
    -- The local `keys` goes out of scope.
    .modify (·.dropArcs keys)
    pure .ok

/-- `rustls_server_config_builder_set_hello_callback`: the callback is checked first. -/
def rustlsServerConfigBuilderSetHelloCallback (builder : Ptr) (callback : Option FnPtr) :
    Api Conn S RustlsResult :=
  ffiPanicBoundary do
    let callback ← tryRef callback
    let (b, builder) ← tryFromPtr World.serverBuilders builder
    .modify (·.putServerBuilder b
      { builder with certResolver := some (.clientHelloResolver callback) })
    .modify (·.dropArcs (resolverRefs builder.certResolver))
    pure .ok

/-- `rustls_server_config_builder_set_persistence`: the callbacks are checked first. -/
def rustlsServerConfigBuilderSetPersistence (builder : Ptr) (getCb putCb : Option FnPtr) :
    Api Conn S RustlsResult :=
  ffiPanicBoundary do
    let getCb ← tryRef getCb
    let putCb ← tryRef putCb
    let (b, builder) ← tryFromPtr World.serverBuilders builder
    .modify (·.putServerBuilder b { builder with sessionStorage := some ⟨getCb, putCb⟩ })
    pure .ok

/-! ### Building and freeing -/

/-- The config that a builder with resolver `r` turns into. -/
def ServerConfigBuilder.toConfig (R : Rustls Conn S) (builder : ServerConfigBuilder)
    (r : ServerCertResolver) : ServerConfig where
  base := builder.base
  verifier := builder.verifier
  certResolver := r
  sessionStorage := builder.sessionStorage.elim .builtin .broker
  alpnProtocols := builder.alpnProtocols
  ignoreClientOrder := builder.ignoreClientOrder.getD R.ignoreClientOrder

def rustlsServerConfigBuilderBuild (R : Rustls Conn S) (builder : Ptr) : Api Conn S Ptr :=
  ffiPanicBoundary do
    let (b, builder) ← tryFromPtr World.serverBuilders builder
    .modify fun w => { w with serverBuilders := Arena.free w.serverBuilders b }
    match builder.certResolver with
    | some r => toConstPtr (.serverConfig (builder.toConfig R r))
    | none => do
      -- The builder is gone, and the verifier with it.
      .modify (·.dropArcs builder.verifier.refs)
      .ret none

/-- `rustls_server_config_builder_free`: NULL is not an early return here. -/
def rustlsServerConfigBuilderFree (config : Ptr) : Api Conn S Unit :=
  ffiPanicBoundary do
    match config with
    | none => pure ()
    | some _ => do
      let (b, builder) ← tryFromPtr World.serverBuilders config
      .modify fun w =>
        ({ w with serverBuilders := Arena.free w.serverBuilders b } : World Conn S).dropArcs builder.refs

def rustlsServerConfigFree (config : Ptr) : Api Conn S Unit :=
  ffiPanicBoundary do
    let (a, _) ← tryRefFromArc ArcValue.serverConfig? config
    .modify (·.dropFromRaw .serverConfig a)

def rustlsServerConnectionNew (R : Rustls Conn S) (config connOut : Ptr) :
    Api Conn S RustlsResult :=
  ffiPanicBoundary do
    let (a, config) ← tryArcFromPtr ArcValue.serverConfig? config
    -- The constructor owns the config and drops it unless it succeeds.
    let serverConnection ← Ffi.inScope (·.dropArc a) do
      okOr mapError (← callPure (R.serverConnectionNew config))
    setConnPtr connOut (.new serverConnection .server a)
    pure .ok

def rustlsServerConnectionGetSniHostname (R : Rustls Conn S) (conn buf : Ptr) (count : Nat)
    (outN : Ptr) : Api Conn S RustlsResult :=
  ffiPanicBoundary do
    let (_, c) ← tryFromPtr World.conns conn
    let l ← nonNullOr .nullParameter buf
    rejectIfNull outN .nullParameter
    let serverConnection ← someOr .invalidParameter c.asServer
    match ← mayPanic (R.sniHostname serverConnection) with
    | none => do
      writeSize outN 0
      .ret .ok
    | some sniHostname => do
      let len := (utf8 sniHostname).length
      if len > count then do
        writeSize outN 0
        .ret .insufficientSize
      else do
        let w ← Ffi.get
        writeBuf buf (utf8 sniHostname ++ (w.cells.buf l).drop len)
        writeSize outN len
        pure .ok

/-! ### Choosing a certified key -/

structure RustlsClientHello where
  sniName : RustlsStr
  signatureSchemes : RustlsSliceU16
  alpn : Option RustlsSliceSliceBytes
  deriving DecidableEq, Repr

/-- `sigschemes`, for one number. -/
def sigscheme (n : UInt16) : SignatureScheme :=
  if n = 0x0201 then .RSA_PKCS1_SHA1
  else if n = 0x0203 then .ECDSA_SHA1_Legacy
  else if n = 0x0401 then .RSA_PKCS1_SHA256
  else if n = 0x0403 then .ECDSA_NISTP256_SHA256
  else if n = 0x0501 then .RSA_PKCS1_SHA384
  else if n = 0x0503 then .ECDSA_NISTP384_SHA384
  else if n = 0x0601 then .RSA_PKCS1_SHA512
  else if n = 0x0603 then .ECDSA_NISTP521_SHA512
  else if n = 0x0804 then .RSA_PSS_SHA256
  else if n = 0x0805 then .RSA_PSS_SHA384
  else if n = 0x0806 then .RSA_PSS_SHA512
  else if n = 0x0807 then .ED25519
  else if n = 0x0808 then .ED448
  else .unknown n

def sigschemes (input : List UInt16) : List SignatureScheme := input.map sigscheme

/-- The loop of `rustls_client_hello_select_certified_key`. -/
def selectCertifiedKey (R : Rustls Conn S) (schemes : List SignatureScheme) (outKey : Ptr) :
    List Ptr → Body Conn S RustlsResult RustlsResult
  | [] => pure .notFound
  | keyPtr :: rest => do
    let (_, key) ← tryRefFromArc ArcValue.certifiedKey? keyPtr
    if ← mayPanic (R.choosesScheme key.key schemes) then do
      writePtr outKey keyPtr
      .ret .ok
    else selectCertifiedKey R schemes outKey rest

def rustlsClientHelloSelectCertifiedKey (R : Rustls Conn S) (hello : Option RustlsClientHello)
    (certifiedKeys : Option (List Ptr)) (certifiedKeysLen : Nat) (outKey : Ptr) :
    Api Conn S RustlsResult :=
  ffiPanicBoundary do
    let hello ← tryRef hello
    let schemes ← trySlice hello.signatureSchemes.data hello.signatureSchemes.len
    rejectIfNull outKey .nullParameter
    let keysPtrs ← trySlice certifiedKeys certifiedKeysLen
    selectCertifiedKey R (sigschemes schemes) outKey keysPtrs

end RustlsFfi
