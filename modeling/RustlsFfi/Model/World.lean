import RustlsFfi.Base.Arena
import RustlsFfi.Base.Counting
import RustlsFfi.Model.Error
import RustlsFfi.Model.Slice
import RustlsFfi.Model.Userdata

/-!
# The state behind the API

The objects C holds pointers to: configs, keys and client-certificate verifiers behind an `Arc`,
and builders, root stores and connections behind a `Box`. Addresses are positions in one arena
for each kind, with all `Arc`s in one heap.
-/

namespace RustlsFfi
open Control

abbrev Addr := Nat

/-- A pointer to an object or an output location; `none` is NULL. -/
abbrev Ptr := Option Addr

instance : PanicOrDefault Bool := ⟨false⟩
instance : PanicOrDefault Unit := ⟨()⟩
instance : PanicOrDefault Nat := ⟨0⟩
instance : PanicOrDefault UInt16 := ⟨0⟩
instance {α : Type} : PanicOrDefault (Option α) := ⟨none⟩
instance : NullParameterOrDefault Bool := ⟨false⟩
instance : NullParameterOrDefault Unit := ⟨()⟩
instance : NullParameterOrDefault Nat := ⟨0⟩
instance : NullParameterOrDefault UInt16 := ⟨0⟩
instance {α : Type} : NullParameterOrDefault (Option α) := ⟨none⟩

/-! ### Values behind an `Arc` -/

structure Certificate where
  der : Bytes
  deriving DecidableEq, Repr

/-- `Arc<dyn SigningKey>`, by the private key it was made from. -/
structure SigningKey where
  der : Bytes
  deriving DecidableEq, Repr

structure CertifiedKey where
  cert : List Certificate
  key : SigningKey
  ocsp : Option Bytes
  deriving DecidableEq, Repr

/-- `rustls::RootCertStore`, a trust anchor by the certificate it came from. -/
structure RootCertStore where
  roots : List Bytes
  deriving DecidableEq, Repr

/-- `rustls::SupportedCipherSuite`, by its IANA number. -/
inductive SupportedCipherSuite where
  | tls12 (suite : UInt16)
  | tls13 (suite : UInt16)
  deriving DecidableEq, Repr

inductive SupportedProtocolVersion where
  | TLS12
  | TLS13
  deriving DecidableEq, Repr

/-- `rustls::ConfigBuilder<_, WantsVerifier>`. -/
structure ConfigBase where
  suites : List SupportedCipherSuite
  versions : List SupportedProtocolVersion
  deriving DecidableEq, Repr

/-- `Arc<dyn ServerCertVerifier>`, as this crate creates it. -/
inductive ServerCertVerifier where
  | noneVerifier
  | verifier (callback : FnPtr)
  /-- `WebPkiVerifier` over a copy of the roots. -/
  | webPkiVerifier (roots : RootCertStore)
  deriving DecidableEq, Repr

/-- `Arc<dyn ClientCertVerifier>`. The last two share the `Arc` that C has a handle on. -/
inductive ClientCertVerifier where
  | noClientAuth
  | allowAnyAuthenticatedClient (verifier : Addr)
  | allowAnyAnonymousOrAuthenticatedClient (verifier : Addr)
  deriving DecidableEq, Repr

def ClientCertVerifier.refs : ClientCertVerifier → List Addr
  | .noClientAuth => []
  | .allowAnyAuthenticatedClient a => [a]
  | .allowAnyAnonymousOrAuthenticatedClient a => [a]

/-- `Arc<dyn ResolvesServerCert>`. -/
inductive ServerCertResolver where
  | resolvesServerCertFromChoices (choices : List Addr)
  | clientHelloResolver (callback : FnPtr)
  deriving DecidableEq, Repr

def ServerCertResolver.refs : ServerCertResolver → List Addr
  | .resolvesServerCertFromChoices choices => choices
  | .clientHelloResolver _ => []

/-- `ResolvesClientCertFromChoices`. -/
structure ClientCertResolver where
  keys : List Addr
  deriving DecidableEq, Repr

structure SessionStoreBroker where
  getCb : FnPtr
  putCb : FnPtr
  deriving DecidableEq, Repr

/-- `Arc<dyn StoresServerSessions>`. -/
inductive SessionStorage where
  /-- What rustls puts into a new `ServerConfig`. -/
  | builtin
  | broker (b : SessionStoreBroker)
  deriving DecidableEq, Repr

structure ClientConfig where
  base : ConfigBase
  verifier : ServerCertVerifier
  certResolver : Option ClientCertResolver
  alpnProtocols : List Bytes
  enableSni : Bool
  deriving DecidableEq, Repr

structure ServerConfig where
  base : ConfigBase
  verifier : ClientCertVerifier
  certResolver : ServerCertResolver
  sessionStorage : SessionStorage
  alpnProtocols : List Bytes
  ignoreClientOrder : Bool
  deriving DecidableEq, Repr

/-- The Rust value behind an `Arc` given to C. -/
inductive ArcValue where
  | certifiedKey (key : CertifiedKey)
  /-- `AllowAnyAuthenticatedClient`. -/
  | clientCertVerifier (roots : RootCertStore)
  /-- `AllowAnyAnonymousOrAuthenticatedClient`. -/
  | clientCertVerifierOptional (roots : RootCertStore)
  | clientConfig (config : ClientConfig)
  | serverConfig (config : ServerConfig)
  deriving DecidableEq, Repr

def resolverKeys (r : Option ClientCertResolver) : List Addr := r.elim [] ClientCertResolver.keys

def ArcValue.refs : ArcValue → List Addr
  | .clientConfig c => resolverKeys c.certResolver
  | .serverConfig c => c.verifier.refs ++ c.certResolver.refs
  | _ => []

def ArcValue.certifiedKey? : ArcValue → Option CertifiedKey
  | .certifiedKey k => some k
  | _ => none

def ArcValue.clientCertVerifier? : ArcValue → Option RootCertStore
  | .clientCertVerifier r => some r
  | _ => none

def ArcValue.clientCertVerifierOptional? : ArcValue → Option RootCertStore
  | .clientCertVerifierOptional r => some r
  | _ => none

def ArcValue.clientConfig? : ArcValue → Option ClientConfig
  | .clientConfig c => some c
  | _ => none

def ArcValue.serverConfig? : ArcValue → Option ServerConfig
  | .serverConfig c => some c
  | _ => none

abbrev Heap := Counting.Heap ArcValue

/-! ### Objects behind a `Box` -/

structure ClientConfigBuilder where
  base : ConfigBase
  verifier : ServerCertVerifier
  alpnProtocols : List Bytes
  enableSni : Bool
  certResolver : Option ClientCertResolver
  deriving DecidableEq, Repr

def ClientConfigBuilder.refs (b : ClientConfigBuilder) : List Addr := resolverKeys b.certResolver

structure ServerConfigBuilder where
  base : ConfigBase
  verifier : ClientCertVerifier
  certResolver : Option ServerCertResolver
  sessionStorage : Option SessionStoreBroker
  alpnProtocols : List Bytes
  ignoreClientOrder : Option Bool
  deriving DecidableEq, Repr

def resolverRefs (r : Option ServerCertResolver) : List Addr := r.elim [] ServerCertResolver.refs

def ServerConfigBuilder.refs (b : ServerConfigBuilder) : List Addr :=
  b.verifier.refs ++ resolverRefs b.certResolver

inductive Side where
  | client
  | server
  deriving DecidableEq, Repr

/-- `Connection`. `Conn` is the state of the rustls connection and `refs` the counted references
it owns. -/
structure Connection (Conn : Type) where
  conn : Conn
  side : Side
  refs : List Addr
  userdata : VoidPtr
  logCallback : Option FnPtr

/-- Memory of the caller that output parameters point into, by the type of the location. -/
structure Cells where
  size : Addr → Nat
  ptr : Addr → Ptr
  buf : Addr → Bytes
  data : Addr → Option Bytes

/-- The library's objects, one thread's userdata stack, the caller's memory, and the state `S` of
the C program that its callbacks work on. -/
structure World (Conn S : Type) where
  arcs : Heap
  clientBuilders : List (Option ClientConfigBuilder)
  serverBuilders : List (Option ServerConfigBuilder)
  stores : List (Option RootCertStore)
  conns : List (Option (Connection Conn))
  userdata : UserdataKey
  cells : Cells
  app : S

def World.initial {Conn S : Type} (s : S) : World Conn S where
  arcs := []
  clientBuilders := []
  serverBuilders := []
  stores := []
  conns := []
  userdata := {}
  cells := ⟨fun _ => 0, fun _ => none, fun _ => [], fun _ => none⟩
  app := s

abbrev Api (Conn S ρ : Type) := World Conn S → Outcome ρ × World Conn S

abbrev Body (Conn S ρ α : Type) := Ffi (World Conn S) ρ α

end RustlsFfi
