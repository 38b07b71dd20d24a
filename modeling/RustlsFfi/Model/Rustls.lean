import RustlsFfi.Model.World
import RustlsFfi.Model.Io

/-!
# The libraries underneath

What the bindings call in rustls, rustls-pemfile and the operating system, as arbitrary functions.
In an infallible call, `none` stands for a panic. Results that assume something about these
functions say so in their hypotheses.
-/

namespace RustlsFfi
open Control

inductive ServerName where
  | dnsName (name : String)
  | other
  deriving DecidableEq, Repr

inductive SignatureScheme where
  | RSA_PKCS1_SHA1 | ECDSA_SHA1_Legacy | RSA_PKCS1_SHA256 | ECDSA_NISTP256_SHA256
  | RSA_PKCS1_SHA384 | ECDSA_NISTP384_SHA384 | RSA_PKCS1_SHA512 | ECDSA_NISTP521_SHA512
  | RSA_PSS_SHA256 | RSA_PSS_SHA384 | RSA_PSS_SHA512 | ED25519 | ED448
  | unknown (n : UInt16)
  deriving DecidableEq, Repr

structure Rustls (Conn S : Type) where
  serverConnectionNew : ServerConfig → Res Error Conn
  clientConnectionNew : ClientConfig → ServerName → Res Error Conn
  readTls : Conn → Reader S → S → Res IoError Nat × Conn × S
  writeTls : Conn → Writer S → S → Res IoError Nat × Conn × S
  /-- `Connection::process_new_packets` of the connection at an address, with the callbacks it
  makes and what these do. -/
  processNewPackets : Addr → World Conn S → Res Error Unit × World Conn S
  writerWrite : Conn → Bytes → Res IoError Nat × Conn
  /-- `Reader::read` into a buffer. -/
  readerRead : Conn → Bytes → Res IoError Nat × Bytes × Conn
  /-- `Reader::read_buf` into an empty `ReadBuf` over a buffer, with its `filled_len`. -/
  readerReadBuf : Conn → Bytes → Res IoError Nat × Bytes × Conn
  wantsRead : Conn → Option Bool
  wantsWrite : Conn → Option Bool
  isHandshaking : Conn → Option Bool
  setBufferLimit : Conn → Nat → Option Conn
  sendCloseNotify : Conn → Option Conn
  peerCertificates : Conn → Option (Option (List Certificate))
  alpnProtocol : Conn → Option (Option Bytes)
  protocolVersion : Conn → Option (Option UInt16)
  negotiatedCipherSuite : Conn → Option (Option SupportedCipherSuite)
  sniHostname : Conn → Option (Option String)
  /-- `with_safe_defaults`. -/
  safeDefaults : ConfigBase
  /-- `with_protocol_versions` over a choice of suites. -/
  withProtocolVersions : List SupportedCipherSuite → List SupportedProtocolVersion → Res Unit Unit
  /-- `ServerConfig::ignore_client_order` of a new config. -/
  ignoreClientOrder : Bool
  serverName : String → Option ServerName
  /-- `SigningKey::choose_scheme(..).is_some()`. -/
  choosesScheme : SigningKey → List SignatureScheme → Option Bool
  anySupportedType : Bytes → Res Unit SigningKey
  /-- The test of `RootCertStore::add`. -/
  parsable : Bytes → Bool
  certs : Bytes → Res Unit (List Bytes)
  pkcs8PrivateKeys : Bytes → Res Unit (List Bytes)
  rsaPrivateKeys : Bytes → Res Unit (List Bytes)
  /-- `File::open` with the contents read through it. -/
  openFile : String → Option Bytes
  /-- `CipherSuite::as_str`. -/
  cipherSuiteName : SupportedCipherSuite → Option String
  /-- `Display for rustls::Error`. -/
  errorText : Error → String

/-- A library that accepts every input and does nothing with it, to run the model on. -/
def Rustls.inert {Conn S : Type} (conn : Conn) : Rustls Conn S where
  serverConnectionNew _ := .ok conn
  clientConnectionNew _ _ := .ok conn
  readTls c _ s := (.ok 0, c, s)
  writeTls c _ s := (.ok 0, c, s)
  processNewPackets _ w := (.ok (), w)
  writerWrite c b := (.ok b.length, c)
  readerRead c b := (.ok 0, b, c)
  readerReadBuf c b := (.ok 0, b, c)
  wantsRead _ := some false
  wantsWrite _ := some false
  isHandshaking _ := some false
  setBufferLimit c _ := some c
  sendCloseNotify c := some c
  peerCertificates _ := some none
  alpnProtocol _ := some none
  protocolVersion _ := some none
  negotiatedCipherSuite _ := some none
  sniHostname _ := some none
  safeDefaults := ⟨[], []⟩
  withProtocolVersions _ _ := .ok ()
  ignoreClientOrder := false
  serverName s := some (.dnsName s)
  choosesScheme _ _ := some true
  anySupportedType der := .ok ⟨der⟩
  parsable _ := true
  certs b := .ok [b]
  pkcs8PrivateKeys b := .ok [b]
  rsaPrivateKeys _ := .ok []
  openFile _ := some []
  cipherSuiteName _ := none
  errorText _ := ""

end RustlsFfi
