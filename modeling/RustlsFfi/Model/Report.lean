import RustlsFfi.Model.Cast

/-!
# Texts for the caller

`rustls_error` of `error.rs`, `rustls_log_level_str` of `log.rs` and `rustls_version` of `lib.rs`.
-/

namespace RustlsFfi
open Control

variable {Conn S : Type}

/-- `Display for rustls_result`. -/
def RustlsResult.toText (R : Rustls Conn S) : RustlsResult → String
  | .ok => "OK"
  | .io => "I/O error"
  | .nullParameter => "a parameter was NULL"
  | .invalidDnsNameError => "hostname was either malformed or an IP address " ++
      "(rustls does not support certificates for IP addresses)"
  | .panic => "a Rust component panicked"
  | .certificateParseError => "error parsing certificate"
  | .privateKeyParseError => "error parsing private key"
  | .insufficientSize => "provided buffer is of insufficient size"
  | .notFound => "the item was not found"
  | .invalidParameter => "a parameter had an invalid value"
  | .certInvalidData => "invalid certificate data found"
  | .unexpectedEof => "unexpected EOF"
  | .plaintextEmpty => "no plaintext available; call rustls_connection_read_tls again"
  | .inappropriateMessage => "received unexpected message"
  | .inappropriateHandshakeMessage => "received unexpected handshake message"
  | .corruptMessagePayload => "received corrupt message"
  | .peerIncompatibleError => "peer is incompatible"
  | .peerMisbehavedError => "peer misbehaved"
  | .general => "general error"
  | .corruptMessage => R.errorText .corruptMessage
  | .noCertificatesPresented => R.errorText .noCertificatesPresented
  | .decryptError => R.errorText .decryptError
  | .failedToGetCurrentTime => R.errorText .failedToGetCurrentTime
  | .failedToGetRandomBytes => R.errorText .failedToGetRandomBytes
  | .handshakeNotComplete => R.errorText .handshakeNotComplete
  | .peerSentOversizedRecord => R.errorText .peerSentOversizedRecord
  | .noApplicationProtocol => R.errorText .noApplicationProtocol
  | .badMaxFragmentSize => R.errorText .badMaxFragmentSize
  | .unsupportedNameType => R.errorText .unsupportedNameType
  | .encryptError => R.errorText .encryptError
  | .certInvalidEncoding => R.errorText .invalidCertificateEncoding
  | .certInvalidSignatureType => R.errorText .invalidCertificateSignatureType
  | .certInvalidSignature => R.errorText .invalidCertificateSignature
  | .alertCloseNotify => R.errorText (.alertReceived .closeNotify)
  | .alertUnexpectedMessage => R.errorText (.alertReceived .unexpectedMessage)
  | .alertBadRecordMac => R.errorText (.alertReceived .badRecordMac)
  | .alertDecryptionFailed => R.errorText (.alertReceived .decryptionFailed)
  | .alertRecordOverflow => R.errorText (.alertReceived .recordOverflow)
  | .alertDecompressionFailure => R.errorText (.alertReceived .decompressionFailure)
  | .alertHandshakeFailure => R.errorText (.alertReceived .handshakeFailure)
  | .alertNoCertificate => R.errorText (.alertReceived .noCertificate)
  | .alertBadCertificate => R.errorText (.alertReceived .badCertificate)
  | .alertUnsupportedCertificate => R.errorText (.alertReceived .unsupportedCertificate)
  | .alertCertificateRevoked => R.errorText (.alertReceived .certificateRevoked)
  | .alertCertificateExpired => R.errorText (.alertReceived .certificateExpired)
  | .alertCertificateUnknown => R.errorText (.alertReceived .certificateUnknown)
  | .alertIllegalParameter => R.errorText (.alertReceived .illegalParameter)
  | .alertUnknownCA => R.errorText (.alertReceived .unknownCA)
  | .alertAccessDenied => R.errorText (.alertReceived .accessDenied)
  | .alertDecodeError => R.errorText (.alertReceived .decodeError)
  | .alertDecryptError => R.errorText (.alertReceived .decryptError)
  | .alertExportRestriction => R.errorText (.alertReceived .exportRestriction)
  | .alertProtocolVersion => R.errorText (.alertReceived .protocolVersion)
  | .alertInsufficientSecurity => R.errorText (.alertReceived .insufficientSecurity)
  | .alertInternalError => R.errorText (.alertReceived .internalError)
  | .alertInappropriateFallback => R.errorText (.alertReceived .inappropriateFallback)
  | .alertUserCanceled => R.errorText (.alertReceived .userCanceled)
  | .alertNoRenegotiation => R.errorText (.alertReceived .noRenegotiation)
  | .alertMissingExtension => R.errorText (.alertReceived .missingExtension)
  | .alertUnsupportedExtension => R.errorText (.alertReceived .unsupportedExtension)
  | .alertCertificateUnobtainable => R.errorText (.alertReceived .certificateUnobtainable)
  | .alertUnrecognisedName => R.errorText (.alertReceived .unrecognisedName)
  | .alertBadCertificateStatusResponse => R.errorText (.alertReceived .badCertificateStatusResponse)
  | .alertBadCertificateHashValue => R.errorText (.alertReceived .badCertificateHashValue)
  | .alertUnknownPSKIdentity => R.errorText (.alertReceived .unknownPSKIdentity)
  | .alertCertificateRequired => R.errorText (.alertReceived .certificateRequired)
  | .alertNoApplicationProtocol => R.errorText (.alertReceived .noApplicationProtocol)
  | .alertUnknown => R.errorText (.alertReceived (.unknown 0))
  | .certSctMalformed => R.errorText (.invalidSct .malformedSct)
  | .certSctInvalidSignature => R.errorText (.invalidSct .invalidSignature)
  | .certSctTimestampInFuture => R.errorText (.invalidSct .timestampInFuture)
  | .certSctUnsupportedVersion => R.errorText (.invalidSct .unsupportedSctVersion)
  | .certSctUnknownLog => R.errorText (.invalidSct .unknownLog)

/-- Subtraction of a `usize` of `width` bits in a release build. -/
def usizeSub (width a b : Nat) : Nat := (a + 2 ^ width - b) % 2 ^ width

/-- `rustls_error` where a `usize` has `width` bits. `buf` names memory of the caller, which may reach
further than `len`. -/
def rustlsErrorOn (width : Nat) (R : Rustls Conn S) (result : UInt32) (buf : Ptr) (len : Nat) (outN : Ptr) :
    Api Conn S Unit :=
  ffiPanicBoundary do
    let l ← nonNullOr () buf
    rejectIfNull outN ()
    let result := (RustlsResult.tryFrom result).getD .invalidParameter
    let errorStr := utf8 (result.toText R)
    let outLen := min (usizeSub width len 1) errorStr.length
    let w ← Ffi.get
    writeBuf buf (errorStr.take outLen ++ (w.cells.buf l).drop outLen)
    writeSize outN outLen

def rustlsError (R : Rustls Conn S) (result : UInt32) (buf : Ptr) (len : Nat) (outN : Ptr) : Api Conn S Unit :=
  rustlsErrorOn 64 R result buf len outN

def rustlsLogLevelStr (level : Nat) : RustlsStr :=
  .fromStrUnchecked <| match level with
    | 1 => "ERROR"
    | 2 => "WARN"
    | 3 => "INFO"
    | 4 => "DEBUG"
    | 5 => "TRACE"
    | _ => "INVALID"

/-- `RUSTLS_FFI_VERSION`, as the build script writes it. -/
def RUSTLS_FFI_VERSION : String := "rustls-ffi/0.9.1/rustls/0.20.4"

def rustlsVersion : RustlsStr := .fromStrUnchecked RUSTLS_FFI_VERSION

end RustlsFfi
