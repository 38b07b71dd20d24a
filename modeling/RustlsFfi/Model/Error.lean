import RustlsFfi.Base.Control

/-!
# Result codes

`error.rs`: the codes handed to C and the tables between them and the errors of rustls.
-/

namespace RustlsFfi
open Control

/-- `rustls_io_result`, a `c_int`. -/
structure RustlsIoResult where
  code : Int32
  deriving DecidableEq, Repr

def EINVAL : Int32 := 22

def EIO : Int32 := 5

inductive RustlsResult where
  | ok | io | nullParameter | invalidDnsNameError | panic | certificateParseError
  | privateKeyParseError | insufficientSize | notFound | invalidParameter | unexpectedEof
  | plaintextEmpty | corruptMessage | noCertificatesPresented | decryptError
  | failedToGetCurrentTime | failedToGetRandomBytes | handshakeNotComplete
  | peerSentOversizedRecord | noApplicationProtocol | badMaxFragmentSize | unsupportedNameType
  | encryptError | certInvalidEncoding | certInvalidSignatureType | certInvalidSignature
  | certInvalidData | peerIncompatibleError | peerMisbehavedError | inappropriateMessage
  | inappropriateHandshakeMessage | corruptMessagePayload | general | alertCloseNotify
  | alertUnexpectedMessage | alertBadRecordMac | alertDecryptionFailed | alertRecordOverflow
  | alertDecompressionFailure | alertHandshakeFailure | alertNoCertificate | alertBadCertificate
  | alertUnsupportedCertificate | alertCertificateRevoked | alertCertificateExpired
  | alertCertificateUnknown | alertIllegalParameter | alertUnknownCA | alertAccessDenied
  | alertDecodeError | alertDecryptError | alertExportRestriction | alertProtocolVersion
  | alertInsufficientSecurity | alertInternalError | alertInappropriateFallback
  | alertUserCanceled | alertNoRenegotiation | alertMissingExtension | alertUnsupportedExtension
  | alertCertificateUnobtainable | alertUnrecognisedName | alertBadCertificateStatusResponse
  | alertBadCertificateHashValue | alertUnknownPSKIdentity | alertCertificateRequired
  | alertNoApplicationProtocol | alertUnknown | certSctMalformed | certSctInvalidSignature
  | certSctTimestampInFuture | certSctUnsupportedVersion | certSctUnknownLog
  deriving DecidableEq, Repr

namespace RustlsResult

def code : RustlsResult → UInt32
  | .ok => 7000
  | .io => 7001
  | .nullParameter => 7002
  | .invalidDnsNameError => 7003
  | .panic => 7004
  | .certificateParseError => 7005
  | .privateKeyParseError => 7006
  | .insufficientSize => 7007
  | .notFound => 7008
  | .invalidParameter => 7009
  | .unexpectedEof => 7010
  | .plaintextEmpty => 7011
  | .corruptMessage => 7100
  | .noCertificatesPresented => 7101
  | .decryptError => 7102
  | .failedToGetCurrentTime => 7103
  | .failedToGetRandomBytes => 7113
  | .handshakeNotComplete => 7104
  | .peerSentOversizedRecord => 7105
  | .noApplicationProtocol => 7106
  | .badMaxFragmentSize => 7114
  | .unsupportedNameType => 7115
  | .encryptError => 7116
  | .certInvalidEncoding => 7117
  | .certInvalidSignatureType => 7118
  | .certInvalidSignature => 7119
  | .certInvalidData => 7120
  | .peerIncompatibleError => 7107
  | .peerMisbehavedError => 7108
  | .inappropriateMessage => 7109
  | .inappropriateHandshakeMessage => 7110
  | .corruptMessagePayload => 7111
  | .general => 7112
  | .alertCloseNotify => 7200
  | .alertUnexpectedMessage => 7201
  | .alertBadRecordMac => 7202
  | .alertDecryptionFailed => 7203
  | .alertRecordOverflow => 7204
  | .alertDecompressionFailure => 7205
  | .alertHandshakeFailure => 7206
  | .alertNoCertificate => 7207
  | .alertBadCertificate => 7208
  | .alertUnsupportedCertificate => 7209
  | .alertCertificateRevoked => 7210
  | .alertCertificateExpired => 7211
  | .alertCertificateUnknown => 7212
  | .alertIllegalParameter => 7213
  | .alertUnknownCA => 7214
  | .alertAccessDenied => 7215
  | .alertDecodeError => 7216
  | .alertDecryptError => 7217
  | .alertExportRestriction => 7218
  | .alertProtocolVersion => 7219
  | .alertInsufficientSecurity => 7220
  | .alertInternalError => 7221
  | .alertInappropriateFallback => 7222
  | .alertUserCanceled => 7223
  | .alertNoRenegotiation => 7224
  | .alertMissingExtension => 7225
  | .alertUnsupportedExtension => 7226
  | .alertCertificateUnobtainable => 7227
  | .alertUnrecognisedName => 7228
  | .alertBadCertificateStatusResponse => 7229
  | .alertBadCertificateHashValue => 7230
  | .alertUnknownPSKIdentity => 7231
  | .alertCertificateRequired => 7232
  | .alertNoApplicationProtocol => 7233
  | .alertUnknown => 7234
  | .certSctMalformed => 7319
  | .certSctInvalidSignature => 7320
  | .certSctTimestampInFuture => 7321
  | .certSctUnsupportedVersion => 7322
  | .certSctUnknownLog => 7323

def variants : List RustlsResult :=
  [.ok, .io, .nullParameter, .invalidDnsNameError, .panic, .certificateParseError,
   .privateKeyParseError, .insufficientSize, .notFound, .invalidParameter, .unexpectedEof,
   .plaintextEmpty, .corruptMessage, .noCertificatesPresented, .decryptError,
   .failedToGetCurrentTime, .failedToGetRandomBytes, .handshakeNotComplete,
   .peerSentOversizedRecord, .noApplicationProtocol, .badMaxFragmentSize, .unsupportedNameType,
   .encryptError, .certInvalidEncoding, .certInvalidSignatureType, .certInvalidSignature,
   .certInvalidData, .peerIncompatibleError, .peerMisbehavedError, .inappropriateMessage,
   .inappropriateHandshakeMessage, .corruptMessagePayload, .general, .alertCloseNotify,
   .alertUnexpectedMessage, .alertBadRecordMac, .alertDecryptionFailed, .alertRecordOverflow,
   .alertDecompressionFailure, .alertHandshakeFailure, .alertNoCertificate, .alertBadCertificate,
   .alertUnsupportedCertificate, .alertCertificateRevoked, .alertCertificateExpired,
   .alertCertificateUnknown, .alertIllegalParameter, .alertUnknownCA, .alertAccessDenied,
   .alertDecodeError, .alertDecryptError, .alertExportRestriction, .alertProtocolVersion,
   .alertInsufficientSecurity, .alertInternalError, .alertInappropriateFallback,
   .alertUserCanceled, .alertNoRenegotiation, .alertMissingExtension, .alertUnsupportedExtension,
   .alertCertificateUnobtainable, .alertUnrecognisedName, .alertBadCertificateStatusResponse,
   .alertBadCertificateHashValue, .alertUnknownPSKIdentity, .alertCertificateRequired,
   .alertNoApplicationProtocol, .alertUnknown, .certSctMalformed, .certSctInvalidSignature,
   .certSctTimestampInFuture, .certSctUnsupportedVersion, .certSctUnknownLog]

/-- The derived `TryFromPrimitive`: the variant with discriminant `n`, if there is one. -/
def tryFrom (n : UInt32) : Option RustlsResult := variants.find? (fun r => r.code == n)

theorem tryFrom_code {n : UInt32} {r : RustlsResult} (h : tryFrom n = some r) : r.code = n := by
  simpa using List.find?_some h

theorem tryFrom_of_code (r : RustlsResult) : tryFrom r.code = some r := by
  cases r <;> decide

theorem tryFrom_eq_ok_iff (c : UInt32) :
    (tryFrom c).getD .general = .ok ↔ c = code .ok := by
  constructor
  · intro passed
    cases known : tryFrom c with
    | none => simp [known] at passed
    | some r =>
      obtain rfl : r = .ok := by simpa [known] using passed
      exact (tryFrom_code known).symm
  · rintro rfl
    rw [tryFrom_of_code]
    rfl

end RustlsResult

instance : PanicOrDefault RustlsResult := ⟨.panic⟩
instance : NullParameterOrDefault RustlsResult := ⟨.nullParameter⟩
instance : PanicOrDefault RustlsIoResult := ⟨⟨EINVAL⟩⟩
instance : NullParameterOrDefault RustlsIoResult := ⟨⟨EINVAL⟩⟩

@[simp] theorem panicValue_result : (PanicOrDefault.panicValue : RustlsResult) = .panic := rfl

@[simp] theorem nullValue_result :
    (NullParameterOrDefault.nullValue : RustlsResult) = .nullParameter := rfl

@[simp] theorem panicValue_io : (PanicOrDefault.panicValue : RustlsIoResult) = ⟨EINVAL⟩ := rfl

@[simp] theorem nullValue_io : (NullParameterOrDefault.nullValue : RustlsIoResult) = ⟨EINVAL⟩ := rfl

inductive AlertDescription where
  | closeNotify | unexpectedMessage | badRecordMac | decryptionFailed | recordOverflow
  | decompressionFailure | handshakeFailure | noCertificate | badCertificate
  | unsupportedCertificate | certificateRevoked | certificateExpired | certificateUnknown
  | illegalParameter | unknownCA | accessDenied | decodeError | decryptError | exportRestriction
  | protocolVersion | insufficientSecurity | internalError | inappropriateFallback | userCanceled
  | noRenegotiation | missingExtension | unsupportedExtension | certificateUnobtainable
  | unrecognisedName | badCertificateStatusResponse | badCertificateHashValue
  | unknownPSKIdentity | certificateRequired | noApplicationProtocol | unknown (n : UInt8)
  deriving DecidableEq, Repr

inductive SctError where
  | malformedSct | invalidSignature | timestampInFuture | unsupportedSctVersion | unknownLog
  deriving DecidableEq, Repr

/-- `rustls::Error`. The payloads that every use drops are left out. -/
inductive Error where
  | inappropriateMessage | inappropriateHandshakeMessage | corruptMessage | corruptMessagePayload
  | noCertificatesPresented | decryptError
  | peerIncompatibleError (reason : String) | peerMisbehavedError (reason : String)
  | unsupportedNameType | encryptError | failedToGetCurrentTime | failedToGetRandomBytes
  | handshakeNotComplete | peerSentOversizedRecord | noApplicationProtocol | badMaxFragmentSize
  | invalidCertificateEncoding | invalidCertificateSignatureType | invalidCertificateSignature
  | invalidCertificateData (reason : String) | general (reason : String)
  | alertReceived (e : AlertDescription) | invalidSct (e : SctError)
  deriving DecidableEq, Repr

def AlertDescription.mapAlert : AlertDescription → RustlsResult
  | .closeNotify => .alertCloseNotify
  | .unexpectedMessage => .alertUnexpectedMessage
  | .badRecordMac => .alertBadRecordMac
  | .decryptionFailed => .alertDecryptionFailed
  | .recordOverflow => .alertRecordOverflow
  | .decompressionFailure => .alertDecompressionFailure
  | .handshakeFailure => .alertHandshakeFailure
  | .noCertificate => .alertNoCertificate
  | .badCertificate => .alertBadCertificate
  | .unsupportedCertificate => .alertUnsupportedCertificate
  | .certificateRevoked => .alertCertificateRevoked
  | .certificateExpired => .alertCertificateExpired
  | .certificateUnknown => .alertCertificateUnknown
  | .illegalParameter => .alertIllegalParameter
  | .unknownCA => .alertUnknownCA
  | .accessDenied => .alertAccessDenied
  | .decodeError => .alertDecodeError
  | .decryptError => .alertDecryptError
  | .exportRestriction => .alertExportRestriction
  | .protocolVersion => .alertProtocolVersion
  | .insufficientSecurity => .alertInsufficientSecurity
  | .internalError => .alertInternalError
  | .inappropriateFallback => .alertInappropriateFallback
  | .userCanceled => .alertUserCanceled
  | .noRenegotiation => .alertNoRenegotiation
  | .missingExtension => .alertMissingExtension
  | .unsupportedExtension => .alertUnsupportedExtension
  | .certificateUnobtainable => .alertCertificateUnobtainable
  | .unrecognisedName => .alertUnrecognisedName
  | .badCertificateStatusResponse => .alertBadCertificateStatusResponse
  | .badCertificateHashValue => .alertBadCertificateHashValue
  | .unknownPSKIdentity => .alertUnknownPSKIdentity
  | .certificateRequired => .alertCertificateRequired
  | .noApplicationProtocol => .alertNoApplicationProtocol
  | .unknown _ => .alertUnknown

def SctError.mapSct : SctError → RustlsResult
  | .malformedSct => .certSctMalformed
  | .invalidSignature => .certSctInvalidSignature
  | .timestampInFuture => .certSctTimestampInFuture
  | .unsupportedSctVersion => .certSctUnsupportedVersion
  | .unknownLog => .certSctUnknownLog

def mapError : Error → RustlsResult
  | .inappropriateMessage => .inappropriateMessage
  | .inappropriateHandshakeMessage => .inappropriateHandshakeMessage
  | .corruptMessage => .corruptMessage
  | .corruptMessagePayload => .corruptMessagePayload
  | .noCertificatesPresented => .noCertificatesPresented
  | .decryptError => .decryptError
  | .peerIncompatibleError _ => .peerIncompatibleError
  | .peerMisbehavedError _ => .peerMisbehavedError
  | .unsupportedNameType => .unsupportedNameType
  | .encryptError => .encryptError
  | .failedToGetCurrentTime => .failedToGetCurrentTime
  | .failedToGetRandomBytes => .failedToGetRandomBytes
  | .handshakeNotComplete => .handshakeNotComplete
  | .peerSentOversizedRecord => .peerSentOversizedRecord
  | .noApplicationProtocol => .noApplicationProtocol
  | .badMaxFragmentSize => .badMaxFragmentSize
  | .invalidCertificateEncoding => .certInvalidEncoding
  | .invalidCertificateSignatureType => .certInvalidSignatureType
  | .invalidCertificateSignature => .certInvalidSignature
  | .invalidCertificateData _ => .certInvalidData
  | .general _ => .general
  | .alertReceived e => e.mapAlert
  | .invalidSct e => e.mapSct

/-- The `matches!` of `rustls_result_is_cert_error`. -/
def RustlsResult.isCertError : RustlsResult → Bool
  | .certInvalidEncoding | .certInvalidSignatureType | .certInvalidSignature | .certInvalidData
  | .certSctMalformed | .certSctInvalidSignature | .certSctTimestampInFuture
  | .certSctUnsupportedVersion | .certSctUnknownLog => true
  | _ => false

def rustlsResultIsCertError (result : UInt32) : Bool :=
  ((RustlsResult.tryFrom result).getD .invalidParameter).isCertError

def certResultToError : RustlsResult → Error
  | .certInvalidEncoding => .invalidCertificateEncoding
  | .certInvalidSignatureType => .invalidCertificateSignatureType
  | .certInvalidSignature => .invalidCertificateSignature
  | .certInvalidData => .invalidCertificateData ""
  | .certSctMalformed => .invalidSct .malformedSct
  | .certSctInvalidSignature => .invalidSct .invalidSignature
  | .certSctTimestampInFuture => .invalidSct .timestampInFuture
  | .certSctUnsupportedVersion => .invalidSct .unsupportedSctVersion
  | .certSctUnknownLog => .invalidSct .unknownLog
  | _ => .general ""

/-! ### The tables against each other -/

theorem mapAlert_ne_panic (e : AlertDescription) : e.mapAlert ≠ .panic := by
  cases e <;> simp [AlertDescription.mapAlert]

theorem mapAlert_ne_ok (e : AlertDescription) : e.mapAlert ≠ .ok := by
  cases e <;> simp [AlertDescription.mapAlert]

theorem mapError_ne_panic (e : Error) : mapError e ≠ .panic := by
  cases e with
  | alertReceived e => exact mapAlert_ne_panic e
  | invalidSct e => cases e <;> decide
  | _ => simp [mapError]

theorem mapError_ne_ok (e : Error) : mapError e ≠ .ok := by
  cases e with
  | alertReceived e => exact mapAlert_ne_ok e
  | invalidSct e => cases e <;> decide
  | _ => simp [mapError]

/-- The two tables and the predicate agree: a certificate code survives the trip through
`rustls::Error`, and every other code comes back as `General`. -/
theorem mapError_certResultToError (r : RustlsResult) :
    mapError (certResultToError r) = if r.isCertError then r else .general := by
  cases r <;> rfl

end RustlsFfi
