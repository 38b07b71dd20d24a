import RustlsFfi.Model.Server

/-!
# Callbacks into C

The trait implementations through which rustls calls C: the certificate verifier of `client.rs`,
the session store of `session.rs`, the certificate resolvers of `server.rs` and `client.rs`, and the
logger of `log.rs`. `CFunctions` says what the functions behind the stored pointers do to the state of
the C program. The functions that may call the API in turn work on the whole state.
-/

namespace RustlsFfi
open Control

variable {Conn S : Type}

structure RustlsVerifyServerCertParams where
  endEntityCertDer : RustlsSliceBytes
  intermediateCertsDer : RustlsSliceSliceBytes
  dnsName : RustlsStr
  ocspResponse : RustlsSliceBytes
  deriving DecidableEq, Repr

/-- What a `SessionStoreGetCallback` leaves behind: its code, the buffer and `*out_n`. -/
structure SessionGetReturn where
  result : UInt32
  buf : Bytes
  outN : Nat
  deriving DecidableEq, Repr

structure CFunctions (S : Type) where
  verify : FnPtr → VoidPtr → RustlsVerifyServerCertParams → S → UInt32 × S
  /-- `SessionStoreGetCallback`: key, `remove_after`, the buffer, `count` and the initial `*out_n`. -/
  sessionGet : FnPtr → VoidPtr → RustlsSliceBytes → Int32 → Bytes → Nat → Nat → S → SessionGetReturn × S
  sessionPut : FnPtr → VoidPtr → RustlsSliceBytes → RustlsSliceBytes → S → UInt32 × S

/-! ### Server certificates -/

structure Verifier where
  callback : FnPtr
  deriving DecidableEq, Repr

def verifyParams (endEntity : Certificate) (intermediates : List Certificate) (dnsName : RustlsStr)
    (ocspResponse : Bytes) : RustlsVerifyServerCertParams where
  endEntityCertDer := .ofSlice endEntity.der
  intermediateCertsDer := ⟨intermediates.map Certificate.der⟩
  dnsName := dnsName
  ocspResponse := .ofSlice ocspResponse

def Verifier.verifyServerCert (C : CFunctions S) (v : Verifier) (endEntity : Certificate)
    (intermediates : List Certificate) (serverName : ServerName) (ocspResponse : Bytes)
    (w : World Conn S) : Except Error Unit × World Conn S :=
  match serverName with
  | .other => (.error (.general "unknown name type"), w)
  | .dnsName n =>
    match RustlsStr.tryFrom n with
    | none => (.error (.general "NUL byte in SNI"), w)
    | some dnsName =>
      let params := verifyParams endEntity intermediates dnsName ocspResponse
      match userdataGet w.userdata with
      | .error _ => (.error (.general "internal error with thread-local storage"), w)
      | .ok userdata =>
        let (result, s) := C.verify v.callback userdata params w.app
        let w := { w with app := s }
        match (RustlsResult.tryFrom result).getD .general with
        | .ok => (.ok (), w)
        | r => (.error (certResultToError r), w)

/-- `NoneVerifier::verify_server_cert`. -/
def NoneVerifier.verifyServerCert (_endEntity : Certificate) (_intermediates : List Certificate)
    (_serverName : ServerName) (_ocspResponse : Bytes) : Except Error Unit :=
  .error .invalidCertificateSignature

/-- The verifier of a client config, with `webPki` for what `WebPkiVerifier` makes of its roots. -/
def ServerCertVerifier.verifyServerCert (C : CFunctions S)
    (webPki : RootCertStore → Certificate → List Certificate → ServerName → Bytes → Except Error Unit)
    (v : ServerCertVerifier) (endEntity : Certificate) (intermediates : List Certificate)
    (serverName : ServerName) (ocspResponse : Bytes) (w : World Conn S) : Except Error Unit × World Conn S :=
  match v with
  | .noneVerifier => (NoneVerifier.verifyServerCert endEntity intermediates serverName ocspResponse, w)
  | .verifier callback =>
    Verifier.verifyServerCert C ⟨callback⟩ endEntity intermediates serverName ocspResponse w
  | .webPkiVerifier roots => (webPki roots endEntity intermediates serverName ocspResponse, w)

/-! ### Sessions -/

namespace SessionStoreBroker

/-- `SessionStoreBroker::retrieve`. `set_len` is undefined past the capacity of the buffer. -/
def retrieve (C : CFunctions S) (b : SessionStoreBroker) (key : Bytes) (remove : Bool)
    (w : World Conn S) : Except Fault (Option Bytes) × World Conn S :=
  match userdataGet w.userdata with
  | .error _ => (.ok none, w)
  | .ok userdata =>
    let data : Bytes := List.replicate (65 * 1024) 0
    let (out, s) := C.sessionGet b.getCb userdata (.ofSlice key) (if remove then 1 else 0) data
      data.length 0 w.app
    let w := { w with app := s }
    match (RustlsResult.tryFrom out.result).getD .general with
    | .ok =>
      if out.outN ≤ data.length then (.ok (some (out.buf.take out.outN)), w)
      else (.error .dangling, w)
    | _ => (.ok none, w)

def store (C : CFunctions S) (b : SessionStoreBroker) (key value : Bytes) (w : World Conn S) :
    Bool × World Conn S :=
  match userdataGet w.userdata with
  | .error _ => (false, w)
  | .ok userdata =>
    let (result, s) := C.sessionPut b.putCb userdata (.ofSlice key) (.ofSlice value) w.app
    (result == RustlsResult.ok.code, { w with app := s })

def put (C : CFunctions S) (b : SessionStoreBroker) (key value : Bytes) (w : World Conn S) :
    Bool × World Conn S :=
  b.store C key value w

def get (C : CFunctions S) (b : SessionStoreBroker) (key : Bytes) (w : World Conn S) :
    Except Fault (Option Bytes) × World Conn S :=
  b.retrieve C key false w

def take (C : CFunctions S) (b : SessionStoreBroker) (key : Bytes) (w : World Conn S) :
    Except Fault (Option Bytes) × World Conn S :=
  b.retrieve C key true w

end SessionStoreBroker

/-! ### Certificates to present -/

/-- What rustls tells a resolver about a client. -/
structure ClientHello where
  serverName : Option String
  signatureSchemes : List SignatureScheme
  alpn : Option (List Bytes)
  deriving DecidableEq, Repr

/-- `SignatureScheme::get_u16`. -/
def SignatureScheme.getU16 : SignatureScheme → UInt16
  | .RSA_PKCS1_SHA1 => 0x0201
  | .ECDSA_SHA1_Legacy => 0x0203
  | .RSA_PKCS1_SHA256 => 0x0401
  | .ECDSA_NISTP256_SHA256 => 0x0403
  | .RSA_PKCS1_SHA384 => 0x0501
  | .ECDSA_NISTP384_SHA384 => 0x0503
  | .RSA_PKCS1_SHA512 => 0x0601
  | .ECDSA_NISTP521_SHA512 => 0x0603
  | .RSA_PSS_SHA256 => 0x0804
  | .RSA_PSS_SHA384 => 0x0805
  | .RSA_PSS_SHA512 => 0x0806
  | .ED25519 => 0x0807
  | .ED448 => 0x0808
  | .unknown n => n

/-- A function that rustls calls. A panic goes on into rustls; the error is undefined behaviour. -/
def fromRustls {ρ : Type} (x : Body Conn S ρ ρ) (w : World Conn S) : Res Fault ρ × World Conn S :=
  match x w with
  | (.next r, w) => (.ok r, w)
  | (.ret r, w) => (.ok r, w)
  | (.rejected r, w) => (.ok r, w)
  | (.panic, w) => (.panic, w)
  | (.fault e, w) => (.err e, w)

/-- A call of a C function. -/
def callC {ρ τ : Type} (f : World Conn S → τ × World Conn S) : Body Conn S ρ τ := fun w => (.next (f w).1, (f w).2)

/-- The loop that the two resolvers over a list of keys have in common. -/
def resolveFromChoices (R : Rustls Conn S) (schemes : List SignatureScheme) : List Addr → Body Conn S Ptr Ptr
  | [] => pure none
  | key :: rest => do
    let (key, value) ← tryRefFromArc ArcValue.certifiedKey? (some key)
    if ← mayPanic (R.choosesScheme value.key schemes) then do
      .modify (·.retain key)
      .ret (some key)
    else resolveFromChoices R schemes rest

def ResolvesServerCertFromChoices.resolve (R : Rustls Conn S) (choices : List Addr) (clientHello : ClientHello) :
    Body Conn S Ptr Ptr :=
  resolveFromChoices R clientHello.signatureSchemes choices

def ResolvesClientCertFromChoices.resolve (R : Rustls Conn S) (resolver : ClientCertResolver)
    (_acceptableIssuers : List Bytes) (sigSchemes : List SignatureScheme) : Body Conn S Ptr Ptr :=
  resolveFromChoices R sigSchemes resolver.keys

abbrev ClientHelloCallback (Conn S : Type) := VoidPtr → RustlsClientHello → World Conn S → Ptr × World Conn S

def ClientHelloResolver.resolve (callback : ClientHelloCallback Conn S) (clientHello : ClientHello) :
    Body Conn S Ptr Ptr := do
  let sniName ← someOr none (RustlsStr.tryFrom (clientHello.serverName.getD ""))
  let mappedSigs := clientHello.signatureSchemes.map SignatureScheme.getU16
  let hello : RustlsClientHello := ⟨sniName, .ofSlice mappedSigs, some ⟨clientHello.alpn.getD []⟩⟩
  let w ← Ffi.get
  let userdata ← okOr (fun _ => none) (userdataGet w.userdata)
  let keyPtr ← callC (callback userdata hello)
  let (_, certifiedKey) ← tryRefFromArc ArcValue.certifiedKey? keyPtr
  -- A new `Arc` around a clone, whatever `Arc` the key came from.
  toConstPtr (.certifiedKey certifiedKey)

theorem clientHelloResolver_resolve (callback : ClientHelloCallback Conn S) (clientHello : ClientHello)
    (w : World Conn S) :
    fromRustls (ClientHelloResolver.resolve callback clientHello) w =
      match RustlsStr.tryFrom (clientHello.serverName.getD "") with
      | none => (.ok none, w)
      | some sniName =>
        match userdataGet w.userdata with
        | .error _ => (.ok none, w)
        | .ok userdata =>
          let reply := callback userdata ⟨sniName, .ofSlice (clientHello.signatureSchemes.map SignatureScheme.getU16),
            some ⟨clientHello.alpn.getD []⟩⟩ w
          match reply.1 with
          | none => (.ok none, reply.2)
          | some a =>
            match derefArc reply.2.arcs ArcValue.certifiedKey? a with
            | none => (.err .dangling, reply.2)
            | some key =>
              (.ok (some reply.2.arcs.length),
                { reply.2 with arcs := Counting.alloc reply.2.arcs (.certifiedKey key) }) := by
  unfold fromRustls ClientHelloResolver.resolve
  cases RustlsStr.tryFrom (clientHello.serverName.getD "") with
  | none => rfl
  | some sniName =>
    simp only [someOr, bind_run, pure_run, get_run]
    cases userdataGet w.userdata with
    | error _ => rfl
    | ok userdata =>
      simp only [okOr, pure_run, callC]
      generalize callback userdata _ w = reply
      rcases reply with ⟨_ | a, w⟩
      · rfl
      · dsimp only [tryRefFromArc]
        cases derefArc w.arcs ArcValue.certifiedKey? a <;> rfl

/-- The resolver of a server config, with `hello` for the functions behind the pointers. -/
def ServerCertResolver.resolve (R : Rustls Conn S) (hello : FnPtr → ClientHelloCallback Conn S)
    (resolver : ServerCertResolver) (clientHello : ClientHello) : World Conn S → Res Fault Ptr × World Conn S :=
  fromRustls <| match resolver with
    | .resolvesServerCertFromChoices choices => ResolvesServerCertFromChoices.resolve R choices clientHello
    | .clientHelloResolver callback => ClientHelloResolver.resolve (hello callback) clientHello

/-! ### Log records -/

structure RustlsLogParams where
  level : Nat
  message : RustlsStr
  deriving DecidableEq, Repr

/-- `log::Record`, with its arguments formatted. -/
structure LogRecord where
  level : Nat
  target : String
  args : String
  deriving DecidableEq, Repr

abbrev LogCallback (Conn S : Type) := VoidPtr → RustlsLogParams → World Conn S → World Conn S

def Logger.log (callbacks : FnPtr → LogCallback Conn S) (record : LogRecord) (w : World Conn S) : World Conn S :=
  match logCallbackGet w.userdata with
  | .ok (some cb, userdata) =>
    match RustlsStr.tryFrom (record.target ++ " " ++ record.args) with
    | some message => callbacks cb userdata ⟨record.level, message⟩ w
    | none => w
  | _ => w

end RustlsFfi
