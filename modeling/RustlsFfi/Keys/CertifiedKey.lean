import RustlsFfi.Model.Cipher

/-!
# Building a certified key

`rustls_certified_key_build` reads two PEM texts. Of the private key it takes the last section it can use;
of the chain it takes every certificate, and also none.
-/

namespace RustlsFfi.Keys
open Control

variable {Conn S : Type}

/-- The readers of `rustls_pemfile` and `any_supported_type` give a result or an error. -/
structure Orderly (R : Rustls Conn S) : Prop where
  certs (text : Bytes) : R.certs text ≠ .panic
  pkcs8PrivateKeys (text : Bytes) : R.pkcs8PrivateKeys text ≠ .panic
  rsaPrivateKeys (text : Bytes) : R.rsaPrivateKeys text ≠ .panic
  anySupportedType (der : Bytes) : R.anySupportedType der ≠ .panic

/-- The section of a private key's text that is used. -/
def keySection (R : Rustls Conn S) (privateKey : Bytes) : Option Bytes :=
  match R.pkcs8PrivateKeys privateKey with
  | .ok sections => sections.getLast?.or <|
    match R.rsaPrivateKeys privateKey with
    | .ok sections => sections.getLast?
    | _ => none
  | _ => none

def signingKey (R : Rustls Conn S) (privateKey : Bytes) : Option SigningKey :=
  match (keySection R privateKey).map R.anySupportedType with
  | some (.ok key) => some key
  | _ => none

/-- The key comes from a PKCS#8 section, or from an RSA section of a text that has no PKCS#8 section. -/
def MadeFrom (R : Rustls Conn S) (privateKey : Bytes) (key : SigningKey) : Prop :=
  ∃ der, R.anySupportedType der = .ok key ∧
    ((∃ sections, R.pkcs8PrivateKeys privateKey = .ok sections ∧ der ∈ sections) ∨
      (R.pkcs8PrivateKeys privateKey = .ok [] ∧ ∃ sections, R.rsaPrivateKeys privateKey = .ok sections ∧ der ∈ sections))

/-- What a build may do: deliver a key with all certificates of the chain, one at least, or fail and
change nothing. -/
structure Usable (R : Rustls Conn S) (certChain privateKey : Bytes) (out : Addr) (w : World Conn S)
    (build : Outcome RustlsResult × World Conn S) : Prop where
  ok : build.1 = .returned .ok → ∃ a key sections,
    build.2.cells.ptr out = some a ∧ derefArc build.2.arcs ArcValue.certifiedKey? a = some key ∧
    R.certs certChain = .ok sections ∧
    (∀ i, rustlsCertifiedKeyGetCertificate (some a) i build.2 =
        (.returned (sections[i]?.map fun _ => .ofKey a i), build.2) ∧
      derefCertificate R build.2 (.ofKey a i) = sections[i]?.map Certificate.mk) ∧
    (rustlsCertifiedKeyGetCertificate (some a) 0 build.2).1 ≠ .returned none ∧
    MadeFrom R privateKey key.key
  failed : build.1 ≠ .returned .ok →
    (build.1 = .returned .certificateParseError ∨ build.1 = .returned .privateKeyParseError) ∧ build.2 = w

section
variable {R : Rustls Conn S} {certChain privateKey : Bytes} {out : Addr} {w : World Conn S}

theorem madeFrom_of_signingKey {key : SigningKey} (made : signingKey R privateKey = some key) :
    MadeFrom R privateKey key := by
  unfold signingKey at made
  split at made
  next found =>
    obtain rfl := Option.some.inj made
    obtain ⟨der, used, supported⟩ := Option.map_eq_some_iff.mp found
    refine ⟨der, supported, ?_⟩
    unfold keySection at used
    split at used
    next sections read =>
      rcases Option.or_eq_some_iff.mp used with last | ⟨none, used⟩
      · exact .inl ⟨sections, read, List.mem_of_getLast? last⟩
      · rw [List.getLast?_eq_none_iff.mp none] at read
        split at used
        next rsa read' => exact .inr ⟨read, rsa, read', List.mem_of_getLast? used⟩
        · cases used
    · cases used
  · cases made

theorem lastPrivateKey_run (orderly : Orderly R) :
    (lastPrivateKey R privateKey : Body Conn S RustlsResult Bytes) w =
      match keySection R privateKey with
      | some der => (.next der, w)
      | none => (.ret .privateKeyParseError, w) := by
  unfold lastPrivateKey keySection
  cases read : R.pkcs8PrivateKeys privateKey with
  | panic => exact absurd read (orderly.pkcs8PrivateKeys _)
  | err e => rfl
  | ok sections =>
    dsimp only [bind_run, callPure, Ffi.call, okOr, pure_run]
    cases last : sections.getLast? with
    | some der => rfl
    | none =>
      dsimp only [bind_run, callPure, Ffi.call, Option.or_none]
      cases read : R.rsaPrivateKeys privateKey with
      | panic => exact absurd read (orderly.rsaPrivateKeys _)
      | err e => rfl
      | ok sections => cases last : sections.getLast? <;> simp [someOr, last]

theorem slice_run {text : Bytes} {len : Nat} (valid : len ≤ text.length) :
    (trySlice (some text) len : Body Conn S RustlsResult Bytes) w = (.next (text.take len), w) := by
  simp [trySlice, fromRawParts, valid]

theorem certifiedKeyBuild_run (orderly : Orderly R) {certChainLen privateKeyLen : Nat}
    (valid : certChainLen ≤ certChain.length) (valid' : privateKeyLen ≤ privateKey.length) :
    (certifiedKeyBuild R (some certChain) certChainLen (some privateKey) privateKeyLen : Body Conn S _ _) w =
      match signingKey R (privateKey.take privateKeyLen), R.certs (certChain.take certChainLen) with
      | some key, .ok sections => (.next ⟨sections.map Certificate.mk, key, none⟩, w)
      | some _, _ => (.ret .certificateParseError, w)
      | none, _ => (.ret .privateKeyParseError, w) := by
  simp only [certifiedKeyBuild, bind_run, slice_run valid, slice_run valid', lastPrivateKey_run orderly, signingKey]
  cases keySection R (privateKey.take privateKeyLen) with
  | none => rfl
  | some der =>
    dsimp only [bind_run, callPure, Ffi.call, Option.map_some]
    cases supported : R.anySupportedType der with
    | panic => exact absurd supported (orderly.anySupportedType der)
    | err e => rfl
    | ok key =>
      dsimp only [bind_run, callPure, Ffi.call, okOr, pure_run]
      cases read : R.certs (certChain.take certChainLen) with
      | panic => exact absurd read (orderly.certs _)
      | err e => rfl
      | ok sections => rfl

theorem getCertificate_run {a : Addr} {key : CertifiedKey}
    (live : derefArc w.arcs ArcValue.certifiedKey? a = some key) (i : Nat) :
    rustlsCertifiedKeyGetCertificate (some a) i w = (.returned (key.cert[i]?.map fun _ => .ofKey a i), w) := by
  simp only [rustlsCertifiedKeyGetCertificate, ffiPanicBoundary, bind_run, tryRefFromArc_live live, pure_run]

/-- The key that a build delivers, and where. -/
def delivered (w : World Conn S) (out : Addr) (key : CertifiedKey) : World Conn S :=
  { w with
    arcs := Counting.alloc w.arcs (.certifiedKey key)
    cells.ptr := Function.update w.cells.ptr out (some w.arcs.length) }

theorem derefArc_delivered (key : CertifiedKey) :
    derefArc (delivered w out key).arcs ArcValue.certifiedKey? w.arcs.length = some key :=
  derefArc_alloc_new _ _ _

theorem build_run (orderly : Orderly R) {certChainLen privateKeyLen : Nat} (valid : certChainLen ≤ certChain.length)
    (valid' : privateKeyLen ≤ privateKey.length) :
    rustlsCertifiedKeyBuild R (some certChain) certChainLen (some privateKey) privateKeyLen (some out) w =
      match signingKey R (privateKey.take privateKeyLen), R.certs (certChain.take certChainLen) with
      | some key, .ok sections => (.returned .ok, delivered w out ⟨sections.map Certificate.mk, key, none⟩)
      | some _, _ => (.returned .certificateParseError, w)
      | none, _ => (.returned .privateKeyParseError, w) := by
  simp only [rustlsCertifiedKeyBuild, ffiPanicBoundary, bind_run, rejectIfNull, pure_run,
    certifiedKeyBuild_run orderly valid valid']
  cases signingKey R (privateKey.take privateKeyLen) with
  | none => rfl
  | some key => cases R.certs (certChain.take certChainLen) <;> rfl

/-- The only key that is of no use is one without a certificate. -/
theorem build_usable_iff (orderly : Orderly R) {certChainLen privateKeyLen : Nat}
    (valid : certChainLen ≤ certChain.length) (valid' : privateKeyLen ≤ privateKey.length) :
    Usable R (certChain.take certChainLen) (privateKey.take privateKeyLen) out w
      (rustlsCertifiedKeyBuild R (some certChain) certChainLen (some privateKey) privateKeyLen (some out) w) ↔
    (R.certs (certChain.take certChainLen) = .ok [] → signingKey R (privateKey.take privateKeyLen) = none) := by
  rw [build_run orderly valid valid']
  cases made : signingKey R (privateKey.take privateKeyLen) with
  | none => exact iff_of_true ⟨by simp, fun _ => ⟨.inr rfl, rfl⟩⟩ fun _ => rfl
  | some key =>
    cases read : R.certs (certChain.take certChainLen) with
    | panic => exact absurd read (orderly.certs _)
    | err e => exact iff_of_true ⟨by simp, fun _ => ⟨.inl rfl, rfl⟩⟩ (by simp)
    | ok sections =>
      have found : derefArc (delivered w out ⟨sections.map Certificate.mk, key, none⟩).arcs ArcValue.certifiedKey?
          w.arcs.length = some ⟨sections.map Certificate.mk, key, none⟩ := derefArc_delivered _
      have cert := getCertificate_run found
      constructor
      · rintro ⟨ok, -⟩ empty
        obtain ⟨a, -, -, given, -, -, -, leaf, -⟩ := ok rfl
        obtain rfl : w.arcs.length = a := by simpa [delivered] using given
        obtain rfl : sections = [] := Res.ok.inj empty
        exact absurd (congrArg Prod.fst (cert 0)) leaf
      · intro some
        have nonempty : sections ≠ [] := by
          rintro rfl
          simpa using some rfl
        refine ⟨fun _ => ⟨w.arcs.length, _, sections, by simp [delivered], found, read, fun i => ?_, ?_,
          madeFrom_of_signingKey made⟩, by simp⟩
        · refine ⟨?_, ?_⟩
          · rw [cert, List.getElem?_map, Option.map_map]
            rfl
          · rw [derefCertificate, found, Option.bind_some, List.getElem?_map]
        · rw [cert]
          simpa using nonempty

end

theorem build_usable_iff_inert :
    (rustlsCertifiedKeyBuild (Rustls.inert ()) (some [1]) 1 (some [2]) 1 (some 0)
      (World.initial () : World Unit Unit)).1 = .returned .ok ∧
    Usable (Rustls.inert ()) [1] [2] 0 (World.initial () : World Unit Unit)
      (rustlsCertifiedKeyBuild (Rustls.inert ()) (some [1]) 1 (some [2]) 1 (some 0) (World.initial ())) := by
  have orderly : Orderly (Rustls.inert () : Rustls Unit Unit) := by
    refine ⟨?_, ?_, ?_, ?_⟩ <;> simp [Rustls.inert]
  exact ⟨by decide, (build_usable_iff orderly (show 1 ≤ List.length [1] by decide)
    (show 1 ≤ List.length [2] by decide)).mpr (by simp [Rustls.inert])⟩

/-- A library that finds private keys only. -/
def keysOnly : Rustls Unit Unit where
  __ := Rustls.inert ()
  certs _ := .ok []

/-- The file with the private key given as the chain, too: the key that is delivered has no certificate. -/
theorem keyFile_as_chain :
    (rustlsCertifiedKeyBuild keysOnly (some [2]) 1 (some [2]) 1 (some 0) (World.initial ())).1 = .returned .ok ∧
    (rustlsCertifiedKeyGetCertificate (some 0) 0
      (rustlsCertifiedKeyBuild keysOnly (some [2]) 1 (some [2]) 1 (some 0) (World.initial ())).2).1 = .returned none ∧
    ¬ Usable keysOnly [2] [2] 0 (World.initial ())
      (rustlsCertifiedKeyBuild keysOnly (some [2]) 1 (some [2]) 1 (some 0) (World.initial ())) := by
  refine ⟨by decide, by decide, fun usable => ?_⟩
  obtain ⟨a, -, -, given, -, -, -, leaf, -⟩ := usable.ok (by decide)
  obtain rfl : 0 = a := Option.some.inj given
  exact leaf (by decide)

end RustlsFfi.Keys
