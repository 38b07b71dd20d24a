import RustlsFfi.Base.Triple
import RustlsFfi.Model.Server

/-!
# Rules for the casts and checks

One `wp` rule for each step that the bodies of the exported functions are made of, and for the
checks and loops that leave the state alone what they can end with.
-/

namespace RustlsFfi
open Control

variable {Conn S ρ τ ε α : Type} {w : World Conn S}

@[simp] theorem wp_tryRef [NullParameterOrDefault ρ] {p : Option τ} {Q : Post (World Conn S) ρ τ} :
    wp (tryRef p) Q w ↔
      (p = none → Q.rejected NullParameterOrDefault.nullValue w) ∧ ∀ v, p = some v → Q.next v w := by
  cases p <;> simp [tryRef, rejectNull, wp_pure, wp_reject]

@[simp] theorem wp_fromRawParts {l : List τ} {count : Nat} {Q : Post (World Conn S) ρ (List τ)} :
    wp (fromRawParts l count) Q w ↔
      (count ≤ l.length → Q.next (l.take count) w) ∧ (l.length < count → Q.fault .dangling w) := by
  unfold fromRawParts
  split
  next within => simp [wp_pure, within, Nat.not_lt.mpr within]
  next past => simp [wp_fault, past, Nat.lt_of_not_le past]

@[simp] theorem wp_trySlice [NullParameterOrDefault ρ] {p : Option (List τ)} {count : Nat}
    {Q : Post (World Conn S) ρ (List τ)} :
    wp (trySlice p count) Q w ↔
      (p = none → Q.rejected NullParameterOrDefault.nullValue w) ∧
      ∀ l, p = some l →
        (count ≤ l.length → Q.next (l.take count) w) ∧ (l.length < count → Q.fault .dangling w) := by
  cases p <;> simp [trySlice, rejectNull, wp_fromRawParts, wp_reject]

@[simp] theorem wp_tryFromPtr [NullParameterOrDefault ρ] {arena : World Conn S → List (Option τ)} {p : Ptr}
    {Q : Post (World Conn S) ρ (Addr × τ)} :
    wp (tryFromPtr arena p) Q w ↔
      (p = none → Q.rejected NullParameterOrDefault.nullValue w) ∧
      ∀ a, p = some a →
        (∀ v, Arena.get (arena w) a = some v → Q.next (a, v) w) ∧
        (Arena.get (arena w) a = none → Q.fault .dangling w) := by
  cases p with
  | none => simp [tryFromPtr, rejectNull, wp_reject]
  | some a =>
    unfold wp tryFromPtr
    cases found : Arena.get (arena w) a <;> simp [Post.holds, found]

theorem wp_tryFromPtr_live [NullParameterOrDefault ρ] {arena : World Conn S → List (Option τ)} {a : Addr} {v : τ}
    {Q : Post (World Conn S) ρ (Addr × τ)} (live : Arena.get (arena w) a = some v) :
    wp (tryFromPtr arena (some a)) Q w ↔ Q.next (a, v) w := by
  simp [live]

@[simp] theorem wp_rejectIfNull {p : Option τ} {r : ρ} {Q : Post (World Conn S) ρ Unit} :
    wp (rejectIfNull p r) Q w ↔ (p = none → Q.rejected r w) ∧ (∀ v, p = some v → Q.next () w) := by
  cases p <;> simp [rejectIfNull, wp_pure, wp_reject]

@[simp] theorem wp_nonNullOr {p : Option τ} {r : ρ} {Q : Post (World Conn S) ρ τ} :
    wp (nonNullOr r p) Q w ↔ (p = none → Q.rejected r w) ∧ (∀ v, p = some v → Q.next v w) := by
  cases p <;> simp [nonNullOr]

@[simp] theorem wp_okOr {x : Except ε τ} {f : ε → ρ} {Q : Post (World Conn S) ρ τ} :
    wp (okOr f x) Q w ↔ (∀ v, x = .ok v → Q.next v w) ∧ (∀ e, x = .error e → Q.ret (f e) w) := by
  cases x <;> simp [okOr]

@[simp] theorem wp_someOr {x : Option τ} {r : ρ} {Q : Post (World Conn S) ρ τ} :
    wp (someOr r x) Q w ↔ (∀ v, x = some v → Q.next v w) ∧ (x = none → Q.ret r w) := by
  cases x <;> simp [someOr]

@[simp] theorem wp_mayPanic {x : Option τ} {Q : Post (World Conn S) ρ τ} :
    wp (mayPanic x) Q w ↔ (∀ v, x = some v → Q.next v w) ∧ (x = none → Q.panic w) := by
  cases x <;> simp [mayPanic, wp, Post.holds]

@[simp] theorem wp_unwrap {x : Except ε τ} {Q : Post (World Conn S) ρ τ} :
    wp (unwrap x) Q w ↔ (∀ v, x = .ok v → Q.next v w) ∧ (∀ e, x = .error e → Q.panic w) := by
  cases x <;> simp [unwrap]

@[simp] theorem wp_callPure {x : Res ε τ} {Q : Post (World Conn S) ρ (Except ε τ)} :
    wp (callPure x) Q w ↔
      (∀ v, x = .ok v → Q.next (.ok v) w) ∧ (∀ e, x = .err e → Q.next (.error e) w) ∧
      (x = .panic → Q.panic w) := by
  cases x <;> simp [callPure, wp_call]

@[simp] theorem wp_tryRefFromArc [NullParameterOrDefault ρ] {as : ArcValue → Option τ} {p : Ptr}
    {Q : Post (World Conn S) ρ (Addr × τ)} :
    wp (tryRefFromArc as p) Q w ↔
      (p = none → Q.rejected NullParameterOrDefault.nullValue w) ∧
      ∀ a, p = some a →
        (∀ v, derefArc w.arcs as a = some v → Q.next (a, v) w) ∧
        (derefArc w.arcs as a = none → Q.fault .dangling w) := by
  cases p with
  | none => simp [tryRefFromArc, rejectNull, wp_reject]
  | some a =>
    unfold wp tryRefFromArc
    cases found : derefArc w.arcs as a <;> simp [Post.holds, found]

@[simp] theorem wp_tryCertificate [NullParameterOrDefault ρ] {R : Rustls Conn S} {p : Option CertificatePtr}
    {Q : Post (World Conn S) ρ Certificate} :
    wp (tryCertificate R p) Q w ↔
      (p = none → Q.rejected NullParameterOrDefault.nullValue w) ∧
      ∀ cert, p = some cert →
        (∀ v, derefCertificate R w cert = some v → Q.next v w) ∧
        (derefCertificate R w cert = none → Q.fault .dangling w) := by
  cases p with
  | none => simp [tryCertificate, rejectNull, wp_reject]
  | some cert =>
    unfold wp tryCertificate
    cases found : derefCertificate R w cert <;> simp [Post.holds, found]

@[simp] theorem wp_tryArcFromPtr [NullParameterOrDefault ρ] {as : ArcValue → Option τ} {p : Ptr}
    {Q : Post (World Conn S) ρ (Addr × τ)} :
    wp (tryArcFromPtr as p) Q w ↔
      (p = none → Q.rejected NullParameterOrDefault.nullValue w) ∧
      ∀ a, p = some a →
        (∀ v, derefArc w.arcs as a = some v → Q.next (a, v) (w.retain a)) ∧
        (derefArc w.arcs as a = none → Q.fault .dangling w) := by
  cases p with
  | none => simp [tryArcFromPtr, rejectNull, wp_reject]
  | some a =>
    unfold wp tryArcFromPtr
    cases found : derefArc w.arcs as a <;> simp [Post.holds, found]

@[simp] theorem wp_toConstPtr {v : ArcValue} {Q : Post (World Conn S) ρ Ptr} :
    wp (toConstPtr v) Q w ↔
      Q.next (some w.arcs.length) { w with arcs := Counting.alloc w.arcs v } := Iff.rfl

@[simp] theorem wp_writeSize {p : Ptr} {n : Nat} {Q : Post (World Conn S) ρ Unit} :
    wp (writeSize p n) Q w ↔ (p = none → Q.fault .nullDeref w) ∧
      ∀ l, p = some l → Q.next () { w with cells.size := Function.update w.cells.size l n } := by
  cases p <;> simp [writeSize, wp_fault, wp_modify]

@[simp] theorem wp_writePtr {p v : Ptr} {Q : Post (World Conn S) ρ Unit} :
    wp (writePtr p v) Q w ↔ (p = none → Q.fault .nullDeref w) ∧
      ∀ l, p = some l → Q.next () { w with cells.ptr := Function.update w.cells.ptr l v } := by
  cases p <;> simp [writePtr, wp_fault, wp_modify]

@[simp] theorem wp_writeBuf {p : Ptr} {v : Bytes} {Q : Post (World Conn S) ρ Unit} :
    wp (writeBuf p v) Q w ↔ (p = none → Q.fault .nullDeref w) ∧
      ∀ l, p = some l → Q.next () { w with cells.buf := Function.update w.cells.buf l v } := by
  cases p <;> simp [writeBuf, wp_fault, wp_modify]

@[simp] theorem wp_writeData {p : Ptr} {v : Option Bytes} {Q : Post (World Conn S) ρ Unit} :
    wp (writeData p v) Q w ↔ (p = none → Q.fault .nullDeref w) ∧
      ∀ l, p = some l → Q.next () { w with cells.data := Function.update w.cells.data l v } := by
  cases p <;> simp [writeData, wp_fault, wp_modify]

@[simp] theorem wp_onConn {a : Addr} {c : Connection Conn} {f : S → Res ε α × Conn × S}
    {Q : Post (World Conn S) ρ (Except ε α)} :
    wp (.call (onConn a c f)) Q w ↔
      (∀ n conn s, f w.app = (.ok n, conn, s) →
        Q.next (.ok n) { w.putConn a { c with conn := conn } with app := s }) ∧
      (∀ e conn s, f w.app = (.err e, conn, s) →
        Q.next (.error e) { w.putConn a { c with conn := conn } with app := s }) ∧
      (∀ conn s, f w.app = (.panic, conn, s) →
        Q.panic { w.putConn a { c with conn := conn } with app := s }) := by
  unfold wp Ffi.call onConn
  rcases f w.app with ⟨_ | _ | _, conn, s⟩ <;> simp [Post.holds]

section
variable {R : Rustls Conn S} {κ : Type} {p outN : Ptr} {Q : Outcome RustlsIoResult → World Conn S → Prop}
  (refused : Q (.rejected ⟨EINVAL⟩) w)
  (dangling : ∀ a, p = some a → Arena.get w.conns a = none → Q (.fault .dangling) w)
  (stopped : ∀ a c r conn s, Arena.get w.conns a = some c →
    Q (.returned r) { w.putConn a { c with conn := conn } with app := s })
  (moved : ∀ a c n conn s l, Arena.get w.conns a = some c →
    Q (.returned ⟨0⟩) { w.putConn a { c with conn := conn } with
      app := s, cells.size := Function.update w.cells.size l n })
include refused dangling stopped moved

/-- The functions that move TLS bytes refuse a NULL argument before rustls runs, and write `*out_n`
only after rustls has succeeded. -/
theorem ends_moveTls {callback : Option κ} (f : Connection Conn → κ → S → Res IoError Nat × Conn × S) :
    Ends (ffiPanicBoundary (do
      let (a, c) ← tryFromPtr World.conns p
      rejectIfNull outN ⟨EINVAL⟩
      let callback ← tryRef callback
      let n ← okOr IoError.toIoResult (← .call (onConn a c (f c callback)))
      writeSize outN n
      pure ⟨0⟩) w) Q := by
  simp only [ends_boundary, wp_bind]
  refine wp_tryFromPtr.mpr ⟨fun _ => refused, fun a given => ⟨?_, dangling a given⟩⟩
  intro c live
  refine wp_rejectIfNull.mpr ⟨fun _ => refused, ?_⟩
  rintro l rfl
  refine wp_tryRef.mpr ⟨fun _ => refused, ?_⟩
  intro callback _
  refine wp_onConn.mpr ⟨?_, ?_, ?_⟩
  · intro n conn s _
    exact moved a c n conn s l live
  · intro e conn s _
    exact stopped a c _ conn s live
  · intro conn s _
    exact stopped a c _ conn s live

theorem ends_readTls {callback : Option (ReadCallback S)} {userdata : VoidPtr} :
    Ends (rustlsConnectionReadTls R p callback userdata outN w) Q :=
  ends_moveTls refused dangling stopped moved
    fun c callback => R.readTls c.conn (CallbackReader.read ⟨callback, userdata⟩)

theorem ends_writeTls {writer : κ → Writer S} {callback : Option κ} : Ends (writeTls R writer p callback outN w) Q :=
  ends_moveTls refused dangling stopped moved fun c callback => R.writeTls c.conn (writer callback)

end

@[simp] theorem wp_clientBuilderToMutPtr {builder : ClientConfigBuilder}
    {Q : Post (World Conn S) ρ Ptr} :
    wp (clientBuilderToMutPtr builder) Q w ↔ Q.next (some w.clientBuilders.length)
      { w with clientBuilders := Arena.alloc w.clientBuilders builder } := Iff.rfl

@[simp] theorem wp_serverBuilderToMutPtr {builder : ServerConfigBuilder}
    {Q : Post (World Conn S) ρ Ptr} :
    wp (serverBuilderToMutPtr builder) Q w ↔ Q.next (some w.serverBuilders.length)
      { w with serverBuilders := Arena.alloc w.serverBuilders builder } := Iff.rfl

@[simp] theorem wp_setConnPtr {connOut : Ptr} {c : Connection Conn} {Q : Post (World Conn S) ρ Unit} :
    wp (setConnPtr connOut c) Q w ↔
      (connOut = none → Q.fault .nullDeref { w with conns := Arena.alloc w.conns c }) ∧
      ∀ l, connOut = some l → Q.next () { w with
        conns := Arena.alloc w.conns c
        cells.ptr := Function.update w.cells.ptr l (some w.conns.length) } := by
  simp [setConnPtr]

/-! ### Steps that leave the state alone -/

section
variable {E N : ρ → Prop} {F : Prop}

theorem looks_tryRef [NullParameterOrDefault ρ] (null : N NullParameterOrDefault.nullValue)
    (p : Option τ) : Looks E N F (tryRef p) w := by
  simp [Looks, null]

theorem looks_trySlice [NullParameterOrDefault ρ] (null : N NullParameterOrDefault.nullValue)
    (p : Option (List τ)) (count : Nat) (bound : F ∨ ∀ l, p = some l → count ≤ l.length) :
    Looks E N F (trySlice p count) w := by
  simp only [Looks, wp_trySlice, true_and, null, implies_true]
  intro l given past
  refine bound.resolve_right fun within => ?_
  exact Nat.not_lt.mpr (within l given) past

theorem looks_okOr {f : ε → ρ} (early : ∀ e, E (f e)) (x : Except ε τ) :
    Looks E N F (okOr f x) w := by
  simp [Looks, early]

theorem looks_someOr {r : ρ} (early : E r) (x : Option τ) : Looks E N F (someOr r x) w := by
  simp [Looks, early]

theorem looks_callPure (x : Res ε τ) : Looks E N F (callPure x) w := by
  simp [Looks]

end

/-! ### Checks and loops that leave the state alone -/

section
variable {F : Prop}

theorem lastPrivateKey_looks {N : RustlsResult → Prop} (R : Rustls Conn S) (privateKey : Bytes) :
    Looks (fun r => r = .privateKeyParseError ∨ r = .certificateParseError) N F
      (lastPrivateKey R privateKey) w := by
  refine Looks.bind (looks_callPure _) fun sections => ?_
  refine Looks.bind (looks_okOr (by simp) _) fun privateKeys => ?_
  split
  · exact looks_pure _
  · refine Looks.bind (looks_callPure _) fun sections => ?_
    refine Looks.bind (looks_okOr (by simp) _) fun privateKeys => ?_
    exact looks_someOr (by simp) _

/-- The checks of `rustls_certified_key_build` fail with one of three codes. -/
theorem certifiedKeyBuild_looks (R : Rustls Conn S) (certChain : Option Bytes) (certChainLen : Nat)
    (privateKey : Option Bytes) (privateKeyLen : Nat)
    (bound : F ∨ (∀ l, certChain = some l → certChainLen ≤ l.length) ∧
      ∀ l, privateKey = some l → privateKeyLen ≤ l.length) :
    Looks (fun r => r = .privateKeyParseError ∨ r = .certificateParseError) (· = .nullParameter) F
      (certifiedKeyBuild R certChain certChainLen privateKey privateKeyLen) w := by
  refine Looks.bind (looks_trySlice nullValue_result _ _ (bound.imp_right And.left)) fun certChain => ?_
  refine Looks.bind (looks_trySlice nullValue_result _ _ (bound.imp_right And.right))
    fun privateKey => ?_
  refine Looks.bind (lastPrivateKey_looks R _) fun privateKey => ?_
  refine Looks.bind (looks_callPure _) fun key => ?_
  refine Looks.bind (looks_okOr (by simp) _) fun signingKey => ?_
  refine Looks.bind (looks_callPure _) fun chain => ?_
  refine Looks.bind (looks_okOr (by simp) _) fun parsedChain => ?_
  exact looks_pure _

theorem find_suite (cs : SupportedCipherSuite) :
    allCipherSuites.find? (fun acs => cs == acs) = if cs ∈ allCipherSuites then some cs else none := by
  split
  next member =>
    cases found : allCipherSuites.find? (fun acs => cs == acs) with
    | none => exact absurd (List.find?_eq_none.mp found cs member) (by simp)
    | some s => rw [eq_of_beq (List.find?_some found)]
  next unknown =>
    refine List.find?_eq_none.mpr fun s member same => unknown ?_
    rwa [eq_of_beq same]

theorem collectSuites_known {l : List (Option SupportedCipherSuite)}
    (known : ∀ cs ∈ l, ∃ s ∈ allCipherSuites, cs = some s) (csVec : List SupportedCipherSuite) :
    (collectSuites l csVec : Body Conn S RustlsResult _) w = (.next (csVec ++ l.reduceOption), w) := by
  induction l generalizing csVec with
  | nil => simp [collectSuites]
  | cons cs rest ih =>
    obtain ⟨s, member, rfl⟩ := known cs (by simp)
    simp only [collectSuites, bind_run, tryRef, pure_run, find_suite, member, ↓reduceIte, someOr]
    rw [ih fun cs inside => known cs (by simp [inside])]
    simp

theorem collectSuites_looks (l : List (Option SupportedCipherSuite))
    (csVec : List SupportedCipherSuite) :
    Looks (· = .invalidParameter) (· = .nullParameter) F (collectSuites l csVec) w := by
  induction l generalizing csVec with
  | nil => exact looks_pure _
  | cons cs rest ih =>
    refine Looks.bind (looks_tryRef nullValue_result _) fun cs => ?_
    refine Looks.bind (looks_someOr (by simp) _) fun scs => ?_
    exact ih _

theorem newCustomBase_looks (R : Rustls Conn S)
    (cipherSuites : Option (List (Option SupportedCipherSuite))) (cipherSuitesLen : Nat)
    (tlsVersions : Option (List UInt16)) (tlsVersionsLen : Nat)
    (bound : F ∨ (∀ l, cipherSuites = some l → cipherSuitesLen ≤ l.length) ∧
      ∀ l, tlsVersions = some l → tlsVersionsLen ≤ l.length) :
    Looks (· = .invalidParameter) (· = .nullParameter) F
      (newCustomBase R cipherSuites cipherSuitesLen tlsVersions tlsVersionsLen) w := by
  refine Looks.bind (looks_trySlice nullValue_result _ _ (bound.imp_right And.left)) fun suites => ?_
  refine Looks.bind (collectSuites_looks _ _) fun csVec => ?_
  refine Looks.bind (looks_trySlice nullValue_result _ _ (bound.imp_right And.right))
    fun versions => ?_
  refine Looks.bind (looks_callPure _) fun accepted => ?_
  refine Looks.bind (looks_okOr (by simp) _) fun _ => ?_
  exact looks_pure _

/-- The loop over ALPN protocols never fails but by a NULL entry. -/
theorem collectAlpn_looks (l : List RustlsSliceBytes) (vv : List Bytes)
    (bound : F ∨ ∀ p ∈ l, ∀ d, p.data = some d → p.len ≤ d.length) :
    Looks (fun _ => False) (· = .nullParameter) F (collectAlpn l vv) w := by
  induction l generalizing vv with
  | nil => exact looks_pure _
  | cons p rest ih =>
    refine Looks.bind (looks_trySlice nullValue_result _ _
      (bound.imp_right fun valid => valid p (by simp))) fun v => ?_
    exact ih _ (bound.imp_right fun valid q member => valid q (by simp [member]))

section
variable {Q : Outcome RustlsResult → World Conn S → Prop} (failed : ∀ r, r ≠ .ok → Q (.returned r) w)
  (null : Q (.rejected .nullParameter) w) (fault : ∀ e w', Q (.fault e) w')
include failed null fault

/-- A `_new_custom` function fails and changes nothing, or creates its builder. -/
theorem ends_newCustom {R : Rustls Conn S} {toMutPtr : ConfigBase → Body Conn S RustlsResult Ptr}
    {cipherSuites : Option (List (Option SupportedCipherSuite))} {cipherSuitesLen : Nat}
    {tlsVersions : Option (List UInt16)} {tlsVersionsLen : Nat} {builderOut : Ptr}
    (made : ∀ base, wp (toMutPtr base) ((Post.boundary Q).onNext fun b w' => ∀ l, builderOut = some l →
      Q (.returned .ok) { w' with cells.ptr := Function.update w'.cells.ptr l b }) w) :
    Ends (configBuilderNewCustom R toMutPtr cipherSuites cipherSuitesLen tlsVersions tlsVersionsLen builderOut w) Q := by
  simp only [configBuilderNewCustom, ends_boundary, wp_bind]
  refine (newCustomBase_looks R _ _ _ _ (.inl trivial)).wp ?_ ?_ ?_ (failed _ (by decide)) (fun e _ => fault e w)
  · intro base
    refine wp_mono (made base) ?_ (fun _ _ => id) (fun _ _ => id) (fun _ => id) (fun _ _ => id)
    exact fun _ _ placed => wp_writePtr.mpr ⟨fun _ => fault _ _, placed⟩
  · rintro r rfl
    exact failed _ (by decide)
  · rintro r rfl
    exact null

/-- The functions that set ALPN protocols fail and change nothing, or put the protocols into their builder. -/
theorem ends_setAlpnProtocols {τ : Type} {arena : World Conn S → List (Option τ)}
    {put : Addr → τ → List Bytes → World Conn S → World Conn S} {builder : Ptr}
    {protocols : Option (List RustlsSliceBytes)} {len : Nat}
    (set : ∀ b old vv, builder = some b → Arena.get (arena w) b = some old → Q (.returned .ok) (put b old vv w)) :
    Ends (setAlpnProtocols arena put builder protocols len w) Q := by
  simp only [setAlpnProtocols, ends_boundary, wp_bind]
  refine wp_tryFromPtr.mpr ⟨fun _ => null, fun b given => ⟨?_, fun _ => fault _ _⟩⟩
  intro old live
  refine wp_trySlice.mpr ⟨fun _ => null, fun l _ => ⟨?_, fun _ => fault _ _⟩⟩
  intro _
  refine (collectAlpn_looks _ _ (.inl trivial)).wp ?_ (fun _ => False.elim) ?_ (failed _ (by decide)) (fun e _ => fault e w)
  · exact fun vv => set b old vv given live
  · rintro r rfl
    exact null

end

theorem retainAll_serverBuilders (keys : List Addr) (w : World Conn S) :
    (keys.foldl (fun w key => w.retain key) w).serverBuilders = w.serverBuilders := by
  induction keys generalizing w with
  | nil => rfl
  | cons k keys ih => exact ih (w.retain k)

/-- The loop over the keys of a client hello writes `*out_key` only as it succeeds. -/
theorem selectCertifiedKey_wp (R : Rustls Conn S) (schemes : List SignatureScheme) (outKey : Ptr)
    (keys : List Ptr)
    (bound : F ∨ outKey ≠ none ∧
      ∀ a, some a ∈ keys → derefArc w.arcs ArcValue.certifiedKey? a ≠ none) :
    wp (selectCertifiedKey R schemes outKey keys)
      { next := fun r w' => r = .notFound ∧ w' = w
        ret := fun r w' => r = .ok ∧
          ∃ l key, w' = { w with cells.ptr := Function.update w.cells.ptr l key }
        rejected := fun r w' => r = .nullParameter ∧ w' = w
        panic := fun w' => w' = w
        fault := fun _ _ => F } w := by
  induction keys with
  | nil => exact ⟨rfl, rfl⟩
  | cons p rest ih =>
    have rest := ih (bound.imp_right fun ⟨out, valid⟩ => ⟨out, fun a member => valid a (by simp [member])⟩)
    simp only [selectCertifiedKey, wp_bind, wp_tryRefFromArc, wp_mayPanic, wp_ite, wp_writePtr, wp_ret,
      Post.onNext, nullValue_result, true_and]
    refine ⟨by simp, fun a given => ⟨fun key found => ⟨fun chosen _ => ⟨fun _ => ?_, fun _ => rest⟩,
      fun _ => trivial⟩, fun dangling => ?_⟩⟩
    · refine ⟨fun null => bound.resolve_right fun ⟨out, _⟩ => out null, fun l _ => ⟨l, p, rfl⟩⟩
    · refine bound.resolve_right fun ⟨_, valid⟩ => valid a (by simp [given]) dangling

end

end RustlsFfi
