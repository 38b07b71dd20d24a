import RustlsFfi.Model.Callback

/-!
# Verdicts on server certificates

The C callback is asked at most once about a server's certificate. Only its 7000 lets the
certificate pass, and any other code it gives is the code that the handshake fails with, if it is
one about certificates.
-/

namespace RustlsFfi.Verify
open Control

variable {Conn S : Type}

structure VerifyCall where
  callback : FnPtr
  userdata : VoidPtr
  params : RustlsVerifyServerCertParams
  deriving DecidableEq, Repr

/-- The same functions, with a record of the verify calls made. -/
def recording (C : CFunctions S) : CFunctions (S × List VerifyCall) where
  verify f u params := fun (s, calls) =>
    let (c, s) := C.verify f u params s
    (c, s, calls ++ [⟨f, u, params⟩])
  sessionGet f u key remove buf count outN := fun (s, calls) =>
    let (r, s) := C.sessionGet f u key remove buf count outN s
    (r, s, calls)
  sessionPut f u key value := fun (s, calls) =>
    let (r, s) := C.sessionPut f u key value s
    (r, s, calls)

/-- What the callback sees of the certificate and the server's name. -/
structure Describes (params : RustlsVerifyServerCertParams) (endEntity : Certificate)
    (intermediates : List Certificate) (name : String) (ocspResponse : Bytes) : Prop where
  endEntity : params.endEntityCertDer.bytes = endEntity.der
  intermediates : params.intermediateCertsDer.enumerate = intermediates.map Certificate.der
  name : params.dnsName = ⟨some (utf8 name), (utf8 name).length⟩
  ocspResponse : params.ocspResponse.bytes = ocspResponse

/-- The callback can be asked: about a DNS name without NUL, with `top` on the userdata stack. -/
structure Askable (serverName : ServerName) (k : UserdataKey) (name : String) (top : Userdata) : Prop where
  dnsName : serverName = .dnsName name
  noNul : '\x00' ∉ name.toList
  usable : k.Usable
  onTop : k.stack.head? = some top

/-! ### The code on its way through the tables -/

/-- What becomes of the callback's code. -/
def verdict (c : UInt32) : Except Error Unit :=
  match (RustlsResult.tryFrom c).getD .general with
  | .ok => .ok ()
  | r => .error (certResultToError r)

/-- The code that the application gets to see for it. -/
def verdictCode (c : UInt32) : UInt32 :=
  if rustlsResultIsCertError c then c else RustlsResult.general.code

theorem verdict_of_ne {r : RustlsResult} {c : UInt32} (known : (RustlsResult.tryFrom c).getD .general = r)
    (refused : r ≠ .ok) : verdict c = .error (certResultToError r) := by
  unfold verdict
  rw [known]
  cases r <;> first | rfl | exact absurd rfl refused

/-- The numbers of the certificate codes come back unchanged, all others as `General`. -/
theorem code_mapError_certResultToError (c : UInt32) :
    (mapError (certResultToError ((RustlsResult.tryFrom c).getD .general))).code = verdictCode c := by
  unfold verdictCode rustlsResultIsCertError
  rw [mapError_certResultToError]
  cases known : RustlsResult.tryFrom c with
  | none => rfl
  | some r =>
    dsimp only [Option.getD_some]
    split
    · exact RustlsResult.tryFrom_code known
    · rfl

theorem verdict_eq_ok_iff (c : UInt32) : verdict c = .ok () ↔ c = RustlsResult.ok.code := by
  rw [← RustlsResult.tryFrom_eq_ok_iff]
  by_cases passed : (RustlsResult.tryFrom c).getD .general = .ok
  · simp [verdict, passed]
  · simp [verdict_of_ne rfl passed, passed]

theorem verdict_error {c : UInt32} (refused : c ≠ RustlsResult.ok.code) :
    ∃ e, verdict c = .error e ∧ (mapError e).code = verdictCode c := by
  refine ⟨_, verdict_of_ne rfl ?_, code_mapError_certResultToError c⟩
  rwa [ne_eq, RustlsResult.tryFrom_eq_ok_iff]

/-! ### The verifier -/

section
variable (C : CFunctions S) (v : Verifier) (endEntity : Certificate) (intermediates : List Certificate)
  (serverName : ServerName) (ocspResponse : Bytes) (w : World Conn S)

theorem verifyServerCert_asked {name : String} {top : Userdata}
    (askable : Askable serverName w.userdata name top) :
    ∃ params, Describes params endEntity intermediates name ocspResponse ∧
      v.verifyServerCert C endEntity intermediates serverName ocspResponse w =
        (verdict (C.verify v.callback top.userdata params w.app).1,
          { w with app := (C.verify v.callback top.userdata params w.app).2 }) := by
  obtain ⟨rfl, noNul, usable, onTop⟩ := askable
  obtain ⟨rest, stack⟩ := List.head?_eq_some_iff.mp onTop
  have named : RustlsStr.tryFrom name = some ⟨some (utf8 name), (utf8 name).length⟩ := by
    simp [RustlsStr.tryFrom, noNul]
  refine ⟨verifyParams endEntity intermediates ⟨some (utf8 name), (utf8 name).length⟩ ocspResponse, ?_, ?_⟩
  · exact ⟨by simp [verifyParams], by simp [verifyParams, enumerate_inner], rfl, by simp [verifyParams]⟩
  · rcases reply : C.verify v.callback top.userdata (verifyParams endEntity intermediates
      ⟨some (utf8 name), (utf8 name).length⟩ ocspResponse) w.app with ⟨c, s⟩
    simp only [Verifier.verifyServerCert, named, userdataGet_top usable stack, reply, verdict]
    cases (RustlsResult.tryFrom c).getD .general <;> rfl

theorem verifyServerCert_unasked
    (never : ¬ ∃ name top, Askable serverName w.userdata name top) :
    ∃ text, v.verifyServerCert C endEntity intermediates serverName ocspResponse w =
      (.error (.general text), w) := by
  unfold Verifier.verifyServerCert
  split
  · exact ⟨_, rfl⟩
  next name =>
    split
    · exact ⟨_, rfl⟩
    next named =>
      dsimp only
      split
      · exact ⟨_, rfl⟩
      next got =>
        obtain ⟨usable, top, onTop⟩ := userdataGet_ok got
        have noNul : '\x00' ∉ name.toList := (by simpa [RustlsStr.tryFrom] using named : _ ∧ _).1
        exact absurd ⟨name, top, rfl, noNul, usable, onTop⟩ never

end

/-- Verification passes exactly if the callback could be asked and said 7000. Where it could, it was
called once, about this certificate and with the userdata on top of the stack; where not, it was not
called. A code other than 7000 becomes an error that `process_new_packets` reports as that code, if
the code is one about certificates, and as `General` otherwise, provided that rustls hands the error
on and leaves the userdata stack as it found it. -/
theorem verification_fails_closed (C : CFunctions S) (v : Verifier) (endEntity : Certificate)
    (intermediates : List Certificate) (serverName : ServerName) (ocspResponse : Bytes)
    (w : World Conn (S × List VerifyCall)) :
    let out := v.verifyServerCert (recording C) endEntity intermediates serverName ocspResponse w
    (∀ name top, Askable serverName w.userdata name top → ∃ params s c,
      Describes params endEntity intermediates name ocspResponse ∧
      C.verify v.callback top.userdata params w.app.1 = (c, s) ∧
      out.2 = { w with app := (s, w.app.2 ++ [⟨v.callback, top.userdata, params⟩]) } ∧
      (out.1 = .ok () ↔ c = 7000) ∧
      (c ≠ 7000 → ∃ e, out.1 = .error e ∧
        (mapError e).code = (if rustlsResultIsCertError c then c else RustlsResult.general.code) ∧
        ∀ (rustls : Addr → World Conn (S × List VerifyCall) →
            Res Error Unit × World Conn (S × List VerifyCall))
          (before : World Conn (S × List VerifyCall)) (a : Addr) (conn : Connection Conn),
          before.userdata.Usable → Arena.get before.conns a = some conn →
          w.userdata = (before.enter conn).userdata →
          (rustls a (before.enter conn)).1 = .err e →
          (rustls a (before.enter conn)).2.userdata = (before.enter conn).userdata →
          top.userdata = conn.userdata ∧
          ∃ r : RustlsResult, (rustlsConnectionProcessNewPackets rustls (some a) before).1 = .returned r ∧
            r.code = (if rustlsResultIsCertError c then c else RustlsResult.general.code))) ∧
    ((¬ ∃ name top, Askable serverName w.userdata name top) →
      (∃ text, out.1 = .error (.general text)) ∧ out.2 = w) := by
  intro out
  refine ⟨fun name top askable => ?_, fun never => ?_⟩
  · obtain ⟨params, describes, eq⟩ := verifyServerCert_asked (recording C) v endEntity intermediates
      serverName ocspResponse w askable
    have result : out.1 = verdict (C.verify v.callback top.userdata params w.app.1).1 :=
      congrArg Prod.fst eq
    refine ⟨params, _, _, describes, rfl, congrArg Prod.snd eq, ?_, fun refused => ?_⟩
    · rw [result]
      exact verdict_eq_ok_iff _
    · obtain ⟨e, error, code⟩ := verdict_error refused
      refine ⟨e, result.trans error, code, ?_⟩
      intro rustls before a conn usable live here ended kept
      refine ⟨?_, mapError e, ?_, code⟩
      · have onTop := askable.onTop
        rw [here] at onTop
        obtain rfl : conn.frame = top := by simpa [World.enter] using onTop
        rfl
      · rw [processNewPackets_live usable live kept, ended]
        rfl
  · obtain ⟨text, eq⟩ := verifyServerCert_unasked (recording C) v endEntity intermediates serverName
      ocspResponse w never
    exact ⟨⟨text, congrArg Prod.fst eq⟩, congrArg Prod.snd eq⟩

/-- Functions of an application that refuses every certificate. -/
def refusing : CFunctions Unit where
  verify _ _ _ s := (RustlsResult.certInvalidData.code, s)
  sessionGet _ _ _ _ buf _ outN s := (⟨RustlsResult.notFound.code, buf, outN⟩, s)
  sessionPut _ _ _ _ s := (RustlsResult.io.code, s)

def inHandshake : World Unit (Unit × List VerifyCall) :=
  { (World.initial ((), []) : World Unit (Unit × List VerifyCall)) with
    userdata.stack := [⟨some 1, none⟩] }

theorem verification_fails_closed_refusing :
    let out := (⟨0⟩ : Verifier).verifyServerCert (recording refusing) ⟨[1]⟩ [⟨[2]⟩, ⟨[3]⟩]
      (.dnsName "example.com") [] inHandshake
    out.2.app.2.length = 1 ∧
      ∃ e, out.1 = .error e ∧ (mapError e).code = RustlsResult.certInvalidData.code := by
  intro out
  have askable : Askable (.dnsName "example.com") inHandshake.userdata "example.com" ⟨some 1, none⟩ :=
    ⟨rfl, by decide, ⟨rfl, rfl⟩, rfl⟩
  obtain ⟨params, s, c, -, asked, after, -, refused⟩ :=
    (verification_fails_closed refusing ⟨0⟩ ⟨[1]⟩ [⟨[2]⟩, ⟨[3]⟩] (.dnsName "example.com") []
      inHandshake).1 _ _ askable
  obtain rfl : RustlsResult.certInvalidData.code = c := congrArg Prod.fst asked
  obtain ⟨e, failed, code, -⟩ := refused (by decide)
  refine ⟨?_, e, failed, code⟩
  rw [show out.2 = _ from after]
  rfl

end RustlsFfi.Verify
