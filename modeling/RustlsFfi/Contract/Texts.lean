import RustlsFfi.Base.Utf8
import RustlsFfi.Model.Api
import RustlsFfi.Model.Rules

/-!
# Texts that reach C

What `rustls_error` leaves in the caller's buffer, and which strings C gets to see as a `rustls_str`.
-/

namespace RustlsFfi.Texts
open Control

variable {Conn S : Type}

/-! ### Messages in a buffer -/

def message (R : Rustls Conn S) (code : UInt32) : Bytes :=
  utf8 (((RustlsResult.tryFrom code).getD .invalidParameter).toText R)

/-- As much of the text as fits before the last of `len` bytes stands in the buffer, and nothing else has
changed. -/
structure Confined (text : Bytes) (buf outN : Addr) (len : Nat) (w w' : World Conn S) : Prop where
  count : w'.cells.size outN = min (len - 1) text.length
  bytes (i : Nat) : (w'.cells.buf buf)[i]? = if i < min (len - 1) text.length then text[i]? else (w.cells.buf buf)[i]?
  elsewhere : w' = { w with
    cells.buf := Function.update w.cells.buf buf (w'.cells.buf buf)
    cells.size := Function.update w.cells.size outN (w'.cells.size outN) }

theorem usizeSub_one {width len : Nat} (positive : 1 ≤ len) (word : len < 2 ^ width) :
    usizeSub width len 1 = len - 1 := by
  rw [usizeSub, show len + 2 ^ width - 1 = len - 1 + 2 ^ width by omega, Nat.add_mod_right]
  exact Nat.mod_eq_of_lt (by omega)

theorem usizeSub_zero (width : Nat) : usizeSub width 0 1 = 2 ^ width - 1 := by
  have := Nat.two_pow_pos width
  rw [usizeSub, Nat.zero_add]
  exact Nat.mod_eq_of_lt (by omega)

section
variable {R : Rustls Conn S} {width len : Nat} {code : UInt32} {buf outN : Addr} {w : World Conn S}

theorem confined_of_count {n : Nat} (same : n = min (len - 1) (message R code).length) :
    Confined (message R code) buf outN len w { w with
      cells.buf := Function.update w.cells.buf buf ((message R code).take n ++ (w.cells.buf buf).drop n)
      cells.size := Function.update w.cells.size outN n } where
  count := by simp [same]
  bytes i := by
    have fits : n ≤ (message R code).length := by omega
    simp only [← same, Function.update_self]
    split
    next inside => rw [List.getElem?_append_left (by simp; omega), List.getElem?_take_of_lt inside]
    next outside =>
      rw [List.getElem?_append_right (by simp; omega), List.getElem?_drop]
      congr 1
      simp
      omega
  elsewhere := by simp

theorem error_confined_iff (wide : 0 < width) (word : len < 2 ^ width) :
    let call := rustlsErrorOn width R code (some buf) len (some outN) w
    call.1 = .returned () ∧ Confined (message R code) buf outN len w call.2 ↔ 1 ≤ len ∨ message R code = [] := by
  intro call
  have run : call = (.returned (), { w with
      cells.buf := Function.update w.cells.buf buf
        ((message R code).take (min (usizeSub width len 1) (message R code).length) ++
          (w.cells.buf buf).drop (min (usizeSub width len 1) (message R code).length))
      cells.size := Function.update w.cells.size outN (min (usizeSub width len 1) (message R code).length) }) := rfl
  constructor
  · rintro ⟨-, confined⟩
    refine or_iff_not_imp_left.mpr fun zero => List.eq_nil_of_length_eq_zero ?_
    obtain rfl : len = 0 := by omega
    have count := confined.count
    have wraps : 1 < 2 ^ width := Nat.one_lt_two_pow (by omega)
    rw [run, usizeSub_zero] at count
    simp only [Function.update_self] at count
    omega
  · intro holds
    rw [run]
    refine ⟨rfl, confined_of_count ?_⟩
    rcases holds with positive | empty
    · rw [usizeSub_one positive word]
    · simp [empty]

end

/-- Three bytes of memory behind every pointer. -/
def threeBytes : World Unit Unit := { World.initial () with cells.buf := fun _ => [1, 2, 3] }

theorem error_confined_iff_two :
    (rustlsErrorOn 64 (Rustls.inert ()) 7000 (some 0) 2 (some 0) threeBytes).2.cells.buf 0 = [79, 2, 3] ∧
    Confined (message (Rustls.inert () : Rustls Unit Unit) 7000) 0 0 2 threeBytes
      (rustlsErrorOn 64 (Rustls.inert ()) 7000 (some 0) 2 (some 0) threeBytes).2 :=
  ⟨by decide, ((error_confined_iff (by decide) (by decide)).mpr (.inl (by decide))).2⟩

/-- A buffer of no bytes gets the two of `OK`. -/
theorem empty_buffer_overrun :
    (rustlsError (Rustls.inert ()) 7000 (some 0) 0 (some 0) threeBytes).2.cells.buf 0 = [79, 75, 3] ∧
    (rustlsError (Rustls.inert ()) 7000 (some 0) 0 (some 0) threeBytes).2.cells.size 0 = 2 ∧
    ¬ Confined (message (Rustls.inert () : Rustls Unit Unit) 7000) 0 0 0 threeBytes
      (rustlsError (Rustls.inert ()) 7000 (some 0) 0 (some 0) threeBytes).2 :=
  ⟨by decide, by decide, fun confined => absurd confined.count (by decide)⟩

/-! ### Strings -/

/-- UTF-8 without a zero byte. -/
def NulFree (v : RustlsStr) : Prop := (∃ s : String, v.bytes = utf8 s) ∧ 0 ∉ v.bytes

theorem zero_mem_utf8 (s : String) : 0 ∈ utf8 s ↔ '\x00' ∈ s.toList := Utf8.zero_mem_encode _

theorem tryFrom_eq (s : String) :
    RustlsStr.tryFrom s = if 0 ∈ utf8 s then none else some ⟨some (utf8 s), (utf8 s).length⟩ := by
  simp [RustlsStr.tryFrom, zero_mem_utf8]

theorem bytes_whole (b : Bytes) : RustlsStr.bytes ⟨some b, b.length⟩ = b := by
  simp [RustlsStr.bytes]

theorem nulFree_whole {s : String} (clean : 0 ∉ utf8 s) : NulFree ⟨some (utf8 s), (utf8 s).length⟩ := by
  unfold NulFree
  rw [bytes_whole]
  exact ⟨⟨s, rfl⟩, clean⟩

theorem nulFree_null : NulFree ⟨none, 0⟩ := ⟨⟨"", rfl⟩, by simp [RustlsStr.bytes]⟩

theorem nulFree_tryFrom {s : String} {v : RustlsStr} (passed : RustlsStr.tryFrom s = some v) : NulFree v := by
  rw [tryFrom_eq] at passed
  split at passed
  · cases passed
  next clean =>
    obtain rfl := Option.some.inj passed
    exact nulFree_whole clean

theorem nulFree_unchecked {s : String} (clean : s.toList.contains '\x00' = false) :
    NulFree (.fromStrUnchecked s) := by
  refine nulFree_whole ?_
  rw [zero_mem_utf8]
  simpa using clean

/-! ### Strings that functions return -/

theorem nulFree_sliceStrGet (input : Option RustlsSliceStr) (n : Nat) : NulFree (rustlsSliceStrGet input n) := by
  unfold rustlsSliceStrGet
  cases input with
  | none => exact nulFree_null
  | some input =>
    dsimp only
    cases passed : input.inner[n]?.bind RustlsStr.tryFrom with
    | none => exact nulFree_null
    | some v =>
      obtain ⟨s, -, passed⟩ := Option.bind_eq_some_iff.mp passed
      exact nulFree_tryFrom passed

theorem nulFree_logLevelStr (level : Nat) : NulFree (rustlsLogLevelStr level) := by
  unfold rustlsLogLevelStr
  refine nulFree_unchecked ?_
  split <;> decide

theorem nulFree_ciphersuiteName (R : Rustls Conn S) (suite : Option SupportedCipherSuite) (w : World Conn S) :
    Ends (rustlsSupportedCiphersuiteGetName R suite w) (Returns fun v _ => NulFree v) := by
  have empty : NulFree (.fromStrUnchecked "") := nulFree_unchecked (by decide)
  simp only [rustlsSupportedCiphersuiteGetName, ends_bare, wp_bind, wp_tryRef, Post.onNext, Post.bare, Returns]
  refine ⟨fun _ => empty, fun suite _ => ?_⟩
  split
  next passed => exact nulFree_tryFrom passed
  · exact empty

theorem as_value {ρ : Type} {f : Api Conn S ρ} {wrap : ρ → Value} {w : World Conn S} {v : Value}
    (back : (f.as wrap w).1.value? = some v) : ∃ r, (f w).1.value? = some r ∧ wrap r = v := by
  unfold Api.as at back
  cases outcome : (f w).1 <;> simp_all [Outcome.map, Outcome.value?]

theorem nulFree_exec (R : Rustls Conn S) (call : Call S) (w : World Conn S) {v : RustlsStr}
    (back : (exec R call w).1.value? = some (.str v)) : NulFree v := by
  cases call
  case sliceStrGet input n =>
    obtain rfl : rustlsSliceStrGet input n = v := by simpa [exec, Api.const, Outcome.value?] using back
    exact nulFree_sliceStrGet input n
  case logLevelStr level =>
    obtain rfl : rustlsLogLevelStr level = v := by simpa [exec, Api.const, Outcome.value?] using back
    exact nulFree_logLevelStr level
  case version =>
    obtain rfl : rustlsVersion = v := by simpa [exec, Api.const, Outcome.value?] using back
    exact nulFree_unchecked (by decide)
  case supportedCiphersuiteGetName suite =>
    obtain ⟨r, returned, same⟩ := as_value back
    cases same
    exact returns_value (nulFree_ciphersuiteName R suite w) returned
  -- No other function returns a string.
  all_goals first
    | cases (as_value back).choose_spec.2
    | simp [exec, Api.const, Outcome.value?] at back

/-! ### Strings that callbacks receive -/

def mapApp {T : Type} (f : S → T) (w : World Conn S) : World Conn T := { w with app := f w.app }

/-! The same C functions, with a note of every string they are given. -/

def notingHello (hello : FnPtr → ClientHelloCallback Conn S) :
    FnPtr → ClientHelloCallback Conn (S × List RustlsStr) :=
  fun f userdata params w =>
    let reply := hello f userdata params (mapApp Prod.fst w)
    (reply.1, mapApp (fun s => (s, w.app.2 ++ [params.sniName])) reply.2)

def notingVerify (C : CFunctions S) : CFunctions (S × List RustlsStr) where
  verify f userdata params := fun (s, told) =>
    let reply := C.verify f userdata params s
    (reply.1, reply.2, told ++ [params.dnsName])
  sessionGet f userdata key remove buf count outN := fun (s, told) =>
    let reply := C.sessionGet f userdata key remove buf count outN s
    (reply.1, reply.2, told)
  sessionPut f userdata key value := fun (s, told) =>
    let reply := C.sessionPut f userdata key value s
    (reply.1, reply.2, told)

def notingLog (log : FnPtr → LogCallback Conn S) : FnPtr → LogCallback Conn (S × List RustlsStr) :=
  fun f userdata params w =>
    mapApp (fun s => (s, w.app.2 ++ [params.message])) (log f userdata params (mapApp Prod.fst w))

/-- Whatever C has been told in between is `text` to the last byte, and `text` has no zero byte. -/
def Tells (text : String) (w w' : World Conn (S × List RustlsStr)) : Prop :=
  ∃ told, w'.app.2 = w.app.2 ++ told ∧ ∀ v ∈ told, v.bytes = utf8 text ∧ 0 ∉ utf8 text

section
variable {text : String} {w w' : World Conn (S × List RustlsStr)}

theorem tells_nothing : Tells text w w := ⟨[], by simp, by simp⟩

theorem tells_once {v : RustlsStr} (passed : RustlsStr.tryFrom text = some v)
    (noted : w'.app.2 = w.app.2 ++ [v]) : Tells text w w' := by
  refine ⟨[v], noted, fun v' member => ?_⟩
  obtain rfl := List.mem_singleton.mp member
  rw [tryFrom_eq] at passed
  split at passed
  · cases passed
  next clean =>
    obtain rfl := Option.some.inj passed
    exact ⟨bytes_whole _, clean⟩

theorem tryFrom_nul (nul : 0 ∈ utf8 text) : RustlsStr.tryFrom text = none := by
  rw [tryFrom_eq, if_pos nul]

theorem tells_hello (hello : FnPtr → ClientHelloCallback Conn S) (f : FnPtr) (clientHello : ClientHello) :
    Tells (clientHello.serverName.getD "") w
      (fromRustls (ClientHelloResolver.resolve (notingHello hello f) clientHello) w).2 := by
  rw [clientHelloResolver_resolve]
  cases passed : RustlsStr.tryFrom (clientHello.serverName.getD "") with
  | none => exact tells_nothing
  | some v =>
    cases userdataGet w.userdata with
    | error _ => exact tells_nothing
    | ok userdata =>
      dsimp only
      -- The callback has been called; the check of its reply tells nothing more.
      split
      · exact tells_once passed rfl
      · split <;> exact tells_once passed rfl

theorem tells_verify (C : CFunctions S) (v : Verifier) (endEntity : Certificate) (intermediates : List Certificate)
    (name : String) (ocspResponse : Bytes) :
    Tells name w
      (v.verifyServerCert (notingVerify C) endEntity intermediates (.dnsName name) ocspResponse w).2 := by
  unfold Verifier.verifyServerCert
  dsimp only
  cases passed : RustlsStr.tryFrom name with
  | none => exact tells_nothing
  | some dnsName =>
    cases userdataGet w.userdata with
    | error _ => exact tells_nothing
    | ok userdata =>
      dsimp only [notingVerify]
      split <;> exact tells_once passed rfl

theorem tells_log (log : FnPtr → LogCallback Conn S) (record : LogRecord) :
    Tells (record.target ++ " " ++ record.args) w (Logger.log (notingLog log) record w) := by
  unfold Logger.log
  split
  next cb userdata _ =>
    split
    next message passed => exact tells_once passed rfl
    · exact tells_nothing
  · exact tells_nothing

end

theorem strings_nulFree :
    (∀ s : String, (RustlsStr.tryFrom s).isSome = true ↔ 0 ∉ utf8 s) ∧
    (∀ (s : String) (v : RustlsStr), RustlsStr.tryFrom s = some v → v.data = some (utf8 s) ∧ v.len = (utf8 s).length) ∧
    (∀ (R : Rustls Conn S) (call : Call S) (w : World Conn S) (v : RustlsStr),
      (exec R call w).1.value? = some (.str v) → NulFree v) ∧
    (∀ (list : List String) (n : Nat) (s : String), list[n]? = some s → 0 ∈ utf8 s →
      rustlsSliceStrGet (some ⟨list⟩) n = ⟨none, 0⟩) ∧
    (∀ (R : Rustls Conn (S × List RustlsStr)) (hello : FnPtr → ClientHelloCallback Conn S) (f : FnPtr)
      (clientHello : ClientHello) (w : World Conn (S × List RustlsStr)),
      let out := (ServerCertResolver.clientHelloResolver f).resolve R (notingHello hello) clientHello w
      Tells (clientHello.serverName.getD "") w out.2 ∧
      (0 ∈ utf8 (clientHello.serverName.getD "") → out = (.ok none, w))) ∧
    (∀ (C : CFunctions S) (v : Verifier) (endEntity : Certificate) (intermediates : List Certificate)
      (name : String) (ocspResponse : Bytes) (w : World Conn (S × List RustlsStr)),
      let out := v.verifyServerCert (notingVerify C) endEntity intermediates (.dnsName name) ocspResponse w
      Tells name w out.2 ∧ (0 ∈ utf8 name → ∃ e, out = (.error e, w))) ∧
    (∀ (log : FnPtr → LogCallback Conn S) (record : LogRecord) (w : World Conn (S × List RustlsStr)),
      let out := Logger.log (notingLog log) record w
      Tells (record.target ++ " " ++ record.args) w out ∧
      (0 ∈ utf8 record.target ∨ 0 ∈ utf8 record.args → out = w)) := by
  refine ⟨fun s => ?_, fun s v passed => ?_, fun R call w v back => nulFree_exec R call w back,
    fun list n s found nul => ?_, fun R hello f clientHello w => ⟨tells_hello hello f clientHello, fun nul => ?_⟩,
    fun C v endEntity intermediates name ocspResponse w =>
      ⟨tells_verify C v endEntity intermediates name ocspResponse, fun nul => ?_⟩,
    fun log record w => ⟨tells_log log record, fun nul => ?_⟩⟩
  · rw [tryFrom_eq]
    split <;> simp_all
  · rw [tryFrom_eq] at passed
    split at passed
    · cases passed
    · obtain rfl := Option.some.inj passed
      exact ⟨rfl, rfl⟩
  · simp [rustlsSliceStrGet, found, tryFrom_nul nul]
  · exact (clientHelloResolver_resolve _ _ _).trans (by rw [tryFrom_nul nul])
  · exact ⟨.general "NUL byte in SNI", by simp [Verifier.verifyServerCert, tryFrom_nul nul]⟩
  · have nul : 0 ∈ utf8 (record.target ++ " " ++ record.args) := by
      simpa [zero_mem_utf8, or_assoc] using nul
    unfold Logger.log
    rw [tryFrom_nul nul]
    split <;> rfl

end RustlsFfi.Texts
