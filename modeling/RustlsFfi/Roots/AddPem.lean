import RustlsFfi.Base.Pem
import RustlsFfi.Model.Api
import RustlsFfi.Model.Rules

/-!
# Filling a root store

`rustls_root_cert_store_add_pem` adds all it takes from a text at once or nothing. What it takes depends
on two libraries that can each find fault with a certificate.
-/

namespace RustlsFfi.Roots
open Control

variable {Conn S : Type}

/-- The arguments of a call but the store. -/
structure Addition where
  pem : Option Bytes
  len : Nat
  strict : Bool
  deriving DecidableEq, Repr

namespace Addition

def call (a : Addr) (c : Addition) : Call S := .rootCertStoreAddPem (some a) c.pem c.len c.strict

def text (c : Addition) : Bytes := (c.pem.getD []).take c.len

/-- The text is memory that can be read. -/
def Readable (c : Addition) : Prop := ∃ l, c.pem = some l ∧ c.len ≤ l.length

instance (c : Addition) : Decidable c.Readable :=
  match given : c.pem with
  | none => isFalse (by rintro ⟨l, given', -⟩; simp [given] at given')
  | some l => decidable_of_iff (c.len ≤ l.length) (by simp [Readable, given])

/-- The parsable certificates of the text, in its order. -/
def contribution (R : Rustls Conn S) (c : Addition) : List Bytes :=
  match R.certs c.text with
  | .ok ders => ders.filter R.parsable
  | _ => []

/-- A strict call is content with certificates that all parse, and wants one at least. -/
def content (R : Rustls Conn S) (strict : Bool) (ders : List Bytes) : Bool :=
  !strict || (ders.all R.parsable && !ders.isEmpty)

theorem content_strict {R : Rustls Conn S} {ders : List Bytes} :
    content R true ders = true ↔ ders ≠ [] ∧ ∀ der ∈ ders, R.parsable der = true := by
  simp [content, and_comm]

def Accepts (R : Rustls Conn S) (c : Addition) : Prop :=
  c.Readable ∧ ∃ ders, R.certs c.text = .ok ders ∧ content R c.strict ders = true

end Addition

/-! ### One call -/

theorem strict_check (R : Rustls Conn S) (strict : Bool) (ders : List Bytes) :
    (strict && (decide (ders.countP (fun der => !R.parsable der) > 0) || ders.countP R.parsable == 0)) =
      !Addition.content R strict ders := by
  have rejected : decide (ders.countP (fun der => !R.parsable der) > 0) = !ders.all R.parsable := by
    rw [Bool.eq_iff_iff]
    simp [List.countP_pos_iff]
  rw [rejected, Addition.content]
  cases good : ders.all R.parsable with
  | false => cases strict <;> simp
  | true =>
    rw [List.countP_eq_length.mpr (List.all_eq_true.mp good)]
    cases ders <;> cases strict <;> simp

section
variable {R : Rustls Conn S} {a : Addr} {store : RootCertStore} {w : World Conn S}

/-- What a call may come to: it succeeds and appends, or it fails and changes nothing. -/
def Result (R : Rustls Conn S) (a : Addr) (store : RootCertStore) (w : World Conn S) (c : Addition)
    (o : Outcome RustlsResult) (w' : World Conn S) : Prop :=
  if o = .returned .ok then
    c.Accepts R ∧ w' = { w with stores := Arena.put w.stores a ⟨store.roots ++ c.contribution R⟩ }
  else ¬ c.Accepts R ∧ w' = w

theorem not_accepts_of_certs {c : Addition} (unread : ∀ ders, R.certs c.text ≠ .ok ders) : ¬ c.Accepts R := by
  rintro ⟨-, ders, read, -⟩
  exact unread ders read

theorem addPem_result (live : Arena.get w.stores a = some store) (c : Addition) :
    Ends (rustlsRootCertStoreAddPem R (some a) c.pem c.len c.strict w) (Result R a store w c) := by
  have failed {o : Outcome RustlsResult} (bad : o ≠ .returned .ok) (refuses : ¬ c.Accepts R) :
      Result R a store w c o w := by
    rw [Result, if_neg bad]
    exact ⟨refuses, rfl⟩
  simp only [rustlsRootCertStoreAddPem, ends_boundary, wp_bind, wp_trySlice, wp_tryFromPtr_live live, wp_callPure,
    wp_okOr, RootCertStore.addParsableCertificates, Post.onNext, Post.boundary]
  constructor
  · intro null
    refine failed (by simp) ?_
    rintro ⟨⟨l, given, -⟩, -⟩
    simp [null] at given
  intro l given
  have text : c.text = l.take c.len := by simp [Addition.text, given]
  constructor
  · intro within
    refine ⟨?_, ?_, ?_⟩
    · intro ders read
      refine ⟨?_, by simp⟩
      rintro ders' same
      obtain rfl := Except.ok.inj same
      have check := strict_check R c.strict ders
      refine wp_ite.mpr ⟨?_, ?_⟩
      · intro bad
        have refuses : ¬ c.Accepts R := by
          rintro ⟨-, ders', read', content⟩
          rw [text, read] at read'
          obtain rfl := Res.ok.inj read'
          rw [content] at check
          exact absurd (check.symm.trans bad) (by simp)
        have refused : Result R a store w c (.returned .certificateParseError) w := failed (by simp) refuses
        exact wp_ret.mpr refused
      · intro good
        have content : Addition.content R c.strict ders = true := by
          simpa using fun failing => good (check.trans failing)
        have accepts : c.Accepts R := ⟨⟨l, given, within⟩, ders, text ▸ read, content⟩
        simpa [Result, Addition.contribution, text, read, RootCertStore.empty] using accepts
    · intro e read
      have refuses : ¬ c.Accepts R := not_accepts_of_certs (by simp [text, read])
      exact ⟨by simp, fun _ _ => failed (by simp) refuses⟩
    · intro read
      have refuses : ¬ c.Accepts R := not_accepts_of_certs (by simp [text, read])
      exact failed (by decide) refuses
  · intro past
    refine failed (by simp) ?_
    rintro ⟨⟨l', given', within⟩, -⟩
    obtain rfl := Option.some.inj (given.symm.trans given')
    omega

theorem addPem_damaged {pem : Bytes} {pemLen : Nat} {strict : Bool} (live : Arena.get w.stores a = some store)
    (valid : pemLen ≤ pem.length) (unread : R.certs (pem.take pemLen) = .err ()) :
    rustlsRootCertStoreAddPem R (some a) (some pem) pemLen strict w = (.returned .certificateParseError, w) := by
  simp [rustlsRootCertStoreAddPem, ffiPanicBoundary, bind_run, trySlice, fromRawParts, valid, tryFromPtr_live live,
    callPure, Ffi.call, unread, okOr]

theorem exec_result (live : Arena.get w.stores a = some store) (c : Addition) :
    ((exec R (c.call a) w).1 = .returned (.result .ok) ↔ c.Accepts R) ∧
      (exec R (c.call a) w).2 = if (exec R (c.call a) w).1 = .returned (.result .ok) then
        { w with stores := Arena.put w.stores a ⟨store.roots ++ c.contribution R⟩ } else w := by
  have result := addPem_result (R := R) live c
  have code : (exec R (c.call a) w).1 = .returned (.result .ok) ↔
      (rustlsRootCertStoreAddPem R (some a) c.pem c.len c.strict w).1 = .returned .ok := by
    simp only [exec, Addition.call, Api.as]
    cases (rustlsRootCertStoreAddPem R (some a) c.pem c.len c.strict w).1 <;> simp [Outcome.map]
  unfold Ends Result at result
  split at result
  next passed =>
    have ok := code.mpr passed
    rw [if_pos ok]
    exact ⟨iff_of_true ok result.1, result.2⟩
  next failed =>
    have bad := mt code.mp failed
    rw [if_neg bad]
    exact ⟨iff_of_false bad result.1, result.2⟩

/-! ### Any number of calls -/

def add (R : Rustls Conn S) (a : Addr) : World Conn S × List Addition → Addition → World Conn S × List Addition
  | (w, done), c =>
    ((exec R (c.call a) w).2, if (exec R (c.call a) w).1 = .returned (.result .ok) then done ++ [c] else done)

/-- Calls one after the other, with those that have returned `RUSTLS_RESULT_OK`. -/
def addAll (R : Rustls Conn S) (a : Addr) (w : World Conn S) (calls : List Addition) : World Conn S × List Addition :=
  calls.foldl (add R a) (w, [])

theorem add_roots {done : List Addition} (c : Addition)
    (live : Arena.get w.stores a = some ⟨store.roots ++ done.flatMap (·.contribution R)⟩) :
    Arena.get (add R a (w, done) c).1.stores a =
      some ⟨store.roots ++ (add R a (w, done) c).2.flatMap (·.contribution R)⟩ := by
  have state := (exec_result (R := R) live c).2
  unfold add
  dsimp only
  rw [state]
  split
  · simp [Arena.get_put_same _ live]
  · exact live

theorem foldl_roots {done : List Addition} (calls : List Addition)
    (live : Arena.get w.stores a = some ⟨store.roots ++ done.flatMap (·.contribution R)⟩) :
    Arena.get (calls.foldl (add R a) (w, done)).1.stores a =
      some ⟨store.roots ++ (calls.foldl (add R a) (w, done)).2.flatMap (·.contribution R)⟩ := by
  induction calls generalizing w done with
  | nil => exact live
  | cons c rest ih => exact ih (add_roots c live)

theorem foldl_done {done : List Addition} (calls : List Addition)
    (live : Arena.get w.stores a = some store) (accepted : ∀ c ∈ done, c.Accepts R) :
    ∀ c ∈ (calls.foldl (add R a) (w, done)).2, c.Accepts R := by
  induction calls generalizing w done store with
  | nil => exact accepted
  | cons c rest ih =>
    obtain ⟨passed, state⟩ := exec_result (R := R) live c
    rw [List.foldl_cons, add, state]
    split
    next ok =>
      refine ih (Arena.get_put_same _ live) fun d member => ?_
      rcases List.mem_append.mp member with old | new
      · exact accepted d old
      · exact List.mem_singleton.mp new ▸ passed.mp ok
    · exact ih live accepted

/-- The certificates of a text that a strict call accepts are its contribution, every one of them. -/
theorem Addition.Accepts.strict {c : Addition} (accepts : c.Accepts R) (strict : c.strict = true) :
    R.certs c.text = .ok (c.contribution R) ∧ c.contribution R ≠ [] := by
  obtain ⟨-, ders, read, content⟩ := accepts
  rw [strict, Addition.content_strict] at content
  have all : c.contribution R = ders := by
    rw [Addition.contribution, read]
    exact List.filter_eq_self.mpr content.2
  rw [all]
  exact ⟨read, content.1⟩

theorem roots_of_run (live : Arena.get w.stores a = some store) (calls : List Addition) :
    let run := addAll R a w calls
    Arena.get run.1.stores a = some ⟨store.roots ++ run.2.flatMap (·.contribution R)⟩ ∧
    (∀ c ∈ run.2, c.strict = true → R.certs c.text = .ok (c.contribution R) ∧ c.contribution R ≠ []) ∧
    ∀ c : Addition,
      ((exec R (c.call a) run.1).1 ≠ .returned (.result .ok) → (exec R (c.call a) run.1).2 = run.1) ∧
      (c.strict = true → ((exec R (c.call a) run.1).1 = .returned (.result .ok) ↔
        c.Readable ∧ ∃ ders, R.certs c.text = .ok ders ∧ ders ≠ [] ∧ ∀ der ∈ ders, R.parsable der = true)) := by
  intro run
  have roots : Arena.get run.1.stores a = some ⟨store.roots ++ run.2.flatMap (·.contribution R)⟩ :=
    foldl_roots calls (by simpa using live)
  refine ⟨roots, fun c member => (foldl_done calls live (by simp) c member).strict, fun c => ?_⟩
  obtain ⟨passed, state⟩ := exec_result (R := R) roots c
  refine ⟨fun failed => by rw [state, if_neg failed], fun strict => ?_⟩
  simp only [passed, Addition.Accepts, strict, Addition.content_strict]

end

/-! ### Texts made of blocks -/

/-- What a block of a PEM text says it is. -/
inductive Label where
  | certificate
  | privateKey
  | rsaPrivateKey
  | other
  deriving DecidableEq, Repr

/-- `rustls_pemfile::certs` over the blocks a text falls into. -/
def readCerts (blocks : Bytes → List (Pem.Block Label Bytes)) (text : Bytes) : Res Unit (List Bytes) :=
  match Pem.readAll .certificate (blocks text) with
  | some ders => .ok ders
  | none => .err ()

theorem readCerts_intact {blocks : Bytes → List (Pem.Block Label Bytes)} {text : Bytes}
    (intact : Pem.intact (blocks text) = true) :
    readCerts blocks text = .ok (Pem.contents .certificate (blocks text)) := by
  rw [readCerts, Pem.readAll_eq, if_pos intact]

theorem readCerts_damaged {blocks : Bytes → List (Pem.Block Label Bytes)} {text : Bytes}
    (damaged : Pem.intact (blocks text) = false) : readCerts blocks text = .err () := by
  rw [readCerts, Pem.readAll_eq, if_neg (by simp [damaged])]

/-- Every byte a certificate, but `0` a damaged block. -/
def byteBlocks (text : Bytes) : List (Pem.Block Label Bytes) :=
  text.map fun b => ⟨.certificate, if b = 0 then none else some [b]⟩

/-- A library that reads those, with `255` a certificate that does not parse. -/
def ofBytes : Rustls Unit Unit where
  __ := Rustls.inert ()
  certs := readCerts byteBlocks
  parsable der := der != [255]

def emptyStore : World Unit Unit := { World.initial () with stores := [some ⟨[]⟩] }

def threeCalls : List Addition := [⟨some [1, 255, 2], 3, false⟩, ⟨some [3, 255], 2, true⟩, ⟨some [4], 1, true⟩]

theorem roots_of_run_three : (addAll ofBytes 0 emptyStore threeCalls).1.stores = [some ⟨[[1], [2], [4]]⟩] ∧
    Arena.get (addAll ofBytes 0 emptyStore threeCalls).1.stores 0 =
      some ⟨[] ++ (addAll ofBytes 0 emptyStore threeCalls).2.flatMap (·.contribution ofBytes)⟩ :=
  ⟨by decide, (roots_of_run rfl threeCalls).1⟩

/-- A lenient call adds the certificates that parse just if no block of the text is damaged; one damaged
block, of any kind and anywhere, makes it fail. The blocks are any for which the library's `certs` is `readCerts`; where
rustls_pemfile sees the blocks of a text is its own affair. -/
theorem lenient_iff_intact {R : Rustls Conn S} {a : Addr} {store : RootCertStore} {w : World Conn S}
    {blocks : Bytes → List (Pem.Block Label Bytes)} (library : R.certs = readCerts blocks)
    (live : Arena.get w.stores a = some store) (pem : Bytes) (pemLen : Nat) (valid : pemLen ≤ pem.length) :
    let text := pem.take pemLen
    let call := exec R (.rootCertStoreAddPem (some a) (some pem) pemLen false) w
    let good := (Pem.contents .certificate (blocks text)).filter R.parsable
    (call = (.returned (.result .ok), { w with stores := Arena.put w.stores a ⟨store.roots ++ good⟩ }) ↔
      Pem.intact (blocks text) = true) ∧
    (Pem.intact (blocks text) = false → call = (.returned (.result .certificateParseError), w)) := by
  intro text call good
  cases intact : Pem.intact (blocks text) with
  | true =>
    have read : R.certs text = .ok (Pem.contents .certificate (blocks text)) := library ▸ readCerts_intact intact
    obtain ⟨passed, state⟩ := exec_result (R := R) live ⟨some pem, pemLen, false⟩
    have accepts : Addition.Accepts R ⟨some pem, pemLen, false⟩ := ⟨⟨pem, rfl, valid⟩, _, read, rfl⟩
    have contributes : Addition.contribution R ⟨some pem, pemLen, false⟩ = good := by
      have given : Addition.text ⟨some pem, pemLen, false⟩ = text := rfl
      rw [Addition.contribution, given, read]
    have ok := passed.mpr accepts
    rw [if_pos ok, contributes] at state
    exact ⟨iff_of_true (Prod.ext ok state) rfl, nofun⟩
  | false =>
    have unread : R.certs text = .err () := library ▸ readCerts_damaged intact
    have failed : call = (.returned (.result .certificateParseError), w) := by
      simp only [call, exec, Api.as, addPem_damaged live valid unread, Outcome.map]
    exact ⟨iff_of_false (by simp [failed]) Bool.false_ne_true, fun _ => failed⟩

theorem lenient_iff_intact_two : Pem.intact (byteBlocks [1, 255]) = true ∧
    exec ofBytes (.rootCertStoreAddPem (some 0) (some [1, 255]) 2 false) emptyStore =
      (.returned (.result .ok), { emptyStore with stores := [some ⟨[[1]]⟩] }) :=
  ⟨rfl, (lenient_iff_intact (R := ofBytes) (a := 0) (w := emptyStore) rfl rfl [1, 255] 2 (by decide)).1.mpr rfl⟩

/-- A good certificate before a damaged block and one after it: the call reports an error and adds none. -/
theorem damaged_not_ignored :
    Pem.contents .certificate (byteBlocks [1, 0, 2]) = [[1], [2]] ∧
      [[1], [2]].all ofBytes.parsable = true ∧
      exec ofBytes (.rootCertStoreAddPem (some 0) (some [1, 0, 2]) 3 false) emptyStore =
        (.returned (.result .certificateParseError), emptyStore) :=
  ⟨rfl, rfl, rfl⟩

end RustlsFfi.Roots
