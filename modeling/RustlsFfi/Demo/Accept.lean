import RustlsFfi.Demo.Ownership
import RustlsFfi.Demo.Server

/-!
# What the server owns

`main` of `tests/server.c`: a certified key, a config with it, and one connection after the other until a signal comes.
However many connections there were, none is left behind. As in the client, the builder is never freed if the program
stops before building the config.
-/

namespace RustlsFfi.Demo.Server
open Code Memory Contract Lifetime
open Client (CString)

variable {Conn S : Type}

/-! ### The program -/

/-- What the program around a connection needs: `read_file` into a buffer of 10000 bytes, the socket that it listens on
with whether `bind` and `listen` succeeded, and the flag that the signal handler sets. -/
structure Host (S : Type) where
  sigaction : S → Bool × S
  readFile : CString → S → Option Bytes × S
  listen : S → (Int32 × Bool) × S
  accept : Int32 → S → Int32 × S
  shuttingDown : S → Bool
  calloc : S → VoidPtr × S
  logCb : FnPtr

/-- Where the local variable `certified_key` is. -/
def certifiedKeyAt : Addr := 1

def loadCertAndKey (R : Rustls Conn S) (host : Host S) (certfile keyfile : CString) : Code (Process Conn S) Unit Ptr := do
  match ← sys (host.readFile certfile) with
  | none => pure none
  | some cert =>
    match ← sys (host.readFile keyfile) with
    | none => pure none
    | some key =>
      let result ← ffi (rustlsCertifiedKeyBuild R (some cert) cert.length (some key) key.length (some certifiedKeyAt))
      if result ≠ .ok then pure none
      else
        let p ← Code.get
        pure (p.world.cells.ptr certifiedKeyAt)

/-- What follows once a client is there. The round is left for `cleanup`, with `rconn` and `ret`, if there is no new
connection. The result of `calloc` is used without a look at it. -/
def attend (R : Rustls Conn S) (os : Os S) (host : Host S) (fuel : Nat) (config : Ptr) (clientfd : Int32) :
    Code (Process Conn S) Unit (Unit ⊕ (Ptr × Int)) := do
  let result ← ffi (rustlsServerConnectionNew R config (some rconnAt))
  let p ← Code.get
  let rconn := p.world.cells.ptr rconnAt
  if result ≠ .ok then pure (.inr (rconn, 1))
  else match ← sys host.calloc with
    | none => Code.fault
    | some self =>
      ffi (rustlsConnectionSetUserdata rconn (some self))
      ffi (rustlsConnectionSetLogCallback rconn (some host.logCb))
      Code.call (handleConn R os fuel ⟨clientfd, rconn, some self⟩)
      ffi (rustlsConnectionFree rconn)
      pure (.inl ())

/-- One round of the loop that accepts connections, with `rconn` NULL. -/
def acceptRound (R : Rustls Conn S) (os : Os S) (host : Host S) (fuel : Nat) (config : Ptr) (sockfd : Int32) :
    Code (Process Conn S) Unit (Unit ⊕ (Ptr × Int)) := do
  Code.modify fun p => { p with data := {}, world.cells.ptr := Function.update p.world.cells.ptr rconnAt none }
  let before ← Code.get
  if host.shuttingDown before.world.app then pure (.inr (none, 0))
  else
    let clientfd ← sys (host.accept sockfd)
    let after ← Code.get
    if host.shuttingDown after.world.app then pure (.inr (none, 0))
    else if clientfd < 0 then pure (.inr (none, 1))
    else attend R os host fuel config clientfd

/-- From the listening socket to the end of `main`. -/
def serve (R : Rustls Conn S) (os : Os S) (host : Host S) (fuel : Nat) (certifiedKey config : Ptr) :
    Code (Process Conn S) Unit Int := do
  let (sockfd, listening) ← sys host.listen
  let (rconn, ret) ←
    (if listening then Code.loop (fun _ => acceptRound R os host fuel config sockfd) fuel () else pure (none, 1))
  ffi (rustlsCertifiedKeyFree certifiedKey)
  ffi (rustlsServerConfigFree config)
  ffi (rustlsConnectionFree rconn)
  (if sockfd > 0 then sys fun s => ((), os.close sockfd s) else pure ())
  pure ret

/-- `main`. Without both arguments it frees a `certified_key` that was never set. -/
def main (R : Rustls Conn S) (os : Os S) (host : Host S) (fuel : Nat) (argv : List CString) :
    Code (Process Conn S) Unit Int := do
  let configBuilder ← ffi (rustlsServerConfigBuilderNew R)
  if !(← sys host.sigaction) then pure 1
  else match argv with
    | _ :: certfile :: keyfile :: _ =>
      let certifiedKey ← loadCertAndKey R host certfile keyfile
      if certifiedKey = none then
        ffi (rustlsCertifiedKeyFree none)
        ffi (rustlsServerConfigFree none)
        ffi (rustlsConnectionFree none)
        pure 1
      else
        let _ ← ffi (rustlsServerConfigBuilderSetCertifiedKeys configBuilder (some [certifiedKey]) 1)
        let _ ← ffi (rustlsServerConfigBuilderSetAlpnProtocols configBuilder (some [alpnHttp11]) 1)
        let config ← ffi (rustlsServerConfigBuilderBuild R configBuilder)
        serve R os host fuel certifiedKey config
    | _ => Code.fault

/-! ### A connection -/

section
variable {defined : Prop} {R : Rustls Conn S} {os : Os S} {fuel : Nat} {conn : ConnData} {I : Process Conn S → Prop}
  (invariant : Invariant defined R conn I)
include invariant

theorem doRead_preserves : Preserves defined I (doRead R os fuel conn) := by
  refine preserves_bind (ffi_preserves fun p => invariant.readTls p _) fun _ => preserves_ite (preserves_ret _) ?_
  refine preserves_ite (preserves_ret _) (preserves_bind loadN_preserves fun _ => ?_)
  exact preserves_ite (preserves_ret _) (processAndCopy_preserves invariant)

theorem sendResponse_preserves : Preserves defined I (sendResponse R os conn) := by
  refine preserves_bind (sys_preserves invariant _) ?_
  rintro (_ | block)
  · exact preserves_ret _
  · refine preserves_bind (preserves_access _) fun response => ?_
    refine preserves_bind (preserves_modify fun p => invariant.cells p _) fun _ => ?_
    refine preserves_accessed fun size counted => ?_
    refine preserves_bind (ffi_preserves fun p => invariant.write p _ _ (Nat.le_of_lt (run_lt counted))) fun _ => ?_
    exact preserves_bind loadN_preserves fun _ => preserves_ite (preserves_ret _) (preserves_pure _)

theorem readRound_preserves : Preserves defined I (readRound R os fuel conn) := by
  refine preserves_bind (preserves_call (doRead_preserves invariant)) fun _ => preserves_ite (preserves_pure _) ?_
  exact preserves_ite (preserves_pure _) (preserves_ite (preserves_pure _) (preserves_pure _))

theorem writeOnce_preserves : Preserves defined I (writeOnce R os conn) :=
  preserves_bind (writeTls_preserves invariant) fun _ =>
    preserves_ite (preserves_pure _) (preserves_bind loadN_preserves fun _ => preserves_pure _)

theorem respond_preserves (state : ExchangeState) : Preserves defined I (respond R os conn state) := by
  refine preserves_ite (preserves_pure _) (preserves_bind preserves_get fun _ => preserves_bind (preserves_access _) ?_)
  rintro (_ | _)
  · exact preserves_pure _
  · refine preserves_bind (ffi_preserves fun p => invariant.getAlpn p _ _) fun _ => ?_
    refine preserves_bind (preserves_call (sendResponse_preserves invariant)) fun _ => ?_
    exact preserves_ite (preserves_pure _) (preserves_pure _)

theorem pump_preserves : Preserves defined I (pump R os fuel conn) := by
  refine preserves_bind (await_preserves invariant) ?_
  rintro (_ | _ | ⟨read, write⟩)
  · exact preserves_pure _
  · exact preserves_pure _
  · refine preserves_ite (preserves_pure _) (preserves_bind (preserves_ite ?_ (preserves_pure true)) fun _ => ?_)
    · exact preserves_loop (fun _ => readRound_preserves invariant) fuel ()
    · refine preserves_ite (preserves_pure _) (preserves_bind (preserves_ite ?_ (preserves_pure true)) fun _ => ?_)
      · exact writeOnce_preserves invariant
      · exact preserves_ite (preserves_pure _) (preserves_pure _)

theorem serveRound_preserves (state : ExchangeState) : Preserves defined I (serveRound R os fuel conn state) := by
  refine preserves_bind (pump_preserves invariant) ?_
  rintro (_ | _ | _)
  · exact preserves_pure _
  · exact respond_preserves invariant state
  · exact preserves_pure _

theorem handleConn_preserves : Preserves defined I (handleConn R os fuel conn) := by
  refine preserves_bind (preserves_loop (serveRound_preserves invariant) fuel .readingRequest) fun _ => ?_
  refine preserves_bind (preserves_ite (sys_preserves invariant _) (preserves_pure ())) fun _ => ?_
  exact preserves_modify fun p => invariant.data p _

end

/-! ### One connection after the other -/

section
variable {R : Rustls Conn S} {os : Os S} {host : Host S} {fuel : Nat} {owned : List Handle} {config : Ptr} {sockfd : Int32}
  {p : Process Conn S}

/-- A round ends with the connection given back, or leaves it to `cleanup`. -/
abbrev Round (owned : List Handle) : Post (Process Conn S) Unit (Unit ⊕ (Ptr × Int)) :=
  Post.round ⟨fun v p => Owns (handle (.box .conn) v.1 ++ owned) p, fun _ _ => False, Busy owned, Busy owned⟩
    fun _ => Owns owned

theorem attend_owns (undisturbed : Undisturbed R) (own : ∀ h ∈ handle (.arc .serverConfig) config, h ∈ owned)
    (null : p.world.cells.ptr rconnAt = none) (owns : Owns owned p) (clientfd : Int32) :
    wp (attend R os host fuel config clientfd) (Round owned) p := by
  obtain ⟨r, back, owns₁⟩ := new_owns (.serverConnectionNew config (some rconnAt)) rfl owns id own
    trivial (Option.some_ne_none rconnAt) rfl (fun _ _ => rfl) (serverConnectionNew_keeps R _ _) null
  refine wp_then (ffi_returned back) (wp_then rfl ?_)
  generalize p.after (rustlsServerConnectionNew R config (some rconnAt)) = p₁ at owns₁ ⊢
  generalize p₁.world.cells.ptr rconnAt = rconn at owns₁ ⊢
  have mine : ∀ h ∈ handle (.box .conn) rconn, h ∈ handle (.box .conn) rconn ++ owned :=
    fun _ => List.mem_append_left _
  refine wp_ite.mpr ⟨fun _ => owns₁, fun _ => ?_⟩
  rcases called : host.calloc p₁.world.app with ⟨_ | self, s⟩
  · exact wp_then (sys_run called) (busy_of_owns (owns₁.memory p₁.world.cells s))
  refine wp_then (sys_run called) (wp_registers R mine (owns₁.memory p₁.world.cells s) fun p₂ owns₂ => ?_)
  have given : ∀ p₃ : Process Conn S, Owns (handle (.box .conn) rconn ++ owned) p₃ →
      wp (ffi (rustlsConnectionFree rconn) >>= fun _ => pure (.inl ())) (Round owned) p₃ := by
    intro p₃ owns₃
    obtain ⟨_, freed, owns₄⟩ := free_owns R owns₃
    exact wp_then (ffi_returned freed) owns₄
  exact wp_calls (wp_preserves (handleConn_preserves (owns_invariant undisturbed mine)) owns₂) (fun _ => given)
    (fun _ => given) (fun _ => busy_of_owns) (fun _ => busy_of_owns)

theorem acceptRound_owns (undisturbed : Undisturbed R) (own : ∀ h ∈ handle (.arc .serverConfig) config, h ∈ owned)
    (owns : Owns owned p) : wp (acceptRound R os host fuel config sockfd) (Round owned) p := by
  refine wp_then rfl (wp_then rfl (wp_ite.mpr ⟨fun _ => ?_, fun _ => ?_⟩))
  · exact owns.memory { p.world.cells with ptr := Function.update p.world.cells.ptr rconnAt none } p.world.app
  rcases called : host.accept sockfd p.world.app with ⟨clientfd, s⟩
  have owns₁ := owns.memory { p.world.cells with ptr := Function.update p.world.cells.ptr rconnAt none } s
  refine wp_then (sys_run called) (wp_then rfl (wp_ite.mpr ⟨fun _ => owns₁, fun _ => ?_⟩))
  refine wp_ite.mpr ⟨fun _ => owns₁, fun _ => attend_owns undisturbed own ?_ ?_ clientfd⟩
  · exact Function.update_self rconnAt none p.world.cells.ptr
  · exact owns₁

/-! ### The whole program -/

theorem serve_owns (undisturbed : Undisturbed R) {key : Addr}
    (owns : Owns (handle (.arc .serverConfig) config ++ [.arc .rustlsCertifiedKey key]) p) :
    wp (serve R os host fuel (some key) config) ⟨fun _ => Owns [], fun _ _ => False, Owing 3, Owing 3⟩ p := by
  have owing : ∀ {q : Process Conn S}, Busy (handle (.arc .serverConfig) config ++ [.arc .rustlsCertifiedKey key]) q →
      Owing 3 q := by
    rintro q (owns | ⟨a, owns⟩)
    · exact ⟨_, by cases config <;> simp [handle], owns⟩
    · exact ⟨_, by cases config <;> simp [handle], owns⟩
  rcases called : host.listen p.world.app with ⟨⟨sockfd, listening⟩, s⟩
  refine wp_then (sys_run called) ?_
  have owns₁ := owns.memory p.world.cells s
  have own : ∀ h ∈ handle (.arc .serverConfig) config,
      h ∈ handle (.arc .serverConfig) config ++ [.arc .rustlsCertifiedKey key] := fun _ => List.mem_append_left _
  refine wp_seq (wp_ite.mpr ⟨fun _ => ?_, fun _ => ?_⟩) (P := ⟨fun v p' =>
    Owns (handle (.box .conn) v.1 ++ (handle (.arc .serverConfig) config ++ [.arc .rustlsCertifiedKey key])) p',
    fun _ _ => False, Busy _, Busy _⟩) ?_ (fun _ _ => id) (fun _ => owing) (fun _ => owing)
  · exact wp_loop (fun _ _ owns => Or.inl owns) (fun _ _ => acceptRound_owns undisturbed own) fuel owns₁
  · exact owns₁
  · rintro ⟨rconn, ret⟩ p₁ owns₂
    -- The key goes first. The config keeps a reference to it, and connections one to the config.
    obtain ⟨_, back₁, after₁⟩ := call_owns R (.certifiedKeyFree (some key)) rfl owns₂ id (by simp [uses, handle]) trivial
      trivial
    have owns₃ : Owns (handle (.box .conn) rconn ++ handle (.arc .serverConfig) config)
        (p₁.after (rustlsCertifiedKeyFree (some key))) := by
      cases rconn <;> cases config <;> simpa [granted, Owner.lends, handles, consumed, handle, List.erase_cons] using after₁
    refine wp_then (ffi_returned back₁) ?_
    obtain ⟨_, back₂, after₂⟩ := call_owns R (.serverConfigFree config) rfl owns₃ id (fun _ => List.mem_append_right _)
      trivial trivial
    have owns₄ : Owns (handle (.box .conn) rconn ++ [])
        (Process.after (p₁.after (rustlsCertifiedKeyFree (some key))) (rustlsServerConfigFree config)) := by
      cases rconn <;> cases config <;> simpa [granted, Owner.lends, handles, consumed, handle, List.erase_cons] using after₂
    refine wp_then (ffi_returned back₂) ?_
    obtain ⟨_, back₃, owns₅⟩ := free_owns R owns₄
    refine wp_then (ffi_returned back₃) ?_
    by_cases isOpen : sockfd > 0
    · rw [if_pos isOpen]
      exact wp_then rfl (owns₅.memory _ _)
    · rw [if_neg isOpen]
      exact wp_then rfl owns₅

/-- The key is behind the variable, or nothing has changed. -/
theorem certifiedKeyBuild_hands (R : Rustls Conn S) (certChain : Option Bytes) (certChainLen : Nat) (key : Option Bytes)
    (keyLen : Nat) (out : Addr) (w : World Conn S) :
    Control.Ends (rustlsCertifiedKeyBuild R certChain certChainLen key keyLen (some out) w)
      (Control.Returns fun r w' => if r = .ok then w'.cells.ptr out ≠ none else w' = w) := by
  simp only [rustlsCertifiedKeyBuild, Control.ends_boundary, Control.wp_bind, wp_rejectIfNull]
  refine ⟨by simp, fun _ _ => ?_⟩
  refine (certifiedKeyBuild_looks R certChain certChainLen key keyLen (.inl trivial)).wp ?_ ?_ ?_ ?_ ?_ <;> simp

/-- Without a key no counted object was made. -/
theorem loadCertAndKey_owns {certfile keyfile : CString} (owns : Owns owned p) :
    wp (loadCertAndKey R host certfile keyfile)
      ⟨fun key p' => Owns (handle (.arc .rustlsCertifiedKey) key ++ owned) p' ∧
          (key = none → p'.world.arcs = p.world.arcs),
        fun _ _ => False, fun _ => False, fun _ => False⟩ p := by
  rcases called : host.readFile certfile p.world.app with ⟨_ | cert, s⟩
  · exact wp_then (sys_run called) ⟨owns.memory p.world.cells s, fun _ => rfl⟩
  refine wp_then (sys_run called) ?_
  rcases called' : host.readFile keyfile s with ⟨_ | key, s'⟩
  · exact wp_then (sys_run called') ⟨owns.memory p.world.cells s', fun _ => rfl⟩
  refine wp_then (sys_run called') ?_
  obtain ⟨r, back, after⟩ := call_owns R
    (.certifiedKeyBuild (some cert) cert.length (some key) key.length (some certifiedKeyAt)) rfl
    (owns.memory p.world.cells s') id (fun _ => False.elim ∘ List.not_mem_nil)
    ⟨by rintro _ ⟨⟩; exact Nat.le_refl _, by rintro _ ⟨⟩; exact Nat.le_refl _⟩ trivial
  have hands := Control.returns_value (certifiedKeyBuild_hands R (some cert) cert.length (some key) key.length
    certifiedKeyAt _) back
  refine wp_then (ffi_returned back) (wp_ite.mpr ⟨fun failed => ?_, fun ok => wp_then rfl ?_⟩)
  -- After a failure nothing was handed out, and the variable is not looked at.
  · refine ⟨?_, fun _ => ?_⟩
    · simpa [granted, handleIn, failed, Owner.lends, handles, consumed, handle] using after
    · rw [if_neg failed] at hands
      have same := congrArg World.arcs hands
      exact same
  · obtain rfl := not_not.mp ok
    rw [if_pos rfl] at hands
    exact ⟨after, fun none => absurd none hands⟩

theorem build_owns (R : Rustls Conn S) (builder : Ptr) {key : Addr}
    (owns : Owns (.arc .rustlsCertifiedKey key :: handle (.box .serverBuilder) builder) p) :
    ∃ config, (rustlsServerConfigBuilderBuild R builder p.world).1.value? = some config ∧
      Owns (handle (.arc .serverConfig) config ++ [.arc .rustlsCertifiedKey key])
        (p.after (rustlsServerConfigBuilderBuild R builder)) := by
  obtain ⟨config, back, after⟩ := call_owns R (.serverConfigBuilderBuild builder) rfl owns id
    (fun _ => List.mem_cons_of_mem _) trivial trivial
  refine ⟨config, back, ?_⟩
  cases builder <;> simpa [granted, Owner.lends, handles, consumed, handle, List.erase_cons] using after

/-- The program cannot go on: there is no handler for the signal, or no certified key from the two files. -/
def Unready (R : Rustls Conn S) (host : Host S) (argv : List CString) (p : Process Conn S) : Prop :=
  let (handled, s) := host.sigaction p.world.app
  handled = false ∨ ∃ name certfile keyfile rest p', argv = name :: certfile :: keyfile :: rest ∧
    loadCertAndKey R host certfile keyfile { p with world.app := s } = (.next none, p')

theorem main_owns (undisturbed : Undisturbed R) (argv : List CString) {s : S} (fresh : p.world = World.initial s)
    (owns : Owns [] p) :
    wp (main R os host fuel argv)
      ⟨fun r p' => Owns [] p' ∨ r = 1 ∧ Unready R host argv (p.after (rustlsServerConfigBuilderNew R)) ∧
          Owns [.box .serverBuilder 0] p' ∧ p'.world.arcs = [],
        fun _ _ => False, Owing 3, Owing 3⟩ p := by
  obtain ⟨builder, back, owns₁⟩ := call_owns R .serverConfigBuilderNew rfl owns id (fun _ => id) trivial trivial
  obtain rfl : builder = some 0 := by
    rw [fresh] at back
    exact (Option.some.inj back).symm
  have owns₁ : Owns (handle (.box .serverBuilder) (some 0)) (p.after (rustlsServerConfigBuilderNew R)) := by
    simpa [granted, Owner.lends, handles, consumed, handle] using owns₁
  have none₁ : (p.after (rustlsServerConfigBuilderNew R)).world.arcs = [] := by
    rw [Process.after, fresh]
    rfl
  refine wp_then (ffi_returned back) ?_
  generalize p.after (rustlsServerConfigBuilderNew R) = p₁ at owns₁ none₁ ⊢
  rcases called : host.sigaction p₁.world.app with ⟨handled, s⟩
  have owns₂ := owns₁.memory p₁.world.cells s
  refine wp_then (sys_run called) (wp_ite.mpr ⟨fun failed => .inr ⟨rfl, ?_, owns₂, none₁⟩, fun _ => ?_⟩)
  · rw [Unready, called]
    exact .inl (by simpa using failed)
  split
  · rename_i name certfile keyfile rest
    refine wp_seq_ran (loadCertAndKey_owns owns₂) ?_ (fun _ _ => False.elim) (fun _ => False.elim) (fun _ => False.elim)
    rintro certifiedKey p₂ ⟨owns₃, unmade⟩ loading
    refine wp_ite.mpr ⟨?_, fun loaded => ?_⟩
    · rintro rfl
      have nothing : ∀ h ∈ ([] : List Handle), h ∈ handle (.box .serverBuilder) (some 0) := List.forall_mem_nil _
      obtain ⟨_, back₁, owns₄⟩ := borrows_call R (.certifiedKeyFree none) rfl
        ⟨nothing, rfl, fun _ _ => rfl, trivial⟩ id trivial owns₃
      obtain ⟨_, back₂, owns₅⟩ := borrows_call R (.serverConfigFree none) rfl
        ⟨nothing, rfl, fun _ _ => rfl, trivial⟩ id trivial owns₄
      obtain ⟨_, back₃, owns₆⟩ := borrows_call R (.connectionFree none) rfl
        ⟨nothing, rfl, fun _ _ => rfl, trivial⟩ id trivial owns₅
      refine wp_then (ffi_returned back₁) (wp_then (ffi_returned back₂) (wp_then (ffi_returned back₃) ?_))
      refine .inr ⟨rfl, ?_, owns₆, (unmade rfl).trans none₁⟩
      rw [Unready, called]
      exact .inr ⟨name, certfile, keyfile, rest, p₂, rfl, loading⟩
    · obtain ⟨key, rfl⟩ := Option.ne_none_iff_exists'.mp loaded
      have both : ∀ h ∈ handle (.box .serverBuilder) (some 0) ++ keyHandles (some [some key]) 1,
          h ∈ handle (.arc .rustlsCertifiedKey) (some key) ++ handle (.box .serverBuilder) (some 0) := by
        intro h used
        rcases List.mem_append.mp used with mine | mine
        · exact List.mem_append_right _ mine
        · exact List.mem_append_left _ mine
      have one : ValidSlice (some [some key]) 1 := by
        rintro _ ⟨⟩
        exact Nat.le_refl _
      obtain ⟨_, back₁, owns₄⟩ := borrows_call R (.serverConfigBuilderSetCertifiedKeys (some 0) (some [some key]) 1) rfl
        ⟨both, rfl, fun _ _ => rfl, trivial⟩ id one owns₃
      obtain ⟨_, back₂, owns₅⟩ := borrows_call R (.serverConfigBuilderSetAlpnProtocols (some 0) (some [alpnHttp11]) 1) rfl
        ⟨fun _ => List.mem_append_right _, rfl, fun _ _ => rfl, trivial⟩ id alpn_fits owns₄
      obtain ⟨config, back₃, owns₆⟩ := build_owns R (some 0) owns₅
      refine wp_then (ffi_returned back₁) (wp_then (ffi_returned back₂) (wp_then (ffi_returned back₃) ?_))
      exact wp_mono (serve_owns undisturbed owns₆) (fun _ _ => Or.inl) (fun _ _ => id) (fun _ => id) (fun _ => id)
  · exact ⟨_, by simp [handle], owns₂⟩

end

/-- However many connections it accepts and whatever its clients, the library and the system do, every call that the server
makes is defined, and where it ends or is cut off it owns three objects at most and nothing else is left. When it exits all
of them are gone, with every reference, unless it could not install its handler or load its key: then it stopped before
building its config, and the builder alone is left. -/
theorem server_gives_back {R : Rustls Conn S} (undisturbed : Undisturbed R) (os : Os S) (host : Host S) (fuel : Nat)
    (argv : List CString) {p : Process Conn S} {s : S} (fresh : p.world = World.initial s) :
    let run := main R os host fuel argv p
    run.1 ≠ .misuse ∧ Owing 3 run.2 ∧
    ∀ r, run.1 = .next r →
      Owns [] run.2 ∧ (∀ kind a, ¬ LiveBox run.2.world kind a) ∧ (∀ a, Counting.strong run.2.world.arcs a = 0) ∨
      r = 1 ∧ Unready R host argv (p.after (rustlsServerConfigBuilderNew R)) ∧ Owns [.box .serverBuilder 0] run.2 ∧
        (∀ kind a, LiveBox run.2.world kind a ↔ kind = .serverBuilder ∧ a = 0) ∧
        ∀ a, Counting.strong run.2.world.arcs a = 0 := by
  have owns : Owns [] p := owns_initial fresh
  exact leaves_of_owns (by decide) (main_owns undisturbed argv fresh owns)

theorem inert_undisturbed : Undisturbed (Rustls.inert () : Rustls Unit Tape) := fun _ _ => .refl

/-- Two clients come, and the signal while the server waits for a third. -/
def twoClients : Host Tape where
  sigaction s := (true, s)
  readFile _ s := (some [1], s)
  listen s := ((4, true), s)
  accept _ s := (5, { s with got := 0 :: s.got })
  shuttingDown s := s.got.length == 3
  calloc s := (some 1, s)
  logCb := 1

def listening : Process Unit Tape := ⟨World.initial {}, {}, []⟩

/-- The library wants nothing, and the server closes each connection at once. -/
def twoClientsRun : Exit Unit Int × Process Unit Tape :=
  main (.inert ()) (tapeOs []) twoClients 4 [Client.localhost, Client.localhost, Client.localhost] listening

theorem server_gives_back_twoClients : twoClientsRun.1 = .next 0 ∧ twoClientsRun.2.world.conns.length = 2 ∧
    (∀ kind a, ¬ LiveBox twoClientsRun.2.world kind a) ∧ ∀ a, Counting.strong twoClientsRun.2.world.arcs a = 0 := by
  have ends : twoClientsRun.1 = .next 0 := by decide +kernel
  have two : twoClientsRun.2.world.conns.length = 2 := by decide +kernel
  have fresh : listening.world = World.initial {} := rfl
  obtain ⟨-, -, given⟩ := server_gives_back inert_undisturbed (tapeOs []) twoClients 4
    [Client.localhost, Client.localhost, Client.localhost] fresh
  rw [← twoClientsRun] at given
  rcases given 0 ends with ⟨-, gone⟩ | ⟨one, -⟩
  · exact ⟨ends, two, gone⟩
  · cases one

end RustlsFfi.Demo.Server
