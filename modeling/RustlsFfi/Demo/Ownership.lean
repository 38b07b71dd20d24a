import RustlsFfi.Contract.Outputs
import RustlsFfi.Demo.Client
import RustlsFfi.Lifetime.Safety

/-!
# What the client owns

`do_request` and `main` of `tests/client.c`: three requests, one after the other, each over a connection of its own and
all with one config. Every call keeps to the ownership rules, and what is created is given back on every path but one:
`main` never frees the builder if it stops before building the config.
-/

namespace RustlsFfi.Demo
open Code Contract Lifetime

variable {Conn S ρ : Type}

/-- Between two calls the process owns these handles and no others. They are to live objects, no other box is there, and
the counts are theirs and those of what the objects hold. -/
def Owns (owned : List Handle) (p : Process Conn S) : Prop := Sound ⟨p.world, owned, []⟩

/-- While it processes packets rustls works on its connections. The callbacks it runs then may change the program's
own memory. -/
def Undisturbed (R : Rustls Conn S) : Prop := ∀ a w, Relation.ReflTransGen Works w (R.processNewPackets a w).2

/-! ### Calls -/

section
variable (R : Rustls Conn S) {owned : List Handle} {p : Process Conn S} {τ : Type} {f : Api Conn S τ} {wrap : τ → Value}

theorem Owns.memory (owns : Owns owned p) (cells : Cells) (app : S) :
    Owns owned { p with world.cells := cells, world.app := app } :=
  works_sound owns (.memory cells app)

theorem ffi_returned {r : τ} (back : (f p.world).1.value? = some r) : (ffi f p : Exit ρ τ × _) = (.next r, p.after f) := by
  unfold ffi Process.after
  rcases ended : f p.world with ⟨r' | r' | e, w⟩ <;> rw [ended] at back
  · cases back
    rfl
  · cases back
    rfl
  · cases back

/-- A call by the rules is defined. Afterwards the process owns what it did not give up, and what the call handed out. -/
theorem call_owns (call : Call S) (is : exec R call = f.as wrap) (owns : Owns owned p) (outside : ¬ Processes p.world call)
    (used : ∀ h ∈ uses call, h ∈ owned) (fits : DataFits R p.world call) (place : HasPlace call) :
    ∃ r, (f p.world).1.value? = some r ∧
      Owns ((granted call (wrap r) (f p.world).2).toList ++ Owner.lends handles ⟨p.world, owned, []⟩ call) (p.after f) := by
  have same : exec R call p.world = ((f p.world).1.map wrap, (f p.world).2) := congrFun is p.world
  have defined (e : Control.Fault) : (exec R call p.world).1 ≠ .fault e :=
    exec_defined (fun h given => owns.live h (used h given)) fits place e
  obtain ⟨r, back⟩ : ∃ r, (f p.world).1.value? = some r := by
    rcases ended : (f p.world).1 with r | r | e
    · exact ⟨r, rfl⟩
    · exact ⟨r, rfl⟩
    · exact absurd (by rw [same, ended]; rfl) (defined e)
  have returned : (exec R call p.world).1.value? = some (wrap r) := by
    rw [same]
    rcases ended : (f p.world).1 with r' | r' | e <;> rw [ended] at back <;> cases back <;> rfl
  have sound := step_sound owns (program_call R outside ⟨used, List.forall_mem_nil _⟩ returned)
  simp only [Owner.after, same] at sound
  exact ⟨r, back, sound⟩

/-- A call that takes no handle and hands none out. -/
structure Borrows (Conn : Type) (owned : List Handle) (call : Call S) : Prop where
  uses : ∀ h ∈ uses call, h ∈ owned
  takes : consumed call = none
  gives : ∀ v (w : World Conn S), granted call v w = none
  place : HasPlace call

theorem borrows_call (call : Call S) (is : exec R call = f.as wrap) (borrows : Borrows Conn owned call)
    (outside : ¬ Processes p.world call) (fits : DataFits R p.world call) (owns : Owns owned p) :
    ∃ r, (f p.world).1.value? = some r ∧ Owns owned (p.after f) := by
  obtain ⟨r, back, after⟩ := call_owns R call is owns outside borrows.uses fits borrows.place
  rw [borrows.gives, Owner.lends, show handles.taken call = none from borrows.takes] at after
  exact ⟨r, back, after⟩

theorem borrows_owns (call : Call S) (is : exec R call = f.as wrap) (borrows : Borrows Conn owned call)
    (outside : ¬ Processes p.world call) (fits : DataFits R p.world call) (owns : Owns owned p) :
    Calls True (Owns owned) f p := by
  obtain ⟨_, back, after⟩ := borrows_call R call is borrows outside fits owns
  exact ⟨after, fun _ => back ▸ Option.some_ne_none _⟩

variable {R}

/-- The callbacks run inside the call, and rustls works between them. -/
theorem process_owns (undisturbed : Undisturbed R) (conn : Ptr) (own : ∀ h ∈ handle (.box .conn) conn, h ∈ owned)
    (owns : Owns owned p) : Calls True (Owns owned) (rustlsConnectionProcessNewPackets R.processNewPackets conn) p := by
  have borrows : Borrows Conn owned (.connectionProcessNewPackets conn : Call S) := ⟨own, rfl, fun _ _ => rfl, trivial⟩
  by_cases inside : Processes p.world (.connectionProcessNewPackets conn)
  · cases conn with
    | none => exact inside.elim
    | some a =>
      obtain ⟨c, live⟩ := Option.ne_none_iff_exists'.mp (owns.live _ (own (.box .conn a) (List.mem_singleton_self _)))
      let processing : Processing Conn S := ⟨p.world, a, c, live, inside⟩
      have entered : ProgramStep ⟨p.world, owned, []⟩ ⟨p.world.enter c, owned, [processing]⟩ :=
        .enter processing rfl ⟨borrows.uses, List.forall_mem_nil _⟩
      have worked : ProgramRun ⟨p.world.enter c, owned, [processing]⟩
          ⟨(R.processNewPackets a (p.world.enter c)).2, owned, [processing]⟩ :=
        (undisturbed a _).lift (fun w => (⟨w, owned, [processing]⟩ : Program Conn S)) fun _ _ works => .work works
      have left : ProgramStep ⟨(R.processNewPackets a (p.world.enter c)).2, owned, [processing]⟩
          ⟨(exec R (.connectionProcessNewPackets (some a)) p.world).2, owned, []⟩ := .leave R (p := processing) rfl rfl
      obtain ⟨r, returned⟩ := processNewPackets_returns (f := R.processNewPackets) live
      refine ⟨run_sound owns (.tail (.head entered worked) left), fun _ => ?_⟩
      rw [returned]
      exact Option.some_ne_none r
  · exact borrows_owns R (.connectionProcessNewPackets conn) rfl borrows inside trivial owns

/-- Every call that moves bytes over a connection is defined, and none changes what the process owns. -/
theorem owns_invariant (undisturbed : Undisturbed R) {conn : ConnData}
    (own : ∀ h ∈ handle (.box .conn) conn.rconn, h ∈ owned) : Invariant True R conn (Owns owned) where
  sys p s owns := owns.memory p.world.cells s
  data _ _ owns := owns
  cells p c owns := owns.memory c p.world.app
  write _ buf n le := borrows_owns R (.connectionWrite conn.rconn (some buf) n (some nAt)) rfl
    ⟨own, rfl, fun _ _ => rfl, trivial⟩ id (by rintro _ ⟨⟩; exact le)
  readTls _ cb := borrows_owns R (.connectionReadTls conn.rconn (some cb) conn.self (some nAt)) rfl
    ⟨own, rfl, fun _ _ => rfl, trivial⟩ id trivial
  process _ := process_owns undisturbed conn.rconn own
  read p owns := by
    refine borrows_owns R (.connectionRead conn.rconn (some bufAt) (p.data.capacity - p.data.len) (some nAt)) rfl
      ⟨own, rfl, fun _ _ => rfl, trivial⟩ id ?_ (owns.memory (lend p.data.writeable p.world).cells p.world.app)
    rintro _ ⟨⟩
    rw [← p.data.writeable_length]
    simp [lend]
  wantsRead _ := borrows_owns R (.connectionWantsRead conn.rconn) rfl ⟨own, rfl, fun _ _ => rfl, trivial⟩ id trivial
  wantsWrite _ := borrows_owns R (.connectionWantsWrite conn.rconn) rfl ⟨own, rfl, fun _ _ => rfl, trivial⟩ id trivial
  writeTls _ cb := borrows_owns R (.connectionWriteTls conn.rconn (some cb) conn.self (some nAt)) rfl
    ⟨own, rfl, fun _ _ => rfl, trivial⟩ id trivial
  writeTlsVectored _ cb := borrows_owns R (.connectionWriteTlsVectored conn.rconn (some cb) conn.self (some nAt)) rfl
    ⟨own, rfl, fun _ _ => rfl, trivial⟩ id trivial
  getAlpn _ out len := borrows_owns R (.connectionGetAlpnProtocol conn.rconn (some out) (some len)) rfl
    ⟨own, rfl, fun _ _ => rfl, trivial⟩ id trivial

/-! ### One connection more -/

/-- Where the local variable `rconn` is. -/
def rconnAt : Addr := 0

/-- In the middle of a conversation the process may own a connection besides. -/
def Busy (owned : List Handle) (p : Process Conn S) : Prop := Owns owned p ∨ ∃ a, Owns (.box .conn a :: owned) p

theorem busy_of_owns {rconn : Ptr} (owns : Owns (handle (.box .conn) rconn ++ owned) p) : Busy owned p := by
  cases rconn with
  | none => exact .inl owns
  | some a => exact .inr ⟨a, owns⟩

/-- After a call for a new connection its handle is in `rconn`, or NULL still is. -/
theorem new_owns {f : Api Conn S RustlsResult} (call : Call S) (is : exec R call = f.as .result) (owns : Owns owned p)
    (outside : ¬ Processes p.world call) (used : ∀ h ∈ uses call, h ∈ owned) (fits : DataFits R p.world call)
    (place : HasPlace call) (takes : consumed call = none)
    (gives : ∀ r (w : World Conn S), granted call (.result r) w = (handleIn (some rconnAt) r w).map (.box .conn))
    (keeps : Control.Ends (f p.world) (Control.Returns fun r w' => r ≠ .ok → w'.cells = p.world.cells))
    (null : p.world.cells.ptr rconnAt = none) :
    ∃ r, (f p.world).1.value? = some r ∧
      Owns (handle (.box .conn) ((p.after f).world.cells.ptr rconnAt) ++ owned) (p.after f) := by
  obtain ⟨r, back, after⟩ := call_owns R call is owns outside used fits place
  rw [gives, Owner.lends, show handles.taken call = none from takes] at after
  refine ⟨r, back, ?_⟩
  -- On success the variable has the new handle. Otherwise the call wrote nothing and the variable is still NULL.
  by_cases ok : r = .ok
  · subst ok
    exact after
  · have unset : (p.after f).world.cells.ptr rconnAt = none :=
      (congrFun (congrArg Cells.ptr (Control.returns_value keeps back ok)) rconnAt).trans null
    rw [handleIn, if_neg ok] at after
    rw [unset]
    exact after

/-- What both programs tell a new connection. -/
theorem wp_registers (R : Rustls Conn S) {α : Type} {rconn : Ptr} {self : VoidPtr} {cb : Option FnPtr}
    {k : Unit → Code (Process Conn S) ρ α} {Q : Post (Process Conn S) ρ α} (own : ∀ h ∈ handle (.box .conn) rconn, h ∈ owned)
    (owns : Owns owned p) (next : ∀ p', Owns owned p' → wp (k ()) Q p') :
    wp (ffi (rustlsConnectionSetUserdata rconn self) >>= fun _ =>
      ffi (rustlsConnectionSetLogCallback rconn cb) >>= k) Q p := by
  obtain ⟨_, back₁, owns₁⟩ := borrows_call R (.connectionSetUserdata rconn self) rfl
    ⟨own, rfl, fun _ _ => rfl, trivial⟩ id trivial owns
  obtain ⟨_, back₂, owns₂⟩ := borrows_call R (.connectionSetLogCallback rconn cb) rfl
    ⟨own, rfl, fun _ _ => rfl, trivial⟩ id trivial owns₁
  exact wp_then (ffi_returned back₁) (wp_then (ffi_returned back₂) (next _ owns₂))

theorem free_owns (R : Rustls Conn S) {rconn : Ptr} (owns : Owns (handle (.box .conn) rconn ++ owned) p) :
    ∃ r, (rustlsConnectionFree rconn p.world).1.value? = some r ∧ Owns owned (p.after (rustlsConnectionFree rconn)) := by
  obtain ⟨r, back, after⟩ := call_owns R (.connectionFree rconn) rfl owns id
    (fun _ => List.mem_append_left _) trivial trivial
  refine ⟨r, back, ?_⟩
  cases rconn with
  | none => exact after
  | some a => simpa [granted, Owner.lends, handles, consumed, handle] using after

/-! ### What exists -/

/-- The process owns at most `n` handles. -/
def Owing (n : Nat) (p : Process Conn S) : Prop := ∃ owned : List Handle, owned.length ≤ n ∧ Owns owned p

theorem gone_of_owns (owns : Owns [] p) :
    (∀ kind a, ¬ LiveBox p.world kind a) ∧ ∀ a, Counting.strong p.world.arcs a = 0 := by
  refine ⟨fun kind a live => ?_, owns.quiet rfl⟩
  simpa using owns.covered kind a live

/-- Where there never was a counted object, a single box is all that is left. -/
theorem left_of_owns {only : BoxKind} {b : Addr} (owns : Owns [.box only b] p) (none : p.world.arcs = []) :
    (∀ kind a, LiveBox p.world kind a ↔ kind = only ∧ a = b) ∧ ∀ a, Counting.strong p.world.arcs a = 0 := by
  refine ⟨fun kind a => ?_, fun a => ?_⟩
  · rw [owns.boxes]
    simp
  · rw [none]
    rfl

theorem owns_initial {s : S} (fresh : p.world = World.initial s) : Owns [] p := by
  unfold Owns
  rw [fresh]
  exact initial_sound s

/-- What is live where a program ends that gives everything back, or stops early with its builder alone. -/
theorem leaves_of_owns {n : Nat} {only : BoxKind} {stopped : Prop} {run : Exit ρ Int × Process Conn S} (room : 1 ≤ n)
    (spec : Post.holds ⟨fun r p' => Owns [] p' ∨ r = 1 ∧ stopped ∧ Owns [.box only 0] p' ∧ p'.world.arcs = [],
      fun _ _ => False, Owing n, Owing n⟩ run) :
    run.1 ≠ .misuse ∧ Owing n run.2 ∧
    ∀ r, run.1 = .next r →
      Owns [] run.2 ∧ (∀ kind a, ¬ LiveBox run.2.world kind a) ∧ (∀ a, Counting.strong run.2.world.arcs a = 0) ∨
      r = 1 ∧ stopped ∧ Owns [.box only 0] run.2 ∧
        (∀ kind a, LiveBox run.2.world kind a ↔ kind = only ∧ a = 0) ∧
        ∀ a, Counting.strong run.2.world.arcs a = 0 := by
  rcases run with ⟨r | r | _ | _ | _, p'⟩
  · refine ⟨by simp, ?_⟩
    rcases spec with owns | ⟨rfl, early, owns, none⟩
    · exact ⟨⟨[], Nat.zero_le n, owns⟩, fun _ _ => .inl ⟨owns, gone_of_owns owns⟩⟩
    · refine ⟨⟨[.box only 0], room, owns⟩, ?_⟩
      rintro _ ⟨⟩
      exact .inr ⟨rfl, early, owns, left_of_owns owns none⟩
  · exact spec.elim
  · exact ⟨by simp, spec, by simp⟩
  · exact spec.elim
  · exact ⟨by simp, spec, by simp⟩

/-! ### The protocol that both programs offer -/

def alpnHttp11 : RustlsSliceBytes := ⟨some (utf8 "http/1.1"), 8⟩

theorem alpn_fits : ValidSlices (some [alpnHttp11]) 1 := by
  refine ⟨?_, ?_⟩
  · rintro _ ⟨⟩
    exact Nat.le_refl _
  · rintro _ ⟨⟩ slice member
    obtain rfl : slice = alpnHttp11 := by simpa using member
    rintro _ ⟨⟩
    decide

end

end RustlsFfi.Demo

namespace RustlsFfi.Demo.Client
open Code Contract Lifetime

variable {Conn S : Type}

/-! ### The program -/

/-- What the program around the exchange needs: `make_conn`, whose result is negative if there is no connection, `calloc`
of the record, and the addresses of its two callbacks. -/
structure Host (S : Type) where
  makeConn : (hostname port : CString) → S → Int32 × S
  calloc : S → VoidPtr × S
  logCb : FnPtr
  verify : FnPtr

/-- The part of `do_request` before `cleanup`, from an established connection. It gives `rconn` and `ret`. Without a path
`snprintf` gets NULL for a string. -/
def converse (R : Rustls Conn S) (os : Os S) (host : Host S) (fuel : Nat) (config : Ptr) (sockfd : Int32)
    (hostname : CString) (path : Option CString) : Code (Process Conn S) Int (Ptr × Int) := do
  let result ← ffi (rustlsClientConnectionNew R config (some hostname.1) (some rconnAt))
  let p ← Code.get
  let rconn := p.world.cells.ptr rconnAt
  if result ≠ .ok then pure (rconn, 1)
  else match ← sys host.calloc with
    | none => pure (rconn, 1)
    | some self =>
      ffi (rustlsConnectionSetUserdata rconn (some self))
      ffi (rustlsConnectionSetLogCallback rconn (some host.logCb))
      match path with
      | none => Code.fault
      | some path =>
        let ret ← Code.call (sendRequestAndReadResponse R os fuel ⟨sockfd, rconn, some self⟩ hostname path)
        pure (rconn, ret)

/-- `do_request`. That `ret` is compared with `RUSTLS_RESULT_OK`, which it never is, makes no difference. -/
def doRequest (R : Rustls Conn S) (os : Os S) (host : Host S) (fuel : Nat) (config : Ptr) (hostname port : CString)
    (path : Option CString) : Code (Process Conn S) Int Int := do
  Code.modify fun p => { p with data := {}, world.cells.ptr := Function.update p.world.cells.ptr rconnAt none }
  let sockfd ← sys (host.makeConn hostname port)
  let (rconn, ret) ←
    (if sockfd < 0 then pure (none, 1) else converse R os host fuel config sockfd hostname path)
  ffi (rustlsConnectionFree rconn)
  (if sockfd > 0 then sys fun s => ((), os.close sockfd s) else pure ())
  Code.modify fun p => { p with data := {} }
  pure ret

/-- What the program is started with. -/
structure Start where
  argv : List CString
  caFile : Option CString
  noCheckCertificate : Bool

/-- Whether there is a way to check certificates; if not, `main` goes to `cleanup`. -/
def configure (R : Rustls Conn S) (host : Host S) (start : Start) (configBuilder : Ptr) : Code (Process Conn S) Int Bool :=
  match start.caFile with
  | some file => do
    let result ← ffi (rustlsClientConfigBuilderLoadRootsFromFile R configBuilder (some file.1))
    pure (decide (result = .ok))
  | none =>
    if start.noCheckCertificate then do
      let _ ← ffi (rustlsClientConfigBuilderDangerousSetCertificateVerifier configBuilder (some host.verify))
      pure true
    else pure false

/-- The loop of `main`, with the number of requests that are left. -/
def requests (R : Rustls Conn S) (os : Os S) (host : Host S) (fuel : Nat) (config : Ptr) (hostname port : CString)
    (path : Option CString) : Nat → Code (Process Conn S) Int Int
  | 0 => pure 0
  | left + 1 => do
    let result ← Code.call (doRequest R os host fuel config hostname port path)
    if result ≠ 0 then pure 1 else requests R os host fuel config hostname port path left

/-- `main`. With two arguments there is no path. -/
def main (R : Rustls Conn S) (os : Os S) (host : Host S) (fuel : Nat) (start : Start) : Code (Process Conn S) Int Int :=
  match start.argv with
  | _ :: hostname :: port :: rest => do
    let configBuilder ← ffi (rustlsClientConfigBuilderNew R)
    if ← configure R host start configBuilder then
      let _ ← ffi (rustlsClientConfigBuilderSetAlpnProtocols configBuilder (some [alpnHttp11]) 1)
      let config ← ffi (rustlsClientConfigBuilderBuild configBuilder)
      let ret ← requests R os host fuel config hostname port rest.head? 3
      ffi (rustlsClientConfigFree config)
      pure ret
    else
      ffi (rustlsClientConfigFree none)
      pure 1
  | _ => pure 1

/-! ### Requests give back their connection -/

section
variable {R : Rustls Conn S} {os : Os S} {host : Host S} {fuel : Nat} {owned : List Handle} {config : Ptr}
  {p : Process Conn S} {hostname port : CString} {path : Option CString}

theorem converse_owns (undisturbed : Undisturbed R) (own : ∀ h ∈ handle (.arc .clientConfig) config, h ∈ owned)
    (null : p.world.cells.ptr rconnAt = none) (owns : Owns owned p) (sockfd : Int32) :
    wp (converse R os host fuel config sockfd hostname path)
      ⟨fun v p' => Owns (handle (.box .conn) v.1 ++ owned) p', fun _ _ => False, Busy owned, Busy owned⟩ p := by
  obtain ⟨r, back, owns₁⟩ := new_owns (.clientConnectionNew config (some hostname.1) (some rconnAt)) rfl owns id own
    trivial (Option.some_ne_none rconnAt) rfl (fun _ _ => rfl) (clientConnectionNew_keeps R _ _ _) null
  refine wp_then (ffi_returned back) (wp_then rfl ?_)
  generalize p.after (rustlsClientConnectionNew R config (some hostname.1) (some rconnAt)) = p₁ at owns₁ ⊢
  generalize p₁.world.cells.ptr rconnAt = rconn at owns₁ ⊢
  have mine : ∀ h ∈ handle (.box .conn) rconn, h ∈ handle (.box .conn) rconn ++ owned :=
    fun _ => List.mem_append_left _
  refine wp_ite.mpr ⟨fun _ => owns₁, fun _ => ?_⟩
  rcases called : host.calloc p₁.world.app with ⟨_ | self, s⟩
  · exact wp_then (sys_run called) (owns₁.memory p₁.world.cells s)
  refine wp_then (sys_run called) ?_
  refine wp_registers R mine (owns₁.memory p₁.world.cells s) fun p₂ owns₂ => ?_
  cases path with
  | none => exact busy_of_owns owns₂
  | some path =>
    refine wp_calls (wp_preserves ?_ owns₂) (fun _ _ => id) (fun _ _ => id) (fun _ => busy_of_owns) (fun _ => busy_of_owns)
    exact sendRequestAndReadResponse_preserves (owns_invariant undisturbed mine) (fun _ _ => id) fuel hostname path

theorem doRequest_owns (undisturbed : Undisturbed R) (own : ∀ h ∈ handle (.arc .clientConfig) config, h ∈ owned)
    (owns : Owns owned p) :
    wp (doRequest R os host fuel config hostname port path)
      ⟨fun _ => Owns owned, fun _ _ => False, Busy owned, Busy owned⟩ p := by
  refine wp_then rfl ?_
  rcases called : host.makeConn hostname port p.world.app with ⟨sockfd, s⟩
  have owns₁ := owns.memory { p.world.cells with ptr := Function.update p.world.cells.ptr rconnAt none } s
  refine wp_then (sys_run called) ?_
  refine wp_seq (P := ⟨fun v p' => Owns (handle (.box .conn) v.1 ++ owned) p', fun _ _ => False, Busy owned, Busy owned⟩)
    (wp_ite.mpr ⟨fun _ => ?_, fun _ => ?_⟩) ?_ (fun _ _ => id) (fun _ => id) (fun _ => id)
  · exact owns₁
  · refine converse_owns undisturbed own ?_ ?_ sockfd
    · exact Function.update_self rconnAt none p.world.cells.ptr
    · exact owns₁
  · rintro ⟨rconn, ret⟩ p₁ owns₂
    obtain ⟨r, back, owns₃⟩ := free_owns R owns₂
    refine wp_then (ffi_returned back) ?_
    by_cases isOpen : sockfd > 0
    · rw [if_pos isOpen]
      exact wp_then rfl (owns₃.memory _ _)
    · rw [if_neg isOpen]
      exact wp_then rfl owns₃

theorem requests_owns (undisturbed : Undisturbed R) (own : ∀ h ∈ handle (.arc .clientConfig) config, h ∈ owned)
    (owns : Owns owned p) (left : Nat) :
    wp (requests R os host fuel config hostname port path left)
      ⟨fun _ => Owns owned, fun _ _ => False, Busy owned, Busy owned⟩ p := by
  induction left generalizing p with
  | zero => exact owns
  | succ left ih =>
    refine wp_calls (doRequest_owns undisturbed own owns) ?_ ?_ (fun _ => id) (fun _ => id)
    · exact fun result p₁ owns₁ => wp_ite.mpr ⟨fun _ => owns₁, fun _ => ih owns₁⟩
    · exact fun _ _ => False.elim

theorem owing_of_owns {mk : Addr → Handle} {h : Ptr} (owns : Owns (handle mk h) p) : Owing 2 p := by
  refine ⟨_, ?_, owns⟩
  cases h <;> simp [handle]

theorem owing_of_busy {mk : Addr → Handle} {h : Ptr} (busy : Busy (handle mk h) p) : Owing 2 p := by
  rcases busy with owns | ⟨a, owns⟩
  · exact owing_of_owns owns
  · refine ⟨_, ?_, owns⟩
    cases h <;> simp [handle]

/-- There is no way to check certificates: the environment names a file that cannot be loaded into the builder, or it
neither names one nor says not to check. -/
def Unready (R : Rustls Conn S) (start : Start) (builder : Ptr) (p : Process Conn S) : Prop :=
  match start.caFile with
  | some file => ∃ r ≠ .ok, (rustlsClientConfigBuilderLoadRootsFromFile R builder (some file.1) p.world).1.value? = some r
  | none => start.noCheckCertificate = false

theorem loadRootsFromFile_unchanged (R : Rustls Conn S) (builder : Ptr) (file : Option Bytes) (w : World Conn S) :
    Control.Ends (rustlsClientConfigBuilderLoadRootsFromFile R builder file w)
      (Control.Returns fun r w' => r ≠ .ok → w' = w) := by
  simp [rustlsClientConfigBuilderLoadRootsFromFile, Control.wp_ite]

theorem configure_owns {start : Start} {builder : Ptr} (owns : Owns (handle (.box .clientBuilder) builder) p) :
    wp (configure R host start builder)
      ⟨fun ready p' => Owns (handle (.box .clientBuilder) builder) p' ∧
          (ready = false → Unready R start builder p ∧ p'.world = p.world),
        fun _ _ => False, fun _ => False, fun _ => False⟩ p := by
  unfold configure
  split
  · rename_i file given
    obtain ⟨r, back, after⟩ := borrows_call R (.clientConfigBuilderLoadRootsFromFile builder (some file.1)) rfl
      ⟨fun _ => id, rfl, fun _ _ => rfl, trivial⟩ id trivial owns
    refine wp_then (ffi_returned back) ⟨after, fun failed => ?_⟩
    have failed : r ≠ .ok := of_decide_eq_false failed
    refine ⟨?_, Control.returns_value (loadRootsFromFile_unchanged R builder (some file.1) p.world) back failed⟩
    unfold Unready
    rw [given]
    exact ⟨r, failed, back⟩
  · split
    · obtain ⟨r, back, after⟩ := borrows_call R
        (.clientConfigBuilderDangerousSetCertificateVerifier builder (some host.verify)) rfl
        ⟨fun _ => id, rfl, fun _ _ => rfl, trivial⟩ id trivial owns
      exact wp_then (ffi_returned back) ⟨after, fun no => Bool.noConfusion no⟩
    · rename_i given off
      exact ⟨owns, fun _ => ⟨by simpa [Unready, given] using off, rfl⟩⟩

theorem build_owns (R : Rustls Conn S) {builder : Ptr} (owns : Owns (handle (.box .clientBuilder) builder) p) :
    ∃ config, (rustlsClientConfigBuilderBuild builder p.world).1.value? = some config ∧
      Owns (handle (.arc .clientConfig) config) (p.after (rustlsClientConfigBuilderBuild builder)) := by
  obtain ⟨config, back, after⟩ := call_owns R (.clientConfigBuilderBuild builder) rfl owns id
    (fun _ => id) trivial trivial
  refine ⟨config, back, ?_⟩
  cases builder <;> simpa [granted, Owner.lends, handles, consumed, handle] using after

theorem configFree_owns (R : Rustls Conn S) (owns : Owns (handle (.arc .clientConfig) config) p) :
    ∃ r, (rustlsClientConfigFree config p.world).1.value? = some r ∧ Owns [] (p.after (rustlsClientConfigFree config)) := by
  obtain ⟨r, back, after⟩ := call_owns R (.clientConfigFree config) rfl owns id (fun _ => id) trivial trivial
  refine ⟨r, back, ?_⟩
  cases config <;> simpa [granted, Owner.lends, handles, consumed, handle] using after

theorem main_owns (undisturbed : Undisturbed R) (start : Start) {s : S} (fresh : p.world = World.initial s)
    (owns : Owns [] p) :
    wp (main R os host fuel start)
      ⟨fun r p' => Owns [] p' ∨ r = 1 ∧ Unready R start (some 0) (p.after (rustlsClientConfigBuilderNew R)) ∧
          Owns [.box .clientBuilder 0] p' ∧ p'.world.arcs = [],
        fun _ _ => False, Owing 2, Owing 2⟩ p := by
  unfold main
  split
  · rename_i hostname port rest _
    obtain ⟨builder, back, owns₁⟩ := call_owns R .clientConfigBuilderNew rfl owns id (fun _ => id) trivial trivial
    obtain rfl : builder = some 0 := by
      rw [fresh] at back
      exact (Option.some.inj back).symm
    have owns₁ : Owns (handle (.box .clientBuilder) (some 0)) (p.after (rustlsClientConfigBuilderNew R)) := by
      simpa [granted, Owner.lends, handles, consumed, handle] using owns₁
    refine wp_then (ffi_returned back) ?_
    refine wp_seq (configure_owns owns₁) ?_ (fun _ _ => False.elim) (fun _ => False.elim) (fun _ => False.elim)
    rintro ready p₁ ⟨owns₂, unready⟩
    refine wp_ite.mpr ⟨fun _ => ?_, fun failed => ?_⟩
    · obtain ⟨_, back₂, owns₃⟩ := borrows_call R (.clientConfigBuilderSetAlpnProtocols (some 0) (some [alpnHttp11]) 1) rfl
        ⟨fun _ => id, rfl, fun _ _ => rfl, trivial⟩ id alpn_fits owns₂
      refine wp_then (ffi_returned back₂) ?_
      obtain ⟨config, back₃, owns₄⟩ := build_owns R owns₃
      refine wp_then (ffi_returned back₃) ?_
      refine wp_seq (requests_owns undisturbed (fun _ => id) owns₄ 3) ?_ (fun _ _ => False.elim) (fun _ => owing_of_busy)
        (fun _ => owing_of_busy)
      intro ret p₂ owns₅
      obtain ⟨_, back₄, owns₆⟩ := configFree_owns R owns₅
      exact wp_then (ffi_returned back₄) (.inl owns₆)
    · obtain ⟨_, back₂, owns₃⟩ := borrows_call R (.clientConfigFree none) rfl
        ⟨fun _ => False.elim ∘ List.not_mem_nil, rfl, fun _ _ => rfl, trivial⟩ id trivial owns₂
      obtain ⟨unready, same⟩ := unready (by simpa using failed)
      refine wp_then (ffi_returned back₂) (.inr ⟨rfl, unready, owns₃, ?_⟩)
      show p₁.world.arcs = []
      rw [same, Process.after, fresh]
      rfl
  · exact .inl owns

end

/-- However long the client runs and whatever the library and the system do, every call it makes is defined, and where it
ends or is cut off it owns two objects at most and nothing else is left. When it exits all of them are gone, with every
reference, unless it had no way to check certificates: then it stopped before building its config, and the builder alone is
left. -/
theorem client_gives_back {R : Rustls Conn S} (undisturbed : Undisturbed R) (os : Os S) (host : Host S) (fuel : Nat)
    (start : Start) {p : Process Conn S} {s : S} (fresh : p.world = World.initial s) :
    let run := main R os host fuel start p
    run.1 ≠ .misuse ∧ Owing 2 run.2 ∧
    ∀ r, run.1 = .next r →
      Owns [] run.2 ∧ (∀ kind a, ¬ LiveBox run.2.world kind a) ∧ (∀ a, Counting.strong run.2.world.arcs a = 0) ∨
      r = 1 ∧ Unready R start (some 0) (p.after (rustlsClientConfigBuilderNew R)) ∧ Owns [.box .clientBuilder 0] run.2 ∧
        (∀ kind a, LiveBox run.2.world kind a ↔ kind = .clientBuilder ∧ a = 0) ∧
        ∀ a, Counting.strong run.2.world.arcs a = 0 := by
  have owns : Owns [] p := owns_initial fresh
  exact leaves_of_owns (by decide) (main_owns undisturbed start fresh owns)

theorem maskedLibrary_undisturbed : Undisturbed (EndToEnd.maskedLibrary : Rustls EndToEnd.Masked S) := by
  intro a w
  simp only [EndToEnd.maskedLibrary]
  split
  · rename_i live
    exact .single (.drive live _)
  · exact .refl

/-- Only the first connection is accepted. -/
def onceHost : Host Tape where
  makeConn _ _ s := (if s.got = [] then 3 else -1, s)
  calloc s := (some 1, s)
  logCb := 1
  verify := 2

def unchecked : Start where
  argv := [⟨utf8 "client", by decide⟩, localhost, ⟨utf8 "443", by decide⟩, root]
  caFile := none
  noCheckCertificate := true

def started : Process EndToEnd.Masked Tape := ⟨World.initial {}, {}, []⟩

/-- The first request succeeds and the second fails. -/
def onceRun : Exit Int Int × Process EndToEnd.Masked Tape :=
  main EndToEnd.maskedLibrary (tapeOs (reply.map EndToEnd.mask)) onceHost 8 unchecked started

theorem client_gives_back_once : onceRun.1 = .next 1 ∧ onceRun.2.stdout = reply ∧
    (∀ kind a, ¬ LiveBox onceRun.2.world kind a) ∧ ∀ a, Counting.strong onceRun.2.world.arcs a = 0 := by
  have ends : onceRun.1 = .next 1 := by decide +kernel
  refine ⟨ends, by decide +kernel, ?_⟩
  have fresh : started.world = World.initial {} := rfl
  obtain ⟨-, -, given⟩ :=
    client_gives_back maskedLibrary_undisturbed (tapeOs (reply.map EndToEnd.mask)) onceHost 8 unchecked fresh
  rw [← onceRun] at given
  rcases given 1 ends with ⟨-, gone⟩ | ⟨-, unready, -⟩
  · exact gone
  · cases unready

end RustlsFfi.Demo.Client
