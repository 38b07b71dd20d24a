import Mathlib.Logic.Relation
import RustlsFfi.Lifetime.Calls

/-!
# Programs that own handles

A C program holds handles to counted objects, gets new ones from the API and gives each back at most
once. While it processes packets, rustls works on the objects itself, and the callbacks it makes
call the API again. In every state such a program reaches, every count is the number of holders.
-/

namespace RustlsFfi.Lifetime
open Control Counting

variable {Conn S : Type}

/-! ### What a call does with handles -/

def freed : Call S → Ptr
  | .certifiedKeyFree key => key
  | .clientCertVerifierFree verifier => verifier
  | .clientCertVerifierOptionalFree verifier => verifier
  | .clientConfigFree config => config
  | .serverConfigFree config => config
  | _ => none

/-- The handle among these that is dropped as an opaque struct. -/
def freedOpaque : Call S → Ptr
  | .certifiedKeyFree key => key
  | .clientCertVerifierFree verifier => verifier
  | .clientCertVerifierOptionalFree verifier => verifier
  | _ => none

/-- The handle that a call hands out; the key that `select_certified_key` names stays where it is. -/
def obtained (call : Call S) (v : Value) (w' : World Conn S) : Ptr :=
  match call, v with
  | .certifiedKeyBuild _ _ _ _ out, .result r => handleIn out r w'
  | .certifiedKeyCloneWithOcsp _ _ out, .result r => handleIn out r w'
  | .clientCertVerifierNew _, .ptr p => p
  | .clientCertVerifierOptionalNew _, .ptr p => p
  | .clientConfigBuilderBuild _, .ptr p => p
  | .serverConfigBuilderBuild _, .ptr p => p
  | _, _ => none

/-- The call gets as far as running rustls on the packets. -/
def Processes (w : World Conn S) : Call S → Prop
  | .connectionProcessNewPackets (some _) => w.userdata.Usable
  | _ => False

section
variable {P : Heap → Prop} {bare : Nat → Prop} {w : World Conn S} {loc : List Addr}

/-- Whichever way a call returns, the counts are right again. -/
theorem exec_counted (stable : Stable ArcValue.refs bare P) (R : Rustls Conn S) (call : Call S)
    (counted : Counted P w ((freed call).toList ++ loc))
    (opaqueFree : ∀ a, freedOpaque call = some a → bare (strong w.arcs a))
    (outside : ¬ Processes w call) :
    Ends (exec R call w) (Returns fun v w' => Gives P w loc (obtained call v w') w') := by
  cases call with
  | certifiedKeyBuild chain n key k out =>
    exact ends_as (certifiedKeyBuild_counted stable counted R chain n key k out)
  | certifiedKeyCloneWithOcsp key ocsp out =>
    exact ends_as (certifiedKeyCloneWithOcsp_counted stable counted key ocsp out)
  | certifiedKeyFree key =>
    exact ends_as (freeArc_counted stable counted (.inr ⟨certifiedKey_refs, opaqueFree⟩))
  | clientCertVerifierNew store =>
    exact ends_as (clientCertVerifierNew_counted stable counted (fun _ => rfl) store)
  | clientCertVerifierFree verifier =>
    exact ends_as (freeArc_counted stable counted (.inr ⟨clientCertVerifier_refs, opaqueFree⟩))
  | clientCertVerifierOptionalNew store =>
    exact ends_as (clientCertVerifierNew_counted stable counted (fun _ => rfl) store)
  | clientCertVerifierOptionalFree verifier =>
    exact ends_as (freeArc_counted stable counted (.inr ⟨clientCertVerifierOptional_refs, opaqueFree⟩))
  | connectionSetUserdata conn userdata => exact ends_as (setUserdata_counted counted conn userdata)
  | connectionSetLogCallback conn cb => exact ends_as (setLogCallback_counted counted conn cb)
  | connectionReadTls conn cb userdata out => exact ends_as (readTls_counted counted R conn cb userdata out)
  | connectionWriteTls conn cb userdata out => exact ends_as (writeTls_counted counted R _ conn cb out)
  | connectionWriteTlsVectored conn cb userdata out =>
    exact ends_as (writeTls_counted counted R _ conn cb out)
  | connectionProcessNewPackets conn =>
    cases conn with
    | none => exact counted
    | some a =>
      refine ends_as (ends_state ?_)
      rw [processNewPackets_refused outside]
      exact counted
  | connectionSetBufferLimit conn n => exact ends_as (setBufferLimit_counted counted R conn n)
  | connectionSendCloseNotify conn => exact ends_as (sendCloseNotify_counted counted R conn)
  | connectionWrite conn buf n out => exact ends_as (write_counted counted R conn buf n out)
  | connectionRead conn buf n out => exact ends_as (readPlaintext_counted counted _ conn buf n out)
  | connectionRead2 conn buf n out => exact ends_as (readPlaintext_counted counted _ conn buf n out)
  | connectionFree conn => exact ends_as (connectionFree_counted stable counted conn)
  | clientConfigBuilderNew => exact ends_as (clientConfigBuilderNew_counted counted R)
  | clientConfigBuilderNewCustom suites n versions k out =>
    exact ends_as (clientConfigBuilderNewCustom_counted counted R suites n versions k out)
  | clientConfigBuilderDangerousSetCertificateVerifier builder cb =>
    exact ends_as (dangerousSetCertificateVerifier_counted counted builder cb)
  | clientConfigBuilderUseRoots builder roots => exact ends_as (useRoots_counted counted builder roots)
  | clientConfigBuilderLoadRootsFromFile builder name =>
    exact ends_as (loadRootsFromFile_counted counted R builder name)
  | clientConfigBuilderSetAlpnProtocols builder protocols n =>
    exact ends_as (clientSetAlpnProtocols_counted counted builder protocols n)
  | clientConfigBuilderSetEnableSni builder enable =>
    exact ends_as (setEnableSni_counted counted builder enable)
  | clientConfigBuilderSetCertifiedKey builder keys n =>
    exact ends_as (setCertifiedKey_counted stable counted builder keys n)
  | clientConfigBuilderBuild builder => exact ends_as (clientConfigBuilderBuild_counted stable counted builder)
  | clientConfigBuilderFree builder => exact ends_as (clientConfigBuilderFree_counted stable counted builder)
  | clientConfigFree config => exact ends_as (freeArc_counted stable counted (.inl rfl))
  | clientConnectionNew config host out =>
    exact ends_as (clientConnectionNew_counted stable counted R config host out)
  | serverConfigBuilderNew => exact ends_as (serverConfigBuilderNew_counted counted R)
  | serverConfigBuilderNewCustom suites n versions k out =>
    exact ends_as (serverConfigBuilderNewCustom_counted counted R suites n versions k out)
  | serverConfigBuilderSetClientVerifier builder verifier =>
    exact ends_as (setClientVerifier_counted stable counted clientCertVerifier_refs (fun _ => rfl)
      builder verifier)
  | serverConfigBuilderSetClientVerifierOptional builder verifier =>
    exact ends_as (setClientVerifier_counted stable counted clientCertVerifierOptional_refs
      (fun _ => rfl) builder verifier)
  | serverConfigBuilderSetIgnoreClientOrder builder ignore =>
    exact ends_as (setIgnoreClientOrder_counted counted builder ignore)
  | serverConfigBuilderSetAlpnProtocols builder protocols n =>
    exact ends_as (serverSetAlpnProtocols_counted counted builder protocols n)
  | serverConfigBuilderSetCertifiedKeys builder keys n =>
    exact ends_as (setCertifiedKeys_counted stable counted builder keys n)
  | serverConfigBuilderSetHelloCallback builder cb =>
    exact ends_as (setHelloCallback_counted stable counted builder cb)
  | serverConfigBuilderSetPersistence builder getCb putCb =>
    exact ends_as (setPersistence_counted counted builder getCb putCb)
  | serverConfigBuilderBuild builder =>
    exact ends_as (serverConfigBuilderBuild_counted stable counted R builder)
  | serverConfigBuilderFree builder =>
    exact ends_as (serverConfigBuilderFree_counted stable counted builder)
  | serverConfigFree config => exact ends_as (freeArc_counted stable counted (.inl rfl))
  | serverConnectionNew config out => exact ends_as (serverConnectionNew_counted stable counted R config out)
  | clientHelloSelectCertifiedKey hello keys n out =>
    exact ends_as (clientHelloSelectCertifiedKey_counted counted R hello keys n out)
  | error result buf len out => exact ends_as (error_counted counted R result buf len out)
  | certificateGetDer cert data len => exact ends_as (certificateGetDer_counted counted R cert data len)
  | supportedCiphersuiteGetSuite suite => exact ends_as (supportedCiphersuiteGetSuite_counted counted suite)
  | supportedCiphersuiteGetName suite => exact ends_as (supportedCiphersuiteGetName_counted counted R suite)
  | certifiedKeyGetCertificate key i => exact ends_as (certifiedKeyGetCertificate_counted counted key i)
  | rootCertStoreNew => exact ends_as counted
  | rootCertStoreAddPem store pem n strict =>
    exact ends_as (rootCertStoreAddPem_counted counted R store pem n strict)
  | rootCertStoreFree store => exact ends_as (rootCertStoreFree_counted counted store)
  | connectionWantsRead conn => exact ends_as (askConn_counted counted conn (by simp [Looks]))
  | connectionWantsWrite conn => exact ends_as (askConn_counted counted conn (by simp [Looks]))
  | connectionIsHandshaking conn => exact ends_as (askConn_counted counted conn (by simp [Looks]))
  | connectionGetPeerCertificate conn i => exact ends_as (askConn_counted counted conn (by simp [Looks]))
  | connectionGetAlpnProtocol conn data len => exact ends_as (getAlpnProtocol_counted counted R conn data len)
  | connectionGetProtocolVersion conn => exact ends_as (askConn_counted counted conn (by simp [Looks]))
  | connectionGetNegotiatedCiphersuite conn => exact ends_as (askConn_counted counted conn (by simp [Looks]))
  | serverConnectionGetSniHostname conn buf n out =>
    exact ends_as (getSniHostname_counted counted R conn buf n out)
  | sliceSliceBytesLen _ | sliceSliceBytesGet _ _ | sliceStrLen _ | sliceStrGet _ _
  | resultIsCertError _ | logLevelStr _ | version | allCiphersuitesLen | allCiphersuitesGetEntry _
  | defaultCiphersuitesLen | defaultCiphersuitesGetEntry _ => exact counted

end

/-! ### Runs -/

/-- A call of `process_new_packets` that has put its frame on the userdata stack. -/
structure Processing (Conn S : Type) where
  before : World Conn S
  addr : Addr
  conn : Connection Conn
  live : Arena.get before.conns addr = some conn
  usable : before.userdata.Usable

/-- How a program keeps track of handles of the kind `H`: the one that a call takes over, the one that it hands out, and the
counted object, if it is one, that a handle is to. -/
structure Handles (Conn S H : Type) where
  taken : Call S → Option H
  given : Call S → Value → World Conn S → Option H
  arc? : H → Ptr
  freed_eq : ∀ call, freed call = (taken call).bind arc?
  obtained_eq : ∀ call v w, obtained call v w = (given call v w).bind arc?

/-- The state, the handles that C owns, and the `process_new_packets` calls in progress, innermost first. -/
structure Owner (Conn S H : Type) where
  world : World Conn S
  owned : List H
  active : List (Processing Conn S)

def Owner.initial {H : Type} (s : S) : Owner Conn S H := ⟨World.initial s, [], []⟩

/-- What C still owns when the call has its arguments. -/
def Owner.lends {H : Type} [DecidableEq H] (hs : Handles Conn S H) (m : Owner Conn S H) (call : Call S) : List H :=
  (hs.taken call).elim m.owned m.owned.erase

/-- A call that hands back `v`: C gives one handle up and gets one. -/
def Owner.after {H : Type} [DecidableEq H] (hs : Handles Conn S H) (R : Rustls Conn S) (m : Owner Conn S H) (call : Call S)
    (v : Value) : Owner Conn S H where
  world := (exec R call m.world).2
  owned := (hs.given call v (exec R call m.world).2).toList ++ m.lends hs call
  active := m.active

/-- What happens between the calls: rustls changes its state of a connection, takes a reference to a
live object for it or drops one, and C writes to its own memory. -/
inductive Works (w : World Conn S) : World Conn S → Prop
  | drive {a : Addr} {c : Connection Conn} (live : Arena.get w.conns a = some c) (conn : Conn) :
      Works w (w.putConn a { c with conn := conn })
  | takes {a r : Addr} {c : Connection Conn} (live : Arena.get w.conns a = some c)
      (alive : 0 < strong w.arcs r) :
      Works w ((w.retain r).putConn a { c with refs := r :: c.refs })
  | drops {a r : Addr} {c : Connection Conn} (live : Arena.get w.conns a = some c) (own : r ∈ c.refs) :
      Works w ((w.putConn a { c with refs := c.refs.erase r }).dropArc r)
  | memory (cells : Cells) (app : S) : Works w { w with cells := cells, app := app }

/-- One step of a program whose calls all meet `meets`. The libraries underneath may do something
else in every step, and a call that is undefined behaviour is no step. -/
inductive Owner.Step {H : Type} [DecidableEq H] (hs : Handles Conn S H) (meets : Owner Conn S H → Call S → Prop)
    (m : Owner Conn S H) : Owner Conn S H → Prop
  | call (R : Rustls Conn S) (call : Call S) {v : Value} (outside : ¬ Processes m.world call)
      (met : meets m call) (owns : ∀ h, hs.taken call = some h → h ∈ m.owned)
      (back : (exec R call m.world).1.value? = some v) :
      Step hs meets m (m.after hs R call v)
  | enter (p : Processing Conn S) (here : p.before = m.world)
      (met : meets m (.connectionProcessNewPackets (some p.addr))) :
      Step hs meets m ⟨m.world.enter p.conn, m.owned, p :: m.active⟩
  | leave (R : Rustls Conn S) {p : Processing Conn S} {rest : List (Processing Conn S)}
      (top : m.active = p :: rest)
      (ended : (R.processNewPackets p.addr (p.before.enter p.conn)).2 = m.world) :
      Step hs meets m ⟨(exec R (.connectionProcessNewPackets (some p.addr)) p.before).2, m.owned, rest⟩
  | work {w' : World Conn S} (works : Works m.world w') : Step hs meets m { m with world := w' }

theorem works_counted {P : Heap → Prop} {bare : Nat → Prop} (stable : Stable ArcValue.refs bare P) {w w' : World Conn S}
    {loc : List Addr} (counted : Counted P w loc) (works : Works w w') : Counted P w' loc := by
  cases works with
  | drive live conn => exact counted_driven counted live conn
  | takes live alive =>
    refine counted_putConn (counted_retain stable counted alive) live ?_
    exact List.perm_middle.symm
  | drops live own =>
    refine counted_dropArc stable (counted_putConn counted live ?_)
    rw [List.cons_append]
    refine ((List.perm_cons_erase own).append_left _).trans ?_
    exact List.perm_middle
  | memory cells app => exact counted

/-! ### What a step does to the counts -/

/-- The counted objects among the handles. -/
abbrev Owner.arcs {H : Type} (hs : Handles Conn S H) (l : List H) : List Addr := l.filterMap hs.arc?

theorem arcs_toList {H : Type} {hs : Handles Conn S H} (o : Option H) : Owner.arcs hs o.toList = (o.bind hs.arc?).toList := by
  cases o with
  | none => rfl
  | some h => cases given : hs.arc? h <;> simp [Owner.arcs, given]

theorem leave_world {R : Rustls Conn S} {p : Processing Conn S} {w : World Conn S}
    (ended : (R.processNewPackets p.addr (p.before.enter p.conn)).2 = w) :
    ∃ k, (exec R (.connectionProcessNewPackets (some p.addr)) p.before).2 = { w with userdata := k } := by
  obtain ⟨k, after⟩ := processNewPackets_entered (f := R.processNewPackets) p.usable p.live
  rw [← ended]
  exact ⟨k, after⟩

section
variable {H : Type} [DecidableEq H] {hs : Handles Conn S H} {meets : Owner Conn S H → Call S → Prop} {P : Heap → Prop}
  {bare : Nat → Prop} {m m' : Owner Conn S H} {R : Rustls Conn S} {call : Call S} {v : Value}

theorem lends_perm (owns : ∀ h, hs.taken call = some h → h ∈ m.owned) :
    m.owned.Perm ((hs.taken call).toList ++ m.lends hs call) := by
  unfold Owner.lends
  cases given : hs.taken call with
  | none => exact .refl _
  | some h => exact List.perm_cons_erase (owns h given)

theorem lends_sub {h : H} (member : h ∈ m.lends hs call) : h ∈ m.owned := by
  unfold Owner.lends at member
  cases given : hs.taken call with
  | none => simpa [given] using member
  | some g => exact List.mem_of_mem_erase (by simpa [given] using member)

theorem lends_nodup (hs : Handles Conn S H) (unique : m.owned.Nodup) (call : Call S) : (m.lends hs call).Nodup := by
  unfold Owner.lends
  cases hs.taken call with
  | none => exact unique
  | some h => exact unique.erase h

/-- After a call the counts are right again, and what it handed out is new. -/
theorem call_gives (stable : Stable ArcValue.refs bare P) (counted : Counted P m.world (Owner.arcs hs m.owned))
    (opaqueFree : ∀ a, freedOpaque call = some a → bare (strong m.world.arcs a)) (outside : ¬ Processes m.world call)
    (owns : ∀ h, hs.taken call = some h → h ∈ m.owned) (back : (exec R call m.world).1.value? = some v) :
    Gives P m.world (Owner.arcs hs (m.lends hs call)) (obtained call v (exec R call m.world).2) (exec R call m.world).2 := by
  refine returns_value (exec_counted stable R call ?_ opaqueFree outside) back
  refine counted.perm (((lends_perm owns).filterMap hs.arc?).trans ?_)
  rw [List.filterMap_append, hs.freed_eq, ← arcs_toList]

theorem call_counted (stable : Stable ArcValue.refs bare P) (counted : Counted P m.world (Owner.arcs hs m.owned))
    (opaqueFree : ∀ a, freedOpaque call = some a → bare (strong m.world.arcs a)) (outside : ¬ Processes m.world call)
    (owns : ∀ h, hs.taken call = some h → h ∈ m.owned) (back : (exec R call m.world).1.value? = some v) :
    Counted P (m.after hs R call v).world (Owner.arcs hs (m.after hs R call v).owned) := by
  have after := call_gives stable counted opaqueFree outside owns back
  have together : Owner.arcs hs (m.after hs R call v).owned =
      (obtained call v (exec R call m.world).2).toList ++ Owner.arcs hs (m.lends hs call) := by
    rw [hs.obtained_eq, ← arcs_toList]
    exact List.filterMap_append ..
  rw [together]
  cases new : obtained call v (exec R call m.world).2 with
  | none =>
    rw [new] at after
    exact after
  | some a =>
    rw [new] at after
    exact after.2

theorem step_counted (stable : Stable ArcValue.refs bare P)
    (allowed : ∀ m call a, meets m call → freedOpaque call = some a → bare (strong m.world.arcs a))
    (counted : Counted P m.world (Owner.arcs hs m.owned)) (step : Owner.Step hs meets m m') :
    Counted P m'.world (Owner.arcs hs m'.owned) := by
  cases step with
  | call R call outside met owns back =>
    exact call_counted stable counted (fun a => allowed _ _ a met) outside owns back
  | enter p here met => exact counted
  | leave R top ended =>
    obtain ⟨k, same⟩ := leave_world ended
    rw [same]
    exact counted
  | work works => exact works_counted stable counted works

end

/-! ### Programs that own counted objects -/

/-- The address of a counted object is a handle to it. -/
def counts : Handles Conn S Addr where
  taken := freed
  given := obtained
  arc? := some
  freed_eq call := by cases freed call <;> rfl
  obtained_eq call v w := by cases obtained call v w <;> rfl

abbrev Machine (Conn S : Type) := Owner Conn S Addr

abbrev Run (meets : World Conn S → Call S → Prop) : Machine Conn S → Machine Conn S → Prop :=
  Relation.ReflTransGen (Owner.Step counts fun m => meets m.world)

/-- C owns each of its handles once, and the counts are right. -/
structure Accounted (P : Heap → Prop) (m : Machine Conn S) : Prop where
  counted : Counted P m.world m.owned
  unique : m.owned.Nodup

section
variable {P : Heap → Prop} {bare : Nat → Prop} {m m' : Machine Conn S}
  {meets : World Conn S → Call S → Prop}

theorem initial_accounted (s : S) (empty : P []) : Accounted P (.initial s : Machine Conn S) where
  counted := {
    balanced := ⟨fun _ => rfl, by simp [Owner.initial, World.initial], by simp [Owner.initial, World.initial]⟩
    clientLeaves := by simp [Leaves, Owner.initial, World.initial, Arena.get]
    serverLeaves := by simp [Leaves, Owner.initial, World.initial, Arena.get]
    property := empty }
  unique := List.nodup_nil

theorem Accounted.fresh (before : Accounted P m) : m.world.arcs.length ∉ m.owned := by
  intro member
  obtain ⟨c, found, -⟩ := found_of_strong (before.counted.alive member)
  exact absurd (List.getElem?_eq_some_iff.mp found).1 (Nat.lt_irrefl _)

theorem arcs_counts (l : List Addr) : Owner.arcs (counts : Handles Conn S Addr) l = l := List.filterMap_some ..

theorem Accounted.arcs (before : Accounted P m) :
    Counted P m.world (Owner.arcs (counts : Handles Conn S Addr) m.owned) := by
  rw [arcs_counts]
  exact before.counted

theorem step_accounted (stable : Stable ArcValue.refs bare P)
    (allowed : ∀ w call a, meets w call → freedOpaque call = some a → bare (strong w.arcs a))
    (before : Accounted P m) (step : Owner.Step counts (fun m => meets m.world) m m') : Accounted P m' := by
  have counted := step_counted stable (fun m => allowed m.world) before.arcs step
  rw [arcs_counts] at counted
  refine ⟨counted, ?_⟩
  cases step with
  | @call R call v outside met owns back =>
    have gives := call_gives stable before.arcs (fun a => allowed _ _ a met) outside owns back
    have rest := lends_nodup counts before.unique call
    unfold Owner.after
    cases new : counts.given call v (exec R call m.world).2 with
    | none => exact rest
    | some a =>
      rw [show obtained call v _ = some a from new] at gives
      obtain rfl := gives.1
      exact List.nodup_cons.mpr ⟨fun member => before.fresh (lends_sub member), rest⟩
  | enter p here met => exact before.unique
  | leave R top ended => exact before.unique
  | work works => exact before.unique

theorem run_accounted (stable : Stable ArcValue.refs bare P)
    (allowed : ∀ w call a, meets w call → freedOpaque call = some a → bare (strong w.arcs a))
    (before : Accounted P m) (run : Run meets m m') : Accounted P m' := by
  induction run with
  | refl => exact before
  | tail _ step ih => exact step_accounted stable allowed ih step

end

/-! ### Runs on given calls -/

section
variable {H : Type} [DecidableEq H] {hs : Handles Conn S H} {meets : Owner Conn S H → Call S → Prop} {R : Rustls Conn S}
  {m : Owner Conn S H}

def Owner.play (hs : Handles Conn S H) (R : Rustls Conn S) (m : Owner Conn S H) (calls : List (Call S × Value)) :
    Owner Conn S H :=
  calls.foldl (fun m c => m.after hs R c.1 c.2) m

/-- Each call is a step where it is made, and hands back the value beside it. -/
def Owner.Plays (hs : Handles Conn S H) (meets : Owner Conn S H → Call S → Prop) (R : Rustls Conn S) :
    Owner Conn S H → List (Call S × Value) → Prop
  | _, [] => True
  | m, (call, v) :: rest => ¬ Processes m.world call ∧ meets m call ∧ (∀ h ∈ hs.taken call, h ∈ m.owned) ∧
      (exec R call m.world).1.value? = some v ∧ Owner.Plays hs meets R (m.after hs R call v) rest

instance (w : World Conn S) (call : Call S) : Decidable (Processes w call) := by
  unfold Processes UserdataKey.Usable
  split <;> infer_instance

instance Owner.decidablePlays [∀ m call, Decidable (meets m call)] :
    ∀ (m : Owner Conn S H) (calls : List (Call S × Value)), Decidable (Owner.Plays hs meets R m calls)
  | _, [] => isTrue trivial
  | m, (call, v) :: rest =>
    have := Owner.decidablePlays (m.after hs R call v) rest
    inferInstanceAs (Decidable (_ ∧ _ ∧ _ ∧ _ ∧ _))

theorem run_play {calls : List (Call S × Value)} (plays : Owner.Plays hs meets R m calls) :
    Relation.ReflTransGen (Owner.Step hs meets) m (m.play hs R calls) := by
  induction calls generalizing m with
  | nil => exact .refl
  | cons c rest ih =>
    obtain ⟨outside, met, owns, back, plays⟩ := plays
    exact .head (.call R c.1 outside met owns back) (ih plays)

end

/-! ### Counts are holders -/

def heldByConfigs (arcs : Heap) (a : Addr) : Nat :=
  (arcs.map fun c => if 0 < c.strong then c.value.refs.count a else 0).sum

def Unheld (m : Machine Conn S) : Prop :=
  ∀ a, a ∉ m.owned ∧ heldByBuilders m.world.clientBuilders m.world.serverBuilders a = 0 ∧
    heldByConnections m.world.conns a = 0

theorem Accounted.strong_eq_zero {P : Heap → Prop} {m : Machine Conn S} (accounted : Accounted P m)
    (unheld : Unheld m) (a : Addr) : strong m.world.arcs a = 0 := by
  refine (accounted.counted.balanced.congr fun b => ?_).quiet a
  obtain ⟨free, builders, connections⟩ := unheld b
  rw [builders, connections, List.count_eq_zero.mpr free]

theorem held_eq_heldByConfigs {arcs : Heap} {ext : Addr → Nat} (balanced : Balanced ArcValue.refs arcs ext)
    (a : Addr) : held ArcValue.refs arcs a = heldByConfigs arcs a := by
  unfold held heldByConfigs
  congr 1
  refine List.map_congr_left fun c member => ?_
  unfold Cell.holds
  by_cases owns : c.value.refs = []
  · simp [owns]
  · simp only [balanced.live c member owns]

/-- Whatever a program does that gives back only handles it owns, every count is one for the handle
of C, if it owns one, and one for each reference in a builder, a live config or a connection. So an
object goes exactly when its last holder does, and without holders none is left. -/
theorem strong_eq_holders {s : S} {m : Machine Conn S} (run : Run (fun _ _ => True) (.initial s) m) :
    m.owned.Nodup ∧
    (∀ a, strong m.world.arcs a = (if a ∈ m.owned then 1 else 0) +
      heldByBuilders m.world.clientBuilders m.world.serverBuilders a +
      heldByConfigs m.world.arcs a + heldByConnections m.world.conns a) ∧
    (∀ a, strong m.world.arcs a = 0 ↔ a ∉ m.owned ∧
      heldByBuilders m.world.clientBuilders m.world.serverBuilders a = 0 ∧
      heldByConfigs m.world.arcs a = 0 ∧ heldByConnections m.world.conns a = 0) ∧
    (Unheld m → ∀ a, strong m.world.arcs a = 0) := by
  have accounted := run_accounted (stable_true ArcValue.refs) (fun _ _ _ _ _ => trivial)
    (initial_accounted s trivial) run
  have balanced := accounted.counted.balanced
  have counts : ∀ a, strong m.world.arcs a = (if a ∈ m.owned then 1 else 0) +
      heldByBuilders m.world.clientBuilders m.world.serverBuilders a +
      heldByConfigs m.world.arcs a + heldByConnections m.world.conns a := by
    intro a
    rw [balanced.count a, held_eq_heldByConfigs balanced, accounted.unique.count]
    omega
  refine ⟨accounted.unique, counts, fun a => ?_, accounted.strong_eq_zero⟩
  rw [counts a]
  split
  next member => simp [member]
  next free =>
    simp only [free, not_false_eq_true, true_and]
    omega

/-- A key in use twice in a server config that was built after a failed attempt to replace it. -/
def sharedKey : List (Call Unit × Value) :=
  [(.certifiedKeyBuild (some [1]) 1 (some [2]) 1 (some 0), .result .ok),
   (.serverConfigBuilderNew, .ptr (some 0)),
   (.serverConfigBuilderSetCertifiedKeys (some 0) (some [some 0, some 0]) 2, .result .ok),
   (.serverConfigBuilderSetCertifiedKeys (some 0) (some [some 0, none]) 2, .result .nullParameter),
   (.serverConfigBuilderBuild (some 0), .ptr (some 1)),
   (.certifiedKeyFree (some 0), .unit)]

theorem strong_eq_holders_sharedKey :
    let m := Owner.play counts (.inert ()) (.initial () : Machine Unit Unit) sharedKey
    m.owned = [1] ∧ strong m.world.arcs 0 = 2 ∧ strong m.world.arcs 0 = (if 0 ∈ m.owned then 1 else 0) +
      heldByBuilders m.world.clientBuilders m.world.serverBuilders 0 +
      heldByConfigs m.world.arcs 0 + heldByConnections m.world.conns 0 := by
  intro m
  have run : Run (fun _ _ => True) (.initial ()) m := run_play (by decide +kernel)
  exact ⟨by decide +kernel, by decide +kernel, (strong_eq_holders run).2.1 0⟩

end RustlsFfi.Lifetime
