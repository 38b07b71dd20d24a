import RustlsFfi.Config.ServerBuilder
import RustlsFfi.Model.Callback

/-!
# Choosing among certified keys

A server can leave the choice of a key to its config or make it in a callback, with
`rustls_client_hello_select_certified_key`. Both come to the first key that suits the client, and so does
a client that chooses a key for a server.
-/

namespace RustlsFfi.Keys
open Control

variable {Conn S : Type}

/-! ### Signature schemes as numbers -/

/-- A scheme that rustls can have read: a number that has a name stands under its name. -/
def Decoded (s : SignatureScheme) : Prop := ∀ t : SignatureScheme, (∀ n, t ≠ .unknown n) → t.getU16 = s.getU16 → s = t

/-- One row of the table. -/
theorem getU16_row {n k : UInt16} {s rest : SignatureScheme} (row : s.getU16 = k) (others : rest.getU16 = n) :
    (if n = k then s else rest).getU16 = n := by
  split
  next listed => rw [row, listed]
  · exact others

theorem getU16_sigscheme (n : UInt16) : (sigscheme n).getU16 = n := by
  unfold sigscheme
  repeat refine getU16_row rfl ?_
  rfl

theorem sigscheme_getU16 {s : SignatureScheme} (decoded : Decoded s) : sigscheme s.getU16 = s := by
  cases s with
  | unknown n =>
    have same : (sigscheme n).getU16 = n := getU16_sigscheme n
    change sigscheme n = .unknown n
    cases read : sigscheme n with
    | unknown m =>
      rw [read] at same
      exact congrArg _ same
    | _ => exact (decoded _ (by simp) (read ▸ same)).symm
  | _ => rfl

theorem sigschemes_getU16 {l : List SignatureScheme} (decoded : ∀ s ∈ l, Decoded s) :
    sigschemes (l.map SignatureScheme.getU16) = l := by
  have same : ∀ s ∈ l, (sigscheme ∘ SignatureScheme.getU16) s = id s :=
    fun s member => sigscheme_getU16 (decoded s member)
  rw [sigschemes, List.map_map, List.map_congr_left same, List.map_id]

/-! ### First matches -/

/-- The key at an address suits the schemes, in the opinion of `choose`. -/
def suits (choose : SigningKey → List SignatureScheme → Bool) (h : Heap) (schemes : List SignatureScheme) (a : Addr) :
    Bool :=
  (derefArc h ArcValue.certifiedKey? a).any fun key => choose key.key schemes

/-- `choose_scheme` is a function of the schemes. -/
def Chooses (R : Rustls Conn S) (choose : SigningKey → List SignatureScheme → Bool) : Prop :=
  ∀ key schemes, R.choosesScheme key schemes = some (choose key schemes)

def Live (h : Heap) (keys : List Addr) : Prop := ∀ a ∈ keys, ∃ key, derefArc h ArcValue.certifiedKey? a = some key

section
variable {R : Rustls Conn S} {choose : SigningKey → List SignatureScheme → Bool} {schemes : List SignatureScheme}
  {w : World Conn S}

theorem resolveFromChoices_run (chooses : Chooses R choose) (keys : List Addr) (live : Live w.arcs keys) :
    resolveFromChoices R schemes keys w =
      match keys.find? (suits choose w.arcs schemes) with
      | none => (.next none, w)
      | some a => (.ret (some a), w.retain a) := by
  induction keys with
  | nil => rfl
  | cons a rest ih =>
    obtain ⟨key, found⟩ := live a (by simp)
    have verdict : suits choose w.arcs schemes a = choose key.key schemes := by simp [suits, found]
    simp only [resolveFromChoices, bind_run, tryRefFromArc_live found, mayPanic, chooses key.key schemes,
      List.find?_cons, verdict]
    cases choose key.key schemes with
    | true => rfl
    | false => exact ih fun a member => live a (by simp [member])

theorem selectCertifiedKey_run (chooses : Chooses R choose) (out : Addr) (keys : List Addr) (live : Live w.arcs keys) :
    selectCertifiedKey R schemes (some out) (keys.map some) w =
      match keys.find? (suits choose w.arcs schemes) with
      | none => (.next .notFound, w)
      | some a => (.ret .ok, { w with cells.ptr := Function.update w.cells.ptr out (some a) }) := by
  induction keys with
  | nil => rfl
  | cons a rest ih =>
    obtain ⟨key, found⟩ := live a (by simp)
    have verdict : suits choose w.arcs schemes a = choose key.key schemes := by simp [suits, found]
    simp only [List.map_cons, selectCertifiedKey, bind_run, tryRefFromArc_live found, mayPanic,
      chooses key.key schemes, List.find?_cons, verdict]
    cases choose key.key schemes with
    | true => rfl
    | false => exact ih fun a member => live a (by simp [member])

/-! ### Resolvers -/

/-- A callback that hands its keys to `rustls_client_hello_select_certified_key`, with `out` a variable of
its own. -/
def selecting (R : Rustls Conn S) (keys : List Addr) (out : Addr) : ClientHelloCallback Conn S := fun _ hello w =>
  let call := rustlsClientHelloSelectCertifiedKey R (some hello) (some (keys.map some)) keys.length (some out) w
  (if call.1 = .returned .ok then call.2.cells.ptr out else none, call.2)

theorem selecting_run (chooses : Chooses R choose) {keys : List Addr} (live : Live w.arcs keys)
    (decoded : ∀ s ∈ schemes, Decoded s) (out : Addr) (u : VoidPtr) (sniName : RustlsStr)
    (alpn : Option RustlsSliceSliceBytes) :
    selecting R keys out u ⟨sniName, .ofSlice (schemes.map SignatureScheme.getU16), alpn⟩ w =
      match keys.find? (suits choose w.arcs schemes) with
      | none => (none, w)
      | some a => (some a, { w with cells.ptr := Function.update w.cells.ptr out (some a) }) := by
  simp only [selecting, rustlsClientHelloSelectCertifiedKey, ffiPanicBoundary, tryRef, bind_run, pure_run, trySlice,
    RustlsSliceU16.ofSlice, fromRawParts, le_refl, ite_true, List.length_map, rejectIfNull,
    List.take_of_length_le, sigschemes_getU16 decoded, selectCertifiedKey_run chooses out keys live]
  cases keys.find? (suits choose w.arcs schemes) with
  | none => rfl
  | some a => simp

/-- The certified key that a resolver has come up with. -/
def certified (out : Res Fault Ptr × World Conn S) : Option CertifiedKey :=
  match out.1 with
  | .ok p => p.bind (derefArc out.2.arcs ArcValue.certifiedKey?)
  | _ => none

theorem choices_run (chooses : Chooses R choose) {keys : List Addr} (live : Live w.arcs keys) :
    let first := keys.find? (suits choose w.arcs schemes)
    let out := fromRustls (resolveFromChoices R schemes keys) w
    out.1 = .ok first ∧ certified out = first.bind (derefArc w.arcs ArcValue.certifiedKey?) := by
  intro first out
  have run : out = match first with
      | none => (.ok none, w)
      | some a => (.ok (some a), w.retain a) := by
    simp only [out, fromRustls, resolveFromChoices_run chooses keys live]
    change _ = match keys.find? (suits choose w.arcs schemes) with | none => _ | some a => _
    cases keys.find? (suits choose w.arcs schemes) <;> rfl
  cases found : first with
  | none => simp [run, found, certified]
  | some a =>
    obtain ⟨key, value⟩ := live a (List.mem_of_find?_eq_some found)
    simp [run, found, certified, World.retain, derefArc_retain _ (strong_of_derefArc value)]

theorem called_run (chooses : Chooses R choose) {keys : List Addr} (live : Live w.arcs keys)
    {clientHello : ClientHello} (decoded : ∀ s ∈ clientHello.signatureSchemes, Decoded s)
    (clean : '\x00' ∉ (clientHello.serverName.getD "").toList) {u : VoidPtr} (userdata : userdataGet w.userdata = .ok u)
    (out : Addr) :
    let first := keys.find? (suits choose w.arcs clientHello.signatureSchemes)
    let called := fromRustls (ClientHelloResolver.resolve (selecting R keys out) clientHello) w
    (∃ copy, called.1 = .ok copy ∧ (copy = none ↔ first = none)) ∧
      certified called = first.bind (derefArc w.arcs ArcValue.certifiedKey?) := by
  intro first called
  have sniName : RustlsStr.tryFrom (clientHello.serverName.getD "") =
      some (.fromStrUnchecked (clientHello.serverName.getD "")) := by
    simp [RustlsStr.tryFrom, RustlsStr.fromStrUnchecked, clean]
  simp only [called, clientHelloResolver_resolve, sniName, userdata, selecting_run chooses live decoded]
  change _ ∧ _ = Option.bind (keys.find? _) _
  cases found : keys.find? (suits choose w.arcs clientHello.signatureSchemes) with
  | none => exact ⟨⟨none, rfl, by simp [first, found]⟩, rfl⟩
  | some a =>
    obtain ⟨key, value⟩ := live a (List.mem_of_find?_eq_some found)
    simp only [value]
    refine ⟨⟨_, rfl, by simp [first, found]⟩, ?_⟩
    exact (derefArc_alloc_new _ _ _).trans value.symm

/-! ### Configs -/

/-- A setter has succeeded, and the builder gives a config that finds certificates with `r`. -/
def BuildsWith (R : Rustls Conn S) (b : Addr) (set : Outcome RustlsResult × World Conn S) (r : ServerCertResolver) :
    Prop :=
  set.1 = .returned .ok ∧ ∃ a config, (rustlsServerConfigBuilderBuild R (some b) set.2).1 = .returned (some a) ∧
    derefArc (rustlsServerConfigBuilderBuild R (some b) set.2).2.arcs ArcValue.serverConfig? a = some config ∧
    config.certResolver = r

theorem buildsWith_of_effect {s : ServerBuilder.Setter} {b : Addr} {builder : ServerConfigBuilder}
    {set : Outcome RustlsResult × World Conn S} {r : ServerCertResolver}
    (effect : ServerBuilder.Effect s b builder w set.2 (set.1 = .returned .ok)) (accepts : s.accepts w.arcs = true)
    (supplied : s.resolver? = some r) : BuildsWith R b set r := by
  have live := effect.builder
  rw [accepts, if_pos rfl] at live
  have resolver : (s.install builder).certResolver = some r := by simp [ServerBuilder.Setter.install, supplied]
  obtain ⟨a, returned, found⟩ := ServerBuilder.build_some R live resolver
  exact ⟨effect.succeeded.mpr accepts, a, _, returned, found, rfl⟩

theorem buildsWith_certifiedKeys {b : Addr} (created : ServerBuilder.Created R b w) {keys : List Addr}
    (live : Live w.arcs keys) :
    BuildsWith R b (rustlsServerConfigBuilderSetCertifiedKeys (some b) (some (keys.map some)) keys.length w)
      (.resolvesServerCertFromChoices keys) := by
  obtain ⟨base, new, typed⟩ := created.fresh
  refine buildsWith_of_effect (ServerBuilder.setCertifiedKeys_effect new typed _ _) ?_ ?_
  · refine Setters.goodKeys_iff.mpr ⟨by simp, fun p member => ?_⟩
    obtain ⟨a, inside, rfl⟩ := List.mem_map.mp (List.mem_of_mem_take member)
    obtain ⟨key, found⟩ := live a inside
    simp [Setters.pointsTo, found]
  · simp [ServerBuilder.Setter.resolver?, List.reduceOption, List.take_of_length_le]

theorem buildsWith_helloCallback {b : Addr} (created : ServerBuilder.Created R b w) (f : FnPtr) :
    BuildsWith R b (rustlsServerConfigBuilderSetHelloCallback (some b) (some f) w) (.clientHelloResolver f) := by
  obtain ⟨base, new, typed⟩ := created.fresh
  exact buildsWith_of_effect (ServerBuilder.setHelloCallback_effect new typed (some f)) rfl rfl

theorem selection_paths_agree (chooses : Chooses R choose) {keys : List Addr} (live : Live w.arcs keys)
    (clientHello : ClientHello) (decoded : ∀ s ∈ clientHello.signatureSchemes, Decoded s)
    (clean : '\x00' ∉ (clientHello.serverName.getD "").toList) {u : VoidPtr} (userdata : userdataGet w.userdata = .ok u)
    (hello : FnPtr → ClientHelloCallback Conn S) (f : FnPtr) (out : Addr) (selects : hello f = selecting R keys out)
    (acceptableIssuers : List Bytes) :
    let first := keys.find? (suits choose w.arcs clientHello.signatureSchemes)
    let choices := (ServerCertResolver.resolvesServerCertFromChoices keys).resolve R hello clientHello w
    let called := (ServerCertResolver.clientHelloResolver f).resolve R hello clientHello w
    let client := fromRustls
      (ResolvesClientCertFromChoices.resolve R ⟨keys⟩ acceptableIssuers clientHello.signatureSchemes) w
    choices.1 = .ok first ∧ client.1 = .ok first ∧ (∃ copy, called.1 = .ok copy ∧ (copy = none ↔ first = none)) ∧
    certified choices = first.bind (derefArc w.arcs ArcValue.certifiedKey?) ∧
    certified called = certified choices ∧ certified client = certified choices ∧
    sigschemes (clientHello.signatureSchemes.map SignatureScheme.getU16) = clientHello.signatureSchemes ∧
    ∀ {b : Addr} {w₀ : World Conn S}, ServerBuilder.Created R b w₀ → Live w₀.arcs keys →
      BuildsWith R b (rustlsServerConfigBuilderSetCertifiedKeys (some b) (some (keys.map some)) keys.length w₀)
        (.resolvesServerCertFromChoices keys) ∧
      BuildsWith R b (rustlsServerConfigBuilderSetHelloCallback (some b) (some f) w₀) (.clientHelloResolver f) := by
  intro first choices called client
  obtain ⟨chosen, value⟩ : choices.1 = .ok first ∧ certified choices = first.bind (derefArc w.arcs _) :=
    choices_run chooses live
  have same : called = fromRustls (ClientHelloResolver.resolve (selecting R keys out) clientHello) w := by
    simp only [called, ServerCertResolver.resolve, selects]
  obtain ⟨copied, value'⟩ := called_run chooses live decoded clean userdata out
  refine ⟨chosen, chosen, same ▸ copied, value, ?_, rfl, sigschemes_getU16 decoded, fun created live => ?_⟩
  · rw [same, value']
    exact value.symm
  · exact ⟨buildsWith_certifiedKeys created live, buildsWith_helloCallback created f⟩

end

/-- A library whose keys sign with Ed25519 if they are made from the byte 2, and with nothing else. -/
def onlyEd25519 : Rustls Unit Unit where
  __ := Rustls.inert ()
  choosesScheme key schemes := some (key.der == [2] && schemes.contains .ED25519)

def twoKeys : World Unit Unit :=
  { World.initial () with
    arcs := [⟨1, .certifiedKey ⟨[⟨[7]⟩], ⟨[1]⟩, none⟩, 0⟩, ⟨1, .certifiedKey ⟨[⟨[8]⟩], ⟨[2]⟩, none⟩, 0⟩]
    userdata := { stack := [⟨none, none⟩] } }

/-- The second of two keys for a client that offers an unknown scheme and Ed25519. -/
theorem selection_paths_agree_second :
    certified ((ServerCertResolver.clientHelloResolver 0).resolve onlyEd25519
        (fun _ => selecting onlyEd25519 [0, 1] 0) ⟨none, [.unknown 0x0999, .ED25519], none⟩ twoKeys) =
      some ⟨[⟨[8]⟩], ⟨[2]⟩, none⟩ := by
  have live : Live twoKeys.arcs [0, 1] := by
    intro a member
    rcases List.mem_pair.mp member with rfl | rfl
    · exact ⟨_, rfl⟩
    · exact ⟨_, rfl⟩
  have decoded : ∀ s ∈ [SignatureScheme.unknown 0x0999, .ED25519], Decoded s := by
    intro s member t known same
    rcases List.mem_pair.mp member with rfl | rfl <;> cases t <;> first | rfl | simp_all [SignatureScheme.getU16]
  have chooses : Chooses onlyEd25519 fun key schemes => key.der == [2] && schemes.contains .ED25519 := fun _ _ => rfl
  obtain ⟨-, -, -, chosen, called, -⟩ := selection_paths_agree chooses live
    ⟨none, [.unknown 0x0999, .ED25519], none⟩ decoded (by simp) (u := none) rfl
    (fun _ => selecting onlyEd25519 [0, 1] 0) 0 0 rfl []
  rw [called, chosen]
  decide

end RustlsFfi.Keys
