import RustlsFfi.Config.Setters

/-!
# Configuring a server

A server config builder has five slots. Each setter fills one of them, or fails without effect, and
`rustls_server_config_builder_build` turns what the slots hold into a config.
-/

namespace RustlsFfi.ServerBuilder
open Control Counting Setters
open Slots (Step latest)

variable {Conn S : Type}

inductive Slot where
  | verifier
  | resolver
  | alpn
  | order
  | storage
  deriving DecidableEq, Repr

/-- A call of a setter, with its arguments but the builder. -/
inductive Setter where
  | clientVerifier (verifier : Ptr)
  | clientVerifierOptional (verifier : Ptr)
  | ignoreClientOrder (ignore : Bool)
  | alpnProtocols (protocols : Option (List RustlsSliceBytes)) (len : Nat)
  | certifiedKeys (keys : Option (List Ptr)) (len : Nat)
  | helloCallback (callback : Option FnPtr)
  | persistence (getCb putCb : Option FnPtr)
  deriving DecidableEq, Repr

namespace Setter

def call (b : Addr) : Setter → Call S
  | .clientVerifier verifier => .serverConfigBuilderSetClientVerifier (some b) verifier
  | .clientVerifierOptional verifier => .serverConfigBuilderSetClientVerifierOptional (some b) verifier
  | .ignoreClientOrder ignore => .serverConfigBuilderSetIgnoreClientOrder (some b) ignore
  | .alpnProtocols protocols len => .serverConfigBuilderSetAlpnProtocols (some b) protocols len
  | .certifiedKeys keys len => .serverConfigBuilderSetCertifiedKeys (some b) keys len
  | .helloCallback callback => .serverConfigBuilderSetHelloCallback (some b) callback
  | .persistence getCb putCb => .serverConfigBuilderSetPersistence (some b) getCb putCb

def slot : Setter → Slot
  | .clientVerifier _ | .clientVerifierOptional _ => .verifier
  | .ignoreClientOrder _ => .order
  | .alpnProtocols _ _ => .alpn
  | .certifiedKeys _ _ | .helloCallback _ => .resolver
  | .persistence _ _ => .storage

/-! ### What a call supplies -/

def verifier? : Setter → Option ClientCertVerifier
  | .clientVerifier verifier => verifier.map .allowAnyAuthenticatedClient
  | .clientVerifierOptional verifier => verifier.map .allowAnyAnonymousOrAuthenticatedClient
  | _ => none

/-- The keys of the array, in its order. -/
def resolver? : Setter → Option ServerCertResolver
  | .certifiedKeys keys len =>
    keys.map fun l => .resolvesServerCertFromChoices (l.take len).reduceOption
  | .helloCallback callback => callback.map .clientHelloResolver
  | _ => none

/-- The byte strings of the array, in its order. -/
def alpn? : Setter → Option (List Bytes)
  | .alpnProtocols protocols len => protocols.map fun l => (l.take len).map RustlsSliceBytes.bytes
  | _ => none

def order? : Setter → Option Bool
  | .ignoreClientOrder ignore => some ignore
  | _ => none

def storage? : Setter → Option SessionStoreBroker
  | .persistence (some getCb) (some putCb) => some ⟨getCb, putCb⟩
  | _ => none

def Supplies (s : Setter) : Prop :=
  match s.slot with
  | .verifier => s.verifier? ≠ none
  | .resolver => s.resolver? ≠ none
  | .alpn => s.alpn? ≠ none
  | .order => s.order? ≠ none
  | .storage => s.storage? ≠ none

/-- A builder with what the call supplies in its slot. -/
def install (s : Setter) (builder : ServerConfigBuilder) : ServerConfigBuilder where
  base := builder.base
  verifier := s.verifier?.getD builder.verifier
  certResolver := s.resolver?.or builder.certResolver
  sessionStorage := s.storage?.or builder.sessionStorage
  alpnProtocols := s.alpn?.getD builder.alpnProtocols
  ignoreClientOrder := s.order?.or builder.ignoreClientOrder

/-! ### When a call succeeds -/

def accepts (h : Heap) : Setter → Bool
  | .clientVerifier verifier => pointsTo h ArcValue.clientCertVerifier? verifier
  | .clientVerifierOptional verifier => pointsTo h ArcValue.clientCertVerifierOptional? verifier
  | .ignoreClientOrder _ => true
  | .alpnProtocols protocols len => goodProtocols protocols len
  | .certifiedKeys keys len => goodKeys h keys len
  | .helloCallback callback => callback.isSome
  | .persistence getCb putCb => getCb.isSome && putCb.isSome

theorem accepts_supplies {h : Heap} {s : Setter} (accepted : s.accepts h = true) : s.Supplies := by
  cases s with
  | clientVerifier verifier => cases verifier <;> simp_all [accepts, pointsTo, Supplies, slot, verifier?]
  | clientVerifierOptional verifier => cases verifier <;> simp_all [accepts, pointsTo, Supplies, slot, verifier?]
  | ignoreClientOrder ignore => simp [Supplies, slot, order?]
  | alpnProtocols protocols len => cases protocols <;> simp_all [accepts, goodProtocols, Supplies, slot, alpn?]
  | certifiedKeys keys len => cases keys <;> simp_all [accepts, goodKeys, Supplies, slot, resolver?]
  | helloCallback callback => cases callback <;> simp_all [accepts, Supplies, slot, resolver?]
  | persistence getCb putCb => cases getCb <;> cases putCb <;> simp_all [accepts, Supplies, slot, storage?]

theorem slot_of_resolver {s : Setter} {r : ServerCertResolver} (supplied : s.resolver? = some r) :
    s.slot = .resolver := by
  cases s <;> first | rfl | cases supplied

end Setter

/-- `b` is a builder that a constructor has just returned. -/
inductive Created (R : Rustls Conn S) (b : Addr) (w : World Conn S) : Prop where
  | new (w₀ : World Conn S) (made : rustlsServerConfigBuilderNew R w₀ = (.returned (some b), w))
  | newCustom (w₀ : World Conn S) (cipherSuites : Option (List (Option SupportedCipherSuite)))
      (cipherSuitesLen : Nat) (tlsVersions : Option (List UInt16)) (tlsVersionsLen : Nat) (l : Addr)
      (made : rustlsServerConfigBuilderNewCustom R cipherSuites cipherSuitesLen tlsVersions tlsVersionsLen
        (some l) w₀ = (.returned .ok, w))
      (stored : w.cells.ptr l = some b)

/-! ### What is behind the pointers -/

def slotOf : ArcValue → Option Slot
  | .certifiedKey _ => some .resolver
  | .clientCertVerifier _ | .clientCertVerifierOptional _ => some .verifier
  | _ => none

def OfSlot (h : Heap) (slot : Slot) (a : Addr) : Prop := ∃ v, valueAt h a = some v ∧ slotOf v = some slot

theorem refs_of_slotOf {v : ArcValue} {slot : Slot} (known : slotOf v = some slot) : v.refs = [] := by
  cases v <;> first | rfl | cases known

/-- Only values for `slot` have been touched. -/
def Touches (slot : Slot) (w w' : World Conn S) : Prop :=
  w'.serverBuilders = w.serverBuilders ∧ Spares (fun v => slotOf v ≠ some slot) w.arcs w'.arcs

section
variable {w w' w'' : World Conn S} {slot : Slot} {a : Addr}

theorem OfSlot.values {h h' : Heap} (known : OfSlot h slot a) (same : ∀ a, valueAt h' a = valueAt h a) :
    OfSlot h' slot a := by
  obtain ⟨v, value, known⟩ := known
  exact ⟨v, (same a).trans value, known⟩

theorem OfSlot.outside {h : Heap} (known : OfSlot h slot a) :
    ∀ v, valueAt h a = some v → ¬ slotOf v ≠ some slot := by
  intro v value other
  obtain ⟨u, value', known⟩ := known
  obtain rfl := Option.some.inj (value.symm.trans value')
  exact other known

theorem Touches.refl (slot : Slot) (w : World Conn S) : Touches slot w w := ⟨rfl, .refl _ _⟩

theorem Touches.trans (first : Touches slot w w') (second : Touches slot w' w'') : Touches slot w w'' :=
  ⟨second.1.trans first.1, first.2.trans second.2⟩

theorem touches_retain (known : OfSlot w.arcs slot a) : Touches slot w (w.retain a) :=
  ⟨rfl, spares_retain known.outside⟩

theorem touches_dropArc (known : OfSlot w.arcs slot a) : Touches slot w (w.dropArc a) := by
  obtain ⟨v, value, known'⟩ := id known
  exact ⟨rfl, spares_release true known.outside ⟨v, value, refs_of_slotOf known'⟩⟩

theorem touches_foldl {f : World Conn S → Addr → World Conn S}
    (touches : ∀ w a, OfSlot w.arcs slot a → Touches slot w (f w a)) (l : List Addr)
    (known : ∀ a ∈ l, OfSlot w.arcs slot a) : Touches slot w (l.foldl f w) := by
  induction l generalizing w with
  | nil => exact .refl slot w
  | cons a l ih =>
    have first := touches w a (known a (by simp))
    exact first.trans (ih fun b member => (known b (by simp [member])).values first.2.values)

theorem touches_dropArcs (l : List Addr) (known : ∀ a ∈ l, OfSlot w.arcs slot a) :
    Touches slot w (w.dropArcs l) :=
  touches_foldl (fun _ _ => touches_dropArc) l known

theorem touches_exchange {old new : List Addr} (before : ∀ a ∈ old, OfSlot w.arcs slot a)
    (after : ∀ a ∈ new, OfSlot w.arcs slot a) : Touches slot w ((w.dropArcs old).dropArcs new) := by
  have dropped := touches_dropArcs old before
  exact dropped.trans (touches_dropArcs new fun a member => (after a member).values dropped.2.values)

theorem ofSlot_of_derefArc {τ : Type} {h : Heap} {as : ArcValue → Option τ}
    (recognises : ∀ v x, as v = some x → slotOf v = some slot) {x : τ} (found : derefArc h as a = some x) :
    OfSlot h slot a := by
  obtain ⟨c, cell, -, value⟩ := derefArc_eq_some.mp found
  exact ⟨c.value, by simp [valueAt, cell], recognises _ _ value⟩

theorem slotOf_certifiedKey (v : ArcValue) (x : CertifiedKey) (key : v.certifiedKey? = some x) :
    slotOf v = some .resolver := by
  cases v <;> first | rfl | cases key

theorem slotOf_clientCertVerifier (v : ArcValue) (x : RootCertStore) (verifier : v.clientCertVerifier? = some x) :
    slotOf v = some .verifier := by
  cases v <;> first | rfl | cases verifier

theorem slotOf_clientCertVerifierOptional (v : ArcValue) (x : RootCertStore)
    (verifier : v.clientCertVerifierOptional? = some x) : slotOf v = some .verifier := by
  cases v <;> first | rfl | cases verifier

theorem pointsTo_spares {τ : Type} {h h' : Heap} {as : ArcValue → Option τ} {P : ArcValue → Prop}
    (spares : Spares P h h') (inside : ∀ v x, as v = some x → P v) (p : Ptr) :
    pointsTo h' as p = pointsTo h as p := by
  cases p with
  | none => rfl
  | some a =>
    have value := spares.values a
    have same : derefArc h' as a = derefArc h as a := by
      cases cell : h[a]? with
      | none =>
        have gone : h'[a]? = none := by simpa [valueAt, cell] using value
        simp [derefArc, cell, gone]
      | some c =>
        cases known : as c.value with
        | some x => simp [derefArc, cell, spares.cells a c cell (inside c.value x known)]
        | none =>
          obtain ⟨c', cell', same⟩ : ∃ c', h'[a]? = some c' ∧ c'.value = c.value := by
            simpa [valueAt, cell] using value
          simp [derefArc, cell, cell', same, known]
    simp [pointsTo, same]

/-! ### The loops -/

theorem collectKeys_wp (l : List Ptr) (keys : List Addr) (known : ∀ a ∈ keys, OfSlot w.arcs .resolver a) :
    wp (collectKeys l keys)
      { next := fun r w' => Touches .resolver w w' ∧
          l.all (pointsTo w.arcs ArcValue.certifiedKey?) = true ∧ r = keys ++ l.reduceOption ∧
          ∀ a ∈ r, OfSlot w'.arcs .resolver a
        ret := fun _ _ => False
        rejected := fun _ w' => Touches .resolver w w' ∧
          l.all (pointsTo w.arcs ArcValue.certifiedKey?) = false
        panic := fun _ => False
        fault := fun _ w' => Touches .resolver w w' ∧
          l.all (pointsTo w.arcs ArcValue.certifiedKey?) = false } w := by
  induction l generalizing keys w with
  | nil => exact ⟨.refl _ _, rfl, by simp, known⟩
  | cons p rest ih =>
    simp only [collectKeys, wp_bind, wp_inScope, wp_tryArcFromPtr, Post.onNext, Post.dropping]
    refine ⟨fun null => ⟨?_, ?_⟩, fun a given => ⟨fun key found => ?_, fun dangling => ⟨.refl _ _, ?_⟩⟩⟩
    · exact touches_dropArcs keys known
    · simp [null, pointsTo]
    · have known' : OfSlot w.arcs .resolver a := ofSlot_of_derefArc slotOf_certifiedKey found
      have touched : Touches .resolver w (w.retain a) := touches_retain known'
      have good : pointsTo w.arcs ArcValue.certifiedKey? p = true := by simp [pointsTo, given, found]
      have same : pointsTo (w.retain a).arcs ArcValue.certifiedKey? =
          pointsTo w.arcs ArcValue.certifiedKey? := by
        funext p
        cases p with
        | none => rfl
        | some b => simp [pointsTo, World.retain, derefArc_retain _ (strong_of_derefArc found)]
      have kept : ∀ k ∈ keys ++ [a], OfSlot (w.retain a).arcs .resolver k := by
        intro k member
        rcases List.mem_append.mp member with old | new
        · exact (known k old).values touched.2.values
        · exact List.mem_singleton.mp new ▸ known'.values touched.2.values
      have rest := ih (keys ++ [a]) kept
      rw [same] at rest
      refine wp_mono rest ?_ (fun _ _ h => h) ?_ (fun _ h => h) ?_
      · rintro r w' ⟨touches, all, rfl, known⟩
        refine ⟨touched.trans touches, ?_, ?_, known⟩
        · simp [good, all]
        · simp [given]
      · rintro r w' ⟨touches, all⟩
        exact ⟨touched.trans touches, by simp [good, all]⟩
      · rintro e w' ⟨touches, all⟩
        exact ⟨touched.trans touches, by simp [good, all]⟩
    · simp [given, pointsTo, dangling]

end

/-! ### One setter -/

/-- What the slots of a builder refer to is of the right type. -/
structure Typed (h : Heap) (builder : ServerConfigBuilder) : Prop where
  verifier : ∀ a ∈ builder.verifier.refs, OfSlot h .verifier a
  resolver : ∀ a ∈ resolverRefs builder.certResolver, OfSlot h .resolver a

/-- A setter that accepts its arguments succeeds and fills its slot; any other has no effect on the
builder. Either way only values for the slot are touched. -/
structure Effect (s : Setter) (b : Addr) (builder : ServerConfigBuilder) (w w' : World Conn S) (succeeded : Prop) :
    Prop where
  succeeded : succeeded ↔ s.accepts w.arcs = true
  builder : Arena.get w'.serverBuilders b = some (if s.accepts w.arcs then s.install builder else builder)
  spares : Spares (fun v => slotOf v ≠ some s.slot) w.arcs w'.arcs

section
variable {s : Setter} {b : Addr} {builder : ServerConfigBuilder} {w w' : World Conn S} {succeeded : Prop}

theorem Effect.refused (live : Arena.get w.serverBuilders b = some builder) (refuses : s.accepts w.arcs = false)
    (failed : ¬ succeeded) (touches : Touches s.slot w w') : Effect s b builder w w' succeeded where
  succeeded := by simp [failed, refuses]
  builder := by rw [touches.1, live, refuses, if_neg Bool.false_ne_true]
  spares := touches.2

theorem Effect.accepted {mid : World Conn S} (live : Arena.get w.serverBuilders b = some builder)
    (accepts : s.accepts w.arcs = true) (done : succeeded) (before : Touches s.slot w mid)
    (after : Touches s.slot (mid.putServerBuilder b (s.install builder)) w') :
    Effect s b builder w w' succeeded where
  succeeded := by simp [done, accepts]
  builder := by
    rw [after.1, accepts, if_pos rfl]
    refine Arena.get_put_same _ (v := builder) ?_
    rw [before.1, live]
  spares := before.2.trans after.2

theorem setClientVerifier_effect {as : ArcValue → Option RootCertStore} (slot : Addr → ClientCertVerifier)
    {verifier : Ptr} (recognises : ∀ v x, as v = some x → slotOf v = some .verifier)
    (live : Arena.get w.serverBuilders b = some builder) (typed : Typed w.arcs builder)
    (isVerifier : s.slot = .verifier) (accepts : s.accepts w.arcs = pointsTo w.arcs as verifier)
    (install : ∀ a, verifier = some a → s.install builder = { builder with verifier := slot a }) :
    Ends (setClientVerifier as slot (some b) verifier w)
      fun o w' => Effect s b builder w w' (o = .returned ()) := by
  cases verifier with
  | none =>
    have run : setClientVerifier as slot (some b) none w = (.rejected (), w) := by
      simp [setClientVerifier, ffiPanicBoundary, bind_run, tryFromPtr_live live, tryArcFromPtr, rejectNull]
    rw [run]
    exact .refused live accepts (by simp) (.refl _ _)
  | some a =>
    cases found : derefArc w.arcs as a with
    | none =>
      have run : setClientVerifier as slot (some b) (some a) w = (.fault .dangling, w) := by
        simp [setClientVerifier, ffiPanicBoundary, bind_run, tryFromPtr_live live, tryArcFromPtr_dead found]
      rw [run]
      exact .refused live (by simp [accepts, pointsTo, found]) (by simp) (.refl _ _)
    | some roots =>
      have run : setClientVerifier as slot (some b) (some a) w = (.returned (),
          ((w.retain a).putServerBuilder b (s.install builder)).dropArcs builder.verifier.refs) := by
        simp [setClientVerifier, ffiPanicBoundary, bind_run, tryFromPtr_live live, tryArcFromPtr_live found,
          install a rfl]
      have retained : Touches .verifier w (w.retain a) := touches_retain (ofSlot_of_derefArc recognises found)
      rw [run]
      refine .accepted live (by simp [accepts, pointsTo, found]) rfl (isVerifier ▸ retained) (isVerifier ▸ ?_)
      exact touches_dropArcs _ fun r member => (typed.verifier r member).values retained.2.values

theorem setIgnoreClientOrder_effect (live : Arena.get w.serverBuilders b = some builder) (ignore : Bool) :
    Ends (rustlsServerConfigBuilderSetIgnoreClientOrder (some b) ignore w)
      fun o w' => Effect (.ignoreClientOrder ignore) b builder w w' (o = .returned .ok) := by
  have run : rustlsServerConfigBuilderSetIgnoreClientOrder (some b) ignore w = (.returned .ok,
      w.putServerBuilder b ((Setter.ignoreClientOrder ignore).install builder)) := by
    simp [rustlsServerConfigBuilderSetIgnoreClientOrder, ffiPanicBoundary, bind_run, tryFromPtr_live live]
    rfl
  rw [run]
  exact .accepted live rfl rfl (.refl _ _) (.refl _ _)

theorem setPersistence_effect (live : Arena.get w.serverBuilders b = some builder) (getCb putCb : Option FnPtr) :
    Ends (rustlsServerConfigBuilderSetPersistence (some b) getCb putCb w)
      fun o w' => Effect (.persistence getCb putCb) b builder w w' (o = .returned .ok) := by
  cases getCb with
  | none => exact .refused live rfl (fun returned => nomatch returned) (.refl _ _)
  | some getCb =>
    cases putCb with
    | none => exact .refused live rfl (fun returned => nomatch returned) (.refl _ _)
    | some putCb =>
      have run : rustlsServerConfigBuilderSetPersistence (some b) (some getCb) (some putCb) w = (.returned .ok,
          w.putServerBuilder b ((Setter.persistence (some getCb) (some putCb)).install builder)) := by
        simp [rustlsServerConfigBuilderSetPersistence, ffiPanicBoundary, bind_run, tryFromPtr_live live, tryRef]
        rfl
      rw [run]
      exact .accepted live rfl rfl (.refl _ _) (.refl _ _)

theorem setHelloCallback_effect (live : Arena.get w.serverBuilders b = some builder) (typed : Typed w.arcs builder)
    (callback : Option FnPtr) :
    Ends (rustlsServerConfigBuilderSetHelloCallback (some b) callback w)
      fun o w' => Effect (.helloCallback callback) b builder w w' (o = .returned .ok) := by
  cases callback with
  | none => exact .refused live rfl (fun returned => nomatch returned) (.refl _ _)
  | some f =>
    have run : rustlsServerConfigBuilderSetHelloCallback (some b) (some f) w = (.returned .ok,
        (w.putServerBuilder b ((Setter.helloCallback (some f)).install builder)).dropArcs
          (resolverRefs builder.certResolver)) := by
      simp [rustlsServerConfigBuilderSetHelloCallback, ffiPanicBoundary, bind_run, tryFromPtr_live live, tryRef]
      rfl
    rw [run]
    exact .accepted live rfl rfl (.refl _ _) (touches_dropArcs _ typed.resolver)

theorem setAlpnProtocols_effect (live : Arena.get w.serverBuilders b = some builder)
    (protocols : Option (List RustlsSliceBytes)) (len : Nat) :
    Ends (rustlsServerConfigBuilderSetAlpnProtocols (some b) protocols len w)
      fun o w' => Effect (.alpnProtocols protocols len) b builder w w' (o = .returned .ok) := by
  refine ends_mono (setAlpnProtocols_puts live protocols len) fun o w' puts => ?_
  rcases puts with ⟨good, done, l, rfl, rfl⟩ | ⟨bad, failed, rfl⟩
  · exact .accepted live good done (.refl _ _) (.refl _ _)
  · exact .refused live bad failed (.refl _ _)

theorem setCertifiedKeys_effect (live : Arena.get w.serverBuilders b = some builder) (typed : Typed w.arcs builder)
    (keys : Option (List Ptr)) (len : Nat) :
    Ends (rustlsServerConfigBuilderSetCertifiedKeys (some b) keys len w)
      fun o w' => Effect (.certifiedKeys keys len) b builder w w' (o = .returned .ok) := by
  simp only [rustlsServerConfigBuilderSetCertifiedKeys, ends_boundary, wp_bind, wp_tryFromPtr_live live, wp_trySlice,
    wp_modify, wp_pure, Post.onNext, Post.boundary]
  refine ⟨?_, fun l given => ⟨fun room => ?_, fun past => ?_⟩⟩
  · rintro rfl
    exact .refused live rfl (by simp) (.refl _ _)
  · subst given
    refine wp_mono (collectKeys_wp _ [] (by simp)) ?_ (fun _ _ never => never.elim) ?_ (fun _ never => never.elim) ?_
    · rintro keys w' ⟨touches, all, collected, known⟩
      have installed : (Setter.certifiedKeys (some l) len).install builder =
          { builder with certResolver := some (.resolvesServerCertFromChoices keys) } := by
        rw [collected]
        rfl
      have cloned := touches_foldl (f := fun w key => w.retain key) (fun _ _ => touches_retain) keys known
      dsimp only
      rw [← installed]
      refine .accepted live (by simp [Setter.accepts, goodKeys, room, all]) trivial (touches.trans cloned)
        (touches_exchange ?_ ?_)
      · exact fun r member => (typed.resolver r member).values (touches.trans cloned).2.values
      · exact fun key member => (known key member).values cloned.2.values
    · rintro r w' ⟨touches, all⟩
      exact .refused live (by simp [Setter.accepts, goodKeys, all]) (by simp) touches
    · rintro e w' ⟨touches, all⟩
      exact .refused live (by simp [Setter.accepts, goodKeys, all]) (by simp) touches
  · subst given
    exact .refused live (by simp [Setter.accepts, goodKeys, Nat.not_le.mpr past]) (by simp) (.refl _ _)

theorem Effect.congr {succeeded' : Prop} (effect : Effect s b builder w w' succeeded)
    (same : succeeded' ↔ succeeded) : Effect s b builder w w' succeeded' :=
  ⟨same.trans effect.succeeded, effect.builder, effect.spares⟩

theorem exec_effect (R : Rustls Conn S) (live : Arena.get w.serverBuilders b = some builder)
    (typed : Typed w.arcs builder) (s : Setter) :
    Effect s b builder w (exec R (s.call b) w).2 (Succeeded (exec R (s.call b) w).1) := by
  cases s with
  | clientVerifier verifier =>
    have effect := setClientVerifier_effect (s := .clientVerifier verifier) .allowAnyAuthenticatedClient
      slotOf_clientCertVerifier live typed rfl rfl (by rintro a rfl; rfl)
    exact effect.congr (succeeded_unit _)
  | clientVerifierOptional verifier =>
    have effect := setClientVerifier_effect (s := .clientVerifierOptional verifier)
      .allowAnyAnonymousOrAuthenticatedClient slotOf_clientCertVerifierOptional live typed rfl rfl
      (by rintro a rfl; rfl)
    exact effect.congr (succeeded_unit _)
  | ignoreClientOrder ignore => exact (setIgnoreClientOrder_effect live ignore).congr (succeeded_result _)
  | alpnProtocols protocols len => exact (setAlpnProtocols_effect live protocols len).congr (succeeded_result _)
  | certifiedKeys keys len => exact (setCertifiedKeys_effect live typed keys len).congr (succeeded_result _)
  | helloCallback callback => exact (setHelloCallback_effect live typed callback).congr (succeeded_result _)
  | persistence getCb putCb => exact (setPersistence_effect live getCb putCb).congr (succeeded_result _)

theorem accepts_spares {h h' : Heap} {P : ArcValue → Prop} (spares : Spares P h h')
    (inside : ∀ v, slotOf v = some s.slot → P v) : s.accepts h' = s.accepts h := by
  cases s with
  | clientVerifier verifier =>
    exact pointsTo_spares spares (fun v x known => inside v (slotOf_clientCertVerifier v x known)) verifier
  | clientVerifierOptional verifier =>
    exact pointsTo_spares spares (fun v x known => inside v (slotOf_clientCertVerifierOptional v x known)) verifier
  | certifiedKeys keys len =>
    have same : pointsTo h' ArcValue.certifiedKey? = pointsTo h ArcValue.certifiedKey? :=
      funext (pointsTo_spares spares fun v x known => inside v (slotOf_certifiedKey v x known))
    simp only [Setter.accepts, goodKeys, same]
  | _ => rfl

theorem ofSlot_of_pointsTo {τ : Type} {h : Heap} {as : ArcValue → Option τ} {slot : Slot}
    (recognises : ∀ v x, as v = some x → slotOf v = some slot) {a : Addr}
    (good : pointsTo h as (some a) = true) : OfSlot h slot a := by
  obtain ⟨x, found⟩ := Option.isSome_iff_exists.mp good
  exact ofSlot_of_derefArc recognises found

theorem Typed.mono {h h' : Heap} (typed : Typed h builder)
    (values : ∀ a v, valueAt h a = some v → valueAt h' a = some v) : Typed h' builder := by
  refine ⟨fun a member => ?_, fun a member => ?_⟩
  · obtain ⟨v, value, known⟩ := typed.verifier a member
    exact ⟨v, values a v value, known⟩
  · obtain ⟨v, value, known⟩ := typed.resolver a member
    exact ⟨v, values a v value, known⟩

theorem Typed.install {h : Heap} (typed : Typed h builder) (accepts : s.accepts h = true) :
    Typed h (s.install builder) := by
  cases s with
  | clientVerifier verifier =>
    cases verifier with
    | none => cases accepts
    | some a =>
      refine ⟨fun r member => ?_, typed.resolver⟩
      obtain rfl := List.mem_singleton.mp member
      exact ofSlot_of_pointsTo slotOf_clientCertVerifier accepts
  | clientVerifierOptional verifier =>
    cases verifier with
    | none => cases accepts
    | some a =>
      refine ⟨fun r member => ?_, typed.resolver⟩
      obtain rfl := List.mem_singleton.mp member
      exact ofSlot_of_pointsTo slotOf_clientCertVerifierOptional accepts
  | certifiedKeys keys len =>
    cases keys with
    | none => cases accepts
    | some l =>
      refine ⟨typed.verifier, fun r member => ?_⟩
      have all := (goodKeys_iff.mp accepts).2
      exact ofSlot_of_pointsTo slotOf_certifiedKey (all _ (List.reduceOption_mem_iff.mp member))
  | helloCallback callback =>
    cases callback with
    | none => cases accepts
    | some f => exact ⟨typed.verifier, fun r member => nomatch member⟩
  | persistence getCb putCb => exact ⟨typed.verifier, typed.resolver⟩
  | ignoreClientOrder ignore => exact ⟨typed.verifier, typed.resolver⟩
  | alpnProtocols protocols len => exact ⟨typed.verifier, typed.resolver⟩

theorem Effect.typed (effect : Effect s b builder w w' succeeded) (typed : Typed w.arcs builder) :
    Typed w'.arcs (if s.accepts w.arcs then s.install builder else builder) := by
  have values : ∀ a v, valueAt w.arcs a = some v → valueAt w'.arcs a = some v :=
    fun a v value => (effect.spares.values a).trans value
  split
  next accepts => exact (typed.install accepts).mono values
  · exact typed.mono values

theorem install_comm {t : Setter} (apart : s.slot ≠ t.slot) (builder : ServerConfigBuilder) :
    t.install (s.install builder) = s.install (t.install builder) := by
  cases s <;> cases t <;> first | rfl | exact absurd rfl apart

/-- A setter finds for its slot what it would find without a setter of another slot before it. -/
theorem exec_apart (R : Rustls Conn S) (live : Arena.get w.serverBuilders b = some builder)
    (typed : Typed w.arcs builder) {t : Setter} (apart : s.slot ≠ t.slot) :
    Effect t b (if s.accepts w.arcs then s.install builder else builder) (exec R (s.call b) w).2
      (exec R (t.call b) (exec R (s.call b) w).2).2
      (Succeeded (exec R (t.call b) (exec R (s.call b) w).2).1) ∧
    t.accepts (exec R (s.call b) w).2.arcs = t.accepts w.arcs := by
  have effect := exec_effect R live typed s
  refine ⟨exec_effect R effect.builder (effect.typed typed) t, accepts_spares effect.spares ?_⟩
  intro v known same
  exact apart (Option.some.inj (same.symm.trans known))

theorem exec_comm (R : Rustls Conn S) (live : Arena.get w.serverBuilders b = some builder)
    (typed : Typed w.arcs builder) {t : Setter} (apart : s.slot ≠ t.slot) :
    (Succeeded (exec R (t.call b) (exec R (s.call b) w).2).1 ↔ Succeeded (exec R (t.call b) w).1) ∧
      Arena.get (exec R (t.call b) (exec R (s.call b) w).2).2.serverBuilders b =
        Arena.get (exec R (s.call b) (exec R (t.call b) w).2).2.serverBuilders b := by
  obtain ⟨second, sameSecond⟩ := exec_apart R live typed apart
  obtain ⟨first, sameFirst⟩ := exec_apart R live typed apart.symm
  refine ⟨?_, ?_⟩
  · rw [second.succeeded, sameSecond, (exec_effect R live typed t).succeeded]
  · rw [second.builder, first.builder, sameSecond, sameFirst]
    split_ifs
    · rw [install_comm apart]
    all_goals rfl

end

/-! ### All setters -/

/-- The builder at `b`, with its setters. What else happens may not change it, nor what is behind any pointer. -/
def slots (R : Rustls Conn S) (b : Addr) : Slots (World Conn S) Setter ServerConfigBuilder where
  get w := Arena.get w.serverBuilders b
  run s w := (exec R (s.call b) w).2
  succeeds s w := decide (Succeeded (exec R (s.call b) w).1)
  accepts s w := s.accepts w.arcs
  install s _ := s.install
  Fine w builder := Typed w.arcs builder
  Elsewhere f := ∀ w, Arena.get (f w).serverBuilders b = Arena.get w.serverBuilders b ∧
    ∀ a v, valueAt w.arcs a = some v → valueAt (f w).arcs a = some v
  succeeds_eq live typed := by simp [(exec_effect R live typed _).succeeded]
  effect live typed := ⟨_, rfl, (exec_effect R live typed _).builder, (exec_effect R live typed _).typed typed⟩
  elsewhere := by
    intro f w builder kept live typed
    obtain ⟨same, values⟩ := kept w
    exact ⟨same.trans live, typed.mono values⟩

section
variable {b : Addr} {builder : ServerConfigBuilder} {w : World Conn S}

/-! ### From creation to the config -/

theorem Created.fresh {R : Rustls Conn S} (created : Created R b w) :
    ∃ base, Arena.get w.serverBuilders b = some (.new base) ∧ Typed w.arcs (.new base) := by
  have fresh : ∃ base, Arena.get w.serverBuilders b = some (.new base) := by
    cases created with
    | new w₀ made =>
      obtain ⟨rfl, rfl⟩ : w₀.serverBuilders.length = b ∧ _ = w := by
        simpa [rustlsServerConfigBuilderNew, ffiPanicBoundary, serverBuilderToMutPtr] using made
      exact ⟨R.safeDefaults, Arena.get_alloc_new _ _⟩
    | newCustom w₀ cipherSuites cipherSuitesLen tlsVersions tlsVersionsLen l made stored =>
      have ends : Ends (rustlsServerConfigBuilderNewCustom R cipherSuites cipherSuitesLen tlsVersions tlsVersionsLen (some l)
          w₀) _ := newCustom_builder World.serverBuilders ServerConfigBuilder.new (fun _ _ => rfl)
        (fun base w => ⟨_, _, rfl, Arena.get_alloc_new w.serverBuilders (.new base)⟩)
        cipherSuites cipherSuitesLen tlsVersions tlsVersionsLen l
      rw [made] at ends
      obtain ⟨b', base, stored', found⟩ := ends rfl
      obtain rfl := Option.some.inj (stored'.symm.trans stored)
      exact ⟨base, found⟩
  obtain ⟨base, found⟩ := fresh
  exact ⟨base, found, List.forall_mem_nil _, List.forall_mem_nil _⟩

theorem build_none (R : Rustls Conn S) (live : Arena.get w.serverBuilders b = some builder)
    (unset : builder.certResolver = none) :
    (rustlsServerConfigBuilderBuild R (some b) w).1 = .returned none := by
  simp [rustlsServerConfigBuilderBuild, ffiPanicBoundary, bind_run, tryFromPtr_live live, unset]

theorem build_some (R : Rustls Conn S) (live : Arena.get w.serverBuilders b = some builder)
    {r : ServerCertResolver} (set : builder.certResolver = some r) :
    ∃ a, (rustlsServerConfigBuilderBuild R (some b) w).1 = .returned (some a) ∧
      derefArc (rustlsServerConfigBuilderBuild R (some b) w).2.arcs ArcValue.serverConfig? a =
        some (builder.toConfig R r) := by
  refine ⟨w.arcs.length, ?_, ?_⟩ <;>
    simp [rustlsServerConfigBuilderBuild, ffiPanicBoundary, bind_run, tryFromPtr_live live, set, toConstPtr,
      derefArc_alloc_new, ArcValue.serverConfig?]

theorem latest_resolver_none {done : List (Slots.Moment (World Conn S) Setter)} (supplied : ∀ m ∈ done, m.call.Supplies) :
    latest (·.call.resolver?) done = none ↔ ∀ m ∈ done, m.call.slot ≠ .resolver := by
  rw [Slots.latest_eq_none]
  refine forall₂_congr fun m member => ⟨fun none set => ?_, fun unset => ?_⟩
  · have supplies := supplied m member
    rw [Setter.Supplies, set] at supplies
    exact supplies none
  · cases given : m.call.resolver? with
    | none => rfl
    | some r => exact absurd (Setter.slot_of_resolver given) unset

end

/-- After any sequence of setter calls, a build turns what the last successful call for each slot
supplied into a config, with the constructor's default for a slot without one, and gives NULL exactly
if there was none for the resolver. A call succeeds exactly if it accepts its arguments: pointers to objects of
its type, callbacks that are not NULL, arrays of which every element can be used. Keys and protocols are then those
of the arrays, in their order. A call that does not succeed leaves the builder as it is, and calls for different slots
commute. -/
theorem server_builder_configures (R : Rustls Conn S) {b : Addr} {w : World Conn S} (created : Created R b w)
    (steps : List (Step (World Conn S) Setter)) (valid : ∀ step ∈ steps, (slots R b).Valid step) :
    let reached := ((slots R b).play w steps).1
    let done := ((slots R b).play w steps).2
    let built := rustlsServerConfigBuilderBuild R (some b) reached
    (built.1 = .returned none ↔ ∀ m ∈ done, m.call.slot ≠ .resolver) ∧
    (built.1 ≠ .returned none → ∃ a config, built.1 = .returned (some a) ∧
      derefArc built.2.arcs ArcValue.serverConfig? a = some config ∧
      config.verifier = (latest (·.call.verifier?) done).getD .noClientAuth ∧
      some config.certResolver = latest (·.call.resolver?) done ∧
      config.alpnProtocols = (latest (·.call.alpn?) done).getD [] ∧
      config.ignoreClientOrder = (latest (·.call.order?) done).getD R.ignoreClientOrder ∧
      config.sessionStorage = (latest (·.call.storage?) done).elim .builtin .broker) ∧
    (∀ m ∈ done, m.call.accepts m.before.arcs = true ∧ m.call.Supplies) ∧
    (∀ m ∈ done, ∀ l len, m.call = .certifiedKeys (some l) len →
      len ≤ l.length ∧ (l.take len).reduceOption.map some = l.take len) ∧
    (∀ m ∈ done, ∀ l len, m.call = .alpnProtocols (some l) len →
      len ≤ l.length ∧ ∀ p ∈ l.take len, ∃ d, p.data = some d ∧ p.len ≤ d.length ∧ p.bytes = d.take p.len) ∧
    (∀ s : Setter, Succeeded (exec R (s.call b) reached).1 ↔ s.accepts reached.arcs = true) ∧
    (∀ s : Setter, ¬ Succeeded (exec R (s.call b) reached).1 →
      Arena.get (exec R (s.call b) reached).2.serverBuilders b = Arena.get reached.serverBuilders b) ∧
    ∀ s t : Setter, s.slot ≠ t.slot →
      (Succeeded (exec R (t.call b) (exec R (s.call b) reached).2).1 ↔ Succeeded (exec R (t.call b) reached).1) ∧
      Arena.get (exec R (t.call b) (exec R (s.call b) reached).2).2.serverBuilders b =
        Arena.get (exec R (s.call b) (exec R (t.call b) reached).2).2.serverBuilders b := by
  intro reached done built
  obtain ⟨base, new, typed⟩ := created.fresh
  have tracks : (slots R b).Tracks (.new base) reached done := Slots.play_tracks steps valid new typed
  have accepted : ∀ m ∈ done, m.call.accepts m.before.arcs = true := tracks.accepted
  have supplied : ∀ m ∈ done, m.call.Supplies := fun m member => Setter.accepts_supplies (accepted m member)
  have live : Arena.get reached.serverBuilders b = some ((slots R b).configured (.new base) done) := tracks.live
  have typed : Typed reached.arcs ((slots R b).configured (.new base) done) := tracks.fine
  have resolver : ((slots R b).configured (.new base) done).certResolver = latest (·.call.resolver?) done :=
    (Slots.configured_or ServerConfigBuilder.certResolver (fun _ _ _ => rfl) done).trans (Option.or_none ..)
  refine ⟨?_, ?_, fun m member => ⟨accepted m member, supplied m member⟩, ?_, ?_,
    fun s => (exec_effect R live typed s).succeeded, ?_, fun s t apart => exec_comm R live typed apart⟩
  · rw [← latest_resolver_none supplied, ← resolver]
    cases set : ((slots R b).configured (.new base) done).certResolver with
    | none => simp [built, build_none R live set]
    | some r =>
      obtain ⟨a, returned, -⟩ := build_some R live set
      simp [built, returned]
  · intro nonNull
    cases set : ((slots R b).configured (.new base) done).certResolver with
    | none => exact absurd (build_none R live set) nonNull
    | some r =>
      obtain ⟨a, returned, found⟩ := build_some R live set
      have order : ((slots R b).configured (.new base) done).ignoreClientOrder = latest (·.call.order?) done :=
        (Slots.configured_or ServerConfigBuilder.ignoreClientOrder (fun _ _ _ => rfl) done).trans (Option.or_none ..)
      have storage : ((slots R b).configured (.new base) done).sessionStorage = latest (·.call.storage?) done :=
        (Slots.configured_or ServerConfigBuilder.sessionStorage (fun _ _ _ => rfl) done).trans (Option.or_none ..)
      refine ⟨a, _, returned, found, ?_, set.symm.trans resolver, ?_, ?_, ?_⟩
      · exact Slots.configured_getD ServerConfigBuilder.verifier (fun _ _ _ => rfl) done
      · exact Slots.configured_getD ServerConfigBuilder.alpnProtocols (fun _ _ _ => rfl) done
      · rw [← order]
        rfl
      · rw [← storage]
        rfl
  · intro m member l len call
    have good := accepted m member
    rw [call] at good
    exact goodKeys_all good
  · intro m member l len call
    have good := accepted m member
    rw [call] at good
    exact goodProtocols_all good
  · intro s failed
    have effect := exec_effect R live typed s
    have refuses : s.accepts reached.arcs = false := by simpa [effect.succeeded] using failed
    rw [effect.builder, refuses, if_neg Bool.false_ne_true, live]

/-- A certified key and a verifier of clients. -/
def keyAndVerifier : World Unit Unit := { (World.initial () : World Unit Unit) with
  arcs := [⟨1, .certifiedKey ⟨[], ⟨[]⟩, none⟩, 0⟩, ⟨1, .clientCertVerifier ⟨[[1]]⟩, 0⟩] }

def unconfigured : World Unit Unit := (rustlsServerConfigBuilderNew (Rustls.inert ()) keyAndVerifier).2

/-- An ALPN list, a verifier, keys with a NULL among them, and keys without. -/
def attempts : List (Step (World Unit Unit) Setter) :=
  [.set (.alpnProtocols (some [.ofSlice [104, 50]]) 1), .set (.clientVerifier (some 1)),
    .set (.certifiedKeys (some [some 0, none]) 2), .set (.certifiedKeys (some [some 0]) 1)]

/-- The second attempt with keys succeeds, and the config has all three. -/
theorem server_builder_configures_secondAttempt :
    ((slots (Rustls.inert ()) 0).play unconfigured attempts).2.length = 3 ∧
    ∃ a config,
      (rustlsServerConfigBuilderBuild (Rustls.inert ()) (some 0)
        ((slots (Rustls.inert ()) 0).play unconfigured attempts).1).1 = .returned (some a) ∧
      derefArc (rustlsServerConfigBuilderBuild (Rustls.inert ()) (some 0)
        ((slots (Rustls.inert ()) 0).play unconfigured attempts).1).2.arcs ArcValue.serverConfig? a = some config ∧
      config.verifier = .allowAnyAuthenticatedClient 1 ∧ config.certResolver = .resolvesServerCertFromChoices [0] ∧
      config.alpnProtocols = [[104, 50]] := by
  have created : Created (Rustls.inert ()) 0 unconfigured := .new keyAndVerifier rfl
  obtain ⟨-, builds, -⟩ :=
    server_builder_configures (Rustls.inert ()) created attempts (by simp [attempts, Slots.Valid])
  obtain ⟨a, config, returned, found, verifier, resolver, alpn, -⟩ := builds (by decide +kernel)
  refine ⟨by decide +kernel, a, config, returned, found, verifier.trans (by decide +kernel), ?_,
    alpn.trans (by decide +kernel)⟩
  exact Option.some.inj (resolver.trans (by decide +kernel))

end RustlsFfi.ServerBuilder
