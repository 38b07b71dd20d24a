import RustlsFfi.Config.Setters

/-!
# Configuring a client

Three setters of a client config builder install a verifier of servers, in one slot; three more have a slot
each. A setter fills its slot or leaves everything as it was, so a config trusts what the last successful
call said, and nobody if there was none.
-/

namespace RustlsFfi.ClientBuilder
open Control Counting Setters
open Slots (Step latest)

variable {Conn S : Type}

/-- A call of a setter, with its arguments but the builder. -/
inductive Setter where
  | certificateVerifier (callback : Option FnPtr)
  | useRoots (roots : Ptr)
  | loadRootsFromFile (filename : Option Bytes)
  | alpnProtocols (protocols : Option (List RustlsSliceBytes)) (len : Nat)
  | enableSni (enable : Bool)
  | certifiedKey (keys : Option (List Ptr)) (len : Nat)
  deriving DecidableEq, Repr

namespace Setter

def call (b : Addr) : Setter → Call S
  | .certificateVerifier callback => .clientConfigBuilderDangerousSetCertificateVerifier (some b) callback
  | .useRoots roots => .clientConfigBuilderUseRoots (some b) roots
  | .loadRootsFromFile filename => .clientConfigBuilderLoadRootsFromFile (some b) filename
  | .alpnProtocols protocols len => .clientConfigBuilderSetAlpnProtocols (some b) protocols len
  | .enableSni enable => .clientConfigBuilderSetEnableSni (some b) enable
  | .certifiedKey keys len => .clientConfigBuilderSetCertifiedKey (some b) keys len

/-! ### What a call supplies -/

/-- The certificates of a file, if it can be read and all of them parse. -/
def fileRoots (R : Rustls Conn S) (filename : Bytes) : Option RootCertStore :=
  ((utf8Decode filename).bind R.openFile).bind fun file =>
    match R.certs file with
    | .ok ders => if ders.all R.parsable then some ⟨ders⟩ else none
    | _ => none

theorem fileRoots_eq_some {R : Rustls Conn S} {filename : Bytes} {roots : RootCertStore}
    (read : fileRoots R filename = some roots) :
    ∃ name file, utf8Decode filename = some name ∧ R.openFile name = some file ∧ R.certs file = .ok roots.roots ∧
      ∀ der ∈ roots.roots, R.parsable der = true := by
  obtain ⟨file, opened, read⟩ := Option.bind_eq_some_iff.mp read
  obtain ⟨name, decoded, opened⟩ := Option.bind_eq_some_iff.mp opened
  refine ⟨name, file, decoded, opened, ?_⟩
  split at read
  next ders certs =>
    split at read
    next parsable =>
      obtain rfl := Option.some.inj read
      exact ⟨certs, List.all_eq_true.mp parsable⟩
    · cases read
  · cases read

def verifier? (R : Rustls Conn S) (w : World Conn S) : Setter → Option ServerCertVerifier
  | .certificateVerifier callback => callback.map .verifier
  | .useRoots roots => (roots.bind (Arena.get w.stores)).map .webPkiVerifier
  | .loadRootsFromFile filename => (filename.bind (fileRoots R)).map .webPkiVerifier
  | _ => none

/-- The byte strings of the array, in its order. -/
def alpn? : Setter → Option (List Bytes)
  | .alpnProtocols protocols len => protocols.map fun l => (l.take len).map RustlsSliceBytes.bytes
  | _ => none

def sni? : Setter → Option Bool
  | .enableSni enable => some enable
  | _ => none

/-- The keys of the array, in its order. -/
def resolver? : Setter → Option ClientCertResolver
  | .certifiedKey keys len => keys.map fun l => ⟨(l.take len).reduceOption⟩
  | _ => none

/-- A builder with what the call supplies in its slot. -/
def install (R : Rustls Conn S) (w : World Conn S) (s : Setter) (builder : ClientConfigBuilder) :
    ClientConfigBuilder where
  base := builder.base
  verifier := (s.verifier? R w).getD builder.verifier
  alpnProtocols := s.alpn?.getD builder.alpnProtocols
  enableSni := s.sni?.getD builder.enableSni
  certResolver := s.resolver?.or builder.certResolver

/-! ### When a call succeeds -/

def accepts (R : Rustls Conn S) (w : World Conn S) : Setter → Bool
  | .certificateVerifier callback => callback.isSome
  | .useRoots roots => (roots.bind (Arena.get w.stores)).isSome
  | .loadRootsFromFile filename => (filename.bind (fileRoots R)).isSome
  | .alpnProtocols protocols len => goodProtocols protocols len
  | .enableSni _ => true
  | .certifiedKey keys len => goodKeys w.arcs keys len

theorem accepts_fromFile {R : Rustls Conn S} {w : World Conn S} {filename : Option Bytes}
    (accepted : accepts R w (.loadRootsFromFile filename) = true) : ∃ bytes name file ders, filename = some bytes ∧
      utf8Decode bytes = some name ∧ R.openFile name = some file ∧ R.certs file = .ok ders ∧
      (∀ der ∈ ders, R.parsable der = true) ∧
        verifier? R w (.loadRootsFromFile filename) = some (.webPkiVerifier ⟨ders⟩) := by
  obtain ⟨roots, supplied⟩ := Option.isSome_iff_exists.mp accepted
  obtain ⟨bytes, given, read⟩ := Option.bind_eq_some_iff.mp supplied
  obtain ⟨name, file, decoded, opened, certs, parsable⟩ := fileRoots_eq_some read
  exact ⟨bytes, name, file, roots.roots, given, decoded, opened, certs, parsable, congrArg (Option.map _) supplied⟩

theorem accepts_fromStore {R : Rustls Conn S} {w : World Conn S} {roots : Ptr}
    (accepted : accepts R w (.useRoots roots) = true) :
    ∃ a store, roots = some a ∧ Arena.get w.stores a = some store ∧
      verifier? R w (.useRoots roots) = some (.webPkiVerifier store) := by
  obtain ⟨store, supplied⟩ := Option.isSome_iff_exists.mp accepted
  obtain ⟨a, given, found⟩ := Option.bind_eq_some_iff.mp supplied
  exact ⟨a, store, given, found, congrArg (Option.map _) supplied⟩

end Setter

/-! ### One setter -/

/-- A setter that accepts its arguments succeeds and fills its slot. Any other leaves the builder alone, and everything
else, too, unless its behaviour is undefined. -/
structure Effect (R : Rustls Conn S) (s : Setter) (b : Addr) (builder : ClientConfigBuilder) (w w' : World Conn S)
    (succeeded undefined : Prop) : Prop where
  unchanged : ¬ succeeded → ¬ undefined → w' = w
  succeeded : succeeded ↔ s.accepts R w = true
  builder : Arena.get w'.clientBuilders b = some (if s.accepts R w then s.install R w builder else builder)

section
variable {R : Rustls Conn S} {s : Setter} {b : Addr} {builder : ClientConfigBuilder} {w w' : World Conn S}
  {succeeded undefined : Prop}

theorem Effect.refused (live : Arena.get w.clientBuilders b = some builder) (refuses : s.accepts R w = false)
    (failed : ¬ succeeded) : Effect R s b builder w w succeeded undefined where
  succeeded := by simp [failed, refuses]
  builder := by rw [live, refuses, if_neg Bool.false_ne_true]
  unchanged _ _ := rfl

theorem Effect.put (live : Arena.get w.clientBuilders b = some builder) (accepts : s.accepts R w = true) (done : succeeded)
    {filled : ClientConfigBuilder} (installed : s.install R w builder = filled)
    (stored : w'.clientBuilders = Arena.put w.clientBuilders b filled) :
    Effect R s b builder w w' succeeded undefined where
  succeeded := by simp [done, accepts]
  builder := by rw [stored, accepts, if_pos rfl, installed, Arena.get_put_same _ live]
  unchanged failed := absurd done failed

theorem setCertificateVerifier_effect (live : Arena.get w.clientBuilders b = some builder) (callback : Option FnPtr) :
    Ends (rustlsClientConfigBuilderDangerousSetCertificateVerifier (some b) callback w) fun o w' =>
      Effect R (.certificateVerifier callback) b builder w w' (o = .returned .ok) (o.value? = none) := by
  simp only [rustlsClientConfigBuilderDangerousSetCertificateVerifier, ends_boundary, wp_bind, wp_tryFromPtr_live live,
    wp_nonNullOr, wp_modify, wp_pure, Post.onNext, Post.boundary]
  refine ⟨fun null => .refused live (by simp [Setter.accepts, null]) (by simp), fun f given => ?_⟩
  subst given
  exact .put live rfl trivial rfl rfl

theorem useRoots_effect (live : Arena.get w.clientBuilders b = some builder) (roots : Ptr) :
    Ends (rustlsClientConfigBuilderUseRoots (some b) roots w) fun o w' =>
      Effect R (.useRoots roots) b builder w w' (o = .returned .ok) (o.value? = none) := by
  simp only [rustlsClientConfigBuilderUseRoots, ends_boundary, wp_bind, wp_tryFromPtr_live live, wp_modify, wp_pure,
    Post.onNext, Post.boundary]
  rw [wp_tryFromPtr]
  refine ⟨fun null => .refused live (by simp [Setter.accepts, null]) (by simp), fun a given => ?_⟩
  subst given
  refine ⟨fun store found => ?_, fun gone => .refused live (by simp [Setter.accepts, gone]) (by simp)⟩
  refine .put live (by simp [Setter.accepts, found]) trivial ?_ rfl
  simp [Setter.install, Setter.verifier?, found, Setter.alpn?, Setter.sni?, Setter.resolver?]

theorem loadRootsFromFile_effect (live : Arena.get w.clientBuilders b = some builder) (filename : Option Bytes) :
    Ends (rustlsClientConfigBuilderLoadRootsFromFile R (some b) filename w) fun o w' =>
      Effect R (.loadRootsFromFile filename) b builder w w' (o = .returned .ok) (o.value? = none) := by
  simp only [rustlsClientConfigBuilderLoadRootsFromFile, ends_boundary, wp_bind, wp_tryFromPtr_live live, wp_tryRef,
    wp_someOr, wp_callPure, wp_okOr, Post.onNext, Post.boundary]
  constructor
  · intro null
    exact .refused live (by simp [Setter.accepts, null]) (by simp)
  intro bytes given
  subst given
  refine ⟨?_, fun garbled => .refused live (by simp [Setter.accepts, Setter.fileRoots, garbled]) (by simp)⟩
  intro name decoded
  refine ⟨?_, fun missing => .refused live (by simp [Setter.accepts, Setter.fileRoots, decoded, missing]) (by simp)⟩
  intro file opened
  refine ⟨?_, fun e damaged => ⟨by simp, fun _ _ => ?_⟩, fun panicked => ?_⟩
  · intro ders read
    refine ⟨?_, by simp⟩
    rintro ders' same
    obtain rfl := Except.ok.inj same
    have roots : Setter.fileRoots R bytes = if ders.all R.parsable then some ⟨ders⟩ else none := by
      simp only [Setter.fileRoots, decoded, Option.bind_some, opened, read]
    have accepts : Setter.accepts R w (.loadRootsFromFile (some bytes)) = ders.all R.parsable := by
      rw [Setter.accepts, Option.bind_some, roots]
      cases ders.all R.parsable <;> rfl
    refine wp_ite.mpr ⟨fun some => wp_ret.mpr (.refused live ?_ (by simp)), ?_⟩
    · rw [accepts]
      simpa [RootCertStore.addParsableCertificates, List.countP_pos_iff] using some
    intro none
    -- No certificate was rejected, so those that parse are all of them.
    have parsable : ∀ der ∈ ders, R.parsable der = true := by
      simpa [RootCertStore.addParsableCertificates, List.countP_pos_iff] using none
    rw [List.all_eq_true.mpr parsable] at accepts roots
    refine .put live accepts rfl ?_ rfl
    simp [Setter.install, Setter.verifier?, roots, Setter.alpn?, Setter.sni?, Setter.resolver?,
      RootCertStore.addParsableCertificates, RootCertStore.empty, List.filter_eq_self.mpr parsable]
  · exact .refused live (by simp [Setter.accepts, Setter.fileRoots, decoded, opened, damaged]) (by simp)
  · exact .refused live (by simp [Setter.accepts, Setter.fileRoots, decoded, opened, panicked]) (by decide)

theorem setAlpnProtocols_effect (live : Arena.get w.clientBuilders b = some builder)
    (protocols : Option (List RustlsSliceBytes)) (len : Nat) :
    Ends (rustlsClientConfigBuilderSetAlpnProtocols (some b) protocols len w) fun o w' =>
      Effect R (.alpnProtocols protocols len) b builder w w' (o = .returned .ok) (o.value? = none) := by
  refine ends_mono (setAlpnProtocols_puts live protocols len) fun o w' puts => ?_
  rcases puts with ⟨good, done, l, rfl, rfl⟩ | ⟨bad, failed, rfl⟩
  · exact .put live good done rfl rfl
  · exact .refused live bad failed

theorem setEnableSni_effect (live : Arena.get w.clientBuilders b = some builder) (enable : Bool) :
    Ends (rustlsClientConfigBuilderSetEnableSni (some b) enable w) fun o w' =>
      Effect R (.enableSni enable) b builder w w' (o = .returned ()) (o.value? = none) := by
  simp only [rustlsClientConfigBuilderSetEnableSni, ends_boundary, wp_bind, wp_tryFromPtr_live live, wp_modify,
    Post.onNext, Post.boundary]
  exact .put live rfl trivial rfl rfl

/-- The state with references to `keys` taken on top. -/
def retained (w : World Conn S) (keys : List Addr) : World Conn S :=
  { w with arcs := keys.foldl Counting.retain w.arcs }

theorem dropArcs_retained {keys : List Addr} (live : ∀ a ∈ keys, 0 < strong w.arcs a) :
    (retained w keys).dropArcs keys = w := by
  rw [dropArcs_eq]
  simp only [retained, release_all_retained ArcValue.refs true live]

theorem strong_of_retained {keys : List Addr} (live : ∀ a ∈ keys, 0 < strong w.arcs a) {a : Addr}
    (positive : 0 < strong (retained w keys).arcs a) : 0 < strong w.arcs a := by
  by_cases old : a ∈ keys
  · exact live a old
  · exact strong_foldl_retain_other old ▸ positive

theorem derefArc_retained {τ : Type} (as : ArcValue → Option τ) {keys : List Addr} (live : ∀ a ∈ keys, 0 < strong w.arcs a)
    (a : Addr) : derefArc (retained w keys).arcs as a = derefArc w.arcs as a := by
  unfold retained
  induction keys generalizing w with
  | nil => rfl
  | cons k rest ih =>
    obtain ⟨first, others⟩ := List.forall_mem_cons.mp live
    have later := ih (w := w.retain k) fun b member => strong_foldl_retain (others b member) [k]
    exact later.trans (derefArc_retain as first a)

/-- The loop takes a reference to each key, and gives all of them back at a NULL. -/
theorem collectKeys_exact (l : List Ptr) (keys : List Addr) (live : ∀ a ∈ keys, 0 < strong w.arcs a) :
    wp (collectKeys l keys)
      { next := fun r w' => r = keys ++ l.reduceOption ∧ l.all (pointsTo w.arcs ArcValue.certifiedKey?) = true ∧
          w'.clientBuilders = w.clientBuilders
        ret := fun _ _ => False
        rejected := fun _ w' => w' = w ∧ l.all (pointsTo w.arcs ArcValue.certifiedKey?) = false
        panic := fun _ => False
        fault := fun _ w' => w'.clientBuilders = w.clientBuilders ∧
          l.all (pointsTo w.arcs ArcValue.certifiedKey?) = false } (retained w keys) := by
  induction l generalizing keys with
  | nil => simp [collectKeys, retained]
  | cons p rest ih =>
    simp only [collectKeys, wp_bind, wp_inScope, wp_tryArcFromPtr, Post.onNext, Post.dropping]
    refine ⟨fun null => ⟨dropArcs_retained live, by simp [null, pointsTo]⟩,
      fun a given => ⟨fun key found => ?_, fun gone => ?_⟩⟩
    case refine_2 =>
      rw [derefArc_retained _ live] at gone
      exact ⟨rfl, by simp [given, pointsTo, gone]⟩
    have good : pointsTo w.arcs ArcValue.certifiedKey? p = true := by
      simp [pointsTo, given, ← derefArc_retained _ live, found]
    have taken : (retained w keys).retain a = retained w (keys ++ [a]) := by simp [retained, World.retain]
    have alive : ∀ k ∈ keys ++ [a], 0 < strong w.arcs k := by
      intro k member
      rcases List.mem_append.mp member with old | new
      · exact live k old
      · exact List.mem_singleton.mp new ▸ strong_of_retained live (strong_of_derefArc found)
    rw [taken]
    refine wp_mono (ih (keys ++ [a]) alive) ?_ (fun _ _ h => h) ?_ (fun _ h => h) ?_
    · rintro r w' ⟨rfl, all, same⟩
      exact ⟨by simp [given], by simp [good, all], same⟩
    · rintro r w' ⟨rfl, all⟩
      exact ⟨rfl, by simp [good, all]⟩
    · rintro e w' ⟨same, all⟩
      exact ⟨same, by simp [good, all]⟩

theorem setCertifiedKey_effect (live : Arena.get w.clientBuilders b = some builder) (keys : Option (List Ptr))
    (len : Nat) :
    Ends (rustlsClientConfigBuilderSetCertifiedKey (some b) keys len w) fun o w' =>
      Effect R (.certifiedKey keys len) b builder w w' (o = .returned .ok) (o.value? = none) := by
  simp only [rustlsClientConfigBuilderSetCertifiedKey, ends_boundary, wp_bind, wp_tryFromPtr_live live, wp_trySlice,
    wp_modify, wp_pure, Post.onNext, Post.boundary]
  refine ⟨fun null => .refused live (by simp [Setter.accepts, goodKeys, null]) (by simp), fun l given => ?_⟩
  subst given
  refine ⟨fun room => ?_, fun past => .refused live (by simp [Setter.accepts, goodKeys, Nat.not_le.mpr past]) (by simp)⟩
  refine wp_mono (collectKeys_exact (w := w) (l.take len) [] (by simp)) ?_ (fun _ _ never => never.elim) ?_
    (fun _ never => never.elim) ?_
  · rintro keys w' ⟨rfl, all, same⟩
    refine .put live (by simp [Setter.accepts, goodKeys, room, all]) trivial rfl ?_
    rw [dropArcs_eq]
    simp [World.putClientBuilder, same, Setter.install, Setter.verifier?, Setter.alpn?, Setter.sni?, Setter.resolver?]
  · rintro r w' ⟨rfl, all⟩
    exact .refused live (by simp [Setter.accepts, goodKeys, all]) (by simp)
  · rintro e w' ⟨same, all⟩
    have refuses : Setter.accepts R w (.certifiedKey (some l) len) = false := by simp [Setter.accepts, goodKeys, all]
    exact ⟨by simp [Outcome.value?], by simp [refuses], by rw [same, live, refuses, if_neg Bool.false_ne_true]⟩

/-! ### Any setter -/

theorem Effect.congr {succeeded' undefined' : Prop} (effect : Effect R s b builder w w' succeeded undefined)
    (same : succeeded' ↔ succeeded) (same' : undefined' ↔ undefined) :
    Effect R s b builder w w' succeeded' undefined' := by
  rw [propext same, propext same']
  exact effect

theorem value?_map_eq_none {ρ τ : Type} (f : ρ → τ) (o : Outcome ρ) : (o.map f).value? = none ↔ o.value? = none := by
  cases o <;> simp [Outcome.map, Outcome.value?]

theorem exec_effect (R : Rustls Conn S) (live : Arena.get w.clientBuilders b = some builder) (s : Setter) :
    Effect R s b builder w (exec R (s.call b) w).2 (Succeeded (exec R (s.call b) w).1)
      ((exec R (s.call b) w).1.value? = none) := by
  cases s with
  | certificateVerifier callback =>
    exact (setCertificateVerifier_effect live callback).congr (succeeded_result _) (value?_map_eq_none _ _)
  | useRoots roots => exact (useRoots_effect live roots).congr (succeeded_result _) (value?_map_eq_none _ _)
  | loadRootsFromFile filename =>
    exact (loadRootsFromFile_effect live filename).congr (succeeded_result _) (value?_map_eq_none _ _)
  | alpnProtocols protocols len =>
    exact (setAlpnProtocols_effect live protocols len).congr (succeeded_result _) (value?_map_eq_none _ _)
  | enableSni enable => exact (setEnableSni_effect live enable).congr (succeeded_unit _) (value?_map_eq_none _ _)
  | certifiedKey keys len =>
    exact (setCertifiedKey_effect live keys len).congr (succeeded_result _) (value?_map_eq_none _ _)

end

/-! ### Runs -/

/-- A call of a setter, with the files and libraries it finds. -/
structure Attempt (Conn S : Type) where
  library : Rustls Conn S
  setter : Setter

/-- The builder at `b`, with its setters. What else happens may not change it. -/
def slots (b : Addr) : Slots (World Conn S) (Attempt Conn S) ClientConfigBuilder where
  get w := Arena.get w.clientBuilders b
  run a w := (exec a.library (a.setter.call b) w).2
  succeeds a w := decide (Succeeded (exec a.library (a.setter.call b) w).1)
  accepts a w := a.setter.accepts a.library w
  install a w := a.setter.install a.library w
  Fine _ _ := True
  Elsewhere f := ∀ w, Arena.get (f w).clientBuilders b = Arena.get w.clientBuilders b
  succeeds_eq live _ := by simp [(exec_effect _ live _).succeeded]
  effect live _ := ⟨_, rfl, (exec_effect _ live _).builder, trivial⟩
  elsewhere kept live _ := ⟨(kept _).trans live, trivial⟩

/-- What the call supplied as a verifier, where it was made. -/
def verifier? (m : Slots.Moment (World Conn S) (Attempt Conn S)) : Option ServerCertVerifier :=
  m.call.setter.verifier? m.call.library m.before

/-- The run without the calls that return an error. -/
def effective (b : Addr) : World Conn S → List (Step (World Conn S) (Attempt Conn S)) →
    List (Step (World Conn S) (Attempt Conn S))
  | _, [] => []
  | w, .set a :: rest =>
    if Succeeded (exec a.library (a.setter.call b) w).1 ∨ (exec a.library (a.setter.call b) w).1.value? = none then
      .set a :: effective b (exec a.library (a.setter.call b) w).2 rest
    else effective b (exec a.library (a.setter.call b) w).2 rest
  | w, .elsewhere f :: rest => .elsewhere f :: effective b (f w) rest

/-- `b` is a builder that a constructor has just returned. -/
inductive Created (R : Rustls Conn S) (b : Addr) (w : World Conn S) : Prop where
  | new (w₀ : World Conn S) (made : rustlsClientConfigBuilderNew R w₀ = (.returned (some b), w))
  | newCustom (w₀ : World Conn S) (cipherSuites : Option (List (Option SupportedCipherSuite)))
      (cipherSuitesLen : Nat) (tlsVersions : Option (List UInt16)) (tlsVersionsLen : Nat) (l : Addr)
      (made : rustlsClientConfigBuilderNewCustom R cipherSuites cipherSuitesLen tlsVersions tlsVersionsLen
        (some l) w₀ = (.returned .ok, w))
      (stored : w.cells.ptr l = some b)

section
variable {b : Addr} {start : ClientConfigBuilder} {w : World Conn S}
  {done : List (Slots.Moment (World Conn S) (Attempt Conn S))}

/-- Calls that return an error can be left out of a run. -/
theorem foldl_effective (steps : List (Step (World Conn S) (Attempt Conn S))) (valid : ∀ step ∈ steps, (slots b).Valid step)
    (tracks : (slots b).Tracks start w done) :
    (effective b w steps).foldl (slots b).advance (w, done) = steps.foldl (slots b).advance (w, done) := by
  induction steps generalizing w done with
  | nil => rfl
  | cons step rest ih =>
    obtain ⟨now, later⟩ := List.forall_mem_cons.mp valid
    have next := ih later (Slots.advance_tracks tracks now)
    cases step with
    | set a =>
      rw [effective]
      split
      · exact next
      next failed =>
        obtain ⟨failed, defined⟩ := not_or.mp failed
        have same := (exec_effect a.library tracks.live a.setter).unchanged failed defined
        have skipped : (slots b).advance (w, done) (.set a) = (w, done) := by
          simp only [Slots.advance, slots, same, failed, decide_false, Bool.false_eq_true, if_false]
        rw [List.foldl_cons, ← next, skipped, same]
    | elsewhere f => exact next

/-! ### From creation to the config -/

theorem Created.fresh {R : Rustls Conn S} (created : Created R b w) :
    ∃ base, Arena.get w.clientBuilders b = some (.new base) := by
  cases created with
  | new w₀ made =>
    obtain ⟨rfl, rfl⟩ : w₀.clientBuilders.length = b ∧ _ = w := by
      simpa [rustlsClientConfigBuilderNew, ffiPanicBoundary, clientBuilderToMutPtr] using made
    exact ⟨R.safeDefaults, Arena.get_alloc_new _ _⟩
  | newCustom w₀ cipherSuites cipherSuitesLen tlsVersions tlsVersionsLen l made stored =>
    have ends : Ends (rustlsClientConfigBuilderNewCustom R cipherSuites cipherSuitesLen tlsVersions tlsVersionsLen (some l)
        w₀) _ := newCustom_builder World.clientBuilders ClientConfigBuilder.new (fun _ _ => rfl)
      (fun base w => ⟨_, _, rfl, Arena.get_alloc_new w.clientBuilders (.new base)⟩)
      cipherSuites cipherSuitesLen tlsVersions tlsVersionsLen l
    rw [made] at ends
    obtain ⟨b', base, stored', found⟩ := ends rfl
    obtain rfl := Option.some.inj (stored'.symm.trans stored)
    exact ⟨base, found⟩

theorem build_run {builder : ClientConfigBuilder} (live : Arena.get w.clientBuilders b = some builder) :
    ∃ a, (rustlsClientConfigBuilderBuild (some b) w).1 = .returned (some a) ∧
      derefArc (rustlsClientConfigBuilderBuild (some b) w).2.arcs ArcValue.clientConfig? a = some {
        base := builder.base
        verifier := builder.verifier
        certResolver := builder.certResolver
        alpnProtocols := builder.alpnProtocols
        enableSni := builder.enableSni } := by
  refine ⟨w.arcs.length, ?_, ?_⟩ <;>
    simp [rustlsClientConfigBuilderBuild, ffiPanicBoundary, bind_run, tryFromPtr_live live, toConstPtr,
      derefArc_alloc_new, ArcValue.clientConfig?]

end

/-- After any sequence of setter calls, a build gives a config with what the last successful call for each
slot supplied, or the constructor's default. A verifier is the callback, a copy of the roots a store had
when the call was made, or the certificates of a file; without one every server is turned away. A call succeeds exactly if
it accepts its arguments: a callback that is not NULL, a store, a file that can be read and of which all certificates
parse, arrays of which every element can be used. Calls that return an error leave no trace, so runs that differ in nothing
else come to the same state. -/
theorem client_builder_configures (R : Rustls Conn S) {b : Addr} {w : World Conn S} (created : Created R b w)
    (steps : List (Step (World Conn S) (Attempt Conn S))) (valid : ∀ step ∈ steps, (slots b).Valid step) :
    let reached := ((slots b).play w steps).1
    let done := ((slots b).play w steps).2
    let built := rustlsClientConfigBuilderBuild (some b) reached
    (∃ a config, built.1 = .returned (some a) ∧ derefArc built.2.arcs ArcValue.clientConfig? a = some config ∧
      config.verifier = (latest verifier? done).getD .noneVerifier ∧
      config.alpnProtocols = (latest (·.call.setter.alpn?) done).getD [] ∧
      config.enableSni = (latest (·.call.setter.sni?) done).getD true ∧
      config.certResolver = latest (·.call.setter.resolver?) done ∧
      ((∀ m ∈ done, verifier? m = none) → ∀ (C : CFunctions S)
        (webPki : RootCertStore → Certificate → List Certificate → ServerName → Bytes → Except Error Unit)
        (endEntity : Certificate) (intermediates : List Certificate) (serverName : ServerName) (ocspResponse : Bytes)
        (w' : World Conn S),
        config.verifier.verifyServerCert C webPki endEntity intermediates serverName ocspResponse w' =
          (.error .invalidCertificateSignature, w'))) ∧
    (∀ m ∈ done, m.call.setter.accepts m.call.library m.before = true) ∧
    (∀ m ∈ done, ∀ filename, m.call.setter = .loadRootsFromFile filename → ∃ bytes name file ders,
      filename = some bytes ∧ utf8Decode bytes = some name ∧ m.call.library.openFile name = some file ∧
      m.call.library.certs file = .ok ders ∧ (∀ der ∈ ders, m.call.library.parsable der = true) ∧
      verifier? m = some (.webPkiVerifier ⟨ders⟩)) ∧
    (∀ m ∈ done, ∀ roots, m.call.setter = .useRoots roots → ∃ a store, roots = some a ∧
      Arena.get m.before.stores a = some store ∧ verifier? m = some (.webPkiVerifier store)) ∧
    (∀ m ∈ done, ∀ l len, m.call.setter = .certifiedKey (some l) len →
      len ≤ l.length ∧ (l.take len).reduceOption.map some = l.take len) ∧
    (∀ m ∈ done, ∀ l len, m.call.setter = .alpnProtocols (some l) len →
      len ≤ l.length ∧ ∀ p ∈ l.take len, ∃ d, p.data = some d ∧ p.len ≤ d.length ∧ p.bytes = d.take p.len) ∧
    (∀ (R' : Rustls Conn S) (s : Setter), Succeeded (exec R' (s.call b) reached).1 ↔ s.accepts R' reached = true) ∧
    (∀ (R' : Rustls Conn S) (s : Setter), ¬ Succeeded (exec R' (s.call b) reached).1 →
      Arena.get (exec R' (s.call b) reached).2.clientBuilders b = Arena.get reached.clientBuilders b ∧
      ((exec R' (s.call b) reached).1.value? ≠ none → (exec R' (s.call b) reached).2 = reached)) ∧
    ∀ steps' : List (Step (World Conn S) (Attempt Conn S)), (∀ step ∈ steps', (slots b).Valid step) →
      effective b w steps' = effective b w steps → (slots b).play w steps' = (slots b).play w steps := by
  intro reached done built
  obtain ⟨base, new⟩ := created.fresh
  have tracks : (slots b).Tracks (.new base) reached done := Slots.play_tracks steps valid new trivial
  have live : Arena.get reached.clientBuilders b = some ((slots b).configured (.new base) done) := tracks.live
  have verifier : ((slots b).configured (.new base) done).verifier = (latest verifier? done).getD .noneVerifier :=
    Slots.configured_getD ClientConfigBuilder.verifier (fun _ _ _ => rfl) done
  refine ⟨?_, tracks.accepted, ?_, ?_, ?_, ?_, fun R' s => (exec_effect R' live s).succeeded, fun R' s failed => ?_,
    fun steps' valid' same => ?_⟩
  · obtain ⟨a, returned, found⟩ := build_run live
    refine ⟨a, _, returned, found, verifier, ?_, ?_, ?_, fun unset C webPki endEntity intermediates name ocsp w' => ?_⟩
    · exact Slots.configured_getD ClientConfigBuilder.alpnProtocols (fun _ _ _ => rfl) done
    · exact Slots.configured_getD ClientConfigBuilder.enableSni (fun _ _ _ => rfl) done
    · exact (Slots.configured_or ClientConfigBuilder.certResolver (fun _ _ _ => rfl) done).trans (Option.or_none ..)
    · simp only [verifier, Slots.latest_eq_none.mpr unset]
      rfl
  · intro m member filename load
    have accepted : m.call.setter.accepts m.call.library m.before = true := tracks.accepted m member
    rw [load] at accepted
    unfold verifier?
    rw [load]
    exact Setter.accepts_fromFile accepted
  · intro m member roots use
    have accepted : m.call.setter.accepts m.call.library m.before = true := tracks.accepted m member
    rw [use] at accepted
    unfold verifier?
    rw [use]
    exact Setter.accepts_fromStore accepted
  · intro m member l len set
    have accepted : m.call.setter.accepts m.call.library m.before = true := tracks.accepted m member
    rw [set] at accepted
    exact goodKeys_all accepted
  · intro m member l len set
    have accepted : m.call.setter.accepts m.call.library m.before = true := tracks.accepted m member
    rw [set] at accepted
    exact goodProtocols_all accepted
  · have effect := exec_effect R' live s
    have refuses : s.accepts R' reached = false := by simpa [effect.succeeded] using failed
    refine ⟨?_, effect.unchanged failed⟩
    rw [effect.builder, refuses, if_neg Bool.false_ne_true, live]
  · have fresh : (slots b).Tracks (.new base) w [] := ⟨new, trivial, fun _ member => nomatch member⟩
    calc (slots b).play w steps' = (slots b).play w (effective b w steps') := (foldl_effective steps' valid' fresh).symm
      _ = (slots b).play w (effective b w steps) := by rw [same]
      _ = (slots b).play w steps := foldl_effective steps valid fresh

/-- A root store of one certificate, and a new builder. -/
def oneStore : World Unit Unit := { World.initial () with stores := [some ⟨[[1]]⟩] }

def unconfigured : World Unit Unit := (rustlsClientConfigBuilderNew (Rustls.inert ()) oneStore).2

/-- A library that finds the certificate `[3]` in every file. -/
def filed : Rustls Unit Unit := { Rustls.inert () with openFile := fun _ => some [], certs := fun _ => .ok [[3]] }

/-- A callback, the store's roots, a change to the store, a file, and a file with a certificate that does not parse. -/
def attempts : List (Step (World Unit Unit) (Attempt Unit Unit)) :=
  [.set ⟨filed, .certificateVerifier (some 7)⟩, .set ⟨filed, .useRoots (some 0)⟩,
    .elsewhere fun w => { w with stores := [some ⟨[[1], [2]]⟩] }, .set ⟨filed, .loadRootsFromFile (some [])⟩,
    .set ⟨{ filed with parsable := fun _ => false }, .loadRootsFromFile (some [])⟩]

theorem client_builder_configures_fromFile :
    ((slots 0).play unconfigured (attempts.take 3)).2.map verifier? = [some (.verifier 7), some (.webPkiVerifier ⟨[[1]]⟩)] ∧
    ((slots 0).play unconfigured attempts).2.length = 3 ∧
    ∃ a config,
      (rustlsClientConfigBuilderBuild (some 0) ((slots 0).play unconfigured attempts).1).1 = .returned (some a) ∧
      derefArc (rustlsClientConfigBuilderBuild (some 0) ((slots 0).play unconfigured attempts).1).2.arcs
        ArcValue.clientConfig? a = some config ∧
      config.verifier = .webPkiVerifier ⟨[[3]]⟩ ∧ config.enableSni = true := by
  have created : Created (Rustls.inert ()) 0 unconfigured := .new oneStore rfl
  obtain ⟨⟨a, config, returned, found, verifier, -, sni, -⟩, -⟩ :=
    client_builder_configures (Rustls.inert ()) created attempts (by simp [attempts, Slots.Valid, slots])
  exact ⟨by decide +kernel, by decide +kernel, a, config, returned, found, verifier.trans (by decide +kernel),
    sni.trans (by decide +kernel)⟩

end RustlsFfi.ClientBuilder
