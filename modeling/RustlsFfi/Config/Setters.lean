import Mathlib.Data.List.ReduceOption
import RustlsFfi.Base.Slots
import RustlsFfi.Model.Api
import RustlsFfi.Model.Rules

/-!
# What the two config builders share

Builders are made alike, and their setters take arrays of protocols and of keys in the same way: all of an array or
nothing.
-/

namespace RustlsFfi.Setters
open Control Counting

variable {Conn S : Type} {w : World Conn S}

/-- The outcome of a setter that did its work; some of them have nothing to return. -/
def Succeeded (o : Outcome Value) : Prop := o = .returned (.result .ok) ∨ o = .returned .unit

instance (o : Outcome Value) : Decidable (Succeeded o) := inferInstanceAs (Decidable (_ ∨ _))

theorem succeeded_unit (o : Outcome Unit) : Succeeded (o.map fun _ => Value.unit) ↔ o = .returned () := by
  cases o <;> simp [Succeeded, Outcome.map]

theorem succeeded_result (o : Outcome RustlsResult) : Succeeded (o.map Value.result) ↔ o = .returned .ok := by
  cases o <;> simp [Succeeded, Outcome.map]

/-! ### Arrays -/

def readable (p : RustlsSliceBytes) : Bool := p.data.any (p.len ≤ ·.length)

def pointsTo {τ : Type} (h : Heap) (as : ArcValue → Option τ) (p : Ptr) : Bool := (p.bind (derefArc h as)).isSome

/-- All elements of the array are slices that can be read. -/
def goodProtocols (protocols : Option (List RustlsSliceBytes)) (len : Nat) : Bool :=
  protocols.any fun l => len ≤ l.length && (l.take len).all readable

/-- All elements of the array are pointers to certified keys. -/
def goodKeys (h : Heap) (keys : Option (List Ptr)) (len : Nat) : Bool :=
  keys.any fun l => len ≤ l.length && (l.take len).all (pointsTo h ArcValue.certifiedKey?)

theorem goodKeys_iff {h : Heap} {l : List Ptr} {len : Nat} : goodKeys h (some l) len = true ↔
    len ≤ l.length ∧ ∀ p ∈ l.take len, pointsTo h ArcValue.certifiedKey? p = true := by
  simp [goodKeys]

theorem goodProtocols_iff {l : List RustlsSliceBytes} {len : Nat} : goodProtocols (some l) len = true ↔
    len ≤ l.length ∧ ∀ p ∈ l.take len, readable p = true := by
  simp [goodProtocols]

theorem goodKeys_all {h : Heap} {l : List Ptr} {len : Nat} (good : goodKeys h (some l) len = true) :
    len ≤ l.length ∧ (l.take len).reduceOption.map some = l.take len := by
  obtain ⟨room, all⟩ := goodKeys_iff.mp good
  refine ⟨room, Arena.map_some_reduceOption fun p inside null => ?_⟩
  subst null
  exact absurd (all none inside) Bool.false_ne_true

theorem goodProtocols_all {l : List RustlsSliceBytes} {len : Nat} (good : goodProtocols (some l) len = true) :
    len ≤ l.length ∧ ∀ p ∈ l.take len, ∃ d, p.data = some d ∧ p.len ≤ d.length ∧ p.bytes = d.take p.len := by
  obtain ⟨room, all⟩ := goodProtocols_iff.mp good
  refine ⟨room, fun p inside => ?_⟩
  have good := all p inside
  cases data : p.data with
  | none => simp [readable, data] at good
  | some d => exact ⟨d, rfl, by simpa [readable, data] using good, by simp [RustlsSliceBytes.bytes, data]⟩

theorem collectAlpn_wp (l : List RustlsSliceBytes) (vv : List Bytes) :
    wp (collectAlpn l vv)
      { next := fun r w' => w' = w ∧ l.all readable = true ∧ r = vv ++ l.map RustlsSliceBytes.bytes
        ret := fun _ _ => False
        rejected := fun _ w' => w' = w ∧ l.all readable = false
        panic := fun _ => False
        fault := fun _ w' => w' = w ∧ l.all readable = false } w := by
  induction l generalizing vv with
  | nil => simp [collectAlpn]
  | cons p rest ih =>
    simp only [collectAlpn, wp_bind, wp_trySlice, Post.onNext, true_and]
    refine ⟨fun null => ?_, fun d given => ⟨fun within => ?_, fun past => ?_⟩⟩
    · simp [readable, null]
    · have good : readable p = true := by simp [readable, given, within]
      have read : p.bytes = d.take p.len := by simp [RustlsSliceBytes.bytes, given]
      simpa [good, read] using ih (vv ++ [d.take p.len])
    · have bad : readable p = false := by simp [readable, given, past]
      simp [bad]

/-- The setter of the protocols puts all of a good array into the builder, and does nothing with any other. -/
theorem setAlpnProtocols_puts {τ : Type} {arena : World Conn S → List (Option τ)}
    {put : Addr → τ → List Bytes → World Conn S → World Conn S} {b : Addr} {builder : τ}
    (live : Arena.get (arena w) b = some builder) (protocols : Option (List RustlsSliceBytes)) (len : Nat) :
    Ends (setAlpnProtocols arena put (some b) protocols len w) fun o w' =>
      (goodProtocols protocols len = true ∧ o = .returned .ok ∧
        ∃ l, protocols = some l ∧ w' = put b builder ((l.take len).map RustlsSliceBytes.bytes) w) ∨
      (goodProtocols protocols len = false ∧ o ≠ .returned .ok ∧ w' = w) := by
  simp only [setAlpnProtocols, ends_boundary, wp_bind, wp_tryFromPtr_live live, wp_trySlice, wp_modify, wp_pure,
    Post.onNext, Post.boundary]
  refine ⟨?_, fun l given => ⟨fun room => ?_, fun past => ?_⟩⟩
  · rintro rfl
    exact .inr ⟨rfl, by simp⟩
  · subst given
    refine wp_mono (collectAlpn_wp _ _) ?_ (fun _ _ never => never.elim) ?_ (fun _ never => never.elim) ?_
    · rintro vv w' ⟨rfl, all, rfl⟩
      exact .inl ⟨by simp [goodProtocols, room, all], trivial, l, rfl, rfl⟩
    · rintro r w' ⟨rfl, all⟩
      exact .inr ⟨by simp [goodProtocols, all], by simp, rfl⟩
    · rintro e w' ⟨rfl, all⟩
      exact .inr ⟨by simp [goodProtocols, all], by simp, rfl⟩
  · subst given
    exact .inr ⟨by simp [goodProtocols, Nat.not_le.mpr past], by simp⟩

/-! ### Construction -/

/-- Where a new builder with custom suites and versions is. -/
theorem newCustom_builder {R : Rustls Conn S} {β : Type} {toMutPtr : ConfigBase → Body Conn S RustlsResult Ptr}
    (arena : World Conn S → List (Option β)) (new : ConfigBase → β)
    (apart : ∀ (w : World Conn S) cells, arena { w with cells := cells } = arena w)
    (boxes : ∀ base w, ∃ b w', toMutPtr base w = (.next (some b), w') ∧ Arena.get (arena w') b = some (new base))
    (cipherSuites : Option (List (Option SupportedCipherSuite))) (cipherSuitesLen : Nat)
    (tlsVersions : Option (List UInt16)) (tlsVersionsLen : Nat) (l : Addr) :
    Ends (configBuilderNewCustom R toMutPtr cipherSuites cipherSuitesLen tlsVersions tlsVersionsLen (some l) w)
      fun o w' => o = .returned .ok → ∃ b base, w'.cells.ptr l = some b ∧ Arena.get (arena w') b = some (new base) := by
  refine ends_newCustom ?_ nofun (fun _ _ => nofun) fun base => ?_
  · rintro r failed ⟨⟩
    exact absurd rfl failed
  · obtain ⟨b, w', boxed, found⟩ := boxes base w
    unfold wp
    rw [boxed]
    rintro _ ⟨⟩ -
    exact ⟨b, base, Function.update_self l (some b) w'.cells.ptr, (apart w' _).symm ▸ found⟩

end RustlsFfi.Setters
