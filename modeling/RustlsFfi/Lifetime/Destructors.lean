import RustlsFfi.Lifetime.Programs

/-!
# The last reference

When the last reference to an object goes, the destructor of its value has to run. Three of the
functions that take a handle back drop an `Arc` of an opaque struct instead, for which nothing runs:
`rustls_certified_key_free`, `rustls_client_cert_verifier_free` and
`rustls_client_cert_verifier_optional_free`. Values are released properly as long as none of the
three gets to drop the last reference.
-/

namespace RustlsFfi.Lifetime
open Control Counting

variable {Conn S : Type}

/-- A handle that is dropped as an opaque struct is not the last reference. -/
def NotLast (w : World Conn S) (call : Call S) : Prop :=
  ∀ a, freedOpaque call = some a → 1 < strong w.arcs a

instance (w : World Conn S) (call : Call S) : Decidable (NotLast w call) :=
  decidable_of_iff ((freedOpaque call).all (fun a => decide (1 < strong w.arcs a)) = true) <| by
    cases given : freedOpaque call <;> simp [NotLast, given]

theorem settled_of_unheld {P : Heap → Prop} {m : Machine Conn S} (accounted : Accounted P m)
    (settled : Settled m.world.arcs) (unheld : Unheld m) :
    m.world.arcs = (m.world.arcs.map Cell.value).map (⟨0, ·, 1⟩) := by
  rw [List.map_map]
  refine (List.map_id _).symm.trans (List.map_congr_left fun c member => ?_)
  obtain ⟨a, found⟩ := List.mem_iff_getElem?.mp member
  have gone : c.strong = 0 := by
    simpa [strong, found] using accounted.strong_eq_zero unheld a
  have destroyed : c.destroyed = 1 := by simpa [gone] using settled c member
  obtain ⟨n, v, k⟩ := c
  simp_all

theorem release_bare (refs : ArcValue → List Addr) (h : Heap) (a : Addr) :
    release refs false h a = releaseLeaf false h a := by
  unfold release
  split
  next missing => simp [releaseLeaf, missing]
  next found => simp

theorem freeOpaque_effect {τ : Type} {as : ArcValue → Option τ} {T : ArcType} {w : World Conn S} {a : Addr}
    (bare : T.hasDropGlue = false) :
    Ends (ffiPanicBoundary (do
      let (a, _) ← tryRefFromArc as (some a)
      .modify (·.dropFromRaw T a) : Body Conn S Unit Unit) w)
      (Returns fun _ w' => 0 < strong w.arcs a ∧ w'.arcs = releaseLeaf false w.arcs a) := by
  simpa [World.dropFromRaw, bare, release_bare] using fun v found => strong_of_derefArc found

theorem exec_freedOpaque {R : Rustls Conn S} {w : World Conn S} {call : Call S} {a : Addr} {v : Value}
    (handle : freedOpaque call = some a) (back : (exec R call w).1.value? = some v) :
    0 < strong w.arcs a ∧ (exec R call w).2.arcs = releaseLeaf false w.arcs a := by
  refine returns_value (Q := fun _ w' => 0 < strong w.arcs a ∧ w'.arcs = releaseLeaf false w.arcs a)
    ?_ back
  cases call with
  | certifiedKeyFree key =>
    obtain rfl : key = some a := handle
    exact ends_as (freeOpaque_effect rfl)
  | clientCertVerifierFree verifier =>
    obtain rfl : verifier = some a := handle
    exact ends_as (freeOpaque_effect rfl)
  | clientCertVerifierOptionalFree verifier =>
    obtain rfl : verifier = some a := handle
    exact ends_as (freeOpaque_effect rfl)
  | _ => cases handle

/-- From a state in which every destructor has run that should have, such a function keeps it that
way exactly if it does not drop the last reference. -/
theorem settled_freedOpaque_iff {R : Rustls Conn S} {w : World Conn S} {call : Call S} {a : Addr} {v : Value}
    (settled : Settled w.arcs) (handle : freedOpaque call = some a)
    (back : (exec R call w).1.value? = some v) :
    Settled (exec R call w).2.arcs ↔ 1 < strong w.arcs a := by
  obtain ⟨positive, after⟩ := exec_freedOpaque handle back
  rw [after]
  refine ⟨fun still => ?_, fun many => settled.releaseLeaf false a (.inr many)⟩
  obtain ⟨c, found, eq⟩ := found_of_strong positive
  rcases Nat.lt_or_ge 1 (strong w.arcs a) with many | last
  · exact many
  · exfalso
    have one : c.strong = 1 := by omega
    have before := settled c (List.mem_of_getElem? found)
    have bound := (List.getElem?_eq_some_iff.mp found).1
    simp only [releaseLeaf, found] at still
    have lost := still _ (List.mem_set bound _)
    simp [before, one] at lost

/-- In a program that never drops a last reference as an opaque struct, every destructor has run
exactly once where the object is gone and not at all where it lives. Without holders all are gone,
and then the heap is the same whichever way the program got there. The condition is exact: in such a
program, the first call that breaks it leaves a value undestroyed. -/
theorem destroyed_once {s : S} {m : Machine Conn S} (run : Run NotLast (.initial s) m) :
    Settled m.world.arcs ∧
    (Unheld m → m.world.arcs = (m.world.arcs.map Cell.value).map (⟨0, ·, 1⟩)) ∧
    (∀ m₁ m₂, Run NotLast m m₁ → Run NotLast m m₂ → Unheld m₁ → Unheld m₂ →
      m₁.world.arcs.length = m.world.arcs.length → m₂.world.arcs.length = m.world.arcs.length →
      m₁.world.arcs = m₂.world.arcs) ∧
    (∀ R call a v, freedOpaque call = some a → (exec R call m.world).1.value? = some v →
      (Settled (exec R call m.world).2.arcs ↔ NotLast m.world call)) := by
  have stable := (settled_stable ArcValue.refs).and
    (extends_stable ArcValue.refs (m.world.arcs.map Cell.value))
  have allowed (w : World Conn S) (call : Call S) (a : Addr) (met : NotLast w call)
      (handle : freedOpaque call = some a) : 1 < strong w.arcs a := met a handle
  have accounted := run_accounted (settled_stable ArcValue.refs) allowed
    (initial_accounted s (by simp [Settled])) run
  have settled := accounted.counted.property
  have values (m' : Machine Conn S) (more : Run NotLast m m') (unheld : Unheld m')
      (same : m'.world.arcs.length = m.world.arcs.length) :
      m'.world.arcs = (m.world.arcs.map Cell.value).map (⟨0, ·, 1⟩) := by
    have after := run_accounted stable allowed
      ⟨{ accounted.counted with property := ⟨settled, List.prefix_rfl⟩ }, accounted.unique⟩ more
    rw [settled_of_unheld after after.counted.property.1 unheld]
    rw [after.counted.property.2.eq_of_length (by simp [same])]
  refine ⟨settled, settled_of_unheld accounted settled, ?_, ?_⟩
  · intro m₁ m₂ first second unheld₁ unheld₂ same₁ same₂
    rw [values m₁ first unheld₁ same₁, values m₂ second unheld₂ same₂]
  · intro R call a v handle back
    rw [settled_freedOpaque_iff settled handle back]
    simp [NotLast, handle]

/-- A key in a builder, with the handle given back while the builder still has it. -/
def keyInBuilder : List (Call Unit × Value) :=
  [(.certifiedKeyBuild (some [1]) 1 (some [2]) 1 (some 0), .result .ok),
   (.serverConfigBuilderNew, .ptr (some 0)),
   (.serverConfigBuilderSetCertifiedKeys (some 0) (some [some 0]) 1, .result .ok)]

theorem destroyed_once_builderLast :
    let m := Owner.play counts (.inert ()) (.initial () : Machine Unit Unit)
      (keyInBuilder ++ [(.certifiedKeyFree (some 0), .unit), (.serverConfigBuilderFree (some 0), .unit)])
    m.owned = [] ∧ m.world.arcs.map Cell.strong = [0] ∧ m.world.arcs.map Cell.destroyed = [1] ∧
      Settled m.world.arcs := by
  intro m
  have run : Run NotLast (.initial ()) m := run_play (by decide +kernel)
  exact ⟨by decide +kernel, by decide +kernel, by decide +kernel, (destroyed_once run).1⟩

/-- With the two frees the other way round, the same objects are freed and the key is never
destroyed. -/
theorem handleLast_undestroyed :
    let m := Owner.play counts (.inert ()) (.initial () : Machine Unit Unit)
      (keyInBuilder ++ [(.serverConfigBuilderFree (some 0), .unit), (.certifiedKeyFree (some 0), .unit)])
    Run (fun _ _ => True) (.initial ()) m ∧ m.owned = [] ∧ m.world.serverBuilders = [none] ∧
      m.world.arcs.map Cell.strong = [0] ∧ m.world.arcs.map Cell.destroyed = [0] ∧
      ¬ Settled m.world.arcs := by
  intro m
  exact ⟨run_play (by decide +kernel), by decide +kernel, by decide +kernel, by decide +kernel,
    by decide +kernel, by decide +kernel⟩

end RustlsFfi.Lifetime
