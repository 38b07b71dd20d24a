/-!
# Objects with slots

An object has slots, and each call fills one of them or has no effect on the object. After any run a slot holds what
the last call supplied that filled it, or what it held at the start.
-/

namespace RustlsFfi

/-- Calls on an object in a state. A call that accepts what it is given and finds succeeds and installs something, and any
other leaves the object as it is. -/
structure Slots (σ κ β : Type) where
  get : σ → Option β
  run : κ → σ → σ
  /-- What the caller is told. -/
  succeeds : κ → σ → Bool
  accepts : κ → σ → Bool
  install : κ → σ → β → β
  /-- What the object needs of the state around it. -/
  Fine : σ → β → Prop
  /-- What may happen between the calls. -/
  Elsewhere : (σ → σ) → Prop
  succeeds_eq : ∀ {k s v}, get s = some v → Fine s v → succeeds k s = accepts k s
  effect : ∀ {k s v}, get s = some v → Fine s v → ∃ v', v' = (if accepts k s then install k s v else v) ∧
    get (run k s) = some v' ∧ Fine (run k s) v'
  elsewhere : ∀ {f s v}, Elsewhere f → get s = some v → Fine s v → get (f s) = some v ∧ Fine (f s) v

namespace Slots

variable {σ κ β ν : Type}

/-! ### Runs -/

/-- A call with the state it was made in. -/
structure Moment (σ κ : Type) where
  before : σ
  call : κ

inductive Step (σ κ : Type) where
  | set (call : κ)
  | elsewhere (f : σ → σ)

section
variable (slots : Slots σ κ β)

def Valid : Step σ κ → Prop
  | .set _ => True
  | .elsewhere f => slots.Elsewhere f

/-- One step, with the successful calls up to it. -/
def advance : σ × List (Moment σ κ) → Step σ κ → σ × List (Moment σ κ)
  | (s, done), .set k => (slots.run k s, if slots.succeeds k s then done ++ [⟨s, k⟩] else done)
  | (s, done), .elsewhere f => (f s, done)

def play (s : σ) (steps : List (Step σ κ)) : σ × List (Moment σ κ) := steps.foldl slots.advance (s, [])

/-- The object after the calls in `done` have succeeded. -/
def configured (start : β) (done : List (Moment σ κ)) : β :=
  done.foldl (fun v m => slots.install m.call m.before v) start

structure Tracks (start : β) (s : σ) (done : List (Moment σ κ)) : Prop where
  live : slots.get s = some (slots.configured start done)
  fine : slots.Fine s (slots.configured start done)
  accepted : ∀ m ∈ done, slots.accepts m.call m.before = true

end

variable {slots : Slots σ κ β} {start : β} {s : σ} {done : List (Moment σ κ)}

theorem advance_tracks (tracks : slots.Tracks start s done) {step : Step σ κ} (valid : slots.Valid step) :
    slots.Tracks start (slots.advance (s, done) step).1 (slots.advance (s, done) step).2 := by
  cases step with
  | set k =>
    obtain ⟨v, same, live, fine⟩ := slots.effect (k := k) tracks.live tracks.fine
    rw [advance, slots.succeeds_eq tracks.live tracks.fine]
    cases accepts : slots.accepts k s with
    | true =>
      have filled : v = slots.configured start (done ++ [⟨s, k⟩]) := by
        rw [same, accepts, configured, configured, List.foldl_append]
        rfl
      refine ⟨filled ▸ live, filled ▸ fine, fun m member => ?_⟩
      rcases List.mem_append.mp member with old | new
      · exact tracks.accepted m old
      · exact List.mem_singleton.mp new ▸ accepts
    | false =>
      have kept : v = slots.configured start done := by
        rw [same, accepts]
        rfl
      exact ⟨kept ▸ live, kept ▸ fine, tracks.accepted⟩
  | elsewhere f =>
    obtain ⟨live, fine⟩ := slots.elsewhere valid tracks.live tracks.fine
    exact ⟨live, fine, tracks.accepted⟩

theorem foldl_tracks (steps : List (Step σ κ)) (valid : ∀ step ∈ steps, slots.Valid step)
    (tracks : slots.Tracks start s done) :
    slots.Tracks start (steps.foldl slots.advance (s, done)).1 (steps.foldl slots.advance (s, done)).2 := by
  induction steps generalizing s done with
  | nil => exact tracks
  | cons step rest ih =>
    obtain ⟨now, later⟩ := List.forall_mem_cons.mp valid
    exact ih later (advance_tracks tracks now)

theorem play_tracks (steps : List (Step σ κ)) (valid : ∀ step ∈ steps, slots.Valid step)
    (live : slots.get s = some start) (fine : slots.Fine s start) :
    slots.Tracks start (slots.play s steps).1 (slots.play s steps).2 :=
  foldl_tracks steps valid ⟨live, fine, fun _ member => nomatch member⟩

/-! ### The last call for a slot -/

/-- What the last of the calls that supply anything supplies. -/
def latest (supplied : Moment σ κ → Option ν) (done : List (Moment σ κ)) : Option ν :=
  (done.filterMap supplied).getLast?

theorem latest_concat (supplied : Moment σ κ → Option ν) (done : List (Moment σ κ)) (m : Moment σ κ) :
    latest supplied (done ++ [m]) = (supplied m).or (latest supplied done) := by
  cases new : supplied m <;> simp [latest, new]

theorem latest_eq_none {supplied : Moment σ κ → Option ν} : latest supplied done = none ↔ ∀ m ∈ done, supplied m = none := by
  rw [latest, List.getLast?_eq_none_iff, List.filterMap_eq_nil_iff]

/-- A slot that is empty at first. -/
theorem configured_or (slot : β → Option ν) {supplied : Moment σ κ → Option ν}
    (fills : ∀ k s v, slot (slots.install k s v) = (supplied ⟨s, k⟩).or (slot v)) (done : List (Moment σ κ)) :
    slot (slots.configured start done) = (latest supplied done).or (slot start) := by
  suffices reversed : ∀ l : List (Moment σ κ),
      slot (slots.configured start l.reverse) = (latest supplied l.reverse).or (slot start) by
    simpa using reversed done.reverse
  intro l
  induction l with
  | nil => rfl
  | cons m rest ih =>
    rw [List.reverse_cons, latest_concat, Option.or_assoc, ← ih, configured, List.foldl_append]
    exact fills m.call m.before _

/-- A slot that always holds something. -/
theorem configured_getD (slot : β → ν) {supplied : Moment σ κ → Option ν}
    (fills : ∀ k s v, slot (slots.install k s v) = (supplied ⟨s, k⟩).getD (slot v)) (done : List (Moment σ κ)) :
    slot (slots.configured start done) = (latest supplied done).getD (slot start) := by
  have held : some (slot (slots.configured start done)) = (latest supplied done).or (some (slot start)) := by
    refine configured_or (fun v => some (slot v)) (fun k s v => ?_) done
    cases new : supplied ⟨s, k⟩ <;> simp [fills, new]
  cases last : latest supplied done <;> simpa [last] using held

end Slots

end RustlsFfi
