import RustlsFfi.Base.Control

/-!
# Rules for blocks

`wp x Q s` says that the block `x`, started in `s`, meets `Q` whichever way it ends. The rules take
a block apart one statement at a time.
-/

namespace RustlsFfi.Control

variable {σ ρ α β ε : Type}

/-- What must hold where a block ends, for each way it can end. -/
structure Post (σ ρ α : Type) where
  next : α → σ → Prop
  ret : ρ → σ → Prop
  rejected : ρ → σ → Prop
  panic : σ → Prop
  fault : Fault → σ → Prop

def Post.holds (Q : Post σ ρ α) : Flow ρ α × σ → Prop
  | (.next a, s) => Q.next a s
  | (.ret r, s) => Q.ret r s
  | (.rejected r, s) => Q.rejected r s
  | (.panic, s) => Q.panic s
  | (.fault e, s) => Q.fault e s

def wp (x : Ffi σ ρ α) (Q : Post σ ρ α) (s : σ) : Prop := Q.holds (x s)

@[simp] def Post.onNext (Q : Post σ ρ β) (next : α → σ → Prop) : Post σ ρ α :=
  ⟨next, Q.ret, Q.rejected, Q.panic, Q.fault⟩

/-- What `Q` asks of a block in whose scope `drop` runs on every early way out. -/
@[simp] def Post.dropping (Q : Post σ ρ α) (drop : σ → σ) : Post σ ρ α where
  next := Q.next
  ret r s := Q.ret r (drop s)
  rejected r s := Q.rejected r (drop s)
  panic s := Q.panic (drop s)
  fault := Q.fault

/-- What a block must meet for the boundary around it to meet `P`. -/
@[simp] def Post.boundary [PanicOrDefault ρ] (P : Outcome ρ → σ → Prop) : Post σ ρ ρ where
  next r := P (.returned r)
  ret r := P (.returned r)
  rejected r := P (.rejected r)
  panic := P (.returned PanicOrDefault.panicValue)
  fault e := P (.fault e)

/-- The same without a boundary. -/
@[simp] def Post.bare (P : Outcome ρ → σ → Prop) : Post σ ρ ρ where
  next r := P (.returned r)
  ret r := P (.returned r)
  rejected r := P (.rejected r)
  panic := P (.fault .unwind)
  fault e := P (.fault e)

variable {Q : Post σ ρ α} {s : σ}

def Ends (o : Outcome ρ × σ) (P : Outcome ρ → σ → Prop) : Prop := P o.1 o.2

/-- What a returned value and the state must meet; undefined behaviour promises nothing. -/
@[simp] def Returns (P : ρ → σ → Prop) : Outcome ρ → σ → Prop
  | .returned r, s => P r s
  | .rejected r, s => P r s
  | .fault _, _ => True

@[simp] theorem ends_boundary [PanicOrDefault ρ] {P : Outcome ρ → σ → Prop} {x : Ffi σ ρ ρ} :
    Ends (ffiPanicBoundary x s) P ↔ wp x (.boundary P) s := by
  unfold ffiPanicBoundary wp
  rcases x s with ⟨_ | _ | _ | _ | _, t⟩ <;> exact Iff.rfl

@[simp] theorem ends_bare {P : Outcome ρ → σ → Prop} {x : Ffi σ ρ ρ} :
    Ends (noBoundary x s) P ↔ wp x (.bare P) s := by
  unfold noBoundary wp
  rcases x s with ⟨_ | _ | _ | _ | _, t⟩ <;> exact Iff.rfl

theorem ends_mono {o : Outcome ρ × σ} {P P' : Outcome ρ → σ → Prop} (h : Ends o P) (weaker : ∀ r t, P r t → P' r t) :
    Ends o P' :=
  weaker o.1 o.2 h

theorem ends_state {o : Outcome ρ × σ} {Q : σ → Prop} (h : Q o.2) : Ends o (Returns fun _ t => Q t) := by
  unfold Ends
  cases o.1 <;> simp [h]

theorem ends_of_forall {o : Outcome ρ × σ} {Q : ρ → σ → Prop} (all : ∀ v s, Q v s) : Ends o (Returns Q) := by
  unfold Ends
  cases o.1 <;> simp [all]

theorem returns_value {o : Outcome ρ × σ} {Q : ρ → σ → Prop} {v : ρ} (h : Ends o (Returns Q))
    (back : o.1.value? = some v) : Q v o.2 := by
  unfold Ends at h
  cases outcome : o.1 <;> simp_all [Outcome.value?]

/-! ### One rule for each statement -/

@[simp] theorem wp_pure {a : α} : wp (pure a) Q s ↔ Q.next a s := Iff.rfl

@[simp] theorem wp_ret {r : ρ} : wp (.ret r) Q s ↔ Q.ret r s := Iff.rfl

@[simp] theorem wp_reject {r : ρ} : wp (.reject r) Q s ↔ Q.rejected r s := Iff.rfl

@[simp] theorem wp_fault {e : Fault} : wp (.fault e) Q s ↔ Q.fault e s := Iff.rfl

@[simp] theorem wp_get {Q : Post σ ρ σ} : wp Ffi.get Q s ↔ Q.next s s := Iff.rfl

@[simp] theorem wp_modify {Q : Post σ ρ Unit} {f : σ → σ} : wp (.modify f) Q s ↔ Q.next () (f s) := Iff.rfl

@[simp] theorem wp_bind {x : Ffi σ ρ β} {f : β → Ffi σ ρ α} :
    wp (x >>= f) Q s ↔ wp x (Q.onNext fun b t => wp (f b) Q t) s := by
  unfold wp
  rw [bind_run]
  rcases x s with ⟨_ | _ | _ | _ | _, t⟩ <;> exact Iff.rfl

@[simp] theorem wp_inScope {x : Ffi σ ρ α} {drop : σ → σ} :
    wp (.inScope drop x) Q s ↔ wp x (Q.dropping drop) s := by
  unfold wp Ffi.inScope
  rcases x s with ⟨_ | _ | _ | _ | _, t⟩ <;> exact Iff.rfl

theorem wp_call {Q : Post σ ρ (Except ε α)} {x : σ → Res ε α × σ} :
    wp (.call x) Q s ↔
      (∀ a t, x s = (.ok a, t) → Q.next (.ok a) t) ∧
      (∀ e t, x s = (.err e, t) → Q.next (.error e) t) ∧
      (∀ t, x s = (.panic, t) → Q.panic t) := by
  unfold wp Ffi.call
  rcases x s with ⟨a | e | _, t⟩ <;> simp [Post.holds]

theorem wp_ite {c : Prop} [Decidable c] {x y : Ffi σ ρ α} :
    wp (if c then x else y) Q s ↔ (c → wp x Q s) ∧ (¬ c → wp y Q s) := by
  by_cases h : c <;> simp [h]

theorem wp_mono {x : Ffi σ ρ α} {Q' : Post σ ρ α} (h : wp x Q s)
    (next : ∀ a t, Q.next a t → Q'.next a t) (ret : ∀ r t, Q.ret r t → Q'.ret r t)
    (rejected : ∀ r t, Q.rejected r t → Q'.rejected r t) (panic : ∀ t, Q.panic t → Q'.panic t)
    (fault : ∀ e t, Q.fault e t → Q'.fault e t) : wp x Q' s := by
  unfold wp at h ⊢
  generalize x s = o at h ⊢
  rcases o with ⟨a | r | r | _ | e, t⟩
  · exact next a t h
  · exact ret r t h
  · exact rejected r t h
  · exact panic t h
  · exact fault e t h

/-! ### Blocks that leave the state alone -/

/-- The block leaves the state alone. It returns early only with a value in `E`, refuses a pointer
only with one in `N`, and meets undefined behaviour only if `F`. -/
def Looks (E N : ρ → Prop) (F : Prop) (x : Ffi σ ρ α) (s : σ) : Prop :=
  wp x ⟨fun _ t => t = s, fun r t => t = s ∧ E r, fun r t => t = s ∧ N r, fun t => t = s,
    fun _ t => t = s ∧ F⟩ s

section
variable {E N : ρ → Prop} {F : Prop}

theorem looks_pure (a : α) : Looks E N F (pure a) s := rfl

theorem Looks.bind {x : Ffi σ ρ β} {f : β → Ffi σ ρ α} (first : Looks E N F x s)
    (rest : ∀ b, Looks E N F (f b) s) : Looks E N F (x >>= f) s := by
  refine wp_bind.mpr (wp_mono first ?_ (fun _ _ h => h) (fun _ _ h => h) (fun _ h => h)
    (fun _ _ h => h))
  rintro b t rfl
  exact rest b

theorem Looks.wp {x : Ffi σ ρ α} (looks : Looks E N F x s) (next : ∀ a, Q.next a s)
    (ret : ∀ r, E r → Q.ret r s) (rejected : ∀ r, N r → Q.rejected r s) (panic : Q.panic s)
    (fault : ∀ e, F → Q.fault e s) : wp x Q s := by
  refine wp_mono looks ?_ ?_ ?_ ?_ ?_
  · rintro a t rfl
    exact next a
  · rintro r t ⟨rfl, early⟩
    exact ret r early
  · rintro r t ⟨rfl, null⟩
    exact rejected r null
  · rintro t rfl
    exact panic
  · rintro e t ⟨rfl, undefined⟩
    exact fault e undefined

end

end RustlsFfi.Control
