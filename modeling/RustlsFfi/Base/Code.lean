/-!
# Code with loops

A C function runs statements that fall through, return early or meet undefined behaviour, and it may loop
without end. `Code` is such a piece of code over an arbitrary state; a loop runs for a given number of
rounds, and `running` says that it has not left by then. `wp` asks something of each way to end, and the
rules take code apart one statement at a time.
-/

namespace RustlsFfi

/-- How a piece of code ends, with `ρ` the enclosing function's result. -/
inductive Code.Exit (ρ α : Type) where
  | next (a : α)
  | ret (r : ρ)
  /-- The code itself used memory that is not there. -/
  | fault
  /-- It called a function in a way that is not defined. -/
  | misuse
  | running
  deriving DecidableEq, Repr

def Code (σ ρ α : Type) : Type := σ → Code.Exit ρ α × σ

namespace Code

variable {σ ρ τ α β ε : Type}

def bind (x : Code σ ρ α) (f : α → Code σ ρ β) : Code σ ρ β := fun s =>
  match x s with
  | (.next a, s) => f a s
  | (.ret r, s) => (.ret r, s)
  | (.fault, s) => (.fault, s)
  | (.misuse, s) => (.misuse, s)
  | (.running, s) => (.running, s)

instance : Monad (Code σ ρ) where
  pure a := fun s => (.next a, s)
  bind := Code.bind

def ret (r : ρ) : Code σ ρ α := fun s => (.ret r, s)

def fault : Code σ ρ α := fun s => (.fault, s)

def get : Code σ ρ σ := fun s => (.next s, s)

def modify (f : σ → σ) : Code σ ρ Unit := fun s => (.next (), f s)

/-- A read that may be out of bounds. -/
def access : Except ε α → Code σ ρ α
  | .ok a => pure a
  | .error _ => fault

/-- A call of a function: what it returns is a value here. -/
def call (x : Code σ ρ ρ) : Code σ τ ρ := fun s =>
  match x s with
  | (.next r, s) => (.next r, s)
  | (.ret r, s) => (.next r, s)
  | (.fault, s) => (.fault, s)
  | (.misuse, s) => (.misuse, s)
  | (.running, s) => (.running, s)

/-- `for(;;)`, for at most `fuel` rounds. The body gets the loop's variables; it ends a round with new ones or
leaves the loop. -/
def loop (body : β → Code σ ρ (β ⊕ α)) : Nat → β → Code σ ρ α
  | 0, _ => fun s => (.running, s)
  | fuel + 1, b => do
    match ← body b with
    | .inl b => loop body fuel b
    | .inr a => pure a

/-- What must hold where code ends, for each way it can end. No postcondition allows a misuse. -/
structure Post (σ ρ α : Type) where
  next : α → σ → Prop
  ret : ρ → σ → Prop
  fault : σ → Prop
  running : σ → Prop

def Post.holds (Q : Post σ ρ α) : Exit ρ α × σ → Prop
  | (.next a, s) => Q.next a s
  | (.ret r, s) => Q.ret r s
  | (.fault, s) => Q.fault s
  | (.misuse, _) => False
  | (.running, s) => Q.running s

def wp (x : Code σ ρ α) (Q : Post σ ρ α) (s : σ) : Prop := Q.holds (x s)

@[simp] def Post.onNext (Q : Post σ ρ β) (next : α → σ → Prop) : Post σ ρ α :=
  ⟨next, Q.ret, Q.fault, Q.running⟩

/-- What a function must meet for a call of it to meet `Q`. -/
@[simp] def Post.called (Q : Post σ τ ρ) : Post σ ρ ρ :=
  ⟨Q.next, Q.next, Q.fault, Q.running⟩

/-- What a function's result and the state must meet, with `I` for as long as it runs; undefined behaviour is
ruled out. -/
@[simp] def Post.during (P : ρ → σ → Prop) (I : σ → Prop) : Post σ ρ ρ := ⟨P, P, fun _ => False, I⟩

variable {Q : Post σ ρ α} {s : σ}

/-! ### One rule for each statement -/

@[simp] theorem wp_pure {a : α} : wp (pure a) Q s ↔ Q.next a s := Iff.rfl

@[simp] theorem wp_get {Q : Post σ ρ σ} : wp .get Q s ↔ Q.next s s := Iff.rfl

@[simp] theorem wp_modify {Q : Post σ ρ Unit} {f : σ → σ} : wp (.modify f) Q s ↔ Q.next () (f s) := Iff.rfl

@[simp] theorem wp_bind {x : Code σ ρ β} {f : β → Code σ ρ α} :
    wp (x >>= f) Q s ↔ wp x (Q.onNext fun b t => wp (f b) Q t) s := by
  show Q.holds (Code.bind x f s) ↔ _
  unfold wp Code.bind
  rcases x s with ⟨_ | _ | _ | _ | _, t⟩ <;> exact Iff.rfl

@[simp] theorem wp_call {Q : Post σ τ ρ} {x : Code σ ρ ρ} : wp (.call x) Q s ↔ wp x Q.called s := by
  unfold wp Code.call
  rcases x s with ⟨_ | _ | _ | _ | _, t⟩ <;> exact Iff.rfl

theorem wp_ite {c : Prop} [Decidable c] {x y : Code σ ρ α} :
    wp (if c then x else y) Q s ↔ (c → wp x Q s) ∧ (¬ c → wp y Q s) := by
  by_cases h : c <;> simp [h]

theorem wp_mono {x : Code σ ρ α} {Q' : Post σ ρ α} (h : wp x Q s) (next : ∀ a t, Q.next a t → Q'.next a t)
    (ret : ∀ r t, Q.ret r t → Q'.ret r t) (fault : ∀ t, Q.fault t → Q'.fault t)
    (running : ∀ t, Q.running t → Q'.running t) : wp x Q' s := by
  unfold wp at h ⊢
  generalize x s = o at h ⊢
  rcases o with ⟨a | r | _ | _ | _, t⟩
  · exact next a t h
  · exact ret r t h
  · exact fault t h
  · exact h
  · exact running t h

/-- How the code ended may be added to what it ensures. -/
theorem wp_ran {x : Code σ ρ α} (h : wp x Q s) :
    wp x ⟨fun a t => Q.next a t ∧ x s = (.next a, t), fun r t => Q.ret r t ∧ x s = (.ret r, t),
      fun t => Q.fault t ∧ x s = (.fault, t), fun t => Q.running t ∧ x s = (.running, t)⟩ s := by
  unfold wp at h ⊢
  rcases ran : x s with ⟨_ | _ | _ | _ | _, t⟩ <;> rw [ran] at h
  · exact ⟨h, rfl⟩
  · exact ⟨h, rfl⟩
  · exact ⟨h, rfl⟩
  · exact h
  · exact ⟨h, rfl⟩

theorem wp_pos {c : Prop} [Decidable c] {x y : Code σ ρ α} (holds : c) (h : wp x Q s) :
    wp (if c then x else y) Q s := by
  rwa [if_pos holds]

theorem wp_neg {c : Prop} [Decidable c] {x y : Code σ ρ α} (fails : ¬ c) (h : wp y Q s) :
    wp (if c then x else y) Q s := by
  rwa [if_neg fails]

/-- Code after a statement of which the effect is known. -/
theorem wp_then {x : Code σ ρ β} {f : β → Code σ ρ α} {b : β} {t : σ} (ran : x s = (.next b, t)) (h : wp (f b) Q t) :
    wp (x >>= f) Q s := by
  refine wp_bind.mpr ?_
  unfold wp
  rw [ran]
  exact h

theorem wp_faults {x : Code σ ρ β} {f : β → Code σ ρ α} {t : σ} (ran : x s = (.fault, t)) (h : Q.fault t) :
    wp (x >>= f) Q s := by
  refine wp_bind.mpr ?_
  unfold wp
  rw [ran]
  exact h

theorem access_error {x : Except ε α} {e : ε} (failed : x = .error e) (s : σ) :
    (Code.access x : Code σ ρ α) s = (.fault, s) := by
  rw [failed]
  rfl

theorem access_ok {x : Except ε α} {a : α} (done : x = .ok a) (s : σ) :
    (Code.access x : Code σ ρ α) s = (.next a, s) := by
  rw [done]
  rfl

/-- Code after code of which `P` is known. -/
theorem wp_seq {x : Code σ ρ β} {f : β → Code σ ρ α} {P : Post σ ρ β} (first : wp x P s)
    (next : ∀ a t, P.next a t → wp (f a) Q t) (ret : ∀ r t, P.ret r t → Q.ret r t) (fault : ∀ t, P.fault t → Q.fault t)
    (running : ∀ t, P.running t → Q.running t) : wp (x >>= f) Q s :=
  wp_bind.mpr (wp_mono first next ret fault running)

/-- Code after the call of a function of which `P` is known. -/
theorem wp_calls {x : Code σ τ τ} {f : τ → Code σ ρ α} {P : Post σ τ τ} (first : wp x P s)
    (next : ∀ a t, P.next a t → wp (f a) Q t) (ret : ∀ a t, P.ret a t → wp (f a) Q t) (fault : ∀ t, P.fault t → Q.fault t)
    (running : ∀ t, P.running t → Q.running t) : wp (.call x >>= f) Q s :=
  wp_bind.mpr (wp_call.mpr (wp_mono first next ret fault running))

/-- The same where it does not matter how the function returns. -/
theorem wp_called {x : Code σ τ τ} {f : τ → Code σ ρ α} {P : τ → σ → Prop} {F G : σ → Prop}
    (first : wp x ⟨P, P, F, G⟩ s) (after : ∀ a t, P a t → wp (f a) Q t) (fault : ∀ t, F t → Q.fault t)
    (running : ∀ t, G t → Q.running t) : wp (.call x >>= f) Q s :=
  wp_calls first after after fault running

/-- The rules for code after code, where it matters how the first one ended. -/
theorem wp_seq_ran {x : Code σ ρ β} {f : β → Code σ ρ α} {P : Post σ ρ β} (first : wp x P s)
    (next : ∀ a t, P.next a t → x s = (.next a, t) → wp (f a) Q t) (ret : ∀ r t, P.ret r t → Q.ret r t)
    (fault : ∀ t, P.fault t → Q.fault t) (running : ∀ t, P.running t → Q.running t) : wp (x >>= f) Q s :=
  wp_seq (wp_ran first) (fun a t h => next a t h.1 h.2) (fun r t h => ret r t h.1) (fun t h => fault t h.1)
    (fun t h => running t h.1)

theorem wp_called_ran {x : Code σ τ τ} {f : τ → Code σ ρ α} {P : τ → σ → Prop} {F G : σ → Prop}
    (first : wp x ⟨P, P, F, G⟩ s) (after : ∀ a t, P a t → (call x : Code σ ρ τ) s = (.next a, t) → wp (f a) Q t)
    (fault : ∀ t, F t → Q.fault t) (running : ∀ t, G t → Q.running t) : wp (.call x >>= f) Q s := by
  have called : wp (call x : Code σ ρ τ) ⟨P, fun _ _ => False, F, G⟩ s := wp_call.mpr first
  exact wp_seq_ran called after (fun _ _ => False.elim) fault running

/-! ### Loops -/

/-- What one round must meet: it goes on with `Inv`, or it leaves with `Q`. -/
@[simp] def Post.round (Q : Post σ ρ α) (Inv : β → σ → Prop) : Post σ ρ (β ⊕ α) where
  next
    | .inl b, s => Inv b s
    | .inr a, s => Q.next a s
  ret := Q.ret
  fault := Q.fault
  running := Q.running

/-- A loop that starts with `b` and `s` gets to the head of a round with `b'` and `s'`. -/
inductive Reaches (body : β → Code σ ρ (β ⊕ α)) (b : β) (s : σ) : β → σ → Prop
  | start : Reaches body b s b s
  | round {b₁ b₂ : β} {s₁ s₂ : σ} (earlier : Reaches body b s b₁ s₁) (ran : body b₁ s₁ = (.next (.inl b₂), s₂)) :
      Reaches body b s b₂ s₂

/-- An invariant of a loop, which may or may not end, at every round that it gets to. -/
theorem wp_loop_reached {body : β → Code σ ρ (β ⊕ α)} {Inv : β → σ → Prop} {b : β}
    (running : ∀ b' s', Reaches body b s b' s' → Inv b' s' → Q.running s')
    (round : ∀ b' s', Reaches body b s b' s' → Inv b' s' → wp (body b') (Q.round Inv) s') (fuel : Nat) (start : Inv b s) :
    wp (.loop body fuel b) Q s := by
  suffices later : ∀ fuel b' s', Reaches body b s b' s' → Inv b' s' → wp (.loop body fuel b') Q s' from
    later fuel b s .start start
  intro fuel
  induction fuel with
  | zero => exact running
  | succ fuel ih =>
    intro b₁ s₁ reached here
    refine wp_bind.mpr (wp_mono (wp_ran (round b₁ s₁ reached here)) ?_ (fun _ _ h => h.1) (fun _ h => h.1) (fun _ h => h.1))
    rintro (b₂ | a) s₂ ⟨after, ran⟩
    · exact ih b₂ s₂ (reached.round ran) after
    · exact after

theorem wp_loop {body : β → Code σ ρ (β ⊕ α)} {Inv : β → σ → Prop} (running : ∀ b s, Inv b s → Q.running s)
    (round : ∀ b s, Inv b s → wp (body b) (Q.round Inv) s) (fuel : Nat) {b : β} (start : Inv b s) :
    wp (.loop body fuel b) Q s :=
  wp_loop_reached (fun b s _ => running b s) (fun b s _ => round b s) fuel start

/-- A loop whose every round makes `rank` smaller ends, given a round for each step. With fewer rounds it may
still be running. -/
theorem wp_loop_ranked {body : β → Code σ ρ (β ⊕ α)} (Inv : β → σ → Prop) (rank : β → σ → Nat)
    (round : ∀ b s, Inv b s → wp (body b) (Q.round fun b' s' => Inv b' s' ∧ rank b' s' < rank b s) s)
    {fuel : Nat} {b : β} (start : Inv b s) (enough : rank b s < fuel ∨ ∀ b t, Inv b t → Q.running t) :
    wp (.loop body fuel b) Q s := by
  induction fuel generalizing b s with
  | zero => exact (enough.resolve_left (Nat.not_lt_zero _)) b s start
  | succ fuel ih =>
    refine wp_bind.mpr (wp_mono (round b s start) ?_ (fun _ _ h => h) (fun _ h => h) (fun _ h => h))
    rintro (b' | a) t after
    · exact ih after.1 (enough.imp_left fun less => Nat.lt_of_lt_of_le after.2 (Nat.le_of_lt_succ less))
    · exact after

/-! ### Invariants -/

/-- The code has ended in a state with `I`. Where `defined` holds it has not misused a function. -/
def Keeps (defined : Prop) (I : σ → Prop) (o : Exit ρ α × σ) : Prop := I o.2 ∧ (defined → o.1 ≠ .misuse)

/-- Code after which `I` holds if it held before, however the code ends. -/
def Preserves (defined : Prop) (I : σ → Prop) (x : Code σ ρ α) : Prop := ∀ s, I s → Keeps defined I (x s)

section
variable {defined : Prop} {I : σ → Prop}

theorem keeps_next {a : α} (after : I s) : Keeps defined I ((.next a, s) : Exit ρ α × σ) := ⟨after, fun _ => nofun⟩

theorem keeps_ret {r : ρ} (after : I s) : Keeps defined I ((.ret r, s) : Exit ρ α × σ) := ⟨after, fun _ => nofun⟩

theorem keeps_fault (after : I s) : Keeps defined I ((.fault, s) : Exit ρ α × σ) := ⟨after, fun _ => nofun⟩

/-- Code that falls through, in a state that is as `I` has it. -/
theorem preserves_next {x : Code σ ρ α} (ran : ∀ s, I s → ∃ a t, x s = (.next a, t) ∧ I t) : Preserves defined I x := by
  intro s before
  obtain ⟨a, t, next, after⟩ := ran s before
  rw [next]
  exact keeps_next after

theorem preserves_pure (a : α) : Preserves defined I (pure a : Code σ ρ α) :=
  preserves_next fun _ before => ⟨_, _, rfl, before⟩

theorem preserves_get : Preserves defined I (.get : Code σ ρ σ) := preserves_next fun _ before => ⟨_, _, rfl, before⟩

theorem preserves_modify {f : σ → σ} (after : ∀ s, I s → I (f s)) : Preserves defined I (.modify f : Code σ ρ Unit) :=
  preserves_next fun s before => ⟨_, _, rfl, after s before⟩

theorem preserves_ret (r : ρ) : Preserves defined I (.ret r : Code σ ρ α) := fun _ before => keeps_ret before

theorem preserves_fault : Preserves defined I (.fault : Code σ ρ α) := fun _ before => keeps_fault before

theorem preserves_access (x : Except ε α) : Preserves defined I (.access x : Code σ ρ α) := by
  cases x with
  | error e => exact preserves_fault
  | ok a => exact preserves_pure a

theorem keeps_bind {x : Code σ ρ β} {k : β → Code σ ρ α} (first : Keeps defined I (x s))
    (next : ∀ b, Preserves defined I (k b)) : Keeps defined I ((x >>= k) s) := by
  show Keeps defined I (Code.bind x k s)
  obtain ⟨between, calls⟩ := first
  unfold Code.bind
  rcases ran : x s with ⟨b | _ | _ | _ | _, t⟩ <;> rw [ran] at between calls
  · exact next b t between
  all_goals exact ⟨between, fun sure same => calls sure (by cases same <;> rfl)⟩

theorem preserves_bind {x : Code σ ρ β} {k : β → Code σ ρ α} (first : Preserves defined I x)
    (next : ∀ b, Preserves defined I (k b)) : Preserves defined I (x >>= k) :=
  fun s before => keeps_bind (first s before) next

/-- After a look at memory its result is known. -/
theorem preserves_accessed {x : Except ε β} {k : β → Code σ ρ α} (next : ∀ b, x = .ok b → Preserves defined I (k b)) :
    Preserves defined I (.access x >>= k) := by
  cases x with
  | error e => exact preserves_fault
  | ok b => exact next b rfl

theorem preserves_call {x : Code σ α α} (inner : Preserves defined I x) : Preserves defined I (.call x : Code σ ρ α) := by
  intro s before
  obtain ⟨after, calls⟩ := inner s before
  unfold Code.call
  rcases ran : x s with ⟨_ | _ | _ | _ | _, t⟩ <;> rw [ran] at after calls <;>
    exact ⟨after, fun sure same => calls sure (by cases same <;> rfl)⟩

theorem preserves_ite {c : Prop} [Decidable c] {x y : Code σ ρ α} (yes : Preserves defined I x) (no : Preserves defined I y) :
    Preserves defined I (if c then x else y) := by
  split
  · exact yes
  · exact no

theorem preserves_loop {body : β → Code σ ρ (β ⊕ α)} (round : ∀ b, Preserves defined I (body b)) (fuel : Nat) (b : β) :
    Preserves defined I (.loop body fuel b) := by
  induction fuel generalizing b with
  | zero => exact fun _ before => ⟨before, fun _ => nofun⟩
  | succ fuel ih =>
    refine preserves_bind (round b) ?_
    rintro (b | a)
    · exact ih b
    · exact preserves_pure a

theorem wp_preserves {x : Code σ ρ α} (preserves : Preserves True I x) (before : I s) :
    wp x ⟨fun _ => I, fun _ => I, I, I⟩ s := by
  obtain ⟨after, calls⟩ := preserves s before
  unfold wp
  rcases ran : x s with ⟨_ | _ | _ | _ | _, t⟩ <;> rw [ran] at after calls
  all_goals first | exact after | exact calls trivial rfl

/-- An invariant may be added to what code ensures. -/
theorem wp_frame {x : Code σ ρ α} (preserves : Preserves defined I x) (before : I s) (h : wp x Q s) :
    wp x ⟨fun a t => Q.next a t ∧ I t, fun r t => Q.ret r t ∧ I t,
      fun t => Q.fault t ∧ I t, fun t => Q.running t ∧ I t⟩ s := by
  have after := (preserves s before).1
  unfold wp at h ⊢
  rcases ran : x s with ⟨_ | _ | _ | _ | _, t⟩ <;> rw [ran] at h after
  · exact ⟨h, after⟩
  · exact ⟨h, after⟩
  · exact ⟨h, after⟩
  · exact h
  · exact ⟨h, after⟩

end

end Code

end RustlsFfi
