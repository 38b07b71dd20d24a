import Mathlib.Logic.Function.Basic

/-!
# A map that keeps what fits

A store of values by key, seen through the replies to its operations. Whether it takes on a value is up
to what is behind it, and a put says so; a value that does not fit cannot be got back. The results say,
of every sequence of operations, what a retrieval finds in terms of the operations before it.
-/

namespace RustlsFfi.BoundedMap

variable {κ ν : Type}

inductive Op (κ ν : Type) where
  | put (k : κ) (v : ν)
  | get (k : κ)
  | take (k : κ)
  deriving DecidableEq, Repr

inductive Reply (ν : Type) where
  | stored (ok : Bool)
  | value (v : Option ν)
  deriving DecidableEq, Repr

abbrev Event (κ ν : Type) := Op κ ν × Reply ν

abbrev Map (κ ν : Type) := κ → Option ν

def Op.Retrieves (op : Op κ ν) (k : κ) : Prop := op = .get k ∨ op = .take k

def Stores (k : κ) (e : Event κ ν) : Prop := ∃ v, e = (.put k v, .stored true)

def Takes (k : κ) (e : Event κ ν) : Prop := ∃ r, e = (.take k, r)

/-- The reply is the map's, where `accepts` is whether a value that is put is taken on. -/
def Answers (accepts : Bool) (m : Map κ ν) : Event κ ν → Prop
  | (.put _ _, .stored ok) => ok = accepts
  | (.get k, .value v) => v = m k
  | (.take k, .value v) => v = m k
  | _ => False

variable [DecidableEq κ] {fits : ν → Bool}

def Map.after (fits : ν → Bool) (m : Map κ ν) : Event κ ν → Map κ ν
  | (.put k v, .stored true) => Function.update m k (Option.filter fits (some v))
  | (.take k, _) => Function.update m k none
  | _ => m

/-- The replies are those of a map that starts as `m` and ends as `m'`, if the values that are put are
taken on as the verdicts say. -/
inductive Answered (fits : ν → Bool) : List Bool → Map κ ν → List (Event κ ν) → Map κ ν → Prop where
  | nil (m : Map κ ν) : Answered fits [] m [] m
  | cons {accepts : Bool} {verdicts : List Bool} {m m' : Map κ ν} {e : Event κ ν} {es : List (Event κ ν)}
      (first : Answers accepts m e) (rest : Answered fits verdicts (m.after fits e) es m') :
      Answered fits (accepts :: verdicts) m (e :: es) m'

variable {verdicts : List Bool}

theorem Answered.split {m m' : Map κ ν} {es fs : List (Event κ ν)} (run : Answered fits verdicts m (es ++ fs) m') :
    ∃ before after mid, Answered fits before m es mid ∧ Answered fits after mid fs m' := by
  induction es generalizing verdicts m with
  | nil => exact ⟨[], verdicts, m, .nil m, run⟩
  | cons e es ih =>
    cases run with
    | cons first rest =>
      obtain ⟨before, after, mid, earlier, later⟩ := ih rest
      exact ⟨_, after, mid, .cons first earlier, later⟩

@[simp] theorem after_take (m : Map κ ν) (k : κ) (r : Reply ν) :
    m.after fits (.take k, r) = Function.update m k none := by
  rcases r with (_ | _) | _ <;> rfl

@[simp] theorem after_get (m : Map κ ν) (k : κ) (r : Reply ν) : m.after fits (.get k, r) = m := by
  rcases r with (_ | _) | _ <;> rfl

/-- An event changes the value of a key only by an accepted put or a take of it. -/
theorem after_kept {m : Map κ ν} {e : Event κ ν} {k : κ} (unstored : ¬ Stores k e) (untaken : ¬ Takes k e) :
    m.after fits e k = m k := by
  obtain ⟨k' | k' | k', r⟩ := e
  · rcases r with (_ | _) | _
    · rfl
    · refine Function.update_of_ne ?_ _ m
      rintro rfl
      exact unstored ⟨_, rfl⟩
    · rfl
  · rw [after_get]
  · rw [after_take, Function.update_of_ne]
    rintro rfl
    exact untaken ⟨r, rfl⟩

theorem after_none {m : Map κ ν} {e : Event κ ν} {k : κ} (unstored : ¬ Stores k e) (absent : m k = none) :
    m.after fits e k = none := by
  by_cases taken : Takes k e
  · obtain ⟨r, rfl⟩ := taken
    rw [after_take, Function.update_self]
  · rw [after_kept unstored taken, absent]

theorem Answered.kept {m m' : Map κ ν} {es : List (Event κ ν)} {k : κ}
    (run : Answered fits verdicts m es m') (untouched : ∀ e ∈ es, ¬ Stores k e ∧ ¬ Takes k e) : m' k = m k := by
  induction run with
  | nil => rfl
  | cons _ _ ih =>
    rw [ih fun e member => untouched e (by simp [member])]
    exact after_kept (untouched _ (by simp)).1 (untouched _ (by simp)).2

theorem Answered.none_kept {m m' : Map κ ν} {es : List (Event κ ν)} {k : κ}
    (run : Answered fits verdicts m es m') (unstored : ∀ e ∈ es, ¬ Stores k e) (absent : m k = none) : m' k = none := by
  induction run with
  | nil => exact absent
  | cons _ _ ih =>
    exact ih (fun e member => unstored e (by simp [member])) (after_none (unstored _ (by simp)) absent)

theorem Answered.retrieves {m m' : Map κ ν} {op : Op κ ν} {r : Option ν} {post : List (Event κ ν)} {k : κ}
    (run : Answered fits verdicts m ((op, .value r) :: post) m') (retrieves : op.Retrieves k) : r = m k := by
  cases run with
  | cons first _ => rcases retrieves with rfl | rfl <;> exact first

/-- A retrieval finds the value of the last accepted put, if that fits. -/
theorem retrieved_last_put {m m' : Map κ ν} {pre mid post : List (Event κ ν)} {k : κ} {v : ν} {op : Op κ ν}
    {r : Option ν}
    (run : Answered fits verdicts m (pre ++ (.put k v, .stored true) :: (mid ++ (op, .value r) :: post)) m')
    (retrieves : op.Retrieves k) (untouched : ∀ e ∈ mid, ¬ Stores k e ∧ ¬ Takes k e) :
    r = Option.filter fits (some v) := by
  obtain ⟨_, _, m₁, -, run⟩ := run.split
  cases run with
  | cons _ run =>
    obtain ⟨_, _, m₂, between, run⟩ := run.split
    rw [run.retrieves retrieves, between.kept untouched]
    exact Function.update_self k _ m₁

theorem retrieved_nothing {m m' : Map κ ν} {mid post : List (Event κ ν)} {k : κ} {op : Op κ ν} {r : Option ν}
    (run : Answered fits verdicts m (mid ++ (op, .value r) :: post) m') (retrieves : op.Retrieves k)
    (unstored : ∀ e ∈ mid, ¬ Stores k e) (absent : m k = none) : r = none := by
  obtain ⟨_, _, m₁, between, run⟩ := run.split
  rw [run.retrieves retrieves, between.none_kept unstored absent]

/-- What was taken is gone until the next accepted put. -/
theorem retrieved_after_take {m m' : Map κ ν} {pre mid post : List (Event κ ν)} {k : κ} {x : Reply ν}
    {op : Op κ ν} {r : Option ν}
    (run : Answered fits verdicts m (pre ++ (.take k, x) :: (mid ++ (op, .value r) :: post)) m')
    (retrieves : op.Retrieves k) (unstored : ∀ e ∈ mid, ¬ Stores k e) : r = none := by
  obtain ⟨_, _, m₁, -, run⟩ := run.split
  cases run with
  | cons _ run => exact retrieved_nothing run retrieves unstored (by simp)

/-! ### A store behind the map -/

/-- `held` is what a store has, and `m` is what can be got back of it. -/
def Shows (fits : ν → Bool) (held m : Map κ ν) : Prop := ∀ k, m k = (held k).filter fits

omit [DecidableEq κ] in
theorem shows_empty : Shows fits (fun _ : κ => none) (fun _ => none) := fun _ => rfl

theorem Shows.update {held m : Map κ ν} (shown : Shows fits held m) (k : κ) (v : Option ν) :
    Shows fits (Function.update held k v) (Function.update m k (v.filter fits)) := by
  intro k'
  by_cases same : k' = k
  · subst same
    simp
  · rw [Function.update_of_ne same, Function.update_of_ne same, shown k']

/-- Losing a value that could not be got back is not seen. -/
theorem Shows.erase {held m : Map κ ν} (shown : Shows fits held m) {k : κ} (absent : m k = none) :
    Shows fits (Function.update held k none) m := by
  have erased := shown.update k none
  have unchanged : Function.update m k none = m := Function.update_eq_self_iff.mpr absent.symm
  rwa [Option.filter_none, unchanged] at erased

theorem Shows.without {held m : Map κ ν} (shown : Shows fits held m) {k : κ} (absent : m k = none) :
    Shows fits held (Function.update m k none) := by
  rwa [Function.update_eq_self_iff.mpr absent.symm]

end RustlsFfi.BoundedMap
