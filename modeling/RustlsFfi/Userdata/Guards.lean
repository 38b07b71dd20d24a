import RustlsFfi.Base.Marked
import RustlsFfi.Model.Userdata

/-!
# Guards released in any order

A thread pushes entries on its userdata stack and releases the guards it got for them, in whatever
order. Each guard takes one entry off over its whole life; whether it is its own is another matter.
-/

namespace RustlsFfi.Guards
open Marked

/-- The userdata of a thread and the guards created on it, in the order of their creation. A guard
is `none` once it has been dropped. -/
structure Thread where
  key : UserdataKey
  guards : List (Option UserdataGuard)
  deriving DecidableEq, Repr

inductive Op where
  | push (u : VoidPtr) (cb : Option FnPtr)
  | tryPop (g : Nat)
  | tryDrop (g : Nat)
  | drop (g : Nat)
  deriving DecidableEq, Repr

def Op.Releases (g : Nat) : Op → Prop
  | .push _ _ => False
  | .tryPop h | .tryDrop h | .drop h => h = g

instance (g : Nat) : DecidablePred (Op.Releases g)
  | .push _ _ => inferInstanceAs (Decidable False)
  | .tryPop h | .tryDrop h | .drop h => inferInstanceAs (Decidable (h = g))

def Op.pointer? : Op → Option VoidPtr
  | .push u _ => some u
  | _ => none

def Thread.guard? (t : Thread) (g : Nat) : Option UserdataGuard := t.guards[g]?.join

/-- One operation with its result, if the guard it needs is there. `Drop` swallows the result of its
`try_pop`, which is reported here all the same. -/
def perform (t : Thread) : Op → Option (Except UserdataError Unit × Thread)
  | .push u cb =>
    match userdataPush u cb t.key with
    | (.ok guard, key) => some (.ok (), ⟨key, t.guards ++ [some guard]⟩)
    | (.error e, key) => some (.error e, ⟨key, t.guards⟩)
  | .tryPop g => (t.guard? g).map fun guard =>
    let (r, guard, key) := guard.tryPop t.key
    (r, ⟨key, t.guards.set g (some guard)⟩)
  | .tryDrop g => (t.guard? g).map fun guard =>
    let (r, key) := guard.tryDrop t.key
    (r, ⟨key, t.guards.set g none⟩)
  | .drop g => (t.guard? g).map fun guard =>
    ((guard.tryPop t.key).1, ⟨guard.drop t.key, t.guards.set g none⟩)

def run (t : Thread) : List Op → Option Thread
  | [] => some t
  | op :: rest => (perform t op).bind fun (_, t) => run t rest

/-- The pointers pushed, each at the number of the guard created for it. -/
def pushed (ops : List Op) : List VoidPtr := ops.filterMap Op.pointer?

/-- The guards created so far that no operation has released. -/
def pending (ops : List Op) (t : Thread) : Finset Nat :=
  (Finset.range t.guards.length).filter fun g => ∀ op ∈ ops, ¬ op.Releases g

/-! ### One operation -/

/-- What is left of a guard after an operation on it. -/
def Op.leaves : Op → Option UserdataGuard
  | .tryPop _ => some ⟨none⟩
  | _ => none

theorem perform_push {t : Thread} (usable : t.key.Usable) (u : VoidPtr) (cb : Option FnPtr) :
    perform t (.push u cb) =
      some (.ok (), ⟨{ t.key with stack := ⟨u, cb⟩ :: t.key.stack }, t.guards ++ [some (.new u)]⟩) := by
  simp [perform, userdataPush_usable usable]

theorem perform_push_unusable {t : Thread} (unusable : ¬ t.key.Usable) (u : VoidPtr) (cb : Option FnPtr) :
    ∃ e, perform t (.push u cb) = some (.error e, t) := by
  obtain ⟨e, refused⟩ := userdataPush_unusable unusable u cb
  exact ⟨e, by simp [perform, refused]⟩

theorem perform_missing {t : Thread} {op : Op} {g : Nat} (releases : op.Releases g)
    (missing : t.guard? g = none) : perform t op = none := by
  cases op with
  | push u cb => exact releases.elim
  | tryPop h | tryDrop h | drop h =>
    obtain rfl : h = g := releases
    simp [perform, missing]

theorem perform_first {t : Thread} {op : Op} {g : Nat} {p : VoidPtr} {top : Userdata} {under : List Userdata}
    (usable : t.key.Usable) (releases : op.Releases g) (guard : t.guard? g = some (.new p))
    (stack : t.key.stack = top :: under) :
    perform t op = some (if top.userdata = p then .ok () else .error .wrongData,
      ⟨{ t.key with stack := under }, t.guards.set g op.leaves⟩) := by
  cases op with
  | push u cb => exact releases.elim
  | tryPop h =>
    obtain rfl : h = g := releases
    simp [perform, guard, tryPop_top usable stack, Op.leaves]
  | tryDrop h =>
    obtain rfl : h = g := releases
    simp [perform, guard, UserdataGuard.tryDrop, tryPop_top usable stack, drop_spent, Op.leaves]
  | drop h =>
    obtain rfl : h = g := releases
    simp [perform, guard, UserdataGuard.drop, tryPop_top usable stack, Op.leaves]

theorem perform_spent {t : Thread} {op : Op} {g : Nat} (releases : op.Releases g)
    (guard : t.guard? g = some ⟨none⟩) :
    perform t op = some (.error .alreadyPopped, ⟨t.key, t.guards.set g op.leaves⟩) := by
  cases op with
  | push u cb => exact releases.elim
  | tryPop h | tryDrop h | drop h =>
    obtain rfl : h = g := releases
    simp [perform, guard, UserdataGuard.tryDrop, UserdataGuard.tryPop, UserdataGuard.drop, Op.leaves]

/-! ### The marked stack behind a thread -/

def mark (s : Stack Userdata) : Op → Stack Userdata
  | .push u cb => s.push ⟨u, cb⟩
  | .tryPop g | .tryDrop g | .drop g => s.release g

/-- The stack after a run, each entry with the guard it was pushed for. -/
def marked (k : UserdataKey) (ops : List Op) : Stack Userdata := ops.foldl mark (.start k.stack)

theorem marked_base (k : UserdataKey) (ops : List Op) : (marked k ops).base = k.stack := by
  have kept (s : Stack Userdata) : (ops.foldl mark s).base = s.base := by
    induction ops generalizing s with
    | nil => rfl
    | cons op rest ih => cases op <;> exact ih _
  exact kept _

theorem mark_release {op : Op} {g : Nat} (releases : op.Releases g) (s : Stack Userdata) :
    mark s op = s.release g := by
  cases op with
  | push u cb => exact releases.elim
  | tryPop h | tryDrop h | drop h =>
    obtain rfl : h = g := releases
    rfl

/-- The thread is in the state that the operations `done` have led to, with `s` the marked stack. -/
structure Tracks (done : List Op) (s : Stack Userdata) (t : Thread) : Prop where
  usable : t.key.Usable
  stack : t.key.stack = s.entries
  created : t.guards.length = s.created
  pending : ∀ g, g ∈ s.pending ↔ g < s.created ∧ ∀ op ∈ done, ¬ op.Releases g
  named : ∀ op ∈ done, ∀ g, op.Releases g → g < s.created
  pushes : (pushed done).length = s.created
  fresh : ∀ g ∈ s.pending, ∃ p, t.guard? g = some (.new p) ∧ (pushed done)[g]? = some p
  spent : ∀ g, g ∉ s.pending → t.guard? g = none ∨ t.guard? g = some ⟨none⟩
  marks : ∀ m ∈ s.marks, (pushed done)[m.1]? = some m.2.userdata

section
variable {k : UserdataKey} {done : List Op} {s : Stack Userdata} {t t' : Thread} {op : Op} {g : Nat}
  {r : Except UserdataError Unit}

theorem Tracks.pending_eq (tracks : Tracks done s t) : Guards.pending done t = s.pending := by
  ext g
  rw [tracks.pending g, Guards.pending, Finset.mem_filter, Finset.mem_range, tracks.created]

theorem guard?_append (t : Thread) (key : UserdataKey) (guard : UserdataGuard) (g : Nat) :
    (Thread.mk key (t.guards ++ [some guard])).guard? g =
      if g = t.guards.length then some guard else t.guard? g := by
  unfold Thread.guard?
  split
  next last => simp [last]
  next other =>
    rcases Nat.lt_or_gt_of_ne other with before | after
    · rw [List.getElem?_append_left before]
    · rw [List.getElem?_eq_none (by simp; omega), List.getElem?_eq_none (by omega)]

theorem guard?_set (t : Thread) (key : UserdataKey) (left : Option UserdataGuard) (g h : Nat)
    (bound : g < t.guards.length) :
    (Thread.mk key (t.guards.set g left)).guard? h = if h = g then left else t.guard? h := by
  unfold Thread.guard?
  split
  next same => simp [same, bound]
  next other => rw [List.getElem?_set_ne (Ne.symm other)]

theorem leaves_spent (op : Op) : op.leaves = none ∨ op.leaves = some ⟨none⟩ := by
  cases op with
  | tryPop g => exact .inr rfl
  | _ => exact .inl rfl

theorem Tracks.push (tracks : Tracks done s t) (u : VoidPtr) (cb : Option FnPtr) :
    Tracks (done ++ [.push u cb]) (s.push ⟨u, cb⟩)
      ⟨{ t.key with stack := ⟨u, cb⟩ :: t.key.stack }, t.guards ++ [some (.new u)]⟩ := by
  have unnamed : ∀ op ∈ done, ¬ op.Releases s.created :=
    fun op member releases => Nat.lt_irrefl _ (tracks.named op member _ releases)
  have older {h : Nat} (member : h ∈ s.pending) : h ≠ t.guards.length := by
    rw [tracks.created]
    exact Nat.ne_of_lt (s.bounded h member)
  have silent (h : Nat) : ¬ (Op.push u cb).Releases h := id
  have pointers : pushed (done ++ [.push u cb]) = pushed done ++ [u] := by simp [pushed, Op.pointer?]
  refine ⟨tracks.usable, by rw [Stack.entries_push, tracks.stack], ?_, fun h => ?_, ?_, ?_, ?_, ?_, ?_⟩
  · simp [Stack.push, tracks.created]
  · have old := tracks.pending h
    simp only [Stack.push, Finset.mem_insert, List.forall_mem_append, List.forall_mem_singleton, silent,
      not_false_eq_true, and_true, Nat.lt_succ_iff_lt_or_eq]
    constructor
    · rintro (rfl | member)
      · exact ⟨.inr rfl, unnamed⟩
      · exact ⟨.inl (old.mp member).1, (old.mp member).2⟩
    · rintro ⟨before | rfl, free⟩
      · exact .inr (old.mpr ⟨before, free⟩)
      · exact .inl rfl
  · intro op member h releases
    rcases List.mem_append.mp member with before | new
    · exact Nat.lt_succ_of_lt (tracks.named op before h releases)
    · exact (silent h (List.mem_singleton.mp new ▸ releases)).elim
  · simp [pointers, tracks.pushes, Stack.push]
  · intro h member
    rw [guard?_append, pointers]
    rcases Finset.mem_insert.mp member with rfl | before
    · exact ⟨u, by rw [if_pos tracks.created.symm], by simp [← tracks.pushes]⟩
    · obtain ⟨p, guard, pointer⟩ := tracks.fresh h before
      rw [if_neg (older before), List.getElem?_append_left (tracks.pushes ▸ s.bounded h before)]
      exact ⟨p, guard, pointer⟩
  · intro h absent
    rw [Stack.push, Finset.mem_insert, not_or] at absent
    rw [guard?_append, if_neg (tracks.created ▸ absent.1)]
    exact tracks.spent h absent.2
  · intro m member
    rw [pointers]
    rcases List.mem_cons.mp member with rfl | before
    · simp [← tracks.pushes]
    · rw [List.getElem?_append_left (tracks.pushes ▸ s.known m before)]
      exact tracks.marks m before

theorem guard?_bound {guard : UserdataGuard} (present : t.guard? g = some guard) : g < t.guards.length := by
  obtain ⟨slot, found, -⟩ := Option.bind_eq_some_iff.mp present
  exact (List.getElem?_eq_some_iff.mp found).1

/-- An operation on a guard keeps the thread in step with the marked stack, once the two stacks agree
about what it does to the entries. -/
theorem Tracks.release (tracks : Tracks done s t) (releases : op.Releases g) (bound : g < t.guards.length)
    {under : List Userdata} (entries : under = (s.release g).entries) :
    Tracks (done ++ [op]) (s.release g) ⟨{ t.key with stack := under }, t.guards.set g op.leaves⟩ := by
  have only {h : Nat} (other : op.Releases h) : h = g := by
    cases op with
    | push u cb => exact releases.elim
    | tryPop i | tryDrop i | drop i => exact Eq.trans (Eq.symm other) releases
  have pointers : pushed (done ++ [op]) = pushed done := by
    cases op with
    | push u cb => exact releases.elim
    | tryPop i | tryDrop i | drop i => simp [pushed, Op.pointer?]
  refine ⟨tracks.usable, entries, by simp [Stack.release, tracks.created], fun h => ?_, ?_, ?_, ?_, ?_, ?_⟩
  · simp only [Stack.release, Finset.mem_erase, tracks.pending h, List.forall_mem_append,
      List.forall_mem_singleton]
    constructor
    · rintro ⟨other, before, free⟩
      exact ⟨before, free, fun named => other (only named)⟩
    · rintro ⟨before, free, unnamed⟩
      exact ⟨fun same => unnamed (same ▸ releases), before, free⟩
  · intro o member h named
    rcases List.mem_append.mp member with before | new
    · exact tracks.named o before h named
    · obtain rfl := only (List.mem_singleton.mp new ▸ named)
      exact tracks.created ▸ bound
  · rw [pointers, tracks.pushes, Stack.release]
  · intro h member
    rw [guard?_set _ _ _ _ _ bound, if_neg (Finset.ne_of_mem_erase member), pointers]
    exact tracks.fresh h (Finset.mem_of_mem_erase member)
  · intro h absent
    rw [guard?_set _ _ _ _ _ bound]
    split
    · exact leaves_spent op
    next other => exact tracks.spent h fun member => absent (Finset.mem_erase.mpr ⟨other, member⟩)
  · intro m member
    rw [pointers]
    exact tracks.marks m (s.mem_of_mem_release member)

/-- The first release takes the top entry off and reports whether that has the guard's pointer. -/
theorem Tracks.first (tracks : Tracks done s t) (releases : op.Releases g) (waiting : g ∈ s.pending) :
    ∃ p top under, (t.guard? g = some (.new p) ∧ (pushed done)[g]? = some p) ∧ t.key.stack = top :: under ∧
      perform t op = some (if top.userdata = p then .ok () else .error .wrongData,
        ⟨{ t.key with stack := under }, t.guards.set g op.leaves⟩) ∧
      Tracks (done ++ [op]) (s.release g) ⟨{ t.key with stack := under }, t.guards.set g op.leaves⟩ := by
  obtain ⟨p, guard, pointer⟩ := tracks.fresh g waiting
  obtain ⟨top, under, stack⟩ : ∃ top under, t.key.stack = top :: under := by
    obtain ⟨m, rest, marks⟩ := s.marks_of_pending waiting
    exact ⟨m.2, rest.map Prod.snd ++ s.base, by simp [tracks.stack, Stack.entries, marks]⟩
  refine ⟨p, top, under, ⟨guard, pointer⟩, stack, perform_first tracks.usable releases guard stack, ?_⟩
  refine tracks.release releases (guard?_bound guard) ?_
  rw [s.entries_release waiting, ← tracks.stack, stack, List.tail_cons]

/-- Any later one reports so and changes nothing. -/
theorem Tracks.later (tracks : Tracks done s t) (releases : op.Releases g) (spent : g ∉ s.pending)
    (performed : perform t op = some (r, t')) :
    r = .error .alreadyPopped ∧ t'.key = t.key ∧ Tracks (done ++ [op]) (s.release g) t' := by
  rcases tracks.spent g spent with missing | guard
  · rw [perform_missing releases missing] at performed
    cases performed
  · rw [perform_spent releases guard] at performed
    obtain ⟨rfl, rfl⟩ := Prod.mk.inj (Option.some.inj performed)
    refine ⟨rfl, rfl, ?_⟩
    exact tracks.release releases (guard?_bound guard) (by rw [s.release_spent spent, tracks.stack])

theorem Tracks.step (tracks : Tracks done s t) (performed : perform t op = some (r, t')) :
    Tracks (done ++ [op]) (mark s op) t' := by
  have releasing (g : Nat) (releases : op.Releases g) : Tracks (done ++ [op]) (mark s op) t' := by
    rw [mark_release releases]
    by_cases waiting : g ∈ s.pending
    · obtain ⟨p, top, under, -, -, run, after⟩ := tracks.first releases waiting
      obtain ⟨-, rfl⟩ := Prod.mk.inj (Option.some.inj (performed.symm.trans run))
      exact after
    · exact (tracks.later releases waiting performed).2.2
  cases op with
  | push u cb =>
    rw [perform_push tracks.usable] at performed
    obtain ⟨-, rfl⟩ := Prod.mk.inj (Option.some.inj performed)
    exact tracks.push u cb
  | tryPop g => exact releasing g rfl
  | tryDrop g => exact releasing g rfl
  | drop g => exact releasing g rfl

theorem run_cons {ops : List Op} (reached : run t (op :: ops) = some t') :
    ∃ r mid, perform t op = some (r, mid) ∧ run mid ops = some t' := by
  obtain ⟨⟨r, mid⟩, performed, rest⟩ := Option.bind_eq_some_iff.mp reached
  exact ⟨r, mid, performed, rest⟩

theorem Tracks.run (tracks : Tracks done s t) {ops : List Op} (reached : run t ops = some t') :
    Tracks (done ++ ops) (ops.foldl mark s) t' := by
  induction ops generalizing done s t with
  | nil =>
    obtain rfl := Option.some.inj reached
    simpa using tracks
  | cons op rest ih =>
    obtain ⟨r, mid, performed, reached⟩ := run_cons reached
    simpa using ih (tracks.step performed) reached

theorem tracks_start (usable : k.Usable) : Tracks [] (.start k.stack) ⟨k, []⟩ := by
  refine ⟨usable, rfl, rfl, ?_, ?_, rfl, ?_, ?_, ?_⟩ <;> simp [Stack.start, Thread.guard?]

theorem run_tracks (usable : k.Usable) {ops : List Op} (reached : run ⟨k, []⟩ ops = some t) :
    Tracks ops (marked k ops) t := by
  simpa [marked] using (tracks_start usable).run reached

/-- During teardown no guard is ever created. -/
theorem run_unusable (unusable : ¬ k.Usable) {ops : List Op} (reached : run ⟨k, []⟩ ops = some t) :
    t = ⟨k, []⟩ := by
  induction ops with
  | nil => exact (Option.some.inj reached).symm
  | cons op rest ih =>
    obtain ⟨r, mid, performed, reached⟩ := run_cons reached
    cases op with
    | push u cb =>
      obtain ⟨e, refused⟩ := perform_push_unusable (t := ⟨k, []⟩) unusable u cb
      obtain ⟨-, rfl⟩ := Prod.mk.inj (Option.some.inj (performed.symm.trans refused))
      exact ih reached
    | tryPop g | tryDrop g | drop g => cases performed

/-! ### How many entries there are -/

theorem run_length {ops : List Op} (reached : run ⟨k, []⟩ ops = some t) :
    t.key.stack.length = k.stack.length + (pending ops t).card := by
  by_cases usable : k.Usable
  · have tracks := run_tracks usable reached
    have base : (marked k ops).base = k.stack := marked_base k ops
    rw [tracks.stack, Stack.entries_length, tracks.pending_eq, base]
  · obtain rfl := run_unusable usable reached
    simp [pending]

theorem no_pending_of_gone {ops : List Op} (reached : run ⟨k, []⟩ ops = some t)
    (gone : ∀ guard ∈ t.guards, guard = none) : pending ops t = ∅ := by
  by_cases usable : k.Usable
  · have tracks := run_tracks usable reached
    rw [tracks.pending_eq, Finset.eq_empty_iff_forall_notMem]
    intro g waiting
    obtain ⟨p, guard, -⟩ := tracks.fresh g waiting
    obtain ⟨slot, found, present⟩ := Option.bind_eq_some_iff.mp guard
    rw [gone slot (List.mem_of_getElem? found)] at present
    cases present
  · obtain rfl := run_unusable usable reached
    rfl

end

/-- However guards are released, there is one entry more than at the start for each guard that has
not been released yet. The first release of a guard takes one entry off, any later one reports so and
changes nothing, and once all guards are gone the stack is as high as it was. -/
theorem one_pop_per_guard (k : UserdataKey) (ops : List Op) {t : Thread} (reached : run ⟨k, []⟩ ops = some t) :
    t.key.stack.length = k.stack.length + (pending ops t).card ∧
    (∀ (op : Op) (g : Nat) (r : Except UserdataError Unit) (t' : Thread),
      op.Releases g → perform t op = some (r, t') →
        (g ∈ pending ops t → r ≠ .error .emptyStack ∧ ∃ top, t.key.stack = top :: t'.key.stack) ∧
        (g ∉ pending ops t → r = .error .alreadyPopped ∧ t'.key = t.key)) ∧
    ((∀ guard ∈ t.guards, guard = none) → t.key.stack.length = k.stack.length) := by
  have length := run_length reached
  refine ⟨length, fun op g r t' releases performed => ?_, fun gone => ?_⟩
  · by_cases usable : k.Usable
    · have tracks := run_tracks usable reached
      rw [tracks.pending_eq]
      refine ⟨fun waiting => ?_, fun spent => ?_⟩
      · obtain ⟨p, top, under, -, stack, first, -⟩ := tracks.first releases waiting
        obtain ⟨rfl, rfl⟩ := Prod.mk.inj (Option.some.inj (performed.symm.trans first))
        refine ⟨?_, top, stack⟩
        split <;> simp
      · obtain ⟨result, key, -⟩ := tracks.later releases spent performed
        exact ⟨result, key⟩
    · obtain rfl := run_unusable usable reached
      rw [perform_missing releases rfl] at performed
      cases performed
  · rw [length, no_pending_of_gone reached gone, Finset.card_empty, Nat.add_zero]

/-- Two guards, the older one released first, and the newer one twice. -/
def crossed : List Op :=
  [.push (some 1) none, .push (some 2) none, .tryDrop 0, .tryPop 1, .drop 1]

theorem one_pop_per_guard_crossed :
    ∃ t, run ⟨{ stack := [⟨none, none⟩] }, []⟩ crossed = some t ∧ t.key.stack.length = 1 := by
  have reached : run ⟨{ stack := [⟨none, none⟩] }, []⟩ crossed =
      some ⟨{ stack := [⟨none, none⟩] }, [none, none]⟩ := by decide
  obtain ⟨-, -, restored⟩ := one_pop_per_guard _ crossed reached
  exact ⟨_, reached, restored (by simp)⟩

/-! ### Whose entry is taken off -/

/-- What the check of `try_pop` needs to tell the guard's own entry from another one: over its own
entry the guard has not been released before, and any other entry has another pointer. -/
def Telling (k : UserdataKey) (ops : List Op) (t : Thread) (g : Nat) : Prop :=
  ((marked k ops).Owns g → g ∈ pending ops t) ∧
  (¬ (marked k ops).Owns g → ∀ top ∈ t.key.stack.head?, t.guard? g ≠ some (.new top.userdata))

section
variable {k : UserdataKey} {ops : List Op} {s : Stack Userdata} {t t' : Thread} {g : Nat}
  {r : Except UserdataError Unit}

theorem rests_foldl {a : Userdata} {l : List Userdata} (rests : s.Rests g a l) (old : g < s.created)
    (ops : List Op) : (ops.foldl mark s).Rests g a l := by
  induction ops generalizing s with
  | nil => exact rests
  | cons op rest ih =>
    cases op with
    | push u cb => exact ih (rests.push old _) (Nat.lt_succ_of_lt old)
    | tryPop h | tryDrop h | drop h => exact ih (rests.release h) old

/-- While its own entry is on top, everything below is what the guard's push found. -/
theorem owns_restores (usable : k.Usable) {before rest : List Op} {u : VoidPtr} {cb : Option FnPtr}
    {t₀ : Thread} (reached₀ : run ⟨k, []⟩ before = some t₀)
    (own : (marked k (before ++ .push u cb :: rest)).Owns t₀.guards.length) :
    (marked k (before ++ .push u cb :: rest)).entries = ⟨u, cb⟩ :: t₀.key.stack := by
  have tracks₀ := run_tracks usable reached₀
  have rests : ((marked k before).push ⟨u, cb⟩).Rests t₀.guards.length ⟨u, cb⟩ t₀.key.stack := by
    rw [tracks₀.created, tracks₀.stack]
    exact Stack.rests_push _
  have older : t₀.guards.length < ((marked k before).push ⟨u, cb⟩).created := by
    rw [tracks₀.created]
    exact Nat.lt_succ_self _
  have still := rests_foldl rests older rest
  rw [marked, List.foldl_append] at own ⊢
  exact still.entries own

theorem Tracks.top (tracks : Tracks ops s t) {top : Userdata} {under : List Userdata} {p : VoidPtr}
    (stack : t.key.stack = top :: under) (waiting : g ∈ s.pending) (pointer : (pushed ops)[g]? = some p) :
    (s.Owns g → top.userdata = p) ∧ ((pushed ops).Nodup → top.userdata = p → s.Owns g) := by
  obtain ⟨m, rest, marks⟩ := s.marks_of_pending waiting
  have entry : m.2 = top := by
    rw [tracks.stack, Stack.entries, marks] at stack
    exact (List.cons.inj stack).1
  have known := tracks.marks m (by simp [marks])
  have owner : s.Owns g ↔ m.1 = g := by simp [Stack.Owns, marks]
  rw [owner]
  refine ⟨fun same => ?_, fun distinct same => ?_⟩
  · rw [same, pointer, entry] at known
    exact (Option.some.inj known).symm
  · rw [entry, same] at known
    exact (List.getElem?_inj (List.getElem?_eq_some_iff.mp known).1 distinct).mp (known.trans pointer.symm)

theorem telling_waiting {top : Userdata} {under : List Userdata} {p : VoidPtr} (waiting : g ∈ pending ops t)
    (guard : t.guard? g = some (.new p)) (stack : t.key.stack = top :: under) :
    Telling k ops t g ↔ (marked k ops).Owns g ∨ top.userdata ≠ p := by
  have different : (∀ x ∈ t.key.stack.head?, t.guard? g ≠ some (.new x.userdata)) ↔ top.userdata ≠ p := by
    simp [stack, guard, UserdataGuard.new, eq_comm]
  rw [Telling, different]
  by_cases own : (marked k ops).Owns g <;> simp [own, waiting]

theorem telling_spent (tracks : Tracks ops (marked k ops) t) (spent : g ∉ pending ops t) :
    Telling k ops t g ↔ ¬ (marked k ops).Owns g := by
  have forgotten (p : VoidPtr) : t.guard? g ≠ some (.new p) := by
    rcases tracks.spent g (tracks.pending_eq ▸ spent) with missing | guard <;>
      simp_all [UserdataGuard.new]
  refine ⟨fun telling own => spent (telling.1 own), fun foreign => ?_⟩
  exact ⟨fun own => absurd own foreign, fun _ top _ => forgotten _⟩

end

/-- The `try_drop` of a guard succeeds exactly over the guard's own entry, if and only if the check can
tell, as it can for a guard that was not released before when no two pushes have the same pointer. A
success then uncovers the stack that the guard's push found. -/
theorem out_of_order_detected (k : UserdataKey) (ops : List Op) {t t' : Thread} {g : Nat}
    {r : Except UserdataError Unit} (reached : run ⟨k, []⟩ ops = some t)
    (released : perform t (.tryDrop g) = some (r, t')) :
    ((r = .ok () ↔ (marked k ops).Owns g) ↔ Telling k ops t g) ∧
    ((pushed ops).Nodup → g ∈ pending ops t → Telling k ops t g) ∧
    (Telling k ops t g → r = .ok () → ∀ (before : List Op) (u : VoidPtr) (cb : Option FnPtr) (rest : List Op)
      (t₀ : Thread), ops = before ++ .push u cb :: rest → run ⟨k, []⟩ before = some t₀ →
        t₀.guards.length = g → t'.key.stack = t₀.key.stack) := by
  have releases : (Op.tryDrop g).Releases g := rfl
  by_cases usable : k.Usable
  · have tracks := run_tracks usable reached
    by_cases waiting : g ∈ pending ops t
    · have waiting' := waiting
      rw [tracks.pending_eq] at waiting'
      obtain ⟨p, top, under, ⟨guard, pointer⟩, stack, first, -⟩ := tracks.first releases waiting'
      obtain ⟨rfl, rfl⟩ := Prod.mk.inj (Option.some.inj (released.symm.trans first))
      obtain ⟨same, own⟩ := tracks.top stack waiting' pointer
      have passed : (if top.userdata = p then .ok () else .error .wrongData : Except UserdataError Unit) =
          .ok () ↔ top.userdata = p := by
        split <;> simp_all
      rw [passed, telling_waiting waiting guard stack]
      refine ⟨?_, fun distinct _ => ?_, ?_⟩
      · by_cases owns : (marked k ops).Owns g <;> simp [owns, same]
      · by_cases owns : (marked k ops).Owns g
        · exact .inl owns
        · exact .inr fun equal => owns (own distinct equal)
      · rintro (owns | different) equal before u cb rest t₀ rfl reached₀ rfl
        · rw [tracks.stack, owns_restores usable reached₀ owns] at stack
          exact (List.cons.inj stack).2.symm
        · exact absurd equal different
    · obtain ⟨rfl, -, -⟩ := tracks.later releases (tracks.pending_eq ▸ waiting) released
      rw [telling_spent tracks waiting]
      exact ⟨by simp, fun _ member => absurd member waiting, fun _ passed => nomatch passed⟩
  · obtain rfl := run_unusable usable reached
    cases released

/-- Two pointers, released in the order of a stack. -/
def nested : List Op := [.push (some 1) (some 7), .push (some 2) none]

theorem out_of_order_detected_nested :
    ∃ t t' r, run ⟨{}, []⟩ nested = some t ∧ perform t (.tryDrop 1) = some (r, t') ∧ r = .ok () ∧
      t'.key.stack = [⟨some 1, some 7⟩] := by
  have reached : run ⟨{}, []⟩ nested =
      some ⟨{ stack := [⟨some 2, none⟩, ⟨some 1, some 7⟩] }, [some (.new (some 1)), some (.new (some 2))]⟩ := by
    decide
  have released : perform ⟨{ stack := [⟨some 2, none⟩, ⟨some 1, some 7⟩] },
      [some (.new (some 1)), some (.new (some 2))]⟩ (.tryDrop 1) =
        some (.ok (), ⟨{ stack := [⟨some 1, some 7⟩] }, [some (.new (some 1)), none]⟩) := by
    decide
  obtain ⟨-, telling, restored⟩ := out_of_order_detected {} nested reached released
  have restores := restored (telling (by decide) (by decide)) rfl [.push (some 1) (some 7)] (some 2) none [] _ rfl
    rfl rfl
  exact ⟨_, _, _, reached, released, rfl, restores⟩

/-- Two connections without userdata: the older guard takes the entry of the newer one off without
noticing, and the log callback of the older connection stays behind. -/
theorem sameUserdata_undetected :
    ∃ t t', run ⟨{}, []⟩ [.push none (some 1), .push none (some 2)] = some t ∧
      perform t (.tryDrop 0) = some (.ok (), t') ∧
      ¬ (marked {} [.push none (some 1), .push none (some 2)]).Owns 0 ∧
      t'.key.stack = [⟨none, some 1⟩] := by
  refine ⟨⟨{ stack := [⟨none, some 2⟩, ⟨none, some 1⟩] }, [some (.new none), some (.new none)]⟩,
    ⟨{ stack := [⟨none, some 1⟩] }, [none, some (.new none)]⟩, ?_⟩
  decide

end RustlsFfi.Guards
