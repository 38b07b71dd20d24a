import Mathlib.Data.Finset.Card

/-!
# Stacks with tokens

Every push hands out a token, and releasing a token takes the top entry off once, whichever token
that entry was pushed for. Each entry is marked with its token, so that an order of releases can be
told from another one.
-/

namespace RustlsFfi.Marked

variable {α : Type}

structure Stack (α : Type) where
  /-- The entries that were there before the first push. -/
  base : List α
  /-- The entries pushed since then with their tokens, the top first. -/
  marks : List (Nat × α)
  created : Nat
  pending : Finset Nat
  bounded : ∀ g ∈ pending, g < created
  known : ∀ m ∈ marks, m.1 < created
  counted : marks.length = pending.card

namespace Stack

def start (base : List α) : Stack α where
  base := base
  marks := []
  created := 0
  pending := ∅
  bounded := by simp
  known := by simp
  counted := rfl

def entries (s : Stack α) : List α := s.marks.map Prod.snd ++ s.base

def push (s : Stack α) (a : α) : Stack α where
  base := s.base
  marks := (s.created, a) :: s.marks
  created := s.created + 1
  pending := insert s.created s.pending
  bounded := by
    intro g member
    rcases Finset.mem_insert.mp member with rfl | old
    · exact Nat.lt_succ_self _
    · exact Nat.lt_succ_of_lt (s.bounded g old)
  known := by
    intro m member
    rcases List.mem_cons.mp member with rfl | old
    · exact Nat.lt_succ_self _
    · exact Nat.lt_succ_of_lt (s.known m old)
  counted := by
    have fresh : s.created ∉ s.pending := fun member => Nat.lt_irrefl _ (s.bounded _ member)
    rw [Finset.card_insert_of_notMem fresh, ← s.counted, List.length_cons]

/-- The first release of a token takes an entry off, any other one does nothing. -/
def release (s : Stack α) (g : Nat) : Stack α where
  base := s.base
  marks := if g ∈ s.pending then s.marks.tail else s.marks
  created := s.created
  pending := s.pending.erase g
  bounded h member := s.bounded h (Finset.mem_of_mem_erase member)
  known := by
    intro m member
    split at member
    · exact s.known m (List.mem_of_mem_tail member)
    · exact s.known m member
  counted := by
    split
    next member => rw [List.length_tail, s.counted, Finset.card_erase_of_mem member]
    next spent => rw [s.counted, Finset.erase_eq_of_notMem spent]

variable (s : Stack α)

@[simp] theorem entries_start (base : List α) : (start base).entries = base := rfl

@[simp] theorem entries_push (a : α) : (s.push a).entries = a :: s.entries := rfl

theorem entries_length : s.entries.length = s.base.length + s.pending.card := by
  simp [entries, s.counted, Nat.add_comm]

theorem marks_of_pending {g : Nat} (member : g ∈ s.pending) : ∃ m under, s.marks = m :: under := by
  refine List.exists_cons_of_length_pos ?_
  rw [s.counted]
  exact Finset.card_pos.mpr ⟨g, member⟩

theorem entries_release {g : Nat} (member : g ∈ s.pending) : (s.release g).entries = s.entries.tail := by
  obtain ⟨m, under, marks⟩ := s.marks_of_pending member
  simp [entries, release, member, marks]

theorem release_spent {g : Nat} (spent : g ∉ s.pending) : s.release g = s := by
  simp [release, spent]

theorem mem_of_mem_release {g : Nat} {m : Nat × α} (member : m ∈ (s.release g).marks) : m ∈ s.marks := by
  unfold release at member
  dsimp only at member
  split at member
  · exact List.mem_of_mem_tail member
  · exact member

/-! ### Whose entry is on top -/

/-- The entry on top is the one that was pushed for `g`. -/
def Owns (s : Stack α) (g : Nat) : Prop := s.marks.head?.map Prod.fst = some g

instance (g : Nat) : Decidable (s.Owns g) := inferInstanceAs (Decidable (_ = _))

/-- As long as the entry of `g` is on the stack, it is `a` and lies on `l`. -/
def Rests (s : Stack α) (g : Nat) (a : α) (l : List α) : Prop :=
  ∀ above m under, s.marks = above ++ m :: under → m.1 = g → m.2 = a ∧ under.map Prod.snd ++ s.base = l

variable {s} {g : Nat} {a : α} {l : List α}

theorem rests_push (a : α) : (s.push a).Rests s.created a s.entries := by
  intro above m under split own
  cases above with
  | nil =>
    obtain ⟨rfl, rfl⟩ := List.cons.inj split
    exact ⟨rfl, rfl⟩
  | cons x above =>
    have member : m ∈ s.marks := by simp [(List.cons.inj split).2]
    exact absurd (s.known m member) (own ▸ Nat.lt_irrefl _)

theorem Rests.push (rests : s.Rests g a l) (old : g < s.created) (b : α) : (s.push b).Rests g a l := by
  intro above m under split own
  cases above with
  | nil =>
    obtain ⟨rfl, -⟩ := List.cons.inj split
    exact absurd own (Nat.ne_of_gt old)
  | cons x above => exact rests above m under (List.cons.inj split).2 own

theorem Rests.release (rests : s.Rests g a l) (h : Nat) : (s.release h).Rests g a l := by
  by_cases member : h ∈ s.pending
  · obtain ⟨top, under', marks⟩ := s.marks_of_pending member
    intro above m under split own
    refine rests (top :: above) m under ?_ own
    simpa [Stack.release, member, marks] using split
  · rw [release_spent s member]
    exact rests

theorem Rests.entries (rests : s.Rests g a l) (own : s.Owns g) : s.entries = a :: l := by
  obtain ⟨m, top, rfl⟩ := Option.map_eq_some_iff.mp own
  obtain ⟨under, marks⟩ := List.head?_eq_some_iff.mp top
  obtain ⟨rfl, rfl⟩ := rests [] m under marks rfl
  simp [Stack.entries, marks]

end Stack

end RustlsFfi.Marked
