import Mathlib.Algebra.Order.Ring.Nat
import Mathlib.Data.List.Basic
import Mathlib.Data.List.ReduceOption

/-!
# Arenas

An arena is a list of slots, each empty or holding an object. An address is a position. Addresses
are not reused. `total f` adds up `f` over the live objects.
-/

namespace RustlsFfi.Arena

variable {α β : Type}

theorem sum_map_set (f : α → Nat) (l : List α) (i : Nat) (x y : α) (h : l[i]? = some x) :
    ((l.set i y).map f).sum + f x = (l.map f).sum + f y := by
  induction l generalizing i with
  | nil => simp at h
  | cons z l ih =>
    cases i with
    | zero =>
      obtain rfl : z = x := by simpa using h
      simp only [List.set_cons_zero, List.map_cons, List.sum_cons]
      omega
    | succ i =>
      have tail := ih i (by simpa using h)
      simp only [List.set_cons_succ, List.map_cons, List.sum_cons]
      omega

theorem map_some_reduceOption {l : List (Option α)} (present : ∀ o ∈ l, o ≠ none) :
    l.reduceOption.map some = l := by
  induction l with
  | nil => rfl
  | cons o rest ih =>
    cases o with
    | none => exact absurd rfl (present none (by simp))
    | some a => rw [List.reduceOption_cons_of_some, List.map_cons, ih fun o member => present o (by simp [member])]

def get (l : List (Option α)) (a : Nat) : Option α := l[a]?.join

def put (l : List (Option α)) (a : Nat) (v : α) : List (Option α) := l.set a (some v)

def free (l : List (Option α)) (a : Nat) : List (Option α) := l.set a none

def alloc (l : List (Option α)) (v : α) : List (Option α) := l ++ [some v]

/-- `f` summed over the live objects. -/
def total (f : α → Nat) (l : List (Option α)) : Nat := (l.map (fun o => o.elim 0 f)).sum

theorem get_eq_some {l : List (Option α)} {a : Nat} {v : α} :
    get l a = some v ↔ l[a]? = some (some v) := by
  unfold get
  cases l[a]? with
  | none => simp
  | some o => simp

theorem get_put_same {l : List (Option α)} {a : Nat} {v : α} (w : α) (h : get l a = some v) :
    get (put l a w) a = some w := by
  have bound := (List.getElem?_eq_some_iff.mp (get_eq_some.mp h)).1
  simp [get, put, bound]

theorem get_put_other {l : List (Option α)} {a b : Nat} (v : α) (h : a ≠ b) :
    get (put l a v) b = get l b := by
  simp [get, put, h]

theorem get_alloc_new (l : List (Option α)) (v : α) : get (alloc l v) l.length = some v := by
  simp [get, alloc]

theorem get_put_cases {l : List (Option α)} {a b : Nat} {u v : α} (h : get (put l a u) b = some v) :
    v = u ∨ get l b = some v := by
  by_cases same : a = b
  · subst same
    refine .inl ?_
    simp only [get, put, List.getElem?_set, ↓reduceIte] at h
    split at h
    · simpa using h.symm
    · simp at h
  · exact .inr (by rwa [get_put_other u same] at h)

theorem get_free_old {l : List (Option α)} {a b : Nat} {v : α} (h : get (free l a) b = some v) :
    get l b = some v := by
  rw [get_eq_some] at h ⊢
  rw [free, List.getElem?_set] at h
  split at h
  · split at h <;> simp at h
  · exact h

theorem get_alloc_cases {l : List (Option α)} {b : Nat} {u v : α} (h : get (alloc l u) b = some v) :
    v = u ∨ get l b = some v := by
  rw [get_eq_some, alloc] at h
  by_cases old : b < l.length
  · rw [List.getElem?_append_left old] at h
    exact .inr (get_eq_some.mpr h)
  · rw [List.getElem?_append_right (Nat.le_of_not_lt old)] at h
    exact .inl (by simpa using (List.mem_of_getElem? h))

theorem total_put (f : α → Nat) {l : List (Option α)} {a : Nat} {v : α} (w : α)
    (h : get l a = some v) : total f (put l a w) + f v = total f l + f w := by
  exact sum_map_set (fun o : Option α => o.elim 0 f) l a (some v) (some w) (get_eq_some.mp h)

theorem total_free (f : α → Nat) {l : List (Option α)} {a : Nat} {v : α} (h : get l a = some v) :
    total f (free l a) + f v = total f l := by
  exact sum_map_set (fun o : Option α => o.elim 0 f) l a (some v) none (get_eq_some.mp h)

theorem total_alloc (f : α → Nat) (l : List (Option α)) (v : α) :
    total f (alloc l v) = total f l + f v := by
  simp [total, alloc]

/-! ### What an operation leaves alone -/

theorem get_eq_none {l : List (Option α)} {a : Nat} (past : l.length ≤ a) : get l a = none := by
  simp [get, past]

theorem get_free_same (l : List (Option α)) (a : Nat) : get (free l a) a = none := by
  by_cases bound : a < l.length <;> simp [get, free, bound]

theorem get_free_other {l : List (Option α)} {a b : Nat} (h : a ≠ b) : get (free l a) b = get l b := by
  simp [get, free, h]

theorem get_alloc_old (l : List (Option α)) (v : α) {a : Nat} (old : a < l.length) :
    get (alloc l v) a = get l a := by
  simp [get, alloc, List.getElem?_append_left old]

/-- How an arena may differ after an operation on the object at `p`. Objects go only if `consumes`, and
come only if `creates`. -/
structure Kept (p : Option Nat) (consumes creates : Bool) (l l' : List (Option α)) : Prop where
  same : ∀ a v, p ≠ some a → get l a = some v → get l' a = some v
  live : consumes = false → ∀ a, get l a ≠ none → get l' a ≠ none
  old : ∀ a, a < l.length → get l' a ≠ none → get l a ≠ none
  grows : l.length ≤ l'.length
  noNew : creates = false → l'.length = l.length

section
variable {p : Option Nat} {consumes creates : Bool} {l : List (Option α)}

@[simp] theorem Kept.refl : Kept p consumes creates l l :=
  ⟨fun _ _ _ h => h, fun _ _ h => h, fun _ _ h => h, Nat.le_refl _, fun _ => rfl⟩

theorem Kept.put {a : Nat} {u : α} (v : α) (given : p = some a) (found : get l a = some u) :
    Kept p consumes creates l (Arena.put l a v) where
  same b x other was := by
    have ne : a ≠ b := fun same => other (same ▸ given)
    rwa [get_put_other v ne]
  live _ b was := by
    by_cases same : a = b
    · subst same
      simp [get_put_same v found]
    · rwa [get_put_other v same]
  old b _ now := by
    by_cases same : a = b
    · subst same
      simp [found]
    · rwa [get_put_other v same] at now
  grows := by simp [Arena.put]
  noNew _ := by simp [Arena.put]

theorem Kept.free {a : Nat} (given : p = some a) (consumed : consumes = true) :
    Kept p consumes creates l (Arena.free l a) where
  same b x other was := by
    have ne : a ≠ b := fun same => other (same ▸ given)
    rwa [get_free_other ne]
  live kept := by simp [kept] at consumed
  old b _ now := by
    obtain ⟨x, now⟩ := Option.ne_none_iff_exists'.mp now
    simp [get_free_old now]
  grows := by simp [Arena.free]
  noNew _ := by simp [Arena.free]

theorem Kept.alloc (v : α) (created : creates = true) : Kept p consumes creates l (Arena.alloc l v) where
  same a x _ was := by
    rwa [get_alloc_old l v (List.getElem?_eq_some_iff.mp (get_eq_some.mp was)).1]
  live _ a was := by
    by_cases old : a < l.length
    · rwa [get_alloc_old l v old]
    · exact absurd (get_eq_none (Nat.le_of_not_lt old)) was
  old a old now := by rwa [get_alloc_old l v old] at now
  grows := by simp [Arena.alloc]
  noNew none := by simp [none] at created

theorem Kept.alive {l' : List (Option α)} (kept : Kept p consumes creates l l') {a : Nat}
    (spared : consumes = true → p ≠ some a) (live : get l a ≠ none) : get l' a ≠ none := by
  cases taken : consumes with
  | false => exact kept.live taken a live
  | true =>
    obtain ⟨v, found⟩ := Option.ne_none_iff_exists'.mp live
    simp [kept.same a v (spared taken) found]

theorem Kept.was {l' : List (Option α)} (kept : Kept p consumes creates l l') (noneNew : creates = false) {a : Nat}
    (live : get l' a ≠ none) : get l a ≠ none := by
  by_cases old : a < l.length
  · exact kept.old a old live
  · have past : l'.length ≤ a := by
      rw [kept.noNew noneNew]
      omega
    exact absurd (get_eq_none past) live

end

theorem live_alloc (l : List (Option α)) (v : α) (a : Nat) :
    get (alloc l v) a ≠ none ↔ get l a ≠ none ∨ a = l.length := by
  rcases Nat.lt_trichotomy a l.length with old | rfl | past
  · rw [get_alloc_old l v old]
    simp [Nat.ne_of_lt old]
  · simp [get_alloc_new]
  · have outside : (alloc l v).length ≤ a := by
      rw [alloc, List.length_append, List.length_singleton]
      omega
    simp [get_eq_none outside, get_eq_none (Nat.le_of_lt past), Nat.ne_of_gt past]

theorem total_eq_zero (f : α → Nat) {l : List (Option α)} (empty : ∀ a, get l a = none) : total f l = 0 := by
  refine List.sum_eq_zero_iff_forall_eq_nat.mpr ?_
  intro n member
  obtain ⟨o, slot, rfl⟩ := List.mem_map.mp member
  obtain ⟨a, found⟩ := List.mem_iff_getElem?.mp slot
  have gone : o = none := by simpa [get, found] using empty a
  simp [gone]

end RustlsFfi.Arena
