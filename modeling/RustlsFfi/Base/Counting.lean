import RustlsFfi.Base.Arena

/-!
# Reference counts

A heap of reference-counted values. `refs` names the counted references a value owns; values
that own some may refer only to values that own none. `Balanced h ext` says that every count is
the number of references held outside the heap (`ext`) and by its live values together. Each rule
below moves references between the outside, the values and nowhere.
-/

namespace RustlsFfi.Counting

/-- A counted allocation; `destroyed` is how often the value's destructor has run. -/
structure Cell (ν : Type) where
  strong : Nat
  value : ν
  destroyed : Nat
  deriving DecidableEq, Repr

abbrev Heap (ν : Type) := List (Cell ν)

variable {ν : Type}

def strong (h : Heap ν) (a : Nat) : Nat := h[a]?.elim 0 Cell.strong

def valueAt (h : Heap ν) (a : Nat) : Option ν := h[a]?.map Cell.value

def alloc (h : Heap ν) (v : ν) : Heap ν := h ++ [⟨1, v, 0⟩]

def retain (h : Heap ν) (a : Nat) : Heap ν :=
  match h[a]? with
  | none => h
  | some c => h.set a { c with strong := c.strong + 1 }

/-- Drop a reference. The destructor of a value dropped for good runs only with `glue`, the drop
glue of the type the reference was dropped at. References the value owns are left to `release`. -/
def releaseLeaf (glue : Bool) (h : Heap ν) (a : Nat) : Heap ν :=
  match h[a]? with
  | none => h
  | some c =>
    h.set a { c with
      strong := c.strong - 1
      destroyed := if c.strong = 1 && glue then c.destroyed + 1 else c.destroyed }

/-- Drop a reference, and with the last one everything the value owns. -/
def release (refs : ν → List Nat) (glue : Bool) (h : Heap ν) (a : Nat) : Heap ν :=
  match h[a]? with
  | none => h
  | some c =>
    if c.strong = 1 && glue then (refs c.value).foldl (releaseLeaf true) (releaseLeaf glue h a)
    else releaseLeaf glue h a

/-- The references to `a` that a cell owns. -/
def Cell.holds (refs : ν → List Nat) (c : Cell ν) (a : Nat) : Nat :=
  if c.destroyed = 0 then (refs c.value).count a else 0

/-- The references to `a` owned by live values of the heap. -/
def held (refs : ν → List Nat) (h : Heap ν) (a : Nat) : Nat := (h.map (fun c => c.holds refs a)).sum

def Leaf (refs : ν → List Nat) (h : Heap ν) (a : Nat) : Prop :=
  ∃ v, valueAt h a = some v ∧ refs v = []

structure Balanced (refs : ν → List Nat) (h : Heap ν) (ext : Nat → Nat) : Prop where
  count : ∀ a, strong h a = ext a + held refs h a
  flat : ∀ c ∈ h, ∀ r ∈ refs c.value, Leaf refs h r
  live : ∀ c ∈ h, refs c.value ≠ [] → (c.destroyed = 0 ↔ 0 < c.strong)

/-! ### Values never change -/

theorem valueAt_set {h : Heap ν} {a : Nat} {c c' : Cell ν} (found : h[a]? = some c)
    (same : c'.value = c.value) (b : Nat) : valueAt (h.set a c') b = valueAt h b := by
  obtain ⟨bound, rfl⟩ := List.getElem?_eq_some_iff.mp found
  unfold valueAt
  rw [List.getElem?_set]
  split
  next eq =>
    subst eq
    simp [bound, same]
  · rfl

@[simp] theorem valueAt_retain (h : Heap ν) (a b : Nat) : valueAt (retain h a) b = valueAt h b := by
  unfold retain
  split
  · rfl
  next found =>
    rw [valueAt_set found]
    rfl

@[simp] theorem valueAt_releaseLeaf (glue : Bool) (h : Heap ν) (a b : Nat) :
    valueAt (releaseLeaf glue h a) b = valueAt h b := by
  unfold releaseLeaf
  split
  · rfl
  next found =>
    rw [valueAt_set found]
    rfl

theorem valueAt_releaseLeaves (glue : Bool) (l : List Nat) (h : Heap ν) (b : Nat) :
    valueAt (l.foldl (releaseLeaf glue) h) b = valueAt h b := by
  induction l generalizing h with
  | nil => rfl
  | cons a l ih => rw [List.foldl_cons, ih, valueAt_releaseLeaf]

@[simp] theorem valueAt_release (refs : ν → List Nat) (glue : Bool) (h : Heap ν) (a b : Nat) :
    valueAt (release refs glue h a) b = valueAt h b := by
  unfold release
  split
  · rfl
  · split
    · rw [valueAt_releaseLeaves, valueAt_releaseLeaf]
    · rw [valueAt_releaseLeaf]

theorem valueAt_lt {h : Heap ν} {a : Nat} {v : ν} (found : valueAt h a = some v) : a < h.length := by
  obtain ⟨c, found, -⟩ := Option.map_eq_some_iff.mp found
  exact (List.getElem?_eq_some_iff.mp found).1

theorem valueAt_alloc_new (h : Heap ν) (v : ν) : valueAt (alloc h v) h.length = some v := by
  simp [valueAt, alloc]

theorem valueAt_alloc_old {h : Heap ν} {a : Nat} {v : ν} (w : ν) (found : valueAt h a = some v) :
    valueAt (alloc h w) a = some v := by
  have bound := valueAt_lt found
  rw [← found]
  simp [valueAt, alloc, List.getElem?_append_left bound]

section
variable {refs : ν → List Nat} {h : Heap ν} {ext : Nat → Nat} {a : Nat}

theorem Leaf.alloc (leaf : Leaf refs h a) (v : ν) : Leaf refs (Counting.alloc h v) a := by
  obtain ⟨u, found, owns⟩ := leaf
  exact ⟨u, valueAt_alloc_old v found, owns⟩

theorem leaf_iff_of_values {h' : Heap ν} (same : ∀ b, valueAt h' b = valueAt h b) :
    Leaf refs h' a ↔ Leaf refs h a := by
  simp [Leaf, same]

theorem count_cons_singleton (a b : Nat) (l : List Nat) :
    (a :: l).count b = [a].count b + l.count b := by
  rw [← List.count_append, List.singleton_append]

/-! ### Replacing one cell -/

theorem strong_set {c : Cell ν} (c' : Cell ν) (found : h[a]? = some c) (b : Nat) :
    strong (h.set a c') b + [a].count b * c.strong = strong h b + [a].count b * c'.strong := by
  obtain ⟨bound, rfl⟩ := List.getElem?_eq_some_iff.mp found
  unfold strong
  rw [List.getElem?_set]
  split
  next eq =>
    subst eq
    simp [bound, Nat.add_comm]
  next ne => simp [ne]

theorem held_set {c : Cell ν} (c' : Cell ν) (found : h[a]? = some c) (b : Nat) :
    held refs (h.set a c') b + c.holds refs b = held refs h b + c'.holds refs b :=
  Arena.sum_map_set (fun c => c.holds refs b) h a c c' found

theorem Balanced.set {c c' : Cell ν} {ext' : Nat → Nat} (balanced : Balanced refs h ext)
    (found : h[a]? = some c) (same : c'.value = c.value)
    (live : refs c.value ≠ [] → (c'.destroyed = 0 ↔ 0 < c'.strong))
    (moved : ∀ b, ext b + [a].count b * c'.strong + c.holds refs b =
      ext' b + [a].count b * c.strong + c'.holds refs b) :
    Balanced refs (h.set a c') ext' where
  count b := by
    have before := balanced.count b
    have strongs := strong_set c' found b
    have helds : held refs (h.set a c') b + c.holds refs b = _ := held_set c' found b
    have exchange := moved b
    omega
  flat d member r own := by
    rw [leaf_iff_of_values (valueAt_set found same)]
    rcases List.mem_or_eq_of_mem_set member with old | rfl
    · exact balanced.flat d old r own
    · exact balanced.flat c (List.mem_of_getElem? found) r (same ▸ own)
  live d member owns := by
    rcases List.mem_or_eq_of_mem_set member with old | rfl
    · exact balanced.live d old owns
    · exact live (same ▸ owns)

theorem Balanced.congr {ext' : Nat → Nat} (balanced : Balanced refs h ext)
    (same : ∀ b, ext b = ext' b) : Balanced refs h ext' := by
  obtain rfl : ext = ext' := funext same
  exact balanced

theorem found_of_strong (positive : 0 < strong h a) : ∃ c, h[a]? = some c ∧ c.strong = strong h a := by
  unfold strong at positive ⊢
  cases found : h[a]? with
  | none => simp [found] at positive
  | some c => exact ⟨c, rfl, rfl⟩

/-! ### The rules -/

theorem Balanced.retain (balanced : Balanced refs h ext) (positive : 0 < strong h a) :
    Balanced refs (retain h a) (fun b => ext b + [a].count b) := by
  obtain ⟨c, found, eq⟩ := found_of_strong positive
  simp only [Counting.retain, found]
  refine balanced.set found rfl ?_ ?_
  · intro owns
    have before := balanced.live c (List.mem_of_getElem? found) owns
    simp only [before]
    omega
  · intro b
    simp only [Cell.holds, Nat.mul_add, Nat.mul_one]
    omega

theorem Balanced.strong_pos (balanced : Balanced refs h (fun b => ext b + [a].count b)) :
    0 < strong h a := by
  rw [balanced.count a, List.count_singleton_self]
  omega

/-- Drop a reference that is not the last one, or one of a value that owns nothing. -/
theorem Balanced.releaseLeaf (glue : Bool) (balanced : Balanced refs h (fun b => ext b + [a].count b))
    (simple : 1 < strong h a ∨ Leaf refs h a) : Balanced refs (releaseLeaf glue h a) ext := by
  obtain ⟨c, found, eq⟩ := found_of_strong balanced.strong_pos
  have positive : 0 < c.strong := eq ▸ balanced.strong_pos
  have alive : 1 < c.strong ∨ refs c.value = [] := by
    rcases simple with many | ⟨v, value, owns⟩
    · exact .inl (eq ▸ many)
    · obtain rfl : c.value = v := by simpa [valueAt, found] using value
      exact .inr owns
  simp only [Counting.releaseLeaf, found]
  refine balanced.set found rfl ?_ ?_
  · intro owns
    have many := alive.resolve_right owns
    have last : ¬ c.strong = 1 := by omega
    have before := balanced.live c (List.mem_of_getElem? found) owns
    simp only [last, decide_false, Bool.false_and, Bool.false_eq_true, ↓reduceIte, before]
    omega
  · intro b
    have split : [a].count b * c.strong = [a].count b * (c.strong - 1) + [a].count b := by
      rw [← Nat.mul_succ]
      congr 1
      omega
    rcases alive with many | owns
    · have last : ¬ c.strong = 1 := by omega
      simp only [Cell.holds, last, decide_false, Bool.false_and, Bool.false_eq_true, ↓reduceIte]
      omega
    · simp only [Cell.holds, owns, List.count_nil, ite_self]
      omega

theorem Balanced.releaseLeaves {l : List Nat} (balanced : Balanced refs h (fun b => ext b + l.count b))
    (leaves : ∀ r ∈ l, Leaf refs h r) : Balanced refs (l.foldl (Counting.releaseLeaf true) h) ext := by
  induction l generalizing h with
  | nil => exact balanced.congr (by simp)
  | cons a l ih =>
    have first : Balanced refs h (fun b => (ext b + l.count b) + [a].count b) :=
      balanced.congr fun b => by rw [count_cons_singleton]; omega
    refine ih (first.releaseLeaf true (.inr (leaves a (by simp)))) fun r member => ?_
    rw [leaf_iff_of_values (valueAt_releaseLeaf true h a)]
    exact leaves r (by simp [member])

/-- Drop a reference with everything that goes away with it. Without drop glue, the value must own
nothing. -/
theorem Balanced.release (glue : Bool) (balanced : Balanced refs h (fun b => ext b + [a].count b))
    (typed : glue = true ∨ Leaf refs h a) : Balanced refs (release refs glue h a) ext := by
  obtain ⟨c, found, eq⟩ := found_of_strong balanced.strong_pos
  have positive : 0 < c.strong := eq ▸ balanced.strong_pos
  simp only [Counting.release, found]
  split
  next last =>
    obtain ⟨one, rfl⟩ : c.strong = 1 ∧ glue = true := by simpa using last
    have member := List.mem_of_getElem? found
    -- The value's own references pass to the outside, and are dropped from there.
    have opened : Balanced refs (Counting.releaseLeaf true h a)
        (fun b => ext b + (refs c.value).count b) := by
      simp only [Counting.releaseLeaf, found, one]
      refine balanced.set found rfl (by simp) fun b => ?_
      by_cases owns : refs c.value = []
      · simp [Cell.holds, owns, one]
      · have alive := (balanced.live c member owns).mpr positive
        simp [Cell.holds, alive, one]
        omega
    refine opened.releaseLeaves fun r own => ?_
    rw [leaf_iff_of_values (valueAt_releaseLeaf true h a)]
    exact balanced.flat c member r own
  next more =>
    refine balanced.releaseLeaf glue ?_
    rcases typed with rfl | leaf
    · have last : ¬ c.strong = 1 := by simpa using more
      exact .inl (by omega)
    · exact .inr leaf

theorem Balanced.alloc {v : ν} (balanced : Balanced refs h (fun b => ext b + (refs v).count b))
    (leaves : ∀ r ∈ refs v, Leaf refs h r) :
    Balanced refs (alloc h v) (fun b => ext b + [h.length].count b) where
  count b := by
    have before := balanced.count b
    have helds : held refs (Counting.alloc h v) b = held refs h b + (refs v).count b := by
      simp [held, Counting.alloc, Cell.holds]
    have strongs : strong (Counting.alloc h v) b = strong h b + [h.length].count b := by
      unfold strong Counting.alloc
      rcases Nat.lt_trichotomy b h.length with lt | rfl | gt
      · simp [List.getElem?_append_left lt, Nat.ne_of_gt lt]
      · simp
      · have past : (h ++ [⟨1, v, 0⟩])[b]? = none := List.getElem?_eq_none (by simp; omega)
        simp [past, List.getElem?_eq_none (Nat.le_of_lt gt), Nat.ne_of_lt gt]
    omega
  flat c member r own := by
    rcases List.mem_append.mp member with old | new
    · exact (balanced.flat c old r own).alloc v
    · rw [List.mem_singleton.mp new] at own
      exact (leaves r own).alloc v
  live c member owns := by
    rcases List.mem_append.mp member with old | new
    · exact balanced.live c old owns
    · simp [List.mem_singleton.mp new]

/-- With nothing held outside, no reference is left at all: only values that own references could
hold one, and nothing in the heap holds those. -/
theorem Balanced.quiet (balanced : Balanced refs h (fun _ => 0)) (a : Nat) : strong h a = 0 := by
  have unowned : ∀ c ∈ h, c.holds refs a = 0 := by
    intro c member
    by_cases owns : refs c.value = []
    · simp [Cell.holds, owns]
    · obtain ⟨r, found⟩ := List.mem_iff_getElem?.mp member
      have unheld : held refs h r = 0 := by
        refine List.sum_eq_zero_iff_forall_eq_nat.mpr ?_
        intro n counted
        obtain ⟨d, inside, rfl⟩ := List.mem_map.mp counted
        unfold Cell.holds
        split
        · refine List.count_eq_zero.mpr fun own => ?_
          obtain ⟨v, value, none⟩ := balanced.flat d inside r own
          obtain rfl : c.value = v := by simpa [valueAt, found] using value
          exact owns none
        · rfl
      have gone : c.strong = 0 := by simpa [strong, found, unheld] using balanced.count r
      have dead : c.destroyed ≠ 0 := by
        intro alive
        have positive := (balanced.live c member owns).mp alive
        omega
      simp [Cell.holds, dead]
  have total : held refs h a = 0 := by
    refine List.sum_eq_zero_iff_forall_eq_nat.mpr ?_
    intro n counted
    obtain ⟨c, member, rfl⟩ := List.mem_map.mp counted
    exact unowned c member
  simpa [total] using balanced.count a

end

/-! ### Properties that every operation keeps -/

/-- `P` survives every operation on live references. `bare` says at which counts a reference may be
dropped without drop glue. -/
structure Stable (refs : ν → List Nat) (bare : Nat → Prop) (P : Heap ν → Prop) : Prop where
  alloc : ∀ h v, P h → P (Counting.alloc h v)
  retain : ∀ h a, 0 < strong h a → P h → P (Counting.retain h a)
  release : ∀ h a, P h → P (Counting.release refs true h a)
  releaseBare : ∀ h a, bare (strong h a) → P h → P (Counting.release refs false h a)

theorem stable_true (refs : ν → List Nat) : Stable refs (fun _ => True) (fun _ => True) :=
  ⟨fun _ _ _ => trivial, fun _ _ _ _ => trivial, fun _ _ _ => trivial, fun _ _ _ _ => trivial⟩

/-- Properties that hold at the same time, where the first is the one that restricts `bare`. -/
theorem Stable.and {refs : ν → List Nat} {bare : Nat → Prop} {P Q : Heap ν → Prop}
    (first : Stable refs bare P) (second : Stable refs (fun _ => True) Q) :
    Stable refs bare (fun h => P h ∧ Q h) where
  alloc h v both := ⟨first.alloc h v both.1, second.alloc h v both.2⟩
  retain h a live both := ⟨first.retain h a live both.1, second.retain h a live both.2⟩
  release h a both := ⟨first.release h a both.1, second.release h a both.2⟩
  releaseBare h a last both := ⟨first.releaseBare h a last both.1, second.releaseBare h a trivial both.2⟩

theorem values_eq {h h' : Heap ν} (same : ∀ b, valueAt h' b = valueAt h b) :
    h'.map Cell.value = h.map Cell.value :=
  List.ext_getElem? fun b => by simpa [valueAt] using same b

theorem valueAt_extends {h h' : Heap ν} {a : Nat} {v : ν} (values : h.map Cell.value <+: h'.map Cell.value)
    (found : valueAt h a = some v) : valueAt h' a = some v := by
  obtain ⟨rest, same⟩ := values
  have bound : a < (h.map Cell.value).length := by simpa using valueAt_lt found
  rw [valueAt, ← List.getElem?_map] at found ⊢
  rwa [← same, List.getElem?_append_left bound]

theorem extends_stable (refs : ν → List Nat) (values : List ν) :
    Stable refs (fun _ => True) (fun h => values <+: h.map Cell.value) where
  alloc h v old := old.trans (by simp [Counting.alloc])
  retain h a _ old := values_eq (valueAt_retain h a) ▸ old
  release h a old := values_eq (valueAt_release refs true h a) ▸ old
  releaseBare h a _ old := values_eq (valueAt_release refs false h a) ▸ old

/-- Every destructor has run exactly once if its value is gone, and not at all otherwise. -/
def Settled (h : Heap ν) : Prop := ∀ c ∈ h, c.destroyed = if c.strong = 0 then 1 else 0

instance (h : Heap ν) : Decidable (Settled h) :=
  inferInstanceAs (Decidable (∀ c ∈ h, c.destroyed = if c.strong = 0 then 1 else 0))

theorem Settled.set {h : Heap ν} {a : Nat} {c' : Cell ν} (settled : Settled h)
    (new : c'.destroyed = if c'.strong = 0 then 1 else 0) : Settled (h.set a c') := by
  intro c member
  rcases List.mem_or_eq_of_mem_set member with old | rfl
  · exact settled c old
  · exact new

theorem Settled.releaseLeaf {h : Heap ν} (settled : Settled h) (glue : Bool) (a : Nat)
    (last : glue = true ∨ 1 < strong h a) : Settled (releaseLeaf glue h a) := by
  unfold Counting.releaseLeaf
  split
  · exact settled
  next c found =>
    have before := settled c (List.mem_of_getElem? found)
    have count : strong h a = c.strong := by simp [strong, found]
    refine settled.set ?_
    rcases last with rfl | many
    · by_cases one : c.strong = 1
      · simp [before, one]
      · simp only [one, decide_false, Bool.false_and, Bool.false_eq_true, ↓reduceIte, before]
        split <;> split <;> omega
    · have one : ¬ c.strong = 1 := by omega
      simp only [one, decide_false, Bool.false_and, Bool.false_eq_true, ↓reduceIte, before]
      split <;> split <;> omega

theorem Settled.releaseLeaves {h : Heap ν} (settled : Settled h) (l : List Nat) :
    Settled (l.foldl (Counting.releaseLeaf true) h) := by
  induction l generalizing h with
  | nil => exact settled
  | cons a l ih => exact ih (settled.releaseLeaf true a (.inl rfl))

theorem Settled.release {h : Heap ν} (settled : Settled h) (refs : ν → List Nat) (glue : Bool) (a : Nat)
    (last : glue = true ∨ 1 < strong h a) : Settled (release refs glue h a) := by
  have first := settled.releaseLeaf glue a last
  unfold Counting.release
  split
  · exact settled
  · split
    · exact first.releaseLeaves _
    · exact first

theorem settled_stable (refs : ν → List Nat) : Stable refs (1 < ·) Settled where
  alloc h v settled c member := by
    rcases List.mem_append.mp member with old | new
    · exact settled c old
    · simp [List.mem_singleton.mp new]
  retain h a positive settled := by
    obtain ⟨c, found, eq⟩ := found_of_strong positive
    have before := settled c (List.mem_of_getElem? found)
    simp only [Counting.retain, found]
    refine settled.set ?_
    have alive : ¬ c.strong = 0 := by omega
    simpa [alive] using before
  release h a settled := settled.release refs true a (.inl rfl)
  releaseBare h a many settled := settled.release refs false a (.inr many)

/-! ### Values that an operation does not touch -/

/-- All values are still there, and nothing has happened to those in `P`. -/
structure Spares (P : ν → Prop) (h h' : Heap ν) : Prop where
  values : ∀ a : Nat, valueAt h' a = valueAt h a
  cells : ∀ (a : Nat) (c : Cell ν), h[a]? = some c → P c.value → h'[a]? = some c

section
variable {P : ν → Prop} {h h' : Heap ν} {a : Nat}

theorem Spares.refl (P : ν → Prop) (h : Heap ν) : Spares P h h := ⟨fun _ => rfl, fun _ _ found _ => found⟩

theorem Spares.trans {h'' : Heap ν} (first : Spares P h h') (second : Spares P h' h'') : Spares P h h'' where
  values a := (second.values a).trans (first.values a)
  cells a c found inside := second.cells a c (first.cells a c found inside) inside

theorem spares_set {c : Cell ν} (c' : Cell ν) (found : h[a]? = some c) (same : c'.value = c.value)
    (outside : ¬ P c.value) : Spares P h (h.set a c') where
  values := valueAt_set found same
  cells b d at_b inside := by
    have other : a ≠ b := by
      rintro rfl
      obtain rfl := Option.some.inj (found.symm.trans at_b)
      exact outside inside
    rw [List.getElem?_set_ne other, at_b]

theorem outside_of_found {c : Cell ν} (outside : ∀ v, valueAt h a = some v → ¬ P v) (found : h[a]? = some c) :
    ¬ P c.value :=
  outside c.value (by simp [valueAt, found])

theorem spares_retain (outside : ∀ v, valueAt h a = some v → ¬ P v) : Spares P h (retain h a) := by
  unfold retain
  split
  · exact .refl P h
  next found => exact spares_set _ found rfl (outside_of_found outside found)

theorem spares_releaseLeaf (glue : Bool) (outside : ∀ v, valueAt h a = some v → ¬ P v) :
    Spares P h (releaseLeaf glue h a) := by
  unfold releaseLeaf
  split
  · exact .refl P h
  next found => exact spares_set _ found rfl (outside_of_found outside found)

theorem spares_release {refs : ν → List Nat} (glue : Bool) (outside : ∀ v, valueAt h a = some v → ¬ P v)
    (leaf : Leaf refs h a) : Spares P h (release refs glue h a) := by
  obtain ⟨v, value, owns⟩ := leaf
  unfold release
  split
  · exact .refl P h
  next c found =>
    obtain rfl : c.value = v := by simpa [valueAt, found] using value
    rw [owns]
    split <;> exact spares_releaseLeaf glue outside

end

/-! ### Taking references and giving them back -/

section
variable {h : Heap ν} {a : Nat}

theorem getElem?_retain (h : Heap ν) (a b : Nat) :
    (retain h a)[b]? = if a = b then h[b]?.map (fun c => { c with strong := c.strong + 1 }) else h[b]? := by
  unfold retain
  split
  next gone =>
    split
    next same => simp [← same, gone]
    · rfl
  next c found =>
    rw [List.getElem?_set]
    split
    next same =>
      obtain ⟨bound, rfl⟩ := List.getElem?_eq_some_iff.mp found
      simp [← same, bound]
    · rfl

theorem retain_comm (h : Heap ν) (a b : Nat) : retain (retain h a) b = retain (retain h b) a := by
  apply List.ext_getElem?
  intro i
  simp only [getElem?_retain]
  split_ifs <;> simp

theorem foldl_retain (h : Heap ν) (a : Nat) (l : List Nat) : l.foldl retain (retain h a) = retain (l.foldl retain h) a := by
  induction l generalizing h with
  | nil => rfl
  | cons b l ih => rw [List.foldl_cons, retain_comm, ih, List.foldl_cons]

theorem strong_foldl_retain (positive : 0 < strong h a) (l : List Nat) : 0 < strong (l.foldl retain h) a := by
  induction l generalizing h with
  | nil => exact positive
  | cons b l ih =>
    refine ih ?_
    rw [strong, getElem?_retain]
    split
    · cases found : h[a]? <;> simp_all [strong]
    · exact positive

theorem strong_foldl_retain_other {l : List Nat} (other : a ∉ l) : strong (l.foldl retain h) a = strong h a := by
  induction l generalizing h with
  | nil => rfl
  | cons b l ih =>
    have apart : b ≠ a := fun same => other (by simp [same])
    rw [List.foldl_cons, ih fun member => other (by simp [member]), strong, getElem?_retain, if_neg apart, strong]

theorem release_retain (refs : ν → List Nat) (glue : Bool) (positive : 0 < strong h a) :
    release refs glue (retain h a) a = h := by
  obtain ⟨c, found, count⟩ := found_of_strong positive
  obtain ⟨bound, rfl⟩ := List.getElem?_eq_some_iff.mp found
  have shared : h[a].strong ≠ 0 := by omega
  have same : h.set a ⟨h[a].strong, h[a].value, h[a].destroyed⟩ = h := List.set_getElem_self bound
  simpa [release, releaseLeaf, retain, bound, shared] using same

/-- References that are given back as they were taken leave no trace. -/
theorem release_all_retained (refs : ν → List Nat) (glue : Bool) {l : List Nat} (positive : ∀ a ∈ l, 0 < strong h a) :
    l.foldl (release refs glue) (l.foldl retain h) = h := by
  induction l with
  | nil => rfl
  | cons a l ih =>
    rw [List.foldl_cons, List.foldl_cons, foldl_retain,
      release_retain refs glue (strong_foldl_retain (positive a (by simp)) l)]
    exact ih fun b member => positive b (by simp [member])

end

end RustlsFfi.Counting
