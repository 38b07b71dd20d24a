import Mathlib.Data.List.Infix
import Mathlib.Order.Basic

/-!
# Reading memory

The bytes of one allocation, read by position; a read outside it is an error of the program. Here are
the functions of the C library that search and compare bytes, with what they find.
-/

namespace RustlsFfi.Memory

/-- A read outside the allocation. -/
inductive OutOfBounds where
  | outside
  deriving DecidableEq, Repr

abbrev Access := Except OutOfBounds

@[simp] theorem ok_bind {α β : Type} (a : α) (f : α → Access β) : ((.ok a : Access α) >>= f) = f a := rfl

def load (mem : List UInt8) (p : Nat) : Access UInt8 :=
  match mem[p]? with
  | some b => .ok b
  | none => .error .outside

theorem load_ok {mem : List UInt8} {p : Nat} (inside : p < mem.length) : load mem p = .ok mem[p] := by
  simp [load, inside]

/-! ### First places -/

/-- `q` is the first place from `p` on with `P`. -/
structure First (P : Nat → Prop) (p q : Nat) : Prop where
  ge : p ≤ q
  here : P q
  before : ∀ i, p ≤ i → i < q → ¬ P i

namespace First

variable {P Q : Nat → Prop} {p q : Nat}

/-- Where the first place for a weaker condition meets the stronger one, it is the first for that too. -/
theorem strengthen (first : First Q p q) (weaker : ∀ i, P i → Q i) (here : P q) : First P p q :=
  ⟨first.ge, here, fun i ge less meets => first.before i ge less (weaker i meets)⟩

/-- Nothing between `p` and a later start. -/
theorem extend {r : Nat} (first : First P r q) (later : p ≤ r) (none : ∀ i, p ≤ i → i < r → ¬ P i) :
    First P p q where
  ge := later.trans first.ge
  here := first.here
  before i ge less := by
    by_cases early : i < r
    · exact none i ge early
    · exact first.before i (Nat.le_of_not_lt early) less

end First

/-! ### Occurrences -/

/-- `needle` stands in `mem` at `p`. -/
def At (mem needle : List UInt8) (p : Nat) : Prop := needle <+: mem.drop p

instance (mem needle : List UInt8) (p : Nat) : Decidable (At mem needle p) :=
  inferInstanceAs (Decidable (_ <+: _))

section
variable {mem needle : List UInt8} {p : Nat}

theorem at_iff_take :
    At mem needle p ↔ (mem.drop p).take needle.length = needle := by
  rw [At, List.prefix_iff_eq_take, eq_comm]

theorem At.byte {i : Nat} (stands : At mem needle p) (inside : i < needle.length) : mem[p + i]? = needle[i]? := by
  obtain ⟨rest, whole⟩ := stands
  rw [← List.getElem?_drop, ← whole, List.getElem?_append_left inside]

end

/-! ### memchr -/

/-- It reads one byte after the other and stops at the first that is `c`. -/
def memchr (mem : List UInt8) (c : UInt8) : Nat → Nat → Access (Option Nat)
  | _, 0 => .ok none
  | p, n + 1 => do
    if (← load mem p) = c then pure (some p) else memchr mem c (p + 1) n

theorem memchr_spec {mem : List UInt8} (c : UInt8) {p n : Nat} (room : p + n ≤ mem.length) :
    (∃ q, memchr mem c p n = .ok (some q) ∧ q < p + n ∧ First (fun i => mem[i]? = some c) p q) ∨
      memchr mem c p n = .ok none ∧ ∀ i, p ≤ i → i < p + n → mem[i]? ≠ some c := by
  induction n generalizing p with
  | zero => exact .inr ⟨rfl, fun i ge less => absurd ge (by omega)⟩
  | succ n ih =>
    have inside : p < mem.length := by omega
    have read : mem[p]? = some mem[p] := List.getElem?_eq_getElem inside
    have step : memchr mem c p (n + 1) = if mem[p] = c then .ok (some p) else memchr mem c (p + 1) n := by
      rw [memchr, load_ok inside]
      rfl
    rw [step]
    by_cases found : mem[p] = c
    · rw [if_pos found]
      exact .inl ⟨p, rfl, by omega, Nat.le_refl _, by rw [read, found], fun i ge less => absurd ge (by omega)⟩
    · rw [if_neg found]
      have absent : ∀ i, p ≤ i → i < p + 1 → ¬ mem[i]? = some c := by
        intro i ge less here
        obtain rfl : i = p := by omega
        rw [read] at here
        exact found (Option.some.inj here)
      rcases ih (p := p + 1) (by omega) with ⟨q, done, less, first⟩ | ⟨done, none⟩
      · exact .inl ⟨q, done, by omega, first.extend (by omega) absent⟩
      · refine .inr ⟨done, fun i ge less => ?_⟩
        by_cases early : i < p + 1
        · exact absent i ge early
        · exact none i (by omega) (by omega)

/-! ### memcmp and strncasecmp -/

/-- The difference of the first bytes that differ. -/
def difference : List UInt8 → List UInt8 → Int
  | a :: as, b :: bs => if a = b then difference as bs else a.toNat - b.toNat
  | _, _ => 0

theorem difference_eq_zero {as bs : List UInt8} (same : as.length = bs.length) : difference as bs = 0 ↔ as = bs := by
  induction as generalizing bs with
  | nil =>
    obtain rfl : bs = [] := List.length_eq_zero_iff.mp same.symm
    simp [difference]
  | cons a as ih =>
    obtain _ | ⟨b, bs⟩ := bs
    · simp at same
    · by_cases alike : a = b
      · subst alike
        simp [difference, ih (Nat.succ.inj same)]
      · have apart : (a.toNat : Int) - b.toNat ≠ 0 := by
          intro zero
          exact alike (UInt8.toNat_inj.mp (by omega))
        simp [difference, alike, apart]

/-- `memcmp(mem + p, needle, n)`: it may look at all `n` bytes of both. -/
def memcmp (mem : List UInt8) (p : Nat) (needle : List UInt8) (n : Nat) : Access Int :=
  if p + n ≤ mem.length ∧ n ≤ needle.length then .ok (difference ((mem.drop p).take n) (needle.take n))
  else .error .outside

theorem memcmp_spec {mem needle : List UInt8} {p : Nat} (room : p + needle.length ≤ mem.length) :
    ∃ d, memcmp mem p needle needle.length = .ok d ∧ (d = 0 ↔ At mem needle p) := by
  refine ⟨_, if_pos ⟨room, Nat.le_refl _⟩, ?_⟩
  rw [difference_eq_zero (by simp; omega), at_iff_take, List.take_length]

/-- `tolower` of the C locale. -/
def tolower (b : UInt8) : UInt8 := if 65 ≤ b ∧ b ≤ 90 then b + 32 else b

/-- `strncasecmp(s, t, n)`: it stops at a difference or at the end of the string. -/
def strncasecmp : List UInt8 → List UInt8 → Nat → Access Int
  | _, _, 0 => .ok 0
  | a :: s, b :: t, n + 1 =>
    if tolower a ≠ tolower b then .ok ((tolower a).toNat - (tolower b).toNat)
    else if a = 0 then .ok 0
    else strncasecmp s t n
  | _, _, _ + 1 => .error .outside

theorem strncasecmp_spec {name t : List UInt8} (after : List UInt8) (text : 0 ∉ name) (room : name.length ≤ t.length) :
    ∃ d, strncasecmp (name ++ after) t name.length = .ok d ∧
      (d = 0 ↔ (t.take name.length).map tolower = name.map tolower) := by
  induction name generalizing t with
  | nil => exact ⟨0, by simp [strncasecmp], by simp⟩
  | cons a name ih =>
    obtain _ | ⟨b, t⟩ := t
    · simp at room
    · have nonzero : a ≠ 0 := fun zero => text (by simp [zero])
      obtain ⟨d, compared, zero⟩ := ih (fun member => text (by simp [member])) (Nat.le_of_succ_le_succ room)
      by_cases alike : tolower a = tolower b
      · refine ⟨d, by simpa [strncasecmp, alike, nonzero] using compared, ?_⟩
        simpa [alike] using zero
      · refine ⟨_, by simp [strncasecmp, alike]; rfl, ?_⟩
        have apart : ((tolower a).toNat : Int) - (tolower b).toNat ≠ 0 := by
          intro zero
          exact alike (UInt8.toNat_inj.mp (by omega))
        simp [apart, Ne.symm alike]

/-! ### strtoul -/

/-- `isspace` of the C locale. -/
def isspace (b : UInt8) : Bool := b == 32 || (9 ≤ b && b ≤ 13)

def isdigit (b : UInt8) : Bool := 48 ≤ b && b ≤ 57

/-- How many bytes at the beginning meet `P`; one that does not has to follow. -/
def run (P : UInt8 → Bool) : List UInt8 → Access Nat
  | [] => .error .outside
  | b :: rest => if P b then do pure ((← run P rest) + 1) else pure 0

def decimal (digits : List UInt8) : Nat := digits.foldl (fun n b => n * 10 + (b.toNat - 48)) 0

/-- `strtoul(mem + p, &end, 10)` with its `end`, for an `unsigned long` of 64 bits: `ULONG_MAX` if there are too
many digits, and a negated value modulo `2^64`. -/
def strtoul (mem : List UInt8) (p : Nat) : Access (Nat × Nat) := do
  let spaces ← run isspace (mem.drop p)
  let sign ← load mem (p + spaces)
  let start := if sign = 43 ∨ sign = 45 then p + spaces + 1 else p + spaces
  let count ← run isdigit (mem.drop start)
  if count = 0 then pure (0, p)
  else
    let value := decimal ((mem.drop start).take count)
    let range := 18446744073709551616
    if range ≤ value then pure (range - 1, start + count)
    else if sign = 45 then pure ((range - value) % range, start + count)
    else pure (value, start + count)

theorem run_lt {P : UInt8 → Bool} {mem : List UInt8} {n : Nat} (counted : run P mem = .ok n) : n < mem.length := by
  induction mem generalizing n with
  | nil => cases counted
  | cons b rest ih =>
    rw [run] at counted
    split at counted
    · cases more : run P rest with
      | error e =>
        rw [more] at counted
        cases counted
      | ok m =>
        rw [more] at counted
        cases counted
        exact Nat.succ_lt_succ (ih more)
    · cases counted
      exact Nat.succ_pos _

theorem run_spec {P : UInt8 → Bool} {mem : List UInt8} {p q : Nat} {b : UInt8} (ge : p ≤ q) (here : mem[q]? = some b)
    (stops : P b = false) : ∃ n, run P (mem.drop p) = .ok n ∧ p + n ≤ q := by
  generalize gap : q - p = d
  induction d generalizing p with
  | zero =>
    obtain rfl : p = q := by omega
    have inside : p < mem.length := (List.getElem?_eq_some_iff.mp here).1
    refine ⟨0, ?_, by omega⟩
    rw [List.drop_eq_getElem_cons inside, run, if_neg (by simp_all)]
    rfl
  | succ d ih =>
    have inside : p < mem.length := by
      have := (List.getElem?_eq_some_iff.mp here).1
      omega
    obtain ⟨n, counted, le⟩ := ih (p := p + 1) (by omega) (by omega)
    rw [List.drop_eq_getElem_cons inside, run]
    by_cases more : P mem[p] = true
    · exact ⟨n + 1, by rw [if_pos more, counted]; rfl, by omega⟩
    · exact ⟨0, by rw [if_neg more]; rfl, by omega⟩

theorem run_append {P : UInt8 → Bool} {mem rest : List UInt8} {b : UInt8} (meet : ∀ x ∈ mem, P x = true)
    (stops : P b = false) :
    run P (mem ++ b :: rest) = .ok mem.length := by
  induction mem with
  | nil =>
    rw [List.nil_append, run, if_neg (by simp [stops])]
    rfl
  | cons x mem ih =>
    rw [List.cons_append, run, if_pos (meet x (by simp)), ih fun y member => meet y (by simp [member])]
    rfl

/-- `strtoul` stays inside if something that is not a space comes before a byte that is no digit. -/
theorem strtoul_ok {mem : List UInt8} {p j q : Nat} {b c : UInt8} (ge : p ≤ j) (here : mem[j]? = some b)
    (text : isspace b = false) (less : j < q) (stop : mem[q]? = some c) (other : isdigit c = false) :
    ∃ r, strtoul mem p = .ok r := by
  obtain ⟨spaces, skipped, le⟩ := run_spec ge here text
  have inside : p + spaces < mem.length := by
    have := (List.getElem?_eq_some_iff.mp here).1
    omega
  have begins : (if mem[p + spaces] = 43 ∨ mem[p + spaces] = 45 then p + spaces + 1 else p + spaces) ≤ q := by
    split <;> omega
  obtain ⟨count, counted, -⟩ := run_spec begins stop other
  simp only [strtoul, skipped, ok_bind, load_ok inside, counted]
  split_ifs <;> exact ⟨_, rfl⟩

/-! ### Writing -/

def store (mem : List UInt8) (p : Nat) (bytes : List UInt8) : Access (List UInt8) :=
  if p + bytes.length ≤ mem.length then .ok (mem.take p ++ (bytes ++ mem.drop (p + bytes.length)))
  else .error .outside

/-- To write after what is already there. -/
theorem store_append {mem rest bytes : List UInt8} {p : Nat} (place : p = mem.length) (room : bytes.length ≤ rest.length) :
    store (mem ++ rest) p bytes = .ok (mem ++ bytes ++ rest.drop bytes.length) := by
  subst place
  rw [store, if_pos (by rw [List.length_append]; omega), List.take_left, List.drop_length_add_append, List.append_assoc]

def strlen (mem : List UInt8) : Access Nat := run (fun b => b != 0) mem

theorem strlen_append {text rest : List UInt8} (nonzero : 0 ∉ text) : strlen (text ++ 0 :: rest) = .ok text.length := by
  refine run_append (fun b member => ?_) rfl
  have other : b ≠ 0 := fun zero => nonzero (zero ▸ member)
  simpa using other

end RustlsFfi.Memory
