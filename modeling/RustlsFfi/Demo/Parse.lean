import RustlsFfi.Demo.Common

/-!
# Finding the parts of a message

What `memmem`, `body_beginning` and `get_first_header_value` find. `memmem` compares at every place where the
first byte stands inside the haystack, so it looks past the end by up to one byte less than the needle has,
and may find the needle there.
-/

namespace RustlsFfi.Demo
open Memory

/-! ### memmem -/

section
variable {mem needle : Bytes} {haystack len : Nat}

theorem first_byte {p : Nat} (some : needle ≠ []) (stands : At mem needle p) :
    mem[p]? = needle.head? := by
  have first := stands.byte (i := 0) (List.length_pos_iff.mpr some)
  rwa [Nat.add_zero, ← List.head?_eq_getElem?] at first

/-- What a search that has come to `p` has to find. -/
def Finds (mem needle : Bytes) (haystack len : Nat) (found : Access (Option Nat)) : Prop :=
  (∃ q, found = .ok (some q) ∧ q < haystack + len ∧ First (At mem needle) haystack q) ∨
    found = .ok none ∧ ∀ i, haystack ≤ i → i + needle.length ≤ haystack + len → ¬ At mem needle i

theorem memmemFrom_spec (some : needle ≠ []) (room : haystack + len + needle.length ≤ mem.length + 1) {fuel p : Nat}
    (after : haystack ≤ p) (inside : p ≤ haystack + len) (none : ∀ i, haystack ≤ i → i < p → ¬ At mem needle i)
    (enough : haystack + len < p + fuel) :
    Finds mem needle haystack len (memmemFrom mem haystack len needle needle.length fuel p) := by
  have long := List.length_pos_iff.mpr some
  induction fuel generalizing p with
  | zero => omega
  | succ fuel ih =>
    rw [memmemFrom]
    by_cases left : needle.length ≤ len - (p - haystack)
    · rw [if_pos left, load_ok long]
      have rest : p + (len - (p - haystack)) = haystack + len := by omega
      rcases memchr_spec needle[0] (by omega : p + (len - (p - haystack)) ≤ mem.length) with
        ⟨q, found, early, first⟩ | ⟨missing, nowhere⟩
      · obtain ⟨d, compared, zero⟩ := memcmp_spec (by omega : q + needle.length ≤ mem.length)
        have byte : ∀ i, At mem needle i → mem[i]? = Option.some needle[0] := fun i stands => by
          rw [first_byte some stands, List.head?_eq_getElem?, List.getElem?_eq_getElem long]
        simp only [ok_bind, found, compared]
        by_cases equal : d = 0
        · rw [if_pos equal]
          exact .inl ⟨q, rfl, by omega, (first.strengthen byte (zero.mp equal)).extend after none⟩
        · rw [if_neg equal]
          refine ih (by have := first.ge; omega) (by omega) (fun i ge less => ?_) (by have := first.ge; omega)
          by_cases before : i < p
          · exact none i ge before
          · by_cases same : i = q
            · subst same
              exact fun stands => equal (zero.mpr stands)
            · exact fun stands => first.before i (by omega) (by omega) (byte i stands)
      · simp only [ok_bind, missing]
        refine .inr ⟨rfl, fun i ge fits stands => ?_⟩
        by_cases before : i < p
        · exact none i ge before stands
        · refine nowhere i (by omega) (by omega) ?_
          rw [first_byte some stands, List.head?_eq_getElem?, List.getElem?_eq_getElem long]
    · rw [if_neg left]
      refine .inr ⟨rfl, fun i ge fits => ?_⟩
      by_cases before : i < p
      · exact none i ge before
      · omega

/-- With room for one needle less a byte after the haystack, `memmem` stays inside the allocation. It finds the
first place of the needle, if it finds one, and it finds one if the haystack holds one. -/
theorem memmem_spec (some : needle ≠ []) (room : haystack + len + needle.length ≤ mem.length + 1) :
    Finds mem needle haystack len (memmem mem haystack len needle needle.length) :=
  memmemFrom_spec some room (Nat.le_refl _) (Nat.le_add_right _ _) (fun i ge less => absurd ge (by omega)) (by omega)

/-- A haystack that is shorter than the needle is not looked at. -/
theorem memmem_short (short : len < needle.length) : memmem mem haystack len needle needle.length = .ok none := by
  rw [memmem, memmemFrom, if_neg (by omega)]
  rfl

end

/-! ### The end of the headers -/

/-- There are at least three bytes after what has been read, or nothing has been read. -/
def ByteVec.Roomy (vec : ByteVec) : Prop := vec.len = 0 ∨ vec.len + 1024 ≤ vec.capacity

/-- `body_beginning` finds the end of the headers in what has been read, if it is there. It may find one that
ends up to three bytes after that. -/
theorem bodyBeginning_spec {vec : ByteVec} (roomy : vec.Roomy) :
    (∃ b, bodyBeginning vec = .ok (some b) ∧ 4 ≤ b ∧ b ≤ vec.len + 3 ∧ First (At vec.data blankLine) 0 (b - 4)) ∨
      bodyBeginning vec = .ok none ∧ ∀ i, i + 4 ≤ vec.len → ¬ At vec.data blankLine i := by
  rcases roomy with empty | room
  · have nothing : memmem vec.data 0 vec.len blankLine 4 = .ok none :=
      memmem_short (by rw [empty]; decide : vec.len < blankLine.length)
    refine .inr ⟨by rw [bodyBeginning, nothing]; rfl, fun i fits => absurd fits (by omega)⟩
  · have size : blankLine.length = 4 := rfl
    have fits : 0 + vec.len + blankLine.length ≤ vec.data.length + 1 := by
      rw [ByteVec.capacity] at room
      omega
    rcases memmem_spec (by decide : blankLine ≠ []) fits with ⟨q, found, less, first⟩ | ⟨missing, nowhere⟩
    · refine .inl ⟨q + 4, ?_, by omega, by omega, by rwa [Nat.add_sub_cancel]⟩
      rw [bodyBeginning, show (4 : Nat) = blankLine.length from rfl, found]
      rfl
    · refine .inr ⟨?_, fun i inside => nowhere i (Nat.zero_le _) (by omega)⟩
      rw [bodyBeginning, show (4 : Nat) = blankLine.length from rfl, missing]
      rfl

/-! ### Header values -/

/-- The bytes from `headers` to `e` are the headers of a message, up to the first blank line. -/
structure HeaderBlock (mem : Bytes) (headers e : Nat) : Prop where
  start : headers + 4 ≤ e
  blank : First (At mem blankLine) headers (e - 4)
  /-- There is a byte after them. -/
  room : e < mem.length
  small : mem.length ≤ ptrdiffMax

/-- A line that starts at `s`, not the first one, has a header of this name. -/
structure HeaderLine (mem : Bytes) (headers : Nat) (name : Bytes) (s : Nat) : Prop where
  start : headers + 2 ≤ s
  line : At mem crlf (s - 2)
  named : ((mem.drop s).take name.length).map tolower = name.map tolower
  colon : mem[s + name.length]? = some 58

section
variable {mem name : Bytes} {headers e : Nat}

theorem crlf_bytes {p : Nat} (stands : At mem crlf p) : mem[p]? = some 13 ∧ mem[p + 1]? = some 10 :=
  ⟨stands.byte (i := 0) (by decide), stands.byte (i := 1) (by decide)⟩

theorem blankLine_bytes {p : Nat} (stands : At mem blankLine p) :
    mem[p]? = some 13 ∧ mem[p + 1]? = some 10 ∧ mem[p + 2]? = some 13 ∧ mem[p + 3]? = some 10 :=
  ⟨stands.byte (i := 0) (by decide), stands.byte (i := 1) (by decide), stands.byte (i := 2) (by decide),
    stands.byte (i := 3) (by decide)⟩

theorem crlf_of_blankLine {p : Nat} (stands : At mem blankLine p) : At mem crlf p :=
  List.IsPrefix.trans (by decide : crlf <+: blankLine) stands

/-- Line ends do not overlap. -/
theorem crlf_apart {p : Nat} (stands : At mem crlf p) : ¬ At mem crlf (p + 1) := by
  intro next
  have second := (crlf_bytes stands).2
  rw [(crlf_bytes next).1] at second
  cases second

/-- No header has its colon among the last four bytes. -/
theorem HeaderLine.early {s : Nat} (block : HeaderBlock mem headers e) (line : HeaderLine mem headers name s)
    (inside : s + name.length < e) : s + name.length + 4 < e := by
  have bytes := blankLine_bytes block.blank.here
  have start := block.start
  have colon := line.colon
  by_contra late
  obtain at0 | at1 | at2 | at3 : s + name.length = e - 4 ∨ s + name.length = e - 4 + 1 ∨
      s + name.length = e - 4 + 2 ∨ s + name.length = e - 4 + 3 := by omega
  · rw [at0, bytes.1] at colon
    cases colon
  · rw [at1, bytes.2.1] at colon
    cases colon
  · rw [at2, bytes.2.2.1] at colon
    cases colon
  · rw [at3, bytes.2.2.2] at colon
    cases colon

theorem isHeader_spec (text : 0 ∉ name) {s : Nat} (inside : s + name.length < mem.length) :
    ∃ b, isHeader mem (name ++ [0]) name.length s = .ok b ∧
      (b = true ↔ ((mem.drop s).take name.length).map tolower = name.map tolower ∧ mem[s + name.length]? = some 58) := by
  obtain ⟨d, compared, zero⟩ := strncasecmp_spec (t := mem.drop s) [0] text (by rw [List.length_drop]; omega)
  rw [isHeader, compared, ok_bind]
  by_cases same : d = 0
  · refine ⟨decide (mem[s + name.length] = 58), by rw [if_pos same, load_ok inside]; rfl, ?_⟩
    simp [zero.mp same, inside]
  · refine ⟨false, by rw [if_neg same]; rfl, ?_⟩
    simp only [Bool.false_eq_true, false_iff, not_and]
    exact fun alike => absurd (zero.mpr alike) same

/-- What `get_first_header_value` has to give: the place and the length of the first header's value, up to the
end of its line. -/
def GivesValue (mem : Bytes) (headers e : Nat) (name : Bytes) (given : Access (Option (Nat × Nat))) : Prop :=
  (∃ s q, given = .ok (some (s + name.length + 1, q - (s + name.length + 1))) ∧
      First (HeaderLine mem headers name) headers s ∧ First (At mem crlf) (s + name.length + 1) q ∧ q + 4 ≤ e) ∨
    given = .ok none ∧ ∀ s, HeaderLine mem headers name s → e ≤ s + name.length

theorem usizeSub_of_le {a b : Nat} (le : b ≤ a) (small : a ≤ ptrdiffMax) : usizeSub 64 a b = a - b := by
  have less : a < sizeRange := Nat.lt_of_le_of_lt small (by decide)
  rw [usizeSub, show 2 ^ 64 = sizeRange from rfl, Nat.sub_add_comm le, Nat.add_mod_right, Nat.mod_eq_of_lt (by omega)]

/-- In a header block there is always a further line end, which is found. -/
theorem HeaderBlock.memmem (block : HeaderBlock mem headers e) {current : Nat} (early : current + 4 ≤ e) :
    ∃ q, memmem mem current (e - current) crlf 2 = .ok (some q) ∧ First (At mem crlf) current q ∧ q + 4 ≤ e := by
  have last : At mem crlf (e - 4) := crlf_of_blankLine block.blank.here
  have room := block.room
  have fits : current + (e - current) + crlf.length ≤ mem.length + 1 := by
    rw [show crlf.length = 2 from rfl]
    omega
  rcases memmem_spec (by decide : crlf ≠ []) fits with ⟨q, found, less, first⟩ | ⟨-, nowhere⟩
  · refine ⟨q, found, first, ?_⟩
    by_contra late
    exact first.before (e - 4) (by omega) (by omega) last
  · exact absurd last (nowhere (e - 4) (by omega) (by rw [show crlf.length = 2 from rfl]; omega))

theorem headerValueFrom_spec (block : HeaderBlock mem headers e) (text : 0 ∉ name) {fuel current : Nat}
    (after : headers ≤ current) (inside : current ≤ e) (start : headers < current → 2 ≤ current ∧ At mem crlf (current - 2))
    (none : ∀ s, s ≤ current → ¬ HeaderLine mem headers name s) (enough : e < current + fuel) :
    GivesValue mem headers e name (headerValueFrom mem (name ++ [0]) name.length fuel current (e - current)) := by
  have room := block.room
  induction fuel generalizing current with
  | zero => omega
  | succ fuel ih =>
    rw [headerValueFrom]
    by_cases long : e - current > name.length + 3
    · obtain ⟨q, found, first, early⟩ := block.memmem (by omega : current + 4 ≤ e)
      have ge := first.ge
      have next : current + (q - current + 2) = q + 2 := by omega
      have left : usizeSub 64 (e - current) (q - current + 2) = e - (q + 2) := by
        rw [usizeSub_of_le (by omega) (Nat.le_trans (by omega : e - current ≤ mem.length) block.small)]
        omega
      -- Between two line starts there is no other.
      have between : ∀ s, s < q + 2 → ¬ HeaderLine mem headers name s := by
        intro s less line
        by_cases before : s ≤ current
        · exact none s before line
        · have begins := line.start
          by_cases overlap : current + 1 = s
          · subst overlap
            obtain ⟨two, ended⟩ := start (by omega)
            refine crlf_apart ended ?_
            have stands := line.line
            rwa [show current + 1 - 2 = current - 2 + 1 by omega] at stands
          · exact first.before (s - 2) (by omega) (by omega) line.line
      rw [if_pos long, found, ok_bind]
      dsimp only
      rw [left, next]
      by_cases short : e - (q + 2) < name.length + 2
      · rw [if_pos short]
        refine .inr ⟨rfl, fun s line => ?_⟩
        by_contra fits
        have := line.early block (by omega)
        exact between s (by omega) line
      · obtain ⟨b, compared, holds⟩ := isHeader_spec text (by omega : q + 2 + name.length < mem.length)
        rw [if_neg short, compared, ok_bind]
        have begins : headers + 2 ≤ q + 2 := by omega
        by_cases matched : b = true
        · obtain ⟨named, colon⟩ := holds.mp matched
          have line : HeaderLine mem headers name (q + 2) := ⟨begins, first.here, named, colon⟩
          have soon := line.early block (by omega)
          obtain ⟨q', found', first', early'⟩ := block.memmem (by omega : q + 2 + name.length + 1 + 4 ≤ e)
          have rest : e - (q + 2) - (name.length + 1) = e - (q + 2 + name.length + 1) := by omega
          refine .inl ⟨q + 2, q', ?_, ⟨by omega, line, fun s _ less => between s less⟩, first', early'⟩
          rw [if_pos matched, rest, ← Nat.add_assoc, found']
          rfl
        · rw [if_neg matched]
          refine ih (by omega) (by omega) (fun _ => ⟨by omega, first.here⟩) (fun s le line => ?_) (by omega)
          by_cases same : s = q + 2
          · subst same
            exact matched (holds.mpr ⟨line.named, line.colon⟩)
          · exact between s (by omega) line
    · rw [if_neg long]
      refine .inr ⟨rfl, fun s line => ?_⟩
      by_contra fits
      have soon := line.early block (by omega)
      exact none s (by omega) line

/-- On a complete block of headers `get_first_header_value` reads no byte outside the allocation, and its
remaining length never wraps around. It gives the value of the first header of that name, in any case, or NULL if
there is none. -/
theorem getFirstHeaderValue_spec (block : HeaderBlock mem headers e) (text : 0 ∉ name) :
    GivesValue mem headers e name (getFirstHeaderValue mem headers (e - headers) (name ++ [0]) name.length) :=
  headerValueFrom_spec block text (Nat.le_refl _) (by have := block.start; omega) (fun less => absurd less (by omega))
    (fun s le line => by have := line.start; omega) (by omega)

theorem headerBlock {vec : ByteVec} {b : Nat} (roomy : vec.Roomy) (four : 4 ≤ b) (bound : b ≤ vec.len + 3)
    (first : First (At vec.data blankLine) 0 (b - 4)) : HeaderBlock vec.data 0 b := by
  refine ⟨by omega, first, ?_, vec.small⟩
  unfold ByteVec.Roomy ByteVec.capacity at roomy
  omega

end

/-- A search for a header in what has been read stays inside the buffer. Without a blank line there it finds none.
Otherwise it looks at the lines up to the first blank line, of which up to three bytes may stand past what has been read,
and gives the value of the first header of that name, or NULL if no line has one. The line at the start is not looked at,
whatever it holds: a header line begins after the end of another line. -/
theorem header_search_exact {vec : ByteVec} {name : Bytes} (roomy : vec.Roomy) (text : 0 ∉ name) :
    (bodyBeginning vec = .ok none ∧ ∀ i, i + 4 ≤ vec.len → ¬ At vec.data blankLine i) ∨
      ∃ b, bodyBeginning vec = .ok (some b) ∧ b ≤ vec.len + 3 ∧ First (At vec.data blankLine) 0 (b - 4) ∧
        GivesValue vec.data 0 b name (getFirstHeaderValue vec.data 0 b (name ++ [0]) name.length) := by
  rcases bodyBeginning_spec roomy with ⟨b, found, four, bound, first⟩ | missing
  · exact .inr ⟨b, found, bound, first, getFirstHeaderValue_spec (headerBlock roomy four bound first) text⟩
  · exact .inl missing

/-- A buffer with a header that has no value, one of the wanted name and one of another case. -/
def twoLengths : ByteVec where
  data := utf8 "GET\r\nA:\r\nlen: 12\r\nLEN: 3\r\n\r\n" ++ List.replicate 1024 0
  len := 28
  fits := by decide +kernel
  small := by decide +kernel

theorem header_search_exact_twoLengths :
    ∃ s q, getFirstHeaderValue twoLengths.data 0 28 (utf8 "Len" ++ [0]) 3 = .ok (some (s + 4, q - (s + 4))) ∧
      First (HeaderLine twoLengths.data 0 (utf8 "Len")) 0 s ∧ First (At twoLengths.data crlf) (s + 4) q := by
  have found : bodyBeginning twoLengths = .ok (some 28) := by decide +kernel
  rcases header_search_exact (.inr (by decide +kernel) : twoLengths.Roomy) (by decide : 0 ∉ utf8 "Len") with
    ⟨missing, -⟩ | ⟨b, begins, -, -, ⟨s, q, given, first, ends, -⟩ | ⟨nothing, -⟩⟩
  · cases found.symm.trans missing
  · cases found.symm.trans begins
    exact ⟨s, q, given, first, ends⟩
  · cases found.symm.trans begins
    have value : getFirstHeaderValue twoLengths.data 0 28 (utf8 "Len" ++ [0]) 3 = .ok (some (13, 3)) := by decide +kernel
    cases value.symm.trans nothing

end RustlsFfi.Demo
