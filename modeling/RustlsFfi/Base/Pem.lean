import Mathlib.Logic.Basic

/-!
# Reading blocks

A text falls into blocks of several kinds, and a reader collects the contents of one kind. It gives
up at the first block whose content cannot be had, whatever kind that is of.
-/

namespace RustlsFfi.Pem

variable {κ β : Type}

structure Block (κ β : Type) where
  kind : κ
  /-- `none` if the block is damaged: its text cannot be decoded, or its end is missing. -/
  content : Option β
  deriving DecidableEq, Repr

def intact (blocks : List (Block κ β)) : Bool := blocks.all (·.content.isSome)

variable [DecidableEq κ]

def readAll (kind : κ) : List (Block κ β) → Option (List β)
  | [] => some []
  | block :: rest =>
    match block.content with
    | none => none
    | some content =>
      (readAll kind rest).map fun contents => if block.kind = kind then content :: contents else contents

/-- The contents of one kind that can be had. -/
def contents (kind : κ) (blocks : List (Block κ β)) : List β :=
  blocks.filterMap fun block => if block.kind = kind then block.content else none

theorem readAll_eq (kind : κ) (blocks : List (Block κ β)) :
    readAll kind blocks = if intact blocks then some (contents kind blocks) else none := by
  induction blocks with
  | nil => rfl
  | cons block rest ih =>
    cases content : block.content with
    | none => simp [readAll, intact, content]
    | some c =>
      have same : intact (block :: rest) = intact rest := by simp [intact, content]
      rw [readAll, content, same, ih]
      by_cases own : block.kind = kind <;> cases intact rest <;> simp [contents, own, content]

end RustlsFfi.Pem
