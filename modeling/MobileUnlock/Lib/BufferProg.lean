import MobileUnlock.Lib.Bytes

/-!
# `MobileUnlock.Lib.BufferProg`: programs that read a buffer

A C function that gets a pointer and a length can read anywhere and computes its indices in
`size_t`. `BufferProg α` is such a function as a tree: every read of the buffer and every `size_t`
computation is a node, and the rest of the function is what follows for each answer. A leaf is
`ret a` (the function succeeds with `a`) or `reject` (it fails).

* `exec der` runs a program on the buffer `der`. A read past the end is `none`.
* `execMem mem` runs it on a memory, which has a byte everywhere.
* `Stays der` says that a run on `der` reads inside the buffer only, and that a `size_t`
  computation whose exact value has no room in 64 bits is followed by nothing but `reject`
  (`Halts`).

* `SameRun der p q` says that `p` answers what `q` answers, on `der` and on every memory that
  holds `der`.

`Steps` is the two together. They have a rule for `read` and one for `size`, by which a proof
follows a program node by node.
-/

set_option autoImplicit false

namespace MobileUnlock.Lib

/-- A program over a buffer. `size v k` computes a `size_t` whose exact value is `v`. -/
inductive BufferProg (α : Type) where
  | ret (a : α)
  | reject
  | read (i : Nat) (k : UInt8 → BufferProg α)
  | size (v : Nat) (k : Nat → BufferProg α)

namespace BufferProg

variable {α β : Type}

/-- One program after the other. -/
def bind : BufferProg α → (α → BufferProg β) → BufferProg β
  | ret a, f => f a
  | reject, _ => reject
  | read i k, f => read i fun b => (k b).bind f
  | size v k, f => size v fun n => (k n).bind f

instance : Monad BufferProg where
  pure := ret
  bind := bind

/-- The byte at index `i`. -/
def readAt (i : Nat) : BufferProg UInt8 := read i ret

/-- A `size_t` with the exact value `v`. -/
def sizeT (v : Nat) : BufferProg Nat := size v ret

/-- `n` bytes from `offset` on. -/
def readBytes : Nat → Nat → BufferProg Bytes
  | 0, _ => ret []
  | n + 1, offset => do
    let b ← readAt offset
    let bs ← readBytes n (offset + 1)
    return b :: bs

/-- A run on a buffer. -/
def exec (der : Bytes) : BufferProg α → Option (Option α)
  | ret a => some (some a)
  | reject => some none
  | read i k => der[i]?.bind fun b => exec der (k b)
  | size v k => exec der (k (v % 2 ^ 64))

/-- A run on a memory. -/
def execMem (mem : Nat → UInt8) : BufferProg α → Option α
  | ret a => some a
  | reject => none
  | read i k => execMem mem (k (mem i))
  | size v k => execMem mem (k (v % 2 ^ 64))

/-- The program rejects without another read. -/
def Halts : BufferProg α → Prop
  | ret _ => False
  | reject => True
  | read _ _ => False
  | size v k => Halts (k (v % 2 ^ 64))

/-- A run on the buffer stays inside it, and goes on only with `size_t` values that are exact. -/
def Stays (der : Bytes) : BufferProg α → Prop
  | ret _ => True
  | reject => True
  | read i k => ∃ b, der[i]? = some b ∧ Stays der (k b)
  | size v k => (v < 2 ^ 64 ∨ Halts (k (v % 2 ^ 64))) ∧ Stays der (k (v % 2 ^ 64))

/-! ### The rules -/

@[simp] theorem pure_eq (a : α) : (pure a : BufferProg α) = ret a := rfl

@[simp] theorem ret_bind (a : α) (f : α → BufferProg β) : (ret a >>= f) = f a := rfl

@[simp] theorem reject_bind (f : α → BufferProg β) : (reject >>= f) = reject := rfl

@[simp] theorem readAt_bind (i : Nat) (f : UInt8 → BufferProg β) : (readAt i >>= f) = read i f :=
  rfl

@[simp] theorem sizeT_bind (v : Nat) (f : Nat → BufferProg β) : (sizeT v >>= f) = size v f := rfl

@[simp] theorem read_bind (i : Nat) (k : UInt8 → BufferProg α) (f : α → BufferProg β) :
    (read i k >>= f) = read i fun b => k b >>= f := rfl

@[simp] theorem size_bind (v : Nat) (k : Nat → BufferProg α) (f : α → BufferProg β) :
    (size v k >>= f) = size v fun n => k n >>= f := rfl

@[simp] theorem ite_bind (c : Prop) [Decidable c] (p q : BufferProg α) (f : α → BufferProg β) :
    ((if c then p else q) >>= f) = if c then p >>= f else q >>= f := by
  split <;> rfl

theorem bind_assoc {γ : Type} (p : BufferProg α) (f : α → BufferProg β)
    (g : β → BufferProg γ) : (p >>= f >>= g) = (p >>= fun a => f a >>= g) := by
  induction p with
  | ret a => rfl
  | reject => rfl
  | read i k ih => exact congrArg (read i) (funext ih)
  | size v k ih => exact congrArg (size v) (funext ih)

section Rules
variable {der : Bytes} {k : UInt8 → BufferProg α} {j : Nat → BufferProg α}

@[simp] theorem stays_ret (a : α) : Stays der (ret a) := trivial

@[simp] theorem stays_reject : Stays der (reject : BufferProg α) := trivial

@[simp] theorem halts_reject : Halts (reject : BufferProg α) := trivial

@[simp] theorem not_halts_read (i : Nat) : ¬ Halts (read i k) := id

theorem stays_read {i : Nat} {b : UInt8} (h : der[i]? = some b) :
    Stays der (read i k) ↔ Stays der (k b) := by
  simp [Stays, h]

theorem not_stays_read {i : Nat} (h : der[i]? = none) : ¬ Stays der (read i k) := by
  simp [Stays, h]

theorem stays_size {v : Nat} (h : v < 2 ^ 64) : Stays der (size v j) ↔ Stays der (j v) := by
  rw [Stays, Nat.mod_eq_of_lt h]
  exact ⟨fun hs => hs.2, fun hs => ⟨.inl h, hs⟩⟩

/-- The memory has the bytes of the buffer at its indices. -/
def Holds (mem : Nat → UInt8) (der : Bytes) : Prop := ∀ i b, der[i]? = some b → mem i = b

/-- On `der`, and on every memory that holds it, `p` answers what `q` answers. -/
structure SameRun (der : Bytes) (p q : BufferProg α) : Prop where
  exec : exec der p = exec der q
  execMem : ∀ mem, Holds mem der → execMem mem p = execMem mem q

theorem SameRun.refl (p : BufferProg α) : SameRun der p p := ⟨rfl, fun _ _ => rfl⟩

theorem SameRun.trans {p q r : BufferProg α} (h : SameRun der p q) (h' : SameRun der q r) :
    SameRun der p r :=
  ⟨h.exec.trans h'.exec, fun mem hmem => (h.execMem mem hmem).trans (h'.execMem mem hmem)⟩

theorem sameRun_read {i : Nat} {b : UInt8} (h : der[i]? = some b) :
    SameRun der (read i k) (k b) where
  exec := by simp [BufferProg.exec, h]
  execMem mem hmem := by rw [BufferProg.execMem, hmem i b h]

theorem sameRun_size (v : Nat) : SameRun der (size v j) (j (v % 2 ^ 64)) :=
  ⟨rfl, fun _ _ => rfl⟩

theorem sameRun_size_of_lt {v : Nat} (h : v < 2 ^ 64) : SameRun der (size v j) (j v) := by
  have hrun : SameRun der (size v j) (j (v % 2 ^ 64)) := sameRun_size v
  rwa [Nat.mod_eq_of_lt h] at hrun

/-- `p` comes down to `q`: it answers the same, and it stays when `q` stays. -/
structure Steps (der : Bytes) (p q : BufferProg α) : Prop where
  stays : Stays der p ↔ Stays der q
  run : SameRun der p q

theorem Steps.refl (p : BufferProg α) : Steps der p p := ⟨Iff.rfl, .refl p⟩

theorem Steps.trans {p q r : BufferProg α} (h : Steps der p q) (h' : Steps der q r) :
    Steps der p r :=
  ⟨h.stays.trans h'.stays, h.run.trans h'.run⟩

theorem steps_read {i : Nat} {b : UInt8} (h : der[i]? = some b) : Steps der (read i k) (k b) :=
  ⟨stays_read h, sameRun_read h⟩

theorem steps_size {v : Nat} (h : v < 2 ^ 64) : Steps der (size v j) (j v) :=
  ⟨stays_size h, sameRun_size_of_lt h⟩

end Rules

end BufferProg

end MobileUnlock.Lib
