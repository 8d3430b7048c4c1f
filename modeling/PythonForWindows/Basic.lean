import Mathlib

/-
  PythonForWindows: what the modelled code passes around. `PyExc` is what a call raises,
  `Image` is a target's memory as `read_memory` sees it, and `loop` runs a Python
  `while True` loop (or `for i in itertools.count()`) for at most `fuel` passes: `none` means
  the fuel ran out. A statement that the code returns is therefore `loop … fuel … = some …`
  for every large enough `fuel`, and one that it never returns is `∀ fuel, … = none`.
  `loop_continue`, `loop_break` and `loop_raise` say what one pass does; `loop_iterate` runs
  `k` passes at once and `loop_diverges` turns an invariant every pass keeps into divergence.
-/

namespace PythonForWindows

/-- The exceptions the modelled code raises or lets through, with the text it gives them. -/
inductive PyExc
  | valueError (msg : String)
  | typeError (msg : String)
  | kernel32Error (fn : String)
  | ntStatus (code : Int)
  | unicodeDecodeError (msg : String)
  | runtimeError (msg : String)
  /-- `ctypes.ArgumentError`: converting argument `arg` of a foreign function raised `cause`. -/
  | argumentError (arg : Nat) (cause : PyExc)
  deriving DecidableEq, Repr

/-- A process's bitness: 32 or 64. -/
inductive Bitness
  | b32
  | b64
  deriving DecidableEq, Repr

/-- `sizeof(PVOID)` in a process of that bitness. -/
def Bitness.ptrSize : Bitness → Nat
  | .b32 => 4
  | .b64 => 8

@[simp] theorem ok_bind {ε α β : Type} (a : α) (f : α → Except ε β) :
    (Except.ok a >>= f) = f a := rfl

@[simp] theorem error_bind {ε α β : Type} (e : ε) (f : α → Except ε β) :
    (Except.error e >>= f) = .error e := rfl

@[simp] theorem pure_eq_ok {ε α : Type} (a : α) : (pure a : Except ε α) = .ok a := rfl

/-! ## Memory images -/

/-- A target's memory: the byte at each address, `none` where it cannot be read. Addresses
    are the Python integers the code computes. -/
abbrev Image := Int → Option UInt8

/-- The bytes of `[a, a + n)`, if every one of them is readable. -/
def Image.bytes (m : Image) (a : Int) : Nat → Option (List UInt8)
  | 0 => some []
  | n + 1 =>
    match m a, m.bytes (a + 1) n with
    | some b, some bs => some (b :: bs)
    | _, _ => none

/-- A `read_memory` over `m`: the `n` bytes at `a`, or `fault` when one is unreadable. -/
def imageRead (m : Image) (fault : PyExc) (a : Int) (n : Nat) : Except PyExc (List UInt8) :=
  match m.bytes a n with
  | some bs => .ok bs
  | none => .error fault

/-- The image of a memory every address of which is readable. -/
def total (m : Int → UInt8) : Image := fun a => some (m a)

/-- `m[a .. a + n)` of a fully readable memory. -/
def slice (m : Int → UInt8) (a : Int) (n : Nat) : List UInt8 :=
  (List.range n).map fun i : Nat => m (a + i)

/-- Unsigned little-endian value of a byte string (`struct.unpack("<I")`, `"<Q"`, and the
    pointer fields of a structure read from a target). -/
def leValue : List UInt8 → Nat
  | [] => 0
  | b :: bs => b.toNat + 256 * leValue bs

theorem bytes_succ (m : Image) (a : Int) (n : Nat) :
    m.bytes a (n + 1) = (do let b ← m a; let bs ← m.bytes (a + 1) n; pure (b :: bs)) := by
  simp only [Image.bytes]
  cases m a <;> cases m.bytes (a + 1) n <;> rfl

/-- The bytes of a range are readable exactly when each address in it is. -/
theorem bytes_isSome_iff (m : Image) (a : Int) (n : Nat) :
    (m.bytes a n).isSome ↔ ∀ i < n, (m (a + i)).isSome := by
  induction n generalizing a with
  | zero => simp [Image.bytes]
  | succ n ih =>
    rw [bytes_succ]
    cases h : m a with
    | none => exact ⟨by simp, fun hall => by simpa [h] using hall 0 (by omega)⟩
    | some b =>
      constructor
      · intro hs i hi
        rcases i with _ | i
        · simp [h]
        · have := (ih (a + 1)).1 (by cases hb : m.bytes (a + 1) n <;> simp_all) i (by omega)
          rwa [show a + 1 + (i : Int) = a + ↑(i + 1) by push_cast; ring] at this
      · intro hall
        obtain ⟨bs, hbs⟩ := Option.isSome_iff_exists.1 ((ih (a + 1)).2 fun i hi => by
          simpa [show a + 1 + (i : Int) = a + ↑(i + 1) by push_cast; ring] using
            hall (i + 1) (by omega))
        simp [hbs]

theorem slice_succ (m : Int → UInt8) (a : Int) (n : Nat) :
    slice m a (n + 1) = m a :: slice m (a + 1) n := by
  simp only [slice, List.range_succ_eq_map, List.map_cons, List.map_map]
  refine congrArg₂ _ (by simp) (List.map_congr_left fun i _ => ?_)
  simp only [Function.comp, Nat.cast_succ]
  ring_nf

theorem bytes_length {m : Image} {a : Int} {n : Nat} {bs : List UInt8}
    (h : m.bytes a n = some bs) : bs.length = n := by
  induction n generalizing a bs with
  | zero => simp [Image.bytes] at h; simp [← h]
  | succ n ih =>
    rw [bytes_succ] at h
    cases ha : m a <;> cases hb : m.bytes (a + 1) n <;> simp_all
    simp [← h, ih hb]

/-- A readable range splits at any point into two readable ranges. -/
theorem bytes_split {m : Image} {a : Int} {p q : Nat} {s : List UInt8}
    (h : m.bytes a (p + q) = some s) :
    m.bytes a p = some (s.take p) ∧ m.bytes (a + p) q = some (s.drop p) := by
  induction p generalizing a s with
  | zero => simpa [Image.bytes] using h
  | succ p ih =>
    rw [show p + 1 + q = (p + q) + 1 by omega, bytes_succ] at h
    cases ha : m a <;> cases hb : m.bytes (a + 1) (p + q) <;> simp_all
    obtain ⟨h1, h2⟩ := ih hb
    subst h
    rw [bytes_succ, ha, h1]
    refine ⟨rfl, ?_⟩
    rwa [show a + ((p : Int) + 1) = a + 1 + p by ring]

/-- One unreadable address makes every range through it unreadable. -/
theorem bytes_eq_none {m : Image} {a : Int} {n i : Nat} (hi : i < n) (h : m (a + i) = none) :
    m.bytes a n = none := by
  by_contra hs
  have := (bytes_isSome_iff m a n).1 (Option.ne_none_iff_isSome.1 hs) i hi
  simp [h] at this

theorem bytes_total (m : Int → UInt8) (a : Int) (n : Nat) :
    (total m).bytes a n = some (slice m a n) := by
  induction n generalizing a with
  | zero => rfl
  | succ n ih => rw [bytes_succ, ih, slice_succ]; rfl

theorem imageRead_total (m : Int → UInt8) (fault : PyExc) (a : Int) (n : Nat) :
    imageRead (total m) fault a n = .ok (slice m a n) := by
  simp [imageRead, bytes_total]

theorem slice_add (m : Int → UInt8) (a : Int) (n k : Nat) :
    slice m a (n + k) = slice m a n ++ slice m (a + n) k := by
  simp only [slice, List.range_add, List.map_append, List.map_map]
  exact congrArg _ (List.map_congr_left fun i _ => by simp [add_assoc])

theorem length_slice (m : Int → UInt8) (a : Int) (n : Nat) : (slice m a n).length = n := by
  simp [slice]

theorem getElem_slice (m : Int → UInt8) (a : Int) (n i : Nat) (h : i < (slice m a n).length) :
    (slice m a n)[i] = m (a + i) := by
  simp [slice]

/-! ## Loops -/

section Loop

variable {σ α : Type}

/-- At most `fuel` passes of a loop whose body, from the state `s`, raises, goes on with a
    new state (`.inl`) or leaves the loop with a result (`.inr`). -/
def loop (body : σ → Except PyExc (σ ⊕ α)) : Nat → σ → Option (Except PyExc α)
  | 0, _ => none
  | fuel + 1, s =>
    match body s with
    | .error e => some (.error e)
    | .ok (.inr a) => some (.ok a)
    | .ok (.inl s') => loop body fuel s'

variable {body : σ → Except PyExc (σ ⊕ α)} {s s' : σ} {fuel : Nat}

theorem loop_continue (h : body s = .ok (.inl s')) :
    loop body (fuel + 1) s = loop body fuel s' := by
  simp [loop, h]

theorem loop_break {a : α} (h : body s = .ok (.inr a)) :
    loop body (fuel + 1) s = some (.ok a) := by
  simp [loop, h]

theorem loop_raise {e : PyExc} (h : body s = .error e) :
    loop body (fuel + 1) s = some (.error e) := by
  simp [loop, h]

/-- `k` passes that each go on, from `s` through the states `next 0, …, next (k-1)`. -/
theorem loop_iterate (next : Nat → σ) (k : Nat)
    (hstep : ∀ i < k, body (next i) = .ok (.inl (next (i + 1)))) :
    loop body (fuel + k) (next 0) = loop body fuel (next k) := by
  induction k generalizing fuel with
  | zero => rfl
  | succ k ih =>
    rw [show fuel + (k + 1) = (fuel + 1) + k by omega,
      ih (fun i hi => hstep i (by omega)), loop_continue (hstep k (by omega))]

/-- A loop whose every pass, from a state satisfying `inv`, goes on to another such state
    never finishes. -/
theorem loop_diverges (inv : σ → Prop)
    (hstep : ∀ s, inv s → ∃ s', body s = .ok (.inl s') ∧ inv s') (hs : inv s) :
    ∀ fuel, loop body fuel s = none := by
  intro fuel
  induction fuel generalizing s with
  | zero => rfl
  | succ n ih =>
    obtain ⟨s', h, hs'⟩ := hstep s hs
    rw [loop_continue h, ih hs']

end Loop

end PythonForWindows
