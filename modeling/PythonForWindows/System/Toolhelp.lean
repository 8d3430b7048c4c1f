import PythonForWindows.Basic

/-
  `System.enumerate_processes` and `System.enumerate_threads`: take a toolhelp snapshot,
  copy out the entry `Process32First` (`Thread32First`) fills, then every entry
  `Process32Next` (`Thread32Next`) hands out until it returns FALSE. The two differ only in
  the snapshot class and the thunks they call, so both are `Toolhelp.enumerate`.
  `CreateToolhelp32Snapshot` returns a bare handle, not an `AutoHandle`, and nothing closes
  it: `enumerate_handles` says the table of open handles gains it on every exit path,
  whatever the snapshot holds and whichever later call raises. `enumerate_ok` and
  `enumerate_empty` say what the caller gets back.
-/

namespace PythonForWindows

/-- The calls of an enumeration that may raise after the snapshot is taken, in the order it
    makes them: the first entry, then the `i`-th entry's copy and the `Next` call that asks
    for the `i`-th entry. -/
inductive ToolhelpCall
  | first
  | copy (i : Nat)
  | next (i : Nat)
  deriving DecidableEq, Repr

/-- The toolhelp thunks as one enumeration meets them. `CreateToolhelp32Snapshot` gives the
    handle it opens and the entries of the snapshot (of the class the caller asks for), or
    raises; `raises` says which later call raises, beside the failure the snapshot itself
    forces (`Process32First` on an empty snapshot). The copy is `utils.swallow_ctypes_copy`
    for processes and `copy.copy` for threads. -/
structure Toolhelp (ε : Type) where
  CreateToolhelp32Snapshot : Except PyExc (Nat × List ε)
  raises : ToolhelpCall → Option PyExc

namespace Toolhelp

variable {ε : Type} (th : Toolhelp ε)

/-- `Process32First(snap, entry)`: the snapshot's first entry. Modelled from the spec:
    winproxy's thunks raise `Kernel32Error(fn)` when the call fails, as it does on an empty
    snapshot. -/
def first (fn : String) (entries : List ε) : Except PyExc ε :=
  match th.raises .first, entries with
  | some e, _ => .error e
  | none, [] => .error (.kernel32Error fn)
  | none, x :: _ => .ok x

/-- The copy of the `i`-th entry. -/
def copy (i : Nat) (x : ε) : Except PyExc ε :=
  match th.raises (.copy i) with
  | some e => .error e
  | none => .ok x

/-- `while Next(snap, entry): res.append(copy(entry))` from the `i`-th entry on; `rest` is
    what the snapshot has still to hand out. -/
def drain : Nat → List ε → Except PyExc (List ε)
  | i, rest =>
    match th.raises (.next i), rest with
    | some e, _ => .error e
    | none, [] => .ok []
    | none, x :: rest' => do
      let y ← th.copy i x
      let ys ← drain (i + 1) rest'
      pure (y :: ys)

/-- One enumeration over the table `t` of open handles: the table after it, and what it
    returns or raises. -/
def enumerate (fn : String) (t : Finset Nat) : Finset Nat × Except PyExc (List ε) :=
  match th.CreateToolhelp32Snapshot with
  | .error e => (t, .error e)
  | .ok (snap, entries) =>
    (insert snap t, do
      let x ← th.first fn entries
      let y ← th.copy 0 x
      let ys ← th.drain 1 entries.tail
      pure (y :: ys))

/-- No call raises from the `i`-th entry on. -/
def Quiet (i : Nat) : Prop := th.raises .first = none ∧ ∀ j, i ≤ j →
  th.raises (.copy j) = none ∧ th.raises (.next j) = none

/-- With no call raising, the loop copies out everything the snapshot still holds. -/
theorem drain_ok : ∀ (i : Nat) (rest : List ε), th.Quiet i → th.drain i rest = .ok rest
  | i, [], ⟨_, h⟩ => by simp [drain, (h i le_rfl).2]
  | i, x :: rest, ⟨h1, h⟩ => by
    have hq : th.Quiet (i + 1) := ⟨h1, fun j hj => h j (by omega)⟩
    simp [drain, copy, (h i le_rfl).1, (h i le_rfl).2, drain_ok (i + 1) rest hq]

/-- The handle table after an enumeration: unchanged when the snapshot cannot be taken,
    and otherwise holding the snapshot's handle, on every later exit path. -/
theorem enumerate_handles (fn : String) (t : Finset Nat) :
    (th.enumerate fn t).1 =
      match th.CreateToolhelp32Snapshot with
      | .error _ => t
      | .ok (snap, _) => insert snap t := by
  unfold enumerate
  split <;> rfl

/-- With no call raising, an enumeration returns a copy of each entry of a non-empty
    snapshot, in the snapshot's order. -/
theorem enumerate_ok (fn : String) (t : Finset Nat) (snap : Nat) (entries : List ε)
    (hc : th.CreateToolhelp32Snapshot = .ok (snap, entries)) (hne : entries ≠ [])
    (hq : th.Quiet 0) :
    (th.enumerate fn t).2 = .ok entries := by
  obtain ⟨x, rest, rfl⟩ := List.exists_cons_of_ne_nil hne
  simp [enumerate, hc, first, copy, hq.1, (hq.2 0 le_rfl).1,
    th.drain_ok 1 rest ⟨hq.1, fun j _ => hq.2 j (Nat.zero_le j)⟩]

/-- A snapshot, handle `12`, of the processes `0` and `4`, over which no call raises. -/
def quietSnapshot : Toolhelp Nat := ⟨.ok (12, [0, 4]), fun _ => none⟩

theorem enumerate_ok_quiet : (quietSnapshot.enumerate "Process32First" ∅).2 = .ok [0, 4] :=
  quietSnapshot.enumerate_ok "Process32First" ∅ 12 [0, 4] rfl (by simp)
    ⟨rfl, fun _ _ => ⟨rfl, rfl⟩⟩

/-- The handle the snapshot opens, if it is taken. -/
def opened : Option Nat :=
  match th.CreateToolhelp32Snapshot with
  | .error _ => none
  | .ok (snap, _) => some snap

/-- An empty snapshot makes the first-entry call raise. -/
theorem enumerate_empty (fn : String) (t : Finset Nat) (snap : Nat)
    (hc : th.CreateToolhelp32Snapshot = .ok (snap, [])) (h1 : th.raises .first = none) :
    (th.enumerate fn t).2 = .error (.kernel32Error fn) := by
  simp [enumerate, hc, first, h1]

end Toolhelp

/-! ## Enumerations one after another -/

/-- Enumerations run one after another, each over the table the last one left. -/
def enumerateAll {ε : Type} (fn : String) : List (Toolhelp ε) → Finset Nat → Finset Nat
  | [], t => t
  | th :: ths, t => enumerateAll fn ths (th.enumerate fn t).1

/-- Over any run of enumerations the table gains every snapshot handle and loses none. -/
theorem enumerateAll_handles {ε : Type} (fn : String) :
    ∀ (ths : List (Toolhelp ε)) (t : Finset Nat),
      enumerateAll fn ths t = t ∪ (ths.filterMap Toolhelp.opened).toFinset
  | [], t => by simp [enumerateAll]
  | th :: ths, t => by
    rw [enumerateAll, enumerateAll_handles fn ths, Toolhelp.enumerate_handles]
    cases hc : th.CreateToolhelp32Snapshot with
    | error e => simp [Toolhelp.opened, hc]
    | ok r => simp [Toolhelp.opened, hc, Finset.union_insert]

/-- When the kernel hands out fresh handles, each snapshot taken leaves one more handle
    open: the table grows without bound over repeated enumerations. -/
theorem enumerateAll_card {ε : Type} (fn : String) (ths : List (Toolhelp ε)) (t : Finset Nat)
    (hnd : (ths.filterMap Toolhelp.opened).Nodup)
    (hfresh : ∀ h ∈ ths.filterMap Toolhelp.opened, h ∉ t) :
    (enumerateAll fn ths t).card = t.card + (ths.filterMap Toolhelp.opened).length := by
  rw [enumerateAll_handles, Finset.card_union_of_disjoint
    (Finset.disjoint_left.2 fun h ht hs => hfresh h (List.mem_toFinset.1 hs) ht),
    List.toFinset_card_of_nodup hnd]

/-- Two enumerations, the second over an empty snapshot (handle `16`) whose first call
    raises: each leaves one more handle open. -/
theorem enumerateAll_card_two :
    (enumerateAll "Process32First"
        [Toolhelp.quietSnapshot, ⟨.ok (16, []), fun _ => none⟩] ∅).card =
      (∅ : Finset Nat).card +
        ([Toolhelp.quietSnapshot, ⟨.ok (16, []), fun _ => none⟩].filterMap
          Toolhelp.opened).length :=
  enumerateAll_card "Process32First" _ ∅ (by decide) (by simp)

/-- `System.enumerate_processes()`, over a snapshot of class `TH32CS_SNAPPROCESS`. -/
def System.enumerate_processes {ε : Type} (th : Toolhelp ε) (t : Finset Nat) :
    Finset Nat × Except PyExc (List ε) :=
  th.enumerate "Process32First" t

/-- `System.enumerate_threads()`, over a snapshot of class `TH32CS_SNAPTHREAD`. -/
def System.enumerate_threads {ε : Type} (th : Toolhelp ε) (t : Finset Nat) :
    Finset Nat × Except PyExc (List ε) :=
  th.enumerate "Thread32First" t

/-- Whatever the snapshot holds and however the iteration ends, both enumerations leave the
    snapshot's handle open: the handle table gains a handle it did not hold. -/
theorem enumerate_leaks_snapshot {ε ε' : Type} (tp : Toolhelp ε) (tt : Toolhelp ε')
    (t : Finset Nat) (sp st : Nat) (lp : List ε) (lt : List ε')
    (hp : tp.CreateToolhelp32Snapshot = .ok (sp, lp))
    (ht : tt.CreateToolhelp32Snapshot = .ok (st, lt)) (hsp : sp ∉ t) (hst : st ∉ t) :
    (System.enumerate_processes tp t).1 = insert sp t ∧ (System.enumerate_processes tp t).1 ≠ t ∧
      (System.enumerate_threads tt t).1 = insert st t ∧
        (System.enumerate_threads tt t).1 ≠ t := by
  have hp' : (System.enumerate_processes tp t).1 = insert sp t := by
    rw [System.enumerate_processes, Toolhelp.enumerate_handles, hp]
  have ht' : (System.enumerate_threads tt t).1 = insert st t := by
    rw [System.enumerate_threads, Toolhelp.enumerate_handles, ht]
  refine ⟨hp', ?_, ht', ?_⟩
  · rw [hp']; exact fun h => hsp (h ▸ Finset.mem_insert_self sp t)
  · rw [ht']; exact fun h => hst (h ▸ Finset.mem_insert_self st t)

/-- A snapshot of two processes and one of one thread, taken when no handle is open, whose
    enumerations run to their normal end. -/
def twoProcesses : Toolhelp Nat := ⟨.ok (4, [0, 4]), fun _ => none⟩

def oneThread : Toolhelp Nat := ⟨.ok (8, [0]), fun _ => none⟩

theorem enumerate_leaks_snapshot_quiet :
    (System.enumerate_processes twoProcesses ∅).1 = {4} ∧
      (System.enumerate_processes twoProcesses ∅).1 ≠ ∅ ∧
      (System.enumerate_threads oneThread ∅).1 = {8} ∧
        (System.enumerate_threads oneThread ∅).1 ≠ ∅ :=
  enumerate_leaks_snapshot twoProcesses oneThread ∅ 4 8 [0, 4] [0] rfl rfl
    (Finset.not_mem_empty 4) (Finset.not_mem_empty 8)

end PythonForWindows
