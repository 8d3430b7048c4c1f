import PythonForWindows.System.Handles
import PythonForWindows.Process.Write

/-
  `Process.execute(code, parameter)`: `x = self.virtual_alloc(len(code))`,
  `self.write_memory(x, code)`, then `return self.create_thread(x, parameter)`, each a method
  of the process's class. In a `WinProcess` the three pass `self.handle` to `VirtualAllocEx`,
  `WriteProcessMemory` and `CreateRemoteThread`; in the `CurrentProcess` they are
  `VirtualAlloc`, a store in place and `CreateThread`. Only the first `self.handle` can open a
  handle: what it returns stays in `_handle` (`handle_sets`), and the later calls return it
  and change nothing (`handle_cached`). So `execute` either raises before it writes anything,
  or stores the code at the base of the region it allocated, keeps every other byte, and
  creates the thread there over that memory (`execute_stores_code`,
  `current_execute_stores_code`): its write cannot fail in a region the target lets it write.
  A remote `execute` is a run of `HStep`, so it keeps `Handles.Inv` (`execute_inv`). Neither
  frees the region it allocates.
-/

namespace PythonForWindows

/-- `Process.execute(code, parameter)`, over the state `σ` that the methods of the process's
    class work on. -/
def Process.execute {σ : Type} (virtual_alloc : Nat → σ → σ × Except PyExc Int)
    (write_memory : Int → List UInt8 → σ → σ × Except PyExc Unit)
    (create_thread : Int → Nat → σ → σ × Except PyExc Nat) (code : List UInt8)
    (parameter : Nat) (s : σ) : σ × Except PyExc Nat :=
  let r₁ := virtual_alloc code.length s
  match r₁.2 with
  | .error e => (r₁.1, .error e)
  | .ok x =>
    let r₂ := write_memory x code r₁.1
    match r₂.2 with
    | .error e => (r₂.1, .error e)
    | .ok () => create_thread x parameter r₂.1

/-! ## A `WinProcess` -/

/-- A `WinProcess` object while its methods run: its state `self`, the library's objects and
    handles, and the target's memory. -/
structure Remote where
  self : HObj
  world : Handles
  mem : Image

/-- `self.handle` in a method of object `p`. -/
def Remote.handle (opened : Except PyExc Nat) (reads : Except PyExc Unit) (p : Nat)
    (s : Remote) : Remote × Except PyExc HandleValue :=
  let r := AutoHandle.handle opened reads s.self s.world.table
  ({ s with self := r.1.1, world := { s.world.set p (some r.1.1) with table := r.1.2 } }, r.2)

@[simp] theorem Remote.handle_mem {opened : Except PyExc Nat} {reads : Except PyExc Unit}
    {p : Nat} {s : Remote} : (s.handle opened reads p).1.mem = s.mem := rfl

/-- After `self.handle` the world holds `self` as object `p`. -/
theorem Remote.handle_live {opened : Except PyExc Nat} {reads : Except PyExc Unit} {p : Nat}
    {s : Remote} :
    (s.handle opened reads p).1.world.objs p = some (s.handle opened reads p).1.self := by
  simp [Remote.handle]

/-- Once `_handle` is set, `self.handle` returns it and changes nothing. -/
theorem Remote.handle_cached {opened : Except PyExc Nat} {reads : Except PyExc Unit} {p : Nat}
    {s : Remote} {v : HandleValue} (hlive : s.world.objs p = some s.self)
    (hv : s.self._handle = some v) : s.handle opened reads p = (s, .ok v) := by
  obtain ⟨o, w, m⟩ := s
  simp_all [Remote.handle, AutoHandle.handle, Handles.set_self hlive]

/-- `WinProcess.virtual_alloc(size)`: `VirtualAllocEx(self.handle, dwSize=size)`, which
    answers the base of the region it commits, or raises. -/
def WinProcess.virtual_alloc (opened : Except PyExc Nat) (reads : Except PyExc Unit)
    (VirtualAllocEx : Nat → Except PyExc Int) (p size : Nat) (s : Remote) :
    Remote × Except PyExc Int :=
  let r := s.handle opened reads p
  (r.1, r.2 >>= fun _ => VirtualAllocEx size)

/-- `execute` of a `WinProcess`, object `p`, whose thread is numbered `i`. `write_memory` is
    `WinProcess.write_memory` after `self.handle`; `CreateRemoteThread` answers
    `created x parameter m` when it starts a thread at `x` with `parameter` in the target
    memory `m`. -/
def WinProcess.execute (opened : Except PyExc Nat) (reads : Except PyExc Unit)
    (VirtualAllocEx : Nat → Except PyExc Int) (writable : Int → Bool)
    (created : Int → Nat → Image → Except PyExc Nat) (th : FromHandleThunks ThreadEntry)
    (p i : Nat) : List UInt8 → Nat → Remote → Remote × Except PyExc Nat :=
  Process.execute (WinProcess.virtual_alloc opened reads VirtualAllocEx p)
    (fun addr data s =>
      let r := s.handle opened reads p
      match r.2 >>= fun _ => WinProcess.write_memory writable s.mem addr data with
      | .ok m => ({ r.1 with mem := m }, .ok ())
      | .error e => (r.1, .error e))
    (fun addr param s =>
      let r := WinProcess.create_thread opened reads (created addr param s.mem) th p s.self i
        s.world
      ({ s with self := (s.handle opened reads p).1.self, world := r.1 }, r.2))

section Remote

variable (opened : Except PyExc Nat) (reads : Except PyExc Unit)
  (VirtualAllocEx : Nat → Except PyExc Int) (writable : Int → Bool)
  (created : Int → Nat → Image → Except PyExc Nat) (th : FromHandleThunks ThreadEntry)
  (p i : Nat) (code : List UInt8) (parameter : Nat)

/-- A remote `execute` either raises before it writes anything, or stores the code at the base
    of the region `VirtualAllocEx` returned, keeps every other byte, and returns what
    `create_thread` at that address returns over that memory, on the process as its first
    `self.handle` left it: when the region is writable its `WriteProcessMemory` cannot fail. -/
theorem execute_stores_code (s : Remote)
    (hw : ∀ x, VirtualAllocEx code.length = .ok x → ∀ k < code.length, writable (x + k)) :
    let r := WinProcess.execute opened reads VirtualAllocEx writable created th p i code
      parameter s
    (r.1.mem = s.mem ∧ ∃ e, r.2 = .error e) ∨
      ∃ (x : Int) (m : Image), VirtualAllocEx code.length = .ok x ∧
        m.bytes x code.length = some code ∧ (∀ a, a < x ∨ x + code.length ≤ a → m a = s.mem a) ∧
        r.1.mem = m ∧
        r.2 = (WinProcess.create_thread opened reads (created x parameter m) th p
          (s.handle opened reads p).1.self i (s.handle opened reads p).1.world).2 := by
  intro r
  simp only [r, WinProcess.execute, Process.execute, WinProcess.virtual_alloc]
  rcases hh : (s.handle opened reads p).2 with e | v
  · exact .inl ⟨rfl, e, rfl⟩
  rcases hx : VirtualAllocEx code.length with e | x
  · exact .inl ⟨rfl, e, rfl⟩
  obtain ⟨m', hm', hbytes, hframe⟩ := remote_write_spec writable s.mem x code (hw x hx)
  simp only [ok_bind, Remote.handle_mem,
    Remote.handle_cached Remote.handle_live (AutoHandle.handle_sets hh), hm']
  exact .inr ⟨x, m', rfl, hbytes, hframe, rfl, rfl⟩

/-- A `WinProcess` object `0` whose handle is not opened yet, over a target whose every byte
    is `0`. -/
def freshRemote : Remote :=
  ⟨⟨.WinProcess, none⟩, Handles.empty.set 0 (some ⟨.WinProcess, none⟩), fun _ => some 0⟩

/-- `execute` of a `ret`: `OpenProcess` answers `4`, `VirtualAllocEx` the region at `0x10000`,
    `CreateRemoteThread` handle `16`. -/
theorem execute_stores_code_ret :
    let r := WinProcess.execute (.ok 4) (.ok ()) (fun _ => .ok 0x10000) (fun _ => true)
      (fun _ _ _ => .ok 16) thread7 0 1 [0xC3] 0 freshRemote
    (r.1.mem = freshRemote.mem ∧ ∃ e, r.2 = .error e) ∨
      ∃ (x : Int) (m : Image), (.ok 0x10000 : Except PyExc Int) = .ok x ∧
        m.bytes x 1 = some [0xC3] ∧ (∀ a, a < x ∨ x + 1 ≤ a → m a = some 0) ∧ r.1.mem = m ∧
        r.2 = (WinProcess.create_thread (.ok 4) (.ok ()) (.ok 16) thread7 0
          (freshRemote.handle (.ok 4) (.ok ()) 0).1.self 1
          (freshRemote.handle (.ok 4) (.ok ()) 0).1.world).2 :=
  execute_stores_code (.ok 4) (.ok ()) (fun _ => .ok 0x10000) (fun _ => true)
    (fun _ _ _ => .ok 16) thread7 0 1 [0xC3] 0 freshRemote fun _ _ _ _ => rfl

/-- A remote `execute` is a run of the handle machine, so it keeps the invariant, when the
    kernel hands out handles that are not open, each once. -/
theorem execute_inv (s : Remote) (hinv : s.world.Inv) (ho : s.world.objs p = some s.self)
    (hi : s.world.objs i = none) (hopened : ∀ h, opened = .ok h → h ≠ 0 ∧ h ∉ s.world.table)
    (hcreated : ∀ x m h, created x parameter m = .ok h →
      h ≠ 0 ∧ h ∉ s.world.table ∧ opened ≠ .ok h)
    (hsnap : ∀ x m h sn l, created x parameter m = .ok h →
      th.snapshot.CreateToolhelp32Snapshot = .ok (sn, l) →
      sn ≠ 0 ∧ sn ∉ s.world.table ∧ sn ≠ h ∧ opened ≠ .ok sn) :
    (WinProcess.execute opened reads VirtualAllocEx writable created th p i code parameter
      s).1.world.Inv := by
  obtain ⟨tr₁, hrun₁⟩ := handle_steps opened reads ho hopened
  have hinv₁ := steps_inv hinv hrun₁
  simp only [WinProcess.execute, Process.execute, WinProcess.virtual_alloc]
  rcases hh : (s.handle opened reads p).2 with e | v
  · exact hinv₁
  rcases hx : VirtualAllocEx code.length with e | x
  · exact hinv₁
  have hv := AutoHandle.handle_sets hh
  simp only [ok_bind, Remote.handle_cached Remote.handle_live hv]
  cases WinProcess.write_memory writable (s.handle opened reads p).1.mem x code with
  | error e => exact hinv₁
  | ok m' =>
    have hpi : i ≠ p := fun h => by simp_all
    dsimp only
    rw [create_thread_cached _ _ _ _ Remote.handle_live hv]
    obtain ⟨tr₂, hrun₂⟩ := create_thread_steps_after (created x parameter m') th opened hinv₁
      (by rw [← hi]; exact handle_objs_ne _ _ hpi) (fun _ hm => mem_handle_table opened reads hm)
      (hcreated x m') (hsnap x m')
    exact steps_inv hinv₁ hrun₂

theorem execute_inv_ret :
    (WinProcess.execute (.ok 4) (.ok ()) (fun _ => .ok 0x10000) (fun _ => true)
      (fun _ _ _ => .ok 16) thread7 0 1 [0xC3] 0 freshRemote).1.world.Inv :=
  execute_inv (.ok 4) (.ok ()) (fun _ => .ok 0x10000) (fun _ => true) (fun _ _ _ => .ok 16)
    thread7 0 1 [0xC3] 0 freshRemote
    (steps_inv Handles.inv_empty (.cons (.make (i := 0) (c := .WinProcess) rfl (by decide)) .nil))
    rfl rfl (fun h hh => by cases hh; decide)
    (fun _ _ h hh => by cases hh; simp [freshRemote, Handles.empty])
    fun _ _ h sn l hh hs => by
      cases hh
      obtain ⟨rfl, rfl⟩ := Prod.mk.inj (Except.ok.inj hs).symm
      simp [freshRemote, Handles.empty]

end Remote

/-! ## The `CurrentProcess` -/

/-- `CurrentProcess.virtual_alloc(size)`: `VirtualAlloc(dwSize=size)`. -/
def CurrentProcess.virtual_alloc (VirtualAlloc : Nat → Except PyExc Int) (size : Nat)
    (s : Handles × (Int → UInt8)) : (Handles × (Int → UInt8)) × Except PyExc Int :=
  (s, VirtualAlloc size)

/-- `execute` of the `CurrentProcess`, over the handles and its memory, whose thread is
    numbered `i`; `CreateThread` answers `created x parameter m` when it starts a thread at `x`
    with `parameter` over the memory `m`. -/
def CurrentProcess.execute (VirtualAlloc : Nat → Except PyExc Int)
    (created : Int → Nat → (Int → UInt8) → Except PyExc Nat) (th : FromHandleThunks ThreadEntry)
    (i : Nat) : List UInt8 → Nat → Handles × (Int → UInt8) →
      (Handles × (Int → UInt8)) × Except PyExc Nat :=
  Process.execute (CurrentProcess.virtual_alloc VirtualAlloc)
    (fun addr data s => ((s.1, CurrentProcess.write_memory s.2 addr data), .ok ()))
    (fun addr param s =>
      let r := CurrentProcess.create_thread (created addr param s.2) th i s.1
      ((r.1, s.2), r.2))

/-- `execute` in the current process keeps the handle invariant, and either `VirtualAlloc`
    raises and nothing is written, or the code is stored at the base of the region and the
    thread is created there over that memory. -/
theorem current_execute_stores_code (VirtualAlloc : Nat → Except PyExc Int)
    (created : Int → Nat → (Int → UInt8) → Except PyExc Nat) (th : FromHandleThunks ThreadEntry)
    (i : Nat) (code : List UInt8) (parameter : Nat) (w : Handles) (m : Int → UInt8)
    (hinv : w.Inv) (hi : w.objs i = none)
    (hcreated : ∀ x m h, created x parameter m = .ok h → h ≠ 0 ∧ h ∉ w.table)
    (hsnap : ∀ x m h sn l, created x parameter m = .ok h →
      th.snapshot.CreateToolhelp32Snapshot = .ok (sn, l) → sn ≠ 0 ∧ sn ∉ insert h w.table) :
    let r := CurrentProcess.execute VirtualAlloc created th i code parameter (w, m)
    r.1.1.Inv ∧
      ((r.1.2 = m ∧ ∃ e, VirtualAlloc code.length = .error e ∧ r.2 = .error e) ∨
        ∃ x, VirtualAlloc code.length = .ok x ∧ slice r.1.2 x code.length = code ∧
          (∀ a, a < x ∨ x + code.length ≤ a → r.1.2 a = m a) ∧
          r.2 = (CurrentProcess.create_thread (created x parameter r.1.2) th i w).2) := by
  intro r
  simp only [r, CurrentProcess.execute, Process.execute, CurrentProcess.virtual_alloc]
  rcases hx : VirtualAlloc code.length with e | x
  · exact ⟨hinv, .inl ⟨rfl, e, rfl, rfl⟩⟩
  obtain ⟨tr, hrun⟩ := create_thread_steps (created x parameter
    (CurrentProcess.write_memory m x code)) th hinv hi (hcreated x _) (hsnap x _)
  exact ⟨steps_inv hinv hrun,
    .inr ⟨x, rfl, slice_write m x code, current_write_frame m x code, rfl⟩⟩

/-- `execute` of a `ret` in the current process: `VirtualAlloc` answers `0x10000`,
    `CreateThread` handle `4`. -/
theorem current_execute_stores_code_ret :
    let r := CurrentProcess.execute (fun _ => .ok 0x10000) (fun _ _ _ => .ok 4) thread7 0 [0xC3]
      0 (Handles.empty, fun _ => 0)
    r.1.1.Inv ∧
      ((r.1.2 = (fun _ => 0) ∧ ∃ e, (.ok 0x10000 : Except PyExc Int) = .error e ∧ r.2 = .error e) ∨
        ∃ x, (.ok 0x10000 : Except PyExc Int) = .ok x ∧ slice r.1.2 x 1 = [0xC3] ∧
          (∀ a, a < x ∨ x + 1 ≤ a → r.1.2 a = 0) ∧
          r.2 = (CurrentProcess.create_thread (.ok 4) thread7 0 Handles.empty).2) :=
  current_execute_stores_code (fun _ => .ok 0x10000) (fun _ _ _ => .ok 4) thread7 0 [0xC3] 0
    Handles.empty (fun _ => 0) Handles.inv_empty rfl (fun _ _ h hh => by cases hh; decide)
    fun _ _ h sn l hh hs => by
      cases hh
      obtain ⟨rfl, rfl⟩ := Prod.mk.inj (Except.ok.inj hs).symm
      decide

end PythonForWindows
