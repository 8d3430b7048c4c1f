import PythonForWindows.System.Handles

/-
  Runs of the library's calls. `LibCall` names each call of the code that makes an object or
  touches a handle: the constructor of a class that gets its handle later (`CurrentThread()`,
  `CurrentProcess()`, or a thread or process copied out of a snapshot entry), `handle`, the
  collection of an object, the two enumerations, both `create_thread`s and `Process.token`.
  `LibStep` runs one by the code's function, every branch of it, under the kernel's guarantee
  that a handle it hands out is not open. Where an `HStep` is one primitive effect, a
  `LibStep` is a whole call of the code.
  `LibStep.refines` says each call is a run of `HStep`, so a run of calls from no objects is a
  run of the machine and keeps `Handles.Inv` (`lib_reachable_inv`): every handle an object
  holds is open and has one holder, and a `DeadThread` or `Token` always holds its own, so
  `handle` on it returns that handle and its abstract `_get_handle` is never called.
  `LibStep.keeps` is the frame of one call and `lib_keeps_handle` that of a whole run: an
  object whose `_handle` is set and which no call collects is left as it is, so `handle` on it
  returns that value and changes nothing.
-/

namespace PythonForWindows

/-- A call of the library on its objects and the kernel's handles, with what the kernel and
    the interpreter answer in it. -/
inductive LibCall
  /-- A new object numbered `i`, of a class whose `_get_handle` gives its handle later:
      `CurrentThread()`, `CurrentProcess()`, a thread or process of an enumeration. -/
  | make (i : Nat) (c : HandleClass)
  /-- `o.handle` where `o` is object `i`. -/
  | handle (i : Nat) (opened : Except PyExc Nat) (reads : Except PyExc Unit)
  /-- The collection of object `i`. -/
  | del (i : Nat) (reads printed : Except PyExc Unit)
  /-- `System.enumerate_threads()`. -/
  | enumerateThreads (th : Toolhelp ThreadEntry)
  /-- `System.enumerate_processes()`. -/
  | enumerateProcesses (th : Toolhelp ProcessEntry)
  /-- `create_thread` on the current process, the thread numbered `i`. -/
  | createThread (i : Nat) (created : Except PyExc Nat) (th : FromHandleThunks ThreadEntry)
  /-- `create_thread` on the `WinProcess` object `p`, the thread numbered `i`. -/
  | remoteCreateThread (p i : Nat) (opened : Except PyExc Nat) (reads : Except PyExc Unit)
      (created : Except PyExc Nat) (th : FromHandleThunks ThreadEntry)
  /-- `token` of the process object `p`, the token numbered `i`. -/
  | token (p i : Nat) (opened : Except PyExc Nat) (reads : Except PyExc Unit)
      (tokenOpened : Except PyExc Nat)

/-- The object a call collects. -/
def LibCall.collects : LibCall → Option Nat
  | .del i _ _ => some i
  | _ => none

/-- One call, run by the code's function. The kernel hands out no handle that is open, nor
    `0`, and the handles one call is handed differ. -/
inductive LibStep : Handles → LibCall → Handles → Prop
  | make {w i c} : w.objs i = none → c._get_handle ≠ .abstract →
      LibStep w (.make i c) (w.set i (some ⟨c, none⟩))
  | handle {w i o opened reads} : w.objs i = some o →
      (∀ h, opened = .ok h → h ≠ 0 ∧ h ∉ w.table) →
      LibStep w (.handle i opened reads) (w.handle opened reads i o).1
  | del {w i o reads printed} : w.objs i = some o →
      LibStep w (.del i reads printed) (w.del reads printed i o)
  | enumerateThreads {w th} :
      (∀ s l, th.CreateToolhelp32Snapshot = .ok (s, l) → s ≠ 0 ∧ s ∉ w.table) →
      LibStep w (.enumerateThreads th)
        { w with table := (System.enumerate_threads th w.table).1 }
  | enumerateProcesses {w th} :
      (∀ s l, th.CreateToolhelp32Snapshot = .ok (s, l) → s ≠ 0 ∧ s ∉ w.table) →
      LibStep w (.enumerateProcesses th)
        { w with table := (System.enumerate_processes th w.table).1 }
  | createThread {w i created th} : w.objs i = none →
      (∀ h, created = .ok h → h ≠ 0 ∧ h ∉ w.table) →
      (∀ h s l, created = .ok h → th.snapshot.CreateToolhelp32Snapshot = .ok (s, l) →
        s ≠ 0 ∧ s ∉ insert h w.table) →
      LibStep w (.createThread i created th) (CurrentProcess.create_thread created th i w).1
  | remoteCreateThread {w p o i opened reads created th} : w.objs p = some o →
      o.cls = .WinProcess → w.objs i = none →
      (∀ h, opened = .ok h → h ≠ 0 ∧ h ∉ w.table) →
      (∀ h, created = .ok h → h ≠ 0 ∧ h ∉ w.table ∧ opened ≠ .ok h) →
      (∀ h s l, created = .ok h → th.snapshot.CreateToolhelp32Snapshot = .ok (s, l) →
        s ≠ 0 ∧ s ∉ w.table ∧ s ≠ h ∧ opened ≠ .ok s) →
      LibStep w (.remoteCreateThread p i opened reads created th)
        (WinProcess.create_thread opened reads created th p o i w).1
  | token {w p o i opened reads tokenOpened} : w.objs p = some o →
      (o.cls = .WinProcess ∨ o.cls = .CurrentProcess) → w.objs i = none →
      (∀ h, opened = .ok h → h ≠ 0 ∧ h ∉ w.table) →
      (∀ h, tokenOpened = .ok h → h ≠ 0 ∧ h ∉ w.table ∧ opened ≠ .ok h) →
      LibStep w (.token p i opened reads tokenOpened)
        (Process.token opened reads tokenOpened p o i w).1

variable {w w' : Handles} {c : LibCall} {cs : List LibCall}

/-! ## Calls are runs of the machine -/

/-- An enumeration is a run: the snapshot's handle opened, when it is taken. -/
theorem enumerate_steps {ε : Type} (th : Toolhelp ε) (fn : String)
    (hsnap : ∀ s l, th.CreateToolhelp32Snapshot = .ok (s, l) → s ≠ 0 ∧ s ∉ w.table) :
    ∃ tr, Steps HStep w tr { w with table := (th.enumerate fn w.table).1 } := by
  rw [Toolhelp.enumerate_handles]
  cases hc : th.CreateToolhelp32Snapshot with
  | error e => exact ⟨[], .nil⟩
  | ok sl =>
    obtain ⟨h0, hs⟩ := hsnap sl.1 sl.2 hc
    exact ⟨[.opened sl.1], .cons (.opened h0 hs) .nil⟩

/-- Every call of the library is a run of `HStep`. -/
theorem LibStep.refines (hi : w.Inv) (hs : LibStep w c w') : ∃ tr, Steps HStep w tr w' := by
  cases hs with
  | make hnew habs => exact ⟨_, .cons (.make hnew habs) .nil⟩
  | handle ho hfresh => exact handle_steps _ _ ho hfresh
  | del ho =>
    obtain ⟨e, h⟩ := del_steps _ _ ho
    exact ⟨[e], h⟩
  | enumerateThreads hsnap => exact enumerate_steps _ _ hsnap
  | enumerateProcesses hsnap => exact enumerate_steps _ _ hsnap
  | createThread hnew hcreated hsnap => exact create_thread_steps _ _ hi hnew hcreated hsnap
  | remoteCreateThread ho _ hnew hopened hcreated hsnap =>
    exact remote_create_thread_steps _ _ _ _ hi ho hnew hopened hcreated hsnap
  | token ho _ hnew hopened htoken => exact token_steps _ _ _ ho hnew hopened htoken hi

/-- A run of calls from a state meeting the invariant is a run of `HStep`. -/
theorem lib_steps_refine (hi : w.Inv) (hrun : Steps LibStep w cs w') :
    ∃ tr, Steps HStep w tr w' := by
  induction hrun with
  | nil => exact ⟨[], .nil⟩
  | cons hs _ ih =>
    obtain ⟨tr₁, h₁⟩ := hs.refines hi
    obtain ⟨tr₂, h₂⟩ := ih (steps_inv hi h₁)
    exact ⟨tr₁ ++ tr₂, steps_concat h₁ h₂⟩

/-- Every run of the library's calls from no objects and no open handles is a run of `HStep`,
    so it keeps the invariant: every handle an object holds is open and held by it alone, and
    a `DeadThread` or `Token` holds its own, so `handle` on it returns that handle, changes
    nothing, and never calls the abstract `_get_handle`. -/
theorem lib_reachable_inv (hrun : Steps LibStep Handles.empty cs w) :
    (∃ tr, Steps HStep Handles.empty tr w) ∧ w.Inv ∧
      ∀ i o, w.objs i = some o → o.cls._get_handle = .abstract →
        ∃ v, o._handle = some v ∧ ∀ opened reads, w.handle opened reads i o = (w, .ok v) := by
  obtain ⟨tr, htr⟩ := lib_steps_refine Handles.inv_empty hrun
  have hinv := steps_inv Handles.inv_empty htr
  refine ⟨⟨tr, htr⟩, hinv, fun i o ho habs => ?_⟩
  cases hv : o._handle with
  | none => exact absurd habs ((hinv.wf i o ho).built_holding hv)
  | some v => exact ⟨v, rfl, fun opened reads => Handles.handle_cached opened reads ho hv⟩

/-- `CurrentProcess()`, its `token` on the handle `4` that `OpenProcessToken` opens, then a
    `WinProcess` that `OpenProcess` answers with handle `8`, and the token collected. -/
theorem lib_reachable_inv_token :
    ∃ w, Steps LibStep Handles.empty [.make 0 .CurrentProcess,
        .token 0 1 (.error (.kernel32Error "OpenProcess")) (.ok ()) (.ok 4),
        .make 2 .WinProcess, .handle 2 (.ok 8) (.ok ()), .del 1 (.ok ()) (.ok ())] w ∧
      (∃ tr, Steps HStep Handles.empty tr w) ∧ w.Inv ∧
        ∀ i o, w.objs i = some o → o.cls._get_handle = .abstract →
          ∃ v, o._handle = some v ∧ ∀ opened reads, w.handle opened reads i o = (w, .ok v) := by
  have hrun : ∃ w, Steps LibStep Handles.empty [.make 0 .CurrentProcess,
      .token 0 1 (.error (.kernel32Error "OpenProcess")) (.ok ()) (.ok 4),
      .make 2 .WinProcess, .handle 2 (.ok 8) (.ok ()), .del 1 (.ok ()) (.ok ())] w :=
    ⟨_, .cons (.make rfl (by decide)) <|
      .cons (.token rfl (.inr rfl) rfl nofun fun h hh => by cases hh; simp [Handles.empty]) <|
      .cons (.make rfl (by decide)) <|
      .cons (.handle rfl fun h hh => by cases hh; decide) <| .cons (.del rfl) .nil⟩
  obtain ⟨w, h⟩ := hrun
  exact ⟨w, h, lib_reachable_inv h⟩

/-! ## The frame of a run -/

/-- `handle` on any object leaves an object whose `_handle` is set as it is. -/
theorem handle_keeps {p i : Nat} {o o' : HObj} {v : HandleValue} (opened : Except PyExc Nat)
    (reads : Except PyExc Unit) (ho : w.objs i = some o) (hv : o._handle = some v)
    (hp : w.objs p = some o') : (w.handle opened reads p o').1.objs i = some o := by
  by_cases hpi : i = p
  · subst hpi
    rw [ho] at hp
    cases hp
    rw [Handles.handle_cached opened reads ho hv]
    exact ho
  · rw [handle_objs_ne opened reads hpi, ho]

/-- Creating a thread changes no object but the one it numbers `i`. -/
theorem threadOfCreated_objs_ne (created : Except PyExc Nat) (th : FromHandleThunks ThreadEntry)
    {i k : Nat} (hk : k ≠ i) : (threadOfCreated created th i w).1.objs k = w.objs k := by
  unfold threadOfCreated WinThread._from_handle
  split
  · rfl
  · split
    · rfl
    · dsimp only
      split
      · rfl
      · split <;> simp [Function.update_noteq hk]

theorem remote_create_thread_objs_ne {p i k : Nat} {o : HObj} (opened : Except PyExc Nat)
    (reads : Except PyExc Unit) (created : Except PyExc Nat) (th : FromHandleThunks ThreadEntry)
    (hk : k ≠ i) : (WinProcess.create_thread opened reads created th p o i w).1.objs k =
      (w.handle opened reads p o).1.objs k := by
  unfold WinProcess.create_thread
  dsimp only
  split
  · rfl
  · exact threadOfCreated_objs_ne created th hk

theorem token_objs_ne {p i k : Nat} {o : HObj} (opened : Except PyExc Nat)
    (reads : Except PyExc Unit) (tokenOpened : Except PyExc Nat) (hk : k ≠ i) :
    (Process.token opened reads tokenOpened p o i w).1.objs k =
      (w.handle opened reads p o).1.objs k := by
  unfold Process.token
  dsimp only
  split <;> simp [Function.update_noteq hk]

/-- A call that does not collect object `i` leaves it as it is once its `_handle` is set. -/
theorem LibStep.keeps {i : Nat} {o : HObj} {v : HandleValue} (hs : LibStep w c w')
    (ho : w.objs i = some o) (hv : o._handle = some v) (hc : c.collects ≠ some i) :
    w'.objs i = some o := by
  have hnew : ∀ {j}, w.objs j = none → i ≠ j := fun hj hij => by simp [hij ▸ ho] at hj
  cases hs with
  | make hj _ => simp [Function.update_noteq (hnew hj), ho]
  | handle hp _ => exact handle_keeps _ _ ho hv hp
  | @del j _ _ _ _ =>
    have hij : i ≠ j := fun hij => hc (by simp [LibCall.collects, hij])
    simp [Handles.del, Function.update_noteq hij, ho]
  | enumerateThreads _ => exact ho
  | enumerateProcesses _ => exact ho
  | createThread hj _ _ =>
    rw [CurrentProcess.create_thread, threadOfCreated_objs_ne _ _ (hnew hj), ho]
  | remoteCreateThread hp _ hj _ _ _ =>
    rw [remote_create_thread_objs_ne _ _ _ _ (hnew hj)]
    exact handle_keeps _ _ ho hv hp
  | token hp _ hj _ _ =>
    rw [token_objs_ne _ _ _ (hnew hj)]
    exact handle_keeps _ _ ho hv hp

/-- Along a run of calls none of which collects object `i`, an object whose `_handle` is set
    stays as it is, so `handle` on it returns that value, changes nothing and calls no
    `_get_handle`. -/
theorem lib_keeps_handle {i : Nat} {o : HObj} {v : HandleValue} (hrun : Steps LibStep w cs w')
    (ho : w.objs i = some o) (hv : o._handle = some v)
    (hlive : ∀ c ∈ cs, c.collects ≠ some i) :
    w'.objs i = some o ∧ ∀ opened reads, w'.handle opened reads i o = (w', .ok v) := by
  induction hrun with
  | nil => exact ⟨ho, fun opened reads => Handles.handle_cached opened reads ho hv⟩
  | cons hs _ ih =>
    exact ih (hs.keeps ho hv (hlive _ (List.mem_cons_self _ _)))
      fun c hc => hlive c (List.mem_cons_of_mem _ hc)

/-- A `WinThread` holding handle `4`, the only handle open. -/
def threadHolding : Handles :=
  { Handles.empty with table := insert 4 ∅ }.set 0 (some ⟨.WinThread, some (.real 4)⟩)

/-- The thread holding `4` while a `CurrentThread` is made and takes its pseudo-handle, the
    thread's own `handle` is asked for with `OpenThread` ready to give `8`, and a process
    enumeration leaves its snapshot open. -/
theorem lib_keeps_handle_thread :
    ∃ w', Steps LibStep threadHolding [.make 1 .CurrentThread, .handle 1 (.ok 8) (.ok ()),
        .handle 0 (.ok 8) (.ok ()), .enumerateProcesses ⟨.ok (12, []), fun _ => none⟩] w' ∧
      w'.objs 0 = some ⟨.WinThread, some (.real 4)⟩ ∧
      ∀ opened reads, w'.handle opened reads 0 ⟨.WinThread, some (.real 4)⟩ =
        (w', .ok (.real 4)) := by
  have hrun : ∃ w', Steps LibStep threadHolding [.make 1 .CurrentThread,
      .handle 1 (.ok 8) (.ok ()), .handle 0 (.ok 8) (.ok ()),
      .enumerateProcesses ⟨.ok (12, []), fun _ => none⟩] w' :=
    ⟨_, .cons (.make rfl (by decide)) <| .cons (.handle rfl fun h hh => by cases hh; decide) <|
      .cons (.handle rfl fun h hh => by cases hh; decide) <|
      .cons (.enumerateProcesses fun s l hs => by cases hs; decide) .nil⟩
  obtain ⟨w', h⟩ := hrun
  exact ⟨w', h, lib_keeps_handle (i := 0) h rfl rfl (by simp [LibCall.collects])⟩

end PythonForWindows
