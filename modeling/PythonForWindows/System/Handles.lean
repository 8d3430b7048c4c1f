import PythonForWindows.System.Toolhelp
import PythonForWindows.Utils.FixedProperty

/-
  Handle ownership. An `AutoHandle` object keeps its handle in `_handle`. The property
  `handle` sets it on first use from the class's `_get_handle` (`OpenThread`, `OpenProcess`,
  or the pseudo-handles of `GetCurrentThread()` and `GetCurrentProcess()`); `DeadThread` and
  `Token` are built holding one, and `_from_handle` gives one to the object it returns.
  `__del__` calls `dbgprint` on a message that formats the object and then calls
  `CloseHandle`, except in the two current-object classes, whose `__del__` is `pass`.
  `HStep` is what these do to the library's objects and the kernel's table of open handles,
  and `Handles.Inv` what every run keeps (`steps_inv`, `reachable_inv`): every handle an
  object holds is open, no two objects hold the same one, the current-object classes hold no
  real handle, and a `DeadThread` or `Token` never lacks its own. Hence `CloseHandle` is only
  called on an open handle held by its caller alone (`close_safe`), and two closes of one
  handle have an open of it between them (`close_between_opens`).
  The code's functions are runs of `HStep`: `AutoHandle.handle` and `__del__` on one object,
  `WinThread._from_handle`, both `create_thread`s and `Process.token`, so each keeps the
  invariant. `_from_handle` gives its handle to exactly one object when `GetThreadId` and
  the thread enumeration succeed, and otherwise leaves it open and held by no object
  (`from_handle_holds`, `create_thread_holds`); `WinProcess._from_handle`, which has no
  `except IndexError`, leaves it so also when the pid is not among the processes
  (`process_from_handle_holds`). `__del__` whose `dbgprint` line raises, because `__repr__`
  of a thread or process object raises or because teardown has set `dbgprint` to `None`,
  leaves its handle open with no holder (`del_closes_iff`).
  Left out: the process snapshot that `WinThread.__repr__` takes for the owner (its reads
  are one answer here), and Python's object ids: objects are numbered.
-/

namespace PythonForWindows

/-- The `AutoHandle` classes the library makes objects of. -/
inductive HandleClass
  | WinThread
  | DeadThread
  | CurrentThread
  | WinProcess
  | CurrentProcess
  | Token
  deriving DecidableEq, Repr

/-- A value of `_handle`: a handle the kernel opened, or the pseudo-handle that
    `GetCurrentThread()` or `GetCurrentProcess()` returns, which is never opened. -/
inductive HandleValue
  | real (h : Nat)
  | currentThread
  | currentProcess
  deriving DecidableEq, Repr

/-- What a class's `_get_handle()` does: open a handle with the named thunk, return a
    pseudo-handle, or raise as `AutoHandle._get_handle` does where it is not overridden. -/
inductive GetHandle
  | opens (fn : String)
  | pseudo (v : HandleValue)
  | abstract
  deriving DecidableEq, Repr

namespace HandleClass

/-- `type(self).__name__`. -/
def name : HandleClass → String
  | WinThread => "WinThread"
  | DeadThread => "DeadThread"
  | CurrentThread => "CurrentThread"
  | WinProcess => "WinProcess"
  | CurrentProcess => "CurrentProcess"
  | Token => "Token"

def _get_handle : HandleClass → GetHandle
  | WinThread => .opens "OpenThread"
  | WinProcess => .opens "OpenProcess"
  | CurrentThread => .pseudo .currentThread
  | CurrentProcess => .pseudo .currentProcess
  | DeadThread | Token => .abstract

/-- Whether the class's `__del__` is `AutoHandle.__del__`: the current-object classes
    override it with `pass`. -/
def closesOnDel : HandleClass → Bool
  | CurrentThread | CurrentProcess => false
  | _ => true

/-- Whether the class's `__repr__` reads properties, which may raise: `WinThread.__repr__`
    reads the owner and its name, `WinProcess.__repr__` the name. The others use
    `object.__repr__`. -/
def reprReads : HandleClass → Bool
  | WinThread | WinProcess => true
  | _ => false

/-- `repr(self)`, given what its reads answer. -/
def __repr__ (c : HandleClass) (reads : Except PyExc Unit) : Except PyExc Unit :=
  if c.reprReads then reads else .ok ()

theorem closesOnDel_of_opens {c : HandleClass} {fn : String} (h : c._get_handle = .opens fn) :
    c.closesOnDel := by
  cases c <;> simp_all [_get_handle, closesOnDel]

theorem pseudo_not_real {c : HandleClass} {v : HandleValue} (h : c._get_handle = .pseudo v)
    (k : Nat) : v ≠ .real k := by
  cases c <;> simp only [_get_handle, GetHandle.pseudo.injEq, reduceCtorEq] at h <;> simp [← h]

end HandleClass

/-- An `AutoHandle` object: its class and its `_handle`, `none` until it is set. -/
structure HObj where
  cls : HandleClass
  _handle : Option HandleValue
  deriving DecidableEq, Repr

/-- The kernel handle an object holds, if any. -/
def HObj.held (o : HObj) : Option Nat :=
  match o._handle with
  | some (.real h) => some h
  | _ => none

theorem HObj.held_eq_some {o : HObj} {h : Nat} : o.held = some h ↔ o._handle = some (.real h) := by
  obtain ⟨c, _ | (_ | _ | _)⟩ := o <;> simp [HObj.held]

/-- What every object keeps: a real handle only in a class whose `__del__` closes it, and a
    `_handle` from construction in the classes whose `_get_handle` is abstract. -/
structure HObj.WF (o : HObj) : Prop where
  held_closes : o.held.isSome → o.cls.closesOnDel
  built_holding : o._handle = none → o.cls._get_handle ≠ .abstract

/-- The library's live objects, by number (`none`: no live object has it), and the kernel's
    table of open handles. -/
structure Handles where
  objs : Nat → Option HObj
  table : Finset Nat

namespace Handles

/-- Object `i` replaced; `none` once it is collected. -/
def set (w : Handles) (i : Nat) (o : Option HObj) : Handles :=
  { w with objs := Function.update w.objs i o }

/-- Object `i` holds the kernel handle `h`. -/
def Holds (w : Handles) (i h : Nat) : Prop := (w.objs i).bind HObj.held = some h

/-- No object and no open handle. -/
def empty : Handles := ⟨fun _ => none, ∅⟩

@[simp] theorem set_objs (w : Handles) (i : Nat) (o : Option HObj) :
    (w.set i o).objs = Function.update w.objs i o := rfl

@[simp] theorem set_table (w : Handles) (i : Nat) (o : Option HObj) :
    (w.set i o).table = w.table := rfl

@[simp] theorem holds_table {w : Handles} {t : Finset Nat} {j h : Nat} :
    ({ w with table := t } : Handles).Holds j h ↔ w.Holds j h := Iff.rfl

theorem holds_set {w : Handles} {i j h : Nat} {o : Option HObj} :
    (w.set i o).Holds j h ↔ if j = i then o.bind HObj.held = some h else w.Holds j h := by
  simp only [Holds, set_objs, Function.update_apply]
  split <;> rfl

theorem holds_of_objs {w : Handles} {i h : Nat} {o : HObj} (ho : w.objs i = some o)
    (hh : o.held = some h) : w.Holds i h := by
  simp [Holds, ho, hh]

end Handles

/-! ## The code, object by object -/

/-- `AutoHandle.handle` on `self`, over the table of open handles: the stored `_handle`, or
    `_get_handle()` stored in `_handle`, after which `dbgprint` formats `self`. `opened` is
    what `OpenThread` or `OpenProcess` answers: the handle the kernel opens, or the
    exception. `NotImplementedError` is a `RuntimeError`. -/
def AutoHandle.handle (opened : Except PyExc Nat) (reads : Except PyExc Unit) (self : HObj)
    (table : Finset Nat) : (HObj × Finset Nat) × Except PyExc HandleValue :=
  match self._handle with
  | some v => ((self, table), .ok v)
  | none =>
    match self.cls._get_handle with
    | .abstract => ((self, table), .error (.runtimeError (self.cls.name ++ " is abstract")))
    | .pseudo v => (({ self with _handle := some v }, table),
        (self.cls.__repr__ reads).map fun _ => v)
    | .opens _ =>
      match opened with
      | .error e => ((self, table), .error e)
      | .ok h => (({ self with _handle := some (.real h) }, insert h table),
          (self.cls.__repr__ reads).map fun _ => .real h)

/-- The `dbgprint("Closing Handle ...".format(hex(self._handle), self), "HANDLE")` line of
    `__del__`: `repr` of `self` in the message, then the call itself, which does `printed`.
    Once interpreter teardown has set the module global `dbgprint` to `None`, the call raises
    `TypeError` (`teardownCall`), after the message is formatted. -/
def AutoHandle.closingPrint (reads printed : Except PyExc Unit) (self : HObj) :
    Except PyExc Unit :=
  self.cls.__repr__ reads >>= fun _ => printed

/-- What calling `dbgprint` does once teardown has set it to `None`. -/
def teardownCall : Except PyExc Unit := .error (.typeError "'NoneType' object is not callable")

/-- `AutoHandle.__del__` on `self` (`pass` in the current-object classes): when `_handle` is
    set and non-zero, the `dbgprint` line and then `CloseHandle(self._handle)`. An exception
    in `__del__` is printed and dropped, so one from the `dbgprint` line skips the close. The
    table after it; closing a pseudo-handle changes nothing. -/
def AutoHandle.__del__ (reads printed : Except PyExc Unit) (self : HObj) (table : Finset Nat) :
    Finset Nat :=
  match self.cls.closesOnDel, self._handle, AutoHandle.closingPrint reads printed self with
  | true, some (.real h), .ok _ => if h = 0 then table else table.erase h
  | _, _, _ => table

namespace Handles

/-- `o.handle` where `o` is object `i`. -/
def handle (opened : Except PyExc Nat) (reads : Except PyExc Unit) (i : Nat) (o : HObj)
    (w : Handles) : Handles × Except PyExc HandleValue :=
  let r := AutoHandle.handle opened reads o w.table
  ({ w.set i (some r.1.1) with table := r.1.2 }, r.2)

/-- Object `i`, which is `o`, collected. -/
def del (reads printed : Except PyExc Unit) (i : Nat) (o : HObj) (w : Handles) : Handles :=
  { w.set i none with table := AutoHandle.__del__ reads printed o w.table }

end Handles

/-! ## `_from_handle` -/

/-- A `THREADENTRY32` as the thread enumeration copies it: `WinThread.tid` reads its
    `th32ThreadID`. -/
structure ThreadEntry where
  th32ThreadID : Nat

/-- A `PROCESSENTRY32`: `WinProcess.pid` reads its `th32ProcessID`. -/
structure ProcessEntry where
  th32ProcessID : Nat

/-- What the calls of `_from_handle(handle)` answer: `GetThreadId(handle)` (or
    `GetProcessId`), the enumeration it makes, and the reads of `repr` of the object it finds,
    which `dbgprint` formats. -/
structure FromHandleThunks (ε : Type) where
  GetId : Except PyExc Nat
  snapshot : Toolhelp ε
  reads : Except PyExc Unit

/-- `WinThread._from_handle(handle)`, the object it returns numbered `i`: the thread of
    `System().threads` with the handle's tid, whose `_handle` it sets, or on the `IndexError`
    of no such thread a new `DeadThread(handle, tid)`. When `dbgprint` of the thread raises,
    the exception leaves `_from_handle`, and the thread, kept by the traceback, holds the
    handle until it is collected. -/
def WinThread._from_handle (th : FromHandleThunks ThreadEntry) (i handle : Nat) (w : Handles) :
    Handles × Except PyExc Nat :=
  match th.GetId with
  | .error e => (w, .error e)
  | .ok tid =>
    let r := System.enumerate_threads th.snapshot w.table
    let w₁ : Handles := { w with table := r.1 }
    match r.2 with
    | .error e => (w₁, .error e)
    | .ok ts =>
      if ts.any (·.th32ThreadID == tid) then
        (w₁.set i (some ⟨.WinThread, some (.real handle)⟩),
          (HandleClass.WinThread.__repr__ th.reads).map fun _ => i)
      else (w₁.set i (some ⟨.DeadThread, some (.real handle)⟩), .ok i)

/-- What `WinProcess._from_handle` lets out: an exception of `PyExc`, or the `IndexError` of
    `[...][0]` on an empty list, which it does not catch. -/
inductive FromHandleError
  | raised (e : PyExc)
  | indexError
  deriving DecidableEq, Repr

/-- `WinProcess._from_handle(handle)`: the process of `windows.system.processes` with the
    handle's pid, whose `_handle` it sets. -/
def WinProcess._from_handle (th : FromHandleThunks ProcessEntry) (i handle : Nat)
    (w : Handles) : Handles × Except FromHandleError Nat :=
  match th.GetId with
  | .error e => (w, .error (.raised e))
  | .ok pid =>
    let r := System.enumerate_processes th.snapshot w.table
    let w₁ : Handles := { w with table := r.1 }
    match r.2 with
    | .error e => (w₁, .error (.raised e))
    | .ok ps =>
      if ps.any (·.th32ProcessID == pid) then
        (w₁.set i (some ⟨.WinProcess, some (.real handle)⟩),
          ((HandleClass.WinProcess.__repr__ th.reads).map fun _ => i).mapError .raised)
      else (w₁, .error .indexError)

/-- A thunk that creates a thread (`created`: the handle the kernel opens for it, or the
    exception), then `WinThread._from_handle` of that handle: what both `create_thread`s end
    with. -/
def threadOfCreated (created : Except PyExc Nat) (th : FromHandleThunks ThreadEntry) (i : Nat)
    (w : Handles) : Handles × Except PyExc Nat :=
  match created with
  | .error e => (w, .error e)
  | .ok h => WinThread._from_handle th i h { w with table := insert h w.table }

/-- `CurrentProcess.create_thread`: `CreateThread`, then `_from_handle`. -/
def CurrentProcess.create_thread (created : Except PyExc Nat) (th : FromHandleThunks ThreadEntry)
    (i : Nat) (w : Handles) : Handles × Except PyExc Nat :=
  threadOfCreated created th i w

/-- `WinProcess.create_thread` on object `p`, which is `o`: `self.handle`, then
    `CreateRemoteThread` (`NtCreateThreadEx_32_to_64` from a 32-bit controller into a 64-bit
    target), then `_from_handle`. -/
def WinProcess.create_thread (opened : Except PyExc Nat) (reads : Except PyExc Unit)
    (created : Except PyExc Nat) (th : FromHandleThunks ThreadEntry) (p : Nat) (o : HObj)
    (i : Nat) (w : Handles) : Handles × Except PyExc Nat :=
  let r := w.handle opened reads p o
  match r.2 with
  | .error e => (r.1, .error e)
  | .ok _ => threadOfCreated created th i r.1

/-- The body of `Process.token` on object `p`, which is `o`:
    `OpenProcessToken(self.handle, TOKEN_ALL_ACCESS, byref(token_handle))` (`tokenOpened`: the
    handle the kernel opens, or the exception), then `Token(token_handle.value)`, numbered
    `i`. -/
def Process.token (opened : Except PyExc Nat) (reads : Except PyExc Unit)
    (tokenOpened : Except PyExc Nat) (p : Nat) (o : HObj) (i : Nat) (w : Handles) :
    Handles × Except PyExc Nat :=
  let r := w.handle opened reads p o
  match r.2, tokenOpened with
  | .error e, _ => (r.1, .error e)
  | .ok _, .error e => (r.1, .error e)
  | .ok _, .ok h => ({ r.1 with table := insert h r.1.table }.set i (some ⟨.Token, some (.real h)⟩),
      .ok i)

/-! ## The machine -/

/-- What the library does to its objects and the kernel's handles. -/
inductive HEvent
  /-- A new object without `_handle`: a copied snapshot entry, `CurrentThread()`,
      `CurrentProcess()`. -/
  | make (i : Nat) (c : HandleClass)
  /-- A new object holding `h`: `DeadThread(handle, tid)`, `Token(handle)`, or the thread or
      process `_from_handle` sets `_handle` of. -/
  | give (i : Nat) (c : HandleClass) (h : Nat)
  /-- A thunk hands the code a new handle: `CreateThread`, `CreateRemoteThread`,
      `OpenProcessToken`, `CreateToolhelp32Snapshot`. -/
  | opened (h : Nat)
  /-- `handle` opens `h` for object `i`: `OpenThread`, `OpenProcess`. -/
  | openFor (i h : Nat)
  /-- `handle` stores a pseudo-handle. -/
  | setPseudo (i : Nat) (v : HandleValue)
  /-- `handle` returns the stored `_handle`. -/
  | get (i : Nat) (v : HandleValue)
  /-- Object `i` is collected and closes nothing. -/
  | drop (i : Nat)
  /-- Object `i` is collected and calls `CloseHandle(h)`. -/
  | close (i h : Nat)
  deriving DecidableEq, Repr

namespace HEvent

/-- The handle an event opens. -/
def opens : HEvent → Option Nat
  | opened h | openFor _ h => some h
  | _ => none

/-- The object an event is on. -/
def subject : HEvent → Option Nat
  | make i _ | give i _ _ | openFor i _ | setPseudo i _ | get i _ | drop i | close i _ => some i
  | opened _ => none

end HEvent

/-- One event. The kernel never hands out a handle that is open, nor `0`, which winproxy turns
    into an exception. -/
inductive HStep : Handles → HEvent → Handles → Prop
  | make {w i c} : w.objs i = none → c._get_handle ≠ .abstract →
      HStep w (.make i c) (w.set i (some ⟨c, none⟩))
  | give {w i c h} : w.objs i = none → c.closesOnDel → h ∈ w.table → (∀ j, ¬ w.Holds j h) →
      HStep w (.give i c h) (w.set i (some ⟨c, some (.real h)⟩))
  | opened {w h} : h ≠ 0 → h ∉ w.table → HStep w (.opened h) { w with table := insert h w.table }
  | openFor {w i c fn h} : w.objs i = some ⟨c, none⟩ → c._get_handle = .opens fn → h ≠ 0 →
      h ∉ w.table →
      HStep w (.openFor i h) { w.set i (some ⟨c, some (.real h)⟩) with table := insert h w.table }
  | setPseudo {w i c v} : w.objs i = some ⟨c, none⟩ → c._get_handle = .pseudo v →
      HStep w (.setPseudo i v) (w.set i (some ⟨c, some v⟩))
  | get {w i o v} : w.objs i = some o → o._handle = some v → HStep w (.get i v) w
  | drop {w i o} : w.objs i = some o → HStep w (.drop i) (w.set i none)
  | close {w i o h} : w.objs i = some o → o.cls.closesOnDel → o._handle = some (.real h) → h ≠ 0 →
      HStep w (.close i h) { w.set i none with table := w.table.erase h }

/-! ## The invariant -/

namespace Handles

/-- Every object is well formed, every handle an object holds is open, no two objects hold
    the same handle, and `0` is never open. -/
structure Inv (w : Handles) : Prop where
  wf : ∀ i o, w.objs i = some o → o.WF
  held_open : ∀ i h, w.Holds i h → h ∈ w.table
  held_once : ∀ i j h, w.Holds i h → w.Holds j h → i = j
  zero_closed : 0 ∉ w.table

theorem inv_empty : empty.Inv :=
  ⟨nofun, fun _ _ h => by simp [Holds, empty] at h, fun _ _ _ h => by simp [Holds, empty] at h,
    by simp [empty]⟩

variable {w : Handles}

theorem Inv.unheld (hi : w.Inv) {h : Nat} (hh : h ∉ w.table) (j : Nat) : ¬ w.Holds j h :=
  fun hj => hh (hi.held_open j h hj)

/-- A held handle has one holder. -/
theorem Inv.holds_iff (hi : w.Inv) {i h : Nat} (hown : w.Holds i h) (j : Nat) :
    w.Holds j h ↔ j = i :=
  ⟨fun hj => hi.held_once j i h hj hown, fun hj => hj ▸ hown⟩

/-- Once the object holding `h` is gone, no object holds `h`. -/
theorem Inv.unheld_set_none (hi : w.Inv) {i h : Nat} (hown : w.Holds i h) (j : Nat) :
    ¬ (w.set i none).Holds j h := by
  rw [holds_set]
  split
  · simp
  · next hji => exact fun hj => hji ((hi.holds_iff hown j).1 hj)

/-- Replacing object `i` by a well-formed object, or by none, keeps the invariant when the
    handle it holds, if any, is open and held by no other object. -/
theorem Inv.set (hi : w.Inv) {i : Nat} {o : Option HObj} (hwf : ∀ x ∈ o, x.WF)
    (hheld : ∀ h, o.bind HObj.held = some h → h ∈ w.table ∧ ∀ j ≠ i, ¬ w.Holds j h) :
    (w.set i o).Inv where
  wf j x hx := by
    by_cases hj : j = i
    · subst hj; exact hwf x (by simpa using hx)
    · exact hi.wf j x (by simpa [Function.update_noteq hj] using hx)
  held_open j h hj := by
    rw [holds_set] at hj
    split at hj
    · exact (hheld h hj).1
    · exact hi.held_open j h hj
  held_once j k h hj hk := by
    rw [holds_set] at hj hk
    split at hj <;> split at hk
    · simp_all
    · next hji hki => exact absurd hk ((hheld h hj).2 k hki)
    · next hji hki => exact absurd hj ((hheld h hk).2 j hji)
    · exact hi.held_once j k h hj hk
  zero_closed := hi.zero_closed

/-- A new open handle other than `0` keeps the invariant. -/
theorem Inv.insert (hi : w.Inv) {h : Nat} (h0 : h ≠ 0) : { w with table := insert h w.table }.Inv :=
  ⟨hi.wf, fun j k hj => Finset.mem_insert_of_mem (hi.held_open j k hj), hi.held_once,
    by simpa [Ne.symm h0] using hi.zero_closed⟩

/-- Closing a handle no object holds keeps the invariant. -/
theorem Inv.erase (hi : w.Inv) {h : Nat} (hh : ∀ j, ¬ w.Holds j h) :
    { w with table := w.table.erase h }.Inv :=
  ⟨hi.wf, fun j k hj => Finset.mem_erase.2 ⟨fun hk => hh j (hk ▸ hj), hi.held_open j k hj⟩,
    hi.held_once, fun h0 => hi.zero_closed (Finset.mem_of_mem_erase h0)⟩

end Handles

open Handles in
/-- Every event keeps the invariant. -/
theorem HStep.inv {w w' : Handles} {e : HEvent} (hi : w.Inv) (hs : HStep w e w') : w'.Inv := by
  cases hs with
  | make _ habs =>
    exact hi.set (by simpa using ⟨by simp [HObj.held], fun _ => habs⟩) (by simp [HObj.held])
  | give _ hc hh hfree =>
    exact hi.set (by simpa using ⟨fun _ => hc, nofun⟩)
      (by simpa [HObj.held] using ⟨hh, fun j _ => hfree j⟩)
  | opened h0 _ => exact hi.insert h0
  | openFor _ hopen h0 hh =>
    exact (hi.insert h0).set
      (by simpa using ⟨fun _ => HandleClass.closesOnDel_of_opens hopen, nofun⟩)
      (by simpa [HObj.held] using fun j _ => hi.unheld hh j)
  | @setPseudo _ c v _ hp =>
    have hnone : (some (⟨c, some v⟩ : HObj)).bind HObj.held = none := by
      cases v with
      | real k => exact absurd rfl (HandleClass.pseudo_not_real hp k)
      | _ => rfl
    exact hi.set (by simpa using ⟨by simp_all, nofun⟩) (by simp [hnone])
  | get => exact hi
  | drop => exact hi.set (by simp) (by simp)
  | close ho _ hh =>
    exact (hi.set (by simp) (by simp)).erase
      (hi.unheld_set_none (holds_of_objs ho (HObj.held_eq_some.2 hh)))

/-! ## Runs -/

section Runs

variable {w w' : Handles} {e : HEvent} {tr : List HEvent}

/-- Every run keeps the invariant. -/
theorem steps_inv (hi : w.Inv) (hrun : Steps HStep w tr w') : w'.Inv := by
  induction hrun with
  | nil => exact hi
  | cons hs _ ih => exact ih (hs.inv hi)

/-- From no object and no open handle, every run of the library keeps the invariant. -/
theorem reachable_inv (hrun : Steps HStep Handles.empty tr w) : w.Inv :=
  steps_inv Handles.inv_empty hrun

/-- `Token(h)` on the handle `OpenProcessToken` opened, `CurrentProcess()` with its
    pseudo-handle, and the token collected. -/
theorem reachable_inv_token : ∃ w, Steps HStep Handles.empty [.opened 4, .give 0 .Token 4,
    .make 1 .CurrentProcess, .setPseudo 1 .currentProcess, .close 0 4] w ∧ w.Inv := by
  have hrun : ∃ w, Steps HStep Handles.empty [.opened 4, .give 0 .Token 4,
      .make 1 .CurrentProcess, .setPseudo 1 .currentProcess, .close 0 4] w :=
    ⟨_, .cons (.opened (by decide) (by decide)) <|
      .cons (.give rfl rfl (by decide) (by simp [Handles.Holds, Handles.empty])) <|
      .cons (.make rfl (by decide)) <| .cons (.setPseudo rfl rfl) <|
      .cons (.close rfl rfl rfl (by decide)) .nil⟩
  obtain ⟨w, h⟩ := hrun
  exact ⟨w, h, reachable_inv h⟩

/-- `CloseHandle` is only called on an open handle that the collected object alone holds;
    after it the handle is closed and no object holds it. -/
theorem close_safe {i h : Nat} (hi : w.Inv) (hs : HStep w (.close i h) w') :
    h ∈ w.table ∧ (∀ j, w.Holds j h → j = i) ∧ h ∉ w'.table ∧ ∀ j, ¬ w'.Holds j h := by
  cases hs with
  | close ho _ hh _ =>
    have hown := Handles.holds_of_objs ho (HObj.held_eq_some.2 hh)
    exact ⟨hi.held_open i h hown, fun j => (hi.holds_iff hown j).1, by simp,
      hi.unheld_set_none hown⟩

/-- An event that opens a handle not open before is one that says so. -/
theorem HStep.opens_of_gain {h : Nat} (hs : HStep w e w') (hh : h ∉ w.table)
    (hw' : h ∈ w'.table) : e.opens = some h := by
  cases hs <;> simp_all [HEvent.opens, Finset.mem_insert]

/-- Over a run, a handle that becomes open is opened by one of its events. -/
theorem steps_opens_of_gain {h : Nat} (hrun : Steps HStep w tr w') (hh : h ∉ w.table)
    (hw' : h ∈ w'.table) : ∃ e ∈ tr, e.opens = some h := by
  induction hrun with
  | nil => exact absurd hw' hh
  | @cons s e s' _ _ hs _ ih =>
    by_cases hs' : h ∈ s'.table
    · exact ⟨e, List.mem_cons_self _ _, hs.opens_of_gain hh hs'⟩
    · obtain ⟨e', he', hop⟩ := ih hs' hw'
      exact ⟨e', List.mem_cons_of_mem _ he', hop⟩

/-- Two calls of `CloseHandle` on one handle have an event that opens it between them: the
    library never closes a handle twice. -/
theorem close_between_opens {tr₁ tr₂ tr₃ : List HEvent} {i j h : Nat} (hi : w.Inv)
    (hrun : Steps HStep w (tr₁ ++ .close i h :: tr₂ ++ .close j h :: tr₃) w') :
    ∃ e ∈ tr₂, e.opens = some h := by
  obtain ⟨s₃, hpre, hpost⟩ := steps_append hrun
  obtain ⟨s₁, h₁, hmid⟩ := steps_append hpre
  cases hmid with
  | @cons _ _ s₂ _ _ hc₁ h₂ =>
    cases hpost with
    | cons hc₂ _ =>
      have hi₁ := steps_inv hi h₁
      exact steps_opens_of_gain h₂ (close_safe hi₁ hc₁).2.2.1
        (close_safe (steps_inv (hc₁.inv hi₁) h₂) hc₂).1

/-- Two threads in turn open, and close at collection, the handle value `4`, which the kernel
    hands out again once it is closed. -/
theorem close_between_opens_reused :
    (∃ w, Steps HStep Handles.empty ([.make 0 .WinThread, .openFor 0 4] ++ .close 0 4 ::
      [.make 1 .WinThread, .openFor 1 4] ++ .close 1 4 :: []) w) ∧
    ∃ e ∈ [HEvent.make 1 .WinThread, .openFor 1 4], e.opens = some 4 := by
  have hrun : ∃ w, Steps HStep Handles.empty ([.make 0 .WinThread, .openFor 0 4] ++ .close 0 4 ::
      [.make 1 .WinThread, .openFor 1 4] ++ .close 1 4 :: []) w :=
    ⟨_, .cons (.make rfl (by decide)) <| .cons (.openFor rfl rfl (by decide) (by decide)) <|
      .cons (.close rfl rfl rfl (by decide)) <| .cons (.make rfl (by decide)) <|
      .cons (.openFor rfl rfl (by decide) (by decide)) <|
      .cons (.close rfl rfl rfl (by decide)) .nil⟩
  obtain ⟨w, h⟩ := hrun
  exact ⟨⟨w, h⟩, close_between_opens Handles.inv_empty h⟩

end Runs

/-! ## The code is a run of the machine -/

theorem Handles.set_self {w : Handles} {i : Nat} {o : Option HObj} (h : w.objs i = o) :
    w.set i o = w := by
  simp [Handles.set, ← h]

section Refines

variable {w : Handles} {i : Nat} {o : HObj}

/-- `o.handle` on object `i` is a run of at most one event: `get` when `_handle` is set,
    `setPseudo` or `openFor` when `_get_handle` returns, none when it raises. -/
theorem handle_steps (opened : Except PyExc Nat) (reads : Except PyExc Unit)
    (ho : w.objs i = some o) (hfresh : ∀ h, opened = .ok h → h ≠ 0 ∧ h ∉ w.table) :
    ∃ tr, Steps HStep w tr (w.handle opened reads i o).1 := by
  obtain ⟨c, _ | v⟩ := o
  · cases hg : c._get_handle with
    | abstract =>
      refine ⟨[], ?_⟩
      simpa [Handles.handle, AutoHandle.handle, hg, Handles.set_self ho] using .nil
    | pseudo v =>
      refine ⟨[.setPseudo i v], ?_⟩
      simpa [Handles.handle, AutoHandle.handle, hg] using .cons (.setPseudo ho hg) .nil
    | opens fn =>
      cases opened with
      | error e =>
        refine ⟨[], ?_⟩
        simpa [Handles.handle, AutoHandle.handle, hg, Handles.set_self ho] using .nil
      | ok h =>
        obtain ⟨h0, hh⟩ := hfresh h rfl
        refine ⟨[.openFor i h], ?_⟩
        simpa [Handles.handle, AutoHandle.handle, hg] using .cons (.openFor ho hg h0 hh) .nil
  · refine ⟨[.get i v], ?_⟩
    simpa [Handles.handle, AutoHandle.handle, Handles.set_self ho] using .cons (.get ho rfl) .nil

/-- What `handle` returns stays in `_handle`. -/
theorem AutoHandle.handle_sets {opened : Except PyExc Nat} {reads : Except PyExc Unit}
    {t : Finset Nat} {v : HandleValue} (h : (AutoHandle.handle opened reads o t).2 = .ok v) :
    (AutoHandle.handle opened reads o t).1.1._handle = some v := by
  unfold AutoHandle.handle at h ⊢
  split at h
  · simp_all
  · split at h <;> (try split at h) <;> cases hr : o.cls.__repr__ reads <;>
      simp_all [Except.map]

/-- Once `_handle` is set, `handle` returns it and changes nothing. -/
theorem Handles.handle_cached {v : HandleValue} (opened : Except PyExc Nat)
    (reads : Except PyExc Unit) (ho : w.objs i = some o) (hv : o._handle = some v) :
    w.handle opened reads i o = (w, .ok v) := by
  simp [Handles.handle, AutoHandle.handle, hv, Handles.set_self ho]

/-- Collecting object `i` is one event: `close` when `__del__` calls `CloseHandle`, else
    `drop`. -/
theorem del_steps (reads printed : Except PyExc Unit) (ho : w.objs i = some o) :
    ∃ e, Steps HStep w [e] (w.del reads printed i o) := by
  obtain ⟨c, hd⟩ := o
  by_cases hclose : ∃ h, c.closesOnDel ∧ hd = some (.real h) ∧ h ≠ 0 ∧
      AutoHandle.closingPrint reads printed ⟨c, hd⟩ = .ok ()
  · obtain ⟨h, hc, rfl, h0, hr⟩ := hclose
    refine ⟨.close i h, ?_⟩
    simpa [Handles.del, AutoHandle.__del__, hc, hr, h0] using .cons (.close ho hc rfl h0) .nil
  · have hdel : AutoHandle.__del__ reads printed ⟨c, hd⟩ w.table = w.table := by
      unfold AutoHandle.__del__
      split
      · next h _ hc hh hr =>
        split_ifs with h0
        · rfl
        · exact absurd ⟨h, hc, hh, h0, hr⟩ hclose
      · rfl
    refine ⟨.drop i, ?_⟩
    simpa [Handles.del, hdel] using .cons (.drop ho) .nil

/-- An enumeration leaves open every handle that was open. -/
theorem Toolhelp.subset_enumerate {ε : Type} (th : Toolhelp ε) (fn : String) (t : Finset Nat) :
    t ⊆ (th.enumerate fn t).1 := by
  rw [Toolhelp.enumerate_handles]
  split
  · exact subset_rfl
  · exact Finset.subset_insert _ _

/-- The table after an enumeration whose snapshot is taken. -/
theorem Toolhelp.enumerate_table {ε : Type} {th : Toolhelp ε} {s : Nat} {l : List ε}
    (hc : th.CreateToolhelp32Snapshot = .ok (s, l)) (fn : String) (t : Finset Nat) :
    (th.enumerate fn t).1 = insert s t := by
  rw [Toolhelp.enumerate_handles, hc]

/-- `WinThread._from_handle` of an open handle that no object holds is a run: the snapshot's
    handle opened, then the handle given to the thread or `DeadThread` it returns. -/
theorem from_handle_steps (th : FromHandleThunks ThreadEntry) (handle : Nat)
    (hi : w.objs i = none) (hh : handle ∈ w.table) (hfree : ∀ j, ¬ w.Holds j handle)
    (hsnap : ∀ s l, th.snapshot.CreateToolhelp32Snapshot = .ok (s, l) → s ≠ 0 ∧ s ∉ w.table) :
    ∃ tr, Steps HStep w tr (WinThread._from_handle th i handle w).1 := by
  unfold WinThread._from_handle
  cases th.GetId with
  | error e => exact ⟨[], .nil⟩
  | ok tid =>
    dsimp only
    cases hc : th.snapshot.CreateToolhelp32Snapshot with
    | error e =>
      have hr : System.enumerate_threads th.snapshot w.table = (w.table, .error e) := by
        simp [System.enumerate_threads, Toolhelp.enumerate, hc]
      exact ⟨[], by rw [hr]; exact .nil⟩
    | ok sl =>
      obtain ⟨s, l⟩ := sl
      obtain ⟨h0, hs⟩ := hsnap s l hc
      have hopen : HStep w (.opened s) { w with table := insert s w.table } := .opened h0 hs
      have hgive (c : HandleClass) (hc : c.closesOnDel) :=
        HStep.give (w := { w with table := insert s w.table }) hi hc
          (Finset.mem_insert_of_mem hh) hfree
      rw [System.enumerate_threads, Toolhelp.enumerate_table hc]
      split
      · exact ⟨[.opened s], .cons hopen .nil⟩
      · split
        · exact ⟨_, .cons hopen (.cons (hgive .WinThread rfl) .nil)⟩
        · exact ⟨_, .cons hopen (.cons (hgive .DeadThread rfl) .nil)⟩

/-- Creating a thread is a run: the thunk opens the thread's handle, then `_from_handle` runs
    on it. -/
theorem create_thread_steps (created : Except PyExc Nat) (th : FromHandleThunks ThreadEntry)
    (hinv : w.Inv) (hi : w.objs i = none) (hcreated : ∀ h, created = .ok h → h ≠ 0 ∧ h ∉ w.table)
    (hsnap : ∀ h s l, created = .ok h → th.snapshot.CreateToolhelp32Snapshot = .ok (s, l) →
      s ≠ 0 ∧ s ∉ insert h w.table) :
    ∃ tr, Steps HStep w tr (threadOfCreated created th i w).1 := by
  cases created with
  | error e => exact ⟨[], .nil⟩
  | ok h =>
    obtain ⟨h0, hh⟩ := hcreated h rfl
    obtain ⟨tr, hrun⟩ := from_handle_steps (w := { w with table := insert h w.table }) th h hi
      (Finset.mem_insert_self h w.table) (fun j => by simpa using hinv.unheld hh j)
      (hsnap h · · rfl)
    exact ⟨.opened h :: tr, .cons (.opened h0 hh) hrun⟩

/-- `handle` and `__del__` keep the invariant, whatever `repr` and `dbgprint` do, when the
    kernel opens a handle that is not open. -/
theorem handle_del_inv (opened : Except PyExc Nat) (reads printed : Except PyExc Unit)
    (hinv : w.Inv) (ho : w.objs i = some o)
    (hfresh : ∀ h, opened = .ok h → h ≠ 0 ∧ h ∉ w.table) :
    (w.handle opened reads i o).1.Inv ∧ (w.del reads printed i o).Inv := by
  obtain ⟨_, hrun⟩ := handle_steps opened reads ho hfresh
  obtain ⟨_, hdel⟩ := del_steps reads printed ho
  exact ⟨steps_inv hinv hrun, steps_inv hinv hdel⟩

/-- `handle` of a new `WinProcess`, which `OpenProcess` answers with handle `4`, and its
    collection. -/
theorem handle_del_inv_process :
    (Handles.empty.set 0 (some ⟨.WinProcess, none⟩)).Inv ∧
      ((Handles.empty.set 0 (some ⟨.WinProcess, none⟩)).handle (.ok 4) (.ok ()) 0
          ⟨.WinProcess, none⟩).1.Inv ∧
        ((Handles.empty.set 0 (some ⟨.WinProcess, none⟩)).del (.ok ()) (.ok ()) 0
          ⟨.WinProcess, none⟩).Inv := by
  have hinv := steps_inv Handles.inv_empty (.cons (.make (i := 0) (c := .WinProcess) rfl
    (by decide)) .nil)
  exact ⟨hinv, handle_del_inv (.ok 4) (.ok ()) (.ok ()) hinv rfl fun h hh => by
    cases hh; decide⟩

/-- Every call of `CurrentProcess.create_thread` keeps the invariant, when the kernel opens
    handles that are not open. -/
theorem create_thread_inv (created : Except PyExc Nat) (th : FromHandleThunks ThreadEntry)
    (hinv : w.Inv) (hi : w.objs i = none) (hcreated : ∀ h, created = .ok h → h ≠ 0 ∧ h ∉ w.table)
    (hsnap : ∀ h s l, created = .ok h → th.snapshot.CreateToolhelp32Snapshot = .ok (s, l) →
      s ≠ 0 ∧ s ∉ insert h w.table) :
    (CurrentProcess.create_thread created th i w).1.Inv :=
  let ⟨_, hrun⟩ := create_thread_steps created th hinv hi hcreated hsnap
  steps_inv hinv hrun

/-- `handle` opens at most the handle `OpenThread` or `OpenProcess` answers. -/
theorem mem_handle_table (opened : Except PyExc Nat) (reads : Except PyExc Unit) {h : Nat}
    (hh : h ∈ (w.handle opened reads i o).1.table) : h ∈ w.table ∨ opened = .ok h := by
  obtain ⟨c, _ | v⟩ := o
  · cases hg : c._get_handle with
    | opens fn =>
      cases opened with
      | error e => exact .inl (by simpa [Handles.handle, AutoHandle.handle, hg] using hh)
      | ok k =>
        simp only [Handles.handle, AutoHandle.handle, hg, Finset.mem_insert] at hh
        rcases hh with rfl | hh
        · exact .inr rfl
        · exact .inl hh
    | _ => exact .inl (by simpa [Handles.handle, AutoHandle.handle, hg] using hh)
  · exact .inl (by simpa [Handles.handle, AutoHandle.handle] using hh)

/-- `handle` opens no handle but the one `OpenThread` or `OpenProcess` answers. -/
theorem not_mem_handle_table (opened : Except PyExc Nat) (reads : Except PyExc Unit) {h : Nat}
    (hh : h ∉ w.table) (hne : opened ≠ .ok h) : h ∉ (w.handle opened reads i o).1.table :=
  fun hm => (mem_handle_table opened reads hm).elim hh hne

theorem handle_objs_ne (opened : Except PyExc Nat) (reads : Except PyExc Unit) {k : Nat}
    (hk : k ≠ i) : (w.handle opened reads i o).1.objs k = w.objs k := by
  simp [Handles.handle, Function.update_noteq hk]

/-- After a `handle` that opened at most `opened`, creating a thread is a run, when the kernel
    hands out handles that were not open before and differ from `opened`. -/
theorem create_thread_steps_after {w₁ : Handles} (created : Except PyExc Nat)
    (th : FromHandleThunks ThreadEntry) (opened : Except PyExc Nat) (hinv₁ : w₁.Inv)
    (hi₁ : w₁.objs i = none) (hmem : ∀ h ∈ w₁.table, h ∈ w.table ∨ opened = .ok h)
    (hcreated : ∀ h, created = .ok h → h ≠ 0 ∧ h ∉ w.table ∧ opened ≠ .ok h)
    (hsnap : ∀ h s l, created = .ok h → th.snapshot.CreateToolhelp32Snapshot = .ok (s, l) →
      s ≠ 0 ∧ s ∉ w.table ∧ s ≠ h ∧ opened ≠ .ok s) :
    ∃ tr, Steps HStep w₁ tr (threadOfCreated created th i w₁).1 :=
  create_thread_steps created th hinv₁ hi₁
    (fun h hc =>
      let ⟨h0, hh, hne⟩ := hcreated h hc
      ⟨h0, fun hm => (hmem h hm).elim hh hne⟩)
    (fun h s l hc hs =>
      let ⟨h0, hs₀, hsh, hso⟩ := hsnap h s l hc hs
      ⟨h0, fun hm => (Finset.mem_insert.1 hm).elim hsh fun hm => (hmem s hm).elim hs₀ hso⟩)

/-- `WinProcess.create_thread` is a run: `handle` on the process, then the thread's creation,
    when the kernel hands out handles that are not open, each once. -/
theorem remote_create_thread_steps {p : Nat} (opened : Except PyExc Nat) (reads : Except PyExc Unit)
    (created : Except PyExc Nat) (th : FromHandleThunks ThreadEntry) (hinv : w.Inv)
    (ho : w.objs p = some o) (hi : w.objs i = none)
    (hopened : ∀ h, opened = .ok h → h ≠ 0 ∧ h ∉ w.table)
    (hcreated : ∀ h, created = .ok h → h ≠ 0 ∧ h ∉ w.table ∧ opened ≠ .ok h)
    (hsnap : ∀ h s l, created = .ok h → th.snapshot.CreateToolhelp32Snapshot = .ok (s, l) →
      s ≠ 0 ∧ s ∉ w.table ∧ s ≠ h ∧ opened ≠ .ok s) :
    ∃ tr, Steps HStep w tr (WinProcess.create_thread opened reads created th p o i w).1 := by
  obtain ⟨tr₁, h₁⟩ := handle_steps opened reads ho hopened
  have hpi : i ≠ p := fun h => by simp_all
  unfold WinProcess.create_thread
  dsimp only
  split
  · exact ⟨tr₁, h₁⟩
  · obtain ⟨tr₂, h₂⟩ := create_thread_steps_after created th opened (steps_inv hinv h₁)
      (by rw [handle_objs_ne _ _ hpi, hi]) (fun _ hm => mem_handle_table opened reads hm)
      hcreated hsnap
    exact ⟨tr₁ ++ tr₂, steps_concat h₁ h₂⟩

/-- Once the process holds its handle, `create_thread` goes straight to the thread's
    creation. -/
theorem create_thread_cached {p : Nat} {v : HandleValue} (opened : Except PyExc Nat)
    (reads : Except PyExc Unit) (created : Except PyExc Nat) (th : FromHandleThunks ThreadEntry)
    (ho : w.objs p = some o) (hv : o._handle = some v) :
    WinProcess.create_thread opened reads created th p o i w = threadOfCreated created th i w := by
  simp [WinProcess.create_thread, Handles.handle_cached opened reads ho hv]

/-- The body of `Process.token` is a run: `handle` on the process, then the token's handle
    opened and given to the new `Token`. -/
theorem token_steps {p : Nat} (opened : Except PyExc Nat) (reads : Except PyExc Unit)
    (tokenOpened : Except PyExc Nat) (ho : w.objs p = some o) (hi : w.objs i = none)
    (hopened : ∀ h, opened = .ok h → h ≠ 0 ∧ h ∉ w.table)
    (htoken : ∀ h, tokenOpened = .ok h → h ≠ 0 ∧ h ∉ w.table ∧ opened ≠ .ok h) (hinv : w.Inv) :
    ∃ tr, Steps HStep w tr (Process.token opened reads tokenOpened p o i w).1 := by
  obtain ⟨tr₁, h₁⟩ := handle_steps opened reads ho hopened
  have hpi : i ≠ p := fun h => by simp_all
  unfold Process.token
  dsimp only
  rcases (w.handle opened reads p o).2 with e | v
  · exact ⟨tr₁, h₁⟩
  rcases hk : tokenOpened with e | h
  · exact ⟨tr₁, h₁⟩
  obtain ⟨h0, hh, hne⟩ := htoken h hk
  have hh' := not_mem_handle_table (i := p) (o := o) opened reads hh hne
  have hi' : (w.handle opened reads p o).1.objs i = none := by rw [handle_objs_ne _ _ hpi, hi]
  exact ⟨tr₁ ++ [.opened h, .give i .Token h], steps_concat h₁ <|
    .cons (.opened h0 hh') <| .cons (.give (c := .Token)
      (w := { (w.handle opened reads p o).1 with table := insert h _ }) hi' rfl
      (Finset.mem_insert_self _ _) fun j => by simpa using (steps_inv hinv h₁).unheld hh' j) .nil⟩

/-- `GetThreadId` answers `7`, and the thread snapshot, handle `8`, holds thread `7`. -/
def thread7 : FromHandleThunks ThreadEntry := ⟨.ok 7, ⟨.ok (8, [⟨7⟩]), fun _ => none⟩, .ok ()⟩

theorem create_thread_inv_thread7 :
    (CurrentProcess.create_thread (.ok 4) thread7 0 Handles.empty).1.Inv :=
  create_thread_inv (.ok 4) thread7 Handles.inv_empty rfl (fun h hh => by cases hh; decide)
    fun h s l hh hs => by
      cases hh
      obtain ⟨rfl, rfl⟩ := Prod.mk.inj (Except.ok.inj hs).symm
      decide

/-- `WinProcess.create_thread` keeps the invariant, when the kernel hands out handles that are
    not open, each once. -/
theorem remote_create_thread_inv {p : Nat} (opened : Except PyExc Nat)
    (reads : Except PyExc Unit) (created : Except PyExc Nat) (th : FromHandleThunks ThreadEntry)
    (hinv : w.Inv) (ho : w.objs p = some o) (hi : w.objs i = none)
    (hopened : ∀ h, opened = .ok h → h ≠ 0 ∧ h ∉ w.table)
    (hcreated : ∀ h, created = .ok h → h ≠ 0 ∧ h ∉ w.table ∧ opened ≠ .ok h)
    (hsnap : ∀ h s l, created = .ok h → th.snapshot.CreateToolhelp32Snapshot = .ok (s, l) →
      s ≠ 0 ∧ s ∉ w.table ∧ s ≠ h ∧ opened ≠ .ok s) :
    (WinProcess.create_thread opened reads created th p o i w).1.Inv :=
  let ⟨_, hrun⟩ := remote_create_thread_steps opened reads created th hinv ho hi hopened hcreated
    hsnap
  steps_inv hinv hrun

/-- `create_thread` on a new `WinProcess`: `OpenProcess` gives handle `4`, `CreateRemoteThread`
    handle `16`. -/
theorem remote_create_thread_inv_thread7 :
    (WinProcess.create_thread (.ok 4) (.ok ()) (.ok 16) thread7 0 ⟨.WinProcess, none⟩ 1
      (Handles.empty.set 0 (some ⟨.WinProcess, none⟩))).1.Inv :=
  remote_create_thread_inv (.ok 4) (.ok ()) (.ok 16) thread7
    (steps_inv Handles.inv_empty (.cons (.make (i := 0) (c := .WinProcess) rfl (by decide)) .nil))
    rfl rfl (fun h hh => by cases hh; decide) (fun h hh => by cases hh; simp [Handles.empty])
    fun h s l hh hs => by
      cases hh
      obtain ⟨rfl, rfl⟩ := Prod.mk.inj (Except.ok.inj hs).symm
      simp [Handles.empty]

/-- `Process.token` keeps the invariant, and when it returns, it returns a new `Token` that
    alone holds the handle `OpenProcessToken` opened. -/
theorem token_holds {p : Nat} (opened : Except PyExc Nat) (reads : Except PyExc Unit)
    (tokenOpened : Except PyExc Nat) (hinv : w.Inv) (ho : w.objs p = some o)
    (hi : w.objs i = none) (hopened : ∀ h, opened = .ok h → h ≠ 0 ∧ h ∉ w.table)
    (htoken : ∀ h, tokenOpened = .ok h → h ≠ 0 ∧ h ∉ w.table ∧ opened ≠ .ok h) :
    (Process.token opened reads tokenOpened p o i w).1.Inv ∧
      ∀ k, (Process.token opened reads tokenOpened p o i w).2 = .ok k → k = i ∧
        ∃ h, tokenOpened = .ok h ∧
          ∀ j, (Process.token opened reads tokenOpened p o i w).1.Holds j h ↔ j = i := by
  obtain ⟨tr, hrun⟩ := token_steps opened reads tokenOpened ho hi hopened htoken hinv
  have hinv' := steps_inv hinv hrun
  refine ⟨hinv', fun k hk => ?_⟩
  unfold Process.token at hk hinv' ⊢
  dsimp only at hk hinv' ⊢
  rcases hr : (w.handle opened reads p o).2 with e | v <;> rcases htok : tokenOpened with e' | h <;>
    simp only [hr, htok, reduceCtorEq, Except.ok.injEq] at hk hinv' ⊢
  exact ⟨hk.symm, h, rfl,
    hinv'.holds_iff (Handles.holds_of_objs (o := ⟨.Token, some (.real h)⟩) (by simp) rfl)⟩

/-- `token` of `CurrentProcess()`, whose pseudo-handle `OpenProcessToken` takes, opening
    handle `4`. -/
theorem token_holds_current :
    (Process.token (.error (.kernel32Error "OpenProcess")) (.ok ()) (.ok 4) 0
        ⟨.CurrentProcess, none⟩ 1 (Handles.empty.set 0 (some ⟨.CurrentProcess, none⟩))).1.Inv ∧
      ∀ k, (Process.token (.error (.kernel32Error "OpenProcess")) (.ok ()) (.ok 4) 0
          ⟨.CurrentProcess, none⟩ 1 (Handles.empty.set 0 (some ⟨.CurrentProcess, none⟩))).2 =
          .ok k → k = 1 ∧ ∃ h, (.ok 4 : Except PyExc Nat) = .ok h ∧
        ∀ j, (Process.token (.error (.kernel32Error "OpenProcess")) (.ok ()) (.ok 4) 0
          ⟨.CurrentProcess, none⟩ 1 (Handles.empty.set 0 (some ⟨.CurrentProcess, none⟩))).1.Holds
            j h ↔ j = 1 :=
  token_holds _ _ _
    (steps_inv Handles.inv_empty (.cons (.make (i := 0) (c := .CurrentProcess) rfl (by decide))
      .nil)) rfl rfl nofun fun h hh => by cases hh; simp [Handles.empty]

end Refines

/-! ## Who holds a handle -/

section Owners

variable {w : Handles} {i : Nat} {o : HObj}

/-- After `WinThread._from_handle(handle)` of a handle no object holds, the object it returns
    holds the handle when `GetThreadId` and the thread enumeration succeed, the thread found
    or a new `DeadThread` alike, and otherwise no object holds it; it stays open either way. -/
theorem from_handle_holds (th : FromHandleThunks ThreadEntry) (handle : Nat)
    (hfree : ∀ j, ¬ w.Holds j handle) :
    (handle ∈ w.table → handle ∈ (WinThread._from_handle th i handle w).1.table) ∧
      ∀ j, (WinThread._from_handle th i handle w).1.Holds j handle ↔
        j = i ∧ th.GetId.isOk ∧ (System.enumerate_threads th.snapshot w.table).2.isOk := by
  unfold WinThread._from_handle
  cases th.GetId with
  | error e => exact ⟨id, fun j => by simpa [Except.isOk, Except.toBool] using hfree j⟩
  | ok tid =>
    dsimp only
    have hsub := Toolhelp.subset_enumerate th.snapshot "Thread32First" w.table
    cases (System.enumerate_threads th.snapshot w.table).2 with
    | error e =>
      exact ⟨(hsub ·), fun j => by simpa [Except.isOk, Except.toBool] using hfree j⟩
    | ok ts =>
      dsimp only
      refine ⟨fun hh => ?_, fun j => ?_⟩
      · split <;> exact hsub hh
      · split <;> by_cases hj : j = i <;> simp [Handles.holds_set, hj, HObj.held, hfree j,
          Except.isOk, Except.toBool]

/-- After `WinProcess._from_handle(handle)` of a handle no object holds, the process it
    returns holds the handle when `GetProcessId` and the enumeration succeed and the pid is
    among the processes; otherwise no object holds it, though it stays open. The code has no
    `except IndexError`: a pid not among the processes raises `IndexError`, where
    `WinThread._from_handle` would give the handle to a `DeadThread`. -/
theorem process_from_handle_holds (th : FromHandleThunks ProcessEntry) (handle : Nat)
    (hfree : ∀ j, ¬ w.Holds j handle) :
    (handle ∈ w.table → handle ∈ (WinProcess._from_handle th i handle w).1.table) ∧
      (∀ j, (WinProcess._from_handle th i handle w).1.Holds j handle ↔ j = i ∧
        ∃ pid ps, th.GetId = .ok pid ∧
          (System.enumerate_processes th.snapshot w.table).2 = .ok ps ∧
          ps.any (·.th32ProcessID == pid)) ∧
      ∀ pid ps, th.GetId = .ok pid → (System.enumerate_processes th.snapshot w.table).2 = .ok ps →
        ps.any (·.th32ProcessID == pid) = false →
        (WinProcess._from_handle th i handle w).2 = .error .indexError := by
  unfold WinProcess._from_handle
  have hsub := Toolhelp.subset_enumerate th.snapshot "Process32First" w.table
  cases th.GetId with
  | error e => exact ⟨id, fun j => by simpa using hfree j, by simp⟩
  | ok pid =>
    dsimp only
    cases (System.enumerate_processes th.snapshot w.table).2 with
    | error e => exact ⟨(hsub ·), fun j => by simpa using hfree j, by simp⟩
    | ok ps =>
      dsimp only
      refine ⟨fun hh => ?_, fun j => ?_, fun pid' ps' hpid hps habs => ?_⟩
      · split <;> exact hsub hh
      · split <;> by_cases hj : j = i <;> simp_all [Handles.holds_set, HObj.held]
      · cases hpid
        cases hps
        simp [habs]

/-- `GetProcessId` answers `8`, and the process snapshot, handle `12`, holds process `4`
    only: the handle `4` is left open, with no holder, and `IndexError` raised. -/
def process8 : FromHandleThunks ProcessEntry := ⟨.ok 8, ⟨.ok (12, [⟨4⟩]), fun _ => none⟩, .ok ()⟩

theorem process_from_handle_holds_exited :
    (WinProcess._from_handle process8 0 4 { Handles.empty with table := insert 4 ∅ }).2 =
        .error .indexError ∧
      4 ∈ (WinProcess._from_handle process8 0 4
        { Handles.empty with table := insert 4 ∅ }).1.table ∧
      ∀ j, ¬ (WinProcess._from_handle process8 0 4
        { Handles.empty with table := insert 4 ∅ }).1.Holds j 4 := by
  obtain ⟨hmem, hiff, hidx⟩ := process_from_handle_holds (w := { Handles.empty with
    table := insert 4 ∅ }) (i := 0) process8 4 (by simp [Handles.Holds, Handles.empty])
  exact ⟨hidx 8 [⟨4⟩] rfl rfl rfl, hmem (by decide), fun j hj => by
    obtain ⟨-, pid, ps, hpid, hps, hany⟩ := (hiff j).1 hj
    cases hpid
    cases hps
    exact absurd hany (by decide)⟩

/-- Collecting an object that holds a handle closes it exactly when the `dbgprint` line of
    `__del__` does not raise: a thread or process object whose `__repr__` raises, or any
    object collected once teardown has set `dbgprint` to `None`, leaves the handle open, and
    no object holds it any more. -/
theorem del_closes_iff (reads printed : Except PyExc Unit) {h : Nat} (hinv : w.Inv)
    (ho : w.objs i = some o) (hh : o.held = some h) :
    (h ∈ (w.del reads printed i o).table ↔
        (AutoHandle.closingPrint reads printed o).isOk = false) ∧
      ∀ j, ¬ (w.del reads printed i o).Holds j h := by
  have hown := Handles.holds_of_objs ho hh
  have hc := (hinv.wf i o ho).held_closes (by simp [hh])
  have hmem := hinv.held_open i h hown
  have h0 : h ≠ 0 := fun h0 => hinv.zero_closed (h0 ▸ hmem)
  refine ⟨?_, fun j hj => ?_⟩
  · obtain ⟨c, hd⟩ := o
    rw [HObj.held_eq_some] at hh
    subst hh
    cases hr : AutoHandle.closingPrint reads printed ⟨c, some (.real h)⟩ <;>
      simp_all [Handles.del, AutoHandle.__del__, Except.isOk, Except.toBool]
  · exact hinv.unheld_set_none hown j hj

/-- A `WinProcess` holding handle `4`, the only handle open. -/
def processHolding : Handles :=
  { Handles.empty with table := insert 4 ∅ }.set 0 (some ⟨.WinProcess, some (.real 4)⟩)

/-- A `Token` holding handle `4`, the only handle open. -/
def tokenHolding : Handles :=
  { Handles.empty with table := insert 4 ∅ }.set 0 (some ⟨.Token, some (.real 4)⟩)

/-- The process's name cannot be decoded, so `WinProcess.__repr__` raises and `__del__`
    leaves handle `4` open with no holder; a `Token`, whose `repr` reads nothing, collected at
    teardown leaves its handle `4` open too. -/
theorem del_leaks_undecodable :
    4 ∈ (processHolding.del (.error (.unicodeDecodeError "ordinal not in range(128)")) (.ok ())
        0 ⟨.WinProcess, some (.real 4)⟩).table ∧
      (∀ j, ¬ (processHolding.del (.error (.unicodeDecodeError "ordinal not in range(128)"))
        (.ok ()) 0 ⟨.WinProcess, some (.real 4)⟩).Holds j 4) ∧
      4 ∈ (tokenHolding.del (.ok ()) teardownCall 0 ⟨.Token, some (.real 4)⟩).table := by
  have hgive (c : HandleClass) (hc : c.closesOnDel) : Steps HStep Handles.empty
      [.opened 4, .give 0 c 4]
      ({ Handles.empty with table := insert 4 ∅ }.set 0 (some ⟨c, some (.real 4)⟩)) :=
    .cons (.opened (by decide) (by decide)) <|
      .cons (.give rfl hc (by decide) (by simp [Handles.Holds, Handles.empty])) .nil
  have hp := del_closes_iff (i := 0) (.error (.unicodeDecodeError "ordinal not in range(128)"))
    (.ok ()) (steps_inv Handles.inv_empty (hgive .WinProcess rfl)) rfl rfl
  have ht := del_closes_iff (i := 0) (.ok ()) teardownCall
    (steps_inv Handles.inv_empty (hgive .Token rfl)) rfl rfl
  exact ⟨hp.1.2 rfl, hp.2, ht.1.2 rfl⟩

/-- The handle `CreateThread` opens ends up held by the object `create_thread` returns when
    `GetThreadId` and the thread enumeration succeed; otherwise it stays open and no object
    holds it. -/
theorem create_thread_holds (th : FromHandleThunks ThreadEntry) (h : Nat) (hinv : w.Inv)
    (hh : h ∉ w.table) :
    h ∈ (CurrentProcess.create_thread (.ok h) th i w).1.table ∧
      ∀ j, (CurrentProcess.create_thread (.ok h) th i w).1.Holds j h ↔
        j = i ∧ th.GetId.isOk ∧
          (System.enumerate_threads th.snapshot (insert h w.table)).2.isOk := by
  obtain ⟨hmem, hiff⟩ := from_handle_holds (w := { w with table := insert h w.table }) (i := i) th h
    fun j => by simpa using hinv.unheld hh j
  exact ⟨hmem (Finset.mem_insert_self h w.table), hiff⟩

theorem create_thread_holds_thread7 :
    4 ∈ (CurrentProcess.create_thread (.ok 4) thread7 0 Handles.empty).1.table ∧
      ∀ j, (CurrentProcess.create_thread (.ok 4) thread7 0 Handles.empty).1.Holds j 4 ↔
        j = 0 ∧ thread7.GetId.isOk ∧
          (System.enumerate_threads thread7.snapshot (insert 4 Handles.empty.table)).2.isOk :=
  create_thread_holds thread7 4 Handles.inv_empty (by decide)

end Owners

end PythonForWindows
