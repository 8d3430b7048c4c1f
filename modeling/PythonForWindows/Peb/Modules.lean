import PythonForWindows.Process.Memory

/-
  The PEB walkers: `PEB.modules` (the current process, through ctypes) and
  `RemotePEB.modules`, `RemotePEB64.modules`, `RemotePEB32.modules` (a target read through
  its `read_memory`, at the controller's pointer width, at 8 and at 4 bytes). The three
  remote ones are one walk, `remote_modules`, at their own width. `PEB.modules` has its own
  body: ctypes raises `ValueError` for a null `Ldr` itself, and `TO_LDR_ENTRY` subtracts
  from the pointer's `.value`, which ctypes gives as `None` for a null pointer.

  `walk_chain` runs the `while current_dll.DllBase` loop along a list of link addresses
  `l₁ … lₙ` that ends back at the list head; `walk_endless` runs it along a chain that never
  reaches a zero `DllBase`, where it never stops: no walker bounds the number of entries.
-/

namespace PythonForWindows

/-- Offsets, at each pointer width, of the fields the walkers read: `PEB.Ldr`,
    `PEB_LDR_DATA.InMemoryOrderModuleList` and `LDR_DATA_TABLE_ENTRY.DllBase`. The
    structures come from `generated_def`, which is not in the source. -/
structure LdrLayout where
  pebLdr : Nat → Nat
  moduleList : Nat → Nat
  dllBase : Nat → Nat

/-- Modelled from the spec: `LDR_DATA_TABLE_ENTRY` is not in the source; its
    `InMemoryOrderLinks` field lies two pointer widths past the entry base. -/
def inMemoryOrderLinks (w : Nat) : Nat := 2 * w

/-- The public `winternl.h` layout: `Ldr` after four bytes and two pointers, the list after
    eight bytes and three pointers, `DllBase` after three `LIST_ENTRY`s. -/
def winternlLayout : LdrLayout := ⟨fun w => 3 * w, fun w => 8 + 3 * w, fun w => 6 * w⟩

section Walk

variable (w : Nat) (lay : LdrLayout) (read_memory : Int → Nat → Except PyExc (List UInt8))

/-- A pointer field of a structure laid out for `w`-byte pointers, read at `a`. -/
def ptrField (a : Int) : Except PyExc Nat := leValue <$> read_memory a w

/-- One pass of `while current_dll.DllBase:`; `toEntry` turns the `Flink` just read into the
    next entry. -/
def modules_body (toEntry : Nat → Except PyExc Int) :
    List Int × Int → Except PyExc ((List Int × Int) ⊕ List Int)
  | (res, current_dll) => do
    let dllBase ← ptrField w read_memory (current_dll + lay.dllBase w)
    if dllBase = 0 then
      pure (.inr res)
    else
      let list_entry_ptr ← ptrField w read_memory (current_dll + inMemoryOrderLinks w)
      let next ← toEntry list_entry_ptr
      pure (.inl (res ++ [current_dll], next))

/-- `ptr_flink_to_remote_module`: the entry whose `InMemoryOrderLinks` the `Flink` points at. -/
def ptr_flink_to_remote_module (ptr_value : Nat) : Except PyExc Int :=
  .ok (ptr_value - w * 2)

/-- The walk of the remote PEB views, at pointer width `w`. -/
def remote_modules (peb : Int) (fuel : Nat) : Option (Except PyExc (List Int)) :=
  match (do
      let ldr ← ptrField w read_memory (peb + lay.pebLdr w)
      if ldr = 0 then throw (PyExc.valueError "PEB->Ldr is NULL: cannot walk the module list")
      let ldr ← ptrField w read_memory (peb + lay.pebLdr w)
      let list_entry_ptr ← ptrField w read_memory (ldr + lay.moduleList w)
      ptr_flink_to_remote_module w list_entry_ptr) with
  | .error e => some (.error e)
  | .ok current_dll =>
    loop (modules_body w lay read_memory (ptr_flink_to_remote_module w)) fuel ([], current_dll)

/-- `LIST_ENTRY_PTR.TO_LDR_ENTRY`: `self.value - sizeof(PVOID) * 2`, where ctypes gives the
    `.value` of a null pointer as `None`. -/
def TO_LDR_ENTRY (value : Nat) : Except PyExc Int :=
  if value = 0 then .error (.typeError "unsupported operand type(s) for -: 'NoneType' and 'int'")
  else .ok (value - w * 2)

/-- `PEB.modules` of the current process, whose pointers are `w` bytes; the entries it
    returns are the `LoadedModule`s at the addresses walked. -/
def PEB.modules (peb : Int) (fuel : Nat) : Option (Except PyExc (List Int)) :=
  match (do
      let ldr ← ptrField w read_memory (peb + lay.pebLdr w)
      if ldr = 0 then throw (PyExc.valueError "NULL pointer access")
      let list_entry_ptr ← ptrField w read_memory (ldr + lay.moduleList w)
      TO_LDR_ENTRY w list_entry_ptr) with
  | .error e => some (.error e)
  | .ok current_dll => loop (modules_body w lay read_memory (TO_LDR_ENTRY w)) fuel ([], current_dll)

end Walk

/-- `RemotePEB.modules`: `sizeof(c_void_p)` of the controller. -/
def RemotePEB.modules (current : Bitness) (lay : LdrLayout)
    (read_memory : Int → Nat → Except PyExc (List UInt8)) (peb : Int) (fuel : Nat) :
    Option (Except PyExc (List Int)) :=
  remote_modules current.ptrSize lay read_memory peb fuel

/-- `RemotePEB64.modules`: `sizeof(c_void_p64)`. -/
def RemotePEB64.modules (lay : LdrLayout) (read_memory : Int → Nat → Except PyExc (List UInt8))
    (peb : Int) (fuel : Nat) : Option (Except PyExc (List Int)) :=
  remote_modules 8 lay read_memory peb fuel

/-- `RemotePEB32.modules`: `sizeof(c_void_p32)`. -/
def RemotePEB32.modules (lay : LdrLayout) (read_memory : Int → Nat → Except PyExc (List UInt8))
    (peb : Int) (fuel : Nat) : Option (Except PyExc (List Int)) :=
  remote_modules 4 lay read_memory peb fuel

/-- `WinProcess.peb` then `.modules`: the view `peb` picks by the two bitnesses. -/
def WinProcess.peb_modules (current target : Bitness) (lay : LdrLayout)
    (read_memory : Int → Nat → Except PyExc (List UInt8)) (peb : Int) (fuel : Nat) :
    Option (Except PyExc (List Int)) :=
  if current = .b32 ∧ target = .b64 then RemotePEB64.modules lay read_memory peb fuel
  else if current = .b64 ∧ target = .b32 then RemotePEB32.modules lay read_memory peb fuel
  else RemotePEB.modules current lay read_memory peb fuel

/-- Whatever the two bitnesses, `WinProcess.peb` walks at the target's pointer width. -/
theorem peb_modules_eq (current target : Bitness) :
    WinProcess.peb_modules current target = remote_modules target.ptrSize := by
  cases current <;> cases target <;> rfl

/-! ## Module lists in an image -/

/-- The `w`-byte pointer stored at `a`, when it is readable. -/
def ptrAt (m : Image) (w : Nat) (a : Int) : Option Nat := (m.bytes a w).map leValue

/-- The `DllBase` of the entry whose `InMemoryOrderLinks` are at `l`. -/
def dllBaseAt (m : Image) (w : Nat) (lay : LdrLayout) (l : Nat) : Option Nat :=
  ptrAt m w (l - w * 2 + lay.dllBase w)

/-- `ls = l₁ … lₙ` are the link addresses of a list whose head is at `h`: the `Flink` at each
    is the next one (at `lₙ`, `h`), every entry has a nonzero `DllBase`, the head's is 0. -/
def Chain (m : Image) (w : Nat) (lay : LdrLayout) : List Nat → Nat → Prop
  | [], h => dllBaseAt m w lay h = some 0
  | l :: ls, h => (∃ d, dllBaseAt m w lay l = some d ∧ d ≠ 0) ∧
      ptrAt m w l = some (ls.headD h) ∧ Chain m w lay ls h

/-- The PEB at `peb` has a non-null `Ldr` whose `InMemoryOrderModuleList` is the list `ls`. -/
def HoldsList (m : Image) (w : Nat) (lay : LdrLayout) (peb : Int) (ls : List Nat) : Prop :=
  ∃ ldr, ptrAt m w (peb + lay.pebLdr w) = some ldr ∧ ldr ≠ 0 ∧
    ptrAt m w (ldr + lay.moduleList w) = some (ls.headD (ldr + lay.moduleList w)) ∧
    Chain m w lay ls (ldr + lay.moduleList w)

/-- The PEB at `peb` has a null `Ldr`. -/
def LdrNull (m : Image) (w : Nat) (lay : LdrLayout) (peb : Int) : Prop :=
  ptrAt m w (peb + lay.pebLdr w) = some 0

/-- The entries anchored `2 * w` bytes before each link address. -/
def entries (w : Nat) (ls : List Nat) : List Int := ls.map fun l => l - w * 2

/-- The PEB at `peb` has a non-null `Ldr` whose list head's `Flink` is `f 0`. -/
def HoldsChainFrom (m : Image) (w : Nat) (lay : LdrLayout) (peb : Int) (f : Nat → Nat) : Prop :=
  ∃ ldr, ptrAt m w (peb + lay.pebLdr w) = some ldr ∧ ldr ≠ 0 ∧
    ptrAt m w (ldr + lay.moduleList w) = some (f 0)

/-- From the `Flink` value `f 0`, the chain `f 0, f 1, …` never reaches an entry whose
    `DllBase` is 0. -/
def Endless (m : Image) (w : Nat) (lay : LdrLayout) (f : Nat → Nat) : Prop :=
  ∀ i, (∃ d, dllBaseAt m w lay (f i) = some d ∧ d ≠ 0) ∧ ptrAt m w (f i) = some (f (i + 1))

section Image

variable {m : Image} {fault : PyExc} {w : Nat} {lay : LdrLayout}

theorem ptrField_of_ptrAt (fault : PyExc) {a : Int} {v : Nat} (h : ptrAt m w a = some v) :
    ptrField w (imageRead m fault) a = .ok v := by
  simp only [ptrAt, Option.map_eq_some'] at h
  obtain ⟨bs, hbs, rfl⟩ := h
  simp [ptrField, imageRead, hbs]

theorem links_of_entry (l w : Nat) : (l : Int) - w * 2 + (inMemoryOrderLinks w : Nat) = l := by
  simp only [inMemoryOrderLinks]; push_cast; ring

/-- A pass from an entry with a nonzero `DllBase` appends it and moves to the entry its
    `Flink` leads to. -/
theorem modules_body_next {toEntry : Nat → Except PyExc Int} {l next d : Nat} {e : Int}
    {res : List Int} (hd : dllBaseAt m w lay l = some d) (hd0 : d ≠ 0)
    (hf : ptrAt m w l = some next) (hto : toEntry next = .ok e) :
    modules_body w lay (imageRead m fault) toEntry (res, (l : Int) - w * 2) =
      .ok (.inl (res ++ [(l : Int) - w * 2], e)) := by
  simp [modules_body, ptrField_of_ptrAt fault hd, hd0, links_of_entry,
    ptrField_of_ptrAt fault hf, hto]

/-- The walk along a well-formed list: one pass per entry and one at the head, every entry
    appended in list order, when `toEntry` turns each `Flink` met into its entry. -/
theorem walk_chain (toEntry : Nat → Except PyExc Int) {h : Nat} :
    ∀ {ls : List Nat}, Chain m w lay ls h → (∀ v ∈ ls.tail ++ [h], toEntry v = .ok (v - w * 2)) →
      ∀ res fuel, loop (modules_body w lay (imageRead m fault) toEntry) (fuel + ls.length + 1)
        (res, (ls.headD h : Int) - w * 2) = some (.ok (res ++ entries w ls))
  | [], hc, _, res, fuel => loop_break (by simp [modules_body, ptrField_of_ptrAt fault hc, entries])
  | l :: ls, ⟨⟨d, hd, hd0⟩, hf, hc⟩, hto, res, fuel => by
    have hnext : ls.headD h ∈ ls ++ [h] := by cases ls <;> simp
    rw [List.headD_cons,
      show fuel + (l :: ls).length + 1 = (fuel + ls.length + 1) + 1 by simp; omega,
      loop_continue (modules_body_next hd hd0 hf (hto _ hnext)),
      walk_chain toEntry hc (fun v hv => hto v (by cases ls <;> simp_all)) _ fuel]
    simp [entries]

/-- On a list with a null link after the first, `PEB.modules`' loop raises `TypeError` when it
    reaches it. -/
theorem walk_chain_null {h : Nat} (hh : h ≠ 0) :
    ∀ {ls : List Nat}, Chain m w lay ls h → 0 ∈ ls.tail →
      ∀ res fuel, loop (modules_body w lay (imageRead m fault) (TO_LDR_ENTRY w))
        (fuel + ls.length + 1) (res, (ls.headD h : Int) - w * 2) =
          some (.error (.typeError "unsupported operand type(s) for -: 'NoneType' and 'int'"))
  | [], _, h0, _, _ => by simp at h0
  | l :: ls, ⟨⟨d, hd, hd0⟩, hf, hc⟩, h0, res, fuel => by
    rw [List.headD_cons, show fuel + (l :: ls).length + 1 = (fuel + ls.length + 1) + 1 by
      simp; omega]
    by_cases hz : ls.headD h = 0
    · rw [hz] at hf
      refine loop_raise ?_
      simp [modules_body, ptrField_of_ptrAt fault hd, hd0, links_of_entry,
        ptrField_of_ptrAt fault hf, TO_LDR_ENTRY]
    · have hto : TO_LDR_ENTRY w (ls.headD h) = .ok ((ls.headD h : Int) - w * 2) := if_neg hz
      rw [loop_continue (modules_body_next hd hd0 hf hto)]
      cases ls with
      | nil => simp at h0
      | cons l' ls' =>
        simp only [List.tail_cons, List.mem_cons] at h0
        simp only [List.headD_cons] at hz
        exact walk_chain_null hh hc (h0.resolve_left (Ne.symm hz)) _ fuel

/-- Along an endless chain every pass goes on: the walk never returns or raises. -/
theorem walk_endless {toEntry : Nat → Except PyExc Int} {f : Nat → Nat} (he : Endless m w lay f)
    (hto : ∀ i, toEntry (f (i + 1)) = .ok (f (i + 1) - w * 2)) (res : List Int) (fuel : Nat) :
    loop (modules_body w lay (imageRead m fault) toEntry) fuel (res, (f 0 : Int) - w * 2) = none :=
  loop_diverges (fun s => ∃ i res, s = (res, (f i : Int) - w * 2))
    (fun _ ⟨i, res, hs⟩ => by
      obtain ⟨⟨d, hd, hd0⟩, hf⟩ := he i
      exact ⟨_, hs ▸ modules_body_next hd hd0 hf (hto i), i + 1, _, rfl⟩)
    ⟨0, res, rfl⟩ fuel

theorem remote_modules_start {peb : Int} {ldr f : Nat}
    (hl : ptrAt m w (peb + lay.pebLdr w) = some ldr) (h0 : ldr ≠ 0)
    (hf : ptrAt m w (ldr + lay.moduleList w) = some f) (fuel : Nat) :
    remote_modules w lay (imageRead m fault) peb fuel =
      loop (modules_body w lay (imageRead m fault) (ptr_flink_to_remote_module w)) fuel
        ([], (f : Int) - w * 2) := by
  simp [remote_modules, ptrField_of_ptrAt fault hl, h0, ptrField_of_ptrAt fault hf,
    ptr_flink_to_remote_module]

theorem remote_modules_null {peb : Int} (hl : LdrNull m w lay peb) (fuel : Nat) :
    remote_modules w lay (imageRead m fault) peb fuel =
      some (.error (.valueError "PEB->Ldr is NULL: cannot walk the module list")) := by
  simp [remote_modules, ptrField_of_ptrAt fault hl]; rfl

theorem PEB_modules_start {peb : Int} {ldr f : Nat}
    (hl : ptrAt m w (peb + lay.pebLdr w) = some ldr) (h0 : ldr ≠ 0)
    (hf : ptrAt m w (ldr + lay.moduleList w) = some f) (hf0 : f ≠ 0) (fuel : Nat) :
    PEB.modules w lay (imageRead m fault) peb fuel =
      loop (modules_body w lay (imageRead m fault) (TO_LDR_ENTRY w)) fuel
        ([], (f : Int) - w * 2) := by
  simp [PEB.modules, ptrField_of_ptrAt fault hl, h0, ptrField_of_ptrAt fault hf,
    TO_LDR_ENTRY, hf0]

theorem PEB_modules_first_null {peb : Int} {ldr : Nat}
    (hl : ptrAt m w (peb + lay.pebLdr w) = some ldr) (h0 : ldr ≠ 0)
    (hf : ptrAt m w (ldr + lay.moduleList w) = some 0) (fuel : Nat) :
    PEB.modules w lay (imageRead m fault) peb fuel =
      some (.error (.typeError "unsupported operand type(s) for -: 'NoneType' and 'int'")) := by
  simp [PEB.modules, ptrField_of_ptrAt fault hl, h0, ptrField_of_ptrAt fault hf,
    TO_LDR_ENTRY]

theorem PEB_modules_null {peb : Int} (hl : LdrNull m w lay peb) (fuel : Nat) :
    PEB.modules w lay (imageRead m fault) peb fuel =
      some (.error (.valueError "NULL pointer access")) := by
  simp [PEB.modules, ptrField_of_ptrAt fault hl]; rfl

/-- The remote walk returns the entries of a well-formed list, in list order. -/
theorem remote_modules_list {peb : Int} {ls : List Nat} (hl : HoldsList m w lay peb ls)
    {fuel : Nat} (hfuel : ls.length < fuel) :
    remote_modules w lay (imageRead m fault) peb fuel = some (.ok (entries w ls)) := by
  obtain ⟨ldr, hl, h0, hf, hc⟩ := hl
  obtain ⟨f, rfl⟩ : ∃ f, fuel = f + ls.length + 1 := ⟨fuel - ls.length - 1, by omega⟩
  rw [remote_modules_start hl h0 hf,
    walk_chain (ptr_flink_to_remote_module w) hc (fun _ _ => rfl), List.nil_append]

/-- `PEB.modules` returns the same entries when no link address is null. -/
theorem PEB_modules_list {peb : Int} {ls : List Nat} (hl : HoldsList m w lay peb ls)
    (hnz : 0 ∉ ls) {fuel : Nat} (hfuel : ls.length < fuel) :
    PEB.modules w lay (imageRead m fault) peb fuel = some (.ok (entries w ls)) := by
  obtain ⟨ldr, hl, h0, hf, hc⟩ := hl
  obtain ⟨f, rfl⟩ : ∃ f, fuel = f + ls.length + 1 := ⟨fuel - ls.length - 1, by omega⟩
  have hne : ∀ v ∈ ls ++ [ldr + lay.moduleList w], v ≠ 0 := by
    intro v hv; rcases List.mem_append.1 hv with hv | hv
    · exact fun h => hnz (h ▸ hv)
    · simp at hv; omega
  have hhead : ls.headD (ldr + lay.moduleList w) ∈ ls ++ [ldr + lay.moduleList w] := by
    cases ls <;> simp
  rw [PEB_modules_start hl h0 hf (hne _ hhead), walk_chain (TO_LDR_ENTRY w) hc
    (fun v hv => if_neg (hne v (by cases ls <;> simp_all))), List.nil_append]

/-- `PEB.modules` raises `TypeError` on a list with a null link address. -/
theorem PEB_modules_null_link {peb : Int} {ls : List Nat} (hl : HoldsList m w lay peb ls)
    (hz : 0 ∈ ls) {fuel : Nat} (hfuel : ls.length < fuel) :
    PEB.modules w lay (imageRead m fault) peb fuel =
      some (.error (.typeError "unsupported operand type(s) for -: 'NoneType' and 'int'")) := by
  obtain ⟨ldr, hl, h0, hf, hc⟩ := hl
  obtain ⟨f, rfl⟩ : ∃ f, fuel = f + ls.length + 1 := ⟨fuel - ls.length - 1, by omega⟩
  cases ls with
  | nil => simp at hz
  | cons l ls =>
    by_cases hl0 : l = 0
    · subst hl0; exact PEB_modules_first_null hl h0 hf _
    · rw [PEB_modules_start hl h0 hf hl0]
      exact walk_chain_null (by omega) hc (by simpa [Ne.symm hl0] using hz) [] f

/-- The remote walk along an endless chain never returns or raises. -/
theorem remote_modules_endless {peb : Int} {f : Nat → Nat} (hs : HoldsChainFrom m w lay peb f)
    (he : Endless m w lay f) (fuel : Nat) :
    remote_modules w lay (imageRead m fault) peb fuel = none := by
  obtain ⟨ldr, hl, h0, hf⟩ := hs
  rw [remote_modules_start hl h0 hf]
  exact walk_endless he (fun _ => rfl) [] fuel

/-- So does `PEB.modules`, when no `Flink` on the chain is null. -/
theorem PEB_modules_endless {peb : Int} {f : Nat → Nat} (hs : HoldsChainFrom m w lay peb f)
    (he : Endless m w lay f) (hnz : ∀ i, f i ≠ 0) (fuel : Nat) :
    PEB.modules w lay (imageRead m fault) peb fuel = none := by
  obtain ⟨ldr, hl, h0, hf⟩ := hs
  rw [PEB_modules_start hl h0 hf (hnz 0)]
  exact walk_endless he (fun i => if_neg (hnz (i + 1))) [] fuel

end Image

/-! ## The four walkers -/

/-- On a well-formed list the three remote walkers return its entries in order, each at its
    own pointer width; `PEB.modules` returns the same entries unless a link address is null,
    where it raises `TypeError`; on a null `Ldr` all four raise `ValueError`. -/
theorem modules_walk (lay : LdrLayout) (m : Image) (fault : PyExc) (current : Bitness)
    (peb : Int) (ls : List Nat) (fuel : Nat) (hfuel : ls.length < fuel) :
    (HoldsList m current.ptrSize lay peb ls →
      RemotePEB.modules current lay (imageRead m fault) peb fuel =
        some (.ok (entries current.ptrSize ls)) ∧
      PEB.modules current.ptrSize lay (imageRead m fault) peb fuel =
        some (if 0 ∈ ls then
          .error (.typeError "unsupported operand type(s) for -: 'NoneType' and 'int'")
          else .ok (entries current.ptrSize ls))) ∧
    (HoldsList m 8 lay peb ls →
      RemotePEB64.modules lay (imageRead m fault) peb fuel = some (.ok (entries 8 ls))) ∧
    (HoldsList m 4 lay peb ls →
      RemotePEB32.modules lay (imageRead m fault) peb fuel = some (.ok (entries 4 ls))) ∧
    (LdrNull m current.ptrSize lay peb →
      RemotePEB.modules current lay (imageRead m fault) peb fuel =
        some (.error (.valueError "PEB->Ldr is NULL: cannot walk the module list")) ∧
      PEB.modules current.ptrSize lay (imageRead m fault) peb fuel =
        some (.error (.valueError "NULL pointer access"))) ∧
    (LdrNull m 8 lay peb → RemotePEB64.modules lay (imageRead m fault) peb fuel =
      some (.error (.valueError "PEB->Ldr is NULL: cannot walk the module list"))) ∧
    (LdrNull m 4 lay peb → RemotePEB32.modules lay (imageRead m fault) peb fuel =
      some (.error (.valueError "PEB->Ldr is NULL: cannot walk the module list"))) := by
  refine ⟨fun hl => ⟨remote_modules_list hl hfuel, ?_⟩, fun hl => remote_modules_list hl hfuel,
    fun hl => remote_modules_list hl hfuel,
    fun hl => ⟨remote_modules_null hl fuel, PEB_modules_null hl fuel⟩,
    fun hl => remote_modules_null hl fuel, fun hl => remote_modules_null hl fuel⟩
  split_ifs with hz
  · exact PEB_modules_null_link hl hz hfuel
  · exact PEB_modules_list hl hz hfuel

/-- A memory whose `w`-byte little-endian words `ws` stand at their addresses, zero
    elsewhere. -/
def wordMemory (w : Nat) (ws : List (Int × Nat)) (a : Int) : UInt8 :=
  match ws.find? fun p => decide (p.1 ≤ a ∧ a < p.1 + w) with
  | some (b, v) => UInt8.ofNat (v / 256 ^ (a - b).toNat)
  | none => 0

/-- A 64-bit PEB at `0x1000`, `Ldr` at `0x2000`, two modules linked at `0x3010` and `0x4010`
    (`DllBase` `0x400000` and `0x77000000`), and back to the head at `0x2020`. -/
def twoModuleMemory : Int → UInt8 :=
  wordMemory 8 [(0x1018, 0x2000), (0x2020, 0x3010), (0x3010, 0x4010), (0x3030, 0x400000),
    (0x4010, 0x2020), (0x4030, 0x77000000)]

theorem modules_walk_two :
    HoldsList (total twoModuleMemory) 8 winternlLayout 0x1000 [0x3010, 0x4010] ∧
      [0x3010, 0x4010].length < 3 ∧
      RemotePEB.modules .b64 winternlLayout (imageRead (total twoModuleMemory) (.ntStatus 0))
        0x1000 3 = some (.ok [0x3000, 0x4000]) ∧
      PEB.modules 8 winternlLayout (imageRead (total twoModuleMemory) (.ntStatus 0)) 0x1000 3 =
        some (.ok [0x3000, 0x4000]) ∧
      RemotePEB64.modules winternlLayout (imageRead (total twoModuleMemory) (.ntStatus 0))
        0x1000 3 = some (.ok [0x3000, 0x4000]) := by
  have hl : HoldsList (total twoModuleMemory) 8 winternlLayout 0x1000 [0x3010, 0x4010] :=
    ⟨0x2000, by decide, by decide, by decide, ⟨0x400000, by decide, by decide⟩, by decide,
      ⟨0x77000000, by decide, by decide⟩, by decide, show dllBaseAt _ _ _ _ = _ by decide⟩
  have h := modules_walk winternlLayout (total twoModuleMemory) (.ntStatus 0) .b64 0x1000
    [0x3010, 0x4010] 3 (by decide)
  exact ⟨hl, by decide, (h.1 hl).1, (h.1 hl).2.trans rfl, h.2.1 hl⟩

/-- A 64-bit PEB at `0x1000` whose list has one entry, linked at address 0: the head's
    `Flink` is 0, the entry there has `DllBase` `0x400000`, and the `Flink` at 0 leads back
    to the head `0x2020`. -/
def nullLinkMemory : Int → UInt8 := wordMemory 8 [(0x1018, 0x2000), (32, 0x400000), (0, 0x2020)]

/-- On that list the 64-bit remote walker returns its one entry, `PEB.modules` raises. -/
theorem modules_null_link_disagree :
    HoldsList (total nullLinkMemory) 8 winternlLayout 0x1000 [0] ∧
      RemotePEB64.modules winternlLayout
        (WinProcess.read_memory .b32 .b64 true 0 (total nullLinkMemory)) 0x1000 2 =
        some (.ok [-16]) ∧
      PEB.modules 8 winternlLayout (CurrentProcess.read_memory nullLinkMemory) 0x1000 2 =
        some (.error (.typeError "unsupported operand type(s) for -: 'NoneType' and 'int'")) := by
  have hl : HoldsList (total nullLinkMemory) 8 winternlLayout 0x1000 [0] :=
    ⟨0x2000, by decide, by decide, by decide, ⟨0x400000, by decide, by decide⟩, by decide,
      show dllBaseAt _ _ _ _ = _ by decide⟩
  refine ⟨hl, remote_modules_list hl (by decide), ?_⟩
  rw [current_read_memory_eq nullLinkMemory (.ntStatus 0)]
  exact PEB_modules_null_link hl (by decide) (by decide)

/-- No walker bounds its walk: on a chain of entries that never reaches a zero `DllBase`
    (for `PEB.modules`, with no null `Flink`), each of the four never returns or raises. -/
theorem modules_unbounded (lay : LdrLayout) (m : Image) (fault : PyExc) (current : Bitness)
    (peb : Int) (f : Nat → Nat) :
    (HoldsChainFrom m current.ptrSize lay peb f → Endless m current.ptrSize lay f →
      ∀ fuel, RemotePEB.modules current lay (imageRead m fault) peb fuel = none) ∧
    (HoldsChainFrom m current.ptrSize lay peb f → Endless m current.ptrSize lay f →
      (∀ i, f i ≠ 0) →
      ∀ fuel, PEB.modules current.ptrSize lay (imageRead m fault) peb fuel = none) ∧
    (HoldsChainFrom m 8 lay peb f → Endless m 8 lay f →
      ∀ fuel, RemotePEB64.modules lay (imageRead m fault) peb fuel = none) ∧
    (HoldsChainFrom m 4 lay peb f → Endless m 4 lay f →
      ∀ fuel, RemotePEB32.modules lay (imageRead m fault) peb fuel = none) :=
  ⟨remote_modules_endless, PEB_modules_endless, remote_modules_endless, remote_modules_endless⟩

/-- A 64-bit PEB at `0x1000`, `Ldr` at `0x2000`, and one entry, based at `0x3000` with
    `DllBase` `0x400000`, whose `InMemoryOrderLinks` at `0x3010` have a `Flink` to themselves:
    the list head leads into it, and it never leads back. -/
def selfLinkMemory : Int → UInt8 :=
  wordMemory 8 [(0x1018, 0x2000), (0x2020, 0x3010), (0x3010, 0x3010), (0x3030, 0x400000)]

/-- The entry's `DllBase`, and its `Flink` back to itself. -/
theorem selfLink_entry :
    dllBaseAt (total selfLinkMemory) 8 winternlLayout 0x3010 = some 0x400000 ∧
      ptrAt (total selfLinkMemory) 8 0x3010 = some 0x3010 :=
  ⟨show dllBaseAt _ _ _ _ = _ by decide, by decide⟩

theorem modules_unbounded_selfLinked :
    HoldsChainFrom (total selfLinkMemory) 8 winternlLayout 0x1000 (fun _ => 0x3010) ∧
      Endless (total selfLinkMemory) 8 winternlLayout (fun _ => 0x3010) ∧
      ∀ fuel, RemotePEB64.modules winternlLayout
        (imageRead (total selfLinkMemory) (.ntStatus 0)) 0x1000 fuel = none := by
  have hs : HoldsChainFrom (total selfLinkMemory) 8 winternlLayout 0x1000 (fun _ => 0x3010) :=
    ⟨0x2000, by decide, by decide, by decide⟩
  have he : Endless (total selfLinkMemory) 8 winternlLayout (fun _ => 0x3010) :=
    fun _ => ⟨⟨0x400000, selfLink_entry.1, by decide⟩, selfLink_entry.2⟩
  exact ⟨hs, he, (modules_unbounded winternlLayout _ (.ntStatus 0) .b64 0x1000 _).2.2.1 hs he⟩

/-- That entry, read from a 32-bit controller: `RemotePEB64.modules` never returns. -/
theorem modules_self_link_runs_forever :
    dllBaseAt (total selfLinkMemory) 8 winternlLayout 0x3010 = some 0x400000 ∧
      ptrAt (total selfLinkMemory) 8 0x3010 = some 0x3010 ∧
      ∀ fuel, RemotePEB64.modules winternlLayout
        (WinProcess.read_memory .b32 .b64 true 0 (total selfLinkMemory)) 0x1000 fuel = none :=
  ⟨selfLink_entry.1, selfLink_entry.2, remote_modules_endless (f := fun _ => 0x3010)
    ⟨0x2000, by decide, by decide, by decide⟩
    (fun _ => ⟨⟨0x400000, selfLink_entry.1, by decide⟩, selfLink_entry.2⟩)⟩

end PythonForWindows
