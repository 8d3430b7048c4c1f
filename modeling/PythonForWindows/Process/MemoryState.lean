import PythonForWindows.Basic

/-
  `Process.query_memory` and the generator `Process.memory_state`. `query_memory` calls
  `VirtualQueryEx`, or from a 32-bit controller into a 64-bit target
  `NtQueryVirtualMemory_32_to_64`, whose status `0xC000000D` it turns into the
  `Kernel32Error` the other path raises past the end of the address space
  (`query_memory_wow64_end`). `memory_state` queries from address 0, yields each region and
  moves on by its `RegionSize`, and returns at the first `Kernel32Error`.
  `memory_state_from_yields` says what it yields for any `query_memory`, and
  `memory_state_from_ends` that it ends when regions are non-empty and the address space is
  bounded. `memory_state_from_regions` runs it over a layout of contiguous regions: the next
  query address is always the next region's base, and `end - addr` falls at every pass.
-/

namespace PythonForWindows

/-- `MEMORY_BASIC_INFORMATION`, at either pointer width: the fields the modelled code reads. -/
structure MemoryBasicInformation where
  BaseAddress : Int
  RegionSize : Nat
  deriving DecidableEq, Repr

/-- The thunks `query_memory` calls, as the target answers them at each address. -/
structure QueryThunks where
  VirtualQueryEx : Int → Except PyExc MemoryBasicInformation
  NtQueryVirtualMemory_32_to_64 : Int → Except PyExc MemoryBasicInformation

/-- `Process.query_memory(addr)`. `e.code & 0xffffffff` of a Python integer is its residue
    modulo `2^32`. -/
def query_memory (current target : Bitness) (os : QueryThunks) (addr : Int) :
    Except PyExc MemoryBasicInformation :=
  if current = .b32 ∧ target = .b64 then
    match os.NtQueryVirtualMemory_32_to_64 addr with
    | .error (.ntStatus code) =>
      if code % 0x100000000 = 0xC000000D then
        .error (.kernel32Error "NtQueryVirtualMemory_32_to_64")
      else .error (.ntStatus code)
    | r => r
  else os.VirtualQueryEx addr

/-- `memory_state` from `addr`, for at most `fuel` queries: the regions it yields, and the
    exception it ends with (`none` when it returns). -/
def memory_state_from (query_memory : Int → Except PyExc MemoryBasicInformation) :
    Nat → Int → Option (List MemoryBasicInformation × Option PyExc)
  | 0, _ => none
  | fuel + 1, addr =>
    match query_memory addr with
    | .error (.kernel32Error _) => some ([], none)
    | .error e => some ([], some e)
    | .ok x => (memory_state_from query_memory fuel (addr + x.RegionSize)).map
        fun r => (x :: r.1, r.2)

/-- `Process.memory_state()`: the generator starts at address 0. -/
def memory_state (query_memory : Int → Except PyExc MemoryBasicInformation) (fuel : Nat) :
    Option (List MemoryBasicInformation × Option PyExc) :=
  memory_state_from query_memory fuel 0

/-- From a 32-bit controller into a 64-bit target, the status `0xC000000D` (however the
    `NtStatusException` carries its sign) becomes a `Kernel32Error`. -/
theorem query_memory_wow64_end (os : QueryThunks) (addr code : Int)
    (h : os.NtQueryVirtualMemory_32_to_64 addr = .error (.ntStatus code))
    (hc : code % 0x100000000 = 0xC000000D) :
    query_memory .b32 .b64 os addr = .error (.kernel32Error "NtQueryVirtualMemory_32_to_64") := by
  simp [query_memory, h, hc]

/-- Any other answer of the 32-to-64 thunk passes through unchanged. -/
theorem query_memory_wow64 (os : QueryThunks) (addr : Int)
    (h : ∀ code, os.NtQueryVirtualMemory_32_to_64 addr = .error (.ntStatus code) →
      code % 0x100000000 ≠ 0xC000000D) :
    query_memory .b32 .b64 os addr = os.NtQueryVirtualMemory_32_to_64 addr := by
  simp only [query_memory, and_self, if_true]
  split
  · next code hq => simp [h code hq, hq]
  · rfl

/-! ## The generator's loop -/

section Loop

variable (q : Int → Except PyExc MemoryBasicInformation)

/-- Where the `i`-th query of `memory_state` from `b` is made: past the regions yielded
    before it. -/
def queryAddr (b : Int) (ys : List MemoryBasicInformation) (i : Nat) : Int :=
  b + (((ys.take i).map (·.RegionSize)).sum : Nat)

theorem queryAddr_succ (b : Int) (x : MemoryBasicInformation) (ys : List MemoryBasicInformation)
    (i : Nat) : queryAddr (b + x.RegionSize) ys i = queryAddr b (x :: ys) (i + 1) := by
  simp [queryAddr, add_assoc]

/-- Whatever `query_memory` answers, `memory_state` yields its answers at the running address,
    each region moving the address past it, and ends at the first query that raises: it
    returns on a `Kernel32Error` and lets any other exception through. -/
theorem memory_state_from_yields : ∀ (fuel : Nat) (b : Int) (ys : List MemoryBasicInformation)
    (r : Option PyExc), memory_state_from q fuel b = some (ys, r) →
      (∀ i (hi : i < ys.length), q (queryAddr b ys i) = .ok (ys.get ⟨i, hi⟩)) ∧
        match r with
        | none => ∃ fn, q (queryAddr b ys ys.length) = .error (.kernel32Error fn)
        | some e => q (queryAddr b ys ys.length) = .error e ∧ ∀ fn, e ≠ .kernel32Error fn
  | fuel + 1, b, ys, r, h => by
    simp only [memory_state_from] at h
    split at h
    · next fn hq =>
      obtain ⟨rfl, rfl⟩ := Prod.mk.inj (Option.some.inj h).symm
      exact ⟨nofun, fn, by simpa [queryAddr] using hq⟩
    · next e hne hq =>
      obtain ⟨rfl, rfl⟩ := Prod.mk.inj (Option.some.inj h).symm
      exact ⟨nofun, by simpa [queryAddr] using hq, fun fn he => hne fn (he ▸ rfl)⟩
    · next x hq =>
      obtain ⟨⟨ys', r'⟩, hrest, heq⟩ := Option.map_eq_some'.1 h
      obtain ⟨rfl, rfl⟩ := Prod.mk.inj heq.symm
      obtain ⟨hys, hend⟩ := memory_state_from_yields fuel _ ys' _ hrest
      refine ⟨fun i hi => ?_, ?_⟩
      · cases i with
        | zero => simpa [queryAddr] using hq
        | succ i => simpa [← queryAddr_succ] using hys i (by simpa using hi)
      · simpa [← queryAddr_succ] using hend

/-- A target with one region, `[0, 0x1000)`, past which `VirtualQueryEx` fails. -/
def oneRegion (a : Int) : Except PyExc MemoryBasicInformation :=
  if a < 0x1000 then .ok ⟨0, 0x1000⟩ else .error (.kernel32Error "VirtualQueryEx")

theorem memory_state_from_yields_oneRegion :
    (∀ i (hi : i < [(⟨0, 0x1000⟩ : MemoryBasicInformation)].length),
      oneRegion (queryAddr 0 [⟨0, 0x1000⟩] i) = .ok ([⟨0, 0x1000⟩].get ⟨i, hi⟩)) ∧
      ∃ fn, oneRegion (queryAddr 0 [⟨0, 0x1000⟩] 1) = .error (.kernel32Error fn) :=
  memory_state_from_yields oneRegion 2 0 [⟨0, 0x1000⟩] none rfl

/-- When every region `query_memory` gives is non-empty and it raises `Kernel32Error` from `E`
    on, `memory_state` from `b` ends within `E - b` passes: `E - addr` falls at every pass. -/
theorem memory_state_from_ends (E : Int)
    (hpos : ∀ a x, q a = .ok x → 0 < x.RegionSize)
    (hend : ∀ a, E ≤ a → ∃ fn, q a = .error (.kernel32Error fn)) :
    ∀ (fuel : Nat) (b : Int), (E - b).toNat < fuel → (memory_state_from q fuel b).isSome
  | fuel + 1, b, hfuel => by
    simp only [memory_state_from]
    split
    · rfl
    · rfl
    · next x hq =>
      have hb : b < E := not_le.1 fun h => by
        obtain ⟨fn, hfn⟩ := hend b h
        simp [hfn] at hq
      have hx := hpos b x hq
      simpa using memory_state_from_ends E hpos hend fuel _ (by omega)

theorem memory_state_from_ends_oneRegion : (memory_state_from oneRegion 0x1001 0).isSome :=
  memory_state_from_ends oneRegion 0x1000
    (fun a x h => by
      unfold oneRegion at h
      split_ifs at h
      cases h
      decide)
    (fun a ha => ⟨"VirtualQueryEx", by simp [oneRegion, not_lt.2 ha]⟩) 0x1001 0 (by decide)

end Loop

/-! ## Layouts of regions -/

/-- Regions that tile the address space from `b`, each starting where the last one ends. -/
def Contiguous : Int → List MemoryBasicInformation → Prop
  | _, [] => True
  | b, r :: rs => r.BaseAddress = b ∧ 0 < r.RegionSize ∧ Contiguous (b + r.RegionSize) rs

/-- Where regions laid from `b` end. -/
def regionsEnd : Int → List MemoryBasicInformation → Int
  | b, [] => b
  | b, r :: rs => regionsEnd (b + r.RegionSize) rs

/-- Over contiguous regions whose `query_memory` answers each address with the region that
    holds it, and raises `Kernel32Error` past their end, `memory_state` from their first base
    yields each region once, in order, and returns. -/
theorem memory_state_from_regions (q : Int → Except PyExc MemoryBasicInformation) :
    ∀ (R : List MemoryBasicInformation) (b : Int), Contiguous b R →
      (∀ r ∈ R, ∀ a, r.BaseAddress ≤ a → a < r.BaseAddress + r.RegionSize → q a = .ok r) →
      (∀ a, regionsEnd b R ≤ a → ∃ fn, q a = .error (.kernel32Error fn)) →
      ∀ fuel, R.length < fuel → memory_state_from q fuel b = some (R, none)
  | [], b, _, _, hout, fuel + 1, _ => by
    obtain ⟨fn, hq⟩ := hout b le_rfl
    simp [memory_state_from, hq]
  | r :: rs, b, ⟨hb, hpos, hc⟩, hin, hout, fuel + 1, hfuel => by
    have hr : q b = .ok r := hin r (List.mem_cons_self _ _) b (by omega) (by omega)
    simp only [memory_state_from, hr]
    rw [memory_state_from_regions q rs _ hc (fun r' h' => hin r' (List.mem_cons_of_mem _ h'))
      hout fuel (by simp at hfuel; omega)]
    rfl

/-- `memory_state()` walks a layout of contiguous regions from address 0 to its end, whichever
    path `query_memory` takes. -/
theorem memory_state_yields_regions (current target : Bitness) (os : QueryThunks)
    (R : List MemoryBasicInformation) (hR : Contiguous 0 R)
    (hin : ∀ r ∈ R, ∀ a, r.BaseAddress ≤ a → a < r.BaseAddress + r.RegionSize →
      query_memory current target os a = .ok r)
    (hout : ∀ a, regionsEnd 0 R ≤ a →
      ∃ fn, query_memory current target os a = .error (.kernel32Error fn))
    (fuel : Nat) (hfuel : R.length < fuel) :
    memory_state (query_memory current target os) fuel = some (R, none) :=
  memory_state_from_regions _ R 0 hR hin hout fuel hfuel

/-- Two regions, `[0, 0x1000)` and `[0x1000, 0x3000)`. -/
def twoRegions : List MemoryBasicInformation := [⟨0, 0x1000⟩, ⟨0x1000, 0x2000⟩]

/-- A 64-bit target seen from a 32-bit controller, laid out as `twoRegions`: past them the
    thunk fails with `STATUS_INVALID_PARAMETER` as a signed code. -/
def twoRegionThunks : QueryThunks where
  VirtualQueryEx _ := .error (.kernel32Error "VirtualQueryEx")
  NtQueryVirtualMemory_32_to_64 a :=
    if a < 0x1000 then .ok ⟨0, 0x1000⟩ else if a < 0x3000 then .ok ⟨0x1000, 0x2000⟩
    else .error (.ntStatus (-1073741811))

theorem memory_state_yields_two_regions :
    memory_state (query_memory .b32 .b64 twoRegionThunks) 3 = some (twoRegions, none) :=
  memory_state_yields_regions .b32 .b64 twoRegionThunks twoRegions
    ⟨rfl, by decide, rfl, by decide, trivial⟩
    (by
      simp only [twoRegions, List.mem_cons, List.mem_singleton, List.not_mem_nil, or_false]
      rintro r (rfl | rfl) a h1 h2 <;> simp only [zero_add, Nat.cast_ofNat] at h1 h2
      · simp [query_memory, twoRegionThunks, h2]
      · simp [query_memory, twoRegionThunks, show ¬ a < 0x1000 by omega, show a < 0x3000 by omega])
    (fun a ha => by
      have h : 0x3000 ≤ a := by simpa [twoRegions, regionsEnd] using ha
      exact ⟨_, query_memory_wow64_end _ a (-1073741811)
        (by simp [twoRegionThunks, show ¬ a < 0x3000 by omega, show ¬ a < 0x1000 by omega])
        (by decide)⟩)
    3 (by decide)

end PythonForWindows
