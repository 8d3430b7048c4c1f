import PythonForWindows.Basic

/-
  `read_memory` of the two process classes, and the fixed-width reads built on it.
  `WinProcess.read_memory` goes through `low_read_memory`, which picks the thunk by the
  controller's and the target's bitness: `NtWow64ReadVirtualMemory64` from a 32-bit
  controller into a 64-bit target (a `ValueError` when ntdll does not export it),
  `ReadProcessMemory` otherwise. Both thunks return the `size` bytes or raise, so each path
  is an `imageRead` of the target's image with the exception its thunk raises
  (`read_memory_eq_imageRead`). `CurrentProcess.read_memory` casts the address to a buffer;
  the model reads a memory every address of which is mapped, since an unmapped one stops the
  interpreter rather than raising. `read_ptr` reads a `DWORD` from a 32-bit target and a
  `ULONG64` from a 64-bit one.
-/

namespace PythonForWindows

/-- `WinProcess.low_read_memory` into a fresh buffer, then `buffer[:]`. `ntdll` says whether
    `winproxy.NtWow64ReadVirtualMemory64` is exported; `ntFault` is the `NtStatusException`
    it raises on a read that fails. -/
def WinProcess.read_memory (current target : Bitness) (ntdll : Bool) (ntFault : Int) (m : Image)
    (addr : Int) (size : Nat) : Except PyExc (List UInt8) :=
  if current = .b32 ∧ target = .b64 then
    if ntdll then imageRead m (.ntStatus ntFault) addr size
    else .error (.valueError
      "NtWow64ReadVirtualMemory64 non available in ntdll: cannot read into 64bits processus")
  else imageRead m (.kernel32Error "ReadProcessMemory") addr size

/-- `CurrentProcess.read_memory`: `(c_char * size).from_address(addr)[:]`. -/
def CurrentProcess.read_memory (m : Int → UInt8) (addr : Int) (size : Nat) :
    Except PyExc (List UInt8) :=
  .ok (slice m addr size)

/-- Every path of `WinProcess.read_memory` that has a thunk to call reads the image,
    failing with the exception of the thunk it calls. -/
theorem read_memory_eq_imageRead (current target : Bitness) (ntdll : Bool) (ntFault : Int)
    (m : Image) (h : current = .b32 ∧ target = .b64 → ntdll = true) :
    ∃ fault, WinProcess.read_memory current target ntdll ntFault m = imageRead m fault := by
  unfold WinProcess.read_memory
  by_cases hc : current = .b32 ∧ target = .b64
  · exact ⟨.ntStatus ntFault, funext fun a => funext fun n => by simp [hc, h hc]⟩
  · exact ⟨.kernel32Error "ReadProcessMemory", funext fun a => funext fun n => by simp [hc]⟩

theorem current_read_memory_eq (m : Int → UInt8) (fault : PyExc) :
    CurrentProcess.read_memory m = imageRead (total m) fault :=
  funext fun a => funext fun n => (imageRead_total m fault a n).symm

section Fixed

variable (read_memory : Int → Nat → Except PyExc (List UInt8))

/-- `read_byte`: `struct.unpack("<B", self.read_memory(addr, 1))[0]`. -/
def read_byte (addr : Int) : Except PyExc Nat := leValue <$> read_memory addr 1

/-- `read_dword`: `struct.unpack("<I", self.read_memory(addr, 4))[0]`. -/
def read_dword (addr : Int) : Except PyExc Nat := leValue <$> read_memory addr 4

/-- `read_qword`: `struct.unpack("<Q", self.read_memory(addr, 8))[0]`. -/
def read_qword (addr : Int) : Except PyExc Nat := leValue <$> read_memory addr 8

/-- `read_ptr`: a `DWORD` in a 32-bit process, a `ULONG64` otherwise. -/
def read_ptr (bitness : Bitness) (addr : Int) : Except PyExc Nat :=
  if bitness = .b32 then read_dword read_memory addr else read_qword read_memory addr

end Fixed

theorem leValue_lt (bs : List UInt8) : leValue bs < 256 ^ bs.length := by
  induction bs with
  | nil => simp [leValue]
  | cons b bs ih =>
    have hb := b.toNat_lt
    simp only [leValue, List.length_cons, pow_succ]
    omega

end PythonForWindows
