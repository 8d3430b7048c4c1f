import PythonForWindows.Process.Strings

/-
  `Process.write_byte`, `write_word`, `write_dword` and `write_qword`:
  `self.write_memory(addr, struct.pack(fmt, value))`. `struct.pack` of `"<B"`, `"<H"`, `"<I"`
  and `"<Q"` gives `leBytes` of a value in `[0, 256 ^ w)` and raises `struct.error` for any
  other, before anything is written; it and the `struct.unpack` of the reads are inverse
  (`leValue_leBytes`, `leBytes_leValue`). `CurrentProcess.write_memory` stores the bytes in
  place. `WinProcess.write_memory` calls `WriteProcessMemory` for every pair of bitnesses:
  unlike `low_read_memory` it has no 32-to-64 path, so its round trip is stated for the pairs
  where both go through the plain thunks. What a write at a width stores, a read at that
  width gives back, and every other address keeps its byte (`write_read_current`,
  `write_read_remote`). A string stored with its terminator reads back through
  `read_string`, and UTF-16LE bytes through `read_wstring` as their code units, less a first
  `0xFEFF` (`write_read_string`, `write_read_wstring`).
-/

namespace PythonForWindows

/-- The `w` little-endian bytes of `n`, bits above `8 * w` dropped. -/
def leBytes : Nat → Nat → List UInt8
  | 0, _ => []
  | w + 1, n => UInt8.ofNat (n % 256) :: leBytes w (n / 256)

@[simp] theorem length_leBytes (w n : Nat) : (leBytes w n).length = w := by
  induction w generalizing n <;> simp [leBytes, *]

theorem UInt8.toNat_ofNat' (n : Nat) : (UInt8.ofNat n).toNat = n % 256 := rfl

theorem UInt8.ofNat_toNat' (b : UInt8) : UInt8.ofNat b.toNat = b :=
  UInt8.eq_of_val_eq (Fin.ext (Nat.mod_eq_of_lt b.toNat_lt))

/-- Unpacking what was packed gives the value back, modulo the width. -/
theorem leValue_leBytes (w n : Nat) : leValue (leBytes w n) = n % 256 ^ w := by
  induction w generalizing n with
  | zero => simp [leBytes, leValue, Nat.mod_one]
  | succ w ih => rw [leBytes, leValue, ih, pow_succ', Nat.mod_mul, UInt8.toNat_ofNat', Nat.mod_mod]

/-- Packing what was unpacked gives the bytes back. -/
theorem leBytes_leValue (bs : List UInt8) : leBytes bs.length (leValue bs) = bs := by
  induction bs with
  | nil => rfl
  | cons b bs ih =>
    have hb := b.toNat_lt
    have hmod : (b.toNat + 256 * leValue bs) % 256 = b.toNat := by omega
    have hdiv : (b.toNat + 256 * leValue bs) / 256 = leValue bs := by omega
    simp only [List.length_cons, leBytes, leValue, hmod, hdiv, UInt8.ofNat_toNat', ih]

/-- A value in range unpacks from its packed bytes unchanged. -/
theorem leValue_leBytes_toNat {w : Nat} {v : Int} (hv : 0 ≤ v ∧ v < 256 ^ w) :
    leValue (leBytes w v.toNat) = v.toNat := by
  rw [leValue_leBytes, Nat.mod_eq_of_lt (by rw [Int.toNat_lt hv.1]; exact_mod_cast hv.2)]

/-- `struct.pack("<B")`, `"<H"`, `"<I"` or `"<Q"` (`w` = 1, 2, 4, 8) of an integer: its `w`
    little-endian bytes, or `struct.error` (`packError`, whose text depends on the format and
    on the value) outside `[0, 256 ^ w)`. -/
def pack (packError : PyExc) (w : Nat) (v : Int) : Except PyExc (List UInt8) :=
  if 0 ≤ v ∧ v < 256 ^ w then .ok (leBytes w v.toNat) else .error packError

/-- `struct.unpack` of what `struct.pack` gives is the value, for every value in range, and
    `struct.pack` of what `struct.unpack` reads gives the bytes back. -/
theorem pack_round_trip (packError : PyExc) :
    (∀ w v, 0 ≤ v → v < 256 ^ w →
      ∃ bs, pack packError w v = .ok bs ∧ bs.length = w ∧ (leValue bs : Int) = v) ∧
      ∀ bs : List UInt8, pack packError bs.length (leValue bs) = .ok bs := by
  refine ⟨fun w v h0 hv => ⟨_, if_pos ⟨h0, hv⟩, length_leBytes _ _, ?_⟩, fun bs => ?_⟩
  · rw [leValue_leBytes_toNat ⟨h0, hv⟩, Int.toNat_of_nonneg h0]
  · have := leValue_lt bs
    rw [pack, if_pos ⟨by positivity, by exact_mod_cast this⟩, Int.toNat_natCast, leBytes_leValue]

/-- `struct.pack("<I", 0x11223344)` and `struct.unpack("<I", "\x44\x33\x22\x11")`. -/
theorem pack_round_trip_dword :
    (∃ bs, pack (.valueError "argument out of range") 4 0x11223344 = .ok bs ∧ bs.length = 4 ∧
      (leValue bs : Int) = 0x11223344) ∧
      pack (.valueError "argument out of range") [0x44, 0x33, 0x22, 0x11].length
        (leValue [0x44, 0x33, 0x22, 0x11]) = .ok [0x44, 0x33, 0x22, 0x11] :=
  ⟨(pack_round_trip _).1 4 0x11223344 (by decide) (by decide), (pack_round_trip _).2 _⟩

section Fixed

variable {σ : Type} (write_memory : σ → Int → List UInt8 → Except PyExc σ) (packError : PyExc)

/-- `self.write_memory(addr, struct.pack(fmt, value))` at width `w`, on the memory `s`. -/
def writePacked (w : Nat) (s : σ) (addr value : Int) : Except PyExc σ := do
  let data ← pack packError w value
  write_memory s addr data

/-- `write_byte`: `struct.pack("<B", byte)`. -/
def write_byte : σ → Int → Int → Except PyExc σ := writePacked write_memory packError 1

/-- `write_word`: `struct.pack("<H", word)`. -/
def write_word : σ → Int → Int → Except PyExc σ := writePacked write_memory packError 2

/-- `write_dword`: `struct.pack("<I", dword)`. -/
def write_dword : σ → Int → Int → Except PyExc σ := writePacked write_memory packError 4

/-- `write_qword`: `struct.pack("<Q", qword)`. -/
def write_qword : σ → Int → Int → Except PyExc σ := writePacked write_memory packError 8

/-- A value out of range raises `struct.error` and `write_memory` is not called. -/
theorem writePacked_out_of_range (w : Nat) (s : σ) (addr v : Int)
    (hv : ¬ (0 ≤ v ∧ v < 256 ^ w)) :
    writePacked write_memory packError w s addr v = .error packError := by
  simp [writePacked, pack, hv]

theorem writePacked_ok (w : Nat) (s : σ) (addr v : Int) (hv : 0 ≤ v ∧ v < 256 ^ w) :
    writePacked write_memory packError w s addr v = write_memory s addr (leBytes w v.toNat) := by
  simp [writePacked, pack, hv]

end Fixed

/-! ## The current process -/

/-- `CurrentProcess.write_memory(addr, data)`:
    `(c_char * len(data)).from_address(addr)[:len(data)] = data`, in place; it returns
    `True`. -/
def CurrentProcess.write_memory (m : Int → UInt8) (addr : Int) (data : List UInt8) :
    Int → UInt8 :=
  fun a => if addr ≤ a then (data[(a - addr).toNat]?).getD (m a) else m a

theorem current_write_at (m : Int → UInt8) (addr : Int) (data : List UInt8) (i : Nat)
    (hi : i < data.length) :
    CurrentProcess.write_memory m addr data (addr + i) = data[i] := by
  simp [CurrentProcess.write_memory, List.getElem?_eq_getElem hi]

/-- The written range reads back as the data. -/
theorem slice_write (m : Int → UInt8) (addr : Int) (data : List UInt8) :
    slice (CurrentProcess.write_memory m addr data) addr data.length = data :=
  List.ext_getElem (length_slice _ _ _) fun i hi _ => by
    rw [getElem_slice, current_write_at _ _ _ i (by simpa [length_slice] using hi)]

/-- Every address outside the written range keeps its byte. -/
theorem current_write_frame (m : Int → UInt8) (addr : Int) (data : List UInt8) (a : Int)
    (ha : a < addr ∨ addr + data.length ≤ a) : CurrentProcess.write_memory m addr data a = m a := by
  unfold CurrentProcess.write_memory
  split_ifs with h
  · rw [List.getElem?_eq_none (by omega), Option.getD_none]
  · rfl

/-- The two parts of a written range read back as the two parts of the data. -/
theorem slice_write_append (m : Int → UInt8) (addr : Int) (s r : List UInt8) :
    slice (CurrentProcess.write_memory m addr (s ++ r)) addr s.length = s ∧
      slice (CurrentProcess.write_memory m addr (s ++ r)) (addr + s.length) r.length = r := by
  have h := slice_write m addr (s ++ r)
  rw [List.length_append, slice_add] at h
  exact List.append_inj h (length_slice _ _ _)

/-- In the current process a write of a value in range at width `w` stores it: a read of `w`
    bytes at the address unpacks to the value, and every other address keeps its byte. -/
theorem write_read_current (packError : PyExc) (w : Nat) (m : Int → UInt8) (addr v : Int)
    (hv : 0 ≤ v ∧ v < 256 ^ w) :
    ∃ m', writePacked (fun m a d => .ok (CurrentProcess.write_memory m a d)) packError w m addr v =
        .ok m' ∧
      leValue <$> CurrentProcess.read_memory m' addr w = .ok v.toNat ∧
      ∀ a, a < addr ∨ addr + w ≤ a → m' a = m a := by
  refine ⟨_, writePacked_ok _ _ w m addr v hv, ?_, fun a ha => ?_⟩
  · have hslice := slice_write m addr (leBytes w v.toNat)
    rw [length_leBytes] at hslice
    simp only [CurrentProcess.read_memory, hslice, Functor.map, Except.map,
      leValue_leBytes_toNat hv]
  · exact current_write_frame _ _ _ a (by simpa using ha)

/-- `write_dword` of `0x11223344`, then `read_dword` at the same address (the exception given
    for `struct.error` is not raised). -/
theorem write_read_current_dword :
    ∃ m', write_dword (fun m a d => .ok (CurrentProcess.write_memory m a d))
        (.valueError "argument out of range") (fun _ => 0) 0x1000 0x11223344 = .ok m' ∧
      read_dword (CurrentProcess.read_memory m') 0x1000 = .ok 0x11223344 ∧
      ∀ a, a < 0x1000 ∨ 0x1000 + 4 ≤ a → m' a = 0 :=
  write_read_current _ 4 _ _ _ (by decide)

/-! ## Strings written and read back -/

/-- In the current process, `read_string` of a string that `write_memory` stored with its
    terminating zero byte returns the string, however many chunks it spans. -/
theorem write_read_string (m : Int → UInt8) (addr : Int) (s : List UInt8) (hs : (0 : UInt8) ∉ s)
    (fuel : Nat) (hfuel : s.length / 0x100 < fuel) :
    read_string (CurrentProcess.read_memory (CurrentProcess.write_memory m addr (s ++ [0])))
      addr fuel = some (.ok s) := by
  obtain ⟨hpre, hzero⟩ := slice_write_append m addr s [0]
  rw [List.length_singleton, slice_succ] at hzero
  rw [current_read_memory_eq _ (.valueError ""), read_string_image
    (bytes_total _ addr s.length) (by rwa [hpre]) (by simp [total, (List.cons.inj hzero).1])
    hfuel, bytes_total, Option.isSome_some, if_pos rfl, hpre]

/-- `write_memory` of `a b` and a zero byte, then `read_string` there. -/
theorem write_read_string_ab :
    read_string (CurrentProcess.read_memory (CurrentProcess.write_memory (fun _ => 0x41) 0x2000
      ([97, 98] ++ [0]))) 0x2000 1 = some (.ok [97, 98]) :=
  write_read_string _ _ [97, 98] (by decide) 1 (by decide)

/-- In the current process, `read_wstring` of well-formed UTF-16LE bytes whose first unit is
    not `0xFFFE`, which `write_memory` stored with a terminating zero unit, returns their code
    units, less a first `0xFEFF`. -/
theorem write_read_wstring (m : Int → UInt8) (addr : Int) (t : List UInt8)
    (heven : t.length % 2 = 0) (hnz : 0 ∉ units t) (hwf : Utf16WF (units t))
    (hne : (units t).head? ≠ some 0xFFFE) (fuel : Nat) (hfuel : t.length / 0x100 < fuel) :
    read_wstring (CurrentProcess.read_memory (CurrentProcess.write_memory m addr (t ++ [0, 0])))
      addr fuel =
        some (.ok (if (units t).head? = some 0xFEFF then (units t).tail else units t)) := by
  obtain ⟨j, hj⟩ : ∃ j, t.length = 2 * j := ⟨t.length / 2, by omega⟩
  obtain ⟨hpre, hzero⟩ := slice_write_append m addr t [0, 0]
  rw [hj] at hpre hzero hfuel
  rw [current_read_memory_eq _ (.valueError ""), read_wstring_image (bytes_total _ addr (2 * j))
    (by rwa [hpre]) (by rw [bytes_total]; exact congrArg some hzero) hfuel, bytes_total,
    Option.isSome_some, if_pos rfl, hpre, utf16_decode_units heven hwf hne]

/-- `write_memory` of `FF FE 41 00` and a zero unit: `read_wstring` returns `[0x41]`, the
    `0xFEFF` written first gone. -/
theorem write_read_wstring_bom :
    read_wstring (CurrentProcess.read_memory (CurrentProcess.write_memory (fun _ => 0) 0x2000
      ([0xFF, 0xFE, 0x41, 0] ++ [0, 0]))) 0x2000 1 = some (.ok [0x41]) := by
  have hu : units [0xFF, 0xFE, 0x41, 0] = [0xFEFF, 0x41] := by decide
  have h := write_read_wstring (fun _ => 0) 0x2000 [0xFF, 0xFE, 0x41, 0] (by decide) (by decide)
    (by rw [hu]; exact .single (by decide) (.single (by decide) .nil)) (by decide) 1 (by decide)
  simpa [hu] using h

/-! ## A target process -/

/-- `WinProcess.write_memory(addr, data)`: `WriteProcessMemory(self.handle, addr, data)`,
    whatever the bitnesses. The bytes land when every address of the range is `writable` in
    the target; otherwise the thunk raises `Kernel32Error`. -/
def WinProcess.write_memory (writable : Int → Bool) (m : Image) (addr : Int) (data : List UInt8) :
    Except PyExc Image :=
  if ∀ i < data.length, writable (addr + i) then
    .ok fun a => if addr ≤ a then (data[(a - addr).toNat]?).elim (m a) some else m a
  else .error (.kernel32Error "WriteProcessMemory")

/-- A range whose every address holds the byte of `bs` at its offset reads as `bs`. -/
theorem bytes_eq_some (m : Image) (bs : List UInt8) :
    ∀ a : Int, (∀ i (hi : i < bs.length), m (a + i) = some bs[i]) →
      m.bytes a bs.length = some bs := by
  induction bs with
  | nil => exact fun _ _ => rfl
  | cons b bs ih =>
    intro a h
    have h0 : m a = some b := by simpa using h 0 (by simp)
    have ht : m.bytes (a + 1) bs.length = some bs := ih (a + 1) fun i hi => by
      have := h (i + 1) (by simpa using hi)
      rwa [List.getElem_cons_succ, Nat.cast_succ, ← add_assoc, add_right_comm] at this
    simp [bytes_succ, h0, ht]

/-- A write to a range the target lets it write stores the data there and keeps every other
    byte. -/
theorem remote_write_spec (writable : Int → Bool) (m : Image) (addr : Int) (data : List UInt8)
    (hw : ∀ i < data.length, writable (addr + i)) :
    ∃ m', WinProcess.write_memory writable m addr data = .ok m' ∧
      m'.bytes addr data.length = some data ∧
      ∀ a, a < addr ∨ addr + data.length ≤ a → m' a = m a := by
  refine ⟨_, if_pos (by simpa using hw), ?_, fun a ha => ?_⟩
  · simpa using bytes_eq_some _ data addr fun i hi => by simp [List.getElem?_eq_getElem hi]
  · split_ifs with h
    · rw [List.getElem?_eq_none (by omega), Option.elim_none]
    · rfl

/-- From a controller into a target of a bitness for which both go through the plain thunks,
    a write of a value in range at width `w` to addresses the target lets it write stores it:
    `read_memory` of `w` bytes there unpacks to the value, and every other address keeps its
    byte. -/
theorem write_read_remote (current target : Bitness) (ntdll : Bool) (ntFault : Int)
    (packError : PyExc) (writable : Int → Bool) (w : Nat) (m : Image) (addr v : Int)
    (hbits : ¬ (current = .b32 ∧ target = .b64)) (hv : 0 ≤ v ∧ v < 256 ^ w)
    (hw : ∀ i < w, writable (addr + i)) :
    ∃ m', writePacked (WinProcess.write_memory writable) packError w m addr v = .ok m' ∧
      leValue <$> WinProcess.read_memory current target ntdll ntFault m' addr w = .ok v.toNat ∧
      ∀ a, a < addr ∨ addr + w ≤ a → m' a = m a := by
  obtain ⟨m', hm', hbytes, hframe⟩ :=
    remote_write_spec writable m addr (leBytes w v.toNat) (by simpa using hw)
  rw [length_leBytes] at hbytes hframe
  refine ⟨m', (writePacked_ok _ _ w m addr v hv).trans hm', ?_, hframe⟩
  simp only [WinProcess.read_memory, hbits, if_false, imageRead, hbytes, Functor.map,
    Except.map, leValue_leBytes_toNat hv]

/-- `write_qword` into a 64-bit target from a 64-bit controller, then `read_qword` there. -/
theorem write_read_remote_qword :
    ∃ m', write_qword (WinProcess.write_memory fun _ => true) (.valueError "argument out of range")
        (fun _ => some 0) 0x7ff0000 0x1122334455667788 = .ok m' ∧
      read_qword (WinProcess.read_memory .b64 .b64 false 0 m') 0x7ff0000 =
        .ok 0x1122334455667788 ∧
      ∀ a, a < 0x7ff0000 ∨ 0x7ff0000 + 8 ≤ a → m' a = some 0 :=
  write_read_remote .b64 .b64 false 0 _ _ 8 _ _ _ (by decide) (by decide) fun _ _ => rfl

end PythonForWindows
