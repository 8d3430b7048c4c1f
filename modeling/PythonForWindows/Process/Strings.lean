import PythonForWindows.Process.Memory

/-
  `Process.read_string` and `Process.read_wstring`. Both read the target in chunks of
  `0x100` bytes at `addr + i * 0x100`, `i = 0, 1, …`, and stop at the chunk that holds the
  terminator; neither retries a smaller read when a chunk cannot be read. The chunk loops are
  run generically (`read_string_chunks`); `read_string_image` then says what a whole call
  does on an image whose string is readable up to its terminator `z = addr + n`: with
  `k = n / 0x100`, it returns the string when the whole chunk `k` is readable, and raises
  the read's exception otherwise, even though every byte of the string was readable.
-/

namespace PythonForWindows

section ReadString

variable (read_memory : Int → Nat → Except PyExc (List UInt8)) (addr : Int)

/-- One pass of `read_string`'s `for i in itertools.count()`; `res` holds the chunks read. -/
def read_string_body :
    Nat × List (List UInt8) → Except PyExc ((Nat × List (List UInt8)) ⊕ List UInt8)
  | (i, res) => do
    let x ← read_memory (addr + i * 0x100) 0x100
    if (0 : UInt8) ∈ x then
      pure (.inr (res ++ [x.takeWhile (· != 0)]).flatten)
    else
      pure (.inl (i + 1, res ++ [x]))

/-- `Process.read_string(addr)`, for at most `fuel` chunks. -/
def read_string (fuel : Nat) : Option (Except PyExc (List UInt8)) :=
  loop (read_string_body read_memory addr) fuel (0, [])

variable {read_memory addr}

/-- `k` chunks without a zero byte are read one after the other. -/
theorem read_string_chunks (c : Nat → List UInt8) (k fuel : Nat)
    (hc : ∀ i < k, read_memory (addr + i * 0x100) 0x100 = .ok (c i) ∧ (0 : UInt8) ∉ c i) :
    read_string read_memory addr (fuel + k) =
      loop (read_string_body read_memory addr) fuel (k, (List.range k).map c) := by
  refine loop_iterate (fun i => (i, (List.range i).map c)) k fun i hi => ?_
  simp [read_string_body, (hc i hi).1, (hc i hi).2, List.range_succ]

/-- The chunk that holds a zero byte ends the loop with what came before that byte. -/
theorem read_string_last {k fuel : Nat} {res : List (List UInt8)} {x : List UInt8}
    (hx : read_memory (addr + k * 0x100) 0x100 = .ok x) (h0 : (0 : UInt8) ∈ x) :
    loop (read_string_body read_memory addr) (fuel + 1) (k, res) =
      some (.ok (res.flatten ++ x.takeWhile (· != 0))) :=
  loop_break (by simp [read_string_body, hx, h0])

theorem read_string_raise {k fuel : Nat} {res : List (List UInt8)} {e : PyExc}
    (hx : read_memory (addr + k * 0x100) 0x100 = .error e) :
    loop (read_string_body read_memory addr) (fuel + 1) (k, res) = some (.error e) :=
  loop_raise (by simp [read_string_body, hx])

end ReadString

/-! ## Strings in an image -/

theorem takeWhile_ne_zero {s rest : List UInt8} (hs : (0 : UInt8) ∉ s) :
    (s ++ 0 :: rest).takeWhile (· != 0) = s := by
  rw [List.takeWhile_append_of_pos (fun a ha => by simpa using ne_of_mem_of_not_mem ha hs),
    List.takeWhile_cons_of_neg (by simp), List.append_nil]

theorem flatten_chunks (s : List UInt8) (k : Nat) :
    ((List.range k).map fun i => (s.drop (i * 0x100)).take 0x100).flatten =
      s.take (k * 0x100) := by
  induction k with
  | zero => simp
  | succ k ih =>
    rw [List.range_succ, List.map_append, List.flatten_append, ih, Nat.succ_mul, List.take_add]
    simp

/-- The chunks of `[addr, addr + n)` that end before `n`. -/
theorem bytes_chunk {m : Image} {addr : Int} {n : Nat} {s : List UInt8}
    (hs : m.bytes addr n = some s) {i : Nat} (hi : i * 0x100 + 0x100 ≤ n) :
    m.bytes (addr + (i * 0x100 : Nat)) 0x100 = some ((s.drop (i * 0x100)).take 0x100) := by
  obtain ⟨-, h⟩ := bytes_split (p := i * 0x100) (q := n - i * 0x100)
    (by rwa [Nat.add_sub_cancel' (by omega)])
  exact (bytes_split (p := 0x100) (q := n - i * 0x100 - 0x100)
    (by rwa [Nat.add_sub_cancel' (by omega)])).1

/-- The chunk that holds the terminator `z` (ending in that chunk): what the string has left,
    `z`, then more. -/
theorem bytes_last_chunk {m : Image} {addr : Int} {n w : Nat} {s z x : List UInt8}
    (hs : m.bytes addr n = some s) (hz : m.bytes (addr + n) w = some z)
    (hw : n % 0x100 + w ≤ 0x100)
    (hx : m.bytes (addr + (n / 0x100 * 0x100 : Nat)) 0x100 = some x) :
    ∃ rest, x = s.drop (n / 0x100 * 0x100) ++ z ++ rest := by
  have hk : n / 0x100 * 0x100 + n % 0x100 = n := Nat.div_add_mod' n 0x100
  obtain ⟨h1, h2⟩ := bytes_split (p := n % 0x100) (q := 0x100 - n % 0x100)
    (by rwa [Nat.add_sub_cancel' (by omega)])
  obtain ⟨-, h3⟩ := bytes_split (p := n / 0x100 * 0x100) (q := n % 0x100) (by rwa [hk])
  rw [show addr + ((n / 0x100 * 0x100 : Nat) : Int) + ((n % 0x100 : Nat) : Int) = addr + n by
    rw [add_assoc, ← Nat.cast_add, hk]] at h2
  obtain ⟨h4, -⟩ := bytes_split (p := w) (q := 0x100 - n % 0x100 - w)
    (by rwa [Nat.add_sub_cancel' (by omega)])
  rw [h3, Option.some.injEq] at h1
  rw [hz, Option.some.injEq] at h4
  refine ⟨(x.drop (n % 0x100)).drop w, ?_⟩
  rw [h1, h4, List.append_assoc, List.take_append_drop, List.take_append_drop]

theorem imageRead_chunk (m : Image) (fault : PyExc) (addr : Int) (i n : Nat) :
    imageRead m fault (addr + i * 0x100) n = imageRead m fault (addr + (i * 0x100 : Nat)) n := by
  push_cast
  rfl

/-- What `read_string` does on an image whose string `s` is readable up to its terminator
    at `addr + n`: it reads `n / 0x100 + 1` chunks, and the last one decides. -/
theorem read_string_image {m : Image} {fault : PyExc} {addr : Int} {n : Nat} {s : List UInt8}
    (hs : m.bytes addr n = some s) (hnz : (0 : UInt8) ∉ s) (hz : m (addr + n) = some 0)
    {fuel : Nat} (hfuel : n / 0x100 < fuel) :
    read_string (imageRead m fault) addr fuel =
      some (if (m.bytes (addr + (n / 0x100 * 0x100 : Nat)) 0x100).isSome then .ok s
        else .error fault) := by
  obtain ⟨f, rfl⟩ : ∃ f, fuel = (f + 1) + n / 0x100 := ⟨fuel - n / 0x100 - 1, by omega⟩
  rw [read_string_chunks (fun i => (s.drop (i * 0x100)).take 0x100) (n / 0x100) (f + 1)
    fun i hi => ⟨by rw [imageRead_chunk, imageRead, bytes_chunk hs (by omega)],
      fun h => hnz (List.mem_of_mem_drop (List.mem_of_mem_take h))⟩]
  cases hx : m.bytes (addr + (n / 0x100 * 0x100 : Nat)) 0x100 with
  | none =>
    exact read_string_raise (by rw [imageRead_chunk, imageRead, hx])
  | some x =>
    obtain ⟨rest, rfl⟩ := bytes_last_chunk hs (w := 1) (z := [0])
      (by simp [Image.bytes, hz]) (by omega) hx
    rw [read_string_last (by rw [imageRead_chunk, imageRead, hx]) (by simp), flatten_chunks,
      List.append_assoc, List.singleton_append, takeWhile_ne_zero
      (fun h => hnz (List.mem_of_mem_drop h)), List.take_append_drop]
    rfl

/-! ## `read_wstring` -/

/-- `zip(*[iter(x)] * 2)` with each pair joined: the two-byte strings of `x`, in order (an
    odd last byte is dropped). -/
def utf16_chars : List UInt8 → List (List UInt8)
  | a :: b :: rest => [a, b] :: utf16_chars rest
  | _ => []

/-- The little-endian code units of a byte string: `u_k = s[2k] + 256 * s[2k+1]`. -/
def units (s : List UInt8) : List Nat := (utf16_chars s).map leValue

/-- A code unit of two bytes, in the byte order the decoder settled on. -/
def codeUnit (bigEndian : Bool) (b0 b1 : UInt8) : Nat :=
  if bigEndian then b0.toNat * 256 + b1.toNat else b1.toNat * 256 + b0.toNat

/-- The loop of Python 2's `PyUnicode_DecodeUTF16Stateful` over the bytes after the BOM, on
    a narrow build (Windows): a code unit outside the surrogates is kept, a high surrogate
    must be followed by a low one and both are kept, anything else raises. -/
def decodeUnits (bigEndian : Bool) : List UInt8 → Except PyExc (List Nat)
  | [] => .ok []
  | [_] => .error (.unicodeDecodeError "truncated data")
  | b0 :: b1 :: rest =>
    let ch := codeUnit bigEndian b0 b1
    if ch < 0xD800 ∨ 0xDFFF < ch then (ch :: ·) <$> decodeUnits bigEndian rest
    else
      match rest with
      | c0 :: c1 :: rest' =>
        if ch ≤ 0xDBFF then
          let ch2 := codeUnit bigEndian c0 c1
          if 0xDC00 ≤ ch2 ∧ ch2 ≤ 0xDFFF then
            (fun us => ch :: ch2 :: us) <$> decodeUnits bigEndian rest'
          else .error (.unicodeDecodeError "illegal UTF-16 surrogate")
        else .error (.unicodeDecodeError "illegal encoding")
      | _ => .error (.unicodeDecodeError "unexpected end of data")

/-- `s.decode('utf16')` on a little-endian host: a first unit `0xFEFF` is a BOM, dropped, and
    keeps the order little-endian; `0xFFFE` is a BOM, dropped, and switches to big-endian;
    otherwise the bytes are read little-endian. -/
def utf16_decode (s : List UInt8) : Except PyExc (List Nat) :=
  match s with
  | b0 :: b1 :: rest =>
    if codeUnit false b0 b1 = 0xFEFF then decodeUnits false rest
    else if codeUnit false b0 b1 = 0xFFFE then decodeUnits true rest
    else decodeUnits false s
  | _ => decodeUnits false s

section ReadWString

variable (read_memory : Int → Nat → Except PyExc (List UInt8)) (addr : Int)

/-- One pass of `read_wstring`'s loop: a chunk without a zero pair goes into `res` byte by
    byte, the one with a zero pair pair by pair, up to that pair. -/
def read_wstring_body :
    Nat × List (List UInt8) → Except PyExc ((Nat × List (List UInt8)) ⊕ List (List UInt8))
  | (i, res) => do
    let x ← read_memory (addr + i * 0x100) 0x100
    let chars := utf16_chars x
    if [0, 0] ∈ chars then
      pure (.inr (res ++ chars.take (chars.indexOf [0, 0])))
    else
      pure (.inl (i + 1, res ++ x.map ([·])))

/-- `Process.read_wstring(addr)`, for at most `fuel` chunks: the loop, then
    `"".join(res).decode('utf16')`. -/
def read_wstring (fuel : Nat) : Option (Except PyExc (List Nat)) :=
  (loop (read_wstring_body read_memory addr) fuel (0, [])).map
    fun r => r >>= fun res => utf16_decode res.flatten

variable {read_memory addr}

theorem read_wstring_chunks (c : Nat → List UInt8) (k fuel : Nat)
    (hc : ∀ i < k,
      read_memory (addr + i * 0x100) 0x100 = .ok (c i) ∧ [0, 0] ∉ utf16_chars (c i)) :
    loop (read_wstring_body read_memory addr) (fuel + k) (0, []) =
      loop (read_wstring_body read_memory addr) fuel
        (k, ((List.range k).map c).flatten.map ([·])) := by
  refine loop_iterate (fun i => (i, ((List.range i).map c).flatten.map ([·]))) k
    fun i hi => ?_
  simp [read_wstring_body, (hc i hi).1, (hc i hi).2, List.range_succ]

theorem read_wstring_last {k fuel : Nat} {res : List (List UInt8)} {x : List UInt8}
    (hx : read_memory (addr + k * 0x100) 0x100 = .ok x) (h0 : [0, 0] ∈ utf16_chars x) :
    loop (read_wstring_body read_memory addr) (fuel + 1) (k, res) =
      some (.ok (res ++ (utf16_chars x).take ((utf16_chars x).indexOf [0, 0]))) :=
  loop_break (by simp [read_wstring_body, hx, h0])

theorem read_wstring_raise {k fuel : Nat} {res : List (List UInt8)} {e : PyExc}
    (hx : read_memory (addr + k * 0x100) 0x100 = .error e) :
    loop (read_wstring_body read_memory addr) (fuel + 1) (k, res) = some (.error e) :=
  loop_raise (by simp [read_wstring_body, hx])

end ReadWString

theorem utf16_chars_append :
    ∀ {x y : List UInt8}, x.length % 2 = 0 → utf16_chars (x ++ y) = utf16_chars x ++ utf16_chars y
  | [], _, _ => rfl
  | [_], _, hx => by simp at hx
  | a :: b :: rest, y, hx => by
    simp only [List.length_cons] at hx
    show [a, b] :: utf16_chars (rest ++ y) = _
    rw [utf16_chars_append (by omega)]
    rfl

theorem flatten_utf16_chars : ∀ {x : List UInt8}, x.length % 2 = 0 → (utf16_chars x).flatten = x
  | [], _ => rfl
  | [_], hx => by simp at hx
  | a :: b :: rest, hx => by
    simp only [List.length_cons] at hx
    simp [utf16_chars, flatten_utf16_chars (x := rest) (by omega)]

theorem length_utf16_chars : ∀ x : List UInt8, (utf16_chars x).length = x.length / 2
  | [] => rfl
  | [_] => by simp [utf16_chars]
  | a :: b :: rest => by simp [utf16_chars, length_utf16_chars rest]; omega

theorem leValue_pair_eq_zero (a b : UInt8) : leValue [a, b] = 0 ↔ a = 0 ∧ b = 0 := by
  simp only [leValue]
  constructor
  · intro h
    exact ⟨UInt8.toNat.inj (by simp; omega), UInt8.toNat.inj (by simp; omega)⟩
  · rintro ⟨rfl, rfl⟩; rfl

/-- A zero pair among the two-byte strings is a zero code unit. -/
theorem zero_mem_utf16_chars : ∀ x : List UInt8, [0, 0] ∈ utf16_chars x ↔ 0 ∈ units x
  | [] => by simp [utf16_chars, units]
  | [_] => by simp [utf16_chars, units]
  | a :: b :: rest => by
    have ih := zero_mem_utf16_chars rest
    simp only [units] at ih
    simp only [utf16_chars, units, List.mem_cons, List.map_cons, ih, eq_comm (a := 0),
      leValue_pair_eq_zero]
    simp [eq_comm]

theorem units_append {x y : List UInt8} (hx : x.length % 2 = 0) :
    units (x ++ y) = units x ++ units y := by
  simp [units, utf16_chars_append hx]

theorem indexOf_zero_pair (r : List (List UInt8)) :
    ∀ {l : List (List UInt8)}, [0, 0] ∉ l → (l ++ [0, 0] :: r).indexOf [0, 0] = l.length
  | [], _ => by simp [List.indexOf_cons]
  | x :: l, h => by
    have hx : (x == [0, 0]) = false := beq_eq_false_iff_ne.2 fun e => h (e ▸ List.mem_cons_self _ _)
    rw [List.cons_append, List.indexOf_cons, hx,
      indexOf_zero_pair r fun h' => h (List.mem_cons_of_mem _ h')]
    rfl

theorem flatten_map_singleton (l : List UInt8) : (l.map ([·])).flatten = l := by
  induction l <;> simp [*]

/-- A part of `t` at an even offset has no zero unit when `t` has none. -/
theorem zero_not_mem_units_part {t : List UInt8} (hnz : 0 ∉ units t) {p q : Nat}
    (hp : p % 2 = 0) (hq : q % 2 = 0) (hpq : p + q ≤ t.length) :
    [0, 0] ∉ utf16_chars ((t.drop p).take q) := by
  rw [zero_mem_utf16_chars]
  intro h
  have ht : t = t.take p ++ ((t.drop p).take q ++ (t.drop p).drop q) := by simp
  rw [ht, units_append (by simp; omega), units_append (by simp; omega)] at hnz
  exact hnz (List.mem_append_right _ (List.mem_append_left _ h))

/-- What `read_wstring` does on an image whose string `t` (of `j` code units, none of them
    zero) is readable up to its zero unit: the chunk that holds that unit decides whether
    the bytes reach the decoder. -/
theorem read_wstring_image {m : Image} {fault : PyExc} {addr : Int} {j : Nat} {t : List UInt8}
    (ht : m.bytes addr (2 * j) = some t) (hnz : 0 ∉ units t)
    (hz : m.bytes (addr + (2 * j : Nat)) 2 = some [0, 0]) {fuel : Nat}
    (hfuel : 2 * j / 0x100 < fuel) :
    read_wstring (imageRead m fault) addr fuel =
      some (if (m.bytes (addr + (2 * j / 0x100 * 0x100 : Nat)) 0x100).isSome then utf16_decode t
        else .error fault) := by
  have hlen : t.length = 2 * j := bytes_length ht
  have hk : 2 * j / 0x100 * 0x100 ≤ 2 * j := Nat.div_mul_le_self _ _
  obtain ⟨f, rfl⟩ : ∃ f, fuel = (f + 1) + 2 * j / 0x100 := ⟨fuel - 2 * j / 0x100 - 1, by omega⟩
  simp only [read_wstring]
  rw [read_wstring_chunks (fun i => (t.drop (i * 0x100)).take 0x100) (2 * j / 0x100) (f + 1)
    fun i hi => ⟨by rw [imageRead_chunk, imageRead, bytes_chunk ht (by omega)],
      zero_not_mem_units_part hnz (by omega) (by omega) (by omega)⟩]
  cases hx : m.bytes (addr + (2 * j / 0x100 * 0x100 : Nat)) 0x100 with
  | none => rw [read_wstring_raise (by rw [imageRead_chunk, imageRead, hx])]; rfl
  | some x =>
    obtain ⟨rest, rfl⟩ := bytes_last_chunk ht hz (w := 2) (z := [0, 0])
      (by omega) hx
    have heven : (t.drop (2 * j / 0x100 * 0x100)).length % 2 = 0 := by simp; omega
    have hnot : [0, 0] ∉ utf16_chars (t.drop (2 * j / 0x100 * 0x100)) := by
      have := zero_not_mem_units_part hnz (p := 2 * j / 0x100 * 0x100)
        (q := 2 * j - 2 * j / 0x100 * 0x100) (by omega) (by omega) (by omega)
      rwa [List.take_of_length_le (by simp; omega)] at this
    have hchars : utf16_chars (t.drop (2 * j / 0x100 * 0x100) ++ [0, 0] ++ rest) =
        utf16_chars (t.drop (2 * j / 0x100 * 0x100)) ++ [0, 0] :: utf16_chars rest := by
      rw [List.append_assoc, utf16_chars_append heven]; rfl
    rw [read_wstring_last (by rw [imageRead_chunk, imageRead, hx]) (by rw [hchars]; simp), hchars,
      indexOf_zero_pair _ hnot, List.take_left' rfl]
    simp only [Option.map_some', Option.isSome_some, if_true, ok_bind, List.flatten_append,
      flatten_map_singleton, flatten_chunks, flatten_utf16_chars heven, List.take_append_drop]

/-! ## Decoding -/

/-- Well-formed UTF-16: a high surrogate is followed by a low one, and no low surrogate
    stands alone. -/
inductive Utf16WF : List Nat → Prop
  | nil : Utf16WF []
  | single {u : Nat} {us : List Nat} : (u < 0xD800 ∨ 0xDFFF < u) → Utf16WF us → Utf16WF (u :: us)
  | pair {hi lo : Nat} {us : List Nat} : 0xD800 ≤ hi → hi ≤ 0xDBFF → 0xDC00 ≤ lo → lo ≤ 0xDFFF →
      Utf16WF us → Utf16WF (hi :: lo :: us)

theorem utf16WF_cons {u : Nat} {us : List Nat} :
    Utf16WF (u :: us) ↔ ((u < 0xD800 ∨ 0xDFFF < u) ∧ Utf16WF us) ∨
      (0xD800 ≤ u ∧ u ≤ 0xDBFF ∧ ∃ lo us', us = lo :: us' ∧ 0xDC00 ≤ lo ∧ lo ≤ 0xDFFF ∧
        Utf16WF us') := by
  constructor
  · rintro (_ | ⟨h, hus⟩ | ⟨h1, h2, h3, h4, hus⟩)
    · exact .inl ⟨h, hus⟩
    · exact .inr ⟨h1, h2, _, _, rfl, h3, h4, hus⟩
  · rintro (⟨h, hus⟩ | ⟨h1, h2, lo, us', rfl, h3, h4, hus⟩)
    · exact .single h hus
    · exact .pair h1 h2 h3 h4 hus

theorem units_cons (b0 b1 : UInt8) (rest : List UInt8) :
    units (b0 :: b1 :: rest) = codeUnit false b0 b1 :: units rest := by
  simp [units, utf16_chars, leValue, codeUnit]
  omega

theorem decodeUnits_single {be : Bool} {b0 b1 : UInt8} (rest : List UInt8)
    (hs : codeUnit be b0 b1 < 0xD800 ∨ 0xDFFF < codeUnit be b0 b1) :
    decodeUnits be (b0 :: b1 :: rest) = (codeUnit be b0 b1 :: ·) <$> decodeUnits be rest := by
  rcases rest with _ | ⟨c0, _ | ⟨c1, rest'⟩⟩ <;> simp [decodeUnits, hs]

theorem decodeUnits_pair {be : Bool} {b0 b1 c0 c1 : UInt8} (rest : List UInt8)
    (h1 : 0xD800 ≤ codeUnit be b0 b1) (h2 : codeUnit be b0 b1 ≤ 0xDBFF)
    (h3 : 0xDC00 ≤ codeUnit be c0 c1) (h4 : codeUnit be c0 c1 ≤ 0xDFFF) :
    decodeUnits be (b0 :: b1 :: c0 :: c1 :: rest) =
      (fun us => codeUnit be b0 b1 :: codeUnit be c0 c1 :: us) <$> decodeUnits be rest := by
  have hs : ¬ (codeUnit be b0 b1 < 0xD800 ∨ 0xDFFF < codeUnit be b0 b1) := by omega
  simp [decodeUnits, hs, h2, h3, h4]

/-- Python 2's decoder gives back the code units of well-formed little-endian bytes. -/
theorem decodeUnits_units :
    ∀ {t : List UInt8}, t.length % 2 = 0 → Utf16WF (units t) → decodeUnits false t = .ok (units t)
  | [], _, _ => rfl
  | [_], h, _ => by simp at h
  | b0 :: b1 :: rest, h, hwf => by
    simp only [List.length_cons] at h
    rw [units_cons] at hwf ⊢
    rcases utf16WF_cons.1 hwf with ⟨hs, hr⟩ | ⟨h1, h2, lo, us, hus, h3, h4, hr⟩
    · rw [decodeUnits_single _ hs, decodeUnits_units (by omega) hr]
      rfl
    · match rest, hus, h with
      | c0 :: c1 :: rest', hus, h =>
        rw [units_cons, List.cons.injEq] at hus
        obtain ⟨rfl, rfl⟩ := hus
        simp only [List.length_cons] at h
        rw [decodeUnits_pair _ h1 h2 h3 h4, decodeUnits_units (by omega) hr, units_cons]
        rfl
      | [], hus, _ => simp [units, utf16_chars] at hus
      | [_], hus, _ => simp [units, utf16_chars] at hus

/-- `decode('utf16')` of well-formed little-endian bytes whose first unit is not `0xFFFE`: the
    code units, less a first `0xFEFF`, which it takes for a byte-order mark. -/
theorem utf16_decode_units {t : List UInt8} (h : t.length % 2 = 0) (hwf : Utf16WF (units t))
    (hne : (units t).head? ≠ some 0xFFFE) :
    utf16_decode t = .ok (if (units t).head? = some 0xFEFF then (units t).tail else units t) := by
  match t, h, hwf, hne with
  | [], _, _, _ => rfl
  | [_], h, _, _ => simp at h
  | b0 :: b1 :: rest, h, hwf, hne =>
    simp only [List.length_cons] at h
    rw [units_cons] at hwf hne ⊢
    simp only [List.head?_cons, Option.some.injEq, List.tail_cons] at hne ⊢
    by_cases hb : codeUnit false b0 b1 = 0xFEFF
    · have hr := ((utf16WF_cons.1 hwf).resolve_right (by omega)).2
      simp [utf16_decode, hb, decodeUnits_units (by omega) hr]
    · have hne' : codeUnit false b0 b1 ≠ 0xFFFE := fun e => hne (by rw [e])
      rw [if_neg hb, ← units_cons, ← decodeUnits_units (by simpa using h) (by rwa [units_cons])]
      simp [utf16_decode, hb, hne']

/-! ## The strings a process reads -/

/-- `read_string` returns `m[addr, z)`, `z = addr + n` the first zero byte at or after
    `addr`, after `n / 0x100 + 1` chunk reads, on every memory whose `read_memory` returns
    the bytes asked for. -/
theorem read_string_eq_scan (m : Int → UInt8) (read_memory : Int → Nat → Except PyExc (List UInt8))
    (hrm : ∀ a k, read_memory a k = .ok (slice m a k)) (addr : Int) (n : Nat)
    (hz : m (addr + n) = 0) (hmin : ∀ i < n, m (addr + i) ≠ 0) (fuel : Nat)
    (hfuel : n / 0x100 < fuel) :
    read_string read_memory addr fuel = some (.ok (slice m addr n)) := by
  obtain rfl : read_memory = imageRead (total m) (.valueError "") :=
    funext fun a => funext fun k => by rw [hrm, imageRead_total]
  have hnz : (0 : UInt8) ∉ slice m addr n := fun h => by
    obtain ⟨i, hi, he⟩ := List.mem_iff_getElem.1 h
    rw [getElem_slice] at he
    exact hmin i (by simpa [length_slice] using hi) he
  rw [read_string_image (bytes_total m addr n) hnz (by simp [total, hz]) hfuel, bytes_total]
  rfl

/-- On a readable memory, `read_wstring` returns the string's code units up to its first zero
    unit, less a first unit `0xFEFF`, when they are well-formed and the first is not
    `0xFFFE`. -/
theorem read_wstring_total (m : Int → UInt8) (fault : PyExc) (addr : Int) (j : Nat)
    (hnz : 0 ∉ units (slice m addr (2 * j)))
    (hz : m (addr + (2 * j : Nat)) = 0 ∧ m (addr + (2 * j : Nat) + 1) = 0)
    (hwf : Utf16WF (units (slice m addr (2 * j))))
    (hne : (units (slice m addr (2 * j))).head? ≠ some 0xFFFE) (fuel : Nat)
    (hfuel : 2 * j / 0x100 < fuel) :
    read_wstring (imageRead (total m) fault) addr fuel =
      some (.ok (if (units (slice m addr (2 * j))).head? = some 0xFEFF
        then (units (slice m addr (2 * j))).tail else units (slice m addr (2 * j)))) := by
  have hz' : (total m).bytes (addr + (2 * j : Nat)) 2 = some [0, 0] := by
    rw [bytes_total, slice_succ, slice_succ, hz.1, hz.2]; rfl
  rw [read_wstring_image (bytes_total m addr _) hnz hz' hfuel, bytes_total, Option.isSome_some,
    if_pos rfl, utf16_decode_units (by simp [length_slice]) hwf hne]

/-- `41 00`, then a zero unit, at address 0. -/
def wideA (a : Int) : UInt8 := if a = 0 then 0x41 else 0

theorem read_wstring_total_wideA :
    read_wstring (imageRead (total wideA) (.kernel32Error "ReadProcessMemory")) 0 1 =
      some (.ok [0x41]) := by
  have hu : units (slice wideA 0 (2 * 1)) = [0x41] := by decide
  have h := read_wstring_total wideA (.kernel32Error "ReadProcessMemory") 0 1 (by decide)
    (by decide) (by rw [hu]; exact .single (by decide) .nil) (by rw [hu]; decide) 1 (by decide)
  simpa [hu] using h

/-- `a b` and a zero byte at address 0. -/
def abMemory (a : Int) : UInt8 := if a = 0 then 97 else if a = 1 then 98 else 0

theorem read_string_eq_scan_ab :
    (∀ a k, CurrentProcess.read_memory abMemory a k = .ok (slice abMemory a k)) ∧
      abMemory (0 + (2 : Nat)) = 0 ∧ (∀ i < 2, abMemory (0 + (i : Nat)) ≠ 0) ∧ 2 / 0x100 < 1 ∧
      read_string (CurrentProcess.read_memory abMemory) 0 1 = some (.ok (slice abMemory 0 2)) :=
  ⟨fun _ _ => rfl, by decide, by decide, by decide,
    read_string_eq_scan abMemory _ (fun _ _ => rfl) 0 2 (by decide) (by decide) 1 (by decide)⟩

/-- The bytes `FF FE 41 00 00 00` at address 0: the code units `0xFEFF`, `0x41`, then a zero
    unit. -/
def bomMemory (a : Int) : UInt8 :=
  if a = 0 then 0xFF else if a = 1 then 0xFE else if a = 2 then 0x41 else 0

/-- On a string whose first code unit is `0xFEFF`, `read_wstring` drops that unit. -/
theorem read_wstring_drops_bom :
    units (slice bomMemory 0 4) = [0xFEFF, 0x41] ∧
      ∀ fuel, read_wstring (WinProcess.read_memory .b64 .b64 true 0 (total bomMemory)) 0
        (fuel + 1) = some (.ok [0x41]) := by
  refine ⟨by decide, fun fuel => ?_⟩
  have hrm : WinProcess.read_memory .b64 .b64 true 0 (total bomMemory) =
      imageRead (total bomMemory) (.kernel32Error "ReadProcessMemory") := rfl
  rw [hrm, read_wstring_image (j := 2) (bytes_total bomMemory 0 4) (by decide)
    (by rw [bytes_total]; decide) (by omega), bytes_total]
  rfl

/-- `a b`, then two zero bytes, at address 0; nothing after them is readable. -/
def abImage : Image := fun a =>
  if a = 0 then some 97 else if a = 1 then some 98 else if a = 2 ∨ a = 3 then some 0 else none

/-- `a b` is readable through its terminator, yet `read_string` raises: its first read
    asks for `0x100` bytes. -/
theorem read_string_overreads :
    abImage 0 = some 97 ∧ abImage 1 = some 98 ∧ abImage 2 = some 0 ∧
      ∀ fuel, read_string (WinProcess.read_memory .b64 .b64 true 0 abImage) 0 (fuel + 1) =
        some (.error (.kernel32Error "ReadProcessMemory")) := by
  refine ⟨rfl, rfl, rfl, fun fuel => ?_⟩
  have hrm : WinProcess.read_memory .b64 .b64 true 0 abImage =
      imageRead abImage (.kernel32Error "ReadProcessMemory") := rfl
  rw [hrm, read_string_image (n := 2) (s := [97, 98]) (by decide) (by decide) rfl (by omega),
    bytes_eq_none (i := 4) (by omega) rfl]
  rfl

/-- On a memory where some addresses cannot be read, `read_string` and `read_wstring` return
    the string exactly when the whole `0x100`-byte chunk that holds its terminator is
    readable, and raise the read's exception otherwise. -/
theorem read_strings_chunk_decides (m : Image) (fault : PyExc) (addr : Int) :
    (∀ n s, m.bytes addr n = some s → (0 : UInt8) ∉ s → m (addr + n) = some 0 →
      ∀ fuel, n / 0x100 < fuel → read_string (imageRead m fault) addr fuel =
        some (if (m.bytes (addr + (n / 0x100 * 0x100 : Nat)) 0x100).isSome then .ok s
          else .error fault)) ∧
    (∀ j t, m.bytes addr (2 * j) = some t → 0 ∉ units t →
      m.bytes (addr + (2 * j : Nat)) 2 = some [0, 0] →
      ∀ fuel, 2 * j / 0x100 < fuel → read_wstring (imageRead m fault) addr fuel =
        some (if (m.bytes (addr + (2 * j / 0x100 * 0x100 : Nat)) 0x100).isSome then utf16_decode t
          else .error fault)) :=
  ⟨fun _ _ hs hnz hz _ hf => read_string_image hs hnz hz hf,
    fun _ _ ht hnz hz _ hf => read_wstring_image ht hnz hz hf⟩

theorem read_strings_chunk_decides_ab :
    (abImage.bytes 0 2 = some [97, 98] ∧ (0 : UInt8) ∉ [97, 98] ∧ abImage (0 + (2 : Nat)) = some 0 ∧
      2 / 0x100 < 1 ∧
      read_string (imageRead abImage (.kernel32Error "ReadProcessMemory")) 0 1 =
        some (.error (.kernel32Error "ReadProcessMemory"))) ∧
    (abImage.bytes 0 (2 * 1) = some [97, 98] ∧ 0 ∉ units [97, 98] ∧
      abImage.bytes (0 + (2 * 1 : Nat)) 2 = some [0, 0] ∧ 2 * 1 / 0x100 < 1 ∧
      read_wstring (imageRead abImage (.kernel32Error "ReadProcessMemory")) 0 1 =
        some (.error (.kernel32Error "ReadProcessMemory"))) := by
  have hnone : abImage.bytes 0 0x100 = none := bytes_eq_none (i := 4) (by omega) rfl
  have h := read_strings_chunk_decides abImage (.kernel32Error "ReadProcessMemory") 0
  refine ⟨⟨by decide, by decide, rfl, by decide, ?_⟩,
    ⟨by decide, by decide, by decide, by decide, ?_⟩⟩
  · rw [h.1 2 [97, 98] (by decide) (by decide) rfl 1 (by decide)]
    simp [hnone]
  · rw [h.2 1 [97, 98] (by decide) (by decide) (by decide) 1 (by decide)]
    simp [hnone]

end PythonForWindows
