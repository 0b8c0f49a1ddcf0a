import Mathlib.Data.Nat.Digits

/-!
# The hardware id

`__init__` fills an empty `config.hardware_id` from `_get_hardware_id()`: the
`Serial` field of `/proc/cpuinfo` when it can read one, and otherwise the MAC
address `uuid.getnode()` written as six `'{:02x}'` groups joined by `:`, built
from the low byte up and then reversed.

The fallback is the canonical MAC spelling of the node: read back as six
groups of two lowercase hex digits, most significant first, it gives the
node's low 48 bits, so two nodes in the range of `uuid.getnode()` never share
an id.
-/

namespace FleetdAgent

/-- `str.isspace` on one character: CPython's whitespace set. -/
def pyIsSpace (c : Char) : Bool :=
  let n := c.toNat
  9 ≤ n && n ≤ 0xd || 0x1c ≤ n && n ≤ 0x20 || n == 0x85 || n == 0xa0 || n == 0x1680 ||
    0x2000 ≤ n && n ≤ 0x200a || n == 0x2028 || n == 0x2029 || n == 0x202f || n == 0x205f ||
    n == 0x3000

/-- `str.strip()` with no argument. -/
def pyStrip (s : String) : String :=
  (s.dropWhile pyIsSpace).dropRightWhile pyIsSpace

/-- The `try` block of `_get_hardware_id`, given the lines that iterating over
`/proc/cpuinfo` yields before it ends or raises (none when `open` raises): the
first line starting with `Serial` gives its text between the first and the
second `:`, stripped.  `none` when no line yielded starts with `Serial`, or
when that line has no `:` and the `IndexError` is caught. -/
def cpuinfoSerial (cpuinfo : List String) : Option String :=
  (cpuinfo.find? fun line => line.startsWith "Serial").bind fun line =>
    ((line.splitOn ":").get? 1).map pyStrip

/-- `'{:02x}'.format(v)` for `v ≥ 0`: the lowercase hex digits of `v`, padded
with zeros to two. -/
def formatHex02 (v : Nat) : String :=
  let digits := Nat.toDigits 16 v
  ⟨List.replicate (2 - digits.length) '0' ++ digits⟩

/-- The fallback of `_get_hardware_id` for `node = uuid.getnode()`: the bytes
`(node >> ele) & 0xff` for `ele` in `range(0, 8*6, 8)`, each formatted
`{:02x}`, reversed and joined with `:`. -/
def nodeHardwareId (node : Nat) : String :=
  ":".intercalate
    ((List.range' 0 6 8).map fun ele => formatHex02 ((node >>> ele) &&& 0xff)).reverse

/-- `_get_hardware_id()`. -/
def getHardwareId (cpuinfo : List String) (node : Nat) : String :=
  (cpuinfoSerial cpuinfo).getD (nodeHardwareId node)

/-! ## The hex-MAC form -/

/-- The value of a lowercase hex digit; `none` for any other character. -/
def lowerHexValue (c : Char) : Option Nat :=
  if '0' ≤ c ∧ c ≤ '9' then some (c.toNat - '0'.toNat)
  else if 'a' ≤ c ∧ c ≤ 'f' then some (c.toNat - 'a'.toNat + 10)
  else none

/-- The number that six colon-separated groups of two lowercase hex digits
spell, the first group most significant; `none` for any other string. -/
def readMacId (s : String) : Option Nat :=
  match s.toList with
  | [a1, a0, ':', b1, b0, ':', c1, c0, ':', d1, d0, ':', e1, e0, ':', f1, f0] =>
    [a1, a0, b1, b0, c1, c0, d1, d0, e1, e0, f1, f0].foldlM
      (fun acc c => (lowerHexValue c).map (acc * 16 + ·)) 0
  | _ => none

theorem lowerHexValue_digitChar : ∀ d < 16, lowerHexValue (Nat.digitChar d) = some d := by
  decide

/-- A byte is written as its two hex digits, the high half first. -/
theorem formatHex02_byte {v : Nat} (hv : v < 256) :
    formatHex02 v = ⟨[Nat.digitChar (v / 16), Nat.digitChar (v % 16)]⟩ := by
  by_cases hlow : v < 16
  · have hd : Nat.toDigits 16 v = [Nat.digitChar v] := by
      simp [Nat.toDigits, Nat.toDigitsCore, Nat.div_eq_of_lt hlow, Nat.mod_eq_of_lt hlow]
    simp [formatHex02, hd, Nat.div_eq_of_lt hlow, Nat.mod_eq_of_lt hlow, Nat.digitChar]
  · obtain ⟨k, rfl⟩ : ∃ k, v = k + 1 := ⟨v - 1, by omega⟩
    have hd : Nat.toDigits 16 (k + 1) =
        [Nat.digitChar ((k + 1) / 16), Nat.digitChar ((k + 1) % 16)] := by
      have hhigh : (k + 1) / 16 ≠ 0 := by omega
      have hlast : (k + 1) / 16 / 16 = 0 := by omega
      have hdigit : (k + 1) / 16 % 16 = (k + 1) / 16 := by omega
      simp [Nat.toDigits, Nat.toDigitsCore, hhigh, hlast, hdigit]
    simp [formatHex02, hd]

theorem shiftRight_land_0xff (n ele : Nat) : (n >>> ele) &&& 0xff = n / 2 ^ ele % 256 := by
  rw [Nat.shiftRight_eq_div_pow]
  exact Nat.and_pow_two_sub_one_eq_mod _ 8

/-- The fallback id character by character: byte `k` of the node is
`n / 2 ^ (8 * k) % 256`, and the bytes come most significant first. -/
theorem nodeHardwareId_toList (n : Nat) :
    (nodeHardwareId n).toList =
      let d := fun k => Nat.digitChar k
      let b := fun k => n / 2 ^ (8 * k) % 256
      [d (b 5 / 16), d (b 5 % 16), ':', d (b 4 / 16), d (b 4 % 16), ':',
        d (b 3 / 16), d (b 3 % 16), ':', d (b 2 / 16), d (b 2 % 16), ':',
        d (b 1 / 16), d (b 1 % 16), ':', d (b 0 / 16), d (b 0 % 16)] := by
  simp only [nodeHardwareId, shiftRight_land_0xff, List.range', List.map, List.reverse_cons,
    List.reverse_nil, List.nil_append, List.cons_append, List.singleton_append,
    formatHex02_byte (Nat.mod_lt _ (by omega : 256 > 0))]
  rfl

theorem digitPair_fold (acc b : Nat) : (acc * 16 + b / 16) * 16 + b % 16 = acc * 256 + b := by
  omega

/-- The fallback id reads back as the node's low 48 bits. -/
theorem readMacId_nodeHardwareId (n : Nat) :
    readMacId (nodeHardwareId n) = some (n % 0x1000000000000) := by
  have hd : ∀ b, lowerHexValue (Nat.digitChar (b % 256 / 16)) = some (b % 256 / 16) ∧
      lowerHexValue (Nat.digitChar (b % 256 % 16)) = some (b % 256 % 16) :=
    fun b => ⟨lowerHexValue_digitChar _ (by omega),
      lowerHexValue_digitChar _ (Nat.mod_lt _ (by omega))⟩
  rw [readMacId, nodeHardwareId_toList]
  simp only [List.foldlM, (hd _).1, (hd _).2, Option.map_some', Option.some_bind, Nat.reduceMul,
    Nat.reducePow, Option.pure_def, Option.bind_eq_bind, Option.some.injEq, digitPair_fold]
  omega

example : nodeHardwareId 0xb827eb123456 = "b8:27:eb:12:34:56" := by
  decide

/-- Whenever `_get_hardware_id` falls back to `uuid.getnode()`, a node below
`2 ^ 48` gives six colon-separated groups of two lowercase hex digits whose
big-endian value is the node, and no other such node gives the same id. -/
theorem fallback_hardware_id_reads_back (cpuinfo : List String)
    (hfallback : cpuinfoSerial cpuinfo = none) (n : Nat) (hn : n < 0x1000000000000) :
    readMacId (getHardwareId cpuinfo n) = some n ∧
      ∀ m < 0x1000000000000, getHardwareId cpuinfo m = getHardwareId cpuinfo n → m = n := by
  have hread : ∀ m < 0x1000000000000, readMacId (getHardwareId cpuinfo m) = some m := by
    intro m hm
    rw [getHardwareId, hfallback, Option.getD_none, readMacId_nodeHardwareId,
      Nat.mod_eq_of_lt hm]
  refine ⟨hread n hn, fun m hm heq => ?_⟩
  have hsame := hread m hm
  rw [heq, hread n hn] at hsame
  exact (Option.some.inj hsame).symm

theorem fallback_hardware_id_reads_back_without_cpuinfo :
    cpuinfoSerial [] = none ∧ 0xb827eb123456 < 0x1000000000000 ∧
      readMacId (getHardwareId [] 0xb827eb123456) = some 0xb827eb123456 ∧
      ∀ m < 0x1000000000000, getHardwareId [] m = getHardwareId [] 0xb827eb123456 →
        m = 0xb827eb123456 :=
  ⟨rfl, by decide, fallback_hardware_id_reads_back [] rfl 0xb827eb123456 (by decide)⟩

end FleetdAgent
