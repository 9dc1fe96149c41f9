import BufferSync.Region

/-!
# Little-endian numbers

A number is written as a fixed count of bytes, the least significant one first.  Every number that
is stored in a region goes through these two functions.  Writing and reading back gives the number
modulo the range of the width (`ofBytes_toBytes`), and reading and writing back gives the bytes
(`toBytes_ofBytes`).
-/

namespace BufferSync.LittleEndian

/-- The `width` least significant bytes of `n`, the lowest first. -/
def toBytes : Nat → Nat → Bytes
  | 0, _ => []
  | width + 1, n => UInt8.ofNat (n % 256) :: toBytes width (n / 256)

/-- The number with the given bytes, the lowest first. -/
def ofBytes : Bytes → Nat
  | [] => 0
  | b :: rest => b.toNat + 256 * ofBytes rest

/-- Numbers of `width` bytes stay below this one. -/
def limit : Nat → Nat
  | 0 => 1
  | width + 1 => 256 * limit width

@[simp] theorem length_toBytes (width n : Nat) : (toBytes width n).length = width := by
  induction width generalizing n with
  | zero => rfl
  | succ width ih => simp [toBytes, ih]

theorem ofBytes_toBytes (width n : Nat) : ofBytes (toBytes width n) = n % limit width := by
  induction width generalizing n with
  | zero => simp [toBytes, ofBytes, limit, Nat.mod_one]
  | succ width ih =>
    have h : n % 256 % 2 ^ 8 = n % 256 := Nat.mod_eq_of_lt (Nat.mod_lt n (by decide))
    rw [toBytes, ofBytes, ih, UInt8.toNat_ofNat', h, limit, Nat.mod_mul]

theorem ofBytes_toBytes_of_lt {width n : Nat} (h : n < limit width) :
    ofBytes (toBytes width n) = n := by
  rw [ofBytes_toBytes, Nat.mod_eq_of_lt h]

theorem ofBytes_lt (bytes : Bytes) : ofBytes bytes < limit bytes.length := by
  induction bytes with
  | nil => simp [ofBytes, limit]
  | cons b rest ih =>
    have hb : b.toNat < 256 := b.toNat_lt
    rw [ofBytes, List.length_cons, limit]
    omega

theorem toBytes_ofBytes (bytes : Bytes) : toBytes bytes.length (ofBytes bytes) = bytes := by
  induction bytes with
  | nil => rfl
  | cons b rest ih =>
    have hb : b.toNat < 256 := b.toNat_lt
    rw [List.length_cons, toBytes, ofBytes, Nat.add_mul_mod_self_left, Nat.mod_eq_of_lt hb,
      UInt8.ofNat_toNat, Nat.add_mul_div_left _ _ (by decide), Nat.div_eq_of_lt hb,
      Nat.zero_add, ih]

end BufferSync.LittleEndian
