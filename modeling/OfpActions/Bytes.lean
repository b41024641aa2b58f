import Mathlib.Data.List.GetD
import Mathlib.Algebra.Order.Ring.Nat

/-!
# Bytes — big-endian fields of a wire buffer

Every multi-byte field on the wire is big-endian (spec §4.A): `ofp-actions.c`
reads a field with `ntohs`/`ntohl`/`ntohll` through a struct pointer cast over
the buffer, and writes one with `htons`/`htonl`/`htonll` into a struct that
`ofputil_put_*` appended zeroed. A buffer is a `List UInt8` and a pointer into
it is the suffix that starts there. `getBE l off w` is the `w`-byte field at
offset `off`; `toBE w n` is the `w` bytes stored for `n`, truncated to the
field's width as the C conversions truncate.

A read past the end of the list sees `0`. Nothing in the codec depends on that
value: `Walk` proves that every read lies inside the record being decoded.
-/

namespace OfpActions

/-- The `w`-byte big-endian field at offset `off` of `l`. -/
def getBE (l : List UInt8) (off : Nat) : Nat → Nat
  | 0 => 0
  | w + 1 => 256 ^ w * (l.getD off 0).toNat + getBE l (off + 1) w

/-- The `w` big-endian bytes of `n % 256 ^ w`. -/
def toBE : Nat → Nat → List UInt8
  | 0, _ => []
  | w + 1, n => UInt8.ofNat (n / 256 ^ w) :: toBE w n

/-- `n` zero bytes: `ofpbuf_put_zeros`, and the pad of a struct put zeroed. -/
def zeros (n : Nat) : List UInt8 := List.replicate n 0

/-- The `n` bytes at offset `off`: what `memcpy` copies out of the buffer. -/
def rdBytes (l : List UInt8) (off n : Nat) : List UInt8 :=
  (List.range n).map fun i => l.getD (off + i) 0

/-! ## Machine-width fields

`rdN` is `ntohN` of the field at an offset, `wrN` the bytes `htonN` stores. -/

def rd8 (l : List UInt8) (off : Nat) : UInt8 := UInt8.ofNat (getBE l off 1)
def rd16 (l : List UInt8) (off : Nat) : UInt16 := UInt16.ofNat (getBE l off 2)
def rd32 (l : List UInt8) (off : Nat) : UInt32 := UInt32.ofNat (getBE l off 4)
def rd64 (l : List UInt8) (off : Nat) : UInt64 := UInt64.ofNat (getBE l off 8)

def wr8 (x : UInt8) : List UInt8 := toBE 1 x.toNat
def wr16 (x : UInt16) : List UInt8 := toBE 2 x.toNat
def wr32 (x : UInt32) : List UInt8 := toBE 4 x.toNat
def wr64 (x : UInt64) : List UInt8 := toBE 8 x.toNat

/-! ## Reading what was written -/

theorem byte_lt (b : UInt8) : b.toNat < 256 := b.toBitVec.isLt

theorem pow256_pos (w : Nat) : 0 < 256 ^ w := Nat.pos_pow_of_pos w (by decide)

@[simp] theorem toBE_length (w n : Nat) : (toBE w n).length = w := by
  induction w with
  | zero => rfl
  | succ w ih => simp [toBE, ih]

@[simp] theorem zeros_length (n : Nat) : (zeros n).length = n := List.length_replicate _ _

@[simp] theorem rdBytes_length (l : List UInt8) (off n : Nat) : (rdBytes l off n).length = n := by
  simp [rdBytes]

@[simp] theorem wr8_length (x : UInt8) : (wr8 x).length = 1 := toBE_length _ _
@[simp] theorem wr16_length (x : UInt16) : (wr16 x).length = 2 := toBE_length _ _
@[simp] theorem wr32_length (x : UInt32) : (wr32 x).length = 4 := toBE_length _ _
@[simp] theorem wr64_length (x : UInt64) : (wr64 x).length = 8 := toBE_length _ _

theorem getBE_lt (l : List UInt8) (off w : Nat) : getBE l off w < 256 ^ w := by
  induction w generalizing off with
  | zero => simp [getBE]
  | succ w ih =>
    have hb : 256 ^ w * (l.getD off 0).toNat ≤ 256 ^ w * 255 :=
      Nat.mul_le_mul_left _ (by have := byte_lt (l.getD off 0); omega)
    have := ih (off + 1)
    rw [getBE, Nat.pow_succ]
    omega

theorem getBE_cons_succ (b : UInt8) (l : List UInt8) (off w : Nat) :
    getBE (b :: l) (off + 1) w = getBE l off w := by
  induction w generalizing off with
  | zero => rfl
  | succ w ih => simp only [getBE, List.getD_cons_succ, ih]

/-- A field that ends inside `l` does not see what follows `l`. -/
theorem getBE_append_left {l r : List UInt8} {off w : Nat} (h : off + w ≤ l.length) :
    getBE (l ++ r) off w = getBE l off w := by
  induction w generalizing off with
  | zero => rfl
  | succ w ih =>
    simp only [getBE, List.getD_append _ _ _ _ (by omega : off < l.length),
      ih (show off + 1 + w ≤ l.length by omega)]

/-- A field that starts after `l` reads from what follows it. -/
theorem getBE_append_right {l r : List UInt8} {off w : Nat} (h : l.length ≤ off) :
    getBE (l ++ r) off w = getBE r (off - l.length) w := by
  induction w generalizing off with
  | zero => rfl
  | succ w ih =>
    simp only [getBE, List.getD_append_right _ _ _ _ h, ih (by omega : l.length ≤ off + 1)]
    rw [Nat.sub_add_comm h]

theorem getBE_toBE_append (w n : Nat) (r : List UInt8) :
    getBE (toBE w n ++ r) 0 w = n % 256 ^ w := by
  induction w with
  | zero => simp [getBE, Nat.mod_one]
  | succ w ih =>
    simp only [toBE, getBE, List.cons_append, List.getD_cons_zero, getBE_cons_succ, ih]
    rw [Nat.mod_pow_succ, Nat.add_comm]
    rfl

theorem uint8_ofNat_mod (n : Nat) : UInt8.ofNat (n % 256) = UInt8.ofNat n :=
  UInt8.eq_of_toBitVec_eq (BitVec.eq_of_toNat_eq (by simp [UInt8.ofNat]))

@[simp] theorem uint8_ofNat_toNat (b : UInt8) : UInt8.ofNat b.toNat = b := by
  cases b; simp [UInt8.ofNat, UInt8.toNat]

theorem toBE_mod (w n : Nat) : toBE w (n % 256 ^ w) = toBE w n := by
  induction w generalizing n with
  | zero => rfl
  | succ w ih =>
    simp only [toBE]
    congr 1
    · rw [Nat.mod_pow_succ, Nat.add_mul_div_left _ _ (pow256_pos w),
        Nat.div_eq_of_lt (Nat.mod_lt _ (pow256_pos w)), Nat.zero_add, uint8_ofNat_mod]
    · rw [← ih (n % _), Nat.mod_mod_of_dvd _ (Nat.pow_dvd_pow 256 (Nat.le_succ w)), ih]

theorem getBE_toBE (w n : Nat) : getBE (toBE w n) 0 w = n % 256 ^ w := by
  simpa using getBE_toBE_append w n []

@[simp] theorem getBE_zeros (n off w : Nat) : getBE (zeros n) off w = 0 := by
  induction w generalizing off with
  | zero => rfl
  | succ w ih =>
    have h0 : (zeros n).getD off 0 = 0 := by
      simp only [zeros, List.getD_eq_getElem?_getD, List.getElem?_replicate]
      split <;> rfl
    simp only [getBE, h0, ih]
    rfl

@[simp] theorem uint16_ofNat_toNat (x : UInt16) : UInt16.ofNat x.toNat = x := by
  cases x; simp [UInt16.ofNat, UInt16.toNat]

@[simp] theorem uint32_ofNat_toNat (x : UInt32) : UInt32.ofNat x.toNat = x := by
  cases x; simp [UInt32.ofNat, UInt32.toNat]

@[simp] theorem uint64_ofNat_toNat (x : UInt64) : UInt64.ofNat x.toNat = x := by
  cases x; simp [UInt64.ofNat, UInt64.toNat]

@[simp] theorem getBE_wr8 (x : UInt8) : getBE (wr8 x) 0 1 = x.toNat := by
  rw [wr8, getBE_toBE]; exact Nat.mod_eq_of_lt x.toBitVec.isLt

@[simp] theorem getBE_wr16 (x : UInt16) : getBE (wr16 x) 0 2 = x.toNat := by
  rw [wr16, getBE_toBE]; exact Nat.mod_eq_of_lt x.toBitVec.isLt

@[simp] theorem getBE_wr32 (x : UInt32) : getBE (wr32 x) 0 4 = x.toNat := by
  rw [wr32, getBE_toBE]; exact Nat.mod_eq_of_lt x.toBitVec.isLt

@[simp] theorem getBE_wr64 (x : UInt64) : getBE (wr64 x) 0 8 = x.toNat := by
  rw [wr64, getBE_toBE]; exact Nat.mod_eq_of_lt x.toBitVec.isLt

/-- Writing back a field read from `l` gives the bytes it was read from. -/
theorem toBE_getBE {l : List UInt8} {off w : Nat} (h : off + w ≤ l.length) :
    toBE w (getBE l off w) = (l.drop off).take w := by
  induction w generalizing off with
  | zero => rfl
  | succ w ih =>
    have hr := getBE_lt l (off + 1) w
    rw [List.drop_eq_getElem_cons (by omega), List.take_succ_cons, ← ih (by omega), toBE, getBE,
      List.getD_eq_getElem _ _ (by omega)]
    congr 1
    · rw [Nat.mul_add_div (pow256_pos w), Nat.div_eq_of_lt hr, Nat.add_zero, uint8_ofNat_toNat]
    · rw [← toBE_mod w (_ + _), Nat.mul_add_mod, Nat.mod_eq_of_lt hr]

/-- A field that ends inside the first `n` bytes is the same in `l.take n`. -/
theorem getBE_take {l : List UInt8} {n off w : Nat} (h : off + w ≤ n) :
    getBE (l.take n) off w = getBE l off w := by
  by_cases hn : n ≤ l.length
  · have h' := @getBE_append_left (l.take n) (l.drop n) off w (by simp; omega)
    rwa [List.take_append_drop, eq_comm] at h'
  · rw [List.take_of_length_le (by omega)]

theorem rdBytes_append_left {l r : List UInt8} {off n : Nat} (h : off + n ≤ l.length) :
    rdBytes (l ++ r) off n = rdBytes l off n :=
  List.map_congr_left fun i hi =>
    List.getD_append _ _ _ _ (by simp at hi; omega)

theorem rdBytes_take {l : List UInt8} {n off k : Nat} (h : off + k ≤ n) :
    rdBytes (l.take n) off k = rdBytes l off k :=
  List.map_congr_left fun i hi => by
    simp only [List.getD_eq_getElem?_getD, List.getElem?_take]
    simp at hi
    rw [if_pos (by omega)]

/-- Bytes copied from inside `l` are the slice of `l` at that offset. -/
theorem rdBytes_eq_take_drop {l : List UInt8} {off n : Nat} (h : off + n ≤ l.length) :
    rdBytes l off n = (l.drop off).take n :=
  List.ext_getElem (by simp; omega) fun i h₁ _ => by
    have : off + i < l.length := by simp at h₁; omega
    simp [rdBytes, List.getD_eq_getElem?_getD, List.getElem?_eq_getElem this]

end OfpActions
