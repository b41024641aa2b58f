import Mathlib.Algebra.BigOperators.Group.List
import OfpActions.Laws
import OfpActions.Runs

/-!
# Canonical — wire lists that come back byte for byte

A wire record fixes more than its decoder reads: pad and reserved fields, the
`table` byte of a plain Nicira resubmit, the bytes after a `dec_ttl_cnt_ids`'s
ids. A record is canonical when those are zero and, for `dec_ttl_cnt_ids`, its
`len` is the one the encoder writes (spec §6.1). `Nxast.pads`, `Ofpat10.pads`,
`Ofpat11.pads` and `OvsInstructionType.pads` list the unread fields of each
struct, as (offset, width).

A record is written back field by field: the bytes of a record are the
big-endian fields it is cut into (`fieldsFrom_self`), so an encoder that writes
each field the decoder read, and zeros where the record is canonical, writes
the record again. The sub-codecs' records are their own, and one of them is
canonical when its encoder writes it back as it is.

An action list is written back record by record (`ofpactsPullActions_writes_back`).
An instruction list in canonical order is the list of instructions the encoder
writes for the instruction set the pull reads from it (`collectInsts_putOrder`,
`instructions_write_back`). Three lists of the spec's canonical form do not come
back, and `Dialect.Canonical` leaves them out: a write-actions instruction, a
Nicira `write_metadata` in a 1.1 action list, and without `_OFP_CENTEC_` a 1.1
`push_vlan` (`canonical_round_trip_exceptions`).
-/

namespace OfpActions

/-! ## A record as its fields -/

/-- The big-endian fields of `l` of widths `ws`, read from `off` on and laid
end to end. -/
def fieldsFrom (l : List UInt8) : Nat → List Nat → List UInt8
  | _, [] => []
  | off, w :: ws => toBE w (getBE l off w) ++ fieldsFrom l (off + w) ws

theorem fieldsFrom_eq_take_drop {l : List UInt8} {off : Nat} {ws : List Nat}
    (h : off + ws.sum ≤ l.length) : fieldsFrom l off ws = (l.drop off).take ws.sum := by
  induction ws generalizing off with
  | nil => simp [fieldsFrom]
  | cons w ws ih =>
    simp only [List.sum_cons] at h ⊢
    rw [fieldsFrom, toBE_getBE (by omega), ih (by omega), ← List.drop_drop, List.take_add]

theorem fieldsFrom_append (l : List UInt8) (off : Nat) (ws ws' : List Nat) :
    fieldsFrom l off (ws ++ ws') = fieldsFrom l off ws ++ fieldsFrom l (off + ws.sum) ws' := by
  induction ws generalizing off with
  | nil => simp [fieldsFrom]
  | cons w ws ih => simp [fieldsFrom, ih, Nat.add_assoc]

/-- A record is the fields it is cut into. -/
theorem fieldsFrom_self {l : List UInt8} {ws : List Nat} (h : ws.sum = l.length) :
    fieldsFrom l 0 ws = l := by
  rw [fieldsFrom_eq_take_drop (by omega), List.drop_zero, h, List.take_length]

theorem toBE_zero (w : Nat) : toBE w 0 = zeros w := by
  induction w with
  | zero => rfl
  | succ w ih => simp [toBE, ih, zeros, List.replicate_succ]

theorem wr8_rd8 (l : List UInt8) (off : Nat) : wr8 (rd8 l off) = toBE 1 (getBE l off 1) := by
  rw [wr8, rd8, UInt8.toNat_ofNat_of_lt (getBE_lt l off 1)]

theorem wr16_rd16 (l : List UInt8) (off : Nat) : wr16 (rd16 l off) = toBE 2 (getBE l off 2) := by
  rw [wr16, rd16, UInt16.toNat_ofNat_of_lt (getBE_lt l off 2)]

theorem wr32_rd32 (l : List UInt8) (off : Nat) : wr32 (rd32 l off) = toBE 4 (getBE l off 4) := by
  rw [wr32, rd32, UInt32.toNat_ofNat_of_lt (getBE_lt l off 4)]

theorem wr64_rd64 (l : List UInt8) (off : Nat) : wr64 (rd64 l off) = toBE 8 (getBE l off 8) := by
  rw [wr64, rd64, UInt64.toNat_ofNat_of_lt (getBE_lt l off 8)]

theorem rdEthAddr_bytes {l : List UInt8} {off : Nat} (h : off + 6 ≤ l.length) :
    (rdEthAddr l off).bytes = toBE 6 (getBE l off 6) := by
  rw [toBE_getBE h]
  exact rdBytes_eq_take_drop h

/-- The controller ids a `dec_ttl_cnt_ids` decoder reads, written back, are the
bytes they were read from. -/
theorem flatMap_wr16_rd16 (l : List UInt8) (n : Nat) :
    ∀ off, ((List.range n).map fun i => rd16 l (off + 2 * i)).flatMap wr16 =
      fieldsFrom l off (List.replicate n 2) := by
  induction n with
  | zero => intro; rfl
  | succ n ih =>
    intro off
    rw [List.range_succ_eq_map, List.map_cons, List.map_map, List.flatMap_cons, List.replicate_succ,
      fieldsFrom, Nat.mul_zero, Nat.add_zero, wr16_rd16, ← ih (off + 2)]
    congr 2
    exact List.map_congr_left fun i _ => show rd16 l (off + 2 * (i + 1)) = _ by congr 1; omega

/-- `nxm_encode_ofs_nbits` inverts the decoders on every 16-bit `ofs_nbits`. -/
theorem nxmEncodeOfsNbits_decode (v : Nat) :
    toBE 2 (nxmEncodeOfsNbits (nxmDecodeOfs v) (nxmDecodeNBits v)) = toBE 2 v := by
  have hm : v &&& 0x3f = v % 64 := Nat.and_pow_two_sub_one_eq_mod v 6
  rw [nxmEncodeOfsNbits, nxmDecodeOfs, nxmDecodeNBits, if_neg (Nat.succ_ne_zero _),
    Nat.add_sub_cancel, hm,
    shiftLeft_six_or (m := v % 64) (by omega), Nat.shiftRight_eq_div_pow]
  congr 1
  omega

/-- `ofputil_port_to_ofp11` gives back every 1.1 port `ofputil_port_from_ofp11`
accepts. -/
theorem ofputilPortToOfp11_fromOfp11 {p : UInt32} {port : UInt16}
    (h : ofputilPortFromOfp11 p = .ok port) : ofputilPortToOfp11 port = p := by
  have hp : p.toNat < 2 ^ 32 := p.toBitVec.isLt
  have hmax : OFPP_MAX = 0xff00 := rfl
  have h11 : OFPP11_MAX = 0xffffff00 := rfl
  have hoff : OFPP11_OFFSET = 0xffff0000 := rfl
  unfold ofputilPortFromOfp11 at h
  unfold ofputilPortToOfp11
  rw [hmax, h11, hoff] at h
  rw [hmax, hoff]
  split at h
  · obtain rfl := Except.ok.inj h
    rw [UInt16.toNat_ofNat_of_lt (by simp only [UInt16.size]; omega), if_pos ‹_›, uint32_ofNat_toNat]
  · split at h
    · obtain rfl := Except.ok.inj h
      rw [UInt16.toNat_ofNat_of_lt (by simp only [UInt16.size]; omega), if_neg (by omega),
        Nat.sub_add_cancel (by omega), uint32_ofNat_toNat]
    · cases h

/-! ## Canonical records -/

/-- The pad and reserved fields of a Nicira action, as (offset, width): the
bytes of its struct its decoder does not read (the `table` of a plain
resubmit among them) or checks to be zero. A sub-codec's record has its own. -/
def Nxast.pads : Nxast → List (Nat × Nat)
  | .resubmit => [(12, 4)]
  | .resubmitTable => [(13, 3)]
  | .setTunnel | .setQueue => [(10, 2)]
  | .setTunnel64 | .popQueue | .exit | .decTtl | .writeMetadata | .pushL2 | .popL2 => [(10, 6)]
  | .outputReg => [(18, 6)]
  | .finTimeout => [(14, 2)]
  | .controller => [(15, 1)]
  | .decTtlCntIds | .pushMpls | .popMpls => [(12, 4)]
  | .note | .regMove | .regLoad | .multipath | .bundle | .bundleLoad | .learn => []

/-- The pad fields of the 1.0 actions. -/
def Ofpat10.pads : Ofpat10 → List (Nat × Nat)
  | .output | .setNwSrc | .setNwDst => []
  | .setVlanVid | .setTpSrc | .setTpDst => [(6, 2)]
  | .setVlanPcp | .setNwTos => [(5, 3)]
  | .stripVlan => [(4, 4)]
  | .setDlSrc | .setDlDst => [(10, 6)]
  | .enqueue => [(6, 6)]

/-- The pad fields of the 1.1 actions; `set_field` is a sub-codec's. -/
def Ofpat11.pads : Ofpat11 → List (Nat × Nat)
  | .output | .setDlSrc | .setDlDst => [(10, 6)]
  | .setNwSrc | .setNwDst | .setQueue | .group | .setField => []
  | .setVlanVid | .setTpSrc | .setTpDst | .pushVlan | .pushMpls | .popMpls => [(6, 2)]
  | .setVlanPcp | .setNwTos | .setMplsTtl => [(5, 3)]
  | .popVlan | .decNwTtl => [(4, 4)]

/-- The pad fields of the instructions. -/
def OvsInstructionType.pads : OvsInstructionType → List (Nat × Nat)
  | .meter => []
  | .gotoTable => [(5, 3)]
  | _ => [(4, 4)]

/-- The fields at `pads` are zero. -/
def PadsZero (r : List UInt8) (pads : List (Nat × Nat)) : Prop :=
  ∀ p ∈ pads, getBE r p.1 p.2 = 0

/-- The records of an action or instruction list, as `ACTION_FOR_EACH` and
`INSTRUCTION_FOR_EACH` cut it. -/
def wireRecords (B : List UInt8) : List (List UInt8) :=
  (forEachPointers (B.length / 8) B (B.length / 8)).1.map recordAt

/-- A list made of wire records is cut into them. -/
theorem wireRecords_flatten {rs : List (List UInt8)} (hrs : ∀ r ∈ rs, IsWireRecord r) :
    wireRecords rs.flatten = rs := by
  have h := (forEachPointers_flatten hrs [] (Nat.le_refl _)).1
  rwa [List.append_nil] at h

/-- The record a sub-codec reads is one its encoder writes back as it is. -/
def Collab.WritesBack (co : Collab) (code : OfputilActionCode) (r : List UInt8) : Prop :=
  ∀ t body compat, subTypeOf? code = some t → co.subFromOpenflow code r = .ok (body, compat) →
    co.subToNxast t body compat = r

/-- A canonical Nicira record: its pads are zero, a `dec_ttl_cnt_ids` has the
`len` its ids need and zeros after them, and a sub-codec's record is one it
writes back. -/
def CanonicalNx (co : Collab) (r : List UInt8) (c : Nxast) : Prop :=
  PadsZero r c.pads ∧
    (c = .decTtlCntIds → getBE r 2 2 = 16 + roundUp (2 * getBE r 10 2) OFP_ACTION_ALIGN ∧
      getBE r (16 + 2 * getBE r 10 2)
        (roundUp (2 * getBE r 10 2) OFP_ACTION_ALIGN - 2 * getBE r 10 2) = 0) ∧
    co.WritesBack (.nxast c) r

/-- A canonical record of a 1.0 action list. -/
def CanonicalAction10 (co : Collab) (centec : Bool) (r : List UInt8) : Prop :=
  match decodeOpenflow10Action centec r with
  | .ok (.ofpat10 c) => PadsZero r c.pads
  | .ok (.nxast c) => CanonicalNx co r c
  | _ => True

/-- A canonical record of a 1.1 action list: no Nicira record where 1.1 has its
own (`set_queue`, `push_mpls`, `pop_mpls`), and neither of the two records the
1.1 encoder does not give back: a Nicira `write_metadata`, which it writes as
nothing, and without `_OFP_CENTEC_` a `push_vlan`, which is read as two
records. -/
def CanonicalAction11 (co : Collab) (centec : Bool) (r : List UInt8) : Prop :=
  match decodeOpenflow11Action centec r with
  | .ok (.ofpat11 c) =>
    PadsZero r c.pads ∧ co.WritesBack (.ofpat11 c) r ∧ (c = .pushVlan → centec = true)
  | .ok (.nxast c) =>
    CanonicalNx co r c ∧ c ≠ .setQueue ∧ c ≠ .pushMpls ∧ c ≠ .popMpls ∧ c ≠ .writeMetadata
  | _ => True

/-- The instruction types in the order a canonical instruction list has them. -/
def canonicalOrder : List OvsInstructionType :=
  [.meter, .applyActions, .clearActions, .writeActions, .writeMetadata, .gotoTable]

/-- A canonical instruction: its pads are zero, it is not write-actions (which
the Centec build reads back as apply-actions), and an instruction that carries
actions carries some, as a list of canonical 1.1 records. -/
def CanonicalInstruction (co : Collab) (centec : Bool) (i : List UInt8) : Prop :=
  match decodeOpenflow11Instruction centec i with
  | .ok t => PadsZero i t.pads ∧ t ≠ .writeActions ∧
      (t.extensible → 8 < i.length ∧ ∀ r ∈ wireRecords (i.drop 8), CanonicalAction11 co centec r)
  | .error _ => True

/-- A canonical list of each dialect: its records are canonical, and the types
of an instruction list are each there once, in `canonicalOrder`. -/
def Dialect.Canonical (co : Collab) (centec : Bool) : Dialect → List UInt8 → Prop
  | .openflow10, B => ∀ r ∈ wireRecords B, CanonicalAction10 co centec r
  | .openflow11Actions, B => ∀ r ∈ wireRecords B, CanonicalAction11 co centec r
  | .openflow11Instructions, B => (∀ i ∈ wireRecords B, CanonicalInstruction co centec i) ∧
      (wireRecords B).map (getBE · 0 2) =
        (canonicalOrder.map OvsInstructionType.type).filter (· ∈ (wireRecords B).map (getBE · 0 2))

/-! ## One record written back -/

section WriteBack

variable {co : Collab} {centec : Bool}

/-- The 1.0 encoder hands every record `ofpact_to_nxast` writes to it. -/
theorem ofpactToOpenflow10_of_toNxast {x : Ofpact} {e : List UInt8}
    (h : ofpactToNxast co centec x = some e) : ofpactToOpenflow10 co centec x = some e := by
  obtain ⟨b, compat⟩ := x
  cases b <;> first | exact h | simp [ofpactToNxast] at h

/-- What `ofpact_from_nxast` puts for a canonical record is written back as
that record by `ofpact_to_nxast`, and by the 1.0 encoder, which hands these
kinds to it; so is it by the 1.1 encoder except where 1.1 has its own form or
none. -/
theorem ofpactFromNxast_writes_back {r : List UInt8} (hr : IsWireRecord r) {c : Nxast}
    (h0 : getBE r 0 2 = OFPAT10_VENDOR) (hc : decodeNxastAction centec r = .ok c)
    (hcan : CanonicalNx co r c) {xs : List Ofpact} (hd : ofpactFromNxast co r c = (xs, none)) :
    ∃ x, xs = [x] ∧ ofpactToNxast co centec x = some r ∧ ofpactToOpenflow10 co centec x = some r ∧
      (c ≠ .setQueue ∧ c ≠ .pushMpls ∧ c ≠ .popMpls ∧ c ≠ .writeMetadata →
        ofpactToOpenflow11 co centec x = some r) := by
  suffices h : ∃ x, xs = [x] ∧ ofpactToNxast co centec x = some r ∧
      (c ≠ .setQueue ∧ c ≠ .pushMpls ∧ c ≠ .popMpls ∧ c ≠ .writeMetadata →
        ofpactToOpenflow11 co centec x = ofpactToNxast co centec x) by
    obtain ⟨x, hx, h1, h2⟩ := h
    exact ⟨x, hx, h1, ofpactToOpenflow10_of_toNxast h1, fun hk => (h2 hk).trans h1⟩
  obtain ⟨hv, hb, hs, hl⟩ := decodeNxastAction_ok hc
  obtain ⟨hlen, h8m, h8⟩ := hr
  obtain ⟨hpad, hcnt, hsub⟩ := hcan
  simp only [OFP_ACTION_ALIGN] at h8 h8m
  cases c <;> simp only [Nxast.pads, PadsZero, List.mem_cons, List.mem_singleton, forall_eq_or_imp,
    forall_eq, List.not_mem_nil, false_implies, implies_true, and_true] at hpad <;>
    simp only [Nxast.extensible, Nxast.size, Nxast.subtype, Bool.false_eq_true, if_false,
      if_true] at hl hs <;>
    simp only [ofpactFromNxast, resubmitFromOpenflow, resubmitTableFromOpenflow, metadataFromNxast,
      decTtlFromOpenflow, outputRegFromOpenflow, putOne, hpad, ne_eq, not_true_eq_false, if_false,
      Prod.mk.injEq, and_true] at hd
  case resubmit =>
    subst hd
    refine ⟨_, rfl, ?_, fun _ => rfl⟩
    conv_rhs => rw [← @fieldsFrom_self r [2, 2, 4, 2, 2, 4] (by simp; omega)]
    simp [h0, hl, hv, hs, hpad, ofpactToNxast, ofputilPutNxast, nxastHeader, Nxast.size, Nxast.subtype,
      fieldsFrom, toBE_zero, ofpactResubmitToNxast, wr16_rd16]
  case resubmitTable =>
    subst hd
    refine ⟨_, rfl, ?_, fun _ => rfl⟩
    conv_rhs => rw [← @fieldsFrom_self r [2, 2, 4, 2, 2, 1, 3] (by simp; omega)]
    simp [h0, hl, hv, hs, hpad, ofpactToNxast, ofputilPutNxast, nxastHeader, Nxast.size, Nxast.subtype,
      fieldsFrom, toBE_zero, ofpactResubmitToNxast, wr8_rd8, wr16_rd16]
  case setTunnel =>
    subst hd
    refine ⟨_, rfl, ?_, fun _ => rfl⟩
    have ht : (UInt64.ofNat (getBE r 12 4)).toNat = getBE r 12 4 :=
      UInt64.toNat_ofNat_of_lt (lt_trans (getBE_lt r 12 4) (by decide))
    have ht4 := getBE_lt r 12 4
    conv_rhs => rw [← @fieldsFrom_self r [2, 2, 4, 2, 2, 4] (by simp; omega)]
    simp [h0, hl, hv, hs, hpad, ofpactToNxast, ofputilPutNxast, nxastHeader, Nxast.size, Nxast.subtype,
      fieldsFrom, toBE_zero, ofpactSetTunnelToNxast, ht]
    omega
  case setTunnel64 =>
    subst hd
    refine ⟨_, rfl, ?_, fun _ => rfl⟩
    conv_rhs => rw [← @fieldsFrom_self r [2, 2, 4, 2, 6, 8] (by simp; omega)]
    simp [h0, hl, hv, hs, hpad, ofpactToNxast, ofputilPutNxast, nxastHeader, Nxast.size, Nxast.subtype,
      fieldsFrom, toBE_zero, ofpactSetTunnelToNxast, wr64_rd64]
  case popQueue | exit | pushL2 | popL2 =>
    subst hd
    refine ⟨_, rfl, ?_, fun _ => rfl⟩
    simp only [Nxast.inBuild] at hb
    conv_rhs => rw [← @fieldsFrom_self r [2, 2, 4, 2, 6] (by simp; omega)]
    simp [h0, hl, hv, hs, hpad, ofpactToNxast, ofputilPutNxast, nxastHeader, Nxast.size, Nxast.subtype,
      fieldsFrom, toBE_zero, hb]
  case decTtl =>
    subst hd
    refine ⟨_, rfl, ?_, fun _ => by simp [ofpactToOpenflow11, ofpactDecTtlToOpenflow11, ofpactToNxast]⟩
    conv_rhs => rw [← @fieldsFrom_self r [2, 2, 4, 2, 6] (by simp; omega)]
    simp [h0, hl, hv, hs, hpad, ofpactToNxast, ofputilPutNxast, nxastHeader, Nxast.size, Nxast.subtype,
      fieldsFrom, toBE_zero, ofpactDecTtlToNxast]
  case finTimeout =>
    subst hd
    refine ⟨_, rfl, ?_, fun _ => rfl⟩
    conv_rhs => rw [← @fieldsFrom_self r [2, 2, 4, 2, 2, 2, 2] (by simp; omega)]
    simp [h0, hl, hv, hs, hpad, ofpactToNxast, ofputilPutNxast, nxastHeader, Nxast.size, Nxast.subtype,
      fieldsFrom, toBE_zero, wr16_rd16]
  case controller =>
    subst hd
    refine ⟨_, rfl, ?_, fun _ => rfl⟩
    conv_rhs => rw [← @fieldsFrom_self r [2, 2, 4, 2, 2, 2, 1, 1] (by simp; omega)]
    simp [h0, hl, hv, hs, hpad, ofpactToNxast, ofputilPutNxast, nxastHeader, Nxast.size, Nxast.subtype,
      fieldsFrom, toBE_zero, wr8_rd8, wr16_rd16]
  case outputReg =>
    obtain ⟨rfl, -⟩ := hd
    refine ⟨_, rfl, ?_, fun _ => rfl⟩
    conv_rhs => rw [← @fieldsFrom_self r [2, 2, 4, 2, 2, 4, 2, 6] (by simp; omega)]
    simp [h0, hl, hv, hs, hpad, ofpactToNxast, ofputilPutNxast, nxastHeader, Nxast.size, Nxast.subtype,
      fieldsFrom, toBE_zero, nxmEncodeOfsNbits_decode, wr16_rd16, wr32_rd32]
  case setQueue | writeMetadata =>
    subst hd
    refine ⟨_, rfl, ?_, fun hk => by simp at hk⟩
    first
      | conv_rhs => rw [← @fieldsFrom_self r [2, 2, 4, 2, 2, 4] (by simp; omega)]
      | conv_rhs => rw [← @fieldsFrom_self r [2, 2, 4, 2, 6, 8, 8] (by simp; omega)]
    simp [h0, hl, hv, hs, hpad, ofpactToNxast, ofputilPutNxast, nxastHeader, Nxast.size, Nxast.subtype,
      fieldsFrom, toBE_zero, wr32_rd32, wr64_rd64]
  case pushMpls | popMpls =>
    split at hd
    · simp at hd
    · simp only [putOne, Prod.mk.injEq, and_true] at hd
      subst hd
      refine ⟨_, rfl, ?_, fun hk => by simp at hk⟩
      conv_rhs => rw [← @fieldsFrom_self r [2, 2, 4, 2, 2, 4] (by simp; omega)]
      simp [h0, hl, hv, hs, hpad, ofpactToNxast, ofputilPutNxast, nxastHeader, Nxast.size, Nxast.subtype,
      fieldsFrom, toBE_zero, wr16_rd16]
  case regMove | regLoad | bundle | bundleLoad | learn | multipath =>
    simp only [subFromOpenflow, multipathFromOpenflow] at hd
    split at hd
    · next body compat hsf =>
      simp only [putOne, Prod.mk.injEq, and_true] at hd
      subst hd
      exact ⟨_, rfl, hsub _ _ _ rfl hsf ▸ rfl, fun _ => rfl⟩
    · simp at hd
  case note =>
    simp only [noteFromOpenflow, putOne, Prod.mk.injEq, and_true] at hd
    subst hd
    refine ⟨_, rfl, ?_, fun _ => rfl⟩
    have hdata : rdBytes r 10 (getBE r 2 2 - 10) = r.drop 10 := by
      rw [rdBytes_eq_take_drop (by omega), List.take_of_length_le (by simp; omega)]
    have hr : fieldsFrom r 0 [2, 2, 4, 2] ++ r.drop 10 = r := by
      rw [fieldsFrom_eq_take_drop (by simp; omega)]
      exact List.take_append_drop 10 r
    have hn : 10 + (r.drop 10).length = getBE r 2 2 := by simp; omega
    have hn8 : getBE r 2 2 % OFP_ACTION_ALIGN = 0 := by simp only [OFP_ACTION_ALIGN]; omega
    conv_rhs => rw [← hr]
    simp only [ofpactToNxast, ofpactNoteToNxast, hdata, hn, hn8, ne_eq, not_true_eq_false, if_false]
    simp [nxastHeader, Nxast.subtype, fieldsFrom, zeros, h0, hv, hs]
  case decTtlCntIds =>
    obtain ⟨hlenc, hzero⟩ := hcnt rfl
    simp only [OFP_ACTION_ALIGN] at hlenc hzero
    simp only [decTtlCntIdsFromOpenflow, hpad, ne_eq, not_true_eq_false, if_false] at hd
    split at hd
    · simp at hd
    · simp only [putOne, Prod.mk.injEq, and_true] at hd
      subst hd
      refine ⟨_, rfl, ?_, fun _ => by simp [ofpactToOpenflow11, ofpactDecTtlToOpenflow11, ofpactToNxast]⟩
      have hround : 2 * getBE r 10 2 ≤ roundUp (2 * getBE r 10 2) 8 := by simp only [roundUp]; omega
      conv_rhs => rw [← @fieldsFrom_self r ([2, 2, 4, 2, 2, 4] ++ (List.replicate (getBE r 10 2) 2 ++
        [roundUp (2 * getBE r 10 2) 8 - 2 * getBE r 10 2])) (by simp [List.sum_replicate]; omega)]
      rw [fieldsFrom_append, fieldsFrom_append]
      simp only [List.sum_cons, List.sum_nil, List.sum_replicate, nsmul_eq_mul, Nat.cast_id,
        Nat.mul_comm (getBE r 10 2) 2, Nat.reduceAdd, Nat.zero_add]
      simp [h0, hl, hv, hs, hpad, ofpactToNxast, ofputilPutNxast, nxastHeader, Nxast.size, Nxast.subtype,
      fieldsFrom, toBE_zero, ofpactDecTtlToNxast, OFP_ACTION_ALIGN, flatMap_wr16_rd16, hlenc, hzero]

/-- What `ofpact_from_openflow10` puts for a canonical record it accepts as one
record, `ofpact_to_openflow10` writes back as that record. -/
theorem ofpactFromOpenflow10_writes_back {r : List UInt8} (hr : IsWireRecord r)
    (hcan : CanonicalAction10 co centec r) {xs : List Ofpact}
    (hd : ofpactFromOpenflow10 co centec r = (xs, none)) :
    ∃ x, xs = [x] ∧ ofpactToOpenflow10 co centec x = some r := by
  unfold CanonicalAction10 at hcan
  unfold ofpactFromOpenflow10 at hd
  rcases hdec : decodeOpenflow10Action centec r with e | code
  · simp [hdec] at hd
  rw [hdec] at hd hcan
  rcases decodeOpenflow10Action_ok hdec with ⟨c, rfl, h0, hl⟩ | ⟨c, rfl, h0, hc⟩
  swap
  · obtain ⟨x, hx, -, h10, -⟩ := ofpactFromNxast_writes_back hr h0 hc hcan hd
    exact ⟨x, hx, h10⟩
  obtain ⟨hlen, -, -⟩ := hr
  cases c <;> simp only [Ofpat10.pads, PadsZero, List.mem_cons, List.mem_singleton, forall_eq_or_imp,
    forall_eq, List.not_mem_nil, false_implies, implies_true, and_true] at hcan <;>
    simp only [outputFromOpenflow10, enqueueFromOpenflow10, setVlanVidFromOpenflow,
      setVlanPcpFromOpenflow, setNwTosFromOpenflow, putOne, Prod.mk.injEq, and_true] at hd <;>
    simp only [Ofpat10.size, Ofpat10.type] at h0 hl
  case output =>
    obtain ⟨rfl, -⟩ := hd
    refine ⟨_, rfl, ?_⟩
    conv_rhs => rw [← @fieldsFrom_self r [2, 2, 2, 2] (by simp; omega)]
    simp [h0, hl, hcan, ofpactToOpenflow10, ofputilPutOfpat10, Ofpat10.type, Ofpat10.size, fieldsFrom,
      toBE_zero, wr16_rd16]
  case enqueue =>
    obtain ⟨rfl, -⟩ := hd
    refine ⟨_, rfl, ?_⟩
    conv_rhs => rw [← @fieldsFrom_self r [2, 2, 2, 6, 4] (by simp; omega)]
    simp [h0, hl, hcan, ofpactToOpenflow10, ofputilPutOfpat10, Ofpat10.type, Ofpat10.size, fieldsFrom,
      toBE_zero, wr16_rd16, wr32_rd32]
  case setVlanVid =>
    split at hd
    · simp at hd
    · simp only [putOne, Prod.mk.injEq, and_true] at hd
      subst hd
      refine ⟨_, rfl, ?_⟩
      conv_rhs => rw [← @fieldsFrom_self r [2, 2, 2, 2] (by simp; omega)]
      simp [h0, hl, hcan, ofpactToOpenflow10, ofputilPutOfpat10, Ofpat10.type, Ofpat10.size, fieldsFrom,
      toBE_zero, wr16_rd16]
  case setVlanPcp | setNwTos =>
    split at hd
    · simp at hd
    · simp only [putOne, Prod.mk.injEq, and_true] at hd
      subst hd
      refine ⟨_, rfl, ?_⟩
      conv_rhs => rw [← @fieldsFrom_self r [2, 2, 1, 3] (by simp; omega)]
      simp [h0, hl, hcan, ofpactToOpenflow10, ofputilPutOfpat10, Ofpat10.type, Ofpat10.size, fieldsFrom,
      toBE_zero, wr8_rd8]
  case stripVlan | setNwSrc | setNwDst =>
    subst hd
    refine ⟨_, rfl, ?_⟩
    conv_rhs => rw [← @fieldsFrom_self r [2, 2, 4] (by simp; omega)]
    simp [h0, hl, hcan, ofpactToOpenflow10, ofputilPutOfpat10, Ofpat10.type, Ofpat10.size, fieldsFrom,
      toBE_zero, wr32_rd32]
  case setTpSrc | setTpDst =>
    subst hd
    refine ⟨_, rfl, ?_⟩
    conv_rhs => rw [← @fieldsFrom_self r [2, 2, 2, 2] (by simp; omega)]
    simp [h0, hl, hcan, ofpactToOpenflow10, ofputilPutOfpat10, Ofpat10.type, Ofpat10.size, fieldsFrom,
      toBE_zero, wr16_rd16]
  case setDlSrc | setDlDst =>
    subst hd
    refine ⟨_, rfl, ?_⟩
    conv_rhs => rw [← @fieldsFrom_self r [2, 2, 6, 6] (by simp; omega)]
    simp [h0, hl, hcan, ofpactToOpenflow10, ofputilPutOfpat10, Ofpat10.type, Ofpat10.size, fieldsFrom,
      toBE_zero, @rdEthAddr_bytes r 4 (by omega)]

/-- What `ofpact_from_openflow11` puts for a canonical record it accepts is one
record, which `ofpact_to_openflow11` writes back as that record. -/
theorem ofpactFromOpenflow11_writes_back {r : List UInt8} (hr : IsWireRecord r)
    (hcan : CanonicalAction11 co centec r) {xs : List Ofpact}
    (hd : ofpactFromOpenflow11 co centec r = (xs, none)) :
    ∃ x, xs = [x] ∧ ofpactToOpenflow11 co centec x = some r := by
  unfold CanonicalAction11 at hcan
  unfold ofpactFromOpenflow11 at hd
  rcases hdec : decodeOpenflow11Action centec r with e | code
  · simp [hdec] at hd
  rw [hdec] at hd hcan
  rcases decodeOpenflow11Action_ok hdec with ⟨c, rfl, hb, h0, hl⟩ | ⟨c, rfl, h0, hc⟩
  swap
  · obtain ⟨hcan, hk⟩ := hcan
    obtain ⟨x, hx, -, -, h11⟩ := ofpactFromNxast_writes_back hr h0 hc hcan hd
    exact ⟨x, hx, h11 hk⟩
  obtain ⟨hlen, -, -⟩ := hr
  obtain ⟨hpad, hsub, hpush⟩ := hcan
  cases c <;> simp only [Ofpat11.pads, PadsZero, List.mem_cons, List.mem_singleton, forall_eq_or_imp,
    forall_eq, List.not_mem_nil, false_implies, implies_true, and_true] at hpad <;>
    simp only [Ofpat11.extensible, Ofpat11.size, Ofpat11.type, Ofpat11.inBuild,
      Bool.false_eq_true, if_false] at h0 hl hb <;>
    simp only [outputFromOpenflow11, setVlanVidFromOpenflow, setVlanPcpFromOpenflow,
      pushVlanFromOpenflow11, setNwTosFromOpenflow, decTtlFromOpenflow, putOne, Prod.mk.injEq,
      and_true] at hd
  case output =>
    split at hd
    · simp at hd
    · next port hport =>
      obtain ⟨rfl, -⟩ := Prod.mk.inj hd
      refine ⟨_, rfl, ?_⟩
      conv_rhs => rw [← @fieldsFrom_self r [2, 2, 4, 2, 6] (by simp; omega)]
      simp [h0, hl, hpad, ofpactToOpenflow11, ofputilPutOfpat11, Ofpat11.type, Ofpat11.size,
        fieldsFrom, toBE_zero, ofputilPortToOfp11_fromOfp11 hport, wr16_rd16, wr32_rd32]
  case setVlanVid =>
    split at hd
    · simp at hd
    · simp only [putOne, Prod.mk.injEq, and_true] at hd
      subst hd
      refine ⟨_, rfl, ?_⟩
      conv_rhs => rw [← @fieldsFrom_self r [2, 2, 2, 2] (by simp; omega)]
      simp [h0, hl, hpad, ofpactToOpenflow11, ofputilPutOfpat11, Ofpat11.type, Ofpat11.size,
        fieldsFrom, toBE_zero, wr16_rd16]
  case setVlanPcp | setNwTos =>
    split at hd
    · simp at hd
    · simp only [putOne, Prod.mk.injEq, and_true] at hd
      subst hd
      refine ⟨_, rfl, ?_⟩
      conv_rhs => rw [← @fieldsFrom_self r [2, 2, 1, 3] (by simp; omega)]
      simp [h0, hl, hpad, ofpactToOpenflow11, ofputilPutOfpat11, Ofpat11.type, Ofpat11.size,
        fieldsFrom, toBE_zero, wr8_rd8]
  case pushMpls | popMpls =>
    split at hd
    · simp at hd
    · simp only [putOne, Prod.mk.injEq, and_true] at hd
      subst hd
      refine ⟨_, rfl, ?_⟩
      conv_rhs => rw [← @fieldsFrom_self r [2, 2, 2, 2] (by simp; omega)]
      simp [h0, hl, hpad, ofpactToOpenflow11, ofputilPutOfpat11, Ofpat11.type, Ofpat11.size,
        fieldsFrom, toBE_zero, wr16_rd16]
  case pushVlan =>
    obtain rfl := hpush rfl
    simp only [if_true, Prod.mk.injEq, and_true] at hd
    subst hd
    refine ⟨_, rfl, ?_⟩
    conv_rhs => rw [← @fieldsFrom_self r [2, 2, 2, 2] (by simp; omega)]
    simp [h0, hl, hpad, ofpactToOpenflow11, ofputilPutOfpat11, Ofpat11.type, Ofpat11.size, fieldsFrom,
      toBE_zero, wr16_rd16]
  case setTpSrc | setTpDst =>
    subst hd
    refine ⟨_, rfl, ?_⟩
    conv_rhs => rw [← @fieldsFrom_self r [2, 2, 2, 2] (by simp; omega)]
    simp [h0, hl, hpad, ofpactToOpenflow11, ofputilPutOfpat11, Ofpat11.type, Ofpat11.size, fieldsFrom,
      toBE_zero, wr16_rd16]
  case popVlan | setQueue | decNwTtl | setNwSrc | setNwDst | group =>
    subst hd
    refine ⟨_, rfl, ?_⟩
    conv_rhs => rw [← @fieldsFrom_self r [2, 2, 4] (by simp; omega)]
    simp [h0, hl, hpad, ofpactToOpenflow11, ofputilPutOfpat11, Ofpat11.type, Ofpat11.size, fieldsFrom,
      toBE_zero, hb, ofpactDecTtlToOpenflow11, wr32_rd32]
  case setMplsTtl =>
    subst hd
    refine ⟨_, rfl, ?_⟩
    conv_rhs => rw [← @fieldsFrom_self r [2, 2, 1, 3] (by simp; omega)]
    simp [h0, hl, hpad, ofpactToOpenflow11, ofputilPutOfpat11, Ofpat11.type, Ofpat11.size, fieldsFrom,
      toBE_zero, hb, wr8_rd8]
  case setDlSrc | setDlDst =>
    subst hd
    refine ⟨_, rfl, ?_⟩
    conv_rhs => rw [← @fieldsFrom_self r [2, 2, 6, 6] (by simp; omega)]
    simp [h0, hl, hpad, ofpactToOpenflow11, ofputilPutOfpat11, Ofpat11.type, Ofpat11.size, fieldsFrom,
      toBE_zero, @rdEthAddr_bytes r 4 (by omega)]
  case setField =>
    simp only [subFromOpenflow] at hd
    split at hd
    · next body compat hsf =>
      simp only [putOne, Prod.mk.injEq, and_true] at hd
      subst hd
      exact ⟨_, rfl, hsub _ _ _ rfl hsf ▸ rfl⟩
    · simp at hd

end WriteBack

/-! ## Lists written back -/

/-- `OFPACT_FOR_EACH` appending each record's encoding is `mapM` of the encoder
at each step. -/
theorem ofpactsPut_eq_mapM (enc : Ofpact → Option (List UInt8)) (A : List Ofpact)
    (o : List UInt8) : ofpactsPut enc A o = (A.mapM (forEachEncode enc)).map (o ++ ·.flatten) := by
  induction A generalizing o with
  | nil => simp [ofpactsPut, -List.mapM]
  | cons a A ih =>
    rcases he : forEachEncode enc a with _ | e
    · simp [ofpactsPut, he, -List.mapM]
    · simp [ofpactsPut, he, ih, Option.map_eq_bind, Option.bind_assoc, Function.comp_def,
        -List.mapM]

/-- Records that each decode into one record its encoder writes back as the
record are written back in turn. -/
theorem mapM_flatMap_writes_back {enc : Ofpact → Option (List UInt8)}
    {f : List UInt8 → List Ofpact} {rs : List (List UInt8)}
    (h : ∀ r ∈ rs, ∃ x, f r = [x] ∧ enc x = some r) : (rs.flatMap f).mapM enc = some rs := by
  induction rs with
  | nil => rfl
  | cons r rs ih =>
    obtain ⟨x, hx, he⟩ := h r (List.mem_cons_self _ _)
    rw [List.flatMap_cons, hx, List.singleton_append, List.mapM_cons, he,
      ih fun r' hr' => h r' (List.mem_cons_of_mem _ hr')]
    rfl

section Actions

variable {f : List UInt8 → Decoded} {enc : Ofpact → Option (List UInt8)} {P : List UInt8 → Prop}

/-- An action pull that returns `0` on a list whose records satisfy `P`, each of
which the decoder reads as one record that fits its `len` and that `enc` writes
back, leaves records that `enc` writes back as the list. -/
theorem ofpactsPullActions_writes_back (hf : ReadsRecord f)
    (hF : ∀ r, IsWireRecord r → Fits (f r).1)
    (hw : ∀ r, IsWireRecord r → P r → ∀ xs, f r = (xs, none) → ∃ x, xs = [x] ∧ enc x = some r)
    {B : List UInt8} {prior : Ofpbuf}
    (h : (ofpactsPullActions (fun a n out => ofpactsFromOpenflow f n a n out) B B.length
      prior).error = none) (hP : ∀ r ∈ wireRecords B, P r) :
    ofpactsPut enc (ofpactsPullActions (fun a n out => ofpactsFromOpenflow f n a n out) B B.length
      prior).ofpacts.ofpacts [] = some B := by
  obtain ⟨hm, -, out, ht, -, hp⟩ := ofpactsPullActions_ok h
  rw [hp]
  obtain ⟨rs, hrs, hflat, rfl⟩ := ofpactsFromOpenflow_records hf (by omega) ht
  have hB : rs.flatten = B := by rw [hflat, List.take_of_length_le (by omega)]
  have hrec : wireRecords B = rs := hB ▸ wireRecords_flatten fun r hr => (hrs r hr).1
  rw [hrec] at hP
  have hwb : ∀ r ∈ rs, ∃ x, (f r).1 = [x] ∧ forEachEncode enc x = some r := fun r hr => by
    obtain ⟨x, hx, he⟩ := hw r (hrs r hr).1 (hP r hr) _ (Prod.ext rfl (hrs r hr).2)
    refine ⟨x, hx, ?_⟩
    rw [forEachEncode_of_lt (hF r (hrs r hr).1 x (by simp only [hx, List.mem_singleton])), he]
  rw [ofpactPad_ofpacts, ofpactPutAll_ofpacts, Ofpbuf.ofpacts_nil, List.nil_append, ofpactsPut_eq_mapM,
    mapM_flatMap_writes_back hwb]
  simp [hB]

end Actions


/-! ## Instruction lists written back -/

section Instructions

variable {co : Collab} {centec : Bool}

theorem OvsInstructionType.type_inj {t u : OvsInstructionType} (h : t.type = u.type) : t = u := by
  revert h; cases t <;> cases u <;> decide

/-- A record the 1.1 encoder writes as some bytes is no instruction. -/
theorem ofpactIsInstruction_of_toOpenflow11 {x : Ofpact} {e : List UInt8}
    (h : ofpactToOpenflow11 co centec x = some e) (he : e ≠ []) :
    ofpactIsInstruction centec x = false := by
  rcases x with ⟨b, c⟩
  cases b <;> simp_all [ofpactToOpenflow11, ofpactIsInstruction]

/-- The framer never replaces an entry: it refuses a second one of a type. -/
theorem collectInsts_keeps {ps : List (List UInt8)} {left : Nat} {out ins : Insts}
    (h : collectInsts centec ps left out = .ok ins) {t : OvsInstructionType} {i : List UInt8}
    (hi : out t = some i) : ins t = some i := by
  induction ps generalizing out with
  | nil =>
    simp only [collectInsts, decodeOpenflow11InstructionsEnd] at h
    split at h
    · cases h
    · cases h; exact hi
  | cons p ps ih =>
    simp only [collectInsts] at h
    rcases hp : decodeOpenflow11Instruction centec p with e | u <;> simp only [hp] at h
    · cases h
    split at h
    · cases h
    rename_i hu
    refine ih h ?_
    by_cases htu : t = u
    · subst htu; simp [hi] at hu
    · rwa [Function.update_noteq htu]

/-- So the array holds every record the framer walked, under its type. -/
theorem collectInsts_of_mem {ps : List (List UInt8)} {left : Nat} {out ins : Insts}
    (h : collectInsts centec ps left out = .ok ins) {r : List UInt8} (hr : r ∈ ps) :
    ∃ t, decodeOpenflow11Instruction centec r = .ok t ∧ ins t = some r := by
  induction ps generalizing out with
  | nil => cases hr
  | cons p ps ih =>
    simp only [collectInsts] at h
    rcases hp : decodeOpenflow11Instruction centec p with e | u <;> simp only [hp] at h
    · cases h
    split at h
    · cases h
    rcases List.mem_cons.1 hr with rfl | hr
    · exact ⟨u, hp, collectInsts_keeps h (Function.update_same _ _ _)⟩
    · exact ih h hr

/-- Two lists that agree on a function injective on the second, whose elements
are elements of the second, are equal. -/
theorem eq_of_map_eq_of_nodup {α β : Type} {ty : α → β} {L rs : List α}
    (hmap : L.map ty = rs.map ty) (hnd : (rs.map ty).Nodup) (hmem : ∀ l ∈ L, l ∈ rs) : L = rs := by
  have hlen : L.length = rs.length := by simpa using congrArg List.length hmap
  refine List.ext_getElem hlen fun n h1 h2 =>
    List.inj_on_of_nodup_map hnd (hmem _ (List.getElem_mem h1)) (List.getElem_mem h2) ?_
  have := congrArg (·[n]?) hmap
  simpa [h1, h2] using this

theorem filterMap_ite_some {α β : Type} (p : α → Bool) (f : α → β) (l : List α) :
    l.filterMap (fun a => if p a then some (f a) else none) = (l.filter p).map f := by
  rw [← List.filterMap_eq_map, List.filterMap_filter]
  rfl

/-- Instruction records whose types come in `canonicalOrder`, none of them
write-actions, are the entries of the array they collect into, in the
encoder's `putOrder`. -/
theorem collectInsts_putOrder {rs : List (List UInt8)} {ins : Insts}
    (h : collectInsts centec rs 0 (fun _ => none) = .ok ins) (hwa : ins .writeActions = none)
    (hord : rs.map (getBE · 0 2) =
      (canonicalOrder.map OvsInstructionType.type).filter (· ∈ rs.map (getBE · 0 2))) :
    putOrder.filterMap ins = rs := by
  have hmem : ∀ t i, ins t = some i → i ∈ rs ∧ getBE i 0 2 = t.type := fun t i hi => by
    obtain ⟨hr, hd⟩ := (collectInsts_mem h hi).resolve_left (by simp)
    exact ⟨hr, (decodeOpenflow11Instruction_ok hd).2.1⟩
  have hty : ∀ t, decide (t.type ∈ rs.map (getBE · 0 2)) = (ins t).isSome := fun t => by
    rcases hi : ins t with _ | i
    · simp only [Option.isSome_none, decide_eq_false_iff_not, List.mem_map, not_exists, not_and]
      intro r hr hrt
      obtain ⟨u, hu, hiu⟩ := collectInsts_of_mem h hr
      rw [(decodeOpenflow11Instruction_ok hu).2.1] at hrt
      rw [OvsInstructionType.type_inj hrt, hi] at hiu
      cases hiu
    · simpa using ⟨i, (hmem t i hi).1, (hmem t i hi).2⟩
  have hget : ∀ t, (ins t).map (getBE · 0 2) = if (ins t).isSome then some t.type else none :=
    fun t => by
      rcases hi : ins t with _ | i
      · rfl
      · simp [(hmem t i hi).2]
  refine eq_of_map_eq_of_nodup ?_ (hord ▸ List.Nodup.filter _ (by decide)) fun l hl => ?_
  · rw [List.map_filterMap, funext hget, filterMap_ite_some, hord, List.filter_map]
    simp only [Function.comp_def, hty]
    simp [canonicalOrder, putOrder, List.filter_cons, hwa]
  · obtain ⟨t, -, ht⟩ := List.mem_filterMap.1 hl
    exact (hmem t l ht).1

/-- A canonical instruction is the struct the encoder writes for what the pull
reads of it. -/
theorem instruction_eq_of_canonical {i : List UInt8} (hw : IsWireRecord i) {t : OvsInstructionType}
    (hd : decodeOpenflow11Instruction centec i = .ok t) (hp : PadsZero i t.pads) :
    (t = .meter → meterInstruction (rd32 i 4) = i) ∧
      (t = .applyActions → applyInstruction (i.drop 8) = i) ∧
      (t = .clearActions → instructionPut .clearActions = i) ∧
      (t = .writeMetadata → writeMetadataInstruction (rd64 i 8, rd64 i 16) = i) ∧
      (t = .gotoTable → gotoTableInstruction (rd8 i 4) = i) := by
  obtain ⟨-, h0, hl⟩ := decodeOpenflow11Instruction_ok hd
  obtain ⟨hlen, -, h8⟩ := hw
  simp only [OFP_ACTION_ALIGN] at h8
  cases t <;> simp only [OvsInstructionType.pads, PadsZero, List.mem_cons, List.mem_singleton,
    forall_eq_or_imp, forall_eq, List.not_mem_nil, false_implies, implies_true, and_true] at hp <;>
    simp only [OvsInstructionType.type, OvsInstructionType.extensible, OvsInstructionType.size,
      Bool.false_eq_true, if_false, if_true] at h0 hl <;>
    simp only [reduceCtorEq, false_implies, true_implies, and_true, true_and]
  case meter =>
    conv_rhs => rw [← @fieldsFrom_self i [2, 2, 4] (by simp; omega)]
    simp [meterInstruction, fieldsFrom, wr32_rd32, h0, hl]
  case applyActions =>
    have hr : fieldsFrom i 0 [2, 2, 4] ++ i.drop 8 = i := by
      rw [fieldsFrom_eq_take_drop (by simp; omega)]
      exact List.take_append_drop 8 i
    have hn : 8 + (i.length - 8) = getBE i 2 2 := by omega
    conv_rhs => rw [← hr]
    simp [applyInstruction, fieldsFrom, hn, h0, hp, toBE_zero]
  case clearActions =>
    conv_rhs => rw [← @fieldsFrom_self i [2, 2, 4] (by simp; omega)]
    simp [instructionPut, OvsInstructionType.type, OvsInstructionType.size, fieldsFrom, h0, hl, hp,
      toBE_zero]
  case writeMetadata =>
    conv_rhs => rw [← @fieldsFrom_self i [2, 2, 4, 8, 8] (by simp; omega)]
    simp [writeMetadataInstruction, fieldsFrom, wr64_rd64, h0, hl, hp, toBE_zero]
  case gotoTable =>
    conv_rhs => rw [← @fieldsFrom_self i [2, 2, 1, 3] (by simp; omega)]
    simp [gotoTableInstruction, fieldsFrom, wr8_rd8, h0, hl, hp, toBE_zero]

/-- `ofpacts_put_openflow11_instructions` on the records of a set writes its
instructions around the encodings of its actions. -/
theorem InstructionSet.put_of_mapM {s : InstructionSet} (hm : s.meter.isSome → centec = true)
    (ha : ∀ x ∈ s.actions, ofpactIsInstruction centec x = false) {es : List (List UInt8)}
    (hes : s.actions.mapM (forEachEncode (ofpactToOpenflow11 co centec)) = some es) :
    ofpactsPutOpenflow11Instructions co centec s.records [] = some (s.wire es.flatten) := by
  have hT : ∀ x ∈ s.instructionRecords, (ofpactInstruction centec x).isSome :=
    fun x hx => (s.instructionRecords_isInstruction x hx).1
  -- The actions and the records after them, after whatever `o` holds.
  have hrest : ∀ n o, s.actions.length + s.instructionRecords.length ≤ n →
      ofpactsPutInstructions co centec n (s.actions ++ s.instructionRecords) o =
        some (o ++ (s.insts es.flatten .applyActions).getD [] ++
          s.instructionRecords.flatMap fun x => (ofpactInstruction centec x).getD []) := by
    intro n o hn
    rcases hA : s.actions with _ | ⟨x, xs⟩
    · rw [hA] at hes
      obtain rfl : es = [] := (Option.some.inj hes).symm
      rw [List.nil_append, ofpactsPutInstructions_instructions hT (by omega)]
      simp [InstructionSet.insts]
    · rw [hA] at ha hes hn
      obtain ⟨n, rfl⟩ : ∃ m, n = m + 1 := ⟨n - 1, by simp at hn; omega⟩
      have hx := ha x (List.mem_cons_self _ _)
      have hput := @ofpactsPutApplyActions_eq co centec (x :: xs) s.instructionRecords ha
        (fun b hb => (s.instructionRecords_isInstruction b (List.mem_of_mem_head? hb)).2)
        (o ++ instructionPut .applyActions)
      rw [hes, List.cons_append, Option.map_some'] at hput
      simp only [List.cons_append, ofpactsPutInstructions, ofpactInstruction_of_not hx, hx,
        Bool.false_eq_true, if_false, List.append_eq, hput, ofpactsUpdateInstructionActions_apply, ofpactsPutInstructions_instructions hT
        (show s.instructionRecords.length ≤ n by simp at hn; omega)]
      by_cases he : es.flatten = [] <;> simp [InstructionSet.insts, he]
  unfold ofpactsPutOpenflow11Instructions InstructionSet.records
  have hlen := (List.length_append s.actions s.instructionRecords).ge
  rcases hmeter : s.meter with _ | m
  · simp only [Option.map_none', Option.toList_none, List.nil_append]
    rw [hrest _ [] hlen, s.wire_eq, s.instructionRecords_flatMap es.flatten]
    simp [InstructionSet.insts, hmeter]
  · have hi : ofpactInstruction centec ⟨.meter m, .actionInvalid⟩ = some (meterInstruction m) := by
      simp [ofpactInstruction, hm (by simp [hmeter]), meterInstruction]
    simp only [Option.map_some', Option.toList_some, List.singleton_append, List.length_cons,
      ofpactsPutInstructions, hi, List.append_eq, List.nil_append]
    rw [hrest _ (meterInstruction m) hlen, s.wire_eq, s.instructionRecords_flatMap es.flatten]
    simp [InstructionSet.insts, hmeter]

/-- What the instruction pull keeps of a canonical instruction it walked: a
wire record of its type, with zero pads, no write-actions, and the action list
of an apply-actions as canonical 1.1 records. -/
theorem canonical_entry {rs : List (List UInt8)} {ins : Insts}
    (h : collectInsts centec rs 0 (fun _ => none) = .ok ins) (hrs : ∀ r ∈ rs, IsWireRecord r)
    (hcan : ∀ i ∈ rs, CanonicalInstruction co centec i) {t : OvsInstructionType} {i : List UInt8}
    (hi : ins t = some i) :
    IsWireRecord i ∧ decodeOpenflow11Instruction centec i = .ok t ∧ PadsZero i t.pads ∧
      t ≠ .writeActions ∧
      (t.extensible → 8 < i.length ∧ ∀ r ∈ wireRecords (i.drop 8), CanonicalAction11 co centec r) := by
  obtain ⟨hr, hd⟩ := (collectInsts_mem h hi).resolve_left (by simp)
  have hc := hcan i hr
  unfold CanonicalInstruction at hc
  rw [hd] at hc
  exact ⟨hrs i hr, hd, hc⟩

/-- The action list of a canonical apply-actions instruction the pull walked,
as the wire records that make it up: each decodes without error and is
canonical, and the instruction is the one the encoder writes around them. -/
theorem applyActions_records (hco : co.SubReadsRecord) {rs : List (List UInt8)} {ins : Insts}
    (h : collectInsts centec rs 0 (fun _ => none) = .ok ins) (hrs : ∀ r ∈ rs, IsWireRecord r)
    (hcan : ∀ i ∈ rs, CanonicalInstruction co centec i) {b₀ b : Ofpbuf}
    (hb : applyActionsStep co centec ins b₀ = (b, none)) :
    ∃ es : List (List UInt8), (∀ e ∈ es, IsWireRecord e ∧ (ofpactFromOpenflow11 co centec e).2 = none) ∧
      (∀ e ∈ es, CanonicalAction11 co centec e) ∧ 8 + es.flatten.length < 65536 ∧
      ins .applyActions = if es.flatten = [] then none else some (applyInstruction es.flatten) := by
  rcases hi : ins .applyActions with _ | i
  · exact ⟨[], by simp, by simp, by simp, by simp⟩
  obtain ⟨hw, hd, hpad, -, hext⟩ := canonical_entry h hrs hcan hi
  obtain ⟨h8, hcan'⟩ := hext rfl
  unfold applyActionsStep at hb
  rw [hi] at hb
  obtain ⟨xs, ⟨es, hes, hflat, -⟩, -⟩ := actionsWalk_ok hco hw (by omega) hb
  have happ := (instruction_eq_of_canonical hw hd hpad).2.1 rfl
  have hlt := getBE_lt i 2 2
  rw [hw.1] at hlt
  refine ⟨es, hes, ?_, ?_, ?_⟩
  · rw [← wireRecords_flatten fun e he => (hes e he).1, hflat]
    exact hcan'
  · rw [hflat, List.length_drop]; omega
  · rw [hflat, if_neg (List.ne_nil_of_length_pos (by simp; omega)), happ]

/-- An instruction pull that returns `0` on a canonical instruction list leaves
records that `ofpacts_put_openflow11_instructions` writes back as the list. -/
theorem instructions_write_back (hco : co.SubReadsRecord) (hfit : co.SubFits) {B : List UInt8}
    {prior : Ofpbuf}
    (h : (ofpactsPullOpenflow11Instructions co centec B B.length prior).error = none)
    (hcan : Dialect.Canonical co centec .openflow11Instructions B) :
    ofpactsPutOpenflow11Instructions co centec
      (ofpactsPullOpenflow11Instructions co centec B B.length prior).ofpacts.ofpacts [] = some B := by
  obtain ⟨hcanI, hord⟩ := hcan
  -- The records of `B` are wire records that tile it.
  obtain ⟨hm8, -, insts₀, out₀, hd, -⟩ := ofpactsPullOpenflow11Instructions_ok h
  rw [decodeOpenflow11Instructions_eq] at hd
  obtain ⟨hw, htile⟩ := @forEachPointers_records (B.length / 8) (B.length / 8) B (by omega)
  rw [collectInsts_eq_ok hd, Nat.sub_zero, List.take_of_length_le (by omega)] at htile
  have hrs : ∀ r ∈ wireRecords B, IsWireRecord r := fun r hr => by
    obtain ⟨p, hp, rfl⟩ := List.mem_map.1 hr
    exact hw p hp
  have hpull := ofpactsPullOpenflow11Instructions_flatten hco centec hrs [] prior
  rw [List.append_nil, show (wireRecords B).flatten = B from htile] at hpull
  have hB : (wireRecords B).flatten = B := htile
  rw [hpull] at h ⊢
  -- The pull collected an array and synthesised records from it.
  unfold ofpactsPullOpenflow11InstructionsEnd at h ⊢
  rcases hcol : collectInsts centec (wireRecords B) 0 (fun _ => none) with e | ins
  · simp [hcol] at h
  rcases hfi : ofpactsFromInstructions co centec ins [] with ⟨out, _ | e⟩
  swap
  · simp [hcol, hfi] at h
  rcases hv : ofpactsVerify out.ofpacts with _ | e
  swap
  · simp [hcol, hfi, hv] at h
  simp only [hcol, hfi, hv]
  have hent := fun {t} {i} (hi : ins t = some i) => canonical_entry hcol hrs hcanI hi
  have hwire : ins.Wire centec := fun _ _ hi => ⟨(hent hi).1, (hent hi).2.1⟩
  have hwa : ins .writeActions = none := by
    rcases hi : ins .writeActions with _ | i
    · rfl
    · exact absurd rfl (hent hi).2.2.2.1
  obtain ⟨-, -, -, -, hwm, hgo, -, -⟩ := ofpactsFromInstructions_trace hco hwire hfi
  obtain ⟨b₁, -, hfi'⟩ := Step.andThen_ok hfi
  obtain ⟨b₂, hb₂, -⟩ := Step.andThen_ok hfi'
  obtain ⟨es, hes, hcanes, hl, happ⟩ := applyActions_records hco hcol hrs hcanI hb₂
  -- The instruction set the array describes, with the actions of apply-actions.
  set s : InstructionSet := ⟨(ins .meter).map (rd32 · 4),
    es.flatMap fun e => (ofpactFromOpenflow11 co centec e).1, (ins .clearActions).isSome,
    (ins .writeMetadata).map (fun i => (rd64 i 8, rd64 i 16)), (ins .gotoTable).map (rd8 · 4)⟩ with hs
  have hins : ins = s.insts es.flatten := by
    funext t
    cases t
    case applyActions => exact happ
    case writeActions => exact hwa
    case meter =>
      rcases hi : ins .meter with _ | i
      · simp [InstructionSet.insts, hs, hi]
      · obtain ⟨hw', hd', hp', -⟩ := hent hi
        simp [InstructionSet.insts, hs, hi, (instruction_eq_of_canonical hw' hd' hp').1 rfl]
    case clearActions =>
      rcases hi : ins .clearActions with _ | i
      · simp [InstructionSet.insts, hs, hi]
      · obtain ⟨hw', hd', hp', -⟩ := hent hi
        simp [InstructionSet.insts, hs, hi, (instruction_eq_of_canonical hw' hd' hp').2.2.1 rfl]
    case writeMetadata =>
      rcases hi : ins .writeMetadata with _ | i
      · simp [InstructionSet.insts, hs, hi]
      · obtain ⟨hw', hd', hp', -⟩ := hent hi
        simp [InstructionSet.insts, hs, hi, (instruction_eq_of_canonical hw' hd' hp').2.2.2.1 rfl]
    case gotoTable =>
      rcases hi : ins .gotoTable with _ | i
      · simp [InstructionSet.insts, hs, hi]
      · obtain ⟨hw', hd', hp', -⟩ := hent hi
        simp [InstructionSet.insts, hs, hi, (instruction_eq_of_canonical hw' hd' hp').2.2.2.2 rfl]
  have hm : s.meter.isSome → centec = true := fun hsm => by
    obtain ⟨i, hi⟩ := Option.isSome_iff_exists.1 (by simpa [hs] using hsm : (ins .meter).isSome)
    simpa [OvsInstructionType.inBuild] using (decodeOpenflow11Instruction_ok (hent hi).2.1).1
  have hwm' : s.writeMetadata.isSome → centec = false := fun h' => hwm (by simpa [hs] using h')
  have hg' : s.gotoTable.isSome → centec = false := fun h' => hgo (by simpa [hs] using h')
  -- The pull leaves the records of the set.
  have hout : out = instructionLayout s.records := by
    have := s.ofpactsFromInstructions_insts hco hm hwm' hg' hes rfl hl
    rw [← hins, hfi] at this
    exact (Prod.mk.inj this).1
  -- The encoder writes the set's instructions around the actions' own records.
  have hwb : ∀ e ∈ es, ∃ x, (ofpactFromOpenflow11 co centec e).1 = [x] ∧
      forEachEncode (ofpactToOpenflow11 co centec) x = some e := fun e he => by
    obtain ⟨x, hx, henc⟩ :=
      ofpactFromOpenflow11_writes_back (hes e he).1 (hcanes e he) (Prod.ext rfl (hes e he).2)
    have hfx := ofpactFromOpenflow11_fits hfit centec (hes e he).1.len_aligned x
      (by simp only [hx, List.mem_singleton])
    exact ⟨x, hx, by rw [forEachEncode_of_lt hfx, henc]⟩
  have ha : ∀ x ∈ s.actions, ofpactIsInstruction centec x = false := by
    intro x hx
    obtain ⟨e, he, hxe⟩ := List.mem_flatMap.1 hx
    obtain ⟨x', hx', henc⟩ := hwb e he
    rw [hx', List.mem_singleton] at hxe
    subst hxe
    have h8 := (hes e he).1.2.2
    unfold forEachEncode at henc
    split at henc
    · cases henc
    exact ofpactIsInstruction_of_toOpenflow11 henc
      (List.ne_nil_of_length_pos (by simp only [OFP_ACTION_ALIGN] at h8; omega))
  rw [hout, instructionLayout_ofpacts, s.put_of_mapM hm ha (mapM_flatMap_writes_back hwb),
    InstructionSet.wire, ← hins, collectInsts_putOrder hcol hwa hord, hB]

end Instructions

/-! ## The round trip -/

section RoundTrip

variable {co : Collab} {centec : Bool}

/-- The wire round trip on canonical input: in each dialect and either build, a
canonical list that the dialect's pull accepts is written back byte for byte by
the dialect's put, if the sub-codecs' records fit their 16-bit `len`, so that
the put's walk steps over each of them. -/
theorem canonical_round_trip (hco : co.SubReadsRecord) (hfit : co.SubFits) (d : Dialect)
    {B : List UInt8}
    {prior : Ofpbuf} (h : (d.pull co centec B B.length prior).error = none)
    (hcan : d.Canonical co centec B) :
    d.put co centec (d.pull co centec B B.length prior).ofpacts.ofpacts [] = some B := by
  cases d
  · exact @ofpactsPullActions_writes_back _ _ _ (ofpactFromOpenflow10_reads hco centec)
      (fun _ hr => ofpactFromOpenflow10_fits hfit centec hr.len_aligned)
      (fun _ hr hc _ hd => ofpactFromOpenflow10_writes_back hr hc hd) B prior h hcan
  · exact @ofpactsPullActions_writes_back _ _ _ (ofpactFromOpenflow11_reads hco centec)
      (fun _ hr => ofpactFromOpenflow11_fits hfit centec hr.len_aligned)
      (fun _ hr hc _ hd => ofpactFromOpenflow11_writes_back hr hc hd) B prior h hcan
  · exact @instructions_write_back co centec hco hfit B prior h hcan

end RoundTrip

/-- A 1.0 `set_vlan_vid` with a zero pad is accepted and written back. -/
theorem canonical_round_trip_set_vlan_vid :
    (Dialect.openflow10.pull Collab.rejectAll false [0, 1, 0, 8, 0, 5, 0, 0] 8 []).error = none ∧
      Dialect.openflow10.Canonical Collab.rejectAll false [0, 1, 0, 8, 0, 5, 0, 0] ∧
      Dialect.openflow10.put Collab.rejectAll false
        (Dialect.openflow10.pull Collab.rejectAll false [0, 1, 0, 8, 0, 5, 0, 0] 8 []).ofpacts.ofpacts
        [] = some [0, 1, 0, 8, 0, 5, 0, 0] :=
  have hcan : Dialect.openflow10.Canonical Collab.rejectAll false [0, 1, 0, 8, 0, 5, 0, 0] := by
    intro r hr
    obtain rfl : r = [0, 1, 0, 8, 0, 5, 0, 0] := List.mem_singleton.1 hr
    show ∀ p ∈ [((6 : Nat), (2 : Nat))], getBE [0, 1, 0, 8, 0, 5, 0, 0] p.1 p.2 = 0
    decide
  ⟨rfl, hcan, canonical_round_trip Collab.rejectAll_subReadsRecord Collab.rejectAll_subFits
    .openflow10 rfl hcan⟩

/-- Three lists that are canonical but for one condition each, and do not come
back. The Centec
build reads a write-actions instruction as its actions, which the encoder puts
in apply-actions; a Nicira `write_metadata` in a 1.1 action list is written as
nothing; the build without Centec reads a 1.1 `push_vlan` as two records and
writes two actions. -/
theorem canonical_round_trip_exceptions :
    (Dialect.openflow11Instructions.pull Collab.rejectAll true
        ([0, 3, 0, 24, 0, 0, 0, 0] ++ [0, 0, 0, 16, 0, 0, 0, 1, 0, 0, 0, 0, 0, 0, 0, 0]) 24 []).error =
        none ∧
      Dialect.openflow11Instructions.put Collab.rejectAll true
        (Dialect.openflow11Instructions.pull Collab.rejectAll true
          ([0, 3, 0, 24, 0, 0, 0, 0] ++ [0, 0, 0, 16, 0, 0, 0, 1, 0, 0, 0, 0, 0, 0, 0, 0]) 24
          []).ofpacts.ofpacts [] =
        some ([0, 4, 0, 24, 0, 0, 0, 0] ++ [0, 0, 0, 16, 0, 0, 0, 1, 0, 0, 0, 0, 0, 0, 0, 0]) ∧
    (Dialect.openflow11Actions.pull Collab.rejectAll false
        ([255, 255, 0, 32, 0, 0, 35, 32, 0, 22, 0, 0, 0, 0, 0, 0] ++ List.replicate 16 0) 32
        []).error = none ∧
      Dialect.openflow11Actions.put Collab.rejectAll false
        (Dialect.openflow11Actions.pull Collab.rejectAll false
          ([255, 255, 0, 32, 0, 0, 35, 32, 0, 22, 0, 0, 0, 0, 0, 0] ++ List.replicate 16 0) 32
          []).ofpacts.ofpacts [] = some [] ∧
    (Dialect.openflow11Actions.pull Collab.rejectAll false [0, 17, 0, 8, 129, 0, 0, 0] 8 []).error =
        none ∧
      Dialect.openflow11Actions.put Collab.rejectAll false
        (Dialect.openflow11Actions.pull Collab.rejectAll false [0, 17, 0, 8, 129, 0, 0, 0] 8
          []).ofpacts.ofpacts [] =
        some ([0, 17, 0, 8, 129, 0, 0, 0] ++ [0, 17, 0, 8, 129, 0, 0, 0]) :=
  ⟨rfl, rfl, rfl, rfl, rfl, rfl⟩

end OfpActions
