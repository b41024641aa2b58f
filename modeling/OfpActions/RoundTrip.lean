import OfpActions.Shape

/-!
# RoundTrip — one record written and read back

For each encoder of component F and the decoder of the same dialect: a record
whose fields are in the ranges the decoders admit (`Ofpact.Admitted`) and that
the encoder does not lose (`Dialect.loses`) is written as one wire record,
which the decoder reads back into the same body. The `compat` it comes back
with is the one naming the wire form the encoder chose (`Ofpact.nxCompat`,
`Ofpact.compat11`): `compat` steers the encoder between forms, and the decoder
records which form it read. The resubmit and set_tunnel encoders take the form
`compat` names only when it holds the record's value; `ofpact_dec_ttl_to_nxast`
takes the plain `NXAST_DEC_TTL` on `compat` alone, and that form carries no
ids (`dec_ttl_ids_dropped`), so `Ofpact.Admitted` asks for the id list `[0]`
there.

The sub-codec kinds are beyond the core (spec §1): that their records round
trip is the assumption `Collab.SubCarried`, through the 1.1 decoder for a
set-field `reg_load` and through the Nicira decoder for every other body.
-/

namespace OfpActions

/-! ## What the decoders admit -/

/-- `e` is a Nicira wire record that `ofpact_from_nxast` decodes into `y`. -/
def NxDecodes (co : Collab) (centec : Bool) (e : List UInt8) (y : Ofpact) : Prop :=
  IsWireRecord e ∧ getBE e 0 2 = OFPAT10_VENDOR ∧
    ∃ c, decodeNxastAction centec e = .ok c ∧ ofpactFromNxast co e c = ([y], none)

/-- The record a sub-codec writes for a body is one that the decoders read
back into the same body and `compat`. `ofpact_set_field_init` marks a
`reg_load` read from an `OFPAT12_SET_FIELD` record with that `compat`, and
`nxm_reg_load_to_nxast` writes such a body as a set-field record again, which
the 1.1 decoder reads; every other body is written as a Nicira record. -/
def Collab.SubCarried (co : Collab) (centec : Bool) (t : SubType) (body : List UInt8)
    (compat : OfputilActionCode) : Prop :=
  if compat = .ofpat11 .setField then
    IsWireRecord (co.subToNxast t body compat) ∧
      ofpactFromOpenflow11 co centec (co.subToNxast t body compat) = ([⟨.sub t body, compat⟩], none)
  else NxDecodes co centec (co.subToNxast t body compat) ⟨.sub t body, compat⟩

/-- The field values the decoders admit: every record a decoder puts has
them, and an encoder writes each of them in a form the decoder reads back.
`note` payloads come from a wire record, so they end on the alignment. -/
def Ofpact.Admitted (co : Collab) (centec : Bool) (x : Ofpact) : Prop :=
  match x.body with
  | .output port _ => ofputilCheckOutputPort port OFPP_MAX = none
  | .enqueue port _ => port.toNat < OFPP_MAX ∨ port = OFPP_IN_PORT ∨ port = OFPP_LOCAL
  | .setVlanVid vid => vid &&& ~~~0xfff = 0
  | .setVlanPcp pcp => pcp &&& ~~~7 = 0
  | .setIpv4Dscp dscp => dscp &&& ~~~IP_DSCP_MASK = 0
  | .outputReg src _ => src.ofs < 1024 ∧ 0 < src.nBits ∧ src.nBits ≤ 64 ∧ co.mfCheckSrc src = none
  | .decTtl ids => ids.length ≤ 32756 ∧ (x.compat = .nxast .decTtl → ids = [0])
  | .note data => (10 + data.length) % 8 = 0 ∧ data.length ≤ 65518
  | .pushMpls ethertype => centec ∨ ethTypeMpls ethertype
  | .popMpls ethertype => centec ∨ ethTypeMpls ethertype = false
  | .sub t body => co.SubCarried centec t body x.compat
  | .pushL2 | .popL2 | .setMplsTtl _ | .group _ | .meter _ => centec
  | _ => True

/-- The records the encoder of a dialect does not carry to the decoder of that
dialect: those it refuses (`NOT_REACHED`), those it drops (an `XXX` arm, or
write-metadata, which 1.1 expresses as an instruction), and those it writes
in a form the decoder refuses or reads back differently. The 1.0 entry is
also what `ofpact_to_nxast` loses: a set-field `reg_load`, written as an
`OFPAT12_SET_FIELD` record, which no Nicira or 1.0 decoder reads. -/
def Dialect.loses (centec : Bool) : Dialect → Ofpact → Bool
  | .openflow10, x =>
    match x.body with
    | .pushVlan _ | .clearActions | .gotoTable _ | .meter _ | .setMplsTtl _ | .group _ => true
    | .pushMpls ethertype => !ethTypeMpls ethertype
    | .popMpls ethertype => ethTypeMpls ethertype
    | .sub .. => x.compat == .ofpat11 .setField
    | _ => false
  | .openflow11Actions, x =>
    match x.body with
    | .enqueue .. | .writeMetadata .. | .clearActions | .gotoTable _ | .meter _ => true
    | .pushVlan _ => !centec
    | _ => false
  | .openflow11Instructions, x =>
    match x.body with
    | .enqueue .. => true
    | .pushVlan _ => !centec
    | .writeMetadata .. | .gotoTable _ => centec
    | .meter _ => !centec
    | _ => false

/-- The `compat` the Nicira decoder gives the record that the Nicira encoder
writes for `x`: the shape `ofpact_resubmit_to_nxast`,
`ofpact_set_tunnel_to_nxast` and `ofpact_dec_ttl_to_nxast` choose. -/
def Ofpact.nxCompat (x : Ofpact) : OfputilActionCode :=
  match x.body with
  | .sub .. => x.compat
  | .decTtl _ => if x.compat = .nxast .decTtl then .nxast .decTtl else .nxast .decTtlCntIds
  | .setTunnel tunId =>
    if tunId.toNat < 2 ^ 32 ∧ x.compat ≠ .nxast .setTunnel64 then .nxast .setTunnel
    else .nxast .setTunnel64
  | .resubmit _ tableId =>
    if tableId = 0xff ∧ x.compat ≠ .nxast .resubmitTable then .nxast .resubmit
    else .nxast .resubmitTable
  | _ => .actionInvalid

/-- The `compat` the 1.1 decoder gives the record that
`ofpact_to_openflow11` writes for `x`: `dec_nw_ttl` where
`ofpact_dec_ttl_to_openflow11` chooses it, else as for Nicira. -/
def Ofpact.compat11 (x : Ofpact) : OfputilActionCode :=
  match x.body with
  | .decTtl ids =>
    if ids = [0] ∧ (x.compat = .actionInvalid ∨ x.compat = .ofpat11 .decNwTtl) then
      .ofpat11 .decNwTtl
    else x.nxCompat
  | _ => x.nxCompat

/-! ## Reading fields back -/

theorem getBE_ofputilPutNxast_body (c : Nxast) (body : List UInt8) {off w : Nat} (h : 10 ≤ off) :
    getBE (ofputilPutNxast c ++ body) off w = getBE body (off - 10) w :=
  getBE_nxastHeader_body c c.size body h

theorem shiftLeft_six_or {a m : Nat} (hm : m < 2 ^ 6) : a <<< 6 ||| m = 2 ^ 6 * a + m := by
  apply Nat.eq_of_testBit_eq
  intro j
  rw [Nat.testBit_or, Nat.testBit_shiftLeft, Nat.testBit_mul_pow_two_add a hm]
  by_cases hj : j < 6
  · simp [hj]
  · have : m.testBit j = false :=
      Nat.testBit_lt_two_pow (Nat.lt_of_lt_of_le hm (Nat.pow_le_pow_right (by decide) (by omega)))
    simp [hj, this, show j ≥ 6 by omega]

/-- `nxm_decode_ofs` and `nxm_decode_n_bits` invert `nxm_encode_ofs_nbits`
on the slices a 16-bit `ofs_nbits` holds. -/
theorem nxmDecode_nxmEncodeOfsNbits {ofs nBits : Nat} (hofs : ofs < 1024) (h1 : 0 < nBits)
    (h64 : nBits ≤ 64) :
    nxmDecodeOfs (nxmEncodeOfsNbits ofs nBits % 65536) = ofs ∧
      nxmDecodeNBits (nxmEncodeOfsNbits ofs nBits % 65536) = nBits := by
  have he : nxmEncodeOfsNbits ofs nBits = 2 ^ 6 * ofs + (nBits - 1) := by
    rw [nxmEncodeOfsNbits, if_neg (Nat.pos_iff_ne_zero.1 h1)]
    exact shiftLeft_six_or (by simp only [Nat.reducePow]; omega)
  have hand : ∀ x : Nat, x &&& 0x3f = x % 2 ^ 6 := fun x => Nat.and_pow_two_sub_one_eq_mod x 6
  simp only [nxmDecodeOfs, nxmDecodeNBits, he, Nat.shiftRight_eq_div_pow, hand]
  omega

/-- The `i`th controller id of a `dec_ttl_cnt_ids` payload. -/
theorem getBE_flatMap_wr16 (ids : List UInt16) (rest : List UInt8) {i : Nat}
    (hi : i < ids.length) : getBE (ids.flatMap wr16 ++ rest) (2 * i) 2 = (ids.get ⟨i, hi⟩).toNat := by
  induction ids generalizing i with
  | nil => exact absurd hi (Nat.not_lt_zero _)
  | cons id ids ih =>
    cases i with
    | zero => simp [getBE_append_left]
    | succ i =>
      rw [List.flatMap_cons, List.append_assoc, getBE_append_right (by simp only [wr16_length]; omega)]
      simpa [Nat.mul_succ] using ih (by simpa using hi)

/-- The address `ofpact_to_openflow10` and `ofpact_to_openflow11` copy after a
4-byte header is the one the decoders copy out. -/
theorem rdEthAddr_after_header {p : List UInt8} (hp : p.length = 4) (mac : EthAddr)
    (rest : List UInt8) : rdEthAddr (p ++ (mac.bytes ++ rest)) 4 = mac := by
  rcases mac with ⟨bytes, hb⟩
  simp only [rdEthAddr, EthAddr.mk.injEq]
  rw [rdBytes_eq_take_drop (by simp; omega), List.drop_append_eq_append_drop, hp,
    List.drop_of_length_le (by omega), Nat.sub_self, List.drop_zero, List.nil_append,
    List.take_append_of_le_length (by omega), ← hb, List.take_length]

/-! ## The Nicira encoder -/

section Nicira

variable {co : Collab} {centec : Bool}

/-- A fixed-size Nicira record of the build that its decoder reads into `y`. -/
theorem nxDecodes_ofputilPutNxast {c : Nxast} (hc : c.inBuild centec) {body : List UInt8}
    (hlen : c.size = 10 + body.length) {y : Ofpact}
    (hy : ofpactFromNxast co (ofputilPutNxast c ++ body) c = ([y], none)) :
    NxDecodes co centec (ofputilPutNxast c ++ body) y := by
  have hs : c.size ≤ 32 := by cases c <;> decide
  refine ⟨isWireRecord_iff.2 ⟨framed_ofputilPutNxast hlen, ?_⟩, getBE_nxastHeader_type _ _ _, c,
    decodeNxastAction_ofputilPutNxast hc body, hy⟩
  simp only [List.length_append, ofputilPutNxast_eq, nxastHeader_length]
  omega

theorem ofpactDecTtlToNxast_decodes {compat : OfputilActionCode} {ids : List UInt16}
    (hn : ids.length ≤ 32756) (h0 : compat = .nxast .decTtl → ids = [0]) :
    NxDecodes co centec (ofpactDecTtlToNxast compat ids)
      ⟨.decTtl ids, (⟨.decTtl ids, compat⟩ : Ofpact).nxCompat⟩ := by
  unfold ofpactDecTtlToNxast
  split
  · rename_i hc
    obtain rfl := h0 hc
    exact nxDecodes_ofputilPutNxast (by rfl) (by simp [Nxast.size])
      (by simp [ofpactFromNxast, decTtlFromOpenflow, putOne, Ofpact.nxCompat, hc])
  · rename_i hc
    have hr : 2 * ids.length ≤ roundUp (2 * ids.length) 8 := by unfold roundUp; omega
    have hr' : roundUp (2 * ids.length) 8 ≤ 65512 := by unfold roundUp; omega
    have hm := roundUp_mod (2 * ids.length)
    simp only [OFP_ACTION_ALIGN, List.append_assoc]
    have hlen : (nxastHeader .decTtlCntIds (16 + roundUp (2 * ids.length) 8) ++ (toBE 2 ids.length ++
        (zeros 4 ++ (ids.flatMap wr16 ++ zeros (roundUp (2 * ids.length) 8 - 2 * ids.length))))).length
        = 16 + roundUp (2 * ids.length) 8 := by
      simp only [List.length_append, nxastHeader_length, toBE_length, zeros_length,
        flatMap_wr16_length]
      omega
    have hbody : 16 + roundUp (2 * ids.length) 8 = 10 + (toBE 2 ids.length ++
        (zeros 4 ++ (ids.flatMap wr16 ++ zeros (roundUp (2 * ids.length) 8 - 2 * ids.length)))).length := by
      simp only [List.length_append, toBE_length, zeros_length, flatMap_wr16_length]
      omega
    refine ⟨isWireRecord_iff.2 ⟨framed_nxastHeader hbody (by omega), by omega⟩,
      getBE_nxastHeader_type _ _ _, .decTtlCntIds,
      decodeNxastAction_nxastHeader (by rfl) _ (by omega) (by omega) (by simp [Nxast.extensible, Nxast.size]),
      ?_⟩
    have hids : ((List.range ids.length).map fun i => rd16 (nxastHeader .decTtlCntIds
        (16 + roundUp (2 * ids.length) 8) ++ (toBE 2 ids.length ++ (zeros 4 ++ (ids.flatMap wr16 ++
        zeros (roundUp (2 * ids.length) 8 - 2 * ids.length))))) (16 + 2 * i)) = ids := by
      refine List.ext_get (by simp) fun i h₁ h₂ => ?_
      simp only [List.get_eq_getElem, List.getElem_map, List.getElem_range, rd16]
      rw [getBE_nxastHeader_body _ _ _ (by omega), getBE_append_right (by rw [toBE_length]; omega),
        getBE_append_right (by rw [toBE_length, zeros_length]; omega)]
      simp only [toBE_length, zeros_length, show 16 + 2 * i - 10 - 2 - 4 = 2 * i by omega,
        getBE_flatMap_wr16 ids _ h₂, uint16_ofNat_toNat, List.get_eq_getElem]
    have hn' : getBE (nxastHeader .decTtlCntIds (16 + roundUp (2 * ids.length) 8) ++ (toBE 2 ids.length ++
        (zeros 4 ++ (ids.flatMap wr16 ++ zeros (roundUp (2 * ids.length) 8 - 2 * ids.length))))) 10 2 =
        ids.length := by
      rw [getBE_nxastHeader_body _ _ _ (by omega), Nat.sub_self, getBE_toBE_append]
      exact Nat.mod_eq_of_lt (by simp; omega)
    simp only [ofpactFromNxast, decTtlCntIdsFromOpenflow, hn', getBE_nxastHeader_len, hids,
      getBE_nxastHeader_body _ _ _ (show 10 ≤ 12 by omega), Nat.reduceSub, putOne, Ofpact.nxCompat,
      hc, if_false]
    rw [getBE_append_right (by simp), Nat.mod_eq_of_lt (by omega)]
    simp [getBE_append_left]
    omega

theorem ofpactSetTunnelToNxast_decodes (compat : OfputilActionCode) (tunId : UInt64) :
    NxDecodes co centec (ofpactSetTunnelToNxast compat tunId)
      ⟨.setTunnel tunId, (⟨.setTunnel tunId, compat⟩ : Ofpact).nxCompat⟩ := by
  unfold ofpactSetTunnelToNxast
  split <;> rename_i h <;> simp only [List.append_assoc] <;>
    refine nxDecodes_ofputilPutNxast (by rfl) (by simp [Nxast.size]) ?_
  · have : getBE (zeros 2 ++ toBE 4 tunId.toNat) 2 4 = tunId.toNat := by
      rw [getBE_append_right (by simp), zeros_length, Nat.sub_self, getBE_toBE]
      exact Nat.mod_eq_of_lt h.1
    simp only [Ofpact.nxCompat, if_pos h]
    simp [ofpactFromNxast, putOne, getBE_ofputilPutNxast_body, this]
  · simp only [Ofpact.nxCompat, if_neg h]
    simp [ofpactFromNxast, putOne, getBE_ofputilPutNxast_body, rd64, getBE_append_right]

theorem ofpactResubmitToNxast_decodes (compat : OfputilActionCode) (inPort : UInt16)
    (tableId : UInt8) :
    NxDecodes co centec (ofpactResubmitToNxast compat inPort tableId)
      ⟨.resubmit inPort tableId, (⟨.resubmit inPort tableId, compat⟩ : Ofpact).nxCompat⟩ := by
  unfold ofpactResubmitToNxast
  split <;> rename_i h <;> simp only [List.append_assoc] <;>
    refine nxDecodes_ofputilPutNxast (by rfl) (by simp [Nxast.size]) ?_
  · simp [ofpactFromNxast, resubmitFromOpenflow, putOne, Ofpact.nxCompat, h,
      getBE_ofputilPutNxast_body, rd16, getBE_append_left]
  · simp [ofpactFromNxast, resubmitTableFromOpenflow, putOne, Ofpact.nxCompat, h,
      getBE_ofputilPutNxast_body, rd16, rd8, getBE_append_left, getBE_append_right]

/-- A note whose header and payload end on the alignment is written with no
padding, so its payload is read back whole. -/
theorem ofpactNoteToNxast_decodes {data : List UInt8} (ha : (10 + data.length) % 8 = 0)
    (hn : data.length ≤ 65518) :
    NxDecodes co centec (ofpactNoteToNxast data) ⟨.note data, .actionInvalid⟩ := by
  have he : ofpactNoteToNxast data = nxastHeader .note (10 + data.length) ++ data := by
    simp [ofpactNoteToNxast, OFP_ACTION_ALIGN, ha, zeros]
  have hlen := ofpactNoteToNxast_length data
  rw [he] at hlen ⊢
  refine ⟨isWireRecord_iff.2 ⟨he ▸ ofpactNoteToNxast_framed data, ?_⟩, getBE_nxastHeader_type _ _ _,
    .note, decodeNxastAction_nxastHeader (by rfl) _ (by omega) (by omega)
      (by simp [Nxast.extensible, Nxast.size]; omega), ?_⟩
  · simp only [List.length_append, nxastHeader_length]
    omega
  · simp only [ofpactFromNxast, noteFromOpenflow, getBE_nxastHeader_len, rdBytes_nxastHeader_body,
      Nat.mod_eq_of_lt (show 10 + data.length < 65536 by omega), Nat.add_sub_cancel_left, putOne]
    rw [rdBytes_eq_take_drop (by simp), List.drop_zero, List.take_length]

/-- `ofpact_to_nxast` writes an admitted record as one Nicira wire record that
`ofpact_from_nxast` reads back into the same body. -/
theorem ofpactToNxast_decodes {x : Ofpact} {e : List UInt8} (hx : x.Admitted co centec)
    (hl : Dialect.openflow10.loses centec x = false) (h : ofpactToNxast co centec x = some e) :
    NxDecodes co centec e ⟨x.body, x.nxCompat⟩ := by
  rcases x with ⟨b, compat⟩
  cases b <;> simp only [ofpactToNxast, Option.some.injEq, reduceCtorEq] at h
  case controller maxLen controllerId reason =>
    subst h
    simp only [List.append_assoc]
    exact nxDecodes_ofputilPutNxast (by rfl) (by simp [Nxast.size])
      (by simp [ofpactFromNxast, putOne, Ofpact.nxCompat, getBE_ofputilPutNxast_body, rd16, rd8,
        getBE_append_left, getBE_append_right])
  case outputReg src maxLen =>
    obtain ⟨hofs, h1, h64, hsrc⟩ := hx
    obtain ⟨hd, hn⟩ := nxmDecode_nxmEncodeOfsNbits hofs h1 h64
    subst h
    simp only [List.append_assoc]
    refine nxDecodes_ofputilPutNxast (by rfl) (by simp [Nxast.size]) ?_
    simp [ofpactFromNxast, outputRegFromOpenflow, Ofpact.nxCompat, getBE_ofputilPutNxast_body, rd16,
      rd32, getBE_append_left, getBE_append_right, getBE_toBE, hd, hn, hsrc]
  case sub t body =>
    subst h
    have hc : compat ≠ .ofpat11 .setField := ne_of_beq_false hl
    simpa only [Ofpact.Admitted, Collab.SubCarried, if_neg hc] using hx
  case decTtl ids =>
    subst h
    exact ofpactDecTtlToNxast_decodes hx.1 hx.2
  case setTunnel tunId =>
    subst h
    exact ofpactSetTunnelToNxast_decodes compat tunId
  case writeMetadata metadata mask =>
    subst h
    simp only [List.append_assoc]
    exact nxDecodes_ofputilPutNxast (by rfl) (by simp [Nxast.size])
      (by simp [ofpactFromNxast, metadataFromNxast, putOne, Ofpact.nxCompat,
        getBE_ofputilPutNxast_body, rd64, getBE_append_left, getBE_append_right])
  case setQueue queueId =>
    subst h
    simp only [List.append_assoc]
    exact nxDecodes_ofputilPutNxast (by rfl) (by simp [Nxast.size])
      (by simp [ofpactFromNxast, putOne, Ofpact.nxCompat, getBE_ofputilPutNxast_body, rd32,
        getBE_append_right])
  case popQueue =>
    subst h
    exact nxDecodes_ofputilPutNxast (by rfl) (by simp [Nxast.size]) rfl
  case finTimeout idle hard =>
    subst h
    simp only [List.append_assoc]
    exact nxDecodes_ofputilPutNxast (by rfl) (by simp [Nxast.size])
      (by simp [ofpactFromNxast, putOne, Ofpact.nxCompat, getBE_ofputilPutNxast_body, rd16,
        getBE_append_left, getBE_append_right])
  case resubmit inPort tableId =>
    subst h
    exact ofpactResubmitToNxast_decodes compat inPort tableId
  case note data =>
    subst h
    exact ofpactNoteToNxast_decodes hx.1 hx.2
  case exit =>
    subst h
    exact nxDecodes_ofputilPutNxast (by rfl) (by simp [Nxast.size]) rfl
  case pushMpls ethertype =>
    subst h
    simp only [List.append_assoc]
    refine nxDecodes_ofputilPutNxast (by rfl) (by simp [Nxast.size]) ?_
    replace hl : ethTypeMpls ethertype = true := Bool.not_eq_eq_eq_not.1 hl
    simp [ofpactFromNxast, putOne, Ofpact.nxCompat, getBE_ofputilPutNxast_body, rd16,
      getBE_append_left, hl]
  case popMpls ethertype =>
    subst h
    simp only [List.append_assoc]
    refine nxDecodes_ofputilPutNxast (by rfl) (by simp [Nxast.size]) ?_
    replace hl : ethTypeMpls ethertype = false := hl
    simp [ofpactFromNxast, putOne, Ofpact.nxCompat, getBE_ofputilPutNxast_body, rd16,
      getBE_append_left, hl]
  case pushL2 | popL2 =>
    split at h <;> simp only [Option.some.injEq, reduceCtorEq] at h
    subst h
    exact nxDecodes_ofputilPutNxast (by assumption) (by simp [Nxast.size]) rfl

end Nicira

/-! ## The 1.0 encoder -/

section Openflow10

variable {co : Collab} {centec : Bool}

theorem isWireRecord_ofputilPutOfpat10 {c : Ofpat10} {body : List UInt8}
    (h : c.size = 4 + body.length) : IsWireRecord (ofputilPutOfpat10 c ++ body) := by
  have : c.size ≤ 16 := by cases c <;> decide
  refine isWireRecord_iff.2 ⟨framed_ofputilPutOfpat10 h, ?_⟩
  simp only [List.length_append, ofputilPutOfpat10_length]
  omega

/-- `ofpact_to_openflow10` writes an admitted record that it does not lose as
one wire record that `ofpact_from_openflow10` reads back into the same body. -/
theorem ofpactToOpenflow10_decodes {x : Ofpact} {e : List UInt8} (hx : x.Admitted co centec)
    (hl : Dialect.openflow10.loses centec x = false)
    (h : ofpactToOpenflow10 co centec x = some e) :
    IsWireRecord e ∧ ofpactFromOpenflow10 co centec e = ([⟨x.body, x.nxCompat⟩], none) := by
  have hnx (h' : ofpactToNxast co centec x = some e) :
      IsWireRecord e ∧ ofpactFromOpenflow10 co centec e = ([⟨x.body, x.nxCompat⟩], none) :=
    let ⟨hw, h0, _, hc, hd⟩ := ofpactToNxast_decodes hx hl h'
    ⟨hw, (ofpactFromOpenflow10_nxast co h0 hc).trans hd⟩
  rcases x with ⟨b, compat⟩
  cases b
  case controller | outputReg | sub | decTtl | setTunnel | writeMetadata | setQueue | popQueue
    | finTimeout | resubmit | note | exit | pushMpls | popMpls | pushL2 | popL2 => exact hnx h
  case pushVlan | clearActions | gotoTable | meter | setMplsTtl | group => cases hl
  case enqueue port queue =>
    simp only [ofpactToOpenflow10, Option.some.injEq] at h
    subst h
    refine ⟨isWireRecord_ofputilPutOfpat10 (by simp [Ofpat10.size]), ?_⟩
    simp [ofpactFromOpenflow10, decodeOpenflow10Action_ofputilPutOfpat10, enqueueFromOpenflow10,
      putOne, Ofpact.nxCompat, getBE_ofputilPutOfpat10_body, rd16, rd32, getBE_append_left,
      getBE_append_right]
    exact fun h1 h2 => (hx.resolve_left (Nat.not_lt.2 h1)).resolve_left h2
  all_goals
    simp only [ofpactToOpenflow10, Option.some.injEq] at h
    subst h
    simp only [Ofpact.Admitted] at hx
    refine ⟨isWireRecord_ofputilPutOfpat10 (by simp [Ofpat10.size, EthAddr.length_eq]), ?_⟩
    simp [ofpactFromOpenflow10, decodeOpenflow10Action_ofputilPutOfpat10, outputFromOpenflow10,
      enqueueFromOpenflow10, setVlanVidFromOpenflow, setVlanPcpFromOpenflow, setNwTosFromOpenflow,
      putOne, Ofpact.nxCompat, getBE_ofputilPutOfpat10_body, rd8, rd16, rd32, getBE_append_left,
      getBE_append_right, rdEthAddr_after_header, hx]

end Openflow10

/-! ## The 1.1 encoder -/

section Openflow11

variable {co : Collab} {centec : Bool}

/-- `ofputil_port_from_ofp11` inverts `ofputil_port_to_ofp11` on every 16-bit port. -/
theorem ofputilPortFromOfp11_toOfp11 (port : UInt16) :
    ofputilPortFromOfp11 (ofputilPortToOfp11 port) = .ok port := by
  have hp : port.toNat < 65536 := port.toBitVec.isLt
  have hto : (ofputilPortToOfp11 port).toNat =
      (if port.toNat < OFPP_MAX then port.toNat else port.toNat + OFPP11_OFFSET) % 2 ^ 32 := rfl
  unfold ofputilPortFromOfp11
  rw [hto]
  by_cases hm : port.toNat < OFPP_MAX
  · rw [if_pos hm, Nat.mod_eq_of_lt (by simp only [OFPP_MAX] at hm; omega), if_pos hm,
      uint16_ofNat_toNat]
  · simp only [OFPP_MAX, OFPP11_MAX, OFPP11_OFFSET] at *
    rw [if_neg hm, Nat.mod_eq_of_lt (by omega), if_neg (by omega), if_pos (by omega),
      Nat.add_sub_cancel, uint16_ofNat_toNat]

theorem isWireRecord_ofputilPutOfpat11 {c : Ofpat11} {body : List UInt8}
    (h : c.size = 4 + body.length) : IsWireRecord (ofputilPutOfpat11 c ++ body) := by
  have : c.size ≤ 16 := by cases c <;> decide
  refine isWireRecord_iff.2 ⟨framed_ofputilPutOfpat11 h, ?_⟩
  simp only [List.length_append, ofputilPutOfpat11_length]
  omega

theorem ofpactDecTtlToOpenflow11_decodes {compat : OfputilActionCode} {ids : List UInt16}
    (hn : ids.length ≤ 32756) (h0 : compat = .nxast .decTtl → ids = [0]) :
    IsWireRecord (ofpactDecTtlToOpenflow11 compat ids) ∧
      ofpactFromOpenflow11 co centec (ofpactDecTtlToOpenflow11 compat ids) =
        ([⟨.decTtl ids, (⟨.decTtl ids, compat⟩ : Ofpact).compat11⟩], none) := by
  unfold ofpactDecTtlToOpenflow11
  split
  · rename_i h
    obtain ⟨rfl, hc⟩ := h
    refine ⟨isWireRecord_ofputilPutOfpat11 (by simp [Ofpat11.size]), ?_⟩
    simp [ofpactFromOpenflow11, decodeOpenflow11Action_ofputilPutOfpat11 (show Ofpat11.inBuild centec
      .decNwTtl = true by rfl), decTtlFromOpenflow, putOne, Ofpact.compat11, hc]
  · rename_i h
    obtain ⟨hw, h0', _, hc, hd⟩ := @ofpactDecTtlToNxast_decodes co centec _ _ hn h0
    refine ⟨hw, (ofpactFromOpenflow11_nxast co h0' hc).trans ?_⟩
    simp only [hd, Ofpact.compat11, if_neg h]

/-- `ofpact_to_openflow11` writes an admitted record that it does not lose as
one wire record that `ofpact_from_openflow11` reads back into the same body. -/
theorem ofpactToOpenflow11_decodes {x : Ofpact} {e : List UInt8} (hx : x.Admitted co centec)
    (hl : Dialect.openflow11Actions.loses centec x = false)
    (h : ofpactToOpenflow11 co centec x = some e) :
    IsWireRecord e ∧ ofpactFromOpenflow11 co centec e = ([⟨x.body, x.compat11⟩], none) := by
  have hnx (h10 : Dialect.openflow10.loses centec x = false)
      (h' : ofpactToNxast co centec x = some e) :
      IsWireRecord e ∧ ofpactFromOpenflow11 co centec e = ([⟨x.body, x.nxCompat⟩], none) :=
    let ⟨hw, h0, _, hc, hd⟩ := ofpactToNxast_decodes hx h10 h'
    ⟨hw, (ofpactFromOpenflow11_nxast co h0 hc).trans hd⟩
  rcases x with ⟨b, compat⟩
  cases b
  case controller | outputReg | setTunnel | popQueue | finTimeout | resubmit | note | exit
    | pushL2 | popL2 => exact hnx rfl h
  case sub t body =>
    by_cases hc : compat = .ofpat11 .setField
    · simp only [ofpactToOpenflow11, ofpactToNxast, Option.some.injEq] at h
      subst h
      simpa only [Ofpact.Admitted, Collab.SubCarried, if_pos hc] using hx
    · exact hnx (beq_false_of_ne hc) h
  case enqueue | writeMetadata | clearActions | gotoTable | meter => cases hl
  case decTtl ids =>
    simp only [ofpactToOpenflow11, Option.some.injEq] at h
    subst h
    exact ofpactDecTtlToOpenflow11_decodes hx.1 hx.2
  case output port maxLen =>
    simp only [ofpactToOpenflow11, Option.some.injEq] at h
    subst h
    refine ⟨isWireRecord_ofputilPutOfpat11 (by simp [Ofpat11.size]), ?_⟩
    simp [ofpactFromOpenflow11, decodeOpenflow11Action_ofputilPutOfpat11
      (show Ofpat11.inBuild centec .output = true by rfl), outputFromOpenflow11, Ofpact.compat11,
      Ofpact.nxCompat, getBE_ofputilPutOfpat11_body, rd16, rd32, getBE_append_left,
      getBE_append_right, ofputilPortFromOfp11_toOfp11, show ofputilCheckOutputPort port OFPP_MAX = none from hx]
  case pushVlan ethertype =>
    cases centec
    · cases hl
    · simp only [ofpactToOpenflow11, Option.some.injEq, if_true] at h
      subst h
      refine ⟨isWireRecord_ofputilPutOfpat11 (by simp [Ofpat11.size]), ?_⟩
      simp [ofpactFromOpenflow11, decodeOpenflow11Action_ofputilPutOfpat11
        (show Ofpat11.inBuild true .pushVlan = true by rfl), pushVlanFromOpenflow11, putOne,
        Ofpact.compat11, Ofpact.nxCompat, getBE_ofputilPutOfpat11_body, rd16, getBE_append_left]
  case group | setMplsTtl =>
    obtain rfl : centec = true := hx
    simp only [ofpactToOpenflow11, if_true, Option.some.injEq] at h
    subst h
    refine ⟨isWireRecord_ofputilPutOfpat11 (by simp [Ofpat11.size]), ?_⟩
    simp [ofpactFromOpenflow11, decodeOpenflow11Action_ofputilPutOfpat11, Ofpat11.inBuild, putOne,
      Ofpact.compat11, Ofpact.nxCompat, getBE_ofputilPutOfpat11_body, rd8, rd32, getBE_append_left]
  case pushMpls ethertype | popMpls ethertype =>
    simp only [ofpactToOpenflow11, Option.some.injEq] at h
    subst h
    refine ⟨isWireRecord_ofputilPutOfpat11 (by simp [Ofpat11.size]), ?_⟩
    simp [ofpactFromOpenflow11, decodeOpenflow11Action_ofputilPutOfpat11, Ofpat11.inBuild, putOne,
      Ofpact.compat11, Ofpact.nxCompat, getBE_ofputilPutOfpat11_body, rd16, getBE_append_left]
    exact fun hc => hx.resolve_left (by simp [hc])
  all_goals
    simp only [ofpactToOpenflow11, Option.some.injEq] at h
    subst h
    simp only [Ofpact.Admitted] at hx
    refine ⟨isWireRecord_ofputilPutOfpat11 (by simp [Ofpat11.size, EthAddr.length_eq]), ?_⟩
    simp [ofpactFromOpenflow11, decodeOpenflow11Action_ofputilPutOfpat11, Ofpat11.inBuild,
      setVlanVidFromOpenflow, setVlanPcpFromOpenflow, setNwTosFromOpenflow, putOne, Ofpact.compat11,
      Ofpact.nxCompat, getBE_ofputilPutOfpat11_body, rd8, rd16, rd32, getBE_append_left,
      getBE_append_right, rdEthAddr_after_header, hx]

end Openflow11

/-! ## Every encoder, one record -/

/-- Each of `ofpact_to_nxast`, `ofpact_to_openflow10` and `ofpact_to_openflow11`
writes a record with admitted fields, of a kind it does not lose, as one wire
record that the same dialect's decoder reads back into the same body; only
`compat` may differ, and it names the form the encoder chose. -/
theorem encoders_keep_body {co : Collab} {centec : Bool} {x : Ofpact} (hx : x.Admitted co centec) :
    (Dialect.openflow10.loses centec x = false → ∀ e, ofpactToNxast co centec x = some e →
      NxDecodes co centec e ⟨x.body, x.nxCompat⟩) ∧
    (Dialect.openflow10.loses centec x = false → ∀ e, ofpactToOpenflow10 co centec x = some e →
      IsWireRecord e ∧ ofpactFromOpenflow10 co centec e = ([⟨x.body, x.nxCompat⟩], none)) ∧
    (Dialect.openflow11Actions.loses centec x = false →
      ∀ e, ofpactToOpenflow11 co centec x = some e →
        IsWireRecord e ∧ ofpactFromOpenflow11 co centec e = ([⟨x.body, x.compat11⟩], none)) :=
  ⟨fun hl _ => ofpactToNxast_decodes hx hl, fun hl _ => ofpactToOpenflow10_decodes hx hl,
    fun hl _ => ofpactToOpenflow11_decodes hx hl⟩

/-- A tunnel id beyond 32 bits with the `set_tunnel` hint is written as
`set_tunnel64` and read back whole. -/
theorem encoders_keep_body_set_tunnel :
    Ofpact.Admitted Collab.rejectAll false ⟨.setTunnel 0x100000000, .nxast .setTunnel⟩ ∧
      NxDecodes Collab.rejectAll false (ofpactSetTunnelToNxast (.nxast .setTunnel) 0x100000000)
        ⟨.setTunnel 0x100000000, .nxast .setTunnel64⟩ :=
  ⟨trivial, (@encoders_keep_body Collab.rejectAll false ⟨.setTunnel 0x100000000, .nxast .setTunnel⟩ trivial).1 rfl _ rfl⟩

/- A one-byte note is padded to the alignment, and the five zeros of padding
come back as payload. -/
example :
    ofpactToOpenflow10 Collab.rejectAll false ⟨.note [1], .actionInvalid⟩ =
        some [255, 255, 0, 16, 0, 0, 35, 32, 0, 8, 1, 0, 0, 0, 0, 0] ∧
      ofpactFromOpenflow10 Collab.rejectAll false [255, 255, 0, 16, 0, 0, 35, 32, 0, 8, 1, 0, 0, 0, 0, 0] =
        ([⟨.note [1, 0, 0, 0, 0, 0], .actionInvalid⟩], none) :=
  ⟨rfl, rfl⟩

/-- A dec_ttl whose `compat` names `NXAST_DEC_TTL` is written as a plain
`NXAST_DEC_TTL`, which carries no ids, whatever ids it holds: controller ids 1
and 2 read back as the one id 0. The resubmit and set_tunnel encoders take the
form `compat` names only when it can hold the record's value. -/
theorem dec_ttl_ids_dropped :
    ofpactToOpenflow10 Collab.rejectAll false ⟨.decTtl [1, 2], .nxast .decTtl⟩ =
        some [255, 255, 0, 16, 0, 0, 35, 32, 0, 18, 0, 0, 0, 0, 0, 0] ∧
      ofpactFromOpenflow10 Collab.rejectAll false
          [255, 255, 0, 16, 0, 0, 35, 32, 0, 18, 0, 0, 0, 0, 0, 0] =
        ([⟨.decTtl [0], .nxast .decTtl⟩], none) :=
  ⟨rfl, rfl⟩

end OfpActions
