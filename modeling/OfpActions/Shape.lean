import OfpActions.Records

/-!
# Shape — what the encoders write

Component F of the spec writes each record with `ofputil_put_<ENUM>`, which
appends the zeroed struct with its `type` and `len`, and then stores the
fields; `ofpact_note_to_nxast`, `ofpact_dec_ttl_to_nxast` and
`ofpacts_update_instruction_actions` store a `len` computed after the
payload. Every record an encoder writes is `Framed`: its `len` field holds
its size as a 16-bit field holds it, and its size is a positive multiple of
`OFP_ACTION_ALIGN` (`ofpactToNxast_framed`, `ofpactToOpenflow10_framed`,
`ofpactToOpenflow11_framed`). A framed record is a wire record exactly when
its size fits in 16 bits (`isWireRecord_iff`). A note of 65519 payload bytes
fits its own 16-bit `len` but not its wire record's: that `len` wraps to 0,
and the pull refuses what the encoder wrote (`note_len_wraps`).

The first part says, for each header an encoder writes, what the decoders
read from it, so that no later proof unfolds a header.
-/

namespace OfpActions

/-! ## Headers -/

@[simp] theorem nxastHeader_length (c : Nxast) (len : Nat) : (nxastHeader c len).length = 10 :=
  rfl

@[simp] theorem ofputilPutOfpat10_length (c : Ofpat10) : (ofputilPutOfpat10 c).length = 4 := rfl

@[simp] theorem ofputilPutOfpat11_length (c : Ofpat11) : (ofputilPutOfpat11 c).length = 4 := rfl

theorem ofputilPutNxast_eq (c : Nxast) : ofputilPutNxast c = nxastHeader c c.size := rfl

theorem getBE_nxastHeader_type (c : Nxast) (len : Nat) (body : List UInt8) :
    getBE (nxastHeader c len ++ body) 0 2 = OFPAT10_VENDOR := by
  simp [nxastHeader, getBE_toBE_append, OFPAT10_VENDOR]

theorem getBE_nxastHeader_len (c : Nxast) (len : Nat) (body : List UInt8) :
    getBE (nxastHeader c len ++ body) 2 2 = len % 65536 := by
  simp only [nxastHeader, List.append_assoc]
  rw [getBE_append_right (by simp)]
  simp only [toBE_length, Nat.sub_self, getBE_toBE_append, Nat.reducePow]

/-- The fields after the header are read from the body. -/
theorem getBE_nxastHeader_body (c : Nxast) (len : Nat) (body : List UInt8) {off w : Nat}
    (h : 10 ≤ off) : getBE (nxastHeader c len ++ body) off w = getBE body (off - 10) w := by
  rw [getBE_append_right (by simpa using h), nxastHeader_length]

theorem rdBytes_nxastHeader_body (c : Nxast) (len : Nat) (body : List UInt8) {n : Nat} :
    rdBytes (nxastHeader c len ++ body) 10 n = rdBytes body 0 n :=
  List.map_congr_left fun i _ => by
    rw [List.getD_append_right _ _ _ _ (by simp), nxastHeader_length, Nat.add_sub_cancel_left,
      Nat.zero_add]

/-- `decode_nxast_action` classifies the header `ofputil_put_NXAST_<ENUM>`
writes, given a `len` its table row accepts. -/
theorem decodeNxastAction_nxastHeader {centec : Bool} {c : Nxast} (hc : c.inBuild centec)
    {len : Nat} (body : List UInt8) (h16 : 16 ≤ len) (hlt : len < 65536)
    (hs : if c.extensible then c.size ≤ len else len = c.size) :
    decodeNxastAction centec (nxastHeader c len ++ body) = .ok c := by
  have hsub : c.subtype < 65536 := by cases c <;> decide
  have h4 : getBE (nxastHeader c len ++ body) 4 4 = NX_VENDOR_ID := by
    simp only [nxastHeader, List.append_assoc]
    rw [getBE_append_right (by simp), getBE_append_right (by simp)]
    simp [getBE_toBE_append, NX_VENDOR_ID]
  have h8 : getBE (nxastHeader c len ++ body) 8 2 = c.subtype := by
    simp only [nxastHeader, List.append_assoc]
    rw [getBE_append_right (by simp), getBE_append_right (by simp), getBE_append_right (by simp)]
    simp only [toBE_length, Nat.reduceSub, getBE_toBE_append, Nat.reducePow]
    exact Nat.mod_eq_of_lt hsub
  simp only [decodeNxastAction, getBE_nxastHeader_len, Nat.mod_eq_of_lt hlt, h4, h8,
    Nxast.ofSubtype?_subtype hc, hs]
  simp [show ¬len < 16 by omega]

/-- A fixed-size Nicira record is classified by its header. -/
theorem decodeNxastAction_ofputilPutNxast {centec : Bool} {c : Nxast} (hc : c.inBuild centec)
    (body : List UInt8) : decodeNxastAction centec (ofputilPutNxast c ++ body) = .ok c :=
  decodeNxastAction_nxastHeader hc body (Nxast.size_ge c) (by cases c <;> decide)
    (by cases c <;> decide)

theorem decodeOpenflow10Action_nxastHeader (centec : Bool) (c : Nxast) (len : Nat)
    (body : List UInt8) :
    decodeOpenflow10Action centec (nxastHeader c len ++ body) =
      (decodeNxastAction centec (nxastHeader c len ++ body)).map .nxast := by
  simp [decodeOpenflow10Action, getBE_nxastHeader_type]

theorem decodeOpenflow11Action_nxastHeader (centec : Bool) (c : Nxast) (len : Nat)
    (body : List UInt8) :
    decodeOpenflow11Action centec (nxastHeader c len ++ body) =
      (decodeNxastAction centec (nxastHeader c len ++ body)).map .nxast := by
  simp [decodeOpenflow11Action, getBE_nxastHeader_type]

theorem getBE_ofputilPutOfpat10_body (c : Ofpat10) (body : List UInt8) {off w : Nat}
    (h : 4 ≤ off) : getBE (ofputilPutOfpat10 c ++ body) off w = getBE body (off - 4) w := by
  rw [getBE_append_right (by simpa using h), ofputilPutOfpat10_length]

theorem getBE_ofputilPutOfpat11_body (c : Ofpat11) (body : List UInt8) {off w : Nat}
    (h : 4 ≤ off) : getBE (ofputilPutOfpat11 c ++ body) off w = getBE body (off - 4) w := by
  rw [getBE_append_right (by simpa using h), ofputilPutOfpat11_length]

theorem getBE_ofputilPutOfpat10_len (c : Ofpat10) (body : List UInt8) :
    getBE (ofputilPutOfpat10 c ++ body) 2 2 = c.size := by
  rw [ofputilPutOfpat10, List.append_assoc, getBE_append_right (by simp)]
  simp only [toBE_length, Nat.sub_self, getBE_toBE_append, Nat.reducePow]
  exact Nat.mod_eq_of_lt (by cases c <;> decide)

theorem getBE_ofputilPutOfpat11_len (c : Ofpat11) (body : List UInt8) :
    getBE (ofputilPutOfpat11 c ++ body) 2 2 = c.size := by
  rw [ofputilPutOfpat11, List.append_assoc, getBE_append_right (by simp)]
  simp only [toBE_length, Nat.sub_self, getBE_toBE_append, Nat.reducePow]
  exact Nat.mod_eq_of_lt (by cases c <;> decide)

/-- `decode_openflow10_action` classifies the header `ofputil_put_OFPAT10_<ENUM>` writes. -/
theorem decodeOpenflow10Action_ofputilPutOfpat10 (centec : Bool) (c : Ofpat10)
    (body : List UInt8) :
    decodeOpenflow10Action centec (ofputilPutOfpat10 c ++ body) = .ok (.ofpat10 c) := by
  have h0 : getBE (ofputilPutOfpat10 c ++ body) 0 2 = c.type := by
    rw [ofputilPutOfpat10, List.append_assoc, getBE_toBE_append]
    exact Nat.mod_eq_of_lt (by cases c <;> decide)
  have hv : c.type ≠ OFPAT10_VENDOR := by cases c <;> decide
  simp [decodeOpenflow10Action, h0, hv, Ofpat10.ofType?_type, getBE_ofputilPutOfpat10_len]

/-- `decode_openflow11_action` classifies the header `ofputil_put_OFPAT11_<ENUM>`
writes, for a type of the build. -/
theorem decodeOpenflow11Action_ofputilPutOfpat11 {centec : Bool} {c : Ofpat11}
    (hc : c.inBuild centec) (body : List UInt8) :
    decodeOpenflow11Action centec (ofputilPutOfpat11 c ++ body) = .ok (.ofpat11 c) := by
  have h0 : getBE (ofputilPutOfpat11 c ++ body) 0 2 = c.type := by
    rw [ofputilPutOfpat11, List.append_assoc, getBE_toBE_append]
    exact Nat.mod_eq_of_lt (by cases c <;> decide)
  have hv : c.type ≠ OFPAT10_VENDOR := by cases c <;> decide
  have hs : c.extensible = false ∨ c = .setField := by cases c <;> simp [Ofpat11.extensible]
  simp only [decodeOpenflow11Action, h0, hv, if_false, Ofpat11.ofType?_type hc,
    getBE_ofputilPutOfpat11_len]
  rcases hs with hs | rfl
  · simp [hs]
  · simp

/-! ## Framed records -/

/-- A record as an encoder writes it: its `len` field holds its size as a
16-bit field holds it, and its size is a positive multiple of
`OFP_ACTION_ALIGN`. -/
def Framed (e : List UInt8) : Prop :=
  getBE e 2 2 = e.length % 65536 ∧ e.length % OFP_ACTION_ALIGN = 0 ∧ OFP_ACTION_ALIGN ≤ e.length

/-- A framed record is a wire record exactly when its size fits its `len`. -/
theorem isWireRecord_iff {e : List UInt8} : IsWireRecord e ↔ Framed e ∧ e.length < 65536 := by
  have hlt : getBE e 2 2 < 65536 := getBE_lt e 2 2
  unfold IsWireRecord Framed
  constructor
  · rintro ⟨h1, h2, h3⟩
    exact ⟨⟨by rw [h1, Nat.mod_eq_of_lt (h1 ▸ hlt)], h2, h3⟩, h1 ▸ hlt⟩
  · rintro ⟨⟨h1, h2, h3⟩, h4⟩
    exact ⟨by rw [h1, Nat.mod_eq_of_lt h4], h2, h3⟩

/-- A wire record's `len` is aligned. -/
theorem IsWireRecord.len_aligned {e : List UInt8} (h : IsWireRecord e) : getBE e 2 2 % 8 = 0 :=
  h.1 ▸ h.2.1

theorem framed_nxastHeader {c : Nxast} {len : Nat} {body : List UInt8}
    (h : len = 10 + body.length) (hm : len % 8 = 0) : Framed (nxastHeader c len ++ body) := by
  refine ⟨?_, ?_, ?_⟩ <;> simp [getBE_nxastHeader_len, OFP_ACTION_ALIGN] <;> omega

theorem framed_ofputilPutNxast {c : Nxast} {body : List UInt8} (h : c.size = 10 + body.length) :
    Framed (ofputilPutNxast c ++ body) :=
  framed_nxastHeader h (by cases c <;> decide)

theorem framed_ofputilPutOfpat10 {c : Ofpat10} {body : List UInt8}
    (h : c.size = 4 + body.length) : Framed (ofputilPutOfpat10 c ++ body) := by
  have : c.size % 8 = 0 ∧ 8 ≤ c.size ∧ c.size < 65536 := by cases c <;> decide
  refine ⟨?_, ?_, ?_⟩ <;> simp [getBE_ofputilPutOfpat10_len, OFP_ACTION_ALIGN] <;> omega

theorem framed_ofputilPutOfpat11 {c : Ofpat11} {body : List UInt8}
    (h : c.size = 4 + body.length) : Framed (ofputilPutOfpat11 c ++ body) := by
  have : c.size % 8 = 0 ∧ 8 ≤ c.size ∧ c.size < 65536 := by cases c <;> decide
  refine ⟨?_, ?_, ?_⟩ <;> simp [getBE_ofputilPutOfpat11_len, OFP_ACTION_ALIGN] <;> omega

@[simp] theorem flatMap_wr16_length (ids : List UInt16) : (ids.flatMap wr16).length = 2 * ids.length := by
  induction ids with
  | nil => rfl
  | cons i ids ih => simp [ih]; omega

theorem ofpactNoteToNxast_length (data : List UInt8) :
    (ofpactNoteToNxast data).length = roundUp (10 + data.length) 8 := by
  simp only [ofpactNoteToNxast, OFP_ACTION_ALIGN, roundUp]
  split <;> simp only [List.length_append, nxastHeader_length, zeros_length] <;> omega

/-- `ofpact_note_to_nxast` pads the payload to the alignment and stores the
size in `len`. -/
theorem ofpactNoteToNxast_framed (data : List UInt8) : Framed (ofpactNoteToNxast data) := by
  simp only [ofpactNoteToNxast, OFP_ACTION_ALIGN, List.append_assoc]
  split <;> exact framed_nxastHeader (by simp only [List.length_append, zeros_length]; omega)
    (by omega)

/-- `ofpact_dec_ttl_to_nxast` rounds the controller ids up to the alignment. -/
theorem ofpactDecTtlToNxast_framed (compat : OfputilActionCode) (ids : List UInt16) :
    Framed (ofpactDecTtlToNxast compat ids) := by
  have hr : 2 * ids.length ≤ roundUp (2 * ids.length) 8 := by unfold roundUp; omega
  have hm := roundUp_mod (2 * ids.length)
  unfold ofpactDecTtlToNxast
  split
  · exact framed_ofputilPutNxast (by simp [Nxast.size])
  · simp only [OFP_ACTION_ALIGN, List.append_assoc]
    refine framed_nxastHeader ?_ (by omega)
    simp only [List.length_append, toBE_length, zeros_length, flatMap_wr16_length]
    omega

theorem ofpactResubmitToNxast_framed (compat : OfputilActionCode) (inPort : UInt16)
    (tableId : UInt8) : Framed (ofpactResubmitToNxast compat inPort tableId) := by
  unfold ofpactResubmitToNxast
  split <;> simp only [List.append_assoc] <;> exact framed_ofputilPutNxast (by simp [Nxast.size])

theorem ofpactSetTunnelToNxast_framed (compat : OfputilActionCode) (tunId : UInt64) :
    Framed (ofpactSetTunnelToNxast compat tunId) := by
  unfold ofpactSetTunnelToNxast
  split <;> simp only [List.append_assoc] <;> exact framed_ofputilPutNxast (by simp [Nxast.size])

/-- The sub-codecs' `*_to_nxast` write framed records. -/
def Collab.SubFramed (co : Collab) : Prop := ∀ t body compat, Framed (co.subToNxast t body compat)

/-- Every record `ofpact_to_nxast` writes is framed. -/
theorem ofpactToNxast_framed {co : Collab} (hsub : co.SubFramed) {centec : Bool} {x : Ofpact}
    {e : List UInt8} (h : ofpactToNxast co centec x = some e) : Framed e := by
  rcases x with ⟨b, compat⟩
  cases b <;> simp only [ofpactToNxast, Option.some.injEq, reduceCtorEq] at h
  case sub => exact h ▸ hsub _ _ _
  case decTtl => exact h ▸ ofpactDecTtlToNxast_framed _ _
  case setTunnel => exact h ▸ ofpactSetTunnelToNxast_framed _ _
  case resubmit => exact h ▸ ofpactResubmitToNxast_framed _ _ _
  case note => exact h ▸ ofpactNoteToNxast_framed _
  case pushL2 | popL2 =>
    split at h <;> simp only [Option.some.injEq, reduceCtorEq] at h
    exact h ▸ framed_ofputilPutNxast (by simp [Nxast.size])
  all_goals
    subst h
    try simp only [List.append_assoc]
    exact framed_ofputilPutNxast (by simp [Nxast.size])

/-- Every record `ofpact_to_openflow10` writes is framed; the records it has
no 1.0 form for write nothing. -/
theorem ofpactToOpenflow10_framed {co : Collab} (hsub : co.SubFramed) {centec : Bool}
    {x : Ofpact} {e : List UInt8} (h : ofpactToOpenflow10 co centec x = some e) :
    e = [] ∨ Framed e := by
  rcases x with ⟨b, compat⟩
  cases b <;> simp only [ofpactToOpenflow10, Option.some.injEq] at h
  case pushVlan | clearActions | gotoTable => exact .inl h.symm
  case meter | setMplsTtl | group =>
    split at h <;> simp only [Option.some.injEq, reduceCtorEq] at h
    exact .inl h.symm
  case controller | outputReg | sub | decTtl | setTunnel | writeMetadata | setQueue | popQueue
    | finTimeout | resubmit | note | exit | pushMpls | popMpls | pushL2 | popL2 =>
    exact .inr (ofpactToNxast_framed hsub h)
  all_goals
    subst h
    try simp only [List.append_assoc]
    exact .inr (framed_ofputilPutOfpat10 (by simp [Ofpat10.size, EthAddr.length_eq]))

theorem ofpactDecTtlToOpenflow11_framed (compat : OfputilActionCode) (ids : List UInt16) :
    Framed (ofpactDecTtlToOpenflow11 compat ids) := by
  unfold ofpactDecTtlToOpenflow11
  split
  · exact framed_ofputilPutOfpat11 (by simp [Ofpat11.size])
  · exact ofpactDecTtlToNxast_framed _ _

/-- Every record `ofpact_to_openflow11` writes is framed; enqueue and
write-metadata write nothing. -/
theorem ofpactToOpenflow11_framed {co : Collab} (hsub : co.SubFramed) {centec : Bool}
    {x : Ofpact} {e : List UInt8} (h : ofpactToOpenflow11 co centec x = some e) :
    e = [] ∨ Framed e := by
  rcases x with ⟨b, compat⟩
  cases b <;> simp only [ofpactToOpenflow11, Option.some.injEq, reduceCtorEq] at h
  case enqueue | writeMetadata => exact .inl h.symm
  case decTtl => exact .inr (h ▸ ofpactDecTtlToOpenflow11_framed _ _)
  case group | setMplsTtl =>
    split at h <;> simp only [Option.some.injEq, reduceCtorEq] at h
    subst h
    try simp only [List.append_assoc]
    exact .inr (framed_ofputilPutOfpat11 (by simp [Ofpat11.size]))
  case controller | outputReg | sub | setTunnel | popQueue | finTimeout | resubmit | note | exit
    | pushL2 | popL2 =>
    exact .inr (ofpactToNxast_framed hsub h)
  all_goals
    subst h
    try simp only [List.append_assoc]
    exact .inr (framed_ofputilPutOfpat11 (by simp [Ofpat11.size, EthAddr.length_eq]))

/-! ## A note too long for its `len` -/

theorem ofpactsPut_singleton (enc : Ofpact → Option (List UInt8)) {x : Ofpact}
    (h : x.body.rawSize < 65536) (openflow : List UInt8) :
    ofpactsPut enc [x] openflow = (enc x).map (openflow ++ ·) := by
  rw [ofpactsPut, forEachEncode_of_lt h]
  rcases enc x with _ | e <;> rfl

/-- A note's `len` is its size as a 16-bit field holds it. -/
theorem getBE_ofpactNoteToNxast_len (data : List UInt8) :
    getBE (ofpactNoteToNxast data) 2 2 = roundUp (10 + data.length) 8 % 65536 := by
  rw [← ofpactNoteToNxast_length]
  exact (ofpactNoteToNxast_framed data).1

/-- A lone note whose record fits its `len` is put into a 1.0 list as
`ofpact_note_to_nxast` writes it. -/
theorem ofpactsPutOpenflow10_note (co : Collab) (centec : Bool) {data : List UInt8}
    (h : data.length < 65520) (compat : OfputilActionCode) :
    ofpactsPutOpenflow10 co centec [⟨.note data, compat⟩] [] = some (ofpactNoteToNxast data) := by
  rw [ofpactsPutOpenflow10, ofpactsPut_singleton _ (by simp only [OfpactBody.rawSize]; omega)]
  rfl

/-- A walk whose first record has `len` 0 stops there with `BAD_LEN`. -/
theorem ofpactsFromOpenflow_len_zero (f : List UInt8 → Decoded) (fuel : Nat) {a : List UInt8}
    (h : getBE a 2 2 = 0) {left : Nat} (hl : 0 < left) (out : Ofpbuf) :
    ofpactsFromOpenflow f fuel a left out = (out, some .ofpbacBadLen) := by
  cases fuel <;>
    simp [ofpactsFromOpenflow, actionIsValid, h, ofpactsFromOpenflowEnd, Nat.pos_iff_ne_zero.1 hl]

/-- A note payload of 65519 bytes fills its record's 16-bit `len` (65535).
Put into a 1.0 action list, it is written as a 65536-byte record whose `len`
field wraps to 0, and the 1.0 pull refuses that output with `BAD_LEN`. -/
theorem ofpactsPutOpenflow10_note_wraps (co : Collab) (centec : Bool) {data : List UInt8}
    (h : data.length = 65519) (compat : OfputilActionCode) :
    (⟨.note data, compat⟩ : Ofpact).len = 65535 ∧
      ofpactsPutOpenflow10 co centec [⟨.note data, compat⟩] [] = some (ofpactNoteToNxast data) ∧
      (ofpactNoteToNxast data).length = 65536 ∧ getBE (ofpactNoteToNxast data) 2 2 = 0 ∧
      (ofpactsPullOpenflow10 co centec (ofpactNoteToNxast data) 65536 []).error =
        some .ofpbacBadLen := by
  have hlen : (ofpactNoteToNxast data).length = 65536 := by rw [ofpactNoteToNxast_length, h]; rfl
  have hzero : getBE (ofpactNoteToNxast data) 2 2 = 0 := by rw [getBE_ofpactNoteToNxast_len, h]; rfl
  refine ⟨by rw [Ofpact.len, OfpactBody.rawSize, h], ofpactsPutOpenflow10_note _ _ (by omega) _,
    hlen, hzero, ?_⟩
  simp [ofpactsPullOpenflow10, ofpactsPullActions, ofpbufTryPull, hlen, OFP_ACTION_ALIGN,
    ofpactsFromOpenflow10, ofpactsFromOpenflow_len_zero _ _ hzero]

/-- The note of 65519 zero bytes: its record fits `len`, and its 1.0 record
does not. -/
theorem note_len_wraps :
    (⟨.note (List.replicate 65519 0), .actionInvalid⟩ : Ofpact).len = 65535 ∧
      ofpactsPutOpenflow10 Collab.rejectAll false [⟨.note (List.replicate 65519 0), .actionInvalid⟩]
        [] = some (ofpactNoteToNxast (List.replicate 65519 0)) ∧
      (ofpactNoteToNxast (List.replicate 65519 0)).length = 65536 ∧
      getBE (ofpactNoteToNxast (List.replicate 65519 0)) 2 2 = 0 ∧
      (ofpactsPullOpenflow10 Collab.rejectAll false (ofpactNoteToNxast (List.replicate 65519 0))
        65536 []).error = some .ofpbacBadLen :=
  ofpactsPutOpenflow10_note_wraps _ _ (List.length_replicate _ _) _

end OfpActions
