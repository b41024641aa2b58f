import OfpActions.Pull

/-!
# Encode — internal records to wire actions and instructions

Component F of the spec: `ofpact_to_nxast`, `ofpact_to_openflow10`,
`ofpact_to_openflow11` and the three put functions of §6.1.

`ofputil_put_<ENUM>` appends its struct zeroed, with `type` and `len` (and for
a Nicira action `vendor` and `subtype`) filled in; the encoder then stores the
fields. Each encoder below is that struct, field by field. An encoder returns
`none` where the C reaches `NOT_REACHED()`, which aborts, and a put returns
`none` where its `OFPACT_FOR_EACH` cannot step past a record whose size does
not fit the record's 16-bit `len` (`forEachEncode`).
-/

namespace OfpActions

/-- The header `ofputil_put_OFPAT10_<ENUM>` writes. -/
def ofputilPutOfpat10 (c : Ofpat10) : List UInt8 := toBE 2 c.type ++ toBE 2 c.size

/-- The header `ofputil_put_OFPAT11_<ENUM>` writes. -/
def ofputilPutOfpat11 (c : Ofpat11) : List UInt8 := toBE 2 c.type ++ toBE 2 c.size

/-- The header `ofputil_put_NXAST_<ENUM>` writes, with the `len` field given:
the struct size, or what the encoder stores over it. -/
def nxastHeader (c : Nxast) (len : Nat) : List UInt8 :=
  toBE 2 OFPAT10_VENDOR ++ toBE 2 len ++ toBE 4 NX_VENDOR_ID ++ toBE 2 c.subtype

/-- `ofputil_put_NXAST_<ENUM>`. -/
def ofputilPutNxast (c : Nxast) : List UInt8 := nxastHeader c c.size

/-- `ROUND_UP(x, y)`. -/
def roundUp (x y : Nat) : Nat := (x + y - 1) / y * y

/-- `nxm_encode_ofs_nbits`, `htons((ofs << 6) | (n_bits - 1))` over C `int`s:
at `n_bits = 0` the `- 1` is `-1`, all ones, so the field is `0xffff`.
Modelled from the spec (the field slice's `offset` and `n_bits`, §1):
`nx-match.h`, which defines it, is not among the sources. -/
def nxmEncodeOfsNbits (ofs nBits : Nat) : Nat :=
  if nBits = 0 then 0xffff else ofs <<< 6 ||| (nBits - 1)

/-- `ofpact_resubmit_to_nxast`. -/
def ofpactResubmitToNxast (compat : OfputilActionCode) (inPort : UInt16) (tableId : UInt8) :
    List UInt8 :=
  if tableId = 0xff ∧ compat ≠ .nxast .resubmitTable then
    ofputilPutNxast .resubmit ++ wr16 inPort ++ zeros 4
  else ofputilPutNxast .resubmitTable ++ wr16 inPort ++ wr8 tableId ++ zeros 3

/-- `ofpact_set_tunnel_to_nxast`. -/
def ofpactSetTunnelToNxast (compat : OfputilActionCode) (tunId : UInt64) : List UInt8 :=
  if tunId.toNat < 2 ^ 32 ∧ compat ≠ .nxast .setTunnel64 then
    ofputilPutNxast .setTunnel ++ zeros 2 ++ toBE 4 tunId.toNat
  else ofputilPutNxast .setTunnel64 ++ zeros 6 ++ wr64 tunId

/-- `ofpact_note_to_nxast`: the 10-byte header, the payload, zeros up to the
alignment, and `len` set to all of it. -/
def ofpactNoteToNxast (data : List UInt8) : List UInt8 :=
  let pad := if (10 + data.length) % OFP_ACTION_ALIGN ≠ 0
    then OFP_ACTION_ALIGN - (10 + data.length) % OFP_ACTION_ALIGN else 0
  nxastHeader .note (10 + data.length + pad) ++ data ++ zeros pad

/-- `ofpact_dec_ttl_to_nxast`. -/
def ofpactDecTtlToNxast (compat : OfputilActionCode) (cntIds : List UInt16) : List UInt8 :=
  if compat = .nxast .decTtl then ofputilPutNxast .decTtl ++ zeros 6
  else
    let idsLen := roundUp (2 * cntIds.length) OFP_ACTION_ALIGN
    nxastHeader .decTtlCntIds (16 + idsLen) ++ toBE 2 cntIds.length ++ zeros 4 ++
      cntIds.flatMap wr16 ++ zeros (idsLen - 2 * cntIds.length)

/-- `ofpact_to_nxast`. -/
def ofpactToNxast (co : Collab) (centec : Bool) (a : Ofpact) : Option (List UInt8) :=
  match a.body with
  | .controller maxLen controllerId reason =>
    some (ofputilPutNxast .controller ++ wr16 maxLen ++ wr16 controllerId ++ wr8 reason ++ zeros 1)
  | .outputReg src maxLen =>
    some (ofputilPutNxast .outputReg ++ toBE 2 (nxmEncodeOfsNbits src.ofs src.nBits) ++
      wr32 src.field ++ wr16 maxLen ++ zeros 6)
  | .sub t body => some (co.subToNxast t body a.compat)
  | .decTtl cntIds => some (ofpactDecTtlToNxast a.compat cntIds)
  | .setTunnel tunId => some (ofpactSetTunnelToNxast a.compat tunId)
  | .writeMetadata metadata mask =>
    some (ofputilPutNxast .writeMetadata ++ zeros 6 ++ wr64 metadata ++ wr64 mask)
  | .setQueue queueId => some (ofputilPutNxast .setQueue ++ zeros 2 ++ wr32 queueId)
  | .popQueue => some (ofputilPutNxast .popQueue ++ zeros 6)
  | .finTimeout idle hard => some (ofputilPutNxast .finTimeout ++ wr16 idle ++ wr16 hard ++ zeros 2)
  | .resubmit inPort tableId => some (ofpactResubmitToNxast a.compat inPort tableId)
  | .note data => some (ofpactNoteToNxast data)
  | .exit => some (ofputilPutNxast .exit ++ zeros 6)
  | .pushMpls ethertype => some (ofputilPutNxast .pushMpls ++ wr16 ethertype ++ zeros 4)
  | .popMpls ethertype => some (ofputilPutNxast .popMpls ++ wr16 ethertype ++ zeros 4)
  | .pushL2 => if centec then some (ofputilPutNxast .pushL2 ++ zeros 6) else none
  | .popL2 => if centec then some (ofputilPutNxast .popL2 ++ zeros 6) else none
  | .setMplsTtl _ | .meter _ | .group _ => none
  | .output .. | .enqueue .. | .setVlanVid _ | .setVlanPcp _ | .stripVlan | .pushVlan _
  | .setEthSrc _ | .setEthDst _ | .setIpv4Src _ | .setIpv4Dst _ | .setIpv4Dscp _
  | .setL4SrcPort _ | .setL4DstPort _ | .clearActions | .gotoTable _ => none

/-- `ofpact_to_openflow10`: push-VLAN, clear-actions, goto-table (and the
Centec meter, MPLS TTL and group) append nothing. -/
def ofpactToOpenflow10 (co : Collab) (centec : Bool) (a : Ofpact) : Option (List UInt8) :=
  match a.body with
  | .output port maxLen => some (ofputilPutOfpat10 .output ++ wr16 port ++ wr16 maxLen)
  | .enqueue port queue => some (ofputilPutOfpat10 .enqueue ++ wr16 port ++ zeros 6 ++ wr32 queue)
  | .setVlanVid vid => some (ofputilPutOfpat10 .setVlanVid ++ wr16 vid ++ zeros 2)
  | .setVlanPcp pcp => some (ofputilPutOfpat10 .setVlanPcp ++ wr8 pcp ++ zeros 3)
  | .stripVlan => some (ofputilPutOfpat10 .stripVlan ++ zeros 4)
  | .setEthSrc mac => some (ofputilPutOfpat10 .setDlSrc ++ mac.bytes ++ zeros 6)
  | .setEthDst mac => some (ofputilPutOfpat10 .setDlDst ++ mac.bytes ++ zeros 6)
  | .setIpv4Src ipv4 => some (ofputilPutOfpat10 .setNwSrc ++ wr32 ipv4)
  | .setIpv4Dst ipv4 => some (ofputilPutOfpat10 .setNwDst ++ wr32 ipv4)
  | .setIpv4Dscp dscp => some (ofputilPutOfpat10 .setNwTos ++ wr8 dscp ++ zeros 3)
  | .setL4SrcPort port => some (ofputilPutOfpat10 .setTpSrc ++ wr16 port ++ zeros 2)
  | .setL4DstPort port => some (ofputilPutOfpat10 .setTpDst ++ wr16 port ++ zeros 2)
  | .pushVlan _ | .clearActions | .gotoTable _ => some []
  | .meter _ | .setMplsTtl _ | .group _ => if centec then some [] else none
  | .controller .. | .outputReg .. | .sub .. | .decTtl _ | .setTunnel _ | .writeMetadata ..
  | .setQueue _ | .popQueue | .finTimeout .. | .resubmit .. | .note _ | .exit | .pushMpls _
  | .popMpls _ | .pushL2 | .popL2 => ofpactToNxast co centec a

/-- `ofpact_dec_ttl_to_openflow11`. -/
def ofpactDecTtlToOpenflow11 (compat : OfputilActionCode) (cntIds : List UInt16) : List UInt8 :=
  if cntIds = [0] ∧ (compat = .actionInvalid ∨ compat = .ofpat11 .decNwTtl) then
    ofputilPutOfpat11 .decNwTtl ++ zeros 4
  else ofpactDecTtlToNxast compat cntIds

/-- `ofpact_to_openflow11`: enqueue and write-metadata append nothing. -/
def ofpactToOpenflow11 (co : Collab) (centec : Bool) (a : Ofpact) : Option (List UInt8) :=
  match a.body with
  | .output port maxLen =>
    some (ofputilPutOfpat11 .output ++ wr32 (ofputilPortToOfp11 port) ++ wr16 maxLen ++ zeros 6)
  | .enqueue .. => some []
  | .setVlanVid vid => some (ofputilPutOfpat11 .setVlanVid ++ wr16 vid ++ zeros 2)
  | .setVlanPcp pcp => some (ofputilPutOfpat11 .setVlanPcp ++ wr8 pcp ++ zeros 3)
  | .stripVlan => some (ofputilPutOfpat11 .popVlan ++ zeros 4)
  | .pushVlan ethertype =>
    some (ofputilPutOfpat11 .pushVlan ++ wr16 (if centec then ethertype else ETH_TYPE_VLAN_8021Q) ++
      zeros 2)
  | .setQueue queueId => some (ofputilPutOfpat11 .setQueue ++ wr32 queueId)
  | .setEthSrc mac => some (ofputilPutOfpat11 .setDlSrc ++ mac.bytes ++ zeros 6)
  | .setEthDst mac => some (ofputilPutOfpat11 .setDlDst ++ mac.bytes ++ zeros 6)
  | .setIpv4Src ipv4 => some (ofputilPutOfpat11 .setNwSrc ++ wr32 ipv4)
  | .setIpv4Dst ipv4 => some (ofputilPutOfpat11 .setNwDst ++ wr32 ipv4)
  | .setIpv4Dscp dscp => some (ofputilPutOfpat11 .setNwTos ++ wr8 dscp ++ zeros 3)
  | .setL4SrcPort port => some (ofputilPutOfpat11 .setTpSrc ++ wr16 port ++ zeros 2)
  | .setL4DstPort port => some (ofputilPutOfpat11 .setTpDst ++ wr16 port ++ zeros 2)
  | .decTtl cntIds => some (ofpactDecTtlToOpenflow11 a.compat cntIds)
  | .writeMetadata .. => some []
  | .pushMpls ethertype => some (ofputilPutOfpat11 .pushMpls ++ wr16 ethertype ++ zeros 2)
  | .popMpls ethertype => some (ofputilPutOfpat11 .popMpls ++ wr16 ethertype ++ zeros 2)
  | .clearActions | .gotoTable _ | .meter _ => none
  | .group groupId => if centec then some (ofputilPutOfpat11 .group ++ wr32 groupId) else none
  | .setMplsTtl ttl =>
    if centec then some (ofputilPutOfpat11 .setMplsTtl ++ wr8 ttl ++ zeros 3) else none
  | .controller .. | .outputReg .. | .sub .. | .setTunnel _ | .popQueue | .finTimeout ..
  | .resubmit .. | .note _ | .exit | .pushL2 | .popL2 => ofpactToNxast co centec a

/-- `enc` at the record `OFPACT_FOR_EACH` stands on, if the loop can step past
it: the step is `OFPACT_ALIGN(a->len)`, which for a record whose size does not
fit its 16-bit `len` lands inside the record, and the loop has no result. -/
def forEachEncode (enc : Ofpact → Option (List UInt8)) (a : Ofpact) : Option (List UInt8) :=
  if a.len < a.body.rawSize then none else enc a

/-- `OFPACT_FOR_EACH` appending each record's encoding to `openflow`, stopping
at a `NOT_REACHED()`. -/
def ofpactsPut (enc : Ofpact → Option (List UInt8)) :
    List Ofpact → List UInt8 → Option (List UInt8)
  | [], openflow => some openflow
  | a :: as, openflow => (forEachEncode enc a).bind fun e => ofpactsPut enc as (openflow ++ e)

/-- A record that fits its `len` is stepped over. -/
theorem forEachEncode_of_lt {enc : Ofpact → Option (List UInt8)} {a : Ofpact}
    (h : a.body.rawSize < 65536) : forEachEncode enc a = enc a := by
  rw [forEachEncode, Ofpact.len, Nat.mod_eq_of_lt h, if_neg (Nat.lt_irrefl _)]

/-- `ofpacts_put_openflow10`. -/
def ofpactsPutOpenflow10 (co : Collab) (centec : Bool) (as : List Ofpact) (openflow : List UInt8) :
    Option (List UInt8) :=
  ofpactsPut (ofpactToOpenflow10 co centec) as openflow

/-- `ofpacts_put_openflow11_actions`. -/
def ofpactsPutOpenflow11Actions (co : Collab) (centec : Bool) (as : List Ofpact)
    (openflow : List UInt8) : Option (List UInt8) :=
  ofpactsPut (ofpactToOpenflow11 co centec) as openflow

/-! ## Instructions -/

/-- `instruction_put_<ENUM>`: the zeroed struct with `type` and `len`. -/
def instructionPut (t : OvsInstructionType) : List UInt8 :=
  toBE 2 t.type ++ toBE 2 t.size ++ zeros (t.size - 4)

/-- `ofpacts_update_instruction_actions`: set the apply-actions `len` at `ofs`
to cover what follows it, or delete the instruction if nothing does. -/
def ofpactsUpdateInstructionActions (openflow : List UInt8) (ofs : Nat) : List UInt8 :=
  if ofs + 8 < openflow.length then
    openflow.take (ofs + 2) ++ toBE 2 (openflow.length - ofs) ++ openflow.drop (ofs + 4)
  else openflow.take ofs

/-- The inner `OFPACT_FOR_EACH` of the apply-actions branch: encode actions
up to the first instruction; `a = processed` hands back the rest. -/
def ofpactsPutApplyActions (co : Collab) (centec : Bool) :
    List Ofpact → List UInt8 → Option (List UInt8 × List Ofpact)
  | [], openflow => some (openflow, [])
  | a :: as, openflow =>
    if ofpactIsInstruction centec a then some (openflow, a :: as)
    else (forEachEncode (ofpactToOpenflow11 co centec) a).bind fun e =>
      ofpactsPutApplyActions co centec as (openflow ++ e)

/-- The `if`/`else if` chain of `ofpacts_put_openflow11_instructions` for the
records that are put as their own instruction: clear-actions, the Centec
meter, goto-table and write-metadata (`instruction_put_<ENUM>`, then the
fields). -/
def ofpactInstruction (centec : Bool) (a : Ofpact) : Option (List UInt8) :=
  match a.body with
  | .clearActions => some (instructionPut .clearActions)
  | .meter meterId => if centec then some (toBE 2 6 ++ toBE 2 8 ++ wr32 meterId) else none
  | .gotoTable tableId => some (toBE 2 1 ++ toBE 2 8 ++ wr8 tableId ++ zeros 3)
  | .writeMetadata metadata mask =>
    some (toBE 2 2 ++ toBE 2 24 ++ zeros 4 ++ wr64 metadata ++ wr64 mask)
  | _ => none

/-- The outer `OFPACT_FOR_EACH` of `ofpacts_put_openflow11_instructions`.
`fuel` is the number of records, which bounds its iterations. -/
def ofpactsPutInstructions (co : Collab) (centec : Bool) :
    Nat → List Ofpact → List UInt8 → Option (List UInt8)
  | 0, _, openflow => some openflow
  | _ + 1, [], openflow => some openflow
  | fuel + 1, a :: as, openflow =>
    match ofpactInstruction centec a with
    | some inst => ofpactsPutInstructions co centec fuel as (openflow ++ inst)
    | none =>
      if ofpactIsInstruction centec a then ofpactsPutInstructions co centec fuel as openflow
      else
        match ofpactsPutApplyActions co centec (a :: as) (openflow ++ instructionPut .applyActions) with
        | none => none
        | some (openflow', rest) =>
          ofpactsPutInstructions co centec fuel rest
            (ofpactsUpdateInstructionActions openflow' openflow.length)

/-- `ofpacts_put_openflow11_instructions`. -/
def ofpactsPutOpenflow11Instructions (co : Collab) (centec : Bool) (as : List Ofpact)
    (openflow : List UInt8) : Option (List UInt8) :=
  ofpactsPutInstructions co centec as.length as openflow

/-! ## The three dialects -/

/-- The three wire forms of spec §6.1, each with its pull and put function. -/
inductive Dialect
  | openflow10
  | openflow11Actions
  | openflow11Instructions
  deriving DecidableEq, Repr

/-- `ofpacts_pull_openflow10`, `ofpacts_pull_openflow11_actions`,
`ofpacts_pull_openflow11_instructions`. -/
def Dialect.pull (co : Collab) (centec : Bool) : Dialect → List UInt8 → Nat → Ofpbuf → Pulled
  | .openflow10 => ofpactsPullOpenflow10 co centec
  | .openflow11Actions => ofpactsPullOpenflow11Actions co centec
  | .openflow11Instructions => ofpactsPullOpenflow11Instructions co centec

/-- `ofpacts_put_openflow10`, `ofpacts_put_openflow11_actions`,
`ofpacts_put_openflow11_instructions`. -/
def Dialect.put (co : Collab) (centec : Bool) :
    Dialect → List Ofpact → List UInt8 → Option (List UInt8)
  | .openflow10 => ofpactsPutOpenflow10 co centec
  | .openflow11Actions => ofpactsPutOpenflow11Actions co centec
  | .openflow11Instructions => ofpactsPutOpenflow11Instructions co centec

/-- The error a pull returns for a length that is misaligned or longer than
the message. -/
def Dialect.badLen : Dialect → Ofperr
  | .openflow11Instructions => .ofpbicBadLen
  | _ => .ofpbrcBadLen

end OfpActions
