import OfpActions.Ofpact

/-!
# Decode — one wire action to internal records

Components C and D of the spec: `decode_nxast_action`,
`decode_openflow10_action` and `decode_openflow11_action` classify the record
at a pointer and check its length against its table row;
`ofpact_from_nxast`, `ofpact_from_openflow10` and `ofpact_from_openflow11`
then put its internal records.

A pointer is the suffix of the buffer that starts at the record, so a decoder
could read past its record; `Walk` proves that none does. A per-record decoder
only ever appends to `out`, so it is modelled by what it appends and what it
returns: `(records put, error)`, `none` standing for `0`. Records put before
a failed check (`output`, `enqueue`, `output_reg`, `multipath`,
`dec_ttl_cnt_ids`) are in the list next to the error, as they are in `out`.
-/

namespace OfpActions

/-- What a per-record decoder did: the records it put, and its return value. -/
abbrev Decoded := List Ofpact × Option Ofperr

/-- `decode_nxast_action`. -/
def decodeNxastAction (centec : Bool) (a : List UInt8) : Except Ofperr Nxast :=
  let len := getBE a 2 2
  if len < 16 then .error .ofpbacBadLen
  else if getBE a 4 4 ≠ NX_VENDOR_ID then .error .ofpbacBadVendor
  else match Nxast.ofSubtype? centec (getBE a 8 2) with
    | some c => if (if c.extensible then c.size ≤ len else len = c.size) then .ok c
                else .error .ofpbacBadLen
    | none => .error .ofpbacBadType

/-- `decode_openflow10_action`. -/
def decodeOpenflow10Action (centec : Bool) (a : List UInt8) : Except Ofperr OfputilActionCode :=
  if getBE a 0 2 = OFPAT10_VENDOR then (decodeNxastAction centec a).map .nxast
  else match Ofpat10.ofType? (getBE a 0 2) with
    | some c => if getBE a 2 2 = c.size then .ok (.ofpat10 c) else .error .ofpbacBadLen
    | none => .error .ofpbacBadType

/-- `decode_openflow11_action`. -/
def decodeOpenflow11Action (centec : Bool) (a : List UInt8) : Except Ofperr OfputilActionCode :=
  if getBE a 0 2 = OFPAT10_VENDOR then (decodeNxastAction centec a).map .nxast
  else match Ofpat11.ofType? centec (getBE a 0 2) with
    | some c =>
      let len := getBE a 2 2
      if (if c.extensible then c.size ≤ len else len = c.size) then .ok (.ofpat11 c)
      else .error .ofpbacBadLen
    | none => .error .ofpbacBadType

/-! ## Per-kind helpers of `ofpact_from_nxast` -/

/-- A decoder that puts one record and succeeds. -/
def putOne (body : OfpactBody) (compat : OfputilActionCode := .actionInvalid) : Decoded :=
  ([⟨body, compat⟩], none)

/-- The `uint8_t[6]` Ethernet address at `off`. -/
def rdEthAddr (a : List UInt8) (off : Nat) : EthAddr := ⟨rdBytes a off 6, rdBytes_length _ _ _⟩

/-- `resubmit_from_openflow`. -/
def resubmitFromOpenflow (a : List UInt8) : Decoded :=
  putOne (.resubmit (rd16 a 10) 0xff) (.nxast .resubmit)

/-- `resubmit_table_from_openflow`: the three pad bytes after `table`. -/
def resubmitTableFromOpenflow (a : List UInt8) : Decoded :=
  if getBE a 13 3 ≠ 0 then ([], some .ofpbacBadArgument)
  else putOne (.resubmit (rd16 a 10) (rd8 a 12)) (.nxast .resubmitTable)

/-- `nxm_decode_ofs`. Modelled from the spec (the field slice's `offset`, §1):
`nx-match.h`, which defines it, is not among the sources. -/
def nxmDecodeOfs (ofsNbits : Nat) : Nat := ofsNbits >>> 6

/-- `nxm_decode_n_bits`. Modelled from the spec (the field slice's `n_bits`, §1):
`nx-match.h`, which defines it, is not among the sources. -/
def nxmDecodeNBits (ofsNbits : Nat) : Nat := (ofsNbits &&& 0x3f) + 1

/-- `output_reg_from_openflow`: the record is put before `mf_check_src`. -/
def outputRegFromOpenflow (co : Collab) (a : List UInt8) : Decoded :=
  if getBE a 18 6 ≠ 0 then ([], some .ofpbacBadArgument)
  else
    let src : MfSubfield :=
      ⟨rd32 a 12, nxmDecodeOfs (getBE a 10 2), nxmDecodeNBits (getBE a 10 2)⟩
    ([⟨.outputReg src (rd16 a 16), .actionInvalid⟩], co.mfCheckSrc src)

/-- `metadata_from_nxast`. -/
def metadataFromNxast (a : List UInt8) : Decoded :=
  if getBE a 10 6 ≠ 0 then ([], some .nxbrcMustBeZero)
  else putOne (.writeMetadata (rd64 a 16) (rd64 a 24))

/-- `note_from_openflow`: `len - offsetof(struct nx_action_note, note)` bytes. -/
def noteFromOpenflow (a : List UInt8) : Decoded :=
  putOne (.note (rdBytes a 10 (getBE a 2 2 - 10)))

/-- `dec_ttl_from_openflow`: one controller id, `0`. -/
def decTtlFromOpenflow (compat : OfputilActionCode) : Decoded :=
  putOne (.decTtl [0]) compat

/-- `dec_ttl_cnt_ids_from_openflow`: the record is put (without ids) before
the two checks; on success its ids follow it and `ofpact_update_len` covers
them. -/
def decTtlCntIdsFromOpenflow (a : List UInt8) : Decoded :=
  let n := getBE a 10 2
  let idsSize := getBE a 2 2 - 16
  let header : Ofpact := ⟨.decTtl [], .nxast .decTtlCntIds⟩
  if getBE a 12 4 ≠ 0 then ([header], some .nxbrcMustBeZero)
  else if idsSize < n * 2 then ([header], some .ofpbacBadLen)
  else putOne (.decTtl ((List.range n).map fun i => rd16 a (16 + 2 * i))) (.nxast .decTtlCntIds)

/-- A sub-codec's `*_from_openflow`, which puts its own record. -/
def subFromOpenflow (co : Collab) (code : OfputilActionCode) (t : SubType)
    (a : List UInt8) : Decoded :=
  match co.subFromOpenflow code a with
  | .ok (body, compat) => putOne (.sub t body) compat
  | .error e => ([], some e)

/-- `multipath_from_openflow(a, ofpact_put_MULTIPATH(out))`: the core puts
the record before the sub-codec fills it in. -/
def multipathFromOpenflow (co : Collab) (a : List UInt8) : Decoded :=
  match co.subFromOpenflow (.nxast .multipath) a with
  | .ok (body, compat) => putOne (.sub .multipath body) compat
  | .error e => ([⟨.sub .multipath [], .actionInvalid⟩], some e)

/-- `ofpact_from_nxast`. -/
def ofpactFromNxast (co : Collab) (a : List UInt8) : Nxast → Decoded
  | .resubmit => resubmitFromOpenflow a
  | .setTunnel => putOne (.setTunnel (UInt64.ofNat (getBE a 12 4))) (.nxast .setTunnel)
  | .writeMetadata => metadataFromNxast a
  | .setQueue => putOne (.setQueue (rd32 a 12))
  | .popQueue => putOne .popQueue
  | .regMove => subFromOpenflow co (.nxast .regMove) .regMove a
  | .regLoad => subFromOpenflow co (.nxast .regLoad) .regLoad a
  | .note => noteFromOpenflow a
  | .setTunnel64 => putOne (.setTunnel (rd64 a 16)) (.nxast .setTunnel64)
  | .multipath => multipathFromOpenflow co a
  | .bundle => subFromOpenflow co (.nxast .bundle) .bundle a
  | .bundleLoad => subFromOpenflow co (.nxast .bundleLoad) .bundle a
  | .outputReg => outputRegFromOpenflow co a
  | .resubmitTable => resubmitTableFromOpenflow a
  | .learn => subFromOpenflow co (.nxast .learn) .learn a
  | .exit => putOne .exit
  | .decTtl => decTtlFromOpenflow (.nxast .decTtl)
  | .decTtlCntIds => decTtlCntIdsFromOpenflow a
  | .finTimeout => putOne (.finTimeout (rd16 a 10) (rd16 a 12))
  | .controller => putOne (.controller (rd16 a 10) (rd16 a 12) (rd8 a 14))
  | .pushMpls =>
    if !ethTypeMpls (rd16 a 10) then ([], some .ofpbacBadArgument)
    else putOne (.pushMpls (rd16 a 10))
  | .popMpls =>
    if ethTypeMpls (rd16 a 10) then ([], some .ofpbacBadArgument)
    else putOne (.popMpls (rd16 a 10))
  | .pushL2 => putOne .pushL2
  | .popL2 => putOne .popL2

/-! ## OpenFlow 1.0 -/

/-- `output_from_openflow10`: the record is put before the port check. -/
def outputFromOpenflow10 (a : List UInt8) : Decoded :=
  ([⟨.output (rd16 a 4) (rd16 a 6), .actionInvalid⟩], ofputilCheckOutputPort (rd16 a 4) OFPP_MAX)

/-- `enqueue_from_openflow10`: the record is put before the port check. -/
def enqueueFromOpenflow10 (a : List UInt8) : Decoded :=
  let port := rd16 a 4
  ([⟨.enqueue port (rd32 a 12), .actionInvalid⟩],
    if OFPP_MAX ≤ port.toNat ∧ port ≠ OFPP_IN_PORT ∧ port ≠ OFPP_LOCAL then
      some .ofpbacBadOutPort
    else none)

/-- The `SET_VLAN_VID` arm, shared by both dialects. -/
def setVlanVidFromOpenflow (a : List UInt8) : Decoded :=
  if rd16 a 4 &&& ~~~0xfff ≠ 0 then ([], some .ofpbacBadArgument)
  else putOne (.setVlanVid (rd16 a 4))

/-- The `SET_VLAN_PCP` arm, shared by both dialects. -/
def setVlanPcpFromOpenflow (a : List UInt8) : Decoded :=
  if rd8 a 4 &&& ~~~7 ≠ 0 then ([], some .ofpbacBadArgument)
  else putOne (.setVlanPcp (rd8 a 4))

/-- The `SET_NW_TOS` arm, shared by both dialects. -/
def setNwTosFromOpenflow (a : List UInt8) : Decoded :=
  if rd8 a 4 &&& ~~~IP_DSCP_MASK ≠ 0 then ([], some .ofpbacBadArgument)
  else putOne (.setIpv4Dscp (rd8 a 4))

/-- `ofpact_from_openflow10`. -/
def ofpactFromOpenflow10 (co : Collab) (centec : Bool) (a : List UInt8) : Decoded :=
  match decodeOpenflow10Action centec a with
  | .error e => ([], some e)
  | .ok (.ofpat10 c) =>
    match c with
    | .output => outputFromOpenflow10 a
    | .setVlanVid => setVlanVidFromOpenflow a
    | .setVlanPcp => setVlanPcpFromOpenflow a
    | .stripVlan => putOne .stripVlan
    | .setDlSrc => putOne (.setEthSrc (rdEthAddr a 4))
    | .setDlDst => putOne (.setEthDst (rdEthAddr a 4))
    | .setNwSrc => putOne (.setIpv4Src (rd32 a 4))
    | .setNwDst => putOne (.setIpv4Dst (rd32 a 4))
    | .setNwTos => setNwTosFromOpenflow a
    | .setTpSrc => putOne (.setL4SrcPort (rd16 a 4))
    | .setTpDst => putOne (.setL4DstPort (rd16 a 4))
    | .enqueue => enqueueFromOpenflow10 a
  | .ok (.nxast c) => ofpactFromNxast co a c
  -- NOT_REACHED: `decodeOpenflow10Action` returns no other code.
  | .ok _ => ([], none)

/-! ## OpenFlow 1.1 -/

/-- `output_from_openflow11`: the record is put (with `max_len` only) before
the port is translated and checked. -/
def outputFromOpenflow11 (a : List UInt8) : Decoded :=
  match ofputilPortFromOfp11 (rd32 a 4) with
  | .error e => ([⟨.output 0 (rd16 a 8), .actionInvalid⟩], some e)
  | .ok port => ([⟨.output port (rd16 a 8), .actionInvalid⟩], ofputilCheckOutputPort port OFPP_MAX)

/-- The `OFPAT11_PUSH_VLAN` arm. Without `_OFP_CENTEC_` the record is put
twice: once after the 802.1Q check, and once more by the line after `#endif`
that the Centec build shares. -/
def pushVlanFromOpenflow11 (centec : Bool) (a : List UInt8) : Decoded :=
  if centec then putOne (.pushVlan (rd16 a 4))
  else if rd16 a 4 ≠ ETH_TYPE_VLAN_8021Q then ([], some .ofpbacBadArgument)
  else ([⟨.pushVlan 0, .actionInvalid⟩, ⟨.pushVlan (rd16 a 4), .actionInvalid⟩], none)

/-- `ofpact_from_openflow11`. -/
def ofpactFromOpenflow11 (co : Collab) (centec : Bool) (a : List UInt8) : Decoded :=
  match decodeOpenflow11Action centec a with
  | .error e => ([], some e)
  | .ok (.ofpat11 c) =>
    match c with
    | .output => outputFromOpenflow11 a
    | .setVlanVid => setVlanVidFromOpenflow a
    | .setVlanPcp => setVlanPcpFromOpenflow a
    | .pushVlan => pushVlanFromOpenflow11 centec a
    | .popVlan => putOne .stripVlan
    | .setQueue => putOne (.setQueue (rd32 a 4))
    | .setDlSrc => putOne (.setEthSrc (rdEthAddr a 4))
    | .setDlDst => putOne (.setEthDst (rdEthAddr a 4))
    | .decNwTtl => decTtlFromOpenflow (.ofpat11 .decNwTtl)
    | .setNwSrc => putOne (.setIpv4Src (rd32 a 4))
    | .setNwDst => putOne (.setIpv4Dst (rd32 a 4))
    | .setNwTos => setNwTosFromOpenflow a
    | .setTpSrc => putOne (.setL4SrcPort (rd16 a 4))
    | .setTpDst => putOne (.setL4DstPort (rd16 a 4))
    | .setField => subFromOpenflow co (.ofpat11 .setField) .regLoad a
    | .pushMpls =>
      if !centec && !ethTypeMpls (rd16 a 4) then ([], some .ofpbacBadArgument)
      else putOne (.pushMpls (rd16 a 4))
    | .popMpls =>
      if !centec && ethTypeMpls (rd16 a 4) then ([], some .ofpbacBadArgument)
      else putOne (.popMpls (rd16 a 4))
    | .group => putOne (.group (rd32 a 4))
    | .setMplsTtl => putOne (.setMplsTtl (rd8 a 4))
  | .ok (.nxast c) => ofpactFromNxast co a c
  -- NOT_REACHED: `decodeOpenflow11Action` returns no other code.
  | .ok _ => ([], none)

end OfpActions
