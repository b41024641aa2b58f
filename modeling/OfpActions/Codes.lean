import OfpActions.Bytes

/-!
# Codes — error codes, action codes and the opcode tables

The opcode tables of spec §4.B. `ofp-actions.c` expands them from
`ofp-util.def` (`OFPAT10_ACTION`, `OFPAT11_ACTION`, `NXAST_ACTION`) and from
`OVS_INSTRUCTIONS` (`DEFINE_INST`); neither file is among the sources, and §6.3
defers every wire layout to the OpenFlow 1.0/1.1/1.3 specifications and the
Nicira extensions header. The rows below are those definitions: wire code,
`sizeof` of the wire struct, and the extensible flag. The `_OFP_CENTEC_` build
adds the rows marked with `centec`.

Every function of the codec that differs between the two builds takes the
flag `centec : Bool`, the value of `#ifdef _OFP_CENTEC_`.
-/

namespace OfpActions

/-- `enum ofperr`, as far as `ofp-actions.c` returns it; a sub-codec's own
errors are surfaced unchanged as `other` (spec §7). -/
inductive Ofperr
  | ofpbacBadType
  | ofpbacBadLen
  | ofpbacBadVendor
  | ofpbacBadArgument
  | ofpbacBadOutPort
  | ofpbacUnsupportedOrder
  | nxbrcMustBeZero
  | ofpbrcBadLen
  | ofpbicBadExperimenter
  | ofpbicBadLen
  | ofpbicUnknownInst
  | ofpbicUnsupInst
  | other (code : Nat)
  deriving DecidableEq, Repr

/-! ## Action codes -/

/-- The `OFPAT10_ACTION` rows of `ofp-util.def`. -/
inductive Ofpat10
  | output | setVlanVid | setVlanPcp | stripVlan | setDlSrc | setDlDst | setNwSrc | setNwDst
  | setNwTos | setTpSrc | setTpDst | enqueue
  deriving DecidableEq, Repr

/-- The `OFPAT11_ACTION` rows; `group` and `setMplsTtl` are the `_OFP_CENTEC_` ones. -/
inductive Ofpat11
  | output | setVlanVid | setVlanPcp | setDlSrc | setDlDst | setNwSrc | setNwDst | setNwTos
  | setTpSrc | setTpDst | pushVlan | popVlan | setQueue | decNwTtl | setField | pushMpls | popMpls
  | group | setMplsTtl
  deriving DecidableEq, Repr

/-- The `NXAST_ACTION` rows; `pushL2` and `popL2` are the `_OFP_CENTEC_` ones. -/
inductive Nxast
  | resubmit | setTunnel | setQueue | popQueue | regMove | regLoad | note | setTunnel64
  | multipath | bundle | bundleLoad | resubmitTable | outputReg | learn | exit | decTtl
  | finTimeout | controller | decTtlCntIds | writeMetadata | pushMpls | popMpls | pushL2 | popL2
  deriving DecidableEq, Repr

/-- `enum ofputil_action_code`: `OFPUTIL_ACTION_INVALID` and one code per row. -/
inductive OfputilActionCode
  | actionInvalid
  | ofpat10 (c : Ofpat10)
  | ofpat11 (c : Ofpat11)
  | nxast (c : Nxast)
  deriving DecidableEq, Repr

/-! ## The tables

Modelled from the spec: §4.B's entries `(wire_code, body_struct_size,
extensible_flag)`, with the codes and struct sizes of the OpenFlow 1.0/1.1
specifications and the Nicira extensions header that §6.3 names. -/

/-- `OFPAT10_*`: the 1.0 action type. -/
def Ofpat10.type : Ofpat10 → Nat
  | .output => 0 | .setVlanVid => 1 | .setVlanPcp => 2 | .stripVlan => 3 | .setDlSrc => 4
  | .setDlDst => 5 | .setNwSrc => 6 | .setNwDst => 7 | .setNwTos => 8 | .setTpSrc => 9
  | .setTpDst => 10 | .enqueue => 11

/-- `sizeof` the 1.0 action's struct: every 1.0 action has a fixed size. -/
def Ofpat10.size : Ofpat10 → Nat
  | .setDlSrc | .setDlDst | .enqueue => 16
  | _ => 8

def Ofpat10.all : List Ofpat10 :=
  [.output, .setVlanVid, .setVlanPcp, .stripVlan, .setDlSrc, .setDlDst, .setNwSrc, .setNwDst,
    .setNwTos, .setTpSrc, .setTpDst, .enqueue]

/-- The `case CONSTANT_HTONS(ENUM)` arms of `decode_openflow10_action`. -/
def Ofpat10.ofType? (type : Nat) : Option Ofpat10 := Ofpat10.all.find? (·.type = type)

/-- `OFPAT11_*` (and `OFPAT12_SET_FIELD`): the 1.1 action type. -/
def Ofpat11.type : Ofpat11 → Nat
  | .output => 0 | .setVlanVid => 1 | .setVlanPcp => 2 | .setDlSrc => 3 | .setDlDst => 4
  | .setNwSrc => 5 | .setNwDst => 6 | .setNwTos => 7 | .setTpSrc => 9 | .setTpDst => 10
  | .setMplsTtl => 15 | .pushVlan => 17 | .popVlan => 18 | .pushMpls => 19 | .popMpls => 20
  | .setQueue => 21 | .group => 22 | .decNwTtl => 24 | .setField => 25

/-- `sizeof` the 1.1 action's struct. -/
def Ofpat11.size : Ofpat11 → Nat
  | .output | .setDlSrc | .setDlDst => 16
  | _ => 8

/-- Only `set_field` is extensible among the 1.1 actions. -/
def Ofpat11.extensible : Ofpat11 → Bool
  | .setField => true
  | _ => false

/-- Whether the row is compiled into the build. -/
def Ofpat11.inBuild (centec : Bool) : Ofpat11 → Bool
  | .group | .setMplsTtl => centec
  | _ => true

def Ofpat11.all : List Ofpat11 :=
  [.output, .setVlanVid, .setVlanPcp, .setDlSrc, .setDlDst, .setNwSrc, .setNwDst, .setNwTos,
    .setTpSrc, .setTpDst, .pushVlan, .popVlan, .setQueue, .decNwTtl, .setField, .pushMpls,
    .popMpls, .group, .setMplsTtl]

/-- The `case CONSTANT_HTONS(ENUM)` arms of `decode_openflow11_action`. -/
def Ofpat11.ofType? (centec : Bool) (type : Nat) : Option Ofpat11 :=
  Ofpat11.all.find? fun c => c.inBuild centec && c.type = type

/-- `NXAST_*`: the subtype of the Nicira action. The `_OFP_CENTEC_` subtypes
are not in the sources; they take the next free values. -/
def Nxast.subtype : Nxast → Nat
  | .resubmit => 1 | .setTunnel => 2 | .setQueue => 4 | .popQueue => 5 | .regMove => 6
  | .regLoad => 7 | .note => 8 | .setTunnel64 => 9 | .multipath => 10 | .bundle => 12
  | .bundleLoad => 13 | .resubmitTable => 14 | .outputReg => 15 | .learn => 16 | .exit => 17
  | .decTtl => 18 | .finTimeout => 19 | .controller => 20 | .decTtlCntIds => 21
  | .writeMetadata => 22 | .pushMpls => 23 | .popMpls => 24 | .pushL2 => 25 | .popL2 => 26

/-- `sizeof` the Nicira action's struct. -/
def Nxast.size : Nxast → Nat
  | .regMove | .regLoad | .setTunnel64 | .outputReg => 24
  | .multipath | .bundle | .bundleLoad | .learn | .writeMetadata => 32
  | _ => 16

def Nxast.extensible : Nxast → Bool
  | .note | .bundle | .bundleLoad | .learn | .decTtlCntIds => true
  | _ => false

def Nxast.inBuild (centec : Bool) : Nxast → Bool
  | .pushL2 | .popL2 => centec
  | _ => true

def Nxast.all : List Nxast :=
  [.resubmit, .setTunnel, .setQueue, .popQueue, .regMove, .regLoad, .note, .setTunnel64,
    .multipath, .bundle, .bundleLoad, .resubmitTable, .outputReg, .learn, .exit, .decTtl,
    .finTimeout, .controller, .decTtlCntIds, .writeMetadata, .pushMpls, .popMpls, .pushL2, .popL2]

/-- The `case CONSTANT_HTONS(ENUM)` arms of `decode_nxast_action`; the obsolete
subtypes fall to `default`. -/
def Nxast.ofSubtype? (centec : Bool) (subtype : Nat) : Option Nxast :=
  Nxast.all.find? fun c => c.inBuild centec && c.subtype = subtype

/-! ## Instructions -/

/-- `enum ovs_instruction_type`: the `DEFINE_INST` rows of `OVS_INSTRUCTIONS`
in their order, then the `_OFP_CENTEC_` meter. -/
inductive OvsInstructionType
  | applyActions | clearActions | writeActions | writeMetadata | gotoTable | meter
  deriving DecidableEq, Repr

/-- The enumerator's value, which `ofpacts_verify` compares. -/
def OvsInstructionType.toNat : OvsInstructionType → Nat
  | .applyActions => 0 | .clearActions => 1 | .writeActions => 2 | .writeMetadata => 3
  | .gotoTable => 4 | .meter => 5

/-- `OFPIT11_*` and `OFPIT13_METER`: the instruction type on the wire. -/
def OvsInstructionType.type : OvsInstructionType → Nat
  | .gotoTable => 1 | .writeMetadata => 2 | .writeActions => 3 | .applyActions => 4
  | .clearActions => 5 | .meter => 6

/-- `sizeof` the instruction's struct. -/
def OvsInstructionType.size : OvsInstructionType → Nat
  | .writeMetadata => 24
  | _ => 8

/-- Apply-actions and write-actions carry an action list after their header. -/
def OvsInstructionType.extensible : OvsInstructionType → Bool
  | .applyActions | .writeActions => true
  | _ => false

def OvsInstructionType.inBuild (centec : Bool) : OvsInstructionType → Bool
  | .meter => centec
  | _ => true

def OvsInstructionType.all : List OvsInstructionType :=
  [.applyActions, .clearActions, .writeActions, .writeMetadata, .gotoTable, .meter]

/-- The `DEFINE_INST` arms of `decode_openflow11_instruction`. -/
def OvsInstructionType.ofType? (centec : Bool) (type : Nat) : Option OvsInstructionType :=
  OvsInstructionType.all.find? fun t => t.inBuild centec && t.type = type

/-! ## Constants -/

/-- `OFPAT10_VENDOR`, which is also `OFPAT11_EXPERIMENTER` and `OFPIT11_EXPERIMENTER`. -/
def OFPAT10_VENDOR : Nat := 0xffff
def NX_VENDOR_ID : Nat := 0x00002320
/-- `OFP_ACTION_ALIGN`, `OFP11_INSTRUCTION_ALIGN` and `OFPACT_ALIGNTO`. -/
def OFP_ACTION_ALIGN : Nat := 8

def OFPP_MAX : Nat := 0xff00
def OFPP_IN_PORT : UInt16 := 0xfff8
def OFPP_TABLE : UInt16 := 0xfff9
def OFPP_NORMAL : UInt16 := 0xfffa
def OFPP_FLOOD : UInt16 := 0xfffb
def OFPP_ALL : UInt16 := 0xfffc
def OFPP_CONTROLLER : UInt16 := 0xfffd
def OFPP_LOCAL : UInt16 := 0xfffe

def ETH_TYPE_VLAN_8021Q : UInt16 := 0x8100
def IP_DSCP_MASK : UInt8 := 0xfc

/-! ## Port and ethertype helpers -/

/-- `ofputil_check_output_port`. Modelled from the spec: §4.G, a port below
`max_ports` or one of `IN_PORT`, `TABLE`, `NORMAL`, `FLOOD`, `ALL`,
`CONTROLLER`, `LOCAL`; else `BAD_OUT_PORT`. `ofp-util.c`, which defines it, is
not among the sources. -/
def ofputilCheckOutputPort (port : UInt16) (maxPorts : Nat) : Option Ofperr :=
  if port = OFPP_IN_PORT ∨ port = OFPP_TABLE ∨ port = OFPP_NORMAL ∨ port = OFPP_FLOOD ∨
      port = OFPP_ALL ∨ port = OFPP_CONTROLLER ∨ port = OFPP_LOCAL ∨ port.toNat < maxPorts then
    none
  else some .ofpbacBadOutPort

/-- `OFPP11_MAX`, the first reserved 1.1 port. -/
def OFPP11_MAX : Nat := 0xffffff00
/-- `OFPP11_OFFSET = OFPP11_MAX - OFPP_MAX`. -/
def OFPP11_OFFSET : Nat := 0xffff0000

/-- `ofputil_port_from_ofp11`. Modelled from the spec: §4.D, "map reserved
high-range codes to the 16-bit internal space via a fixed mapping, reject
others" — the OpenFlow 1.1 reserved range `OFPP11_MAX..` onto `OFPP_MAX..`.
`ofp-util.c`, which defines it, is not among the sources. -/
def ofputilPortFromOfp11 (port : UInt32) : Except Ofperr UInt16 :=
  if port.toNat < OFPP_MAX then .ok (UInt16.ofNat port.toNat)
  else if OFPP11_MAX ≤ port.toNat then .ok (UInt16.ofNat (port.toNat - OFPP11_OFFSET))
  else .error .ofpbacBadOutPort

/-- `ofputil_port_to_ofp11`, the inverse mapping. Modelled from the spec: §4.D's
fixed mapping, inverted; `ofp-util.c`, which defines it, is not among the
sources. -/
def ofputilPortToOfp11 (port : UInt16) : UInt32 :=
  UInt32.ofNat (if port.toNat < OFPP_MAX then port.toNat else port.toNat + OFPP11_OFFSET)

/-- `eth_type_mpls`: `ETH_TYPE_MPLS` or `ETH_TYPE_MPLS_MCAST`. Modelled from
the spec: §4.D's MPLS ethertypes; `packets.h`, which defines it, is not among
the sources. -/
def ethTypeMpls (ethertype : UInt16) : Bool := ethertype = 0x8847 || ethertype = 0x8848

/-! ## Table lookups -/

theorem Ofpat10.ofType?_type (c : Ofpat10) : Ofpat10.ofType? c.type = some c := by
  cases c <;> rfl

theorem Ofpat10.ofType?_eq {t : Nat} {c : Ofpat10} (h : Ofpat10.ofType? t = some c) :
    c.type = t := by
  simpa using List.find?_some h

theorem Ofpat11.ofType?_type {centec : Bool} {c : Ofpat11} (h : c.inBuild centec) :
    Ofpat11.ofType? centec c.type = some c := by
  cases centec <;> cases c <;> simp_all [Ofpat11.inBuild] <;> rfl

theorem Ofpat11.ofType?_eq {centec : Bool} {t : Nat} {c : Ofpat11}
    (h : Ofpat11.ofType? centec t = some c) : c.inBuild centec ∧ c.type = t := by
  simpa using List.find?_some h

theorem Nxast.ofSubtype?_subtype {centec : Bool} {c : Nxast} (h : c.inBuild centec) :
    Nxast.ofSubtype? centec c.subtype = some c := by
  cases centec <;> cases c <;> simp_all [Nxast.inBuild] <;> rfl

theorem Nxast.ofSubtype?_eq {centec : Bool} {t : Nat} {c : Nxast}
    (h : Nxast.ofSubtype? centec t = some c) : c.inBuild centec ∧ c.subtype = t := by
  simpa using List.find?_some h

theorem OvsInstructionType.ofType?_type {centec : Bool} {t : OvsInstructionType}
    (h : t.inBuild centec) : OvsInstructionType.ofType? centec t.type = some t := by
  cases centec <;> cases t <;> simp_all [OvsInstructionType.inBuild] <;> rfl

theorem OvsInstructionType.ofType?_eq {centec : Bool} {n : Nat} {t : OvsInstructionType}
    (h : OvsInstructionType.ofType? centec n = some t) : t.inBuild centec ∧ t.type = n := by
  simpa using List.find?_some h

end OfpActions
