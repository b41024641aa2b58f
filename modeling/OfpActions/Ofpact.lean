import OfpActions.Codes

/-!
# Ofpact — the internal action buffer

Spec §3.1: the internal form is a byte buffer of records, each a
`struct ofpact` header (`type`, `compat`, 16-bit `len`) followed by a
kind-specific body, each record started at a multiple of `OFPACT_ALIGNTO`.
An `Ofpact` is one record: its body (whose constructor is the `type`) and its
`compat`; the buffer `Ofpbuf` is the sequence of what `ofpact_put` and
`ofpact_pad` appended to it, records and runs of zero bytes.

`len` is not stored: `ofpact_init` and `ofpact_update_len` always set it to the
record's size, through a `uint16_t`, so `Ofpact.len` computes it. The record
sizes come from `ofp-actions.h`, which is not among the sources (see
`OfpactBody.rawSize`).

The sub-codec kinds (`reg_move`, `reg_load`, `multipath`, `bundle`, `learn`)
keep their body as the bytes the sub-codec wrote: the core never reads them.
-/

namespace OfpActions

/-- `uint8_t mac[ETH_ADDR_LEN]`. -/
structure EthAddr where
  bytes : List UInt8
  length_eq : bytes.length = 6
  deriving DecidableEq

/-- `struct mf_subfield`. The field is named by its NXM header: the field
registry (out of scope, spec §1) maps a header to its field with
`mf_from_nxm_header` and back with `field->nxm_header`. -/
structure MfSubfield where
  field : UInt32
  ofs : Nat
  nBits : Nat
  deriving DecidableEq

/-- The internal kinds whose bodies belong to a sub-codec. -/
inductive SubType
  | regMove | regLoad | multipath | bundle | learn
  deriving DecidableEq, Repr

/-- The bodies of the `struct ofpact_*`, one constructor per `OFPACT_*` type
(spec §6.2). `pushL2`, `popL2`, `setMplsTtl`, `group` and `meter` are the
`_OFP_CENTEC_` types. `decTtl` holds `cnt_ids`, whose length is
`n_controllers`; `note` holds `data`, whose length is `length`. -/
inductive OfpactBody
  | output (port maxLen : UInt16)
  | controller (maxLen controllerId : UInt16) (reason : UInt8)
  | enqueue (port : UInt16) (queue : UInt32)
  | outputReg (src : MfSubfield) (maxLen : UInt16)
  | setVlanVid (vlanVid : UInt16)
  | setVlanPcp (vlanPcp : UInt8)
  | stripVlan
  | pushVlan (ethertype : UInt16)
  | setEthSrc (mac : EthAddr)
  | setEthDst (mac : EthAddr)
  | setIpv4Src (ipv4 : UInt32)
  | setIpv4Dst (ipv4 : UInt32)
  | setIpv4Dscp (dscp : UInt8)
  | setL4SrcPort (port : UInt16)
  | setL4DstPort (port : UInt16)
  | decTtl (cntIds : List UInt16)
  | pushMpls (ethertype : UInt16)
  | popMpls (ethertype : UInt16)
  | setTunnel (tunId : UInt64)
  | setQueue (queueId : UInt32)
  | popQueue
  | finTimeout (finIdleTimeout finHardTimeout : UInt16)
  | resubmit (inPort : UInt16) (tableId : UInt8)
  | note (data : List UInt8)
  | exit
  | writeMetadata (metadata mask : UInt64)
  | clearActions
  | gotoTable (tableId : UInt8)
  | pushL2
  | popL2
  | setMplsTtl (mplsTtl : UInt8)
  | group (groupId : UInt32)
  | meter (meterId : UInt32)
  | sub (t : SubType) (body : List UInt8)
  deriving DecidableEq

/-- The bytes a record takes in the buffer: `OFPACT_<ENUM>_RAW_SIZE` for the
fixed kinds, grown by the ids of `decTtl` and the payload of `note`.
Modelled from the spec: §3.1's header (`kind`, `compat`, 16-bit `len`)
packs into 4 bytes and each body lays out its fields after it at their
natural alignment on an LP64 host, as `ofp-actions.h` declares them. -/
def OfpactBody.rawSize : OfpactBody → Nat
  | .output .. => 8
  | .controller .. => 12
  | .enqueue .. => 12
  | .outputReg .. => 24
  | .setVlanVid _ => 6
  | .setVlanPcp _ => 6
  | .stripVlan => 4
  | .pushVlan _ => 6
  | .setEthSrc _ => 10
  | .setEthDst _ => 10
  | .setIpv4Src _ => 8
  | .setIpv4Dst _ => 8
  | .setIpv4Dscp _ => 6
  | .setL4SrcPort _ => 6
  | .setL4DstPort _ => 6
  | .decTtl ids => 8 + 2 * ids.length
  | .pushMpls _ => 6
  | .popMpls _ => 6
  | .setTunnel _ => 16
  | .setQueue _ => 8
  | .popQueue => 4
  | .finTimeout .. => 8
  | .resubmit .. => 8
  | .note data => 16 + data.length
  | .exit => 4
  | .writeMetadata .. => 24
  | .clearActions => 4
  | .gotoTable _ => 6
  | .pushL2 => 4
  | .popL2 => 4
  | .setMplsTtl _ => 6
  | .group _ => 8
  | .meter _ => 8
  | .sub _ body => 4 + body.length

/-- Whether the `OFPACT_*` type exists in the build. -/
def OfpactBody.inBuild (centec : Bool) : OfpactBody → Bool
  | .pushL2 | .popL2 | .setMplsTtl _ | .group _ | .meter _ => centec
  | _ => true

/-- One record of the buffer: its body and `ofpact.compat`, the wire code it
was decoded from when that matters to the encoder (spec §3.1). -/
structure Ofpact where
  body : OfpactBody
  compat : OfputilActionCode := .actionInvalid
  deriving DecidableEq

/-- `ofpact->len`: the record's size, stored in a `uint16_t`. -/
def Ofpact.len (a : Ofpact) : Nat := a.body.rawSize % 65536

/-- What was appended to the ofpacts buffer: a record, or `ofpact_pad`'s zeros. -/
inductive Chunk
  | ofpact (a : Ofpact)
  | zeros (n : Nat)
  deriving DecidableEq

def Chunk.size : Chunk → Nat
  | .ofpact a => a.body.rawSize
  | .zeros n => n

/-- The ofpacts `struct ofpbuf`, as the chunks appended to it since the last
`ofpbuf_clear`. -/
abbrev Ofpbuf := List Chunk

/-- `ofpacts->size`. -/
def Ofpbuf.size : Ofpbuf → Nat
  | [] => 0
  | c :: b => c.size + Ofpbuf.size b

/-- The records of the buffer, in order: what `OFPACT_FOR_EACH` visits over a
well-formed buffer (`Buffer` proves that the decoders build only those). -/
def Ofpbuf.ofpacts (b : Ofpbuf) : List Ofpact :=
  b.filterMap fun | .ofpact a => some a | .zeros _ => none

/-- `ofpact_pad`: pad the buffer to a multiple of `OFPACT_ALIGNTO`. -/
def ofpactPad (b : Ofpbuf) : Ofpbuf :=
  if b.size % OFP_ACTION_ALIGN = 0 then b
  else b ++ [.zeros (OFP_ACTION_ALIGN - b.size % OFP_ACTION_ALIGN)]

/-- `ofpact_put` followed by the caller's writes into the new record: pad,
then append the record. -/
def ofpactPut (b : Ofpbuf) (a : Ofpact) : Ofpbuf := ofpactPad b ++ [.ofpact a]

/-- The records a decoder puts, one after another. -/
def ofpactPutAll (b : Ofpbuf) (as : List Ofpact) : Ofpbuf := as.foldl ofpactPut b

/-- `ofpact_is_instruction`. Modelled from the spec: §4.F, the synthetic
internal actions that the 1.1 encoder emits as their own instruction —
clear-actions, write-metadata, goto-table, and the Centec meter. -/
def ofpactIsInstruction (centec : Bool) (a : Ofpact) : Bool :=
  match a.body with
  | .clearActions | .writeMetadata .. | .gotoTable _ => true
  | .meter _ => centec
  | _ => false

/-! ## Collaborators -/

/-- The sub-codec each wire code is handed to, and the internal kind it puts. -/
def subTypeOf? : OfputilActionCode → Option SubType
  | .nxast .regMove => some .regMove
  | .nxast .regLoad | .ofpat11 .setField => some .regLoad
  | .nxast .multipath => some .multipath
  | .nxast .bundle | .nxast .bundleLoad => some .bundle
  | .nxast .learn => some .learn
  | _ => none

/-- What `ofp-actions.c` calls but does not define (spec §1, out of scope):
the field registry's check of a source slice, and the sub-codecs of
`nx-match.c`, `multipath.c`, `bundle.c` and `learn.c`. -/
structure Collab where
  /-- `mf_check_src(sf, NULL)`. -/
  mfCheckSrc : MfSubfield → Option Ofperr
  /-- `nxm_reg_move_from_openflow`, `nxm_reg_load_from_openflow`,
  `nxm_reg_load_from_openflow12_set_field`, `multipath_from_openflow`,
  `bundle_from_openflow` and `learn_from_openflow`, by the wire code they
  are handed: the record at the pointer to the body and `compat` of the
  action they put, or their error. -/
  subFromOpenflow : OfputilActionCode → List UInt8 → Except Ofperr (List UInt8 × OfputilActionCode)
  /-- `nxm_reg_move_to_nxast`, `nxm_reg_load_to_nxast`, `multipath_to_nxast`,
  `bundle_to_nxast` and `learn_to_nxast`: the record they append. -/
  subToNxast : SubType → List UInt8 → OfputilActionCode → List UInt8

/-- A collaborator whose sub-codecs reject every record handed to them and
whose field registry accepts every slice: the laws the theorems assume of the
collaborators hold of it. -/
def Collab.rejectAll : Collab where
  mfCheckSrc _ := none
  subFromOpenflow _ _ := .error (.other 0)
  subToNxast _ _ _ := []

/-! ## Sizes -/

@[simp] theorem Ofpbuf.size_nil : Ofpbuf.size [] = 0 := rfl

@[simp] theorem Ofpbuf.size_cons (c : Chunk) (b : Ofpbuf) :
    Ofpbuf.size (c :: b) = c.size + b.size := rfl

@[simp] theorem Ofpbuf.size_append (b c : Ofpbuf) : (b ++ c).size = b.size + c.size := by
  induction b with
  | nil => simp
  | cons d b ih => simp [ih, Nat.add_assoc]

@[simp] theorem Ofpbuf.ofpacts_append (b c : Ofpbuf) : (b ++ c).ofpacts = b.ofpacts ++ c.ofpacts := by
  simp [Ofpbuf.ofpacts]

@[simp] theorem Ofpbuf.ofpacts_nil : Ofpbuf.ofpacts [] = [] := rfl

@[simp] theorem Ofpbuf.ofpacts_ofpact (a : Ofpact) : Ofpbuf.ofpacts [.ofpact a] = [a] := rfl

@[simp] theorem Ofpbuf.ofpacts_zeros (n : Nat) : Ofpbuf.ofpacts [.zeros n] = [] := rfl

theorem ofpactPad_size (b : Ofpbuf) : (ofpactPad b).size % 8 = 0 := by
  unfold ofpactPad OFP_ACTION_ALIGN
  split
  · assumption
  · simp [Chunk.size]; omega

@[simp] theorem ofpactPad_ofpacts (b : Ofpbuf) : (ofpactPad b).ofpacts = b.ofpacts := by
  unfold ofpactPad
  split
  · rfl
  · simp

@[simp] theorem ofpactPutAll_nil (b : Ofpbuf) : ofpactPutAll b [] = b := rfl

theorem ofpactPutAll_cons (b : Ofpbuf) (a : Ofpact) (as : List Ofpact) :
    ofpactPutAll b (a :: as) = ofpactPutAll (ofpactPut b a) as := rfl

theorem ofpactPutAll_append (b : Ofpbuf) (as bs : List Ofpact) :
    ofpactPutAll b (as ++ bs) = ofpactPutAll (ofpactPutAll b as) bs := List.foldl_append ..

@[simp] theorem ofpactPutAll_ofpacts (b : Ofpbuf) (as : List Ofpact) :
    (ofpactPutAll b as).ofpacts = b.ofpacts ++ as := by
  induction as generalizing b with
  | nil => simp
  | cons a as ih => simp [ofpactPutAll_cons, ih, ofpactPut]

end OfpActions
