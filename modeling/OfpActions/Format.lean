import OfpActions.Buffer

/-!
# Format — `ofpact_format` and `ofpacts_format`

Spec §4.I: the one-line text of an action list that flow dumps print. A
`struct ds` is modelled by the characters appended to it, and `ofpact_format`
by what it appends: the one other thing it does to the string, `ds_chomp`,
removes a `,` that the same call appended after a `(` it also appended.

The first section gives the `printf` conversions the formatter uses: `%u`
(and `%d` of values that are never negative), `%x`, `%0<w>x` and `%#x`, and the
macros `ETH_ADDR_FMT` and `IP_FMT` of `packets.h`, which is not among the
sources. The instruction names are the `NAME` column of `OVS_INSTRUCTIONS`,
which `inst_info` holds. What `ofpact_format` calls but this file does not
define (the port names, the packet-in reasons, the field registry and the
sub-codecs' formatters) is a `FormatCollab`.

Over a buffer that a pull built, `ofpacts_format` prints `actions=` and then
`drop` or the text of every record, in order, separated by `,`
(`ofpactsFormat_pull`).
-/

namespace OfpActions

/-! ## `printf` conversions -/

/-- `%u`, and `%d` of a value that is never negative. -/
def fmtDec (n : Nat) : List Char := Nat.toDigits 10 n

/-- `%x`. -/
def fmtHex (n : Nat) : List Char := Nat.toDigits 16 n

/-- `%0<w>x`: the hex digits, filled with `0` on the left to `w` characters. -/
def fmtHexPad (w n : Nat) : List Char := List.replicate (w - (fmtHex n).length) '0' ++ fmtHex n

/-- `%#x`: `0x` and the hex digits, but `0` for zero. -/
def fmtHexAlt (n : Nat) : List Char := if n = 0 then ['0'] else '0' :: 'x' :: fmtHex n

/-- `ETH_ADDR_FMT` with `ETH_ADDR_ARGS`: the six bytes as `%02x`, separated
by `:`. -/
def ethAddrFmt (mac : EthAddr) : List Char :=
  [':'].intercalate (mac.bytes.map fun b => fmtHexPad 2 b.toNat)

/-- `IP_FMT` with `IP_ARGS`: the bytes of the host-order address, most
significant first, as `%u`, separated by `.`. -/
def ipFmt (ip : UInt32) : List Char :=
  ['.'].intercalate
    ([ip.toNat >>> 24, ip.toNat >>> 16 &&& 0xff, ip.toNat >>> 8 &&& 0xff, ip.toNat &&& 0xff].map
      fmtDec)

/-- `ds_chomp`: remove the last character if it is `c`. -/
def dsChomp (s : List Char) (c : Char) : List Char :=
  if s.getLast? = some c then s.dropLast else s

/-! ## Instruction names -/

/-- The `NAME` column of `OVS_INSTRUCTIONS`. Modelled from the spec: §4.B's
`symbolic_name` of each instruction; `ofp-util.h`, which holds the table, is
not among the sources. -/
def OvsInstructionType.name : OvsInstructionType → List Char
  | .applyActions => "apply_actions".toList
  | .clearActions => "clear_actions".toList
  | .writeActions => "write_actions".toList
  | .writeMetadata => "write_metadata".toList
  | .gotoTable => "goto_table".toList
  | .meter => "meter".toList

/-- `ofpact_instruction_name_from_type`: `inst_info[type].name`, the rows of
`inst_info` being those of the enumeration in its order. -/
def ofpactInstructionNameFromType (t : OvsInstructionType) : List Char := t.name

/-- `strcasecmp (a, b) == 0`. -/
def strcaseeq (a b : List Char) : Bool := a.map Char.toLower == b.map Char.toLower

/-- `ofpact_instruction_type_from_name`: the first row of the build's
`inst_info` whose name `strcasecmp` matches; `none` is the `-1` it returns
when none does. -/
def ofpactInstructionTypeFromName (centec : Bool) (name : List Char) :
    Option OvsInstructionType :=
  (OvsInstructionType.all.filter (·.inBuild centec)).find? fun t => strcaseeq name t.name

/-! ## One record -/

/-- What `ofpact_format` calls but `ofp-actions.c` does not define. -/
structure FormatCollab where
  /-- `ofputil_format_port`. -/
  formatPort : UInt16 → List Char
  /-- `ofputil_packet_in_reason_to_string`. -/
  reasonToString : UInt8 → List Char
  /-- `mf_format_subfield`. -/
  formatSubfield : MfSubfield → List Char
  /-- `bundle_format`, `nxm_format_reg_move`, `nxm_format_reg_load`,
  `learn_format` and `multipath_format`, on the body their sub-codec put. -/
  formatSub : SubType → List UInt8 → List Char

/-- A collaborator that prints nothing, for stating facts at fixed records. -/
def FormatCollab.blank : FormatCollab := ⟨fun _ => [], fun _ => [], fun _ => [], fun _ _ => []⟩

/-- `OFPR_ACTION` of `enum ofp_packet_in_reason`. -/
def OFPR_ACTION : UInt8 := 1

/-- `print_note`. -/
def printNote (data : List UInt8) : List Char :=
  "note:".toList ++ ['.'].intercalate (data.map fun b => fmtHexPad 2 b.toNat)

/-- `print_dec_ttl`, of the build without `_OFP_CENTEC_`. -/
def printDecTtl (compat : OfputilActionCode) (cntIds : List UInt16) : List Char :=
  "dec_ttl".toList ++
    if compat = .nxast .decTtlCntIds then
      '(' :: [','].intercalate (cntIds.map fun id => fmtDec id.toNat) ++ [')']
    else []

/-- `print_fin_timeout`. -/
def printFinTimeout (finIdleTimeout finHardTimeout : UInt16) : List Char :=
  dsChomp ("fin_timeout(".toList ++
    (if finIdleTimeout ≠ 0 then "idle_timeout=".toList ++ fmtDec finIdleTimeout.toNat ++ [',']
      else []) ++
    (if finHardTimeout ≠ 0 then "hard_timeout=".toList ++ fmtDec finHardTimeout.toNat ++ [',']
      else [])) ',' ++ [')']

/-- `ofpact_format`: the text of one record. The `_OFP_CENTEC_` kinds have no
arm in the other build, which prints nothing for them. -/
def ofpactFormat (fc : FormatCollab) (centec : Bool) (a : Ofpact) : List Char :=
  match a.body with
  | .output port maxLen =>
    if port.toNat < OFPP_MAX then "output:".toList ++ fmtDec port.toNat
    else fc.formatPort port ++ if port = OFPP_CONTROLLER then ':' :: fmtDec maxLen.toNat else []
  | .controller maxLen controllerId reason =>
    if reason = OFPR_ACTION ∧ controllerId = 0 then "CONTROLLER:".toList ++ fmtDec maxLen.toNat
    else
      dsChomp ("controller(".toList ++
        (if reason ≠ OFPR_ACTION then "reason=".toList ++ fc.reasonToString reason ++ [',']
          else []) ++
        (if maxLen ≠ 0xffff then "max_len=".toList ++ fmtDec maxLen.toNat ++ [','] else []) ++
        (if controllerId ≠ 0 then "id=".toList ++ fmtDec controllerId.toNat ++ [','] else []))
        ',' ++ [')']
  | .enqueue port queue => "enqueue:".toList ++ fc.formatPort port ++ 'q' :: fmtDec queue.toNat
  | .outputReg src _ => "output:".toList ++ fc.formatSubfield src
  | .sub t body => fc.formatSub t body
  | .setVlanVid vlanVid => "mod_vlan_vid:".toList ++ fmtDec vlanVid.toNat
  | .setVlanPcp vlanPcp => "mod_vlan_pcp:".toList ++ fmtDec vlanPcp.toNat
  | .stripVlan => "strip_vlan".toList
  | .pushVlan ethertype =>
    "push_vlan:".toList ++ fmtHexAlt (if centec then ethertype else ETH_TYPE_VLAN_8021Q).toNat
  | .setEthSrc mac => "mod_dl_src:".toList ++ ethAddrFmt mac
  | .setEthDst mac => "mod_dl_dst:".toList ++ ethAddrFmt mac
  | .setIpv4Src ipv4 => "mod_nw_src:".toList ++ ipFmt ipv4
  | .setIpv4Dst ipv4 => "mod_nw_dst:".toList ++ ipFmt ipv4
  | .setIpv4Dscp dscp => "mod_nw_tos:".toList ++ fmtDec dscp.toNat
  | .setL4SrcPort port => "mod_tp_src:".toList ++ fmtDec port.toNat
  | .setL4DstPort port => "mod_tp_dst:".toList ++ fmtDec port.toNat
  | .decTtl cntIds => if centec then "dec_nw_ttl".toList else printDecTtl a.compat cntIds
  | .setTunnel tunId =>
    "set_tunnel".toList ++
      (if 0xffffffff < tunId.toNat ∨ a.compat = .nxast .setTunnel64 then "64".toList else []) ++
      ':' :: fmtHexAlt tunId.toNat
  | .setQueue queueId => "set_queue:".toList ++ fmtDec queueId.toNat
  | .popQueue => "pop_queue".toList
  | .finTimeout finIdleTimeout finHardTimeout => printFinTimeout finIdleTimeout finHardTimeout
  | .resubmit inPort tableId =>
    if inPort ≠ OFPP_IN_PORT ∧ tableId = 255 then "resubmit:".toList ++ fc.formatPort inPort
    else
      "resubmit(".toList ++ (if inPort ≠ OFPP_IN_PORT then fc.formatPort inPort else []) ++
        ',' :: (if tableId ≠ 255 then fmtDec tableId.toNat else []) ++ [')']
  | .note data => printNote data
  | .pushMpls ethertype => "push_mpls:0x".toList ++ fmtHexPad 4 ethertype.toNat
  | .popMpls ethertype => "pop_mpls:0x".toList ++ fmtHexPad 4 ethertype.toNat
  | .pushL2 => if centec then "push_l2".toList else []
  | .popL2 => if centec then "pop_l2".toList else []
  | .setMplsTtl mplsTtl => if centec then "set_mpls_ttl:".toList ++ fmtDec mplsTtl.toNat else []
  | .exit => "exit".toList
  | .clearActions => ofpactInstructionNameFromType .clearActions
  | .writeMetadata metadata mask =>
    ofpactInstructionNameFromType .writeMetadata ++ ':' :: fmtHexAlt metadata.toNat ++
      if mask ≠ 0xffffffffffffffff then '/' :: fmtHexAlt mask.toNat else []
  | .gotoTable tableId => ofpactInstructionNameFromType .gotoTable ++ ':' :: fmtDec tableId.toNat
  | .group groupId => if centec then "group:".toList ++ fmtDec groupId.toNat else []
  | .meter meterId =>
    if centec then ofpactInstructionNameFromType .meter ++ ':' :: fmtDec meterId.toNat else []

/-! ## The list -/

/-- `ofpacts_format`: `actions=`, then `drop` for an empty buffer, else the
text of each record `OFPACT_FOR_EACH` visits, separated by `,`. The walk is
given a step per byte of the buffer, more than any buffer's records take. -/
def ofpactsFormat (fc : FormatCollab) (centec : Bool) (b : Ofpbuf) : List Char :=
  "actions=".toList ++
    if b.size = 0 then "drop".toList
    else [','].intercalate ((ofpactForEach b b.size 0).map (ofpactFormat fc centec))

/-! ## Names and suffixes -/

theorem OvsInstructionType.name_injective {t t' : OvsInstructionType} (h : t.name = t'.name) :
    t = t' := by
  cases t <;> cases t' <;> first | rfl | exact absurd h (by decide)

theorem OvsInstructionType.name_map_toLower (t : OvsInstructionType) :
    t.name.map Char.toLower = t.name := by
  cases t <;> decide

/-- `ofpact_instruction_type_from_name` finds the instruction of the build
whose name the argument spells in any case, and only that one. -/
theorem ofpactInstructionTypeFromName_eq_some {centec : Bool} {name : List Char}
    {t : OvsInstructionType} :
    ofpactInstructionTypeFromName centec name = some t ↔
      t.inBuild centec ∧ name.map Char.toLower = ofpactInstructionNameFromType t := by
  have hp : ∀ t' : OvsInstructionType,
      strcaseeq name t'.name = true ↔ name.map Char.toLower = t'.name := fun t' => by
    rw [strcaseeq, beq_iff_eq, t'.name_map_toLower]
  have hall : ∀ t' : OvsInstructionType, t' ∈ OvsInstructionType.all := fun t' => by
    cases t' <;> simp [OvsInstructionType.all]
  unfold ofpactInstructionTypeFromName
  constructor
  · intro h
    have hs := List.find?_some h
    exact ⟨(List.mem_filter.1 (List.mem_of_find?_eq_some h)).2, (hp t).1 hs⟩
  · rintro ⟨hb, hn⟩
    have hs : ∃ t' ∈ OvsInstructionType.all.filter (·.inBuild centec),
        strcaseeq name t'.name = true := ⟨t, List.mem_filter.2 ⟨hall t, hb⟩, (hp t).2 hn⟩
    obtain ⟨t', ht'⟩ := Option.isSome_iff_exists.1 (List.find?_isSome.2 hs)
    have hs' := List.find?_some ht'
    rw [ht', OvsInstructionType.name_injective (((hp t').1 hs').symm.trans hn)]

/-- The text of a `set_tunnel` record carries the `64` suffix exactly when the
Nicira encoder writes the record as `NXAST_SET_TUNNEL64`. -/
theorem ofpactFormat_setTunnel64_iff (fc : FormatCollab) (centec : Bool) (tunId : UInt64)
    (compat : OfputilActionCode) :
    "set_tunnel64".toList <+: ofpactFormat fc centec ⟨.setTunnel tunId, compat⟩ ↔
      ofpactSetTunnelToNxast compat tunId = ofputilPutNxast .setTunnel64 ++ zeros 6 ++ wr64 tunId := by
  have hsplit : "set_tunnel64".toList = "set_tunnel".toList ++ "64".toList := rfl
  simp only [ofpactFormat, ofpactSetTunnelToNxast, hsplit, List.append_assoc,
    List.prefix_append_right_inj]
  by_cases hc : 0xffffffff < tunId.toNat ∨ compat = .nxast .setTunnel64
  · rw [if_pos hc, if_neg fun ⟨h1, h2⟩ => hc.elim (by omega) h2]
    exact iff_of_true (List.prefix_append _ _) rfl
  · rw [if_neg hc, if_pos ⟨by omega, (not_or.1 hc).2⟩]
    refine iff_of_false (by simp) fun h => ?_
    have := congrArg List.length h
    simp [ofputilPutNxast, nxastHeader, wr64] at this

/-! ## The records `ofpacts_format` prints -/

theorem ofpactForEach_of_size_le {b : Ofpbuf} {pos : Nat} (h : b.size ≤ pos) (fuel : Nat) :
    ofpactForEach b fuel pos = [] := by
  cases fuel <;> simp [ofpactForEach, Nat.not_lt.2 h]

/-- The last record of an unpadded layout is visited, and then the walk stops
at the end of the buffer, whatever fuel is left. -/
theorem ofpactForEach_last_of_fits {b pre : Ofpbuf} {a : Ofpact} (hb : b = pre ++ [.ofpact a])
    (hfit : a.body.rawSize < 65536) (fuel : Nat) : ofpactForEach b (fuel + 1) pre.size = [a] := by
  have hat : b.recordStartingAt pre.size = some a := by
    have := Ofpbuf.recordStartingAt_append pre [.ofpact a] 0
    rwa [Nat.add_zero, Ofpbuf.recordStartingAt_ofpact, ← hb] at this
  have hsize : b.size = pre.size + a.body.rawSize := by simp [hb, Chunk.size]
  have hlt : pre.size < b.size := by have := OfpactBody.rawSize_ge a.body; omega
  have hend : b.size ≤ pre.size + roundUp a.len 8 := by
    rw [Ofpact.len_of_fits hfit, hsize, ← size_padAfter]; omega
  simp [ofpactForEach, hlt, hat, ofpactForEach_of_size_le hend]

/-- Given at least a step per record, `OFPACT_FOR_EACH` visits exactly the
records of a layout whose records fit their `len`. -/
theorem IsLayout.forEach_of_le {b : Ofpbuf} (h : IsLayout b) (hfit : Fits b.ofpacts) {fuel : Nat}
    (hf : b.ofpacts.length ≤ fuel) : ofpactForEach b fuel 0 = b.ofpacts := by
  obtain ⟨k, rfl⟩ := Nat.exists_eq_add_of_le hf
  rcases h with h | h
  · rcases List.eq_nil_or_concat b.ofpacts with hn | ⟨as, a, hc⟩
    · rw [hn, ofpactForEach_of_size_le (by rw [h, hn]; exact Nat.le_refl _)]
    rw [List.concat_eq_append] at hc
    rw [hc] at hfit h ⊢
    have hb : b = [] ++ paddedLayout as ++ [.ofpact a] := by
      rw [h, List.nil_append, ofpactLayout_append_singleton]
    rw [List.length_append, List.length_singleton, Nat.add_assoc, Nat.add_comm 1 k,
      ← Ofpbuf.size_nil, ofpactForEach_paddedLayout hb (fun x hx => hfit x (List.mem_append_left _ hx)),
      Ofpbuf.size_nil, Nat.zero_add,
      ofpactForEach_last_of_fits (by rw [h, ofpactLayout_append_singleton])
        (hfit a (List.mem_append_right _ (List.mem_singleton_self _)))]
  · have hb : b = [] ++ paddedLayout b.ofpacts ++ [] := by
      rw [List.append_nil, List.nil_append, ← ofpactPad_ofpactLayout]; exact h
    rw [← Ofpbuf.size_nil, ofpactForEach_paddedLayout hb hfit,
      ofpactForEach_of_size_le (by rw [hb]; simp), List.append_nil]

theorem Ofpbuf.length_ofpacts_le_size (b : Ofpbuf) : b.ofpacts.length ≤ b.size := by
  induction b with
  | nil => exact Nat.le_refl _
  | cons c b ih =>
    cases c with
    | ofpact a => have := OfpactBody.rawSize_ge a.body; simp [Ofpbuf.ofpacts, Chunk.size] at ih ⊢; omega
    | zeros n => simp [Ofpbuf.ofpacts, Chunk.size] at ih ⊢; omega

/-- A layout is empty exactly when it has no record. -/
theorem IsLayout.size_eq_zero_iff {b : Ofpbuf} (h : IsLayout b) : b.size = 0 ↔ b.ofpacts = [] := by
  refine ⟨fun hs => List.eq_nil_of_length_eq_zero ?_, fun hn => ?_⟩
  · have := b.length_ofpacts_le_size; omega
  · rcases h with h | h <;> rw [h, hn] <;> rfl

/-- Over a layout whose records fit their `len`, `ofpacts_format` prints
`drop` for no record, else the text of every record, in order. -/
theorem ofpactsFormat_layout (fc : FormatCollab) (centec : Bool) {b : Ofpbuf} (h : IsLayout b)
    (hfit : Fits b.ofpacts) :
    ofpactsFormat fc centec b = "actions=".toList ++
      if b.ofpacts = [] then "drop".toList
      else [','].intercalate (b.ofpacts.map (ofpactFormat fc centec)) := by
  rw [ofpactsFormat, h.forEach_of_le hfit b.length_ofpacts_le_size]
  exact congrArg _ (if_congr h.size_eq_zero_iff rfl rfl)

/-- The text of what every pull leaves in `ofpacts`: `drop`, or the text of
each record the pull decoded, in order. -/
theorem ofpactsFormat_pull {co : Collab} (hfit : co.SubFits) (fc : FormatCollab) (centec : Bool)
    (d : Dialect) (openflow : List UInt8) (len : Nat) (prior : Ofpbuf) :
    ofpactsFormat fc centec (d.pull co centec openflow len prior).ofpacts = "actions=".toList ++
      if (d.pull co centec openflow len prior).ofpacts.ofpacts = [] then "drop".toList
      else [','].intercalate
        ((d.pull co centec openflow len prior).ofpacts.ofpacts.map (ofpactFormat fc centec)) :=
  ofpactsFormat_layout fc centec (Dialect.pull_isLayout co centec d openflow len prior)
    (Dialect.pull_fits hfit centec d openflow len prior)

/-- A 1.0 output to port 1 followed by a strip-VLAN prints as both records. -/
theorem ofpactsFormat_pull_output_strip :
    Collab.rejectAll.SubFits ∧
      ofpactsFormat FormatCollab.blank false (Dialect.pull Collab.rejectAll false .openflow10
        [0, 0, 0, 8, 0, 1, 0, 0, 0, 3, 0, 8, 0, 0, 0, 0] 16 []).ofpacts =
        "actions=output:1,strip_vlan".toList ∧
      ofpactsFormat FormatCollab.blank false (Dialect.pull Collab.rejectAll false .openflow10
        [0, 0, 0, 8, 0, 1, 0, 0, 0, 3, 0, 8, 0, 0, 0, 0] 16 []).ofpacts = "actions=".toList ++
        if (Dialect.pull Collab.rejectAll false .openflow10
            [0, 0, 0, 8, 0, 1, 0, 0, 0, 3, 0, 8, 0, 0, 0, 0] 16 []).ofpacts.ofpacts = [] then
          "drop".toList
        else [','].intercalate ((Dialect.pull Collab.rejectAll false .openflow10
          [0, 0, 0, 8, 0, 1, 0, 0, 0, 3, 0, 8, 0, 0, 0, 0] 16 []).ofpacts.ofpacts.map
            (ofpactFormat FormatCollab.blank false)) :=
  ⟨Collab.rejectAll_subFits, by decide,
    ofpactsFormat_pull Collab.rejectAll_subFits FormatCollab.blank false .openflow10 _ 16 []⟩

end OfpActions
