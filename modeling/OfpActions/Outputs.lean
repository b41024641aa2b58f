import OfpActions.Format
import OfpActions.Laws

/-!
# Outputs — which ports and groups a decoded list sends to

`ofpacts_output_to_port` and, in the `_OFP_CENTEC_` build,
`ofpacts_output_to_group` answer a question of every record `OFPACT_FOR_EACH`
visits: does it send to this port, or to this group? Other modules ask them
of a list an action pull decoded, so the answers should be those the wire
list gives.

They are. After an action pull that returns `0`, the buffer holds the records
the decoder put for each wire record that tiles the pulled bytes
(`ofpactsPullActions_ofpacts`), and `OFPACT_FOR_EACH` visits exactly them. Per
wire record, the decoders put a record that sends to a port only for an
output action, a 1.0 enqueue action, or a Nicira controller action, and the
port is the one the action names (`ofpactFromOpenflow10_outputsToPort`,
`ofpactFromOpenflow11_outputsToPort`). A Nicira `output_reg`, a `resubmit` or a
`bundle` sends elsewhere, but neither query counts it.

After an instruction pull the same holds of the action lists of its
apply-actions and (Centec) write-actions instructions: the records the pull
synthesises itself are `Quiet`, so both queries see only the records of those
lists (`ofpactsPullOpenflow11Instructions_senders`).
-/

namespace OfpActions

/-! ## The queries -/

/-- `ofpact_outputs_to_port`. -/
def ofpactOutputsToPort (a : Ofpact) (port : UInt16) : Bool :=
  match a.body with
  | .output p _ => p == port
  | .enqueue p _ => p == port
  | .controller .. => port == OFPP_CONTROLLER
  | _ => false

/-- `ofpacts_output_to_port`: the `OFPACT_FOR_EACH` loop returns at the first
record that outputs to `port`. -/
def ofpactsOutputToPort (b : Ofpbuf) (port : UInt16) : Bool :=
  (ofpactForEach b b.size 0).any fun a => ofpactOutputsToPort a port

/-- `ofpacts_output_to_group`, compiled in the `_OFP_CENTEC_` build only: a
record of type `OFPACT_GROUP` with this `group_id`. -/
def ofpactsOutputToGroup (b : Ofpbuf) (groupId : UInt32) : Bool :=
  (ofpactForEach b b.size 0).any fun a => a.body == .group groupId

/-- Over a layout whose records fit their `len`, the queries ask every record. -/
theorem IsLayout.forEach_self {b : Ofpbuf} (h : IsLayout b) (hfit : Fits b.ofpacts) :
    ofpactForEach b b.size 0 = b.ofpacts :=
  h.forEach_of_le hfit b.length_ofpacts_le_size

/-- The bodies either query can answer `true` for: outputs, enqueues,
controller actions and groups. -/
def OfpactBody.sendsOut : OfpactBody → Bool
  | .output .. | .enqueue .. | .controller .. | .group _ => true
  | _ => false

/-- Records none of which sends the packet out. -/
def Quiet (xs : List Ofpact) : Prop := ∀ x ∈ xs, x.body.sendsOut = false

theorem OfpactBody.sendsOut_of_outputsToPort {x : Ofpact} {port : UInt16}
    (h : ofpactOutputsToPort x port = true) : x.body.sendsOut = true := by
  rcases x with ⟨body, compat⟩
  cases body <;> first | rfl | exact Bool.noConfusion h

theorem OfpactBody.sendsOut_of_group {x : Ofpact} {groupId : UInt32}
    (h : (x.body == .group groupId) = true) : x.body.sendsOut = true := by
  rw [beq_iff_eq.1 h]
  rfl

/-- A question that only a record sending out can answer `true`, as both
queries are, finds nothing among quiet records. -/
theorem Quiet.any {xs : List Ofpact} (h : Quiet xs) {q : Ofpact → Bool}
    (hq : ∀ x, q x = true → x.body.sendsOut = true) : xs.any q = false :=
  List.any_eq_false.2 fun x hx hx' => Bool.noConfusion ((hq x hx').symm.trans (h x hx))

/-! ## What the wire list says -/

/-- The 1.0 wire actions that send to `port`: `OFPAT10_OUTPUT` and
`OFPAT10_ENQUEUE` name it in their 16-bit `port` field, and
`NXAST_CONTROLLER` sends to `OFPP_CONTROLLER`. -/
def openflow10SendsTo (centec : Bool) (r : List UInt8) (port : UInt16) : Bool :=
  match decodeOpenflow10Action centec r with
  | .ok (.ofpat10 .output) | .ok (.ofpat10 .enqueue) => rd16 r 4 == port
  | .ok (.nxast .controller) => port == OFPP_CONTROLLER
  | _ => false

/-- The 1.1 wire actions that send to `port`: `OFPAT11_OUTPUT` names it in its
32-bit `port` field, as `ofputil_port_from_ofp11` reads it, and
`NXAST_CONTROLLER` sends to `OFPP_CONTROLLER`. -/
def openflow11SendsTo (centec : Bool) (r : List UInt8) (port : UInt16) : Bool :=
  match decodeOpenflow11Action centec r with
  | .ok (.ofpat11 .output) =>
    match ofputilPortFromOfp11 (rd32 r 4) with
    | .ok p => p == port
    | .error _ => false
  | .ok (.nxast .controller) => port == OFPP_CONTROLLER
  | _ => false

/-- The 1.1 wire actions that send to group `groupId`: `OFPAT11_GROUP`, which
names it in its `group_id` field. -/
def openflow11SendsToGroup (centec : Bool) (r : List UInt8) (groupId : UInt32) : Bool :=
  match decodeOpenflow11Action centec r with
  | .ok (.ofpat11 .group) => rd32 r 4 == groupId
  | _ => false

/-! ## Per wire record -/

section Records

variable (co : Collab) (centec : Bool) (r : List UInt8)

/-- Of the Nicira actions, only the controller action puts a record that sends
out. -/
theorem ofpactFromNxast_quiet {c : Nxast} (hc : c ≠ .controller) :
    Quiet (ofpactFromNxast co r c).1 := by
  cases c <;> simp only [ofpactFromNxast, resubmitFromOpenflow, resubmitTableFromOpenflow,
      metadataFromNxast, noteFromOpenflow, decTtlFromOpenflow, decTtlCntIdsFromOpenflow,
      outputRegFromOpenflow, multipathFromOpenflow, subFromOpenflow, putOne] <;>
    (repeat' split) <;>
    first
    | exact fun _ h => absurd h (List.not_mem_nil _)
    | exact List.forall_mem_singleton.2 rfl
    | exact absurd rfl hc

theorem ofpactFromNxast_outputsToPort (c : Nxast) (port : UInt16) :
    ((ofpactFromNxast co r c).1.any fun x => ofpactOutputsToPort x port) =
      (c == .controller && port == OFPP_CONTROLLER) := by
  by_cases hc : c = .controller
  · subst hc
    exact Bool.or_false _
  · rw [(ofpactFromNxast_quiet co r hc).any fun _ => OfpactBody.sendsOut_of_outputsToPort,
      beq_false_of_ne hc, Bool.false_and]

/-- No Nicira action puts a group record. -/
theorem ofpactFromNxast_group (c : Nxast) (groupId : UInt32) :
    ((ofpactFromNxast co r c).1.any fun x => x.body == .group groupId) = false := by
  by_cases hc : c = .controller
  · subst hc
    rfl
  · exact (ofpactFromNxast_quiet co r hc).any fun _ => OfpactBody.sendsOut_of_group

/-- The records `ofpact_from_openflow10` puts for a wire record send to `port`
exactly when the wire record does. -/
theorem ofpactFromOpenflow10_outputsToPort (port : UInt16) :
    ((ofpactFromOpenflow10 co centec r).1.any fun x => ofpactOutputsToPort x port) =
      openflow10SendsTo centec r port := by
  unfold ofpactFromOpenflow10 openflow10SendsTo
  rcases decodeOpenflow10Action centec r with e | _ | c | c | c
  case error => rfl
  case ok.ofpat10 =>
    cases c <;> simp only [outputFromOpenflow10, enqueueFromOpenflow10, setVlanVidFromOpenflow,
      setVlanPcpFromOpenflow, setNwTosFromOpenflow, putOne] <;> (repeat' split) <;>
      first | rfl | exact Bool.or_false _
  case ok.nxast =>
    rw [ofpactFromNxast_outputsToPort]
    cases c <;> rfl
  all_goals rfl

/-- The records `ofpact_from_openflow11` puts for a wire record it accepts send
to `port` exactly when the wire record does. -/
theorem ofpactFromOpenflow11_outputsToPort (port : UInt16)
    (h : (ofpactFromOpenflow11 co centec r).2 = none) :
    ((ofpactFromOpenflow11 co centec r).1.any fun x => ofpactOutputsToPort x port) =
      openflow11SendsTo centec r port := by
  unfold ofpactFromOpenflow11 at h ⊢
  unfold openflow11SendsTo
  generalize decodeOpenflow11Action centec r = d at h ⊢
  rcases d with e | _ | c | c | c
  case error => rfl
  case ok.ofpat11 =>
    cases c
    case output =>
      simp only [outputFromOpenflow11] at h ⊢
      split <;> simp_all [ofpactOutputsToPort]
    all_goals
      simp only [setVlanVidFromOpenflow, setVlanPcpFromOpenflow, setNwTosFromOpenflow,
        pushVlanFromOpenflow11, decTtlFromOpenflow, subFromOpenflow, putOne]
      (repeat' split) <;> rfl
  case ok.nxast =>
    rw [ofpactFromNxast_outputsToPort]
    cases c <;> rfl
  all_goals rfl

/-- The records `ofpact_from_openflow11` puts for a wire record send to group
`groupId` exactly when the wire record does. -/
theorem ofpactFromOpenflow11_group (groupId : UInt32) :
    ((ofpactFromOpenflow11 co centec r).1.any fun x => x.body == .group groupId) =
      openflow11SendsToGroup centec r groupId := by
  unfold ofpactFromOpenflow11 openflow11SendsToGroup
  rcases decodeOpenflow11Action centec r with e | _ | c | c | c
  case error => rfl
  case ok.ofpat11 =>
    cases c <;> simp only [outputFromOpenflow11, setVlanVidFromOpenflow, setVlanPcpFromOpenflow,
      setNwTosFromOpenflow, pushVlanFromOpenflow11, decTtlFromOpenflow, subFromOpenflow,
      putOne] <;> (repeat' split) <;> simp
  case ok.nxast => exact ofpactFromNxast_group co r c groupId
  all_goals rfl

end Records

section Lists

variable {co : Collab} {centec : Bool} {rs : List (List UInt8)}

/-- Over wire records each of which `ofpact_from_openflow11` accepts, the
records it puts send to `port` exactly when one of the wire records does. -/
theorem ofpactFromOpenflow11_any_outputsToPort
    (h : ∀ r ∈ rs, (ofpactFromOpenflow11 co centec r).2 = none) (port : UInt16) :
    ((rs.flatMap fun r => (ofpactFromOpenflow11 co centec r).1).any fun x =>
      ofpactOutputsToPort x port) = rs.any fun r => openflow11SendsTo centec r port := by
  rw [List.any_flatMap]
  refine Bool.eq_iff_iff.2 (List.any_eq_true.trans (Iff.trans ?_ List.any_eq_true.symm))
  exact exists_congr fun r => and_congr_right fun hr => by
    rw [ofpactFromOpenflow11_outputsToPort co centec r port (h r hr)]

theorem ofpactFromOpenflow11_any_group (groupId : UInt32) :
    ((rs.flatMap fun r => (ofpactFromOpenflow11 co centec r).1).any fun x =>
      x.body == .group groupId) = rs.any fun r => openflow11SendsToGroup centec r groupId := by
  simp only [List.any_flatMap, ofpactFromOpenflow11_group]

end Lists

/-! ## Per pull -/

/-- What an action pull that returns `0` leaves in `ofpacts`: the records its
decoder put for the wire records that tile the pulled bytes, each decoded
without error. -/
theorem ofpactsPullActions_ofpacts {f : List UInt8 → Decoded} (hf : ReadsRecord f)
    {B : List UInt8} {len : Nat} {prior : Ofpbuf}
    (hok : (ofpactsPullActions (fun a n out => ofpactsFromOpenflow f n a n out) B len
      prior).error = none) :
    ∃ rs : List (List UInt8), (∀ r ∈ rs, IsWireRecord r ∧ (f r).2 = none) ∧
      rs.flatten = B.take len ∧
      (ofpactsPullActions (fun a n out => ofpactsFromOpenflow f n a n out) B len
        prior).ofpacts.ofpacts = rs.flatMap fun r => (f r).1 := by
  obtain ⟨hmod, hlen, out, ht, -, hp⟩ := ofpactsPullActions_ok hok
  obtain ⟨rs, hrs, hflat, rfl⟩ := ofpactsFromOpenflow_records hf (by omega) ht
  refine ⟨rs, hrs, by rw [hflat, Nat.mul_div_cancel' (Nat.dvd_of_mod_eq_zero hmod)], ?_⟩
  rw [hp]
  simp

/-! ## What an instruction pull synthesises -/

theorem meterRecord_quiet (centec : Bool) (ins : Insts) : Quiet (meterRecord centec ins).toList :=
  fun _ ha => by
    obtain ⟨i, rfl⟩ := meterRecord_eq_some ha
    rfl

theorem clearRecord_quiet (ins : Insts) : Quiet (clearRecord ins).toList := by
  unfold clearRecord
  split
  exacts [List.forall_mem_singleton.2 rfl, fun _ h => absurd h (List.not_mem_nil _)]

theorem writeMetadataRecord_quiet (ins : Insts) : Quiet (writeMetadataRecord ins).toList := by
  unfold writeMetadataRecord
  cases ins .writeMetadata
  exacts [fun _ h => absurd h (List.not_mem_nil _), List.forall_mem_singleton.2 rfl]

theorem gotoTableRecord_quiet (ins : Insts) : Quiet (gotoTableRecord ins).toList := by
  unfold gotoTableRecord
  cases ins .gotoTable
  exacts [fun _ h => absurd h (List.not_mem_nil _), List.forall_mem_singleton.2 rfl]

/-- The records a walk put, if its instruction is there: what the wire records
that tile the instruction's action list decode to. -/
theorem walkOpt_records {co : Collab} {centec : Bool} {a : Option (List Ofpact)}
    {o : Option (List UInt8)} (hs : a.isSome = o.isSome)
    (hx : ∀ xs, a = some xs → ∃ i, o = some i ∧ WalkRecords co centec i xs) :
    ∃ rs : List (List UInt8),
      (∀ r ∈ rs, IsWireRecord r ∧ (ofpactFromOpenflow11 co centec r).2 = none) ∧
      rs.flatten = o.toList.flatMap (List.drop 8) ∧
      a.getD [] = rs.flatMap fun r => (ofpactFromOpenflow11 co centec r).1 := by
  rcases a with _ | xs
  · cases o with
    | none => exact ⟨[], fun _ h => absurd h (List.not_mem_nil _), rfl, rfl⟩
    | some => cases hs
  · obtain ⟨i, rfl, rs, hrs, hflat, rfl⟩ := hx xs rfl
    exact ⟨rs, hrs, by simpa using hflat, rfl⟩

/-- Of what an instruction pull that returns `0` leaves, a question only a
record sending out can answer `true` is answered by the records of the action
lists of its apply-actions and write-actions instructions: the records it
synthesises itself (meter, clear-actions, write-metadata, goto-table) send
nowhere. -/
theorem ofpactsPullOpenflow11Instructions_senders {co : Collab} {centec : Bool}
    (hco : co.SubReadsRecord) {B : List UInt8} {len : Nat} {prior : Ofpbuf}
    (hok : (ofpactsPullOpenflow11Instructions co centec B len prior).error = none) :
    ∃ ins, (decodeOpenflow11Instructions centec (len / 8) B (len / 8) fun _ => none).map
        Insts.records = .ok ins ∧
      ∃ rs : List (List UInt8),
        (∀ r ∈ rs, IsWireRecord r ∧ (ofpactFromOpenflow11 co centec r).2 = none) ∧
        rs.flatten = ((ins .applyActions).toList ++ (ins .writeActions).toList).flatMap (List.drop 8) ∧
        ∀ q : Ofpact → Bool, (∀ x, q x = true → x.body.sendsOut = true) →
          (ofpactsPullOpenflow11Instructions co centec B len prior).ofpacts.ofpacts.any q =
            (rs.flatMap fun r => (ofpactFromOpenflow11 co centec r).1).any q := by
  obtain ⟨ins, out, hdec, hw, ho, -, hp⟩ := ofpactsPullOpenflow11Instructions_insts hco hok
  obtain ⟨a₁, a₂, ⟨ha₁, hx₁⟩, ⟨ha₂, hx₂⟩, -, -, hun, rfl⟩ := ofpactsFromInstructions_trace hco hw ho
  obtain ⟨rs₁, hrs₁, hflat₁, hx₁⟩ := walkOpt_records ha₁ hx₁
  -- The other build refuses write-actions, so its walk ran whenever it is there.
  have ha₂' : a₂.isSome = (ins .writeActions).isSome := by
    rw [ha₂]
    cases hwa : (ins .writeActions).isSome
    · exact Bool.and_false _
    · rw [hun hwa]
      rfl
  obtain ⟨rs₂, hrs₂, hflat₂, hx₂⟩ :=
    walkOpt_records ha₂' fun xs h => (hx₂ xs h).imp fun _ ⟨_, hi, _, hwr⟩ => ⟨hi, hwr⟩
  refine ⟨ins, hdec, rs₁ ++ rs₂, fun r hr => (List.mem_append.1 hr).elim (hrs₁ r) (hrs₂ r), ?_,
    fun q hq => ?_⟩
  · rw [List.flatten_append, hflat₁, hflat₂, List.flatMap_append]
  · rw [hp]
    simp only [putOpt_ofpacts, walkOpt_ofpacts, Ofpbuf.ofpacts_nil, List.nil_append,
      List.any_append, hx₁, hx₂, List.flatMap_append, (meterRecord_quiet centec ins).any hq,
      (clearRecord_quiet ins).any hq, (writeMetadataRecord_quiet ins).any hq,
      (gotoTableRecord_quiet ins).any hq, Bool.false_or, Bool.or_false]

section Pulls

variable {co : Collab} {centec : Bool} (hco : co.SubReadsRecord) (hfit : co.SubFits)
  {B : List UInt8} {len : Nat} {prior : Ofpbuf}

include hco hfit in
/-- After `ofpacts_pull_openflow10` returns `0`, `ofpacts_output_to_port` says
of every port whether a wire action the pull read sends to it. -/
theorem openflow10_outputToPort (hok : (ofpactsPullOpenflow10 co centec B len prior).error = none) :
    ∃ rs : List (List UInt8), rs.flatten = B.take len ∧ (∀ r ∈ rs, IsWireRecord r) ∧
      ∀ port, ofpactsOutputToPort (ofpactsPullOpenflow10 co centec B len prior).ofpacts port =
        rs.any fun r => openflow10SendsTo centec r port := by
  obtain ⟨rs, hrs, hflat, hp⟩ := ofpactsPullActions_ofpacts (ofpactFromOpenflow10_reads hco centec) hok
  have hl : IsLayout (ofpactsPullOpenflow10 co centec B len prior).ofpacts :=
    Dialect.pull_isLayout co centec .openflow10 B len prior
  refine ⟨rs, hflat, fun r hr => (hrs r hr).1, fun port => ?_⟩
  rw [ofpactsOutputToPort, hl.forEach_self (Dialect.pull_fits hfit centec .openflow10 B len prior)]
  erw [hp, List.any_flatMap]
  simp only [ofpactFromOpenflow10_outputsToPort]

/-- A 1.0 output to port 1 and an enqueue to port 2: the pull returns `0`, and
what it left sends to the ports the two actions name. -/
theorem openflow10_outputToPort_output_enqueue :
    Collab.rejectAll.SubReadsRecord ∧ Collab.rejectAll.SubFits ∧
      (ofpactsPullOpenflow10 Collab.rejectAll false
        [0, 0, 0, 8, 0, 1, 0, 0, 0, 11, 0, 16, 0, 2, 0, 0, 0, 0, 0, 0, 0, 0, 0, 7] 24
        []).error = none ∧
      ∃ rs : List (List UInt8), rs.flatten =
          [0, 0, 0, 8, 0, 1, 0, 0, 0, 11, 0, 16, 0, 2, 0, 0, 0, 0, 0, 0, 0, 0, 0, 7].take 24 ∧
        (∀ r ∈ rs, IsWireRecord r) ∧
        ∀ port, ofpactsOutputToPort (ofpactsPullOpenflow10 Collab.rejectAll false
          [0, 0, 0, 8, 0, 1, 0, 0, 0, 11, 0, 16, 0, 2, 0, 0, 0, 0, 0, 0, 0, 0, 0, 7] 24
          []).ofpacts port = rs.any fun r => openflow10SendsTo false r port :=
  ⟨Collab.rejectAll_subReadsRecord, Collab.rejectAll_subFits, by decide,
    openflow10_outputToPort Collab.rejectAll_subReadsRecord Collab.rejectAll_subFits (by decide)⟩

include hco hfit in
/-- After `ofpacts_pull_openflow11_actions` returns `0`, `ofpacts_output_to_port`
says of every port whether a wire action the pull read sends to it. -/
theorem openflow11Actions_outputToPort
    (hok : (ofpactsPullOpenflow11Actions co centec B len prior).error = none) :
    ∃ rs : List (List UInt8), rs.flatten = B.take len ∧ (∀ r ∈ rs, IsWireRecord r) ∧
      ∀ port, ofpactsOutputToPort (ofpactsPullOpenflow11Actions co centec B len prior).ofpacts port =
        rs.any fun r => openflow11SendsTo centec r port := by
  obtain ⟨rs, hrs, hflat, hp⟩ := ofpactsPullActions_ofpacts (ofpactFromOpenflow11_reads hco centec) hok
  have hl : IsLayout (ofpactsPullOpenflow11Actions co centec B len prior).ofpacts :=
    Dialect.pull_isLayout co centec .openflow11Actions B len prior
  refine ⟨rs, hflat, fun r hr => (hrs r hr).1, fun port => ?_⟩
  rw [ofpactsOutputToPort, hl.forEach_self (Dialect.pull_fits hfit centec .openflow11Actions B len prior)]
  erw [hp]
  exact ofpactFromOpenflow11_any_outputsToPort (fun r hr => (hrs r hr).2) port

/-- A 1.1 output to port 1 and, in the `_OFP_CENTEC_` build, a group action. -/
theorem openflow11Actions_outputToPort_output_group :
    Collab.rejectAll.SubReadsRecord ∧ Collab.rejectAll.SubFits ∧
      (ofpactsPullOpenflow11Actions Collab.rejectAll true
        [0, 0, 0, 16, 0, 0, 0, 1, 255, 255, 0, 0, 0, 0, 0, 0, 0, 22, 0, 8, 0, 0, 0, 5] 24
        []).error = none ∧
      ∃ rs : List (List UInt8), rs.flatten =
          [0, 0, 0, 16, 0, 0, 0, 1, 255, 255, 0, 0, 0, 0, 0, 0, 0, 22, 0, 8, 0, 0, 0, 5].take 24 ∧
        (∀ r ∈ rs, IsWireRecord r) ∧
        ∀ port, ofpactsOutputToPort (ofpactsPullOpenflow11Actions Collab.rejectAll true
          [0, 0, 0, 16, 0, 0, 0, 1, 255, 255, 0, 0, 0, 0, 0, 0, 0, 22, 0, 8, 0, 0, 0, 5] 24
          []).ofpacts port = rs.any fun r => openflow11SendsTo true r port :=
  ⟨Collab.rejectAll_subReadsRecord, Collab.rejectAll_subFits, by decide,
    openflow11Actions_outputToPort Collab.rejectAll_subReadsRecord Collab.rejectAll_subFits
      (by decide)⟩

include hco hfit in
/-- After `ofpacts_pull_openflow11_actions` returns `0`, `ofpacts_output_to_group`
says of every group whether a wire action the pull read sends to it. -/
theorem openflow11Actions_outputToGroup
    (hok : (ofpactsPullOpenflow11Actions co centec B len prior).error = none) :
    ∃ rs : List (List UInt8), rs.flatten = B.take len ∧ (∀ r ∈ rs, IsWireRecord r) ∧
      ∀ groupId, ofpactsOutputToGroup (ofpactsPullOpenflow11Actions co centec B len prior).ofpacts
        groupId = rs.any fun r => openflow11SendsToGroup centec r groupId := by
  obtain ⟨rs, hrs, hflat, hp⟩ := ofpactsPullActions_ofpacts (ofpactFromOpenflow11_reads hco centec) hok
  have hl : IsLayout (ofpactsPullOpenflow11Actions co centec B len prior).ofpacts :=
    Dialect.pull_isLayout co centec .openflow11Actions B len prior
  refine ⟨rs, hflat, fun r hr => (hrs r hr).1, fun groupId => ?_⟩
  rw [ofpactsOutputToGroup,
    hl.forEach_self (Dialect.pull_fits hfit centec .openflow11Actions B len prior)]
  erw [hp]
  exact ofpactFromOpenflow11_any_group groupId

/-- The same list: what the pull left sends to the group the group action names. -/
theorem openflow11Actions_outputToGroup_output_group :
    Collab.rejectAll.SubReadsRecord ∧ Collab.rejectAll.SubFits ∧
      (ofpactsPullOpenflow11Actions Collab.rejectAll true
        [0, 0, 0, 16, 0, 0, 0, 1, 255, 255, 0, 0, 0, 0, 0, 0, 0, 22, 0, 8, 0, 0, 0, 5] 24
        []).error = none ∧
      ∃ rs : List (List UInt8), rs.flatten =
          [0, 0, 0, 16, 0, 0, 0, 1, 255, 255, 0, 0, 0, 0, 0, 0, 0, 22, 0, 8, 0, 0, 0, 5].take 24 ∧
        (∀ r ∈ rs, IsWireRecord r) ∧
        ∀ groupId, ofpactsOutputToGroup (ofpactsPullOpenflow11Actions Collab.rejectAll true
          [0, 0, 0, 16, 0, 0, 0, 1, 255, 255, 0, 0, 0, 0, 0, 0, 0, 22, 0, 8, 0, 0, 0, 5] 24
          []).ofpacts groupId = rs.any fun r => openflow11SendsToGroup true r groupId :=
  ⟨Collab.rejectAll_subReadsRecord, Collab.rejectAll_subFits, by decide,
    openflow11Actions_outputToGroup Collab.rejectAll_subReadsRecord Collab.rejectAll_subFits
      (by decide)⟩

include hco hfit in
/-- After `ofpacts_pull_openflow11_instructions` returns `0`,
`ofpacts_output_to_port` says of every port whether an action in the list of
its apply-actions or write-actions instruction sends to it. -/
theorem openflow11Instructions_outputToPort
    (hok : (ofpactsPullOpenflow11Instructions co centec B len prior).error = none) :
    ∃ ins, (decodeOpenflow11Instructions centec (len / 8) B (len / 8) fun _ => none).map
        Insts.records = .ok ins ∧
      ∃ rs : List (List UInt8),
        rs.flatten = ((ins .applyActions).toList ++ (ins .writeActions).toList).flatMap (List.drop 8) ∧
        (∀ r ∈ rs, IsWireRecord r) ∧
        ∀ port, ofpactsOutputToPort (ofpactsPullOpenflow11Instructions co centec B len prior).ofpacts
          port = rs.any fun r => openflow11SendsTo centec r port := by
  obtain ⟨ins, hdec, rs, hrs, hflat, hq⟩ := ofpactsPullOpenflow11Instructions_senders hco hok
  have hl : IsLayout (ofpactsPullOpenflow11Instructions co centec B len prior).ofpacts :=
    Dialect.pull_isLayout co centec .openflow11Instructions B len prior
  refine ⟨ins, hdec, rs, hflat, fun r hr => (hrs r hr).1, fun port => ?_⟩
  rw [ofpactsOutputToPort,
    hl.forEach_self (Dialect.pull_fits hfit centec .openflow11Instructions B len prior),
    hq _ fun _ => OfpactBody.sendsOut_of_outputsToPort]
  exact ofpactFromOpenflow11_any_outputsToPort (fun r hr => (hrs r hr).2) port

/-- An apply-actions instruction with an output to port 1. -/
theorem openflow11Instructions_outputToPort_apply :
    Collab.rejectAll.SubReadsRecord ∧ Collab.rejectAll.SubFits ∧
      (ofpactsPullOpenflow11Instructions Collab.rejectAll false
        [0, 4, 0, 24, 0, 0, 0, 0, 0, 0, 0, 16, 0, 0, 0, 1, 255, 255, 0, 0, 0, 0, 0, 0] 24
        []).error = none ∧
      ∃ ins, (decodeOpenflow11Instructions false (24 / 8)
          [0, 4, 0, 24, 0, 0, 0, 0, 0, 0, 0, 16, 0, 0, 0, 1, 255, 255, 0, 0, 0, 0, 0, 0] (24 / 8)
          fun _ => none).map Insts.records = .ok ins ∧
        ∃ rs : List (List UInt8),
          rs.flatten = ((ins .applyActions).toList ++ (ins .writeActions).toList).flatMap
            (List.drop 8) ∧
          (∀ r ∈ rs, IsWireRecord r) ∧
          ∀ port, ofpactsOutputToPort (ofpactsPullOpenflow11Instructions Collab.rejectAll false
            [0, 4, 0, 24, 0, 0, 0, 0, 0, 0, 0, 16, 0, 0, 0, 1, 255, 255, 0, 0, 0, 0, 0, 0] 24
            []).ofpacts port = rs.any fun r => openflow11SendsTo false r port :=
  ⟨Collab.rejectAll_subReadsRecord, Collab.rejectAll_subFits, by decide,
    openflow11Instructions_outputToPort Collab.rejectAll_subReadsRecord Collab.rejectAll_subFits
      (by decide)⟩

include hco hfit in
/-- After `ofpacts_pull_openflow11_instructions` returns `0`,
`ofpacts_output_to_group` says of every group whether an action in the list of
its apply-actions or write-actions instruction sends to it. -/
theorem openflow11Instructions_outputToGroup
    (hok : (ofpactsPullOpenflow11Instructions co centec B len prior).error = none) :
    ∃ ins, (decodeOpenflow11Instructions centec (len / 8) B (len / 8) fun _ => none).map
        Insts.records = .ok ins ∧
      ∃ rs : List (List UInt8),
        rs.flatten = ((ins .applyActions).toList ++ (ins .writeActions).toList).flatMap (List.drop 8) ∧
        (∀ r ∈ rs, IsWireRecord r) ∧
        ∀ groupId, ofpactsOutputToGroup
          (ofpactsPullOpenflow11Instructions co centec B len prior).ofpacts groupId =
            rs.any fun r => openflow11SendsToGroup centec r groupId := by
  obtain ⟨ins, hdec, rs, hrs, hflat, hq⟩ := ofpactsPullOpenflow11Instructions_senders hco hok
  have hl : IsLayout (ofpactsPullOpenflow11Instructions co centec B len prior).ofpacts :=
    Dialect.pull_isLayout co centec .openflow11Instructions B len prior
  refine ⟨ins, hdec, rs, hflat, fun r hr => (hrs r hr).1, fun groupId => ?_⟩
  rw [ofpactsOutputToGroup,
    hl.forEach_self (Dialect.pull_fits hfit centec .openflow11Instructions B len prior),
    hq _ fun _ => OfpactBody.sendsOut_of_group]
  exact ofpactFromOpenflow11_any_group groupId

/-- In the `_OFP_CENTEC_` build, a write-actions instruction with a group
action. -/
theorem openflow11Instructions_outputToGroup_write :
    Collab.rejectAll.SubReadsRecord ∧ Collab.rejectAll.SubFits ∧
      (ofpactsPullOpenflow11Instructions Collab.rejectAll true
        [0, 3, 0, 16, 0, 0, 0, 0, 0, 22, 0, 8, 0, 0, 0, 5] 16 []).error = none ∧
      ∃ ins, (decodeOpenflow11Instructions true (16 / 8)
          [0, 3, 0, 16, 0, 0, 0, 0, 0, 22, 0, 8, 0, 0, 0, 5] (16 / 8)
          fun _ => none).map Insts.records = .ok ins ∧
        ∃ rs : List (List UInt8),
          rs.flatten = ((ins .applyActions).toList ++ (ins .writeActions).toList).flatMap
            (List.drop 8) ∧
          (∀ r ∈ rs, IsWireRecord r) ∧
          ∀ groupId, ofpactsOutputToGroup (ofpactsPullOpenflow11Instructions Collab.rejectAll true
            [0, 3, 0, 16, 0, 0, 0, 0, 0, 22, 0, 8, 0, 0, 0, 5] 16 []).ofpacts groupId =
              rs.any fun r => openflow11SendsToGroup true r groupId :=
  ⟨Collab.rejectAll_subReadsRecord, Collab.rejectAll_subFits, by decide,
    openflow11Instructions_outputToGroup Collab.rejectAll_subReadsRecord Collab.rejectAll_subFits
      (by decide)⟩

end Pulls

end OfpActions
