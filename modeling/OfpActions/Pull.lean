import OfpActions.Decode

/-!
# Pull — the three decoders

The record walks `ACTION_FOR_EACH` and `INSTRUCTION_FOR_EACH` (spec §4.A),
the instruction framer (§4.E), the order check `ofpacts_verify` (§4.H) and the
public pull functions of §6.1.

A walk advances a pointer by each record's `len` and counts down `left`, the
8-byte units not yet visited. It is written with a `fuel` argument so that it
is structurally recursive and runs under `decide`: every call site passes the
initial `left` as fuel, and since each record is at least one unit the fuel
never runs out before `left` does (`Walk` proves it).
-/

namespace OfpActions

/-- `action_is_valid`, and `instruction_is_valid`, which is the same test:
`len` aligned, at least one unit, and no more units than are left. -/
def actionIsValid (a : List UInt8) (nActions : Nat) : Bool :=
  getBE a 2 2 % OFP_ACTION_ALIGN == 0 && 8 ≤ getBE a 2 2 && getBE a 2 2 / 8 ≤ nActions

/-- After `ACTION_FOR_EACH` in `ofpacts_from_openflow`: units left over are
`BAD_LEN`, otherwise the buffer is padded. -/
def ofpactsFromOpenflowEnd (left : Nat) (out : Ofpbuf) : Ofpbuf × Option Ofperr :=
  if left ≠ 0 then (out, some .ofpbacBadLen) else (ofpactPad out, none)

/-- `ofpacts_from_openflow`: decode each record of the walk with `f`, stop at
the first error. -/
def ofpactsFromOpenflow (f : List UInt8 → Decoded) :
    Nat → List UInt8 → Nat → Ofpbuf → Ofpbuf × Option Ofperr
  | 0, _, left, out => ofpactsFromOpenflowEnd left out
  | fuel + 1, a, left, out =>
    if 0 < left && actionIsValid a left then
      match f a with
      | (recs, some e) => (ofpactPutAll out recs, some e)
      | (recs, none) =>
        ofpactsFromOpenflow f fuel (a.drop (getBE a 2 2)) (left - getBE a 2 2 / 8)
          (ofpactPutAll out recs)
    else ofpactsFromOpenflowEnd left out

/-- `ofpacts_from_openflow10`. -/
def ofpactsFromOpenflow10 (co : Collab) (centec : Bool) (a : List UInt8) (nIn : Nat)
    (out : Ofpbuf) : Ofpbuf × Option Ofperr :=
  ofpactsFromOpenflow (ofpactFromOpenflow10 co centec) nIn a nIn out

/-- `ofpacts_from_openflow11`. -/
def ofpactsFromOpenflow11 (co : Collab) (centec : Bool) (a : List UInt8) (nIn : Nat)
    (out : Ofpbuf) : Ofpbuf × Option Ofperr :=
  ofpactsFromOpenflow (ofpactFromOpenflow11 co centec) nIn a nIn out

/-! ## The order check -/

/-- The instruction an ofpact belongs to, as `ofpacts_verify` computes `next`. -/
def ofpactInstructionType (a : Ofpact) : OvsInstructionType :=
  match a.body with
  | .clearActions => .clearActions
  | .writeMetadata .. => .writeMetadata
  | .gotoTable _ => .gotoTable
  | _ => .applyActions

/-- `ofpacts_verify`, with the loop over `OFPACT_FOR_EACH` carrying `inst`. -/
def ofpactsVerify (as : List Ofpact) : Option Ofperr := go .applyActions as
where
  go (inst : OvsInstructionType) : List Ofpact → Option Ofperr
    | [] => none
    | a :: as =>
      if inst ≠ .applyActions ∧ (ofpactInstructionType a).toNat ≤ inst.toNat then
        some .ofpbacUnsupportedOrder
      else go (ofpactInstructionType a) as

/-! ## Pulling actions -/

/-- What a pull function leaves: its return value, the message after what it
pulled, and the ofpacts buffer. -/
structure Pulled where
  error : Option Ofperr
  openflow : List UInt8
  ofpacts : Ofpbuf

/-- `ofpbuf_try_pull`: a pointer to the first `size` bytes of the message and
the message after them, or `NULL` when fewer are left. -/
def ofpbufTryPull (b : List UInt8) (size : Nat) : Option (List UInt8 × List UInt8) :=
  if size ≤ b.length then some (b, b.drop size) else none

/-- `ofpacts_pull_actions`. `ofpbuf_clear(ofpacts)` comes first, so the prior
content of `ofpacts` is never read. -/
def ofpactsPullActions (translate : List UInt8 → Nat → Ofpbuf → Ofpbuf × Option Ofperr)
    (openflow : List UInt8) (actionsLen : Nat) (_ofpacts : Ofpbuf) : Pulled :=
  if actionsLen % OFP_ACTION_ALIGN ≠ 0 then ⟨some .ofpbrcBadLen, openflow, []⟩
  else match ofpbufTryPull openflow actionsLen with
    | none => ⟨some .ofpbrcBadLen, openflow, []⟩
    | some (actions, rest) =>
      match translate actions (actionsLen / OFP_ACTION_ALIGN) [] with
      | (_, some e) => ⟨some e, rest, []⟩
      | (out, none) =>
        match ofpactsVerify out.ofpacts with
        | some e => ⟨some e, rest, []⟩
        | none => ⟨none, rest, out⟩

/-- `ofpacts_pull_openflow10`. -/
def ofpactsPullOpenflow10 (co : Collab) (centec : Bool) : List UInt8 → Nat → Ofpbuf → Pulled :=
  ofpactsPullActions (ofpactsFromOpenflow10 co centec)

/-- `ofpacts_pull_openflow11_actions`. -/
def ofpactsPullOpenflow11Actions (co : Collab) (centec : Bool) :
    List UInt8 → Nat → Ofpbuf → Pulled :=
  ofpactsPullActions (ofpactsFromOpenflow11 co centec)

/-! ## Instructions -/

/-- `decode_openflow11_instruction`. -/
def decodeOpenflow11Instruction (centec : Bool) (inst : List UInt8) :
    Except Ofperr OvsInstructionType :=
  if getBE inst 0 2 = OFPAT10_VENDOR then .error .ofpbicBadExperimenter
  else match OvsInstructionType.ofType? centec (getBE inst 0 2) with
    | some t =>
      if (if t.extensible then t.size ≤ getBE inst 2 2 else getBE inst 2 2 = t.size) then .ok t
      else .error .ofpbicBadLen
    | none => .error .ofpbicUnknownInst

/-- The `insts` array: at most one instruction per type. -/
abbrev Insts := OvsInstructionType → Option (List UInt8)

/-- After `INSTRUCTION_FOR_EACH`: units left over are `BAD_LEN`. -/
def decodeOpenflow11InstructionsEnd (left : Nat) (out : Insts) : Except Ofperr Insts :=
  if left ≠ 0 then .error .ofpbicBadLen else .ok out

/-- `decode_openflow11_instructions`: a duplicate type is `UNSUPPORTED_ORDER`. -/
def decodeOpenflow11Instructions (centec : Bool) :
    Nat → List UInt8 → Nat → Insts → Except Ofperr Insts
  | 0, _, left, out => decodeOpenflow11InstructionsEnd left out
  | fuel + 1, inst, left, out =>
    if 0 < left && actionIsValid inst left then
      match decodeOpenflow11Instruction centec inst with
      | .error e => .error e
      | .ok type =>
        if (out type).isSome then .error .ofpbacUnsupportedOrder
        else decodeOpenflow11Instructions centec fuel (inst.drop (getBE inst 2 2))
          (left - getBE inst 2 2 / 8) (Function.update out type (some inst))
    else decodeOpenflow11InstructionsEnd left out

/-- `get_actions_from_instruction`: the actions after the 8-byte header, and
their number of units. -/
def getActionsFromInstruction (inst : List UInt8) : List UInt8 × Nat :=
  (inst.drop 8, (getBE inst 2 2 - 8) / 8)

/-- A stretch of `ofpacts_pull_openflow11_instructions` between two
`goto exit`s: what it appends, and the error it jumps with. -/
abbrev Step := Ofpbuf → Ofpbuf × Option Ofperr

/-- Run `g` after `f`, unless `f` jumped to `exit`. -/
def Step.andThen (f g : Step) : Step := fun out =>
  match f out with
  | (out', none) => g out'
  | r => r

/-- The Centec meter: `ofpact_put_METER`. -/
def meterStep (centec : Bool) (insts : Insts) : Step := fun out =>
  match centec, insts .meter with
  | true, some i => (ofpactPut out ⟨.meter (rd32 i 4), .actionInvalid⟩, none)
  | _, _ => (out, none)

/-- Apply-actions: its action list, decoded as a 1.1 action list. -/
def applyActionsStep (co : Collab) (centec : Bool) (insts : Insts) : Step := fun out =>
  match insts .applyActions with
  | some i =>
    ofpactsFromOpenflow11 co centec (getActionsFromInstruction i).1
      (getActionsFromInstruction i).2 out
  | none => (out, none)

/-- Clear-actions: `ofpact_put_CLEAR_ACTIONS`. -/
def clearActionsStep (insts : Insts) : Step := fun out =>
  if (insts .clearActions).isSome then (ofpactPut out ⟨.clearActions, .actionInvalid⟩, none)
  else (out, none)

/-- The Centec write-actions: refused next to apply-actions, else decoded as
apply-actions is. -/
def writeActionsStep (co : Collab) (centec : Bool) (insts : Insts) : Step := fun out =>
  match centec, insts .writeActions with
  | true, some i =>
    if (insts .applyActions).isSome then (out, some .ofpbicUnsupInst)
    else
      ofpactsFromOpenflow11 co centec (getActionsFromInstruction i).1
        (getActionsFromInstruction i).2 out
  | _, _ => (out, none)

/-- Write-metadata: `ofpact_put_WRITE_METADATA`, refused by the Centec build. -/
def writeMetadataStep (centec : Bool) (insts : Insts) : Step := fun out =>
  match insts .writeMetadata with
  | some i =>
    if centec then (out, some .ofpbicUnsupInst)
    else (ofpactPut out ⟨.writeMetadata (rd64 i 8) (rd64 i 16), .actionInvalid⟩, none)
  | none => (out, none)

/-- Goto-table: `ofpact_put_GOTO_TABLE`, refused by the Centec build. -/
def gotoTableStep (centec : Bool) (insts : Insts) : Step := fun out =>
  match insts .gotoTable with
  | some i =>
    if centec then (out, some .ofpbicUnsupInst)
    else (ofpactPut out ⟨.gotoTable (rd8 i 4), .actionInvalid⟩, none)
  | none => (out, none)

/-- The non-Centec build refuses write-actions after the rest is put. -/
def writeActionsUnsupStep (centec : Bool) (insts : Insts) : Step := fun out =>
  if !centec && (insts .writeActions).isSome then (out, some .ofpbicUnsupInst) else (out, none)

/-- The records `ofpacts_pull_openflow11_instructions` synthesises from
`insts`, in its fixed order (spec §4.E step 3). -/
def ofpactsFromInstructions (co : Collab) (centec : Bool) (insts : Insts) : Step :=
  (meterStep centec insts).andThen <| (applyActionsStep co centec insts).andThen <|
    (clearActionsStep insts).andThen <| (writeActionsStep co centec insts).andThen <|
    (writeMetadataStep centec insts).andThen <| (gotoTableStep centec insts).andThen <|
    writeActionsUnsupStep centec insts

/-- What `ofpacts_pull_openflow11_instructions` does after
`decode_openflow11_instructions`: synthesise the records of `insts`, verify
them, and keep them only if nothing jumped to `exit`. -/
def ofpactsPullOpenflow11InstructionsEnd (co : Collab) (centec : Bool) (rest : List UInt8) :
    Except Ofperr Insts → Pulled
  | .error e => ⟨some e, rest, []⟩
  | .ok insts =>
    match ofpactsFromInstructions co centec insts [] with
    | (_, some e) => ⟨some e, rest, []⟩
    | (out, none) =>
      match ofpactsVerify out.ofpacts with
      | some e => ⟨some e, rest, []⟩
      | none => ⟨none, rest, out⟩

/-- `ofpacts_pull_openflow11_instructions`. -/
def ofpactsPullOpenflow11Instructions (co : Collab) (centec : Bool) (openflow : List UInt8)
    (instructionsLen : Nat) (_ofpacts : Ofpbuf) : Pulled :=
  if instructionsLen % OFP_ACTION_ALIGN ≠ 0 then ⟨some .ofpbicBadLen, openflow, []⟩
  else match ofpbufTryPull openflow instructionsLen with
    | none => ⟨some .ofpbicBadLen, openflow, []⟩
    | some (instructions, rest) =>
      ofpactsPullOpenflow11InstructionsEnd co centec rest
        (decodeOpenflow11Instructions centec (instructionsLen / 8) instructions
          (instructionsLen / 8) (fun _ => none))

end OfpActions
