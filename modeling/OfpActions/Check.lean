import OfpActions.Ofpact

/-!
# Check — `ofpacts_check` and the ethertype it threads

`ofpacts_check` (spec §4.G) hands each record to `ofpact_check__` together
with a pointer to `dl_type`, which starts as the flow's. `push_mpls` and
`pop_mpls` store their ethertype there, and `reg_load` is checked against the
flow with that `dl_type`. The other flow-dependent records (output_reg,
bundle, reg_move, learn, multipath) are checked against the flow as it was
passed in.

The field checks belong to other files (`meta-flow.c`, `bundle.c`,
`nx-match.c`, `learn.c`, `multipath.c`); they are the collaborator
`CheckCollab`, as the sub-codecs are `Collab`.

`ofpactsCheck_eq_firstCheckError` states the loop, with its `dl_type`
variable, as a fold in which each record is checked by `recordCheck` against
a flow: for `reg_load` the flow with the ethertype of the last `push_mpls` or
`pop_mpls` before it (`runningEthertype`), for every other kind the flow
passed in.
-/

namespace OfpActions

/-- `struct flow`: `ofpacts_check` reads and replaces `dl_type` only; the
other fields, of type `σ`, only the field checks read. -/
structure Flow (σ : Type) where
  dlType : UInt16
  rest : σ

/-- The `enum mf_field_id` values `ofpact_check__` compares a `reg_load`'s
destination with; every other field is `other`. -/
inductive MfFieldId
  | mplsTc | mplsLabel | other
  deriving DecidableEq

/-- The checks `ofpact_check__` hands the flow-dependent records to, and the
destination field of a `reg_load` body. -/
structure CheckCollab (σ : Type) where
  /-- `mf_check_src(sf, flow)`. -/
  mfCheckSrc : MfSubfield → Flow σ → Option Ofperr
  /-- `bundle_check(bundle, max_ports, flow)`. -/
  bundleCheck : List UInt8 → Nat → Flow σ → Option Ofperr
  /-- `nxm_reg_move_check(move, flow)`. -/
  regMoveCheck : List UInt8 → Flow σ → Option Ofperr
  /-- `nxm_reg_load_check(load, flow)`. -/
  regLoadCheck : List UInt8 → Flow σ → Option Ofperr
  /-- `learn_check(learn, flow)`. -/
  learnCheck : List UInt8 → Flow σ → Option Ofperr
  /-- `multipath_check(mp, flow)`. -/
  multipathCheck : List UInt8 → Flow σ → Option Ofperr
  /-- `load->dst.field->id`. -/
  regLoadDst : List UInt8 → MfFieldId

variable {σ : Type}

/-- The `_OFP_CENTEC_` exemption: a `reg_load` into `MPLS_TC` or `MPLS_LABEL`
is left to the adaptation layer. -/
def regLoadExempt (cc : CheckCollab σ) (centec : Bool) (load : List UInt8) : Bool :=
  centec && (cc.regLoadDst load == .mplsTc || cc.regLoadDst load == .mplsLabel)

/-- The test of an enqueue's port in `ofpact_check__`. -/
def enqueueCheck (port : UInt16) (maxPorts : Nat) : Option Ofperr :=
  if maxPorts ≤ port.toNat ∧ port ≠ OFPP_IN_PORT ∧ port ≠ OFPP_LOCAL then some .ofpbacBadOutPort
  else none

/-- `ofpact_check__`: the error for `a`, and `*dl_type` after it. `max_ports`
is a port count. The `_OFP_CENTEC_` kinds are `return 0` in that build and
exist in no other. -/
def ofpactCheck (cc : CheckCollab σ) (centec : Bool) (a : Ofpact) (flow : Flow σ)
    (maxPorts : Nat) (dlType : UInt16) : Option Ofperr × UInt16 :=
  match a.body with
  | .output port _ => (ofputilCheckOutputPort port maxPorts, dlType)
  | .enqueue port _ => (enqueueCheck port maxPorts, dlType)
  | .outputReg src _ => (cc.mfCheckSrc src flow, dlType)
  | .sub .bundle b => (cc.bundleCheck b maxPorts flow, dlType)
  | .sub .regMove b => (cc.regMoveCheck b flow, dlType)
  | .sub .regLoad b =>
    if regLoadExempt cc centec b then (none, dlType)
    else if dlType ≠ flow.dlType then (cc.regLoadCheck b { flow with dlType := dlType }, dlType)
    else (cc.regLoadCheck b flow, dlType)
  | .sub .learn b => (cc.learnCheck b flow, dlType)
  | .sub .multipath b => (cc.multipathCheck b flow, dlType)
  | .pushMpls ethertype => (none, ethertype)
  | .popMpls ethertype => (none, ethertype)
  | _ => (none, dlType)

/-- `ofpacts_check`: the first error of `ofpact_check__` over the records, with
`dl_type` carried from one record to the next. -/
def ofpactsCheck (cc : CheckCollab σ) (centec : Bool) (as : List Ofpact) (flow : Flow σ)
    (maxPorts : Nat) : Option Ofperr :=
  go flow.dlType as
where
  go (dlType : UInt16) : List Ofpact → Option Ofperr
    | [] => none
    | a :: as =>
      match ofpactCheck cc centec a flow maxPorts dlType with
      | (some e, _) => some e
      | (none, dlType) => go dlType as

/-! ## The ethertype each record sees -/

/-- The ethertype a `push_mpls` or `pop_mpls` record sets. -/
def Ofpact.mplsEthertype (a : Ofpact) : Option UInt16 :=
  match a.body with
  | .pushMpls ethertype | .popMpls ethertype => some ethertype
  | _ => none

/-- The ethertype after the records `pre`: that of the last `push_mpls` or
`pop_mpls` among them, or `dlType` if there is none. -/
def runningEthertype (dlType : UInt16) (pre : List Ofpact) : UInt16 :=
  ((pre.filterMap Ofpact.mplsEthertype).getLast?).getD dlType

def Ofpact.isRegLoad (a : Ofpact) : Bool :=
  match a.body with
  | .sub .regLoad _ => true
  | _ => false

/-- The check of one record against `flow`: outputs and enqueues against
`maxPorts`, the flow-dependent kinds by their field check against `flow`
(less the Centec exemption), every other kind none. -/
def recordCheck (cc : CheckCollab σ) (centec : Bool) (a : Ofpact) (flow : Flow σ)
    (maxPorts : Nat) : Option Ofperr :=
  match a.body with
  | .output port _ => ofputilCheckOutputPort port maxPorts
  | .enqueue port _ => enqueueCheck port maxPorts
  | .outputReg src _ => cc.mfCheckSrc src flow
  | .sub .bundle b => cc.bundleCheck b maxPorts flow
  | .sub .regMove b => cc.regMoveCheck b flow
  | .sub .regLoad b => if regLoadExempt cc centec b then none else cc.regLoadCheck b flow
  | .sub .learn b => cc.learnCheck b flow
  | .sub .multipath b => cc.multipathCheck b flow
  | _ => none

/-- The first error of checking each record `a` of a list against the flow
`flowAt pre a`, where `pre` are the records before `a`. -/
def firstCheckError (cc : CheckCollab σ) (centec : Bool) (maxPorts : Nat)
    (flowAt : List Ofpact → Ofpact → Flow σ) : List Ofpact → List Ofpact → Option Ofperr
  | _, [] => none
  | pre, a :: as =>
    match recordCheck cc centec a (flowAt pre a) maxPorts with
    | some e => some e
    | none => firstCheckError cc centec maxPorts flowAt (pre ++ [a]) as

/-- The flow with `dl_type` replaced by the running ethertype. -/
def Flow.after (flow : Flow σ) (pre : List Ofpact) : Flow σ :=
  { flow with dlType := runningEthertype flow.dlType pre }

/-- The fold the spec describes: every flow-dependent record is checked against
the flow with the running ethertype. -/
def checkWithRunningEthertype (cc : CheckCollab σ) (centec : Bool) (as : List Ofpact)
    (flow : Flow σ) (maxPorts : Nat) : Option Ofperr :=
  firstCheckError cc centec maxPorts (fun pre _ => flow.after pre) [] as

/-! ## The loop -/

section Loop

variable {cc : CheckCollab σ} {centec : Bool} {flow : Flow σ} {maxPorts : Nat}

/-- The step: `ofpact_check__` leaves `dl_type` as it is except at `push_mpls`
and `pop_mpls`. -/
theorem ofpactCheck_dlType (a : Ofpact) (t : UInt16) :
    (ofpactCheck cc centec a flow maxPorts t).2 = a.mplsEthertype.getD t := by
  rcases a with ⟨b, c⟩
  cases b <;> try rfl
  case sub t' body =>
    cases t' <;> simp only [ofpactCheck] <;> try split_ifs
    all_goals rfl

/-- The step: `ofpact_check__`'s error is `recordCheck`'s against the flow
with the carried `dl_type` for `reg_load`, and against the flow passed in for
every other kind. -/
theorem ofpactCheck_error (a : Ofpact) (t : UInt16) :
    (ofpactCheck cc centec a flow maxPorts t).1 =
      recordCheck cc centec a (if a.isRegLoad then { flow with dlType := t } else flow) maxPorts := by
  rcases a with ⟨b, c⟩
  cases b <;> try rfl
  case sub t' body =>
    cases t' <;> try rfl
    simp only [ofpactCheck, recordCheck, Ofpact.isRegLoad, if_true]
    split_ifs with hx hne <;> try rfl
    rw [not_not.1 hne]

theorem runningEthertype_concat (d : UInt16) (pre : List Ofpact) (a : Ofpact) :
    runningEthertype d (pre ++ [a]) = a.mplsEthertype.getD (runningEthertype d pre) := by
  rcases h : a.mplsEthertype with _ | e <;>
    simp [runningEthertype, List.filterMap_append, h, List.getLast?_append]

/-- The run: from the records `pre` on, the loop carries the running ethertype
of `pre`. -/
theorem ofpactsCheck_go (pre A : List Ofpact) :
    ofpactsCheck.go cc centec flow maxPorts (runningEthertype flow.dlType pre) A =
      firstCheckError cc centec maxPorts
        (fun pre a => if a.isRegLoad then flow.after pre else flow) pre A := by
  induction A generalizing pre with
  | nil => rfl
  | cons a A ih =>
    have herr := @ofpactCheck_error σ cc centec flow maxPorts a (runningEthertype flow.dlType pre)
    have hdl := @ofpactCheck_dlType σ cc centec flow maxPorts a (runningEthertype flow.dlType pre)
    simp only [ofpactsCheck.go, firstCheckError, Flow.after]
    rcases hc : ofpactCheck cc centec a flow maxPorts (runningEthertype flow.dlType pre) with ⟨e, t⟩
    rw [hc] at herr hdl
    dsimp only at herr hdl
    rw [← herr]
    rcases e with _ | e
    · rw [hdl, ← runningEthertype_concat]
      exact ih _
    · rfl

/-- `ofpacts_check` is the fold that checks each `reg_load` against the flow
with the ethertype of the last `push_mpls` or `pop_mpls` before it, and every
other record against the flow passed in. -/
theorem ofpactsCheck_eq_firstCheckError (A : List Ofpact) :
    ofpactsCheck cc centec A flow maxPorts =
      firstCheckError cc centec maxPorts
        (fun pre a => if a.isRegLoad then flow.after pre else flow) [] A :=
  ofpactsCheck_go [] A

end Loop

/-! ## Where the code and the running ethertype part -/

/-- A field registry under which every source field needs the MPLS ethertype,
as the MPLS fields' prerequisites do, and every other check passes. -/
def mplsSourceChecks : CheckCollab Unit where
  mfCheckSrc _ flow := if flow.dlType = 0x8847 then none else some .ofpbacBadArgument
  bundleCheck _ _ _ := none
  regMoveCheck _ _ := none
  regLoadCheck _ _ := none
  learnCheck _ _ := none
  multipathCheck _ _ := none
  regLoadDst _ := .other

/-- After a `push_mpls` of 0x8847 on an IPv4 flow, an `output_reg` from a field
that needs MPLS is checked against the IPv4 flow and refused, where the
running ethertype lets it pass. -/
theorem output_reg_misses_pushed_ethertype :
    ofpactsCheck mplsSourceChecks false
        [⟨.pushMpls 0x8847, .actionInvalid⟩, ⟨.outputReg ⟨0, 0, 32⟩ 0, .actionInvalid⟩]
        ⟨0x0800, ()⟩ OFPP_MAX = some .ofpbacBadArgument ∧
      checkWithRunningEthertype mplsSourceChecks false
        [⟨.pushMpls 0x8847, .actionInvalid⟩, ⟨.outputReg ⟨0, 0, 32⟩ 0, .actionInvalid⟩]
        ⟨0x0800, ()⟩ OFPP_MAX = none :=
  ⟨rfl, rfl⟩

end OfpActions
