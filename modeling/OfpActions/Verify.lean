import Mathlib.Data.List.Chain
import OfpActions.Pull

/-!
# Verify — the instruction order `ofpacts_verify` enforces

`ofpacts_verify` (spec §4.H) keeps one variable, the category `inst` of the
previous record, and refuses a record whose category `next` is not above it
once `inst` has left apply-actions. Read as a relation between neighbouring
categories (`MayPrecede`), that one test decides the shape of the whole
sequence: apply-actions records first, then clear-actions, write-metadata and
goto-table, each at most once and in this order (`WellOrdered`). The only error
the loop returns is `UNSUPPORTED_ORDER`.
-/

namespace OfpActions

/-- The test of one iteration of `ofpacts_verify`'s loop, as the relation it asks
of two neighbouring categories: anything may follow apply-actions, and only a
higher category may follow an instruction. -/
def MayPrecede (inst next : OvsInstructionType) : Prop :=
  inst = .applyActions ∨ inst.toNat < next.toNat

instance : DecidableRel MayPrecede := fun _ _ => inferInstanceAs (Decidable (_ ∨ _))

/-- The category sequences OpenFlow's instruction order allows: apply-actions
records, then instruction categories strictly increasing in
`ovs_instruction_type` order. -/
def WellOrdered (cs : List OvsInstructionType) : Prop :=
  ∃ P T, cs = P ++ T ∧ (∀ c ∈ P, c = .applyActions) ∧ (∀ c ∈ T, c ≠ .applyActions) ∧
    T.Chain' fun a b => a.toNat < b.toNat

/-- The loop invariant: from `inst` on, the loop accepts exactly when `inst` and
the categories of the records left form a `MayPrecede` chain, and otherwise
returns `UNSUPPORTED_ORDER`. -/
theorem ofpactsVerify_go_eq (inst : OvsInstructionType) (A : List Ofpact) :
    ofpactsVerify.go inst A =
      if (inst :: A.map ofpactInstructionType).Chain' MayPrecede then none
      else some .ofpbacUnsupportedOrder := by
  induction A generalizing inst with
  | nil => simp [ofpactsVerify.go]
  | cons a A ih =>
    rw [ofpactsVerify.go, ih]
    simp only [List.map_cons, List.chain'_cons]
    by_cases hi : inst = .applyActions <;>
      by_cases hlt : inst.toNat < (ofpactInstructionType a).toNat <;>
      simp [MayPrecede, hi, hlt, Nat.not_lt.1, Nat.not_le.2]

/-- Past an instruction category, a `MayPrecede` chain only climbs, so it never
comes back to apply-actions. -/
theorem chain_mayPrecede_of_ne {c : OvsInstructionType} {T : List OvsInstructionType}
    (hc : c ≠ .applyActions) (h : (c :: T).Chain' MayPrecede) :
    (∀ x ∈ c :: T, x ≠ .applyActions) ∧ (c :: T).Chain' fun a b => a.toNat < b.toNat := by
  induction T generalizing c with
  | nil => simpa using hc
  | cons d T ih =>
    rw [List.chain'_cons] at h ⊢
    have hcd : c.toNat < d.toNat := h.1.resolve_left hc
    have hd : d ≠ .applyActions := by
      rintro rfl
      exact Nat.not_lt_zero _ hcd
    obtain ⟨hall, hch⟩ := ih hd h.2
    exact ⟨List.forall_mem_cons.2 ⟨hc, hall⟩, hcd, hch⟩

theorem wellOrdered_iff_chain (cs : List OvsInstructionType) :
    WellOrdered cs ↔ cs.Chain' MayPrecede := by
  constructor
  · rintro ⟨P, T, rfl, hP, -, hT⟩
    induction P with
    | nil => exact hT.imp fun _ _ => .inr
    | cons c P ih =>
      rw [List.forall_mem_cons] at hP
      exact List.chain'_cons'.2 ⟨fun _ _ => .inl hP.1, ih hP.2⟩
  · intro h
    induction cs with
    | nil => exact ⟨[], [], rfl, by simp, by simp, List.chain'_nil⟩
    | cons c cs ih =>
      by_cases hc : c = .applyActions
      · obtain ⟨P, T, rfl, hP, hT, hch⟩ := ih (List.chain'_cons'.1 h).2
        exact ⟨c :: P, T, rfl, List.forall_mem_cons.2 ⟨hc, hP⟩, hT, hch⟩
      · obtain ⟨hT, hch⟩ := chain_mayPrecede_of_ne hc h
        exact ⟨[], c :: cs, rfl, by simp, hT, hch⟩

/-- The `MayPrecede` chain test, one neighbouring pair at a time. -/
def decideChainMayPrecede : (cs : List OvsInstructionType) → Decidable (cs.Chain' MayPrecede)
  | [] => isTrue List.chain'_nil
  | [_] => isTrue (List.chain'_singleton _)
  | _ :: b :: cs =>
    haveI := decideChainMayPrecede (b :: cs)
    decidable_of_iff _ List.chain'_cons.symm

instance (cs : List OvsInstructionType) : Decidable (WellOrdered cs) :=
  @decidable_of_iff _ _ (wellOrdered_iff_chain cs).symm (decideChainMayPrecede cs)

example : WellOrdered [.applyActions, .applyActions, .clearActions, .gotoTable] := by decide
example : ¬ WellOrdered [.clearActions, .applyActions] := by decide
example : ¬ WellOrdered [.gotoTable, .writeMetadata] := by decide

end OfpActions
