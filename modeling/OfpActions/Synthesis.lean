import OfpActions.Translate
import OfpActions.Instructions

/-!
# Synthesis — the buffer an instruction pull leaves

`ofpacts_pull_openflow11_instructions` synthesises its records from the
`insts` array in a fixed order (spec §4.E): the Centec meter, the records of
the apply-actions walk, clear-actions, the records of the Centec write-actions
walk, write-metadata and goto-table. `ofpactsFromInstructions_trace` is its
inversion lemma: a pull that returns `0` did exactly those puts and walks, each
if its instruction is there.

A put pads before its record and a walk pads after its records, so the buffer
is the layout of its records, padded at the end unless the last thing done was
a put (`IsLayout`). Which one it is follows from the last record
(`instructionLayout`): only clear-actions and goto-table records are put last
and left unpadded. The one exception is a Centec write-actions whose action
list is empty: its walk puts nothing and pads after the clear-actions record
(`ofpactsFromInstructions_layout`).
-/

namespace OfpActions

/-! ## The records the pull puts itself -/

/-- The records the instruction pull puts last and does not pad: clear-actions
and goto-table, whose records are 4 and 6 bytes. -/
def OfpactBody.endsUnpadded : OfpactBody → Bool
  | .clearActions | .gotoTable _ => true
  | _ => false

/-- The buffer the instruction pull leaves for the records `A`: padded at the
end, unless the last record is one it puts itself and leaves unpadded. -/
def instructionLayout (A : List Ofpact) : Ofpbuf :=
  match A.getLast? with
  | some a => if a.body.endsUnpadded then ofpactLayout A else paddedLayout A
  | none => []

/-- `ofpact_put_METER`, if the Centec build holds a meter instruction. -/
def meterRecord (centec : Bool) (ins : Insts) : Option Ofpact :=
  if centec then (ins .meter).map fun i => ⟨.meter (rd32 i 4), .actionInvalid⟩ else none

/-- `ofpact_put_CLEAR_ACTIONS`, if there is a clear-actions instruction. -/
def clearRecord (ins : Insts) : Option Ofpact :=
  if (ins .clearActions).isSome then some ⟨.clearActions, .actionInvalid⟩ else none

/-- `ofpact_put_WRITE_METADATA`, if there is a write-metadata instruction. -/
def writeMetadataRecord (ins : Insts) : Option Ofpact :=
  (ins .writeMetadata).map fun i => ⟨.writeMetadata (rd64 i 8) (rd64 i 16), .actionInvalid⟩

/-- `ofpact_put_GOTO_TABLE`, if there is a goto-table instruction. -/
def gotoTableRecord (ins : Insts) : Option Ofpact :=
  (ins .gotoTable).map fun i => ⟨.gotoTable (rd8 i 4), .actionInvalid⟩

theorem meterRecord_eq_some {centec : Bool} {ins : Insts} {a : Ofpact}
    (h : a ∈ (meterRecord centec ins).toList) : ∃ i, a = ⟨.meter (rd32 i 4), .actionInvalid⟩ := by
  unfold meterRecord at h
  split at h
  · rcases hm : ins .meter with _ | i <;> simp [hm] at h
    exact ⟨i, h⟩
  · simp at h

/-- `ofpact_put` of the record, if there is one. -/
def putOpt (b : Ofpbuf) : Option Ofpact → Ofpbuf
  | none => b
  | some a => ofpactPut b a

/-- A walk that put the records and padded, if there was one. -/
def walkOpt (b : Ofpbuf) : Option (List Ofpact) → Ofpbuf
  | none => b
  | some xs => ofpactPad (ofpactPutAll b xs)

@[simp] theorem putOpt_ofpacts (b : Ofpbuf) (o : Option Ofpact) :
    (putOpt b o).ofpacts = b.ofpacts ++ o.toList := by
  cases o <;> simp [putOpt, ofpactPut]

@[simp] theorem walkOpt_ofpacts (b : Ofpbuf) (o : Option (List Ofpact)) :
    (walkOpt b o).ofpacts = b.ofpacts ++ o.getD [] := by
  cases o <;> simp [walkOpt]

/-- The records a 1.1 action walk put for the action list of instruction `i`:
what the wire records that make up the list decode to, each without error. -/
def WalkRecords (co : Collab) (centec : Bool) (i : List UInt8) (xs : List Ofpact) : Prop :=
  ∃ rs : List (List UInt8), (∀ r ∈ rs, IsWireRecord r ∧ (ofpactFromOpenflow11 co centec r).2 = none) ∧
    rs.flatten = i.drop 8 ∧ xs = rs.flatMap fun r => (ofpactFromOpenflow11 co centec r).1

/-- An `insts` array each entry of which is a wire record of its own type. -/
def Insts.Wire (centec : Bool) (ins : Insts) : Prop :=
  ∀ t i, ins t = some i → IsWireRecord i ∧ decodeOpenflow11Instruction centec i = .ok t

/-! ## Layouts -/

theorem instructionLayout_cases (A : List Ofpact) :
    instructionLayout A = ofpactLayout A ∨ instructionLayout A = paddedLayout A := by
  unfold instructionLayout
  split
  · split
    · exact .inl rfl
    · exact .inr rfl
  · rename_i h
    rw [List.getLast?_eq_none_iff.1 h]
    exact .inl rfl

theorem instructionLayout_append_singleton (R : List Ofpact) (a : Ofpact) :
    instructionLayout (R ++ [a]) =
      if a.body.endsUnpadded then ofpactLayout (R ++ [a]) else paddedLayout (R ++ [a]) := by
  simp [instructionLayout]

theorem instructionLayout_of_last {A : List Ofpact}
    (h : ∀ a, A.getLast? = some a → a.body.endsUnpadded = false) :
    instructionLayout A = paddedLayout A := by
  unfold instructionLayout
  split
  · rename_i a ha
    rw [h a ha, if_neg (by decide)]
  · rename_i ha
    rw [List.getLast?_eq_none_iff.1 ha]
    rfl

/-- A put after a layout, padded or not, is the layout with the record. -/
theorem ofpactPut_of_layout {b : Ofpbuf} {R : List Ofpact}
    (hb : b = ofpactLayout R ∨ b = paddedLayout R) (a : Ofpact) :
    ofpactPut b a = ofpactLayout (R ++ [a]) := by
  have hp : ofpactPad b = paddedLayout R := by
    rcases hb with rfl | rfl
    · exact ofpactPad_ofpactLayout R
    · exact ofpactPad_of_aligned (paddedLayout_aligned R)
  rw [ofpactPut, hp, ofpactLayout_append_singleton]

/-- A walk after a layout, padded or not, is the padded layout with its records. -/
theorem walk_of_layout {b : Ofpbuf} {R : List Ofpact}
    (hb : b = ofpactLayout R ∨ b = paddedLayout R) (xs : List Ofpact) :
    ofpactPad (ofpactPutAll b xs) = paddedLayout (R ++ xs) := by
  have hp : ofpactPad b = paddedLayout R := by
    rcases hb with rfl | rfl
    · exact ofpactPad_ofpactLayout R
    · exact ofpactPad_of_aligned (paddedLayout_aligned R)
  rw [ofpactPad_ofpactPutAll, hp, paddedLayout_append]

/-- A record whose size is a multiple of 8 needs no pad after it. -/
theorem ofpactLayout_append_aligned (R : List Ofpact) {a : Ofpact}
    (ha : a.body.rawSize % 8 = 0) : ofpactLayout (R ++ [a]) = paddedLayout (R ++ [a]) := by
  rw [ofpactLayout_append_singleton, paddedLayout_append, paddedLayout_cons, paddedLayout_nil]
  simp [padAfter, ha]

/-- A put of a record the pull puts itself keeps the buffer as the pull
leaves it. -/
theorem ofpactPut_instructionLayout {b : Ofpbuf} {R : List Ofpact}
    (hb : b = instructionLayout R ∨ b = paddedLayout R) {a : Ofpact}
    (ha : a.body.endsUnpadded = true ∨ a.body.rawSize % 8 = 0) :
    ofpactPut b a = instructionLayout (R ++ [a]) := by
  have hb' : b = ofpactLayout R ∨ b = paddedLayout R := by
    rcases hb with rfl | rfl
    · exact instructionLayout_cases R
    · exact .inr rfl
  rw [ofpactPut_of_layout hb', instructionLayout_append_singleton]
  split
  · rfl
  · rename_i hu
    exact ofpactLayout_append_aligned R (ha.resolve_left hu)

theorem ofpactPad_instructionLayout (A : List Ofpact) :
    ofpactPad (instructionLayout A) = paddedLayout A := by
  rcases instructionLayout_cases A with h | h <;> rw [h]
  · exact ofpactPad_ofpactLayout A
  · exact ofpactPad_of_aligned (paddedLayout_aligned A)

@[simp] theorem instructionLayout_ofpacts (A : List Ofpact) : (instructionLayout A).ofpacts = A := by
  rcases instructionLayout_cases A with h | h <;> rw [h] <;> simp [ofpactLayout]

/-- A put of a record the pull puts itself, if there is one, keeps the buffer
as the pull leaves it, or padded if `P` allows that. -/
theorem putOpt_instructionLayout {P : Prop} {b : Ofpbuf} {R : List Ofpact}
    (hb : b = instructionLayout R ∨ (P ∧ b = paddedLayout R)) {o : Option Ofpact}
    (ho : ∀ a, o = some a → a.body.endsUnpadded = true ∨ a.body.rawSize % 8 = 0) :
    putOpt b o = instructionLayout (R ++ o.toList) ∨
      (P ∧ putOpt b o = paddedLayout (R ++ o.toList)) := by
  rcases o with _ | a
  · simpa [putOpt] using hb
  · exact .inl (ofpactPut_instructionLayout (hb.imp_right And.right) (ho a rfl))

/-- A walk, if there is one, after the buffer as the pull leaves it keeps it so,
unless it puts nothing: then it pads. -/
theorem walkOpt_instructionLayout {b : Ofpbuf} {R : List Ofpact} (hb : b = instructionLayout R)
    {o : Option (List Ofpact)} (ho : ∀ xs, o = some xs → ∀ x ∈ xs, x.body.endsUnpadded = false) :
    walkOpt b o = instructionLayout (R ++ o.getD []) ∨
      (o = some [] ∧ walkOpt b o = paddedLayout R) := by
  rcases o with _ | xs
  · simpa [walkOpt] using hb
  · simp only [walkOpt, walk_of_layout (hb ▸ instructionLayout_cases R), Option.getD_some]
    rcases List.eq_nil_or_concat xs with rfl | ⟨ys, x, rfl⟩
    · simp
    · left
      rw [List.concat_eq_append, ← List.append_assoc, instructionLayout_of_last]
      intro a ha
      simp only [List.getLast?_append, List.getLast?_singleton] at ha
      obtain rfl : x = a := Option.some.inj ha
      exact ho _ rfl x (by simp)

/-- The records of a 1.1 action walk are never clear-actions or goto-table. -/
theorem ofpactFromOpenflow11_endsUnpadded (co : Collab) (centec : Bool) (r : List UInt8) :
    ∀ x ∈ (ofpactFromOpenflow11 co centec r).1, x.body.endsUnpadded = false := by
  intro ⟨b, c⟩ hx
  have hk := ofpactFromOpenflow11_kinds co centec r _ hx
  cases b <;> simp_all [OfpactBody.endsUnpadded, ofpactIsInstruction]

theorem WalkRecords.endsUnpadded {co : Collab} {centec : Bool} {i : List UInt8} {xs : List Ofpact}
    (h : WalkRecords co centec i xs) : ∀ x ∈ xs, x.body.endsUnpadded = false := by
  obtain ⟨rs, -, -, rfl⟩ := h
  intro x hx
  obtain ⟨r, -, hxr⟩ := List.mem_flatMap.1 hx
  exact ofpactFromOpenflow11_endsUnpadded co centec r x hxr

/-! ## The steps of the pull -/

section Steps

variable {co : Collab} {centec : Bool} {ins : Insts}

theorem Step.andThen_ok {f g : Step} {b b' : Ofpbuf} (h : (f.andThen g) b = (b', none)) :
    ∃ b₁, f b = (b₁, none) ∧ g b₁ = (b', none) := by
  unfold Step.andThen at h
  rcases hf : f b with ⟨b₁, _ | e⟩ <;> rw [hf] at h
  · exact ⟨b₁, rfl, h⟩
  · cases h

theorem meterStep_eq (b : Ofpbuf) : meterStep centec ins b = (putOpt b (meterRecord centec ins), none) := by
  unfold meterStep meterRecord
  rcases ins .meter with _ | i <;> cases centec <;> rfl

theorem clearActionsStep_eq (b : Ofpbuf) : clearActionsStep ins b = (putOpt b (clearRecord ins), none) := by
  unfold clearActionsStep clearRecord
  split <;> rfl

/-- The action walk of an apply- or write-actions instruction that returns `0`
put the records of its action list and padded. -/
theorem actionsWalk_ok (hco : co.SubReadsRecord) {i : List UInt8} (hi : IsWireRecord i)
    (h8 : 8 ≤ i.length) {b b' : Ofpbuf}
    (h : ofpactsFromOpenflow11 co centec (getActionsFromInstruction i).1
      (getActionsFromInstruction i).2 b = (b', none)) :
    ∃ xs, WalkRecords co centec i xs ∧ b' = ofpactPad (ofpactPutAll b xs) := by
  obtain ⟨hlen, hm, -⟩ := hi
  simp only [OFP_ACTION_ALIGN] at hm
  simp only [getActionsFromInstruction, hlen] at h
  obtain ⟨rs, hrs, hflat, rfl⟩ :=
    ofpactsFromOpenflow_records (ofpactFromOpenflow11_reads hco centec) (by simp; omega) h
  refine ⟨_, ⟨rs, hrs, ?_, rfl⟩, rfl⟩
  rw [hflat, List.take_of_length_le (by simp; omega)]

theorem applyActionsStep_ok (hco : co.SubReadsRecord) (hw : ins.Wire centec) {b b' : Ofpbuf}
    (h : applyActionsStep co centec ins b = (b', none)) :
    ∃ a₁ : Option (List Ofpact), a₁.isSome = (ins .applyActions).isSome ∧
      (∀ xs, a₁ = some xs → ∃ i, ins .applyActions = some i ∧ WalkRecords co centec i xs) ∧
      b' = walkOpt b a₁ := by
  unfold applyActionsStep at h
  rcases hi : ins .applyActions with _ | i <;> rw [hi] at h
  · cases h
    exact ⟨none, rfl, (fun _ h => nomatch h), rfl⟩
  · obtain ⟨hwi, hd⟩ := hw _ _ hi
    have h8 := (decodeOpenflow11Instruction_ok hd).2.2
    simp only [OvsInstructionType.extensible, OvsInstructionType.size, if_true, hwi.1] at h8
    obtain ⟨xs, hxs, rfl⟩ := actionsWalk_ok hco hwi h8 h
    exact ⟨some xs, rfl, fun _ h => ⟨i, rfl, Option.some.inj h ▸ hxs⟩, rfl⟩

theorem writeActionsStep_ok (hco : co.SubReadsRecord) (hw : ins.Wire centec) {b b' : Ofpbuf}
    (h : writeActionsStep co centec ins b = (b', none)) :
    ∃ a₂ : Option (List Ofpact), a₂.isSome = (centec && (ins .writeActions).isSome) ∧
      (∀ xs, a₂ = some xs → ∃ i, centec = true ∧ ins .writeActions = some i ∧
        ins .applyActions = none ∧ WalkRecords co centec i xs) ∧
      b' = walkOpt b a₂ := by
  unfold writeActionsStep at h
  rcases hi : ins .writeActions with _ | i <;> cases centec <;> simp only [hi] at h
  · cases h; exact ⟨none, rfl, (fun _ h => nomatch h), rfl⟩
  · cases h; exact ⟨none, rfl, (fun _ h => nomatch h), rfl⟩
  · cases h; exact ⟨none, by simp [hi], (fun _ h => nomatch h), rfl⟩
  · split at h
    · cases h
    · rename_i ha
      obtain ⟨hwi, hd⟩ := hw _ _ hi
      have h8 := (decodeOpenflow11Instruction_ok hd).2.2
      simp only [OvsInstructionType.extensible, OvsInstructionType.size, if_true, hwi.1] at h8
      obtain ⟨xs, hxs, rfl⟩ := actionsWalk_ok hco hwi h8 h
      refine ⟨some xs, by simp [hi], fun _ h => ⟨i, rfl, rfl, ?_, Option.some.inj h ▸ hxs⟩, rfl⟩
      simpa using ha

theorem writeMetadataStep_ok {b b' : Ofpbuf} (h : writeMetadataStep centec ins b = (b', none)) :
    ((ins .writeMetadata).isSome → centec = false) ∧ b' = putOpt b (writeMetadataRecord ins) := by
  unfold writeMetadataStep at h
  unfold writeMetadataRecord
  rcases hi : ins .writeMetadata with _ | i <;> simp only [hi] at h
  · cases h; exact ⟨(fun h => nomatch h), rfl⟩
  · cases centec
    · cases h; exact ⟨fun _ => rfl, rfl⟩
    · cases h

theorem gotoTableStep_ok {b b' : Ofpbuf} (h : gotoTableStep centec ins b = (b', none)) :
    ((ins .gotoTable).isSome → centec = false) ∧ b' = putOpt b (gotoTableRecord ins) := by
  unfold gotoTableStep at h
  unfold gotoTableRecord
  rcases hi : ins .gotoTable with _ | i <;> simp only [hi] at h
  · cases h; exact ⟨(fun h => nomatch h), rfl⟩
  · cases centec
    · cases h; exact ⟨fun _ => rfl, rfl⟩
    · cases h

theorem writeActionsUnsupStep_ok {b b' : Ofpbuf}
    (h : writeActionsUnsupStep centec ins b = (b', none)) :
    ((ins .writeActions).isSome → centec = true) ∧ b' = b := by
  unfold writeActionsUnsupStep at h
  split at h
  · cases h
  · rename_i hc
    cases h
    exact ⟨fun hs => by simpa [hs] using hc, rfl⟩

/-- The inversion lemma of the instruction pull: what it did to the buffer
when it returns `0`. The Centec meter, the walk of apply-actions,
clear-actions, the walk of the Centec write-actions (refused next to
apply-actions), write-metadata and goto-table (both refused by the Centec
build), each if its instruction is there; write-actions is refused by the
other build. -/
theorem ofpactsFromInstructions_trace (hco : co.SubReadsRecord) (hw : ins.Wire centec)
    {out : Ofpbuf} (h : ofpactsFromInstructions co centec ins [] = (out, none)) :
    ∃ a₁ a₂ : Option (List Ofpact),
      (a₁.isSome = (ins .applyActions).isSome ∧
        ∀ xs, a₁ = some xs → ∃ i, ins .applyActions = some i ∧ WalkRecords co centec i xs) ∧
      (a₂.isSome = (centec && (ins .writeActions).isSome) ∧
        ∀ xs, a₂ = some xs → ∃ i, centec = true ∧ ins .writeActions = some i ∧
          ins .applyActions = none ∧ WalkRecords co centec i xs) ∧
      ((ins .writeMetadata).isSome → centec = false) ∧ ((ins .gotoTable).isSome → centec = false) ∧
      ((ins .writeActions).isSome → centec = true) ∧
      out = putOpt (putOpt (walkOpt (putOpt (walkOpt (putOpt [] (meterRecord centec ins)) a₁)
        (clearRecord ins)) a₂) (writeMetadataRecord ins)) (gotoTableRecord ins) := by
  unfold ofpactsFromInstructions at h
  obtain ⟨b₁, h₁, h⟩ := Step.andThen_ok h
  obtain ⟨b₂, h₂, h⟩ := Step.andThen_ok h
  obtain ⟨b₃, h₃, h⟩ := Step.andThen_ok h
  obtain ⟨b₄, h₄, h⟩ := Step.andThen_ok h
  obtain ⟨b₅, h₅, h⟩ := Step.andThen_ok h
  obtain ⟨b₆, h₆, h⟩ := Step.andThen_ok h
  rw [meterStep_eq] at h₁
  rw [clearActionsStep_eq] at h₃
  obtain ⟨a₁, ha₁, hx₁, rfl⟩ := applyActionsStep_ok hco hw h₂
  obtain ⟨a₂, ha₂, hx₂, rfl⟩ := writeActionsStep_ok hco hw h₄
  obtain ⟨hwm, rfl⟩ := writeMetadataStep_ok h₅
  obtain ⟨hgo, rfl⟩ := gotoTableStep_ok h₆
  obtain ⟨hun, rfl⟩ := writeActionsUnsupStep_ok h
  cases h₁
  cases h₃
  exact ⟨a₁, a₂, ⟨ha₁, hx₁⟩, ⟨ha₂, hx₂⟩, hwm, hgo, hun, rfl⟩

/-- The buffer an instruction pull leaves: the layout of its records, padded at
the end unless the last record is clear-actions or goto-table; or, in the
Centec build with a write-actions instruction, padded after a clear-actions
record that an empty write-actions list follows. -/
theorem ofpactsFromInstructions_layout (hco : co.SubReadsRecord) (hw : ins.Wire centec)
    {out : Ofpbuf} (h : ofpactsFromInstructions co centec ins [] = (out, none)) :
    out = instructionLayout out.ofpacts ∨
      (centec = true ∧ (ins .writeActions).isSome ∧ out = paddedLayout out.ofpacts) := by
  obtain ⟨a₁, a₂, ⟨-, hx₁⟩, ⟨-, hx₂⟩, -, -, -, rfl⟩ := ofpactsFromInstructions_trace hco hw h
  have hw₁ : ∀ xs, a₁ = some xs → ∀ x ∈ xs, x.body.endsUnpadded = false := fun xs h =>
    (hx₁ xs h).elim fun _ hi => hi.2.endsUnpadded
  have hw₂ : ∀ xs, a₂ = some xs → ∀ x ∈ xs, x.body.endsUnpadded = false := fun xs h =>
    (hx₂ xs h).elim fun _ hi => hi.2.2.2.endsUnpadded
  -- The meter is 8 bytes: it leaves the buffer as the pull leaves it.
  have h₁ : putOpt [] (meterRecord centec ins) = instructionLayout (meterRecord centec ins).toList := by
    unfold meterRecord
    split <;> rcases ins .meter with _ | i <;>
      simp [putOpt, ofpactPut, instructionLayout, OfpactBody.endsUnpadded, paddedLayout_cons, padAfter,
        OfpactBody.rawSize]
  -- The apply-actions walk follows a buffer with no clear-actions or goto-table.
  have h₂ := walkOpt_instructionLayout h₁ hw₁
  have h₂' : walkOpt (putOpt [] (meterRecord centec ins)) a₁ =
      instructionLayout ((meterRecord centec ins).toList ++ a₁.getD []) := by
    rcases h₂ with h₂ | ⟨rfl, hb⟩
    · exact h₂
    rw [hb, Option.getD_some, List.append_nil, instructionLayout_of_last]
    intro a ha
    obtain ⟨i, rfl⟩ := meterRecord_eq_some (List.mem_of_getLast?_eq_some ha)
    rfl
  have h₃ := putOpt_instructionLayout (P := False) (.inl h₂') (o := clearRecord ins) fun a ha => by
    unfold clearRecord at ha
    split at ha <;> cases ha
    exact .inl rfl
  simp only [false_and, or_false] at h₃
  -- The Centec write-actions walk pads after clear-actions when it puts nothing.
  have h₄ := walkOpt_instructionLayout h₃ hw₂
  have h₄' : walkOpt (putOpt (walkOpt (putOpt [] (meterRecord centec ins)) a₁) (clearRecord ins)) a₂ =
      instructionLayout ((meterRecord centec ins).toList ++ a₁.getD [] ++ (clearRecord ins).toList ++
        a₂.getD []) ∨
      ((centec = true ∧ (ins .writeActions).isSome) ∧
        walkOpt (putOpt (walkOpt (putOpt [] (meterRecord centec ins)) a₁) (clearRecord ins)) a₂ =
          paddedLayout ((meterRecord centec ins).toList ++ a₁.getD [] ++ (clearRecord ins).toList ++
            a₂.getD [])) := by
    refine h₄.imp_right fun ⟨ha, hb⟩ => ?_
    obtain ⟨i, hc, hi, -⟩ := hx₂ [] ha
    subst ha
    exact ⟨⟨hc, by simp [hi]⟩, by simpa using hb⟩
  have h₅ := putOpt_instructionLayout h₄' (o := writeMetadataRecord ins) fun a ha => by
    unfold writeMetadataRecord at ha
    rcases hm : ins .writeMetadata with _ | i <;> simp [hm] at ha
    subst ha
    exact .inr (by simp [OfpactBody.rawSize])
  have h₆ := putOpt_instructionLayout h₅ (o := gotoTableRecord ins) fun a ha => by
    unfold gotoTableRecord at ha
    rcases hg : ins .gotoTable with _ | i <;> simp [hg] at ha
    subst ha
    exact .inl rfl
  rcases h₆ with h₆ | ⟨hc, h₆⟩
  · exact .inl (by rw [h₆, instructionLayout_ofpacts])
  · exact .inr ⟨hc.1, hc.2, by rw [h₆, paddedLayout_ofpacts]⟩

end Steps

end OfpActions
