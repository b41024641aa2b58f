import Mathlib.Data.List.Chain
import OfpActions.InstructionSet

/-!
# Runs — apply-actions around maximal runs of actions

`ofpacts_put_openflow11_instructions` (spec §4.F) walks the record list once.
A clear-actions, write-metadata or goto-table record, and in the Centec build a
meter, is written as its own instruction. Any other record opens an
apply-actions instruction; the inner `OFPACT_FOR_EACH` writes it and the
records after it up to the next instruction, hands the cursor back with
`a = processed`, and `ofpacts_update_instruction_actions` fixes up the `len`
or, when nothing was written, deletes the header.

`instructionSegments` cuts a record list into the pieces the two loops see:
instruction records and maximal runs of other records. It has the four
properties of a split into maximal runs (`SegmentsOf`), and the encoder writes
exactly one piece of output per segment, in order
(`ofpactsPutInstructions_segments`). `ofpacts_update_instruction_actions`
stores the apply-actions `len` in 16 bits unchecked: a run that encodes to
more than 65527 bytes gets a wrapped `len`, which the pull refuses
(`apply_actions_len_wraps`).
-/

namespace OfpActions

/-! ## Segments -/

/-- A piece of a record list as the instruction encoder sees it: a record put as
its own instruction, or a run of records put inside one apply-actions
instruction. -/
inductive Segment
  | instruction (a : Ofpact)
  | run (as : List Ofpact)

def Segment.records : Segment → List Ofpact
  | .instruction a => [a]
  | .run as => as

def Segment.isRun : Segment → Bool
  | .instruction _ => false
  | .run _ => true

/-- An instruction record, or a nonempty run of records that
`ofpact_is_instruction` does not name. -/
def Segment.Valid (centec : Bool) : Segment → Prop
  | .instruction a => ofpactIsInstruction centec a = true
  | .run as => as ≠ [] ∧ ∀ x ∈ as, ofpactIsInstruction centec x = false

/-- The split of a record list into instruction records and maximal runs of the
other records. -/
def instructionSegments (centec : Bool) : List Ofpact → List Segment
  | [] => []
  | a :: as =>
    if ofpactIsInstruction centec a then .instruction a :: instructionSegments centec as
    else match instructionSegments centec as with
      | .run r :: S => .run (a :: r) :: S
      | S => .run [a] :: S

/-- `S` cuts `A` into instruction records and maximal runs: the segments give
back `A`, each is valid, and no two runs are neighbours. -/
structure SegmentsOf (centec : Bool) (A : List Ofpact) (S : List Segment) : Prop where
  flatten : S.flatMap Segment.records = A
  valid : ∀ s ∈ S, s.Valid centec
  maximal : S.Chain' fun s t => ¬ (s.isRun ∧ t.isRun)

theorem instructionSegments_segmentsOf (centec : Bool) (A : List Ofpact) :
    SegmentsOf centec A (instructionSegments centec A) := by
  induction A with
  | nil => exact ⟨rfl, by simp [instructionSegments], List.chain'_nil⟩
  | cons a A ih =>
    obtain ⟨hf, hv, hm⟩ := ih
    by_cases ha : ofpactIsInstruction centec a
    · refine ⟨by simp [instructionSegments, ha, hf, Segment.records], ?_, ?_⟩
      · simpa [instructionSegments, ha, Segment.Valid] using hv
      · simpa [instructionSegments, ha, List.chain'_cons', Segment.isRun] using hm
    · -- `a` joins the run the rest starts with, or is a run alone.
      simp only [Bool.not_eq_true] at ha
      rcases hS : instructionSegments centec A with _ | ⟨b | r, S⟩ <;> rw [hS] at hf hv hm <;>
        simp only [instructionSegments, hS, ha, Bool.false_eq_true, if_false] <;>
        refine ⟨?_, ?_, ?_⟩ <;>
        simp_all [Segment.records, Segment.Valid, Segment.isRun, List.chain'_cons']

/-- A record list that starts with records outside the instructions, up to an
instruction or the end, starts with their run. -/
theorem instructionSegments_run {centec : Bool} {a : Ofpact} {r T : List Ofpact}
    (hr : ∀ x ∈ a :: r, ofpactIsInstruction centec x = false)
    (hT : ∀ b ∈ T.head?, ofpactIsInstruction centec b = true) :
    instructionSegments centec (a :: (r ++ T)) = .run (a :: r) :: instructionSegments centec T := by
  induction r generalizing a with
  | nil =>
    have ha := hr a (List.mem_cons_self _ _)
    rcases T with _ | ⟨b, T⟩
    · simp [instructionSegments, ha]
    · simp [instructionSegments, ha, hT b rfl]
  | cons b r ih =>
    have ha := hr a (List.mem_cons_self _ _)
    rw [List.cons_append, instructionSegments, if_neg (by simp [ha]),
      ih fun x hx => hr x (List.mem_cons_of_mem _ hx)]

/-- Every record list that starts outside the instructions starts with a run
that reaches the next instruction or the end. -/
theorem exists_run {centec : Bool} {a : Ofpact} (ha : ofpactIsInstruction centec a = false)
    (A : List Ofpact) :
    ∃ r T, A = r ++ T ∧ (∀ x ∈ a :: r, ofpactIsInstruction centec x = false) ∧
      ∀ b ∈ T.head?, ofpactIsInstruction centec b = true := by
  induction A generalizing a with
  | nil => exact ⟨[], [], rfl, by simpa using ha, by simp⟩
  | cons b A ih =>
    by_cases hb : ofpactIsInstruction centec b
    · exact ⟨[], b :: A, rfl, by simpa using ha, by simpa using hb⟩
    · obtain ⟨r, T, rfl, hr, hT⟩ := ih (by simpa using hb)
      exact ⟨b :: r, T, rfl, List.forall_mem_cons.2 ⟨ha, hr⟩, hT⟩

/-! ## What the encoder writes for each segment -/

/-- The bytes for one segment: an instruction record's own instruction, or the
apply-actions instruction around the encodings of a run's records, left out
when they are empty. `none` where `ofpact_to_openflow11` stops at
`NOT_REACHED()` or the walk cannot step past a record. -/
def Segment.put (co : Collab) (centec : Bool) : Segment → Option (List UInt8)
  | .instruction a => ofpactInstruction centec a
  | .run as => (as.mapM (forEachEncode (ofpactToOpenflow11 co centec))).map fun es =>
      if es.flatten = [] then [] else applyInstruction es.flatten

section Encoder

variable {co : Collab} {centec : Bool}

theorem ofpactInstruction_isSome {x : Ofpact} (h : ofpactIsInstruction centec x = true) :
    (ofpactInstruction centec x).isSome := by
  unfold ofpactIsInstruction at h
  unfold ofpactInstruction
  split <;> simp_all

/-- The inner loop encodes the run and hands back what follows it. -/
theorem ofpactsPutApplyActions_eq {r T : List Ofpact}
    (hr : ∀ x ∈ r, ofpactIsInstruction centec x = false)
    (hT : ∀ b ∈ T.head?, ofpactIsInstruction centec b = true) (o : List UInt8) :
    ofpactsPutApplyActions co centec (r ++ T) o =
      (r.mapM (forEachEncode (ofpactToOpenflow11 co centec))).map fun es => (o ++ es.flatten, T) := by
  induction r generalizing o with
  | nil =>
    rcases T with _ | ⟨b, T⟩
    · simp [ofpactsPutApplyActions, -List.mapM]
    · simp [ofpactsPutApplyActions, hT b rfl, -List.mapM]
  | cons x r ih =>
    have hx := hr x (List.mem_cons_self _ _)
    rcases he : forEachEncode (ofpactToOpenflow11 co centec) x with _ | e
    · simp [ofpactsPutApplyActions, hx, he, -List.mapM]
    · simp [ofpactsPutApplyActions, hx, he, ih (fun y hy => hr y (List.mem_cons_of_mem _ hy)),
        Option.map_eq_bind, Option.bind_assoc, Function.comp_def, -List.mapM]

/-- The outer loop, from any point of the output on, writes the pieces of the
segments in order. -/
theorem ofpactsPutInstructions_segments {n : Nat} {A : List Ofpact} (hn : A.length ≤ n)
    (o : List UInt8) :
    ofpactsPutInstructions co centec n A o =
      ((instructionSegments centec A).mapM (Segment.put co centec)).map (o ++ ·.flatten) := by
  induction n generalizing A o with
  | zero =>
    rw [List.length_eq_zero.1 (Nat.le_zero.1 hn)]
    simp [ofpactsPutInstructions, instructionSegments, -List.mapM]
  | succ n ih =>
    rcases A with _ | ⟨a, A⟩
    · simp [ofpactsPutInstructions, instructionSegments, -List.mapM]
    by_cases ha : ofpactIsInstruction centec a
    · -- A record written as its own instruction.
      obtain ⟨i, hi⟩ := Option.isSome_iff_exists.1 (ofpactInstruction_isSome ha)
      simp only [List.length_cons, Nat.add_le_add_iff_right] at hn
      simp [ofpactsPutInstructions, hi, instructionSegments, ha, Segment.put, ih hn,
        Option.map_eq_bind, Option.bind_assoc, Function.comp_def, -List.mapM]
    · -- A run, up to the next instruction.
      simp only [Bool.not_eq_true] at ha
      obtain ⟨r, T, rfl, hr, hT⟩ := exists_run ha A
      have hT' : T.length ≤ n := by simp only [List.length_cons, List.length_append] at hn; omega
      have hput := @ofpactsPutApplyActions_eq co centec (a :: r) T hr hT (o ++ instructionPut .applyActions)
      rw [List.cons_append] at hput
      rw [instructionSegments_run hr hT, List.mapM_cons]
      simp only [ofpactsPutInstructions, ofpactInstruction_of_not ha, ha, Bool.false_eq_true,
        if_false, hput, Segment.put]
      rcases (a :: r).mapM (forEachEncode (ofpactToOpenflow11 co centec)) with _ | es
      · rfl
      · simp only [Option.map_some']
        rw [ofpactsUpdateInstructionActions_apply, ih hT']
        simp [Option.map_eq_bind, Option.bind_assoc, Function.comp_def, -List.mapM]

/-- The apply-actions instruction around `payload`: type `OFPIT11_APPLY_ACTIONS`,
`len` 8 plus the payload size as a 16-bit field holds it, then the payload
after the 8-byte header. -/
theorem applyInstruction_fields (payload : List UInt8) :
    getBE (applyInstruction payload) 0 2 = 4 ∧
      getBE (applyInstruction payload) 2 2 = (8 + payload.length) % 65536 ∧
      (applyInstruction payload).drop 8 = payload := by
  refine ⟨?_, ?_, List.drop_left' (by simp only [List.length_append, toBE_length, zeros_length])⟩ <;>
    simp only [applyInstruction, List.append_assoc]
  exacts [getBE_instruction_type _ _ _, getBE_instruction_len _ _ _]

/-- `ofpacts_put_openflow11_instructions` cuts the records into instruction
records and maximal runs of the other records, and writes, in order, each
instruction record's own instruction and, for each run, one apply-actions
instruction around the concatenated encodings of its records, left out when
they are empty; it stops where `ofpact_to_openflow11` does. -/
theorem instructions_put_by_segments (co : Collab) (centec : Bool) (A : List Ofpact) :
    SegmentsOf centec A (instructionSegments centec A) ∧
      ofpactsPutOpenflow11Instructions co centec A [] =
        ((instructionSegments centec A).mapM (Segment.put co centec)).map List.flatten ∧
      ∀ payload : List UInt8, getBE (applyInstruction payload) 0 2 = 4 ∧
        getBE (applyInstruction payload) 2 2 = (8 + payload.length) % 65536 ∧
        (applyInstruction payload).drop 8 = payload :=
  ⟨instructionSegments_segmentsOf centec A,
    by simpa using @ofpactsPutInstructions_segments co centec A.length A (le_refl _) [],
    applyInstruction_fields⟩

/-- An instruction walk whose first instruction has `len` 0 stops there with
`BAD_LEN`. -/
theorem decodeOpenflow11Instructions_len_zero (centec : Bool) (fuel : Nat) {a : List UInt8}
    (h : getBE a 2 2 = 0) {left : Nat} (hl : 0 < left) (out : Insts) :
    decodeOpenflow11Instructions centec fuel a left out = .error .ofpbicBadLen := by
  cases fuel <;> simp [decodeOpenflow11Instructions, actionIsValid, h,
    decodeOpenflow11InstructionsEnd, Nat.pos_iff_ne_zero.1 hl]

/-- A note of 65518 payload bytes alone in a run: its record is 65528 bytes and
fits, but the apply-actions instruction around it is 65536 bytes, its `len`
wraps to 0, and the instruction pull refuses it with `BAD_LEN`. -/
theorem ofpactsPutOpenflow11Instructions_note_wraps (co : Collab) (centec : Bool)
    {data : List UInt8} (h : data.length = 65518) :
    ofpactsPutOpenflow11Instructions co centec [⟨.note data, .actionInvalid⟩] [] =
        some (applyInstruction (ofpactNoteToNxast data)) ∧
      (ofpactNoteToNxast data).length = 65528 ∧
      getBE (applyInstruction (ofpactNoteToNxast data)) 2 2 = 0 ∧
      (ofpactsPullOpenflow11Instructions co centec (applyInstruction (ofpactNoteToNxast data))
        65536 []).error = some .ofpbicBadLen := by
  have hlen : (ofpactNoteToNxast data).length = 65528 := by rw [ofpactNoteToNxast_length, h]; rfl
  have hne : ofpactNoteToNxast data ≠ [] := fun h => by rw [h, List.length_nil] at hlen; omega
  have hzero : getBE (applyInstruction (ofpactNoteToNxast data)) 2 2 = 0 := by
    rw [(applyInstruction_fields _).2.1, hlen]
  have hA : (applyInstruction (ofpactNoteToNxast data)).length = 65536 := by
    simp [applyInstruction, hlen]
  refine ⟨?_, hlen, hzero, ?_⟩
  · have henc : forEachEncode (ofpactToOpenflow11 co centec) ⟨.note data, .actionInvalid⟩ =
        some (ofpactNoteToNxast data) := by
      rw [forEachEncode_of_lt (by simp only [OfpactBody.rawSize]; omega)]
      rfl
    have hseg : instructionSegments centec [⟨.note data, .actionInvalid⟩] =
        [.run [⟨.note data, .actionInvalid⟩]] := rfl
    rw [ofpactsPutOpenflow11Instructions, ofpactsPutInstructions_segments (le_refl 1), hseg]
    simp [Segment.put, henc, hne, -List.mapM]
  · simp [ofpactsPullOpenflow11Instructions, ofpbufTryPull, hA, OFP_ACTION_ALIGN,
      decodeOpenflow11Instructions_len_zero _ _ hzero, ofpactsPullOpenflow11InstructionsEnd]

/-- The note of 65518 zero bytes, alone in an instruction list. -/
theorem apply_actions_len_wraps :
    ofpactsPutOpenflow11Instructions Collab.rejectAll false
        [⟨.note (List.replicate 65518 0), .actionInvalid⟩] [] =
        some (applyInstruction (ofpactNoteToNxast (List.replicate 65518 0))) ∧
      (ofpactNoteToNxast (List.replicate 65518 0)).length = 65528 ∧
      getBE (applyInstruction (ofpactNoteToNxast (List.replicate 65518 0))) 2 2 = 0 ∧
      (ofpactsPullOpenflow11Instructions Collab.rejectAll false
        (applyInstruction (ofpactNoteToNxast (List.replicate 65518 0))) 65536 []).error =
        some .ofpbicBadLen :=
  ofpactsPutOpenflow11Instructions_note_wraps _ _ (List.length_replicate _ _)

end Encoder

end OfpActions
