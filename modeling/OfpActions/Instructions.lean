import OfpActions.Locality

/-!
# Instructions — the wire order of instructions is forgotten

`decode_openflow11_instructions` files each instruction under its type in the
`insts` array and refuses a second one of a type, and
`ofpacts_pull_openflow11_instructions` then synthesises its records from the
array in a fixed order (spec §4.E). So permuting the records of an
instruction list changes neither whether the pull succeeds nor, when it does,
anything it returns (`instructions_order_independent`); only the code of a
failed pull can depend on the order, since the walk stops at the first bad
record.

Two facts carry the proof. The array collected from a list of records
depends on the list only up to order, unless the walk fails
(`collectInsts_perm`): records of two types commute, and two of one type fail
in either order. And the synthesised records read only the instructions the
array points at (`ofpactsFromInstructions_records`), so pointers into two
buffers that hold the same records give the same result.

The same locality completes spec §4.A's length safety for the three pulls
(`walks_length_safe`): every walk takes at most its units in steps, reads
only the bytes it walks, and accepts only records that tile them, and the
synthesised records read only inside their instructions.
-/

namespace OfpActions

/-! ## Collecting the array -/

/-- An `insts` array each entry of which is an instruction of its own type. -/
def Insts.Typed (centec : Bool) (ins : Insts) : Prop :=
  ∀ t i, ins t = some i → decodeOpenflow11Instruction centec i = .ok t

theorem Insts.typed_empty (centec : Bool) : Insts.Typed centec fun _ => none :=
  fun _ _ h => nomatch h

theorem Insts.Typed.update {centec : Bool} {ins : Insts} (h : ins.Typed centec)
    {t : OvsInstructionType} {p : List UInt8} (hp : decodeOpenflow11Instruction centec p = .ok t) :
    Insts.Typed centec (Function.update ins t (some p)) := by
  intro u i hu
  by_cases hut : u = t
  · subst hut
    obtain rfl : p = i := by simpa using hu
    exact hp
  · exact h u i (by rwa [Function.update_noteq hut] at hu)

/-- An instruction the array holds is at least as long as its struct. -/
theorem Insts.Typed.size_le {centec : Bool} {ins : Insts} (h : ins.Typed centec)
    {t : OvsInstructionType} {i : List UInt8} (hi : ins t = some i) : t.size ≤ getBE i 2 2 := by
  have hlen := (decodeOpenflow11Instruction_ok (h t i hi)).2.2
  split at hlen <;> omega

/-- Every array the walk collects is typed. -/
theorem collectInsts_typed {centec : Bool} {ps : List (List UInt8)} {left : Nat} {out ins : Insts}
    (h : collectInsts centec ps left out = .ok ins) (hout : out.Typed centec) : ins.Typed centec := by
  induction ps generalizing out with
  | nil =>
    simp only [collectInsts, decodeOpenflow11InstructionsEnd] at h
    split at h
    · cases h
    · cases h
      exact hout
  | cons p ps ih =>
    simp only [collectInsts] at h
    rcases hp : decodeOpenflow11Instruction centec p with e | t <;> simp only [hp] at h
    · cases h
    · split at h
      · cases h
      · exact ih h (hout.update hp)

/-- Two records in a row are collected alike in either order: of two types
they fill two entries, of one type they fail both ways. -/
theorem collectInsts_swap (centec : Bool) (p q : List UInt8) (ps : List (List UInt8)) (left : Nat)
    (out : Insts) :
    (collectInsts centec (p :: q :: ps) left out).toOption =
      (collectInsts centec (q :: p :: ps) left out).toOption := by
  rcases hp : decodeOpenflow11Instruction centec p with e | t <;>
    rcases hq : decodeOpenflow11Instruction centec q with e' | u <;>
    simp only [collectInsts, hp, hq]
  case error.error => rfl
  case error.ok => split <;> rfl
  case ok.error => split <;> rfl
  case ok.ok =>
    by_cases htu : t = u
    · subst htu
      by_cases ht : (out t).isSome <;> simp [ht]
    have hut : u ≠ t := Ne.symm htu
    by_cases ht : (out t).isSome
    · simp [ht, Function.update_noteq htu]
    by_cases hu : (out u).isSome
    · simp [hu, Function.update_noteq hut]
    simp only [ht, hu, Function.update_noteq htu, Function.update_noteq hut, Bool.false_eq_true,
      if_false]
    rw [Function.update_comm htu]

/-- The array collected from a list of records depends on the list only up
to order, unless the walk fails. -/
theorem collectInsts_perm (centec : Bool) {ps ps' : List (List UInt8)} (h : ps.Perm ps')
    (left : Nat) (out : Insts) :
    (collectInsts centec ps left out).toOption = (collectInsts centec ps' left out).toOption := by
  induction h generalizing out with
  | nil => rfl
  | cons p _ ih =>
    rcases hp : decodeOpenflow11Instruction centec p with e | t <;> simp only [collectInsts, hp]
    by_cases ho : (out t).isSome
    · simp [ho]
    · simpa [ho] using ih _
  | swap p q ps => exact collectInsts_swap centec q p ps left out
  | trans _ _ ih ih' => exact (ih out).trans (ih' out)

/-! ## The synthesised records read only the instructions -/

@[simp] theorem Insts.records_isSome (ins : Insts) (t : OvsInstructionType) :
    (Insts.records ins t).isSome = (ins t).isSome := Option.isSome_map'

/-- The action list of an apply- or write-actions instruction is read inside
the instruction. -/
theorem ofpactsFromOpenflow11_actions_recordAt {co : Collab} (hco : co.SubReadsRecord)
    (centec : Bool) {i : List UInt8} (h8 : 8 ≤ getBE i 2 2) :
    ofpactsFromOpenflow11 co centec (getActionsFromInstruction (recordAt i)).1
        (getActionsFromInstruction (recordAt i)).2 =
      ofpactsFromOpenflow11 co centec (getActionsFromInstruction i).1
        (getActionsFromInstruction i).2 := by
  funext out
  have hf := ofpactFromOpenflow11_reads hco centec
  simp only [getActionsFromInstruction, getBE_recordAt_len (by omega : 4 ≤ getBE i 2 2),
    ofpactsFromOpenflow11]
  rw [← ofpactsFromOpenflow_take hf, recordAt, List.drop_take, List.take_take,
    Nat.min_eq_left (by omega), ofpactsFromOpenflow_take hf]

section Steps

variable {co : Collab} {centec : Bool} {ins : Insts}

theorem meterStep_records (h : ins.Typed centec) :
    meterStep centec (Insts.records ins) = meterStep centec ins := by
  funext out
  rcases hi : ins .meter with _ | i
  · simp [meterStep, Insts.records, hi]
  · cases centec <;> simp [meterStep, Insts.records, hi, rd32,
      getBE_recordAt (show 4 + 4 ≤ getBE i 2 2 from h.size_le hi)]

theorem applyActionsStep_records (hco : co.SubReadsRecord) (h : ins.Typed centec) :
    applyActionsStep co centec (Insts.records ins) = applyActionsStep co centec ins := by
  funext out
  rcases hi : ins .applyActions with _ | i
  · simp [applyActionsStep, Insts.records, hi]
  · simp only [applyActionsStep, Insts.records, hi, Option.map_some',
      ofpactsFromOpenflow11_actions_recordAt hco centec (h.size_le hi)]

theorem clearActionsStep_records : clearActionsStep (Insts.records ins) = clearActionsStep ins := by
  funext out
  simp only [clearActionsStep, Insts.records_isSome]

theorem writeActionsStep_records (hco : co.SubReadsRecord) (h : ins.Typed centec) :
    writeActionsStep co centec (Insts.records ins) = writeActionsStep co centec ins := by
  funext out
  rcases hi : ins .writeActions with _ | i
  · cases centec <;> simp [writeActionsStep, Insts.records, hi]
  · cases centec <;> simp only [writeActionsStep, Insts.records, hi, Option.map_some',
      Option.isSome_map', ofpactsFromOpenflow11_actions_recordAt hco _ (h.size_le hi)]

theorem writeMetadataStep_records (h : ins.Typed centec) :
    writeMetadataStep centec (Insts.records ins) = writeMetadataStep centec ins := by
  funext out
  rcases hi : ins .writeMetadata with _ | i
  · simp [writeMetadataStep, Insts.records, hi]
  · have h24 : 24 ≤ getBE i 2 2 := h.size_le hi
    simp [writeMetadataStep, Insts.records, hi, rd64, getBE_recordAt (by omega : 8 + 8 ≤ getBE i 2 2),
      getBE_recordAt (by omega : 16 + 8 ≤ getBE i 2 2)]

theorem gotoTableStep_records (h : ins.Typed centec) :
    gotoTableStep centec (Insts.records ins) = gotoTableStep centec ins := by
  funext out
  rcases hi : ins .gotoTable with _ | i
  · simp [gotoTableStep, Insts.records, hi]
  · simp [gotoTableStep, Insts.records, hi, rd8,
      getBE_recordAt (show 4 + 1 ≤ getBE i 2 2 from Nat.le_trans (by decide) (h.size_le hi))]

theorem writeActionsUnsupStep_records :
    writeActionsUnsupStep centec (Insts.records ins) = writeActionsUnsupStep centec ins := by
  funext out
  simp only [writeActionsUnsupStep, Insts.records_isSome]

/-- The records synthesised from a typed array are those synthesised from the
instructions it points at. -/
theorem ofpactsFromInstructions_records (hco : co.SubReadsRecord) (h : ins.Typed centec) :
    ofpactsFromInstructions co centec (Insts.records ins) = ofpactsFromInstructions co centec ins := by
  simp only [ofpactsFromInstructions, meterStep_records h, applyActionsStep_records hco h,
    clearActionsStep_records, writeActionsStep_records hco h, writeMetadataStep_records h,
    gotoTableStep_records h, writeActionsUnsupStep_records]

end Steps

/-! ## Length safety of every walk -/

/-- Length-safe decoding (spec §4.A) for every walk the three pull functions
make over `n` units at `a`: the action walks of either dialect, the
instruction walk, and, when `a` is an instruction, the walk over its action
list, which lies inside it; and the records synthesised from the array the
instruction walk collects (the meter's id, the write-metadata value and mask,
the goto-table id and the embedded action lists) read only inside the
instructions the array points at. -/
def WalksLengthSafe (co : Collab) (centec : Bool) (a : List UInt8) (n : Nat) : Prop :=
  WalkSafe (ofpactFromOpenflow10 co centec) a n ∧ WalkSafe (ofpactFromOpenflow11 co centec) a n ∧
    InstructionWalkSafe centec a n ∧
    (8 ≤ getBE a 2 2 → getBE a 2 2 ≤ a.length →
      8 + 8 * (getActionsFromInstruction a).2 ≤ getBE a 2 2 ∧
        WalkSafe (ofpactFromOpenflow11 co centec) (getActionsFromInstruction a).1
          (getActionsFromInstruction a).2) ∧
    (∀ ins, decodeOpenflow11Instructions centec n a n (fun _ => none) = .ok ins →
      ofpactsFromInstructions co centec (Insts.records ins) = ofpactsFromInstructions co centec ins)

theorem walks_length_safe {co : Collab} (hco : co.SubReadsRecord) (centec : Bool)
    (a : List UInt8) (n : Nat) (hn : 8 * n ≤ a.length) : WalksLengthSafe co centec a n := by
  refine ⟨walkSafe (ofpactFromOpenflow10_reads hco centec) hn,
    walkSafe (ofpactFromOpenflow11_reads hco centec) hn, instructionWalkSafe centec hn,
    fun h8 hlen => ⟨?_, walkSafe (ofpactFromOpenflow11_reads hco centec) ?_⟩, fun ins hd => ?_⟩
  · simp only [getActionsFromInstruction, List.length_drop]; omega
  · simp only [getActionsFromInstruction, List.length_drop]; omega
  · rw [decodeOpenflow11Instructions_eq] at hd
    exact ofpactsFromInstructions_records hco (collectInsts_typed hd (Insts.typed_empty centec))

/-- An apply-actions instruction holding one 1.0-style output action. -/
theorem walks_length_safe_apply_output :
    Collab.rejectAll.SubReadsRecord ∧
      8 * 2 ≤ ([0, 4, 0, 16, 0, 0, 0, 0, 0, 0, 0, 8, 0, 1, 0xff, 0xff] : List UInt8).length ∧
      WalksLengthSafe Collab.rejectAll true [0, 4, 0, 16, 0, 0, 0, 0, 0, 0, 0, 8, 0, 1, 0xff, 0xff] 2 :=
  ⟨Collab.rejectAll_subReadsRecord, by decide,
    walks_length_safe Collab.rejectAll_subReadsRecord true _ 2 (by decide)⟩


/-! ## The pull on a list of records -/

theorem ofpactsPullOpenflow11InstructionsEnd_records {co : Collab} (hco : co.SubReadsRecord)
    (centec : Bool) (rest : List UInt8) {r : Except Ofperr Insts}
    (hr : ∀ ins, r = .ok ins → ins.Typed centec) :
    ofpactsPullOpenflow11InstructionsEnd co centec rest (r.map Insts.records) =
      ofpactsPullOpenflow11InstructionsEnd co centec rest r := by
  rcases r with e | ins
  · rfl
  · simp only [Except.map, ofpactsPullOpenflow11InstructionsEnd,
      ofpactsFromInstructions_records hco (hr ins rfl)]

/-- On a list of wire records, the instruction pull is decided by the array
the records themselves collect, whatever follows them. -/
theorem ofpactsPullOpenflow11Instructions_flatten {co : Collab} (hco : co.SubReadsRecord)
    (centec : Bool) {rs : List (List UInt8)} (hrs : ∀ r ∈ rs, IsWireRecord r) (rest : List UInt8)
    (prior : Ofpbuf) :
    ofpactsPullOpenflow11Instructions co centec (rs.flatten ++ rest) rs.flatten.length prior =
      ofpactsPullOpenflow11InstructionsEnd co centec rest (collectInsts centec rs 0 fun _ => none) := by
  obtain ⟨hps, hrem⟩ := forEachPointers_flatten hrs rest (Nat.le_refl (rs.flatten.length / 8))
  have hcol : collectInsts centec rs 0 (fun _ => none) =
      (collectInsts centec (forEachPointers (rs.flatten.length / 8) (rs.flatten ++ rest)
        (rs.flatten.length / 8)).1 0 fun _ => none).map Insts.records := by
    rw [← collectInsts_recordAt centec (fun p hp => (forEachPointers_valid hp).2), hps]
    rfl
  simp only [ofpactsPullOpenflow11Instructions, ofpbufTryPull, OFP_ACTION_ALIGN,
    flatten_length_mod hrs, ne_eq, not_true_eq_false, if_false, List.length_append,
    Nat.le_add_right, if_true, List.drop_left, decodeOpenflow11Instructions_eq, hrem]
  rw [hcol, ofpactsPullOpenflow11InstructionsEnd_records hco centec rest
    fun _ h => collectInsts_typed h (Insts.typed_empty centec)]

/-- Two walk outcomes that agree but for their error codes make pulls that
agree but for their error codes. -/
theorem ofpactsPullOpenflow11InstructionsEnd_congr (co : Collab) (centec : Bool)
    (rest : List UInt8) {r r' : Except Ofperr Insts} (h : r.toOption = r'.toOption) :
    ((ofpactsPullOpenflow11InstructionsEnd co centec rest r).error = none ↔
        (ofpactsPullOpenflow11InstructionsEnd co centec rest r').error = none) ∧
      ((ofpactsPullOpenflow11InstructionsEnd co centec rest r).error = none →
        ofpactsPullOpenflow11InstructionsEnd co centec rest r =
          ofpactsPullOpenflow11InstructionsEnd co centec rest r') := by
  rcases r with e | ins <;> rcases r' with e' | ins'
  · simp [ofpactsPullOpenflow11InstructionsEnd]
  · cases h
  · cases h
  · obtain rfl : ins = ins' := Option.some.inj h
    exact ⟨Iff.rfl, fun _ => rfl⟩

/-- Permuting the records of an instruction list changes neither whether
`ofpacts_pull_openflow11_instructions` succeeds nor, when it does, the
ofpacts and the message it leaves. -/
theorem instructions_order_independent {co : Collab} (hco : co.SubReadsRecord) (centec : Bool)
    {rs rs' : List (List UInt8)} (hp : rs.Perm rs') (hrs : ∀ r ∈ rs, IsWireRecord r)
    (rest : List UInt8) (prior prior' : Ofpbuf) :
    ((ofpactsPullOpenflow11Instructions co centec (rs.flatten ++ rest) rs.flatten.length
          prior).error = none ↔
        (ofpactsPullOpenflow11Instructions co centec (rs'.flatten ++ rest) rs'.flatten.length
          prior').error = none) ∧
      ((ofpactsPullOpenflow11Instructions co centec (rs.flatten ++ rest) rs.flatten.length
          prior).error = none →
        ofpactsPullOpenflow11Instructions co centec (rs.flatten ++ rest) rs.flatten.length prior =
          ofpactsPullOpenflow11Instructions co centec (rs'.flatten ++ rest) rs'.flatten.length
            prior') := by
  have hrs' : ∀ r ∈ rs', IsWireRecord r := fun r hr => hrs r (hp.mem_iff.mpr hr)
  rw [ofpactsPullOpenflow11Instructions_flatten hco centec hrs,
    ofpactsPullOpenflow11Instructions_flatten hco centec hrs']
  exact ofpactsPullOpenflow11InstructionsEnd_congr co centec rest (collectInsts_perm centec hp 0 _)

/-- Clear-actions before goto-table, and the other way round. -/
theorem instructions_order_independent_clear_goto :
    Collab.rejectAll.SubReadsRecord ∧
      List.Perm [[0, 5, 0, 8, 0, 0, 0, 0], [0, 1, 0, 8, 3, 0, 0, 0]]
        [[0, 1, 0, 8, 3, 0, 0, 0], [0, 5, 0, 8, 0, 0, 0, 0]] ∧
      (∀ r ∈ [[0, 5, 0, 8, 0, 0, 0, 0], [0, 1, 0, 8, 3, 0, 0, 0]], IsWireRecord r) ∧
      (((ofpactsPullOpenflow11Instructions Collab.rejectAll false
            ([0, 5, 0, 8, 0, 0, 0, 0] ++ [0, 1, 0, 8, 3, 0, 0, 0]) 16 []).error = none ↔
          (ofpactsPullOpenflow11Instructions Collab.rejectAll false
            ([0, 1, 0, 8, 3, 0, 0, 0] ++ [0, 5, 0, 8, 0, 0, 0, 0]) 16 []).error = none) ∧
        ((ofpactsPullOpenflow11Instructions Collab.rejectAll false
            ([0, 5, 0, 8, 0, 0, 0, 0] ++ [0, 1, 0, 8, 3, 0, 0, 0]) 16 []).error = none →
          ofpactsPullOpenflow11Instructions Collab.rejectAll false
              ([0, 5, 0, 8, 0, 0, 0, 0] ++ [0, 1, 0, 8, 3, 0, 0, 0]) 16 [] =
            ofpactsPullOpenflow11Instructions Collab.rejectAll false
              ([0, 1, 0, 8, 3, 0, 0, 0] ++ [0, 5, 0, 8, 0, 0, 0, 0]) 16 [])) :=
  ⟨Collab.rejectAll_subReadsRecord, List.Perm.swap _ _ _, by decide,
    instructions_order_independent Collab.rejectAll_subReadsRecord false
      (List.Perm.swap [0, 1, 0, 8, 3, 0, 0, 0] [0, 5, 0, 8, 0, 0, 0, 0] []) (by decide) [] [] []⟩

end OfpActions
