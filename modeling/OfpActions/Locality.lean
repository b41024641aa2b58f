import OfpActions.Walk

/-!
# Locality — every decoder reads only its record

Spec §4.C and §4.D check a record's length against its table row before they
read its fields, so every field read lies inside the `len` bytes the header
counts: `vendor` and `subtype` only once `len ≥ 16`, the ids of
`dec_ttl_cnt_ids` only once `2 * n_controllers ≤ len - 16`, the payload of a
note as the `len - 10` bytes after its header.

This module proves it for each dialect's per-record decoder
(`ReadsRecord`), first for the classifiers, whose guards the later modules
reuse through the inversion lemmas `*_ok`, then per action kind. The
sub-codecs are out of scope (spec §1); `Collab.SubReadsRecord` is the same
property assumed of them.
-/

namespace OfpActions

/-- The sub-codecs, like the core decoders, read only the record handed to
them. -/
def Collab.SubReadsRecord (co : Collab) : Prop := ∀ code, ReadsRecord (co.subFromOpenflow code)

theorem getBE_recordAt {a : List UInt8} {off w : Nat} (h : off + w ≤ getBE a 2 2) :
    getBE (recordAt a) off w = getBE a off w := getBE_take h

theorem rdBytes_recordAt {a : List UInt8} {off n : Nat} (h : off + n ≤ getBE a 2 2) :
    rdBytes (recordAt a) off n = rdBytes a off n := rdBytes_take h

/-- The record's own `len` field lies inside it. -/
@[simp] theorem getBE_recordAt_len {a : List UInt8} (h : 4 ≤ getBE a 2 2) :
    getBE (recordAt a) 2 2 = getBE a 2 2 := getBE_recordAt h

/-! ## The classifiers -/

theorem decodeNxastAction_ok {centec : Bool} {a : List UInt8} {c : Nxast}
    (h : decodeNxastAction centec a = .ok c) :
    getBE a 4 4 = NX_VENDOR_ID ∧ c.inBuild centec ∧ getBE a 8 2 = c.subtype ∧
      (if c.extensible then c.size ≤ getBE a 2 2 else getBE a 2 2 = c.size) := by
  unfold decodeNxastAction at h
  by_cases h16 : getBE a 2 2 < 16
  · simp [h16] at h
  by_cases hv : getBE a 4 4 = NX_VENDOR_ID
  · rcases hc : Nxast.ofSubtype? centec (getBE a 8 2) with _ | c'
    · simp [h16, hv, hc] at h
    · by_cases hs : (if c'.extensible then c'.size ≤ getBE a 2 2 else getBE a 2 2 = c'.size)
      · simp only [h16, hv, hc, hs, if_true, if_false, ne_eq, not_true_eq_false,
          Except.ok.injEq] at h
        subst h
        exact ⟨hv, (Nxast.ofSubtype?_eq hc).1, (Nxast.ofSubtype?_eq hc).2.symm, hs⟩
      · simp only [h16, hv, hc, hs, if_false, ne_eq, not_true_eq_false] at h
        cases h
  · simp [h16, hv] at h

theorem Nxast.size_ge (c : Nxast) : 16 ≤ c.size := by cases c <;> decide

/-- A Nicira action that classifies is at least the 16-byte Nicira header, and
at least its struct. -/
theorem decodeNxastAction_size {centec : Bool} {a : List UInt8} {c : Nxast}
    (h : decodeNxastAction centec a = .ok c) : c.size ≤ getBE a 2 2 := by
  have := (decodeNxastAction_ok h).2.2.2
  split at this <;> omega

theorem decodeNxastAction_recordAt (centec : Bool) {a : List UInt8} (h8 : 8 ≤ getBE a 2 2) :
    decodeNxastAction centec (recordAt a) = decodeNxastAction centec a := by
  by_cases h16 : getBE a 2 2 < 16
  · simp [decodeNxastAction, h16, getBE_recordAt_len (by omega : 4 ≤ getBE a 2 2)]
  · simp only [decodeNxastAction, getBE_recordAt_len (by omega : 4 ≤ getBE a 2 2),
      getBE_recordAt (by omega : 4 + 4 ≤ getBE a 2 2), getBE_recordAt (by omega : 8 + 2 ≤ getBE a 2 2)]

theorem decodeOpenflow10Action_ok {centec : Bool} {a : List UInt8} {code : OfputilActionCode}
    (h : decodeOpenflow10Action centec a = .ok code) :
    (∃ c, code = .ofpat10 c ∧ getBE a 0 2 = c.type ∧ getBE a 2 2 = c.size) ∨
      (∃ c, code = .nxast c ∧ getBE a 0 2 = OFPAT10_VENDOR ∧ decodeNxastAction centec a = .ok c) := by
  unfold decodeOpenflow10Action at h
  split at h
  · rcases hn : decodeNxastAction centec a with e | c <;> simp [hn, Except.map] at h
    exact .inr ⟨c, h.symm, ‹_›, rfl⟩
  · split at h
    · rename_i c hc
      split at h
      · cases h
        exact .inl ⟨c, rfl, (Ofpat10.ofType?_eq hc).symm, ‹_›⟩
      · cases h
    · cases h

theorem decodeOpenflow11Action_ok {centec : Bool} {a : List UInt8} {code : OfputilActionCode}
    (h : decodeOpenflow11Action centec a = .ok code) :
    (∃ c, code = .ofpat11 c ∧ c.inBuild centec ∧ getBE a 0 2 = c.type ∧
        (if c.extensible then c.size ≤ getBE a 2 2 else getBE a 2 2 = c.size)) ∨
      (∃ c, code = .nxast c ∧ getBE a 0 2 = OFPAT10_VENDOR ∧ decodeNxastAction centec a = .ok c) := by
  unfold decodeOpenflow11Action at h
  by_cases hx : getBE a 0 2 = OFPAT10_VENDOR
  · rcases hn : decodeNxastAction centec a with e | c <;> simp [hx, hn, Except.map] at h
    exact .inr ⟨c, h.symm, hx, rfl⟩
  · rcases hc : Ofpat11.ofType? centec (getBE a 0 2) with _ | c
    · simp [hx, hc] at h
    · by_cases hs : (if c.extensible then c.size ≤ getBE a 2 2 else getBE a 2 2 = c.size)
      · simp only [hx, hc, hs, if_true, if_false, Except.ok.injEq] at h
        exact .inl ⟨c, h.symm, (Ofpat11.ofType?_eq hc).1, (Ofpat11.ofType?_eq hc).2.symm, hs⟩
      · simp only [hx, hc, hs, if_false] at h
        cases h

theorem decodeOpenflow10Action_recordAt (centec : Bool) {a : List UInt8} (h8 : 8 ≤ getBE a 2 2) :
    decodeOpenflow10Action centec (recordAt a) = decodeOpenflow10Action centec a := by
  simp only [decodeOpenflow10Action, decodeNxastAction_recordAt centec h8,
    getBE_recordAt (by omega : 0 + 2 ≤ getBE a 2 2), getBE_recordAt_len (by omega : 4 ≤ getBE a 2 2)]

theorem decodeOpenflow11Action_recordAt (centec : Bool) {a : List UInt8} (h8 : 8 ≤ getBE a 2 2) :
    decodeOpenflow11Action centec (recordAt a) = decodeOpenflow11Action centec a := by
  simp only [decodeOpenflow11Action, decodeNxastAction_recordAt centec h8,
    getBE_recordAt (by omega : 0 + 2 ≤ getBE a 2 2), getBE_recordAt_len (by omega : 4 ≤ getBE a 2 2)]

theorem decodeOpenflow11Instruction_ok {centec : Bool} {a : List UInt8} {t : OvsInstructionType}
    (h : decodeOpenflow11Instruction centec a = .ok t) :
    t.inBuild centec ∧ getBE a 0 2 = t.type ∧
      (if t.extensible then t.size ≤ getBE a 2 2 else getBE a 2 2 = t.size) := by
  unfold decodeOpenflow11Instruction at h
  by_cases hx : getBE a 0 2 = OFPAT10_VENDOR
  · simp [hx] at h
  · rcases ht : OvsInstructionType.ofType? centec (getBE a 0 2) with _ | t'
    · simp [hx, ht] at h
    · by_cases hs : (if t'.extensible then t'.size ≤ getBE a 2 2 else getBE a 2 2 = t'.size)
      · simp only [hx, ht, hs, if_true, if_false, Except.ok.injEq] at h
        subst h
        exact ⟨(OvsInstructionType.ofType?_eq ht).1, (OvsInstructionType.ofType?_eq ht).2.symm, hs⟩
      · simp only [hx, ht, hs, if_false] at h
        cases h

theorem decodeOpenflow11Instruction_reads (centec : Bool) :
    ReadsRecord (decodeOpenflow11Instruction centec) := fun a h8 => by
  simp only [decodeOpenflow11Instruction, getBE_recordAt (by omega : 0 + 2 ≤ getBE a 2 2),
    getBE_recordAt_len (by omega : 4 ≤ getBE a 2 2)]

/-! ## Per kind -/

theorem rdEthAddr_recordAt {a : List UInt8} {off : Nat} (h : off + 6 ≤ getBE a 2 2) :
    rdEthAddr (recordAt a) off = rdEthAddr a off := by
  unfold rdEthAddr
  congr 1
  exact rdBytes_recordAt h

/-- The ids of `dec_ttl_cnt_ids` are read only once `2 * n_controllers` bytes
are known to follow the 16-byte header inside the record. -/
theorem decTtlCntIdsFromOpenflow_recordAt {a : List UInt8} (h16 : 16 ≤ getBE a 2 2) :
    decTtlCntIdsFromOpenflow (recordAt a) = decTtlCntIdsFromOpenflow a := by
  unfold decTtlCntIdsFromOpenflow
  simp only [getBE_recordAt_len (by omega : 4 ≤ getBE a 2 2),
    getBE_recordAt (by omega : 10 + 2 ≤ getBE a 2 2), getBE_recordAt (by omega : 12 + 4 ≤ getBE a 2 2)]
  split
  · rfl
  split
  · rfl
  rename_i hn
  simp only [putOne, List.cons.injEq, Prod.mk.injEq, Ofpact.mk.injEq, OfpactBody.decTtl.injEq,
    and_true]
  refine List.map_congr_left fun i hi => ?_
  simp only [List.mem_range] at hi
  simp only [rd16, getBE_recordAt (by omega : 16 + 2 * i + 2 ≤ getBE a 2 2)]

theorem ofpactFromNxast_recordAt {co : Collab} (hco : co.SubReadsRecord) {a : List UInt8} (c : Nxast)
    (hc : c.size ≤ getBE a 2 2) : ofpactFromNxast co (recordAt a) c = ofpactFromNxast co a c := by
  have h16 := Nat.le_trans (Nxast.size_ge c) hc
  have hsub : ∀ code, co.subFromOpenflow code (recordAt a) = co.subFromOpenflow code a :=
    fun code => hco code a (by omega)
  cases c
  case decTtlCntIds =>
    simp only [ofpactFromNxast]
    exact decTtlCntIdsFromOpenflow_recordAt h16
  all_goals
    simp only [Nxast.size] at hc
    simp (disch := omega) only [ofpactFromNxast, resubmitFromOpenflow, resubmitTableFromOpenflow,
      metadataFromNxast, noteFromOpenflow, outputRegFromOpenflow, subFromOpenflow,
      multipathFromOpenflow, rd8, rd16, rd32, rd64, getBE_recordAt, rdBytes_recordAt, hsub]

theorem ofpactFromOpenflow10_reads {co : Collab} (hco : co.SubReadsRecord) (centec : Bool) :
    ReadsRecord (ofpactFromOpenflow10 co centec) := by
  intro a h8
  unfold ofpactFromOpenflow10
  rw [decodeOpenflow10Action_recordAt centec h8]
  rcases hd : decodeOpenflow10Action centec a with e | code
  · rfl
  rcases decodeOpenflow10Action_ok hd with ⟨c, rfl, -, hc⟩ | ⟨c, rfl, -, hn⟩
  · cases c <;> simp only [Ofpat10.size] at hc <;>
      simp (disch := omega) only [outputFromOpenflow10, setVlanVidFromOpenflow,
        setVlanPcpFromOpenflow, setNwTosFromOpenflow, enqueueFromOpenflow10, rd8, rd16, rd32,
        getBE_recordAt, rdEthAddr_recordAt]
  · exact ofpactFromNxast_recordAt hco c (decodeNxastAction_size hn)

theorem ofpactFromOpenflow11_reads {co : Collab} (hco : co.SubReadsRecord) (centec : Bool) :
    ReadsRecord (ofpactFromOpenflow11 co centec) := by
  intro a h8
  have hsub : ∀ code, co.subFromOpenflow code (recordAt a) = co.subFromOpenflow code a :=
    fun code => hco code a h8
  unfold ofpactFromOpenflow11
  rw [decodeOpenflow11Action_recordAt centec h8]
  rcases hd : decodeOpenflow11Action centec a with e | code
  · rfl
  rcases decodeOpenflow11Action_ok hd with ⟨c, rfl, -, -, hc⟩ | ⟨c, rfl, -, hn⟩
  · cases c <;> simp only [Ofpat11.size, Ofpat11.extensible, Bool.false_eq_true, if_false,
      if_true] at hc <;>
      simp (disch := omega) only [outputFromOpenflow11, setVlanVidFromOpenflow,
        setVlanPcpFromOpenflow, setNwTosFromOpenflow, pushVlanFromOpenflow11, subFromOpenflow,
        rd8, rd16, rd32, getBE_recordAt, rdEthAddr_recordAt, hsub]
  · exact ofpactFromNxast_recordAt hco c (decodeNxastAction_size hn)

/-! ## The instruction walk -/

/-- The framer keeps pointers, but looks only at the records behind them. -/
theorem collectInsts_recordAt (centec : Bool) {ps : List (List UInt8)}
    (hv : ∀ p ∈ ps, 8 ≤ getBE p 2 2) (left : Nat) (out : Insts) :
    collectInsts centec (ps.map recordAt) left (Insts.records out) =
      (collectInsts centec ps left out).map Insts.records := by
  induction ps generalizing out with
  | nil =>
    simp only [List.map_nil, collectInsts, decodeOpenflow11InstructionsEnd]
    split <;> rfl
  | cons p ps ih =>
    have hp := decodeOpenflow11Instruction_reads centec p (hv p (List.mem_cons_self _ _))
    simp only [List.map_cons, collectInsts, hp]
    rcases decodeOpenflow11Instruction centec p with e | t
    · rfl
    · by_cases ho : (out t).isSome
      · simp [Insts.records, ho, Except.map]
      · have hn : (Insts.records out t).isSome = false := by simpa [Insts.records] using ho
        simp only [hn, ho, Bool.false_eq_true, if_false]
        rw [← Insts.records_update, ih (fun q hq => hv q (List.mem_cons_of_mem _ hq))]

/-- `decode_openflow11_instructions` reads only the `8 * left` bytes it walks:
cut there, it fails the same way or points at the same records. -/
theorem decodeOpenflow11Instructions_take (centec : Bool) (fuel : Nat) (a : List UInt8)
    (left : Nat) (out : Insts) :
    (decodeOpenflow11Instructions centec fuel (a.take (8 * left)) left out).map Insts.records =
      (decodeOpenflow11Instructions centec fuel a left out).map Insts.records := by
  obtain ⟨h1, h2⟩ := forEachPointers_take fuel a left
  rw [decodeOpenflow11Instructions_eq, decodeOpenflow11Instructions_eq,
    ← collectInsts_recordAt, ← collectInsts_recordAt, h1, h2]
  all_goals exact fun p hp => (forEachPointers_valid hp).2

/-! ## Length safety -/

/-- Spec §4.A for the walk of `ofpacts_from_openflow` over `n` units at `a`,
decoding each record with `f`: `f` reads only its record; (a) fuel `n` is
enough; (b) only the first `8 * n` bytes are read; (c) a walk that returns
`0` visited wire records that all decode and tile the `8 * n` bytes, and a
walk whose records all decode but that stops with units left over returns
`BAD_LEN`. -/
def WalkSafe (f : List UInt8 → Decoded) (a : List UInt8) (n : Nat) : Prop :=
  ReadsRecord f ∧ ∀ out : Ofpbuf,
    (∀ fuel, n ≤ fuel → ofpactsFromOpenflow f fuel a n out = ofpactsFromOpenflow f n a n out) ∧
    ofpactsFromOpenflow f n (a.take (8 * n)) n out = ofpactsFromOpenflow f n a n out ∧
    ((ofpactsFromOpenflow f n a n out).2 = none →
      ∃ rs : List (List UInt8), (∀ r ∈ rs, IsWireRecord r ∧ (f r).2 = none) ∧
        rs.flatten = a.take (8 * n)) ∧
    ((forEachPointers n a n).2 ≠ 0 → (∀ p ∈ (forEachPointers n a n).1, (f p).2 = none) →
      (ofpactsFromOpenflow f n a n out).2 = some .ofpbacBadLen)

/-- The same for `decode_openflow11_instructions`, whose result points at
the records it found. -/
def InstructionWalkSafe (centec : Bool) (a : List UInt8) (n : Nat) : Prop :=
  ReadsRecord (decodeOpenflow11Instruction centec) ∧ ∀ out : Insts,
    (∀ fuel, n ≤ fuel →
      decodeOpenflow11Instructions centec fuel a n out = decodeOpenflow11Instructions centec n a n out) ∧
    (decodeOpenflow11Instructions centec n (a.take (8 * n)) n out).map Insts.records =
      (decodeOpenflow11Instructions centec n a n out).map Insts.records ∧
    (∀ ins, decodeOpenflow11Instructions centec n a n out = .ok ins →
      ∃ rs : List (List UInt8), (∀ r ∈ rs, IsWireRecord r) ∧ rs.flatten = a.take (8 * n)) ∧
    (∀ ins, (forEachPointers n a n).2 ≠ 0 → collectInsts centec (forEachPointers n a n).1 0 out = .ok ins →
      decodeOpenflow11Instructions centec n a n out = .error .ofpbicBadLen)

theorem walkSafe {f : List UInt8 → Decoded} (hf : ReadsRecord f) {a : List UInt8} {n : Nat}
    (hn : 8 * n ≤ a.length) : WalkSafe f a n := by
  obtain ⟨hw, ht⟩ := @forEachPointers_records n n a hn
  refine ⟨hf, fun out => ⟨fun fuel h => ofpactsFromOpenflow_fuel f a out h,
    ofpactsFromOpenflow_take hf n a n out, fun hok => ?_, fun hrem hall => ?_⟩⟩
  · rw [ofpactsFromOpenflow_eq] at hok
    obtain ⟨hall, hrem⟩ := decodeAt_eq_none hok
    refine ⟨(forEachPointers n a n).1.map recordAt, ?_, by rw [ht, hrem, Nat.sub_zero]⟩
    simp only [List.mem_map]
    rintro _ ⟨p, hp, rfl⟩
    exact ⟨hw p hp, by rw [hf p (forEachPointers_valid hp).2]; exact hall p hp⟩
  · rw [ofpactsFromOpenflow_eq, decodeAt_of_ok hall]
    simp [ofpactsFromOpenflowEnd, hrem]

theorem instructionWalkSafe (centec : Bool) {a : List UInt8} {n : Nat} (hn : 8 * n ≤ a.length) :
    InstructionWalkSafe centec a n := by
  obtain ⟨hw, ht⟩ := @forEachPointers_records n n a hn
  refine ⟨decodeOpenflow11Instruction_reads centec, fun out =>
    ⟨fun fuel h => decodeOpenflow11Instructions_fuel centec a out h,
      decodeOpenflow11Instructions_take centec n a n out, fun ins hok => ?_,
      fun ins hrem hok => ?_⟩⟩
  · rw [decodeOpenflow11Instructions_eq] at hok
    have hrem := collectInsts_eq_ok hok
    refine ⟨(forEachPointers n a n).1.map recordAt, ?_, by rw [ht, hrem, Nat.sub_zero]⟩
    simp only [List.mem_map]
    rintro _ ⟨p, hp, rfl⟩
    exact hw p hp
  · rw [decodeOpenflow11Instructions_eq, collectInsts_left hok]
    simp [decodeOpenflow11InstructionsEnd, hrem]

theorem Collab.rejectAll_subReadsRecord : Collab.rejectAll.SubReadsRecord := fun _ _ _ => rfl

end OfpActions
