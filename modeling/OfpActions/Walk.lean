import OfpActions.Pull

/-!
# Walk — the record walks are length-safe

Spec §4.A: `ACTION_FOR_EACH` and `INSTRUCTION_FOR_EACH` step a pointer over a
buffer of `n` 8-byte units, and stop at the first record whose `len` is not
aligned, is shorter than one unit, or runs past the units `left`.

The walks are taken apart here into their framing, `forEachPointers` (the
pointers visited and `left` when the loop stops), and what the loop body does
at each pointer (`decodeAt`, `collectInsts`). From that decomposition:

* the fuel `n` that every call site passes is enough: more changes nothing;
* the records visited tile a prefix of the `8 * n` bytes, and a walk that
  stops with units left over fails with `BAD_LEN`;
* a walk reads only its `8 * n` bytes, and, given decoders that read only the
  record at their pointer (`ReadsRecord`, proved per decoder in `Locality`),
  its result depends only on those bytes.
-/

namespace OfpActions

/-! ## Framing -/

/-- The pointers `ACTION_FOR_EACH` visits, and `left` when it stops.
`INSTRUCTION_FOR_EACH` is the same loop. -/
def forEachPointers : Nat → List UInt8 → Nat → List (List UInt8) × Nat
  | 0, _, left => ([], left)
  | fuel + 1, a, left =>
    if 0 < left && actionIsValid a left then
      let next := forEachPointers fuel (a.drop (getBE a 2 2)) (left - getBE a 2 2 / 8)
      (a :: next.1, next.2)
    else ([], left)

/-- The record at a pointer: the `len` bytes its header counts. -/
def recordAt (p : List UInt8) : List UInt8 := p.take (getBE p 2 2)

/-- A wire record as the walks accept it: its `len` is its size, a multiple of
`OFP_ACTION_ALIGN`, and at least one unit. -/
def IsWireRecord (r : List UInt8) : Prop :=
  getBE r 2 2 = r.length ∧ r.length % OFP_ACTION_ALIGN = 0 ∧ OFP_ACTION_ALIGN ≤ r.length

instance : DecidablePred IsWireRecord := fun _ => inferInstanceAs (Decidable (_ ∧ _ ∧ _))

/-- A decoder that reads only the record at its pointer: every field it reads
lies inside the `len` bytes the record's header counts. -/
def ReadsRecord {α : Type} (f : List UInt8 → α) : Prop :=
  ∀ a, 8 ≤ getBE a 2 2 → f (recordAt a) = f a

/-! ## The loop bodies -/

/-- The body of the loop of `ofpacts_from_openflow` over the pointers visited,
then what follows the loop, with the units left. -/
def decodeAt (f : List UInt8 → Decoded) :
    List (List UInt8) → Nat → Ofpbuf → Ofpbuf × Option Ofperr
  | [], left, out => ofpactsFromOpenflowEnd left out
  | p :: ps, left, out =>
    match f p with
    | (recs, some e) => (ofpactPutAll out recs, some e)
    | (recs, none) => decodeAt f ps left (ofpactPutAll out recs)

/-- The body of the loop of `decode_openflow11_instructions`, then what
follows it. -/
def collectInsts (centec : Bool) : List (List UInt8) → Nat → Insts → Except Ofperr Insts
  | [], left, out => decodeOpenflow11InstructionsEnd left out
  | p :: ps, left, out =>
    match decodeOpenflow11Instruction centec p with
    | .error e => .error e
    | .ok type =>
      if (out type).isSome then .error .ofpbacUnsupportedOrder
      else collectInsts centec ps left (Function.update out type (some p))

@[simp] theorem actionIsValid_iff {a : List UInt8} {left : Nat} :
    actionIsValid a left = true ↔
      getBE a 2 2 % 8 = 0 ∧ 8 ≤ getBE a 2 2 ∧ getBE a 2 2 / 8 ≤ left := by
  simp [actionIsValid, OFP_ACTION_ALIGN, and_assoc]

theorem ofpactsFromOpenflow_eq (f : List UInt8 → Decoded) (fuel : Nat) (a : List UInt8)
    (left : Nat) (out : Ofpbuf) :
    ofpactsFromOpenflow f fuel a left out =
      decodeAt f (forEachPointers fuel a left).1 (forEachPointers fuel a left).2 out := by
  induction fuel generalizing a left out with
  | zero => rfl
  | succ fuel ih =>
    simp only [ofpactsFromOpenflow, forEachPointers]
    by_cases hv : (0 < left && actionIsValid a left) = true
    · rcases h : f a with ⟨recs, _ | e⟩ <;> simp [hv, h, decodeAt, ih]
    · simp [hv, decodeAt]

theorem decodeOpenflow11Instructions_eq (centec : Bool) (fuel : Nat) (a : List UInt8)
    (left : Nat) (out : Insts) :
    decodeOpenflow11Instructions centec fuel a left out =
      collectInsts centec (forEachPointers fuel a left).1 (forEachPointers fuel a left).2 out := by
  induction fuel generalizing a left out with
  | zero => rfl
  | succ fuel ih =>
    simp only [decodeOpenflow11Instructions, forEachPointers]
    by_cases hv : (0 < left && actionIsValid a left) = true
    · rcases h : decodeOpenflow11Instruction centec a with e | t <;> simp [hv, h, collectInsts, ih]
    · simp [hv, collectInsts]

/-! ## What the framing visits -/

@[simp] theorem forEachPointers_zero_left (fuel : Nat) (a : List UInt8) :
    forEachPointers fuel a 0 = ([], 0) := by
  cases fuel <;> simp [forEachPointers]

/-- Each step consumes at least one unit, so fuel `left` is as good as any
more. -/
theorem forEachPointers_fuel (fuel fuel' : Nat) (a : List UInt8) (left : Nat)
    (h : left ≤ fuel) (h' : left ≤ fuel') :
    forEachPointers fuel a left = forEachPointers fuel' a left := by
  induction fuel generalizing fuel' a left with
  | zero => obtain rfl : left = 0 := by omega
            simp
  | succ fuel ih =>
    cases fuel' with
    | zero => obtain rfl : left = 0 := by omega
              simp
    | succ fuel' =>
      simp only [forEachPointers]
      split
      · rename_i hv
        simp only [Bool.and_eq_true, decide_eq_true_eq, actionIsValid_iff] at hv
        rw [ih fuel' _ _ (by omega) (by omega)]
      · rfl

theorem forEachPointers_left_le (fuel : Nat) (a : List UInt8) (left : Nat) :
    (forEachPointers fuel a left).2 ≤ left := by
  induction fuel generalizing a left with
  | zero => simp [forEachPointers]
  | succ fuel ih =>
    simp only [forEachPointers]
    split
    · exact Nat.le_trans (ih _ _) (Nat.sub_le _ _)
    · exact Nat.le_refl _

/-- Every pointer visited holds a record that passed `action_is_valid`. -/
theorem forEachPointers_valid {fuel left : Nat} {a p : List UInt8}
    (hp : p ∈ (forEachPointers fuel a left).1) : getBE p 2 2 % 8 = 0 ∧ 8 ≤ getBE p 2 2 := by
  induction fuel generalizing a left with
  | zero => simp [forEachPointers] at hp
  | succ fuel ih =>
    simp only [forEachPointers] at hp
    split at hp
    · rename_i hv
      simp only [Bool.and_eq_true, decide_eq_true_eq, actionIsValid_iff] at hv
      rcases List.mem_cons.mp hp with rfl | hp
      · exact ⟨hv.2.1, hv.2.2.1⟩
      · exact ih hp
    · simp at hp

theorem isWireRecord_recordAt {p : List UInt8} (hm : getBE p 2 2 % 8 = 0) (h8 : 8 ≤ getBE p 2 2)
    (hl : getBE p 2 2 ≤ p.length) : IsWireRecord (recordAt p) := by
  have hlen : (recordAt p).length = getBE p 2 2 := by simp [recordAt]; omega
  have hhd : getBE (recordAt p) 2 2 = getBE p 2 2 := getBE_take (by omega)
  unfold IsWireRecord OFP_ACTION_ALIGN
  omega

/-- Inside a buffer that holds its `8 * left` bytes, the records visited are
wire records and tile its first `8 * (left - units left over)` bytes. -/
theorem forEachPointers_records {fuel left : Nat} {a : List UInt8} (h : 8 * left ≤ a.length) :
    (∀ p ∈ (forEachPointers fuel a left).1, IsWireRecord (recordAt p)) ∧
      ((forEachPointers fuel a left).1.map recordAt).flatten =
        a.take (8 * (left - (forEachPointers fuel a left).2)) := by
  induction fuel generalizing a left with
  | zero => simp [forEachPointers]
  | succ fuel ih =>
    simp only [forEachPointers]
    split
    · rename_i hv
      simp only [Bool.and_eq_true, decide_eq_true_eq, actionIsValid_iff] at hv
      obtain ⟨-, hm, h8, hle⟩ := hv
      have hrem := forEachPointers_left_le fuel (a.drop (getBE a 2 2)) (left - getBE a 2 2 / 8)
      obtain ⟨ihw, iht⟩ :=
        ih (show 8 * (left - getBE a 2 2 / 8) ≤ (a.drop (getBE a 2 2)).length by simp; omega)
      refine ⟨?_, ?_⟩
      · simp only [List.mem_cons, forall_eq_or_imp]
        exact ⟨isWireRecord_recordAt hm h8 (by omega), ihw⟩
      · rw [List.map_cons, List.flatten_cons, iht, recordAt, ← List.take_add]
        congr 1
        omega
    · simp

/-- A buffer made of wire records is walked record by record, and the walk
ends with no units left. -/
theorem forEachPointers_flatten {rs : List (List UInt8)} (hrs : ∀ r ∈ rs, IsWireRecord r)
    (rest : List UInt8) {fuel : Nat} (hfuel : rs.flatten.length / 8 ≤ fuel) :
    (forEachPointers fuel (rs.flatten ++ rest) (rs.flatten.length / 8)).1.map recordAt = rs ∧
      (forEachPointers fuel (rs.flatten ++ rest) (rs.flatten.length / 8)).2 = 0 := by
  induction rs generalizing fuel with
  | nil => simp
  | cons r rs ih =>
    obtain ⟨hlen, hm, h8⟩ := hrs r (List.mem_cons_self _ _)
    simp only [OFP_ACTION_ALIGN] at hm h8
    have hhd : getBE (r ++ (rs.flatten ++ rest)) 2 2 = r.length := by
      rw [getBE_append_left (by omega), hlen]
    obtain ⟨fuel, rfl⟩ : ∃ k, fuel = k + 1 := ⟨fuel - 1, by simp at hfuel; omega⟩
    simp only [List.flatten_cons, List.append_assoc, List.length_append] at hfuel ⊢
    have hv : (0 < (r.length + rs.flatten.length) / 8 &&
        actionIsValid (r ++ (rs.flatten ++ rest)) ((r.length + rs.flatten.length) / 8)) = true := by
      simp only [Bool.and_eq_true, decide_eq_true_eq, actionIsValid_iff, hhd]
      omega
    have hleft : (r.length + rs.flatten.length) / 8 - r.length / 8 = rs.flatten.length / 8 := by
      omega
    obtain ⟨ih1, ih2⟩ := ih (fun r' hr' => hrs r' (List.mem_cons_of_mem _ hr'))
      (show rs.flatten.length / 8 ≤ fuel by omega)
    simp only [forEachPointers, hv, if_true, hhd, List.drop_left, hleft, List.map_cons, ih1, ih2,
      recordAt, List.take_left, and_true]

/-- Wire records tile a whole number of units. -/
theorem flatten_length_mod {rs : List (List UInt8)} (hrs : ∀ r ∈ rs, IsWireRecord r) :
    rs.flatten.length % 8 = 0 := by
  induction rs with
  | nil => rfl
  | cons r rs ih =>
    have hm := (hrs r (List.mem_cons_self _ _)).2.1
    have := ih fun r' hr' => hrs r' (List.mem_cons_of_mem _ hr')
    simp only [OFP_ACTION_ALIGN] at hm
    simp only [List.flatten_cons, List.length_append]
    omega

/-! ## Reads stay inside the walked bytes -/

/-- The framing reads only the `8 * left` bytes it walks: cut the buffer
there and it visits the same records and stops with the same units left. -/
theorem forEachPointers_take (fuel : Nat) (a : List UInt8) (left : Nat) :
    (forEachPointers fuel (a.take (8 * left)) left).1.map recordAt =
        (forEachPointers fuel a left).1.map recordAt ∧
      (forEachPointers fuel (a.take (8 * left)) left).2 = (forEachPointers fuel a left).2 := by
  induction fuel generalizing a left with
  | zero => simp [forEachPointers]
  | succ fuel ih =>
    rcases Nat.eq_zero_or_pos left with rfl | hpos
    · simp
    have hhd : getBE (a.take (8 * left)) 2 2 = getBE a 2 2 := getBE_take (by omega)
    have hvalid : actionIsValid (a.take (8 * left)) left = actionIsValid a left := by
      simp only [actionIsValid, hhd]
    simp only [forEachPointers, hvalid, hhd]
    split
    · rename_i hv
      simp only [Bool.and_eq_true, decide_eq_true_eq, actionIsValid_iff] at hv
      have hdrop : (a.take (8 * left)).drop (getBE a 2 2) =
          (a.drop (getBE a 2 2)).take (8 * (left - getBE a 2 2 / 8)) := by
        rw [List.drop_take]
        congr 1
        omega
      obtain ⟨ih1, ih2⟩ := ih (a.drop (getBE a 2 2)) (left - getBE a 2 2 / 8)
      simp only [List.map_cons, hdrop, ih1, ih2, recordAt, hhd, List.take_take, and_true]
      congr 2
      omega
    · simp

/-- With a decoder that reads only its record, the loop body sees only the
records at the pointers. -/
theorem decodeAt_recordAt {f : List UInt8 → Decoded} (hf : ReadsRecord f) {ps : List (List UInt8)}
    (hv : ∀ p ∈ ps, 8 ≤ getBE p 2 2) (left : Nat) (out : Ofpbuf) :
    decodeAt f (ps.map recordAt) left out = decodeAt f ps left out := by
  induction ps generalizing out with
  | nil => rfl
  | cons p ps ih =>
    have hp := hf p (hv p (List.mem_cons_self _ _))
    have ih' := ih (fun q hq => hv q (List.mem_cons_of_mem _ hq))
    rcases h : f p with ⟨recs, _ | e⟩ <;> simp [decodeAt, hp, h, ih']

/-- `ofpacts_from_openflow` reads only the `8 * left` bytes it walks. -/
theorem ofpactsFromOpenflow_take {f : List UInt8 → Decoded} (hf : ReadsRecord f) (fuel : Nat)
    (a : List UInt8) (left : Nat) (out : Ofpbuf) :
    ofpactsFromOpenflow f fuel (a.take (8 * left)) left out = ofpactsFromOpenflow f fuel a left out := by
  obtain ⟨h1, h2⟩ := forEachPointers_take fuel a left
  rw [ofpactsFromOpenflow_eq, ofpactsFromOpenflow_eq, ← decodeAt_recordAt hf, h1, h2,
    decodeAt_recordAt hf]
  all_goals exact fun p hp => (forEachPointers_valid hp).2

/-! ## Fuel -/

/-- `ofpacts_from_openflow` runs out of units before it runs out of fuel. -/
theorem ofpactsFromOpenflow_fuel (f : List UInt8 → Decoded) {fuel left : Nat} (a : List UInt8)
    (out : Ofpbuf) (h : left ≤ fuel) :
    ofpactsFromOpenflow f fuel a left out = ofpactsFromOpenflow f left a left out := by
  rw [ofpactsFromOpenflow_eq, ofpactsFromOpenflow_eq,
    forEachPointers_fuel fuel left a left h (Nat.le_refl _)]

/-- So does `decode_openflow11_instructions`. -/
theorem decodeOpenflow11Instructions_fuel (centec : Bool) {fuel left : Nat} (a : List UInt8)
    (out : Insts) (h : left ≤ fuel) :
    decodeOpenflow11Instructions centec fuel a left out =
      decodeOpenflow11Instructions centec left a left out := by
  rw [decodeOpenflow11Instructions_eq, decodeOpenflow11Instructions_eq,
    forEachPointers_fuel fuel left a left h (Nat.le_refl _)]

/-! ## Outcomes of the loop bodies -/

/-- When every record decodes, the loop puts all their records and ends as
its epilogue says: `BAD_LEN` for units left over, else a padded buffer. -/
theorem decodeAt_of_ok {f : List UInt8 → Decoded} {ps : List (List UInt8)}
    (hok : ∀ p ∈ ps, (f p).2 = none) (left : Nat) (out : Ofpbuf) :
    decodeAt f ps left out =
      ofpactsFromOpenflowEnd left (ofpactPutAll out (ps.flatMap fun p => (f p).1)) := by
  induction ps generalizing out with
  | nil => rfl
  | cons p ps ih =>
    have hp := hok p (List.mem_cons_self _ _)
    rcases h : f p with ⟨recs, _ | e⟩
    · simp [decodeAt, h, ih (fun q hq => hok q (List.mem_cons_of_mem _ hq)), ofpactPutAll_append]
    · simp [h] at hp

/-- A loop that returns `0` decoded every record and used up every unit. -/
theorem decodeAt_eq_none {f : List UInt8 → Decoded} {ps : List (List UInt8)} {left : Nat}
    {out : Ofpbuf} (h : (decodeAt f ps left out).2 = none) :
    (∀ p ∈ ps, (f p).2 = none) ∧ left = 0 := by
  induction ps generalizing out with
  | nil => simp only [decodeAt, ofpactsFromOpenflowEnd] at h; split at h <;> simp_all
  | cons p ps ih =>
    simp only [decodeAt] at h
    rcases hp : f p with ⟨recs, _ | e⟩ <;> simp only [hp] at h
    · obtain ⟨h1, h2⟩ := ih h
      exact ⟨by simpa [hp] using h1, h2⟩
    · simp at h

theorem collectInsts_eq_ok {centec : Bool} {ps : List (List UInt8)} {left : Nat} {out ins : Insts}
    (h : collectInsts centec ps left out = .ok ins) : left = 0 := by
  induction ps generalizing out with
  | nil => simp only [collectInsts, decodeOpenflow11InstructionsEnd] at h; split at h <;> simp_all
  | cons p ps ih =>
    simp only [collectInsts] at h
    rcases hp : decodeOpenflow11Instruction centec p with e | t <;> simp only [hp] at h
    · simp at h
    · split at h
      · simp at h
      · exact ih h

/-- The units left over are looked at only after the last record. -/
theorem collectInsts_left {centec : Bool} {ps : List (List UInt8)} {out ins : Insts}
    (h : collectInsts centec ps 0 out = .ok ins) (left : Nat) :
    collectInsts centec ps left out = decodeOpenflow11InstructionsEnd left ins := by
  induction ps generalizing out with
  | nil =>
    simp only [collectInsts, decodeOpenflow11InstructionsEnd, ne_eq, not_true_eq_false, if_false,
      Except.ok.injEq] at h
    rw [collectInsts, h]
  | cons p ps ih =>
    simp only [collectInsts] at h ⊢
    rcases hp : decodeOpenflow11Instruction centec p with e | t <;> simp only [hp] at h ⊢
    · cases h
    · split
      · simp_all
      · rename_i hs
        simp only [hs] at h
        exact ih h

/-! ## The records an `insts` array points at -/

/-- The records the `insts` array points at. -/
def Insts.records (ins : Insts) : Insts := fun t => (ins t).map recordAt

theorem Insts.records_update (ins : Insts) (t : OvsInstructionType) (p : List UInt8) :
    Insts.records (Function.update ins t (some p)) =
      Function.update (Insts.records ins) t (some (recordAt p)) := by
  funext u
  by_cases hu : u = t
  · subst hu; simp [Insts.records]
  · simp [Insts.records, Function.update_noteq hu]

end OfpActions
