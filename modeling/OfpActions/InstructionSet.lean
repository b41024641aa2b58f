import OfpActions.Synthesis

/-!
# InstructionSet — what the 1.1 instruction encoder writes, and what it reads back

An OpenFlow 1.1 instruction set has at most one instruction of each type.
`InstructionSet` is that value as the internal buffer holds it: the Centec
meter, the actions of apply-actions, clear-actions, write-metadata and
goto-table. Its records (`InstructionSet.records`) are in the order
`ofpacts_pull_openflow11_instructions` puts them.

`ofpacts_put_openflow11_instructions` writes the records of a set as one
instruction per synthesised record and one apply-actions instruction around the
actions (`InstructionSet.put_eq`): the bytes `InstructionSet.wire`. The pull
reads those bytes back into the same set, with the actions as the 1.1 action
decoder gives them (`InstructionSet.pull_wire`). The bound on the apply-actions
`len` is the one hypothesis the code does not check for itself.

Going the other way, every list of records that `ofpacts_verify` accepts, and
whose synthesised records are as the pull puts them, is the record list of a set
(`InstructionSet.of_verify`).
-/

namespace OfpActions

/-! ## Instruction sets -/

/-- An instruction set, as the records of an instruction pull describe it. -/
structure InstructionSet where
  meter : Option UInt32
  actions : List Ofpact
  clearActions : Bool
  writeMetadata : Option (UInt64 × UInt64)
  gotoTable : Option UInt8

/-- The records of clear-actions, write-metadata and goto-table. -/
def InstructionSet.instructionRecords (s : InstructionSet) : List Ofpact :=
  (if s.clearActions then [⟨.clearActions, .actionInvalid⟩] else []) ++
    (s.writeMetadata.map fun w => ⟨.writeMetadata w.1 w.2, .actionInvalid⟩).toList ++
    (s.gotoTable.map fun t => ⟨.gotoTable t, .actionInvalid⟩).toList

/-- The records of a set, in the order the instruction pull puts them. -/
def InstructionSet.records (s : InstructionSet) : List Ofpact :=
  (s.meter.map fun m => ⟨.meter m, .actionInvalid⟩).toList ++ s.actions ++ s.instructionRecords

/-! ## The bytes the encoder writes -/

/-- The meter instruction (`OFPIT13_METER`). -/
def meterInstruction (meterId : UInt32) : List UInt8 := toBE 2 6 ++ toBE 2 8 ++ wr32 meterId

/-- The apply-actions instruction around `payload`, its `len` fixed up by
`ofpacts_update_instruction_actions`. -/
def applyInstruction (payload : List UInt8) : List UInt8 :=
  toBE 2 4 ++ toBE 2 (8 + payload.length) ++ zeros 4 ++ payload

/-- The write-metadata instruction. -/
def writeMetadataInstruction (w : UInt64 × UInt64) : List UInt8 :=
  toBE 2 2 ++ toBE 2 24 ++ zeros 4 ++ wr64 w.1 ++ wr64 w.2

/-- The goto-table instruction. -/
def gotoTableInstruction (tableId : UInt8) : List UInt8 := toBE 2 1 ++ toBE 2 8 ++ wr8 tableId ++ zeros 3

/-- The instruction of each type the encoder writes for `s`, whose actions it
writes as `payload`. -/
def InstructionSet.insts (s : InstructionSet) (payload : List UInt8) : Insts
  | .meter => s.meter.map meterInstruction
  | .applyActions => if payload = [] then none else some (applyInstruction payload)
  | .clearActions => if s.clearActions then some (instructionPut .clearActions) else none
  | .writeActions => none
  | .writeMetadata => s.writeMetadata.map writeMetadataInstruction
  | .gotoTable => s.gotoTable.map gotoTableInstruction

/-- The order in which the encoder writes the instruction types. -/
def putOrder : List OvsInstructionType :=
  [.meter, .applyActions, .clearActions, .writeMetadata, .gotoTable]

/-- The instructions the encoder writes for `s`. -/
def InstructionSet.wire (s : InstructionSet) (payload : List UInt8) : List UInt8 :=
  (putOrder.filterMap (s.insts payload)).flatten

/-! ## The encoder's loops -/

section Encoder

variable {co : Collab} {centec : Bool}

theorem ofpactInstruction_of_not {x : Ofpact} (h : ofpactIsInstruction centec x = false) :
    ofpactInstruction centec x = none := by
  unfold ofpactIsInstruction at h
  unfold ofpactInstruction
  split <;> simp_all

/-- The inner loop writes the actions up to the first instruction and hands the
rest back. -/
theorem ofpactsPutApplyActions_append {c : Ofpact → OfputilActionCode} {xs T : List Ofpact}
    (hfit : Fits xs) (hxs : ∀ x ∈ xs, ofpactIsInstruction centec x = false ∧ ∃ e, ofpactToOpenflow11 co centec x = some e ∧
      IsWireRecord e ∧ ofpactFromOpenflow11 co centec e = ([⟨x.body, c x⟩], none))
    (hT : ∀ a ∈ T.head?, ofpactIsInstruction centec a = true) (o : List UInt8) :
    ∃ es : List (List UInt8), ofpactsPutApplyActions co centec (xs ++ T) o = some (o ++ es.flatten, T) ∧
      (∀ e ∈ es, IsWireRecord e ∧ (ofpactFromOpenflow11 co centec e).2 = none) ∧
      es.flatMap (fun e => (ofpactFromOpenflow11 co centec e).1) = xs.map fun x => ⟨x.body, c x⟩ := by
  induction xs generalizing o with
  | nil =>
    refine ⟨[], ?_, by simp, rfl⟩
    rcases T with _ | ⟨a, T⟩
    · simp [ofpactsPutApplyActions]
    · simp [ofpactsPutApplyActions, hT a rfl]
  | cons x xs ih =>
    obtain ⟨hi, e, he, hw, hd⟩ := hxs x (List.mem_cons_self _ _)
    obtain ⟨es, hput, hes, hmap⟩ := ih (fun y hy => hfit y (List.mem_cons_of_mem _ hy))
      (fun y hy => hxs y (List.mem_cons_of_mem _ hy)) (o ++ e)
    refine ⟨e :: es, ?_, ?_, ?_⟩
    · simp [ofpactsPutApplyActions, forEachEncode_of_lt (hfit x (List.mem_cons_self _ _)), hi, he,
        hput]
    · intro e' he'
      rcases List.mem_cons.1 he' with rfl | he'
      · exact ⟨hw, by rw [hd]⟩
      · exact hes e' he'
    · simp [hd, hmap]

/-- `ofpacts_update_instruction_actions` after an apply-actions header and its
payload: the header's `len` covers the payload, or the header goes. -/
theorem ofpactsUpdateInstructionActions_apply (o payload : List UInt8) :
    ofpactsUpdateInstructionActions (o ++ instructionPut .applyActions ++ payload) o.length =
      o ++ (if payload = [] then [] else applyInstruction payload) := by
  have hb : o ++ instructionPut .applyActions ++ payload =
      o ++ (toBE 2 4 ++ (toBE 2 8 ++ (zeros 4 ++ payload))) := by
    simp only [List.append_assoc]; rfl
  have hd : (toBE 2 4 ++ (toBE 2 8 ++ (zeros 4 ++ payload))).drop 4 = zeros 4 ++ payload := by
    rw [← List.append_assoc]; exact List.drop_left' rfl
  rw [hb]
  unfold ofpactsUpdateInstructionActions applyInstruction
  simp only [List.length_append, toBE_length, zeros_length]
  split
  · rename_i hl
    rw [if_neg (by rintro rfl; simp at hl), List.take_append, List.drop_append, hd,
      List.take_left' (toBE_length 2 4),
      show o.length + (2 + (2 + (4 + payload.length))) - o.length = 8 + payload.length by omega]
    simp only [List.append_assoc]
  · rename_i hl
    rw [if_pos (List.eq_nil_of_length_eq_zero (by omega)), List.append_nil, List.take_left]

/-- The outer loop over records that are each written as their own instruction. -/
theorem ofpactsPutInstructions_instructions {T : List Ofpact}
    (hT : ∀ x ∈ T, (ofpactInstruction centec x).isSome) {n : Nat} (hn : T.length ≤ n)
    (o : List UInt8) :
    ofpactsPutInstructions co centec n T o =
      some (o ++ T.flatMap fun x => (ofpactInstruction centec x).getD []) := by
  induction T generalizing n o with
  | nil => cases n <;> simp [ofpactsPutInstructions]
  | cons x T ih =>
    simp only [List.length_cons] at hn
    obtain ⟨n, rfl⟩ : ∃ m, n = m + 1 := ⟨n - 1, by omega⟩
    obtain ⟨i, hi⟩ := Option.isSome_iff_exists.1 (hT x (List.mem_cons_self _ _))
    simp only [ofpactsPutInstructions, hi]
    rw [ih (fun y hy => hT y (List.mem_cons_of_mem _ hy)) (by omega), List.flatMap_cons, hi,
      Option.getD_some, List.append_assoc]

/-- The outer loop over a run of actions followed by records that are each their
own instruction: one apply-actions instruction around the run. -/
theorem ofpactsPutInstructions_run {c : Ofpact → OfputilActionCode} {x : Ofpact} {xs T : List Ofpact}
    (hfit : Fits (x :: xs)) (hxs : ∀ x' ∈ x :: xs, ofpactIsInstruction centec x' = false ∧ ∃ e, ofpactToOpenflow11 co centec x' = some e ∧
      IsWireRecord e ∧ ofpactFromOpenflow11 co centec e = ([⟨x'.body, c x'⟩], none))
    (hT : ∀ a ∈ T.head?, ofpactIsInstruction centec a = true) (n : Nat) (o : List UInt8) :
    ∃ es : List (List UInt8),
      ofpactsPutInstructions co centec (n + 1) (x :: xs ++ T) o =
        ofpactsPutInstructions co centec n T (o ++ applyInstruction es.flatten) ∧ es.flatten ≠ [] ∧
      (∀ e ∈ es, IsWireRecord e ∧ (ofpactFromOpenflow11 co centec e).2 = none) ∧
      es.flatMap (fun e => (ofpactFromOpenflow11 co centec e).1) = (x :: xs).map fun x => ⟨x.body, c x⟩ := by
  obtain ⟨es, hput, hes, hmap⟩ :=
    ofpactsPutApplyActions_append hfit hxs hT (o ++ instructionPut .applyActions)
  -- The run decodes to a record, so some wire record of it is there.
  have hne : es.flatten ≠ [] := by
    intro h
    have hes0 : es = [] := List.eq_nil_iff_forall_not_mem.2 fun e he => by
      have h8 := (hes e he).1.2.2
      rw [List.flatten_eq_nil_iff.1 h e he] at h8
      simp [OFP_ACTION_ALIGN] at h8
    simp [hes0] at hmap
  have hx := (hxs x (List.mem_cons_self _ _)).1
  refine ⟨es, ?_, hne, hes, hmap⟩
  simp only [List.cons_append] at hput
  simp only [ofpactsPutInstructions, List.cons_append, ofpactInstruction_of_not hx, hx, hput,
    Bool.false_eq_true, if_false, List.append_eq, ofpactsUpdateInstructionActions_apply, if_neg hne]

/-- Wire records that make up nothing are no records. -/
theorem eq_nil_of_flatten_eq_nil {es : List (List UInt8)} (hes : ∀ e ∈ es, IsWireRecord e)
    (h : es.flatten = []) : es = [] :=
  List.eq_nil_iff_forall_not_mem.2 fun e he => by
    have h8 := (hes e he).2.2
    rw [List.flatten_eq_nil_iff.1 h e he] at h8
    simp [OFP_ACTION_ALIGN] at h8

theorem flatten_filterMap {α β : Type} (f : α → Option (List β)) (l : List α) :
    (l.filterMap f).flatten = l.flatMap fun a => (f a).getD [] := by
  induction l with
  | nil => rfl
  | cons a l ih => rcases h : f a with _ | b <;> simp [List.filterMap_cons, h, ih]

theorem InstructionSet.wire_eq (s : InstructionSet) (payload : List UInt8) :
    s.wire payload = (s.insts payload .meter).getD [] ++ (s.insts payload .applyActions).getD [] ++
      ((s.insts payload .clearActions).getD [] ++ (s.insts payload .writeMetadata).getD [] ++
        (s.insts payload .gotoTable).getD []) := by
  simp [InstructionSet.wire, flatten_filterMap, putOrder]

/-- The instructions fit a 16-bit length only if the apply-actions `len` does. -/
theorem InstructionSet.payload_lt {s : InstructionSet} {payload : List UInt8}
    (h : (s.wire payload).length < 65536) : 8 + payload.length < 65536 := by
  rw [InstructionSet.wire_eq] at h
  by_cases hp : payload = []
  · simp [hp]
  · simp only [InstructionSet.insts, if_neg hp, applyInstruction, List.length_append,
      Option.getD_some, toBE_length, zeros_length] at h
    omega

/-- The instructions written for the clear-actions, write-metadata and
goto-table records are those of the set. -/
theorem InstructionSet.instructionRecords_flatMap (s : InstructionSet) (payload : List UInt8) :
    s.instructionRecords.flatMap (fun x => (ofpactInstruction centec x).getD []) =
      (s.insts payload .clearActions).getD [] ++ (s.insts payload .writeMetadata).getD [] ++
        (s.insts payload .gotoTable).getD [] := by
  rcases s with ⟨m, A, c, w, g⟩
  cases c <;> cases w <;> cases g <;> rfl

theorem InstructionSet.instructionRecords_isInstruction (s : InstructionSet) :
    ∀ x ∈ s.instructionRecords, (ofpactInstruction centec x).isSome ∧ ofpactIsInstruction centec x := by
  intro x hx
  simp only [InstructionSet.instructionRecords, List.mem_append] at hx
  rcases hx with (hx | hx) | hx
  · split at hx
    · rw [List.mem_singleton.1 hx]; exact ⟨rfl, rfl⟩
    · cases hx
  · rcases hw : s.writeMetadata with _ | w <;> simp [hw] at hx
    rw [hx]; exact ⟨rfl, rfl⟩
  · rcases hg : s.gotoTable with _ | g <;> simp [hg] at hx
    rw [hx]; exact ⟨rfl, rfl⟩

/-- `ofpacts_put_openflow11_instructions` on the records of a set writes its
instructions: the meter, the apply-actions around the encoded actions, then
clear-actions, write-metadata and goto-table. -/
theorem InstructionSet.put_eq {s : InstructionSet} (hm : s.meter.isSome → centec = true)
    {c : Ofpact → OfputilActionCode} (hfit : Fits s.actions)
    (hx : ∀ x ∈ s.actions, ofpactIsInstruction centec x = false ∧ ∃ e, ofpactToOpenflow11 co centec x = some e ∧
      IsWireRecord e ∧ ofpactFromOpenflow11 co centec e = ([⟨x.body, c x⟩], none)) :
    ∃ es : List (List UInt8),
      ofpactsPutOpenflow11Instructions co centec s.records [] = some (s.wire es.flatten) ∧
      (∀ e ∈ es, IsWireRecord e ∧ (ofpactFromOpenflow11 co centec e).2 = none) ∧
      es.flatMap (fun e => (ofpactFromOpenflow11 co centec e).1) = s.actions.map fun x => ⟨x.body, c x⟩ := by
  have hT : ∀ x ∈ s.instructionRecords,
      (ofpactInstruction centec x).isSome ∧ ofpactIsInstruction centec x :=
    s.instructionRecords_isInstruction
  -- The actions and the records after them, after whatever `o` holds.
  have hrest : ∀ n o, s.actions.length + s.instructionRecords.length ≤ n →
      ∃ es : List (List UInt8),
        ofpactsPutInstructions co centec n (s.actions ++ s.instructionRecords) o =
          some (o ++ (s.insts es.flatten .applyActions).getD [] ++
            s.instructionRecords.flatMap fun x => (ofpactInstruction centec x).getD []) ∧
        (∀ e ∈ es, IsWireRecord e ∧ (ofpactFromOpenflow11 co centec e).2 = none) ∧
        es.flatMap (fun e => (ofpactFromOpenflow11 co centec e).1) = s.actions.map fun x => ⟨x.body, c x⟩ := by
    intro n o hn
    rcases hA : s.actions with _ | ⟨x, xs⟩
    · refine ⟨[], ?_, by simp, rfl⟩
      rw [List.nil_append, ofpactsPutInstructions_instructions (fun x hx => (hT x hx).1) (by omega)]
      simp [InstructionSet.insts]
    · rw [hA] at hx hn hfit
      obtain ⟨n, rfl⟩ : ∃ m, n = m + 1 := ⟨n - 1, by simp at hn; omega⟩
      obtain ⟨es, h, hne, hes, hmap⟩ := ofpactsPutInstructions_run hfit hx
        (fun a ha => (hT a (List.mem_of_mem_head? ha)).2) n o
      refine ⟨es, ?_, hes, hmap⟩
      rw [h, ofpactsPutInstructions_instructions (fun x hx => (hT x hx).1) (by simp at hn; omega)]
      simp [InstructionSet.insts, hne]
  unfold ofpactsPutOpenflow11Instructions InstructionSet.records
  have hlen := (List.length_append s.actions s.instructionRecords).ge
  rcases hmeter : s.meter with _ | m
  · obtain ⟨es, h, hes, hmap⟩ := hrest _ [] hlen
    refine ⟨es, ?_, hes, hmap⟩
    simp only [Option.map_none', Option.toList_none, List.nil_append]
    rw [h, s.wire_eq, s.instructionRecords_flatMap es.flatten]
    simp [InstructionSet.insts, hmeter]
  · have hc : centec = true := hm (by simp [hmeter])
    obtain ⟨es, h, hes, hmap⟩ := hrest _ (meterInstruction m) hlen
    refine ⟨es, ?_, hes, hmap⟩
    have hi : ofpactInstruction centec ⟨.meter m, .actionInvalid⟩ = some (meterInstruction m) := by
      simp [ofpactInstruction, hc, meterInstruction]
    simp only [Option.map_some', Option.toList_some, List.singleton_append, List.length_cons,
      ofpactsPutInstructions, hi, List.append_eq, List.nil_append]
    rw [h, s.wire_eq, s.instructionRecords_flatMap es.flatten]
    simp [InstructionSet.insts, hmeter]

end Encoder

/-! ## The pull of what the encoder writes -/

section Decoder

variable {co : Collab} {centec : Bool} {s : InstructionSet} {payload : List UInt8}

theorem getBE_instruction_type (a b : Nat) (body : List UInt8) :
    getBE (toBE 2 a ++ (toBE 2 b ++ body)) 0 2 = a % 65536 :=
  getBE_toBE_append 2 a _

theorem getBE_instruction_len (a b : Nat) (body : List UInt8) :
    getBE (toBE 2 a ++ (toBE 2 b ++ body)) 2 2 = b % 65536 := by
  rw [getBE_append_right (by simp), toBE_length, Nat.sub_self, getBE_toBE_append]
  rfl

/-- An instruction whose header names a type of the build and a `len` that its
struct admits and that is its size is a wire record of that type. -/
theorem instruction_wire {t : OvsInstructionType} (ht : t.inBuild centec) {len : Nat}
    {body : List UInt8} (hlen : len = 4 + body.length) (hm : len % 8 = 0) (hl : len < 65536)
    (hs : if t.extensible then t.size ≤ len else len = t.size) :
    IsWireRecord (toBE 2 t.type ++ (toBE 2 len ++ body)) ∧
      decodeOpenflow11Instruction centec (toBE 2 t.type ++ (toBE 2 len ++ body)) = .ok t := by
  have ht' : t.type < 65536 ∧ t.type ≠ OFPAT10_VENDOR ∧ 8 ≤ t.size := by cases t <;> decide
  have h8 : 8 ≤ len := by split at hs <;> omega
  refine ⟨⟨?_, ?_, ?_⟩, ?_⟩
  · simp only [getBE_instruction_len, Nat.mod_eq_of_lt hl, List.length_append, toBE_length]
    omega
  · simp only [OFP_ACTION_ALIGN, List.length_append, toBE_length]; omega
  · simp only [OFP_ACTION_ALIGN, List.length_append, toBE_length]; omega
  · simp only [decodeOpenflow11Instruction, getBE_instruction_type, getBE_instruction_len,
      Nat.mod_eq_of_lt ht'.1, Nat.mod_eq_of_lt hl, if_neg ht'.2.1,
      OvsInstructionType.ofType?_type ht, if_pos hs]

/-- Each instruction written for a set is a wire record of its type, if the
apply-actions `len` fits in 16 bits. -/
theorem InstructionSet.insts_wire (hm : s.meter.isSome → centec = true)
    (h8 : payload.length % 8 = 0) (hl : 8 + payload.length < 65536) :
    (s.insts payload).Wire centec := by
  intro t i h
  cases t
  case meter =>
    obtain ⟨m, hm', rfl⟩ := Option.map_eq_some'.1 h
    simp only [meterInstruction, List.append_assoc]
    exact instruction_wire (t := .meter) (hm (by simp [hm'])) (by simp) (by decide) (by decide)
      (by decide)
  case applyActions =>
    simp only [InstructionSet.insts] at h
    split at h
    · cases h
    cases h
    simp only [applyInstruction, List.append_assoc]
    exact instruction_wire (t := .applyActions) rfl (by simp; omega) (by omega) hl
      (by simp [OvsInstructionType.extensible, OvsInstructionType.size])
  case clearActions =>
    simp only [InstructionSet.insts] at h
    split at h
    · cases h
      simp only [instructionPut, List.append_assoc]
      exact instruction_wire (t := .clearActions) rfl (by simp [OvsInstructionType.size]) (by decide)
        (by decide) (by decide)
    · cases h
  case writeActions => simp [InstructionSet.insts] at h
  case writeMetadata =>
    obtain ⟨w, -, rfl⟩ := Option.map_eq_some'.1 h
    simp only [writeMetadataInstruction, List.append_assoc]
    exact instruction_wire (t := .writeMetadata) rfl (by simp) (by decide) (by decide) (by decide)
  case gotoTable =>
    obtain ⟨g, -, rfl⟩ := Option.map_eq_some'.1 h
    simp only [gotoTableInstruction, List.append_assoc]
    exact instruction_wire (t := .gotoTable) rfl (by simp) (by decide) (by decide) (by decide)

/-- `decode_openflow11_instructions` collects records of distinct types, each
read as its own type, into the array they came from. -/
theorem collectInsts_filterMap {ins : Insts} {ts : List OvsInstructionType} (hd : ts.Nodup)
    (hw : ∀ t ∈ ts, ∀ i, ins t = some i → decodeOpenflow11Instruction centec i = .ok t)
    {out : Insts} (hout : ∀ t ∈ ts, out t = none) :
    collectInsts centec (ts.filterMap ins) 0 out = .ok fun t => if t ∈ ts then ins t else out t := by
  induction ts generalizing out with
  | nil => simp [collectInsts, decodeOpenflow11InstructionsEnd]
  | cons t ts ih =>
    obtain ⟨ht, hd⟩ := List.nodup_cons.1 hd
    have hw' := fun u hu => hw u (List.mem_cons_of_mem t hu)
    rcases hi : ins t with _ | i
    · simp only [List.filterMap_cons, hi]
      rw [ih hd hw' fun u hu => hout u (List.mem_cons_of_mem t hu)]
      congr 1
      funext u
      by_cases hu : u = t
      · subst hu; simp [hi, hout u (List.mem_cons_self _ _)]
      · simp [hu]
    · have hout' : ∀ u ∈ ts, Function.update out t (some i) u = none := fun u hu => by
        rw [Function.update_noteq (by rintro rfl; exact ht hu)]
        exact hout u (List.mem_cons_of_mem t hu)
      simp only [List.filterMap_cons, hi, collectInsts, hw t (List.mem_cons_self _ _) i hi,
        hout t (List.mem_cons_self _ _), Option.isSome_none, Bool.false_eq_true, if_false]
      rw [ih hd hw' hout']
      congr 1
      funext u
      by_cases hu : u = t
      · subst hu; simp [hi, ht]
      · by_cases hu' : u ∈ ts <;> simp [hu, hu', Function.update_noteq hu]

theorem InstructionSet.collectInsts_wire (hm : s.meter.isSome → centec = true)
    (h8 : payload.length % 8 = 0) (hl : 8 + payload.length < 65536) :
    collectInsts centec (putOrder.filterMap (s.insts payload)) 0 (fun _ => none) =
      .ok (s.insts payload) := by
  rw [collectInsts_filterMap (by decide) (fun t _ i h => (s.insts_wire hm h8 hl t i h).2)
    fun _ _ => rfl]
  congr 1
  funext t
  cases t <;> simp [putOrder, InstructionSet.insts]

theorem rd32_meterInstruction (m : UInt32) : rd32 (meterInstruction m) 4 = m := by
  simp [rd32, meterInstruction, getBE_append_right]

theorem rd64_writeMetadataInstruction (w : UInt64 × UInt64) :
    rd64 (writeMetadataInstruction w) 8 = w.1 ∧ rd64 (writeMetadataInstruction w) 16 = w.2 := by
  simp [rd64, writeMetadataInstruction, getBE_append_left, getBE_append_right]

theorem rd8_gotoTableInstruction (t : UInt8) : rd8 (gotoTableInstruction t) 4 = t := by
  simp [rd8, gotoTableInstruction, getBE_append_left, getBE_append_right]

theorem getActionsFromInstruction_apply (hl : 8 + payload.length < 65536) :
    getActionsFromInstruction (applyInstruction payload) = (payload, payload.length / 8) := by
  have hd : (applyInstruction payload).drop 8 = payload := List.drop_left' (by simp)
  have hg : getBE (applyInstruction payload) 2 2 = 8 + payload.length := by
    simp only [applyInstruction, List.append_assoc, getBE_instruction_len, Nat.mod_eq_of_lt hl]
  simp only [getActionsFromInstruction, hd, hg, Nat.add_sub_cancel_left]

theorem Step.andThen_of_ok {f g : Step} {b b₁ : Ofpbuf} (h : f b = (b₁, none)) :
    (f.andThen g) b = g b₁ := by
  simp only [Step.andThen, h]

theorem meterStep_insts (hm : s.meter.isSome → centec = true) (b : Ofpbuf) :
    meterStep centec (s.insts payload) b =
      (putOpt b (s.meter.map fun m => ⟨.meter m, .actionInvalid⟩), none) := by
  rw [meterStep_eq, meterRecord]
  rcases hs : s.meter with _ | m
  · cases centec <;> simp [InstructionSet.insts, hs]
  · simp [InstructionSet.insts, hs, hm (by simp [hs]), rd32_meterInstruction]

theorem applyActionsStep_insts (hco : co.SubReadsRecord) {es : List (List UInt8)}
    (hes : ∀ e ∈ es, IsWireRecord e ∧ (ofpactFromOpenflow11 co centec e).2 = none)
    (hl : 8 + es.flatten.length < 65536) (b : Ofpbuf) :
    applyActionsStep co centec (s.insts es.flatten) b =
      (walkOpt b (if es.flatten = [] then none
        else some (es.flatMap fun e => (ofpactFromOpenflow11 co centec e).1)), none) := by
  unfold applyActionsStep
  simp only [InstructionSet.insts]
  split_ifs
  · rfl
  · have hd := ofpactsFromOpenflow_flatten (ofpactFromOpenflow11_reads hco centec)
      (fun e he => (hes e he).1) (fun e he => (hes e he).2) [] (Nat.le_refl _) b
    rw [List.append_nil] at hd
    simp only [getActionsFromInstruction_apply hl]
    exact hd

theorem clearActionsStep_insts (b : Ofpbuf) :
    clearActionsStep (s.insts payload) b =
      (putOpt b (if s.clearActions then some ⟨.clearActions, .actionInvalid⟩ else none), none) := by
  rw [clearActionsStep_eq, clearRecord]
  rcases s with ⟨m, A, c, w, g⟩
  cases c <;> rfl

theorem writeActionsStep_insts (b : Ofpbuf) :
    writeActionsStep co centec (s.insts payload) b = (b, none) := by
  cases centec <;> rfl

theorem writeMetadataStep_insts (hwm : s.writeMetadata.isSome → centec = false) (b : Ofpbuf) :
    writeMetadataStep centec (s.insts payload) b =
      (putOpt b (s.writeMetadata.map fun w => ⟨.writeMetadata w.1 w.2, .actionInvalid⟩), none) := by
  unfold writeMetadataStep
  rcases hw : s.writeMetadata with _ | w
  · simp [InstructionSet.insts, hw, putOpt]
  · simp [InstructionSet.insts, hw, hwm (by simp [hw]), putOpt, rd64_writeMetadataInstruction]

theorem gotoTableStep_insts (hg : s.gotoTable.isSome → centec = false) (b : Ofpbuf) :
    gotoTableStep centec (s.insts payload) b =
      (putOpt b (s.gotoTable.map fun t => ⟨.gotoTable t, .actionInvalid⟩), none) := by
  unfold gotoTableStep
  rcases ht : s.gotoTable with _ | t
  · simp [InstructionSet.insts, ht, putOpt]
  · simp [InstructionSet.insts, ht, hg (by simp [ht]), putOpt, rd8_gotoTableInstruction]

theorem writeActionsUnsupStep_insts (b : Ofpbuf) :
    writeActionsUnsupStep centec (s.insts payload) b = (b, none) := by
  simp [writeActionsUnsupStep, InstructionSet.insts]

/-- The instruction pull synthesises the records of the set from what the
encoder wrote for it, and leaves them as it leaves every buffer. -/
theorem InstructionSet.ofpactsFromInstructions_insts (hco : co.SubReadsRecord)
    (hm : s.meter.isSome → centec = true) (hwm : s.writeMetadata.isSome → centec = false)
    (hg : s.gotoTable.isSome → centec = false) {es : List (List UInt8)}
    (hes : ∀ e ∈ es, IsWireRecord e ∧ (ofpactFromOpenflow11 co centec e).2 = none)
    (hxs : s.actions = es.flatMap fun e => (ofpactFromOpenflow11 co centec e).1)
    (hl : 8 + es.flatten.length < 65536) :
    ofpactsFromInstructions co centec (s.insts es.flatten) [] = (instructionLayout s.records, none) := by
  have hA : (if es.flatten = [] then none
      else some (es.flatMap fun e => (ofpactFromOpenflow11 co centec e).1)).getD [] = s.actions := by
    split_ifs with h
    · rw [hxs, eq_nil_of_flatten_eq_nil (fun e he => (hes e he).1) h]
      rfl
    · exact hxs.symm
  have h : ofpactsFromInstructions co centec (s.insts es.flatten) [] = _ :=
    (Step.andThen_of_ok (meterStep_insts hm [])).trans <|
    (Step.andThen_of_ok (applyActionsStep_insts hco hes hl _)).trans <|
    (Step.andThen_of_ok (clearActionsStep_insts _)).trans <|
    (Step.andThen_of_ok (writeActionsStep_insts _)).trans <|
    (Step.andThen_of_ok (writeMetadataStep_insts hwm _)).trans <|
    (Step.andThen_of_ok (gotoTableStep_insts hg _)).trans (writeActionsUnsupStep_insts _)
  have hw := s.insts_wire hm (flatten_length_mod fun e he => (hes e he).1) hl
  rcases ofpactsFromInstructions_layout hco hw h with h' | ⟨-, h', -⟩
  · rw [h, h']
    congr 2
    simp only [putOpt_ofpacts, walkOpt_ofpacts, Ofpbuf.ofpacts_nil, List.nil_append, hA,
      InstructionSet.records, InstructionSet.instructionRecords, List.append_assoc]
    by_cases hc : s.clearActions <;> simp [hc]
  · simp [InstructionSet.insts] at h'

/-- `ofpacts_pull_openflow11_instructions` reads what the encoder wrote for a
set back into the set's records, as it leaves every buffer, if `ofpacts_verify`
accepts them. -/
theorem InstructionSet.pull_wire (hco : co.SubReadsRecord)
    (hm : s.meter.isSome → centec = true) (hwm : s.writeMetadata.isSome → centec = false)
    (hg : s.gotoTable.isSome → centec = false) {es : List (List UInt8)}
    (hes : ∀ e ∈ es, IsWireRecord e ∧ (ofpactFromOpenflow11 co centec e).2 = none)
    (hxs : s.actions = es.flatMap fun e => (ofpactFromOpenflow11 co centec e).1)
    (hl : 8 + es.flatten.length < 65536) (hv : ofpactsVerify s.records = none) (prior : Ofpbuf) :
    ofpactsPullOpenflow11Instructions co centec (s.wire es.flatten) (s.wire es.flatten).length prior =
      ⟨none, [], instructionLayout s.records⟩ := by
  have h8 := flatten_length_mod fun e he => (hes e he).1
  have hw := s.insts_wire hm h8 hl
  have hrs : ∀ r ∈ putOrder.filterMap (s.insts es.flatten), IsWireRecord r := fun r hr => by
    obtain ⟨t, -, ht⟩ := List.mem_filterMap.1 hr
    exact (hw t r ht).1
  have hp := ofpactsPullOpenflow11Instructions_flatten hco centec hrs [] prior
  rw [List.append_nil] at hp
  rw [InstructionSet.wire, hp, s.collectInsts_wire hm h8 hl]
  simp only [ofpactsPullOpenflow11InstructionsEnd, s.ofpactsFromInstructions_insts hco hm hwm hg hes hxs hl,
    instructionLayout_ofpacts, hv]

end Decoder

/-! ## The record lists `ofpacts_verify` accepts -/

section Verify

/-- `ofpacts_verify` looks at the records' bodies only. -/
theorem ofpactsVerify_go_congr {A B : List Ofpact} (h : A.map Ofpact.body = B.map Ofpact.body)
    (inst : OvsInstructionType) : ofpactsVerify.go inst A = ofpactsVerify.go inst B := by
  induction A generalizing B inst with
  | nil => cases B <;> simp_all [ofpactsVerify.go]
  | cons a A ih =>
    rcases B with _ | ⟨b, B⟩
    · cases h
    · simp only [List.map_cons, List.cons.injEq] at h
      have ht : ofpactInstructionType a = ofpactInstructionType b := by
        simp only [ofpactInstructionType, h.1]
      simp only [ofpactsVerify.go, ht, ih h.2]

theorem ofpactsVerify_congr {A B : List Ofpact} (h : A.map Ofpact.body = B.map Ofpact.body) :
    ofpactsVerify A = ofpactsVerify B :=
  ofpactsVerify_go_congr h _

/-- A record outside the apply-actions category is clear-actions,
write-metadata or goto-table. -/
theorem ofpactInstructionType_ne_apply {x : Ofpact} (h : ofpactInstructionType x ≠ .applyActions) :
    x.body = .clearActions ∨ (∃ md mask, x.body = .writeMetadata md mask) ∨
      ∃ t, x.body = .gotoTable t := by
  unfold ofpactInstructionType at h
  split at h <;> simp_all

/-- A record in the apply-actions category that is no meter is written inside
apply-actions. -/
theorem ofpactIsInstruction_of_apply {x : Ofpact} (hc : ofpactInstructionType x = .applyActions)
    (hm : ∀ m, x.body ≠ .meter m) : ofpactIsInstruction true x = false := by
  unfold ofpactInstructionType at hc
  unfold ofpactIsInstruction
  split <;> simp_all

/-- A clear-actions, write-metadata or goto-table record in front of the
instruction records of a set, each of which it precedes in `ofpacts_verify`'s
order, makes the instruction records of another set. -/
theorem InstructionSet.cons_instructionRecords {s : InstructionSet} {x : Ofpact}
    (hc : ofpactInstructionType x ≠ .applyActions) (hx : x.compat = .actionInvalid)
    (hlt : ∀ y ∈ s.instructionRecords,
      (ofpactInstructionType x).toNat < (ofpactInstructionType y).toNat) :
    ∃ s' : InstructionSet, s'.meter = s.meter ∧ s'.actions = s.actions ∧
      s'.instructionRecords = x :: s.instructionRecords := by
  have h1 : 1 ≤ (ofpactInstructionType x).toNat := by
    revert hc; cases ofpactInstructionType x <;> decide
  -- A record in the set of a category at most `x`'s contradicts `hlt`.
  have hle : ∀ y ∈ s.instructionRecords,
      (ofpactInstructionType y).toNat ≤ (ofpactInstructionType x).toNat → False :=
    fun y hy h => by have := hlt y hy; omega
  have hcl : s.clearActions = false := by
    by_contra hs
    exact hle ⟨.clearActions, .actionInvalid⟩ (by simp [InstructionSet.instructionRecords, hs]) h1
  have hwm : 3 ≤ (ofpactInstructionType x).toNat → s.writeMetadata = none := fun h => by
    rcases hw : s.writeMetadata with _ | w
    · rfl
    · exact (hle ⟨.writeMetadata w.1 w.2, .actionInvalid⟩
        (by simp [InstructionSet.instructionRecords, hw]) h).elim
  have hgo : 4 ≤ (ofpactInstructionType x).toNat → s.gotoTable = none := fun h => by
    rcases hg : s.gotoTable with _ | t
    · rfl
    · exact (hle ⟨.gotoTable t, .actionInvalid⟩
        (by simp [InstructionSet.instructionRecords, hg]) h).elim
  rcases x with ⟨b, c⟩
  simp only at hx
  subst hx
  rcases ofpactInstructionType_ne_apply hc with hb | ⟨md, mask, hb⟩ | ⟨t, hb⟩ <;>
    simp only at hb <;> subst hb
  · exact ⟨{ s with clearActions := true }, rfl, rfl, by simp [InstructionSet.instructionRecords, hcl]⟩
  · refine ⟨{ s with writeMetadata := some (md, mask) }, rfl, rfl, ?_⟩
    simp [InstructionSet.instructionRecords, hcl, hwm (Nat.le_refl 3)]
  · refine ⟨{ s with gotoTable := some t }, rfl, rfl, ?_⟩
    simp [InstructionSet.instructionRecords, hcl, hwm (Nat.le_succ 3), hgo (Nat.le_refl 4)]

/-- What `ofpacts_verify`'s loop accepts from instruction `inst` on: actions,
only while `inst` is apply-actions, then clear-actions, write-metadata and
goto-table, each at most once, in this order, and after `inst`. -/
theorem ofpactsVerify_go_shape {inst : OvsInstructionType} {A : List Ofpact}
    (hv : ofpactsVerify.go inst A = none)
    (hA : ∀ x ∈ A, (∀ m, x.body ≠ .meter m) ∧
      (ofpactIsInstruction true x = true → x.compat = .actionInvalid)) :
    ∃ s : InstructionSet, s.meter = none ∧ A = s.actions ++ s.instructionRecords ∧
      (∀ x ∈ s.actions, ofpactIsInstruction true x = false) ∧
      (inst ≠ .applyActions → s.actions = []) ∧
      ∀ x ∈ s.instructionRecords,
        inst = .applyActions ∨ inst.toNat < (ofpactInstructionType x).toNat := by
  induction A generalizing inst with
  | nil =>
    exact ⟨⟨none, [], false, none, none⟩, rfl, rfl, by simp, fun _ => rfl,
      by simp [InstructionSet.instructionRecords]⟩
  | cons x A ih =>
    simp only [ofpactsVerify.go] at hv
    split at hv
    · cases hv
    rename_i hle
    obtain ⟨s, hs0, rfl, hact, hempty, hord⟩ := ih hv fun y hy => hA y (List.mem_cons_of_mem x hy)
    obtain ⟨hmx, hsyn⟩ := hA x (List.mem_cons_self _ _)
    by_cases hc : ofpactInstructionType x = .applyActions
    · -- An action: it can only come while `inst` is apply-actions.
      have hinst : inst = .applyActions := by
        by_contra hi
        exact hle ⟨hi, by rw [hc]; exact Nat.zero_le _⟩
      refine ⟨{ s with actions := x :: s.actions }, hs0, rfl, ?_, fun h => absurd hinst h,
        fun _ _ => .inl hinst⟩
      intro y hy
      rcases List.mem_cons.1 hy with rfl | hy
      · exact ofpactIsInstruction_of_apply hc hmx
      · exact hact y hy
    · -- An instruction record: it comes after `inst` and before the rest.
      have hx : inst = .applyActions ∨ inst.toNat < (ofpactInstructionType x).toNat := by
        by_cases hi : inst = .applyActions
        · exact .inl hi
        · exact .inr (by have := not_and.1 hle hi; omega)
      have hinstr : ofpactIsInstruction true x = true := by
        rcases ofpactInstructionType_ne_apply hc with hb | ⟨_, _, hb⟩ | ⟨_, hb⟩ <;>
          simp [ofpactIsInstruction, hb]
      have hlt := fun y hy => (hord y hy).resolve_left hc
      obtain ⟨s', hm', ha', hi'⟩ := InstructionSet.cons_instructionRecords hc (hsyn hinstr) hlt
      have hnil := hempty hc
      refine ⟨s', hm'.trans hs0, by rw [ha', hi', hnil]; rfl, by simp [ha', hnil],
        fun _ => ha'.trans hnil, ?_⟩
      rw [hi']
      intro y hy
      rcases List.mem_cons.1 hy with rfl | hy
      · exact hx
      · exact hx.imp_right fun h => Nat.lt_trans h (hlt y hy)

/-- Every record list that `ofpacts_verify` accepts, made of a meter, if any,
and records that are no meter and carry no `compat` where the pull
synthesises their kind, is the record list of an instruction set. -/
theorem InstructionSet.of_verify {m : Option UInt32} {A : List Ofpact}
    (hv : ofpactsVerify ((m.map fun m => ⟨.meter m, .actionInvalid⟩).toList ++ A) = none)
    (hA : ∀ x ∈ A, (∀ m, x.body ≠ .meter m) ∧
      (ofpactIsInstruction true x = true → x.compat = .actionInvalid)) :
    ∃ s : InstructionSet, s.records = (m.map fun m => ⟨.meter m, .actionInvalid⟩).toList ++ A ∧
      s.meter = m ∧ ∀ x ∈ s.actions, ofpactIsInstruction true x = false := by
  have hv' : ofpactsVerify.go .applyActions A = none := by
    rcases m with _ | m <;> simpa [ofpactsVerify, ofpactsVerify.go, ofpactInstructionType] using hv
  obtain ⟨s, -, rfl, hact, -, -⟩ := ofpactsVerify_go_shape hv' hA
  exact ⟨{ s with meter := m }, by simp [InstructionSet.records, InstructionSet.instructionRecords], rfl, hact⟩

end Verify

end OfpActions
