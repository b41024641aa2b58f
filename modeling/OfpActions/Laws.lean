import OfpActions.InstructionSet

/-!
# Laws — decode, encode, decode again, and translation between dialects

The pulls of the three dialects leave buffers of one shape (`PullImage`): the
Centec meter, if any, first, then records that are admitted, carry the
`compat` of the form `ofpact_to_openflow11` writes them in, and carry no
`compat` where the instruction pull synthesises their kind. `Dialect.pull_image`
shows every pull that returns `0` leaves such a buffer.

On such a buffer each encoder writes every record it does not lose
(`Dialect.loses`) in a form its decoder reads back. The 1.0 and 1.1 action
encoders give the padded layout of the records (`Translate`); the instruction
encoder gives the records as an instruction pull leaves them
(`openflow11Instructions_put_pull`), provided the apply-actions `len` fits in
16 bits, which the encoder does not check.

The decode-encode-decode law (`decode_encode_decode`) and the translation law
(`translate_keeps_bodies`) are assembled from these. In the Centec build an
instruction pull pads after a clear-actions record that an empty write-actions
list follows; re-encoded, the write-actions instruction is gone and the record
comes back unpadded.
-/

namespace OfpActions

/-! ## What the pulls leave -/

/-- A record as the pulls put it after the Centec meter: admitted, with the
`compat` of the form `ofpact_to_openflow11` writes it in, no meter, and with no
`compat` if the 1.1 instruction encoder writes its kind as its own
instruction. -/
def Ofpact.InImage (co : Collab) (centec : Bool) (x : Ofpact) : Prop :=
  x.Admitted co centec ∧ x.compat11 = x.compat ∧ (∀ m, x.body ≠ .meter m) ∧
    (ofpactIsInstruction true x = true → x.compat = .actionInvalid)

/-- The record lists the pulls leave when they return `0`: verified, the Centec
meter, if any, first, and then records as the pulls put them. -/
def PullImage (co : Collab) (centec : Bool) (A : List Ofpact) : Prop :=
  ofpactsVerify A = none ∧ ∃ m : Option UInt32, (m.isSome → centec = true) ∧
    ∃ A', A = (m.map fun m => ⟨.meter m, .actionInvalid⟩).toList ++ A' ∧
      ∀ x ∈ A', x.InImage co centec

section Image

variable {co : Collab} {centec : Bool}

/-- A decoded record that is admitted, carries the 1.1 `compat`, and is of no
instruction kind but write-metadata is as the pulls put it. -/
theorem Ofpact.inImage_of_kinds {x : Ofpact} (ha : x.Admitted co centec)
    (hc : x.compat11 = x.compat)
    (hk : ofpactIsInstruction true x = true → ∃ md mask, x.body = .writeMetadata md mask) :
    x.InImage co centec := by
  refine ⟨ha, hc, fun m hm => ?_, fun h => ?_⟩
  · obtain ⟨md, mask, hb⟩ := hk (by simp [ofpactIsInstruction, hm])
    rw [hm] at hb
    cases hb
  · obtain ⟨md, mask, hb⟩ := hk h
    rw [← hc]
    simp [Ofpact.compat11, Ofpact.nxCompat, hb]

/-- The records the instruction pull synthesises are as the pulls put them. -/
theorem Ofpact.inImage_synthesised {x : Ofpact} (hx : x.compat = .actionInvalid)
    (hb : x.body = .clearActions ∨ (∃ md mask, x.body = .writeMetadata md mask) ∨
      ∃ t, x.body = .gotoTable t) : x.InImage co centec := by
  rcases x with ⟨b, c⟩
  simp only at hx hb
  subst hx
  rcases hb with rfl | ⟨md, mask, rfl⟩ | ⟨t, rfl⟩ <;>
    simp [Ofpact.InImage, Ofpact.Admitted, Ofpact.compat11, Ofpact.nxCompat, ofpactIsInstruction]

theorem ofpactFromOpenflow10_inImage (hsub : co.SubRoundTrip centec) {r : List UInt8}
    (hr : IsWireRecord r) (hok : (ofpactFromOpenflow10 co centec r).2 = none) :
    ∀ x ∈ (ofpactFromOpenflow10 co centec r).1, x.InImage co centec := fun x hx =>
  have hi := ofpactFromOpenflow10_image hsub hr (Prod.ext rfl hok) x hx
  Ofpact.inImage_of_kinds hi.1 hi.2.2.2 (ofpactFromOpenflow10_kinds co centec r x hx)

theorem ofpactFromOpenflow11_inImage (hsub : co.SubRoundTrip centec) {r : List UInt8}
    (hr : IsWireRecord r) (hok : (ofpactFromOpenflow11 co centec r).2 = none) :
    ∀ x ∈ (ofpactFromOpenflow11 co centec r).1, x.InImage co centec := fun x hx =>
  have hi := ofpactFromOpenflow11_image hsub hr (Prod.ext rfl hok) x hx
  Ofpact.inImage_of_kinds hi.1 hi.2 (ofpactFromOpenflow11_kinds co centec r x hx)

theorem WalkRecords.inImage (hsub : co.SubRoundTrip centec) {i : List UInt8} {xs : List Ofpact}
    (h : WalkRecords co centec i xs) : ∀ x ∈ xs, x.InImage co centec := by
  obtain ⟨rs, hrs, -, rfl⟩ := h
  intro x hx
  obtain ⟨r, hr, hxr⟩ := List.mem_flatMap.1 hx
  exact ofpactFromOpenflow11_inImage hsub (hrs r hr).1 (hrs r hr).2 x hxr

/-- An action pull that returns `0` leaves verified records, each put by the
decoder for a wire record it accepted. -/
theorem ofpactsPullActions_image {f : List UInt8 → Decoded} (hf : ReadsRecord f)
    (hP : ∀ r, IsWireRecord r → (f r).2 = none → ∀ x ∈ (f r).1, x.InImage co centec)
    {B : List UInt8} {len : Nat} {prior : Ofpbuf}
    (h : (ofpactsPullActions (fun a n out => ofpactsFromOpenflow f n a n out) B len prior).error =
      none) :
    PullImage co centec (ofpactsPullActions (fun a n out => ofpactsFromOpenflow f n a n out) B len
      prior).ofpacts.ofpacts := by
  obtain ⟨-, hlen, out, ht, hv, hp⟩ := ofpactsPullActions_ok h
  rw [hp]
  obtain ⟨rs, hrs, -, rfl⟩ := ofpactsFromOpenflow_records hf (by omega) ht
  have hA : (ofpactPad (ofpactPutAll [] (rs.flatMap fun r => (f r).1))).ofpacts =
      rs.flatMap fun r => (f r).1 := by simp
  refine ⟨hv, none, (fun h => nomatch h), _, hA, fun x hx => ?_⟩
  obtain ⟨r, hr, hxr⟩ := List.mem_flatMap.1 hx
  exact hP r (hrs r hr).1 (hrs r hr).2 x hxr

/-- The instruction framer collects each entry from the records it walks, of
the entry's type. -/
theorem collectInsts_mem {ps : List (List UInt8)} {left : Nat} {out ins : Insts}
    (h : collectInsts centec ps left out = .ok ins) {t : OvsInstructionType} {i : List UInt8}
    (hi : ins t = some i) :
    out t = some i ∨ (i ∈ ps ∧ decodeOpenflow11Instruction centec i = .ok t) := by
  induction ps generalizing out with
  | nil =>
    simp only [collectInsts, decodeOpenflow11InstructionsEnd] at h
    split at h
    · cases h
    · cases h
      exact .inl hi
  | cons p ps ih =>
    simp only [collectInsts] at h
    rcases hp : decodeOpenflow11Instruction centec p with e | u <;> simp only [hp] at h
    · cases h
    split at h
    · cases h
    rcases ih h with h' | ⟨hm, hd⟩
    · by_cases hu : t = u
      · subst hu
        simp only [Function.update_same, Option.some.injEq] at h'
        subst h'
        exact .inr ⟨List.mem_cons_self _ _, hp⟩
      · exact .inl (by rwa [Function.update_noteq hu] at h')
    · exact .inr ⟨List.mem_cons_of_mem _ hm, hd⟩

/-- An instruction pull that returns `0` synthesised its records from the array
`decode_openflow11_instructions` collected, each entry cut to its record: wire
records of their own types. -/
theorem ofpactsPullOpenflow11Instructions_insts (hco : co.SubReadsRecord) {B : List UInt8}
    {len : Nat} {prior : Ofpbuf}
    (h : (ofpactsPullOpenflow11Instructions co centec B len prior).error = none) :
    ∃ ins out, (decodeOpenflow11Instructions centec (len / 8) B (len / 8) fun _ => none).map
        Insts.records = .ok ins ∧ ins.Wire centec ∧
      ofpactsFromInstructions co centec ins [] = (out, none) ∧ ofpactsVerify out.ofpacts = none ∧
      (ofpactsPullOpenflow11Instructions co centec B len prior).ofpacts = out := by
  obtain ⟨-, hlen, ins, out, hd, ho, hv, hp⟩ := ofpactsPullOpenflow11Instructions_ok h
  have hdec : (decodeOpenflow11Instructions centec (len / 8) B (len / 8) fun _ => none).map
      Insts.records = .ok (Insts.records ins) := by rw [hd]; rfl
  rw [decodeOpenflow11Instructions_eq] at hd
  have hrec := (@forEachPointers_records (len / 8) (len / 8) B (by omega)).1
  have hv8 : ∀ p ∈ (forEachPointers (len / 8) B (len / 8)).1, 8 ≤ getBE p 2 2 :=
    fun p hp => (forEachPointers_valid hp).2
  have hd' := collectInsts_recordAt centec hv8 (forEachPointers (len / 8) B (len / 8)).2
    (fun _ => none)
  rw [hd] at hd'
  refine ⟨Insts.records ins, out, hdec, fun t i hi => ?_, ?_, hv, by rw [hp]⟩
  · rcases collectInsts_mem hd' hi with h' | ⟨hm, hdi⟩
    · cases h'
    · obtain ⟨p, hp', rfl⟩ := List.mem_map.1 hm
      exact ⟨hrec p hp', hdi⟩
  · rw [ofpactsFromInstructions_records hco (collectInsts_typed hd (Insts.typed_empty centec)), ho]

/-- An instruction pull that returns `0` synthesised its records from an array
of wire records of their own types. -/
theorem ofpactsPullOpenflow11Instructions_wire (hco : co.SubReadsRecord) {B : List UInt8}
    {len : Nat} {prior : Ofpbuf}
    (h : (ofpactsPullOpenflow11Instructions co centec B len prior).error = none) :
    ∃ ins out, ins.Wire centec ∧ ofpactsFromInstructions co centec ins [] = (out, none) ∧
      ofpactsVerify out.ofpacts = none ∧
      (ofpactsPullOpenflow11Instructions co centec B len prior).ofpacts = out := by
  obtain ⟨ins, out, -, hw⟩ := ofpactsPullOpenflow11Instructions_insts hco h
  exact ⟨ins, out, hw⟩

/-- An instruction pull that returns `0` leaves the records of its trace: the
meter first, then the walks' records and the synthesised ones. -/
theorem ofpactsPullOpenflow11Instructions_image (hco : co.SubReadsRecord)
    (hsub : co.SubRoundTrip centec) {B : List UInt8} {len : Nat} {prior : Ofpbuf}
    (h : (ofpactsPullOpenflow11Instructions co centec B len prior).error = none) :
    PullImage co centec (ofpactsPullOpenflow11Instructions co centec B len prior).ofpacts.ofpacts := by
  obtain ⟨ins, out, hw, ho, hv, hp⟩ := ofpactsPullOpenflow11Instructions_wire hco h
  rw [hp]
  refine ⟨hv, ?_⟩
  obtain ⟨a₁, a₂, ⟨-, hx₁⟩, ⟨-, hx₂⟩, -, -, -, rfl⟩ := ofpactsFromInstructions_trace hco hw ho
  refine ⟨if centec then (ins .meter).map (rd32 · 4) else none, by split <;> simp_all,
    a₁.getD [] ++ (clearRecord ins).toList ++ a₂.getD [] ++ (writeMetadataRecord ins).toList ++
      (gotoTableRecord ins).toList, ?_, fun x hx => ?_⟩
  · simp only [putOpt_ofpacts, walkOpt_ofpacts, Ofpbuf.ofpacts_nil, List.nil_append,
      List.append_assoc]
    unfold meterRecord
    split <;> simp [Option.map_map, Function.comp_def]
  simp only [List.mem_append] at hx
  rcases hx with (((hx | hx) | hx) | hx) | hx
  · rcases ha : a₁ with _ | xs <;> simp only [ha, Option.getD_none, Option.getD_some] at hx
    · cases hx
    · obtain ⟨i, -, hi⟩ := hx₁ xs ha
      exact hi.inImage hsub x hx
  · unfold clearRecord at hx
    split at hx
    · rw [Option.mem_toList, Option.mem_some_iff] at hx
      subst hx
      exact Ofpact.inImage_synthesised rfl (.inl rfl)
    · cases hx
  · rcases ha : a₂ with _ | xs <;> simp only [ha, Option.getD_none, Option.getD_some] at hx
    · cases hx
    · obtain ⟨i, -, -, -, hi⟩ := hx₂ xs ha
      exact hi.inImage hsub x hx
  · unfold writeMetadataRecord at hx
    rcases hi : ins .writeMetadata with _ | i <;> simp [hi] at hx
    subst hx
    exact Ofpact.inImage_synthesised rfl (.inr (.inl ⟨_, _, rfl⟩))
  · unfold gotoTableRecord at hx
    rcases hi : ins .gotoTable with _ | i <;> simp [hi] at hx
    subst hx
    exact Ofpact.inImage_synthesised rfl (.inr (.inr ⟨_, rfl⟩))

/-- Every pull that returns `0` leaves a buffer of the pulls' image. -/
theorem Dialect.pull_image (hco : co.SubReadsRecord) (hsub : co.SubRoundTrip centec)
    (d : Dialect) {B : List UInt8} {len : Nat} {prior : Ofpbuf}
    (h : (d.pull co centec B len prior).error = none) :
    PullImage co centec (d.pull co centec B len prior).ofpacts.ofpacts := by
  cases d
  · exact @ofpactsPullActions_image co centec _ (ofpactFromOpenflow10_reads hco centec)
      (fun _ hr hok => ofpactFromOpenflow10_inImage hsub hr hok) B len prior h
  · exact @ofpactsPullActions_image co centec _ (ofpactFromOpenflow11_reads hco centec)
      (fun _ hr hok => ofpactFromOpenflow11_inImage hsub hr hok) B len prior h
  · exact @ofpactsPullOpenflow11Instructions_image co centec hco hsub B len prior h

/-- The records of the image are admitted and carry the 1.1 `compat`. -/
theorem PullImage.records {A : List Ofpact} (h : PullImage co centec A) :
    ∀ x ∈ A, x.Admitted co centec ∧ x.compat11 = x.compat := by
  obtain ⟨-, m, hm, A', rfl, hA'⟩ := h
  intro x hx
  rcases List.mem_append.1 hx with hx | hx
  · rcases m with _ | m
    · cases hx
    · rw [Option.map_some', Option.toList_some, List.mem_singleton] at hx
      subst hx
      exact ⟨hm rfl, rfl⟩
  · exact ⟨(hA' x hx).1, (hA' x hx).2.1⟩

end Image

/-! ## Writing the image back -/

section Encoders

variable {co : Collab} {centec : Bool}

theorem ofpactIsInstruction_of_true {x : Ofpact} (h : ofpactIsInstruction true x = false) :
    ofpactIsInstruction centec x = false := by
  unfold ofpactIsInstruction at *
  split <;> simp_all

/-- An action the instruction encoder does not lose is one the 1.1 action
encoder does not lose. -/
theorem loses_openflow11Actions_of_instructions {x : Ofpact}
    (h : ofpactIsInstruction true x = false)
    (hl : Dialect.openflow11Instructions.loses centec x = false) :
    Dialect.openflow11Actions.loses centec x = false := by
  rcases x with ⟨b, c⟩
  cases b <;> simp_all [Dialect.loses, ofpactIsInstruction]

/-- `ofpacts_put_openflow11_instructions` writes a buffer of the pulls' image
that holds no record it loses as instructions that
`ofpacts_pull_openflow11_instructions` reads back into the same records, as it
leaves every buffer, if they fit a 16-bit length. -/
theorem openflow11Instructions_put_pull (hco : co.SubReadsRecord) {A : List Ofpact}
    (hA : PullImage co centec A) (hfit : Fits A)
    (hl : ∀ x ∈ A, Dialect.openflow11Instructions.loses centec x = false) (prior : Ofpbuf) :
    ∃ E, ofpactsPutOpenflow11Instructions co centec A [] = some E ∧
      (E.length < 65536 →
        ofpactsPullOpenflow11Instructions co centec E E.length prior =
          ⟨none, [], instructionLayout A⟩) := by
  have hrec := hA.records
  obtain ⟨hv, m, hm, A', rfl, hA'⟩ := hA
  obtain ⟨s, hs, rfl, hact⟩ := InstructionSet.of_verify hv fun x hx => (hA' x hx).2.2
  rw [← hs] at hl hv hrec hfit ⊢
  have hmem : ∀ x ∈ s.actions, x ∈ s.records := fun x hx => by
    simp [InstructionSet.records, hx]
  -- Each action is written inside apply-actions as one record that reads back.
  have hx : ∀ x ∈ s.actions, ofpactIsInstruction centec x = false ∧
      ∃ e, ofpactToOpenflow11 co centec x = some e ∧ IsWireRecord e ∧
        ofpactFromOpenflow11 co centec e = ([⟨x.body, x.compat11⟩], none) := fun x hx => by
    have hl' := loses_openflow11Actions_of_instructions (hact x hx) (hl x (hmem x hx))
    have ha := (hrec x (hmem x hx)).1
    obtain ⟨e, he⟩ := Option.isSome_iff_exists.1 (ofpactToOpenflow11_isSome ha hl')
    exact ⟨ofpactIsInstruction_of_true (hact x hx), e, he, ofpactToOpenflow11_decodes ha hl' he⟩
  obtain ⟨es, hput, hes, hmap⟩ := s.put_eq hm (fun x hx => hfit x (hmem x hx)) hx
  -- The Centec build refuses write-metadata and goto-table instructions.
  have hwm : s.writeMetadata.isSome → centec = false := fun h => by
    obtain ⟨w, hw⟩ := Option.isSome_iff_exists.1 h
    simpa [Dialect.loses] using hl ⟨.writeMetadata w.1 w.2, .actionInvalid⟩
      (by simp [InstructionSet.records, InstructionSet.instructionRecords, hw])
  have hg : s.gotoTable.isSome → centec = false := fun h => by
    obtain ⟨t, ht⟩ := Option.isSome_iff_exists.1 h
    simpa [Dialect.loses] using hl ⟨.gotoTable t, .actionInvalid⟩
      (by simp [InstructionSet.records, InstructionSet.instructionRecords, ht])
  have hxs : s.actions = es.flatMap fun e => (ofpactFromOpenflow11 co centec e).1 := by
    rw [hmap]
    exact (map_compat_eq_self fun x hx => (hrec x (hmem x hx)).2).symm
  exact ⟨_, hput, fun hlen => s.pull_wire hco hm hwm hg hes hxs (InstructionSet.payload_lt hlen) hv prior⟩

end Encoders

/-! ## The laws -/

section Laws

variable {co : Collab} {centec : Bool}

/-- Translation between dialects keeps every record's body: what one pull
leaves, every encoder that loses none of its records writes as bytes that its
own pull reads back into records with the same bodies, provided that, for the
instructions, the bytes fit a 16-bit length. -/
theorem translate_keeps_bodies (hco : co.SubReadsRecord) (hfit : co.SubFits)
    (hsub : co.SubRoundTrip centec) (X Y : Dialect) {B : List UInt8} {len : Nat} {prior : Ofpbuf} {p : Pulled}
    (h : X.pull co centec B len prior = p) (hok : p.error = none)
    (hl : ∀ x ∈ p.ofpacts.ofpacts, Y.loses centec x = false) (prior' : Ofpbuf) :
    ∃ E, Y.put co centec p.ofpacts.ofpacts [] = some E ∧
      ((Y = .openflow11Instructions → E.length < 65536) →
        ∃ q, Y.pull co centec E E.length prior' = ⟨none, [], q⟩ ∧
          q.ofpacts.map Ofpact.body = p.ofpacts.ofpacts.map Ofpact.body) := by
  subst h
  have hA := Dialect.pull_image hco hsub X hok
  have hrec := hA.records
  have hF := Dialect.pull_fits hfit centec X B len prior
  cases Y
  · obtain ⟨E, hput, hpull⟩ :=
      openflow10_put_pull hco (fun x hx => ⟨(hrec x hx).1, hl x hx⟩) hF hA.1 prior'
    exact ⟨E, hput, fun _ => ⟨_, hpull, by simp [Function.comp_def]⟩⟩
  · obtain ⟨E, hput, hpull⟩ :=
      openflow11Actions_put_pull hco (fun x hx => ⟨(hrec x hx).1, hl x hx⟩) hF hA.1 prior'
    exact ⟨E, hput, fun _ => ⟨_, hpull, by simp [Function.comp_def]⟩⟩
  · obtain ⟨E, hput, hpull⟩ := openflow11Instructions_put_pull hco hA hF hl prior'
    exact ⟨E, hput, fun hlen => ⟨_, hpull (hlen rfl), by simp⟩⟩

/-- A 1.1 set-field record, read by a collaborator that keeps it as the body,
translated into an instruction list: the apply-actions instruction around it
reads back into the same body. -/
theorem translate_keeps_bodies_set_field :
    ∃ E, Dialect.openflow11Instructions.put (Collab.regLoadEcho false) false
        [⟨.sub .regLoad [0, 25, 0, 16, 0, 0, 16, 4, 0, 0, 0, 7, 0, 0, 0, 0], .ofpat11 .setField⟩]
        [] = some E ∧
      ((Dialect.openflow11Instructions = .openflow11Instructions → E.length < 65536) →
        ∃ q, Dialect.openflow11Instructions.pull (Collab.regLoadEcho false) false E E.length [] =
            ⟨none, [], q⟩ ∧
          q.ofpacts.map Ofpact.body =
            [.sub .regLoad [0, 25, 0, 16, 0, 0, 16, 4, 0, 0, 0, 7, 0, 0, 0, 0]]) :=
  @translate_keeps_bodies (Collab.regLoadEcho false) false (Collab.regLoadEcho_subReadsRecord false)
    (Collab.regLoadEcho_subFits false) (Collab.regLoadEcho_subRoundTrip false) .openflow11Actions
    .openflow11Instructions [0, 25, 0, 16, 0, 0, 16, 4, 0, 0, 0, 7, 0, 0, 0, 0] 16 []
    ⟨none, [], [.ofpact ⟨.sub .regLoad [0, 25, 0, 16, 0, 0, 16, 4, 0, 0, 0, 7, 0, 0, 0, 0],
      .ofpat11 .setField⟩, .zeros 4]⟩ rfl rfl (by decide) []

/- The same record translated into a 1.0 list: `ofpact_to_nxast` writes it as
the set-field record again, which the 1.0 pull refuses. -/
example :
    ofpactsPutOpenflow10 (Collab.regLoadEcho false) false
        [⟨.sub .regLoad [0, 25, 0, 16, 0, 0, 16, 4, 0, 0, 0, 7, 0, 0, 0, 0], .ofpat11 .setField⟩] [] =
        some [0, 25, 0, 16, 0, 0, 16, 4, 0, 0, 0, 7, 0, 0, 0, 0] ∧
      (ofpactsPullOpenflow10 (Collab.regLoadEcho false) false
        [0, 25, 0, 16, 0, 0, 16, 4, 0, 0, 0, 7, 0, 0, 0, 0] 16 []).error = some .ofpbacBadType :=
  ⟨rfl, rfl⟩

/-- A 1.0 enqueue translated to a 1.1 action list: `ofpact_to_openflow11` writes
nothing for it, and the list comes back empty. -/
theorem enqueue_translated_to_nothing :
    ofpactsPullOpenflow10 Collab.rejectAll false
        [0, 11, 0, 16, 0, 1, 0, 0, 0, 0, 0, 0, 0, 0, 0, 7] 16 [] =
      ⟨none, [], [.ofpact ⟨.enqueue 1 7, .actionInvalid⟩, .zeros 4]⟩ ∧
    ofpactsPutOpenflow11Actions Collab.rejectAll false [⟨.enqueue 1 7, .actionInvalid⟩] [] =
      some [] ∧
    ofpactsPullOpenflow11Actions Collab.rejectAll false [] 0 [] = ⟨none, [], []⟩ :=
  ⟨rfl, rfl, rfl⟩

/-- Decoding, encoding and decoding again gives back the buffer of the first
decoding, byte for byte, if it holds no record its dialect's encoder loses and,
for the instructions, the bytes fit a 16-bit length; except that in the Centec
build an instruction pull that padded after its last record can give it back
unpadded. -/
theorem decode_encode_decode (hco : co.SubReadsRecord) (hfit : co.SubFits)
    (hsub : co.SubRoundTrip centec) (d : Dialect) {B : List UInt8} {len : Nat} {prior : Ofpbuf} {p : Pulled}
    (h : d.pull co centec B len prior = p) (hok : p.error = none)
    (hl : ∀ x ∈ p.ofpacts.ofpacts, d.loses centec x = false) (prior' : Ofpbuf) :
    ∃ E, d.put co centec p.ofpacts.ofpacts [] = some E ∧
      ((d = .openflow11Instructions → E.length < 65536) →
        ∃ q, d.pull co centec E E.length prior' = ⟨none, [], q⟩ ∧
          (q = p.ofpacts ∨
            (d = .openflow11Instructions ∧ centec = true ∧ p.ofpacts = ofpactPad q))) := by
  cases d
  · obtain ⟨E, hput, hpull⟩ := openflow10_decode_encode_decode hco hfit hsub h hok prior'
    exact ⟨E, hput, fun _ => ⟨_, hpull, .inl rfl⟩⟩
  · obtain ⟨E, hput, hpull⟩ :=
      openflow11Actions_decode_encode_decode hco hfit hsub h hok hl prior'
    exact ⟨E, hput, fun _ => ⟨_, hpull, .inl rfl⟩⟩
  · subst h
    obtain ⟨E, hput, hpull⟩ := openflow11Instructions_put_pull hco
      (Dialect.pull_image hco hsub _ hok) (Dialect.pull_fits hfit centec _ B len prior) hl prior'
    refine ⟨E, hput, fun hlen => ⟨_, hpull (hlen rfl), ?_⟩⟩
    obtain ⟨ins, out, hw, ho, -, hp⟩ :=
      @ofpactsPullOpenflow11Instructions_wire co centec hco B len prior hok
    have hp' : (Dialect.openflow11Instructions.pull co centec B len prior).ofpacts = out := hp
    rw [hp', ofpactPad_instructionLayout]
    rcases ofpactsFromInstructions_layout hco hw ho with h' | ⟨hc, -, h'⟩
    · exact .inl h'.symm
    · exact .inr ⟨rfl, hc, h'⟩

/-- A Nicira `reg_load`, read by a collaborator that keeps the record as the
body and writes it back. -/
theorem decode_encode_decode_reg_load :
    ∃ E, Dialect.openflow10.put (Collab.regLoadEcho false) false
        [⟨.sub .regLoad [255, 255, 0, 24, 0, 0, 35, 32, 0, 7, 0, 31, 0, 1, 0, 4, 0, 0, 0, 0, 0, 0,
          0, 5], .actionInvalid⟩] [] = some E ∧
      ((Dialect.openflow10 = .openflow11Instructions → E.length < 65536) →
        ∃ q, Dialect.openflow10.pull (Collab.regLoadEcho false) false E E.length [] = ⟨none, [], q⟩ ∧
          (q = [.ofpact ⟨.sub .regLoad [255, 255, 0, 24, 0, 0, 35, 32, 0, 7, 0, 31, 0, 1, 0, 4, 0, 0,
              0, 0, 0, 0, 0, 5], .actionInvalid⟩, .zeros 4] ∨
            (Dialect.openflow10 = .openflow11Instructions ∧ false = true ∧
              [.ofpact ⟨.sub .regLoad [255, 255, 0, 24, 0, 0, 35, 32, 0, 7, 0, 31, 0, 1, 0, 4, 0, 0,
                0, 0, 0, 0, 0, 5], .actionInvalid⟩, .zeros 4] = ofpactPad q))) :=
  @decode_encode_decode (Collab.regLoadEcho false) false (Collab.regLoadEcho_subReadsRecord false)
    (Collab.regLoadEcho_subFits false) (Collab.regLoadEcho_subRoundTrip false) .openflow10
    [255, 255, 0, 24, 0, 0, 35, 32, 0, 7, 0, 31, 0, 1, 0, 4, 0, 0, 0, 0, 0, 0, 0, 5] 24 []
    ⟨none, [], [.ofpact ⟨.sub .regLoad [255, 255, 0, 24, 0, 0, 35, 32, 0, 7, 0, 31, 0, 1, 0, 4, 0, 0,
      0, 0, 0, 0, 0, 5], .actionInvalid⟩, .zeros 4]⟩ rfl rfl (by decide) []

/- The Centec exception: clear-actions and an empty write-actions leave the
clear-actions record padded; written back, they are the clear-actions
instruction alone, which the pull leaves unpadded. -/
example :
    ofpactsPullOpenflow11Instructions Collab.rejectAll true
        [0, 5, 0, 8, 0, 0, 0, 0, 0, 3, 0, 8, 0, 0, 0, 0] 16 [] =
      ⟨none, [], [.ofpact ⟨.clearActions, .actionInvalid⟩, .zeros 4]⟩ ∧
    ofpactsPutOpenflow11Instructions Collab.rejectAll true [⟨.clearActions, .actionInvalid⟩] [] =
      some [0, 5, 0, 8, 0, 0, 0, 0] ∧
    ofpactsPullOpenflow11Instructions Collab.rejectAll true [0, 5, 0, 8, 0, 0, 0, 0] 8 [] =
      ⟨none, [], [.ofpact ⟨.clearActions, .actionInvalid⟩]⟩ :=
  ⟨rfl, rfl, rfl⟩

/-- A Nicira write-metadata in a 1.1 action list: `ofpact_to_openflow11` writes
nothing for it, and the list comes back empty. -/
theorem write_metadata_action_lost :
    ofpactsPullOpenflow11Actions Collab.rejectAll false
        [0xff, 0xff, 0, 32, 0, 0, 0x23, 0x20, 0, 22, 0, 0, 0, 0, 0, 0,
          0, 0, 0, 0, 0, 0, 0, 1, 0xff, 0xff, 0xff, 0xff, 0xff, 0xff, 0xff, 0xff] 32 [] =
      ⟨none, [], [.ofpact ⟨.writeMetadata 1 0xffffffffffffffff, .actionInvalid⟩]⟩ ∧
    ofpactsPutOpenflow11Actions Collab.rejectAll false
        [⟨.writeMetadata 1 0xffffffffffffffff, .actionInvalid⟩] [] = some [] ∧
    ofpactsPullOpenflow11Actions Collab.rejectAll false [] 0 [] = ⟨none, [], []⟩ :=
  ⟨rfl, rfl, rfl⟩

end Laws

/-! ## Clear-actions next to the Centec write-actions -/

/-- In the Centec build, a clear-actions instruction next to a write-actions
instruction around one output is refused: the pull puts the write-actions
records after clear-actions, and `ofpacts_verify` takes them for apply-actions
records. The embedded list is one the 1.1 action pull accepts. -/
theorem clear_then_write_actions_refused :
    (ofpactsPullOpenflow11Instructions Collab.rejectAll true
        ([0, 5, 0, 8, 0, 0, 0, 0] ++ [0, 3, 0, 24, 0, 0, 0, 0] ++
          [0, 0, 0, 16, 0, 0, 0, 1, 0, 0, 0, 0, 0, 0, 0, 0]) 32 []).error =
        some .ofpbacUnsupportedOrder ∧
      (ofpactsPullOpenflow11Actions Collab.rejectAll true
        [0, 0, 0, 16, 0, 0, 0, 1, 0, 0, 0, 0, 0, 0, 0, 0] 16 []).error = none :=
  ⟨rfl, rfl⟩

end OfpActions
