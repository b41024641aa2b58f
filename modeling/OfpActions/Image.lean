import OfpActions.RoundTrip

/-!
# Image — what the decoders put

The other half of the round trips, `RoundTrip` being the first: every record
a decoder puts for a wire record it accepts is admitted (`Ofpact.Admitted`),
and carries the `compat` that names the form its encoder writes it in
(`Ofpact.nxCompat`, `Ofpact.compat11`). The two halves meet in
`ofpactFromOpenflow10_reencodes` and `ofpactFromOpenflow11_reencodes`: a
decoded record is written back as one wire record that decodes to it.

The 1.0 decoder puts nothing its encoder loses. The 1.1 decoder puts a
Nicira write-metadata, which the 1.1 action encoder drops, and without
`_OFP_CENTEC_` two push-VLAN records for one (`push_vlan_decodes_twice`).

A sub-codec's records are beyond the core (spec §1): that they round trip is
the law `Collab.SubRoundTrip`, which `Collab.regLoadEcho`, a collaborator
that reads and writes `reg_load` and set-field records, meets.
-/

namespace OfpActions

/-- The sub-codecs' round trip: a body a sub-codec reads is one that its
encoder writes back as a record that the decoders read into the same body and
`compat` (`Collab.SubCarried`), and only the set-field sub-codec marks its body
set-field, as `ofpact_set_field_init` does. -/
def Collab.SubRoundTrip (co : Collab) (centec : Bool) : Prop :=
  ∀ code a t body compat, subTypeOf? code = some t →
    co.subFromOpenflow code a = .ok (body, compat) →
      (compat = .ofpat11 .setField → code = .ofpat11 .setField) ∧ co.SubCarried centec t body compat

theorem Collab.rejectAll_subRoundTrip (centec : Bool) : Collab.rejectAll.SubRoundTrip centec :=
  fun _ _ _ _ _ _ h => nomatch h

/-- A collaborator whose `reg_load` sub-codec keeps the Nicira record it is
handed as the body, and whose set-field sub-codec keeps its
`OFPAT12_SET_FIELD` record, marked set-field; both encoders write the body
back as it is. -/
def Collab.regLoadEcho (centec : Bool) : Collab where
  mfCheckSrc _ := none
  subFromOpenflow code a :=
    if IsWireRecord (recordAt a) then
      match code, decodeOpenflow11Action centec (recordAt a) with
      | .nxast .regLoad, .ok (.nxast .regLoad) => .ok (recordAt a, .actionInvalid)
      | .ofpat11 .setField, .ok (.ofpat11 .setField) => .ok (recordAt a, .ofpat11 .setField)
      | _, _ => .error .ofpbacBadArgument
    else .error .ofpbacBadArgument
  subToNxast _ body _ := body

@[simp] theorem Collab.regLoadEcho_subToNxast (centec : Bool) (t : SubType) (body : List UInt8)
    (compat : OfputilActionCode) : (Collab.regLoadEcho centec).subToNxast t body compat = body :=
  rfl

theorem recordAt_of_isWireRecord {r : List UInt8} (h : IsWireRecord r) : recordAt r = r := by
  rw [recordAt, h.1, List.take_length]

theorem recordAt_recordAt {a : List UInt8} (h : 4 ≤ getBE a 2 2) :
    recordAt (recordAt a) = recordAt a := by
  rw [recordAt, getBE_recordAt_len h, recordAt, List.take_take, min_self]

/-- A record is never longer than its `len`. -/
theorem le_len_of_isWireRecord_recordAt {a : List UInt8} (h : IsWireRecord (recordAt a)) :
    8 ≤ getBE a 2 2 :=
  Nat.le_trans h.2.2 (List.length_take_le _ _)

theorem Collab.regLoadEcho_subReadsRecord (centec : Bool) :
    (Collab.regLoadEcho centec).SubReadsRecord :=
  fun _ _ h8 => by simp only [Collab.regLoadEcho, recordAt_recordAt (Nat.le_trans (by decide) h8)]

theorem regLoadEcho_subFromOpenflow {centec : Bool} {code : OfputilActionCode}
    {a body : List UInt8} {compat : OfputilActionCode}
    (h : (Collab.regLoadEcho centec).subFromOpenflow code a = .ok (body, compat)) :
    body = recordAt a ∧ IsWireRecord body ∧
      ((code = .nxast .regLoad ∧ compat = .actionInvalid ∧
          decodeOpenflow11Action centec body = .ok (.nxast .regLoad)) ∨
        (code = .ofpat11 .setField ∧ compat = .ofpat11 .setField ∧
          decodeOpenflow11Action centec body = .ok (.ofpat11 .setField))) := by
  simp only [Collab.regLoadEcho] at h
  split at h
  · split at h <;> simp only [Except.ok.injEq, Prod.mk.injEq, reduceCtorEq] at h <;>
      obtain ⟨rfl, rfl⟩ := h
    · exact ⟨rfl, ‹_›, .inl ⟨rfl, rfl, ‹_›⟩⟩
    · exact ⟨rfl, ‹_›, .inr ⟨rfl, rfl, ‹_›⟩⟩
  · cases h

/-- The echo collaborator's bodies are wire records, which fit their `len`. -/
theorem Collab.regLoadEcho_subFits (centec : Bool) : (Collab.regLoadEcho centec).SubFits := by
  intro code a body compat h
  obtain ⟨rfl, ⟨hlen, hm, -⟩, -⟩ := regLoadEcho_subFromOpenflow h
  have := getBE_lt (recordAt a) 2 2
  simp only [OFP_ACTION_ALIGN] at hm
  omega

/-- The echo collaborator reads back what it writes, so it meets the law with
bodies that are whole records. -/
theorem Collab.regLoadEcho_subRoundTrip (centec : Bool) :
    (Collab.regLoadEcho centec).SubRoundTrip centec := by
  intro code a t body compat ht h
  obtain ⟨rfl, hw, hc⟩ := regLoadEcho_subFromOpenflow h
  have hback : (Collab.regLoadEcho centec).subFromOpenflow code (recordAt a) =
      .ok (recordAt a, compat) :=
    (Collab.regLoadEcho_subReadsRecord centec code a (le_len_of_isWireRecord_recordAt hw)).trans h
  rcases hc with ⟨rfl, rfl, hd⟩ | ⟨rfl, rfl, hd⟩
  · obtain rfl : t = .regLoad := Option.some.inj ht.symm
    obtain ⟨c, hcode, -, h0, hn⟩ | ⟨c, hcode, h0, hn⟩ := decodeOpenflow11Action_ok hd
    · cases hcode
    · cases hcode
      refine ⟨nofun, ?_⟩
      simp only [Collab.SubCarried, reduceCtorEq, if_false, Collab.regLoadEcho_subToNxast]
      exact ⟨hw, h0, _, hn, by simp [ofpactFromNxast, OfpActions.subFromOpenflow, hback, putOne]⟩
  · obtain rfl : t = .regLoad := Option.some.inj ht.symm
    refine ⟨fun _ => rfl, ?_⟩
    simp only [Collab.SubCarried, if_true, Collab.regLoadEcho_subToNxast]
    exact ⟨hw, by simp [ofpactFromOpenflow11, hd, OfpActions.subFromOpenflow, hback, putOne]⟩

/-- A record as the Nicira and 1.0 decoders put it: admitted, kept by the 1.0
encoder, and with the `compat` that both encoders' choices name. -/
def NxImage (co : Collab) (centec : Bool) (x : Ofpact) : Prop :=
  x.Admitted co centec ∧ Dialect.openflow10.loses centec x = false ∧
    x.nxCompat = x.compat ∧ x.compat11 = x.compat

section Decoders

variable {co : Collab} {centec : Bool}

theorem putOne_eq_ok {body : OfpactBody} {compat : OfputilActionCode} {xs : List Ofpact}
    (h : putOne body compat = (xs, none)) : xs = [⟨body, compat⟩] := by
  simp only [putOne, Prod.mk.injEq, and_true] at h
  exact h.symm

/-- A sub-codec's record read from a Nicira record is one the Nicira decoders
keep: it is not marked set-field. -/
theorem sub_nxImage (hsub : co.SubRoundTrip centec) {c : Nxast} {t : SubType}
    (ht : subTypeOf? (.nxast c) = some t) {a body : List UInt8} {compat : OfputilActionCode}
    (hok : co.subFromOpenflow (.nxast c) a = .ok (body, compat)) :
    NxImage co centec ⟨.sub t body, compat⟩ := by
  obtain ⟨hc, hx⟩ := hsub _ a t body compat ht hok
  exact ⟨hx, beq_false_of_ne (fun h => nomatch hc h), rfl, rfl⟩

theorem subFromOpenflow_image (hsub : co.SubRoundTrip centec) {c : Nxast}
    {t : SubType} (ht : subTypeOf? (.nxast c) = some t) {a : List UInt8} {xs : List Ofpact}
    (h : subFromOpenflow co (.nxast c) t a = (xs, none)) : ∀ x ∈ xs, NxImage co centec x := by
  unfold subFromOpenflow at h
  split at h
  · rename_i body compat hok
    obtain rfl := putOne_eq_ok h
    exact List.forall_mem_singleton.2 (sub_nxImage hsub ht hok)
  · cases h

/-- A record read from the wide Nicira forms names that form itself: its field
values alone would have let the encoder choose the narrow one. -/
theorem nxCompat_setTunnel64 (tunId : UInt64) :
    Ofpact.nxCompat ⟨.setTunnel tunId, .nxast .setTunnel64⟩ = .nxast .setTunnel64 :=
  if_neg fun h => h.2 rfl

theorem nxCompat_resubmitTable (inPort : UInt16) (tableId : UInt8) :
    Ofpact.nxCompat ⟨.resubmit inPort tableId, .nxast .resubmitTable⟩ = .nxast .resubmitTable :=
  if_neg fun h => h.2 rfl

/-- Every record `ofpact_from_nxast` puts for a wire record it accepts. -/
theorem ofpactFromNxast_image (hsub : co.SubRoundTrip centec) {r : List UInt8}
    (hr : IsWireRecord r) {c : Nxast} (hc : decodeNxastAction centec r = .ok c) {xs : List Ofpact}
    (h : ofpactFromNxast co r c = (xs, none)) : ∀ x ∈ xs, NxImage co centec x := by
  obtain ⟨hlen, hm, -⟩ := hr
  have hlt : r.length < 65536 := hlen ▸ getBE_lt r 2 2
  simp only [OFP_ACTION_ALIGN] at hm
  cases c
  case regMove | regLoad | bundle | bundleLoad | learn => exact subFromOpenflow_image hsub (by rfl) h
  case multipath =>
    simp only [ofpactFromNxast, multipathFromOpenflow] at h
    split at h
    · rename_i body compat hok
      obtain rfl := putOne_eq_ok h
      exact List.forall_mem_singleton.2 (sub_nxImage hsub (by rfl) hok)
    · cases h
  case setTunnel =>
    obtain rfl := putOne_eq_ok h
    have hv : (UInt64.ofNat (getBE r 12 4)).toNat < 4294967296 := by
      have := getBE_lt r 12 4
      show getBE r 12 4 % 2 ^ 64 < 2 ^ 32
      omega
    have hc : Ofpact.nxCompat ⟨.setTunnel (UInt64.ofNat (getBE r 12 4)), .nxast .setTunnel⟩ =
        .nxast .setTunnel := if_pos ⟨hv, nofun⟩
    exact List.forall_mem_singleton.2 ⟨trivial, rfl, hc, hc⟩
  case note =>
    have h16 := decodeNxastAction_size hc
    obtain rfl := putOne_eq_ok h
    simp only [Nxast.size] at h16
    refine List.forall_mem_singleton.2 ⟨?_, rfl, rfl, rfl⟩
    show (10 + (rdBytes r 10 (getBE r 2 2 - 10)).length) % 8 = 0 ∧ _
    rw [rdBytes_length]
    omega
  case outputReg =>
    simp only [ofpactFromNxast, outputRegFromOpenflow] at h
    split at h
    · cases h
    · simp only [Prod.mk.injEq] at h
      obtain ⟨rfl, hsrc⟩ := h
      have hx := getBE_lt r 10 2
      have hb : getBE r 10 2 &&& 0x3f ≤ 0x3f := Nat.and_le_right
      simp only [List.mem_singleton, forall_eq]
      refine ⟨⟨?_, by simp [nxmDecodeNBits], ?_, hsrc⟩, rfl, rfl, rfl⟩
      · simp only [nxmDecodeOfs, Nat.shiftRight_eq_div_pow]
        omega
      · simp only [nxmDecodeNBits]
        omega
  case decTtlCntIds =>
    simp only [ofpactFromNxast, decTtlCntIdsFromOpenflow] at h
    split at h
    · cases h
    split at h
    · cases h
    rename_i hn
    obtain rfl := putOne_eq_ok h
    refine List.forall_mem_singleton.2 ⟨⟨?_, nofun⟩, rfl, rfl, if_neg fun h => h.2.elim nofun nofun⟩
    rw [List.length_map, List.length_range]
    omega
  case pushMpls | popMpls =>
    simp only [ofpactFromNxast] at h
    split at h
    · cases h
    · rename_i he
      obtain rfl := putOne_eq_ok h
      refine List.forall_mem_singleton.2 ⟨.inr ?_, ?_, rfl, rfl⟩ <;> simpa [Dialect.loses] using he
  case pushL2 | popL2 =>
    have hb := (decodeNxastAction_ok hc).2.1
    obtain rfl := putOne_eq_ok h
    exact List.forall_mem_singleton.2 ⟨by simpa [Nxast.inBuild] using hb, rfl, rfl, rfl⟩
  case setTunnel64 =>
    obtain rfl := putOne_eq_ok h
    exact List.forall_mem_singleton.2
      ⟨trivial, rfl, nxCompat_setTunnel64 (rd64 r 16), nxCompat_setTunnel64 (rd64 r 16)⟩
  case resubmitTable =>
    simp only [ofpactFromNxast, resubmitTableFromOpenflow] at h
    split at h
    · cases h
    obtain rfl := putOne_eq_ok h
    exact List.forall_mem_singleton.2
      ⟨trivial, rfl, nxCompat_resubmitTable (rd16 r 10) (rd8 r 12),
        nxCompat_resubmitTable (rd16 r 10) (rd8 r 12)⟩
  case decTtl =>
    obtain rfl := putOne_eq_ok h
    exact List.forall_mem_singleton.2 ⟨⟨by decide, fun _ => rfl⟩, rfl, rfl, rfl⟩
  all_goals
    simp only [ofpactFromNxast, resubmitFromOpenflow, metadataFromNxast] at h
    try split at h
    all_goals first
      | obtain rfl := putOne_eq_ok h
        exact List.forall_mem_singleton.2 ⟨trivial, rfl, rfl, rfl⟩
      | cases h

/-- Every record `ofpact_from_openflow10` puts for a wire record it accepts. -/
theorem ofpactFromOpenflow10_image (hsub : co.SubRoundTrip centec) {r : List UInt8}
    (hr : IsWireRecord r) {xs : List Ofpact} (h : ofpactFromOpenflow10 co centec r = (xs, none)) :
    ∀ x ∈ xs, NxImage co centec x := by
  unfold ofpactFromOpenflow10 at h
  rcases hd : decodeOpenflow10Action centec r with e | code <;> simp only [hd] at h
  · cases h
  rcases decodeOpenflow10Action_ok hd with ⟨c, rfl, -⟩ | ⟨c, rfl, -, hc⟩
  · cases c
    case output =>
      simp only [outputFromOpenflow10, Prod.mk.injEq] at h
      obtain ⟨rfl, hp⟩ := h
      exact List.forall_mem_singleton.2 ⟨hp, rfl, rfl, rfl⟩
    case enqueue =>
      simp only [enqueueFromOpenflow10, Prod.mk.injEq] at h
      obtain ⟨rfl, hp⟩ := h
      simp only [List.mem_singleton, forall_eq]
      refine ⟨?_, rfl, rfl, rfl⟩
      split at hp
      · cases hp
      · rename_i hq
        show _ < _ ∨ _
        by_cases h1 : (rd16 r 4).toNat < OFPP_MAX
        · exact .inl h1
        · by_cases h2 : rd16 r 4 = OFPP_IN_PORT
          · exact .inr (.inl h2)
          · exact .inr (.inr (by by_contra h3; exact hq ⟨by omega, h2, h3⟩))
    case setVlanVid | setVlanPcp | setNwTos =>
      simp only [setVlanVidFromOpenflow, setVlanPcpFromOpenflow, setNwTosFromOpenflow] at h
      split at h
      · cases h
      · rename_i hv
        obtain rfl := putOne_eq_ok h
        exact List.forall_mem_singleton.2 ⟨of_not_not hv, rfl, rfl, rfl⟩
    all_goals
      obtain rfl := putOne_eq_ok h
      exact List.forall_mem_singleton.2 ⟨trivial, rfl, rfl, rfl⟩
  · exact ofpactFromNxast_image hsub hr hc h

/-- Every record `ofpact_from_openflow11` puts for a wire record it accepts is
admitted and carries the `compat` that `ofpact_to_openflow11`'s choice names. -/
theorem ofpactFromOpenflow11_image (hsub : co.SubRoundTrip centec) {r : List UInt8}
    (hr : IsWireRecord r) {xs : List Ofpact} (h : ofpactFromOpenflow11 co centec r = (xs, none)) :
    ∀ x ∈ xs, x.Admitted co centec ∧ x.compat11 = x.compat := by
  unfold ofpactFromOpenflow11 at h
  rcases hd : decodeOpenflow11Action centec r with e | code <;> simp only [hd] at h
  · cases h
  rcases decodeOpenflow11Action_ok hd with ⟨c, rfl, hb, -⟩ | ⟨c, rfl, -, hc⟩
  · cases c
    case output =>
      simp only [outputFromOpenflow11] at h
      split at h
      · cases h
      · simp only [Prod.mk.injEq] at h
        obtain ⟨rfl, hp⟩ := h
        exact List.forall_mem_singleton.2 ⟨hp, rfl⟩
    case setField =>
      simp only [subFromOpenflow] at h
      split at h
      · rename_i body compat hok
        obtain rfl := putOne_eq_ok h
        exact List.forall_mem_singleton.2 ⟨(hsub _ r _ body compat (by rfl) hok).2, rfl⟩
      · cases h
    case pushVlan =>
      simp only [pushVlanFromOpenflow11] at h
      split at h
      · obtain rfl := putOne_eq_ok h
        exact List.forall_mem_singleton.2 ⟨trivial, rfl⟩
      · split at h
        · cases h
        · simp only [Prod.mk.injEq] at h
          obtain ⟨rfl, -⟩ := h
          exact List.forall_mem_cons.2 ⟨⟨trivial, rfl⟩, List.forall_mem_singleton.2 ⟨trivial, rfl⟩⟩
    case group | setMplsTtl =>
      obtain rfl := putOne_eq_ok h
      exact List.forall_mem_singleton.2 ⟨by simpa [Ofpat11.inBuild] using hb, rfl⟩
    case pushMpls | popMpls =>
      dsimp only at h
      split at h
      · cases h
      · obtain rfl := putOne_eq_ok h
        simp only [List.mem_singleton, forall_eq]
        refine ⟨?_, rfl⟩
        cases centec <;> simp_all [Ofpact.Admitted]
    case setVlanVid | setVlanPcp | setNwTos =>
      simp only [setVlanVidFromOpenflow, setVlanPcpFromOpenflow, setNwTosFromOpenflow] at h
      split at h
      · cases h
      · rename_i hv
        obtain rfl := putOne_eq_ok h
        exact List.forall_mem_singleton.2 ⟨of_not_not hv, rfl⟩
    case decNwTtl =>
      obtain rfl := putOne_eq_ok h
      exact List.forall_mem_singleton.2 ⟨⟨by decide, nofun⟩, rfl⟩
    all_goals
      obtain rfl := putOne_eq_ok h
      exact List.forall_mem_singleton.2 ⟨trivial, rfl⟩
  · intro x hx
    obtain ⟨ha, -, -, hc⟩ := ofpactFromNxast_image hsub hr hc h x hx
    exact ⟨ha, hc⟩

/-- Of the kinds the 1.1 instruction encoder writes as their own instruction,
the Nicira decoder puts only write-metadata. -/
theorem ofpactFromNxast_kinds (co : Collab) (a : List UInt8) (c : Nxast) :
    ∀ x ∈ (ofpactFromNxast co a c).1, ofpactIsInstruction true x = true →
      ∃ md mask, x.body = .writeMetadata md mask := by
  cases c <;> simp only [ofpactFromNxast, resubmitFromOpenflow, resubmitTableFromOpenflow,
      metadataFromNxast, noteFromOpenflow, decTtlFromOpenflow, decTtlCntIdsFromOpenflow,
      outputRegFromOpenflow, multipathFromOpenflow, subFromOpenflow, putOne] <;>
    (repeat' split) <;>
    first
    | exact fun _ h => absurd h (List.not_mem_nil _)
    | exact List.forall_mem_singleton.2 fun _ => ⟨_, _, rfl⟩
    | exact List.forall_mem_singleton.2 nofun

/-- The same holds of the 1.0 action decoder. -/
theorem ofpactFromOpenflow10_kinds (co : Collab) (centec : Bool) (r : List UInt8) :
    ∀ x ∈ (ofpactFromOpenflow10 co centec r).1, ofpactIsInstruction true x = true →
      ∃ md mask, x.body = .writeMetadata md mask := by
  unfold ofpactFromOpenflow10
  split
  · simp
  · rename_i c _
    cases c <;> simp only [outputFromOpenflow10, enqueueFromOpenflow10, setVlanVidFromOpenflow,
      setVlanPcpFromOpenflow, setNwTosFromOpenflow, putOne] <;>
      (repeat' split) <;>
      first
      | exact fun _ h => absurd h (List.not_mem_nil _)
      | exact List.forall_mem_singleton.2 fun _ => ⟨_, _, rfl⟩
      | exact List.forall_mem_singleton.2 nofun
  · exact ofpactFromNxast_kinds co r _
  · simp

/-- The same holds of the 1.1 action decoder. -/
theorem ofpactFromOpenflow11_kinds (co : Collab) (centec : Bool) (r : List UInt8) :
    ∀ x ∈ (ofpactFromOpenflow11 co centec r).1, ofpactIsInstruction true x = true →
      ∃ md mask, x.body = .writeMetadata md mask := by
  unfold ofpactFromOpenflow11
  split
  · simp
  · rename_i c _
    cases c <;> simp only [outputFromOpenflow11, setVlanVidFromOpenflow, setVlanPcpFromOpenflow,
      pushVlanFromOpenflow11, setNwTosFromOpenflow, decTtlFromOpenflow, subFromOpenflow, putOne] <;>
      (repeat' split) <;>
      first
      | exact fun _ h => absurd h (List.not_mem_nil _)
      | exact List.forall_mem_singleton.2 fun _ => ⟨_, _, rfl⟩
      | exact List.forall_mem_singleton.2 nofun
      | exact List.forall_mem_cons.2 ⟨nofun, List.forall_mem_singleton.2 nofun⟩
  · exact ofpactFromNxast_kinds co r _
  · simp

end Decoders

/-! ## Written back -/

section Reencode

variable {co : Collab} {centec : Bool}

/-- `ofpact_to_openflow10` reaches no `NOT_REACHED` on an admitted record it
keeps. -/
theorem ofpactToOpenflow10_isSome {x : Ofpact} (hx : x.Admitted co centec)
    (hl : Dialect.openflow10.loses centec x = false) : (ofpactToOpenflow10 co centec x).isSome := by
  rcases x with ⟨b, compat⟩
  cases b <;> simp_all [ofpactToOpenflow10, ofpactToNxast, Dialect.loses, Ofpact.Admitted]

theorem ofpactToOpenflow11_isSome {x : Ofpact} (hx : x.Admitted co centec)
    (hl : Dialect.openflow11Actions.loses centec x = false) :
    (ofpactToOpenflow11 co centec x).isSome := by
  rcases x with ⟨b, compat⟩
  cases b <;> simp_all [ofpactToOpenflow11, ofpactToNxast, Dialect.loses, Ofpact.Admitted]

/-- Every record the 1.0 decoder puts for a wire record is written back by
`ofpact_to_openflow10` as one wire record that decodes to it. -/
theorem ofpactFromOpenflow10_reencodes (hsub : co.SubRoundTrip centec) {r : List UInt8}
    (hr : IsWireRecord r) {xs : List Ofpact} (h : ofpactFromOpenflow10 co centec r = (xs, none)) :
    ∀ x ∈ xs, ∃ e, ofpactToOpenflow10 co centec x = some e ∧ IsWireRecord e ∧
      ofpactFromOpenflow10 co centec e = ([x], none) := by
  intro x hx
  obtain ⟨ha, hl, hc, -⟩ := ofpactFromOpenflow10_image hsub hr h x hx
  obtain ⟨e, he⟩ := Option.isSome_iff_exists.1 (ofpactToOpenflow10_isSome ha hl)
  obtain ⟨hw, hd⟩ := ofpactToOpenflow10_decodes ha hl he
  exact ⟨e, he, hw, by rw [hd, hc]⟩

/-- So is every record the 1.1 decoder puts that the 1.1 action encoder keeps. -/
theorem ofpactFromOpenflow11_reencodes (hsub : co.SubRoundTrip centec) {r : List UInt8}
    (hr : IsWireRecord r) {xs : List Ofpact} (h : ofpactFromOpenflow11 co centec r = (xs, none)) :
    ∀ x ∈ xs, Dialect.openflow11Actions.loses centec x = false → ∃ e,
      ofpactToOpenflow11 co centec x = some e ∧ IsWireRecord e ∧
        ofpactFromOpenflow11 co centec e = ([x], none) := by
  intro x hx hl
  obtain ⟨ha, hc⟩ := ofpactFromOpenflow11_image hsub hr h x hx
  obtain ⟨e, he⟩ := Option.isSome_iff_exists.1 (ofpactToOpenflow11_isSome ha hl)
  obtain ⟨hw, hd⟩ := ofpactToOpenflow11_decodes ha hl he
  exact ⟨e, he, hw, by rw [hd, hc]⟩

end Reencode

end OfpActions
