import OfpActions.Buffer

/-!
# Records — decoding a list is decoding each record

Spec §4.D decodes an action list record by record. With `Walk` and
`Locality`, a buffer made of wire records that each decode is decoded into
the records each one decodes to, in order, whatever follows the records in
the buffer (`ofpactsFromOpenflow_flatten`): decoding commutes with
concatenation.

Each 1.0 record decodes to exactly one internal record, and so does each 1.1
record in the `_OFP_CENTEC_` build. The other build decodes a 1.1 push-VLAN
action into two records (`push_vlan_decodes_twice`): its `#ifndef`
branch puts a record after the 802.1Q check, and the line after `#endif`,
meant for both builds, puts another.
-/

namespace OfpActions

/-- A buffer of wire records is decoded record by record, and what follows
the records is never read. -/
theorem ofpactsFromOpenflow_flatten {f : List UInt8 → Decoded} (hf : ReadsRecord f)
    {rs : List (List UInt8)} (hrs : ∀ r ∈ rs, IsWireRecord r) (hok : ∀ r ∈ rs, (f r).2 = none)
    (rest : List UInt8) {fuel : Nat} (hfuel : rs.flatten.length / 8 ≤ fuel) (out : Ofpbuf) :
    ofpactsFromOpenflow f fuel (rs.flatten ++ rest) (rs.flatten.length / 8) out =
      (ofpactPad (ofpactPutAll out (rs.flatMap fun r => (f r).1)), none) := by
  obtain ⟨hps, hrem⟩ := forEachPointers_flatten hrs rest hfuel
  have hv : ∀ p ∈ (forEachPointers fuel (rs.flatten ++ rest) (rs.flatten.length / 8)).1,
      8 ≤ getBE p 2 2 := fun p hp => (forEachPointers_valid hp).2
  rw [ofpactsFromOpenflow_eq, hrem, ← decodeAt_recordAt hf hv, hps, decodeAt_of_ok hok]
  rfl

/-- A buffer of wire records that decodes without error decodes each of its
records without error. -/
theorem ofpactsFromOpenflow_flatten_ok {f : List UInt8 → Decoded} (hf : ReadsRecord f)
    {rs : List (List UInt8)} (hrs : ∀ r ∈ rs, IsWireRecord r) (rest : List UInt8) {out : Ofpbuf}
    (h : (ofpactsFromOpenflow f (rs.flatten.length / 8) (rs.flatten ++ rest)
      (rs.flatten.length / 8) out).2 = none) : ∀ r ∈ rs, (f r).2 = none := by
  obtain ⟨hps, -⟩ := forEachPointers_flatten hrs rest (Nat.le_refl (rs.flatten.length / 8))
  rw [ofpactsFromOpenflow_eq] at h
  intro r hr
  rw [← hps, List.mem_map] at hr
  obtain ⟨p, hp, rfl⟩ := hr
  rw [hf p (forEachPointers_valid hp).2]
  exact (decodeAt_eq_none h).1 p hp

/-- A Nicira record is decoded by `ofpact_from_nxast` in both dialects. -/
theorem ofpactFromOpenflow10_nxast (co : Collab) {centec : Bool} {r : List UInt8} {c : Nxast}
    (h0 : getBE r 0 2 = OFPAT10_VENDOR) (hc : decodeNxastAction centec r = .ok c) :
    ofpactFromOpenflow10 co centec r = ofpactFromNxast co r c := by
  simp [ofpactFromOpenflow10, decodeOpenflow10Action, h0, hc, Except.map]

theorem ofpactFromOpenflow11_nxast (co : Collab) {centec : Bool} {r : List UInt8} {c : Nxast}
    (h0 : getBE r 0 2 = OFPAT10_VENDOR) (hc : decodeNxastAction centec r = .ok c) :
    ofpactFromOpenflow11 co centec r = ofpactFromNxast co r c := by
  simp [ofpactFromOpenflow11, decodeOpenflow11Action, h0, hc, Except.map]

/-- A decoder that puts exactly one record whenever it succeeds. -/
def PutsOne (d : Decoded) : Prop := d.2 = none → ∃ x, d.1 = [x]

theorem putsOne_putOne (body : OfpactBody) (compat : OfputilActionCode) :
    PutsOne (putOne body compat) := fun _ => ⟨_, rfl⟩

theorem putsOne_error {recs : List Ofpact} {e : Ofperr} : PutsOne (recs, some e) :=
  fun h => nomatch h

theorem putsOne_ite {p : Prop} [Decidable p] {d d' : Decoded} (h : PutsOne d) (h' : PutsOne d') :
    PutsOne (if p then d else d') := by
  split
  exacts [h, h']

theorem subFromOpenflow_putsOne (co : Collab) (code : OfputilActionCode) (t : SubType)
    (a : List UInt8) : PutsOne (subFromOpenflow co code t a) := by
  unfold subFromOpenflow
  split
  exacts [putsOne_putOne _ _, putsOne_error]

theorem ofpactFromNxast_putsOne (co : Collab) (a : List UInt8) (c : Nxast) :
    PutsOne (ofpactFromNxast co a c) := by
  cases c
  case regMove | regLoad | bundle | bundleLoad | learn => exact subFromOpenflow_putsOne co _ _ a
  case multipath =>
    simp only [ofpactFromNxast, multipathFromOpenflow]
    split
    exacts [putsOne_putOne _ _, putsOne_error]
  case outputReg =>
    simp only [ofpactFromNxast, outputRegFromOpenflow]
    exact putsOne_ite putsOne_error fun _ => ⟨_, rfl⟩
  case decTtlCntIds =>
    simp only [ofpactFromNxast, decTtlCntIdsFromOpenflow]
    exact putsOne_ite putsOne_error (putsOne_ite putsOne_error (putsOne_putOne _ _))
  all_goals
    simp only [ofpactFromNxast, resubmitFromOpenflow, resubmitTableFromOpenflow, metadataFromNxast,
      noteFromOpenflow, decTtlFromOpenflow]
    first
    | exact putsOne_putOne _ _
    | exact putsOne_ite putsOne_error (putsOne_putOne _ _)

/-- Every 1.0 record that decodes puts exactly one internal record. -/
theorem ofpactFromOpenflow10_putsOne (co : Collab) (centec : Bool) (a : List UInt8) :
    PutsOne (ofpactFromOpenflow10 co centec a) := by
  unfold ofpactFromOpenflow10
  rcases hd : decodeOpenflow10Action centec a with e | code
  · exact putsOne_error
  rcases decodeOpenflow10Action_ok hd with ⟨c, rfl, -, -⟩ | ⟨c, rfl, -, -⟩
  · dsimp only
    cases c
    case output | enqueue => exact fun _ => ⟨_, rfl⟩
    all_goals
      simp only [setVlanVidFromOpenflow, setVlanPcpFromOpenflow, setNwTosFromOpenflow]
      first
      | exact putsOne_putOne _ _
      | exact putsOne_ite putsOne_error (putsOne_putOne _ _)
  · exact ofpactFromNxast_putsOne co a c

/-- So does every 1.1 record in the `_OFP_CENTEC_` build, and every 1.1 record
but push-VLAN in the other. -/
theorem ofpactFromOpenflow11_putsOne (co : Collab) (centec : Bool) (a : List UInt8)
    (h : centec ∨ decodeOpenflow11Action centec a ≠ .ok (.ofpat11 .pushVlan)) :
    PutsOne (ofpactFromOpenflow11 co centec a) := by
  unfold ofpactFromOpenflow11
  rcases hd : decodeOpenflow11Action centec a with e | code
  · exact putsOne_error
  rcases decodeOpenflow11Action_ok hd with ⟨c, rfl, -, -, -⟩ | ⟨c, rfl, -, -⟩
  · dsimp only
    cases c
    case output =>
      simp only [outputFromOpenflow11]
      split
      exacts [putsOne_error, fun _ => ⟨_, rfl⟩]
    case setField => exact subFromOpenflow_putsOne co _ _ a
    case pushVlan =>
      rcases h with h | h
      · simp [pushVlanFromOpenflow11, h, putsOne_putOne]
      · exact absurd hd h
    all_goals
      simp only [setVlanVidFromOpenflow, setVlanPcpFromOpenflow, setNwTosFromOpenflow,
        decTtlFromOpenflow]
      first
      | exact putsOne_putOne _ _
      | exact putsOne_ite putsOne_error (putsOne_putOne _ _)
  · exact ofpactFromNxast_putsOne co a c

/-- In the `_OFP_CENTEC_` build, the 1.1 push-VLAN action for 802.1Q puts one
record. -/
theorem ofpactFromOpenflow11_putsOne_pushVlan :
    (true = true ∨
        decodeOpenflow11Action true [0, 17, 0, 8, 0x81, 0, 0, 0] ≠ .ok (.ofpat11 .pushVlan)) ∧
      PutsOne (ofpactFromOpenflow11 Collab.rejectAll true [0, 17, 0, 8, 0x81, 0, 0, 0]) :=
  ⟨.inl rfl, ofpactFromOpenflow11_putsOne Collab.rejectAll true _ (.inl rfl)⟩

/-- Without `_OFP_CENTEC_`, a 1.1 push-VLAN action for 802.1Q decodes into
two push-VLAN records, the first with a zero ethertype. -/
theorem push_vlan_decodes_twice :
    ofpactsPullOpenflow11Actions Collab.rejectAll false [0, 17, 0, 8, 0x81, 0, 0, 0] 8 [] =
      ⟨none, [], [.ofpact ⟨.pushVlan 0, .actionInvalid⟩, .zeros 2,
        .ofpact ⟨.pushVlan 0x8100, .actionInvalid⟩, .zeros 2]⟩ := rfl

end OfpActions
