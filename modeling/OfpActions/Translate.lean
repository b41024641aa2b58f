import OfpActions.Image

/-!
# Translate — action lists written and read back

`ofpacts_put_openflow10` and `ofpacts_put_openflow11_actions` encode record
by record (`ofpactsPut`), and an action pull decodes record by record
(`Records`). So a list whose records each encode as a wire record that
decodes back is written as the concatenation of those records
(`ofpactsPut_records`) and read back as the padded layout of what they
decode to (`ofpactsPullActions_flatten`).

With `Image` this gives the action-list halves of the round trips: what an
action pull returns is written by the same dialect's encoder as a list that
pulls back to the same buffer (`openflow10_decode_encode_decode`, and
`openflow11Actions_decode_encode_decode` for lists with no record the 1.1
action encoder loses); and a list of admitted records that an encoder keeps
is read back with the same bodies (`openflow10_put_pull`,
`openflow11Actions_put_pull`).
-/

namespace OfpActions

/-! ## Lists of records -/

/-- `ofpacts_verify` looks at each record's kind only. -/
theorem ofpactsVerify_map_compat (c : Ofpact → OfputilActionCode) (A : List Ofpact) :
    ofpactsVerify (A.map fun x => ⟨x.body, c x⟩) = ofpactsVerify A := by
  suffices ∀ inst, ofpactsVerify.go inst (A.map fun x => ⟨x.body, c x⟩) = ofpactsVerify.go inst A from
    this _
  induction A with
  | nil => intro _; rfl
  | cons x A ih =>
    intro inst
    simp only [List.map_cons, ofpactsVerify.go, ih]
    rfl

theorem map_compat_eq_self {c : Ofpact → OfputilActionCode} {A : List Ofpact}
    (h : ∀ x ∈ A, c x = x.compat) : A.map (fun x => (⟨x.body, c x⟩ : Ofpact)) = A := by
  conv_rhs => rw [← List.map_id A]
  exact List.map_congr_left fun x hx => by rw [h x hx]; rfl

section Codec

variable {enc : Ofpact → Option (List UInt8)} {f : List UInt8 → Decoded}

/-- A list whose records each encode as a wire record that decodes back is
written as the concatenation of those records. -/
theorem ofpactsPut_records {c : Ofpact → OfputilActionCode} {A : List Ofpact} (hfit : Fits A)
    (h : ∀ x ∈ A, ∃ e, enc x = some e ∧ IsWireRecord e ∧ f e = ([⟨x.body, c x⟩], none))
    (o : List UInt8) :
    ∃ es : List (List UInt8), ofpactsPut enc A o = some (o ++ es.flatten) ∧
      (∀ e ∈ es, IsWireRecord e ∧ (f e).2 = none) ∧
      es.flatMap (fun e => (f e).1) = A.map fun x => ⟨x.body, c x⟩ := by
  induction A generalizing o with
  | nil => exact ⟨[], by simp [ofpactsPut], by simp, rfl⟩
  | cons x A ih =>
    obtain ⟨e, he, hw, hd⟩ := h x (List.mem_cons_self _ _)
    obtain ⟨es, hput, hes, hmap⟩ := ih (fun y hy => hfit y (List.mem_cons_of_mem _ hy))
      (fun y hy => h y (List.mem_cons_of_mem _ hy)) (o ++ e)
    refine ⟨e :: es, ?_, ?_, ?_⟩
    · simp [ofpactsPut, forEachEncode_of_lt (hfit x (List.mem_cons_self _ _)), he, hput]
    · simp only [List.mem_cons, forall_eq_or_imp]
      exact ⟨⟨hw, by rw [hd]⟩, hes⟩
    · simp [hd, hmap]

/-- What an action walk that returns `0` read: wire records that tile the
walked bytes, each decoded without error; it put their records after what the
buffer held, and padded. -/
theorem ofpactsFromOpenflow_records (hf : ReadsRecord f) {a : List UInt8} {n : Nat}
    (hn : 8 * n ≤ a.length) {out₀ out : Ofpbuf} (h : ofpactsFromOpenflow f n a n out₀ = (out, none)) :
    ∃ rs : List (List UInt8), (∀ r ∈ rs, IsWireRecord r ∧ (f r).2 = none) ∧
      rs.flatten = a.take (8 * n) ∧
      out = ofpactPad (ofpactPutAll out₀ (rs.flatMap fun r => (f r).1)) := by
  rw [ofpactsFromOpenflow_eq] at h
  obtain ⟨hok, hleft⟩ := decodeAt_eq_none (congrArg Prod.snd h)
  obtain ⟨hw, htile⟩ := @forEachPointers_records n n a hn
  have hrec : ∀ p ∈ (forEachPointers n a n).1, f (recordAt p) = f p :=
    fun p hp => hf p (forEachPointers_valid hp).2
  refine ⟨(forEachPointers n a n).1.map recordAt, ?_, ?_, ?_⟩
  · simp only [List.mem_map]
    rintro _ ⟨p, hp, rfl⟩
    exact ⟨hw p hp, by rw [hrec p hp]; exact hok p hp⟩
  · rw [htile, hleft, Nat.sub_zero]
  · rw [decodeAt_of_ok hok, hleft] at h
    simp only [ofpactsFromOpenflowEnd, ne_eq, not_true_eq_false, if_false, Prod.mk.injEq] at h
    rw [← h.1, List.flatMap, List.flatMap, List.map_map]
    exact congrArg (fun l => ofpactPad (ofpactPutAll out₀ (List.flatten l)))
      (List.map_congr_left fun p hp => by simp only [Function.comp, hrec p hp])

/-- An action pull of a list of wire records that each decode reads them back
into the padded layout of their records. -/
theorem ofpactsPullActions_flatten (hf : ReadsRecord f) {es : List (List UInt8)}
    (hes : ∀ e ∈ es, IsWireRecord e ∧ (f e).2 = none)
    (hv : ofpactsVerify (es.flatMap fun e => (f e).1) = none) (prior : Ofpbuf) :
    ofpactsPullActions (fun a n out => ofpactsFromOpenflow f n a n out) es.flatten
        es.flatten.length prior =
      ⟨none, [], ofpactPad (ofpactLayout (es.flatMap fun e => (f e).1))⟩ := by
  have hm := flatten_length_mod fun e he => (hes e he).1
  have hd := ofpactsFromOpenflow_flatten hf (fun e he => (hes e he).1) (fun e he => (hes e he).2) []
    (Nat.le_refl _) []
  rw [List.append_nil] at hd
  simp only [ofpactsPullActions, ofpbufTryPull, OFP_ACTION_ALIGN, hm, ne_eq, not_true_eq_false,
    if_false, Nat.le_refl, if_true, List.drop_length, hd, ofpactPad_ofpacts]
  rw [show ofpactPutAll [] _ = ofpactLayout _ from rfl, ofpactLayout_ofpacts, hv]

/-- A list whose records each encode as a wire record that decodes back, and
that `ofpacts_verify` accepts, is written and pulled back as the padded layout
of the decoded records. -/
theorem ofpactsPut_pull (hf : ReadsRecord f) {c : Ofpact → OfputilActionCode} {A : List Ofpact}
    (hfit : Fits A)
    (h : ∀ x ∈ A, ∃ e, enc x = some e ∧ IsWireRecord e ∧ f e = ([⟨x.body, c x⟩], none))
    (hv : ofpactsVerify A = none) (prior : Ofpbuf) :
    ∃ E, ofpactsPut enc A [] = some E ∧
      ofpactsPullActions (fun a n out => ofpactsFromOpenflow f n a n out) E E.length prior =
        ⟨none, [], ofpactPad (ofpactLayout (A.map fun x => ⟨x.body, c x⟩))⟩ := by
  obtain ⟨es, hput, hes, hmap⟩ := ofpactsPut_records hfit h []
  refine ⟨es.flatten, by rw [hput, List.nil_append], ?_⟩
  rw [ofpactsPullActions_flatten hf hes (by rw [hmap, ofpactsVerify_map_compat, hv]), hmap]

/-- The decode-encode-decode law of an action dialect, from its records': a
pull that returns `0` leaves a buffer whose records the encoder writes as a
list that pulls back to the same buffer, if they fit their `len` and each
record it decoded into a record satisfying `P` is written as one wire record
that decodes to it. -/
theorem ofpactsPullActions_reencode (hf : ReadsRecord f) {P : Ofpact → Prop}
    (hre : ∀ r, IsWireRecord r → ∀ xs, f r = (xs, none) → ∀ x ∈ xs, P x →
      ∃ e, enc x = some e ∧ IsWireRecord e ∧ f e = ([x], none))
    {B : List UInt8} {len : Nat} {prior : Ofpbuf} {p : Pulled}
    (h : ofpactsPullActions (fun a n out => ofpactsFromOpenflow f n a n out) B len prior = p)
    (hok : p.error = none) (hfit : Fits p.ofpacts.ofpacts) (hP : ∀ x ∈ p.ofpacts.ofpacts, P x)
    (prior' : Ofpbuf) :
    ∃ E, ofpactsPut enc p.ofpacts.ofpacts [] = some E ∧
      ofpactsPullActions (fun a n out => ofpactsFromOpenflow f n a n out) E E.length prior' =
        ⟨none, [], p.ofpacts⟩ := by
  subst h
  obtain ⟨-, hlen, out, ht, hv, hp⟩ := ofpactsPullActions_ok hok
  rw [hp] at hP hfit ⊢
  obtain ⟨rs, hrs, -, rfl⟩ := ofpactsFromOpenflow_records hf (by omega) ht
  simp only [ofpactPad_ofpacts, ofpactPutAll_ofpacts, Ofpbuf.ofpacts_nil, List.nil_append]
    at hP hv hfit ⊢
  have hA : ∀ x ∈ rs.flatMap fun r => (f r).1, ∃ e, enc x = some e ∧ IsWireRecord e ∧
      f e = ([⟨x.body, x.compat⟩], none) := by
    intro x hx
    obtain ⟨r, hr, hxr⟩ := List.mem_flatMap.1 hx
    exact hre r (hrs r hr).1 _ (Prod.ext rfl (hrs r hr).2) x hxr (hP x hx)
  obtain ⟨E, hput, hpull⟩ := ofpactsPut_pull hf hfit hA hv prior'
  rw [map_compat_eq_self fun _ _ => rfl] at hpull
  exact ⟨E, hput, hpull⟩

end Codec

/-! ## The two action dialects -/

section Dialects

variable {co : Collab} {centec : Bool}

/-- `ofpacts_put_openflow10` writes a verified list of admitted records that it
keeps as a 1.0 action list that `ofpacts_pull_openflow10` reads back with the
same bodies, and with the `compat` the encoder's choices name. -/
theorem openflow10_put_pull (hco : co.SubReadsRecord) {A : List Ofpact}
    (hA : ∀ x ∈ A, x.Admitted co centec ∧ Dialect.openflow10.loses centec x = false)
    (hfit : Fits A) (hv : ofpactsVerify A = none) (prior : Ofpbuf) :
    ∃ E, ofpactsPutOpenflow10 co centec A [] = some E ∧
      ofpactsPullOpenflow10 co centec E E.length prior =
        ⟨none, [], ofpactPad (ofpactLayout (A.map fun x => ⟨x.body, x.nxCompat⟩))⟩ :=
  ofpactsPut_pull (ofpactFromOpenflow10_reads hco centec) hfit (fun x hx => by
    obtain ⟨ha, hl⟩ := hA x hx
    obtain ⟨e, he⟩ := Option.isSome_iff_exists.1 (ofpactToOpenflow10_isSome ha hl)
    exact ⟨e, he, ofpactToOpenflow10_decodes ha hl he⟩) hv prior

/-- `ofpacts_put_openflow11_actions` does the same for the records it keeps. -/
theorem openflow11Actions_put_pull (hco : co.SubReadsRecord) {A : List Ofpact}
    (hA : ∀ x ∈ A, x.Admitted co centec ∧ Dialect.openflow11Actions.loses centec x = false)
    (hfit : Fits A) (hv : ofpactsVerify A = none) (prior : Ofpbuf) :
    ∃ E, ofpactsPutOpenflow11Actions co centec A [] = some E ∧
      ofpactsPullOpenflow11Actions co centec E E.length prior =
        ⟨none, [], ofpactPad (ofpactLayout (A.map fun x => ⟨x.body, x.compat11⟩))⟩ :=
  ofpactsPut_pull (ofpactFromOpenflow11_reads hco centec) hfit (fun x hx => by
    obtain ⟨ha, hl⟩ := hA x hx
    obtain ⟨e, he⟩ := Option.isSome_iff_exists.1 (ofpactToOpenflow11_isSome ha hl)
    exact ⟨e, he, ofpactToOpenflow11_decodes ha hl he⟩) hv prior

/-- What `ofpacts_pull_openflow10` returns, `ofpacts_put_openflow10` writes as a
1.0 action list that pulls back to the same buffer, if the sub-codecs' records
fit their `len`. -/
theorem openflow10_decode_encode_decode (hco : co.SubReadsRecord) (hfit : co.SubFits)
    (hsub : co.SubRoundTrip centec) {B : List UInt8} {len : Nat} {prior : Ofpbuf} {p : Pulled}
    (h : ofpactsPullOpenflow10 co centec B len prior = p) (hok : p.error = none)
    (prior' : Ofpbuf) :
    ∃ E, ofpactsPutOpenflow10 co centec p.ofpacts.ofpacts [] = some E ∧
      ofpactsPullOpenflow10 co centec E E.length prior' = ⟨none, [], p.ofpacts⟩ :=
  ofpactsPullActions_reencode (ofpactFromOpenflow10_reads hco centec) (P := fun _ => True)
    (fun _ hr _ hd x hx _ => ofpactFromOpenflow10_reencodes hsub hr hd x hx) h hok
    (h ▸ Dialect.pull_fits hfit centec .openflow10 B len prior) (fun _ _ => trivial) prior'

/-- What `ofpacts_pull_openflow11_actions` returns, `ofpacts_put_openflow11_actions`
writes as a 1.1 action list that pulls back to the same buffer, if no record
is one the 1.1 action encoder loses. -/
theorem openflow11Actions_decode_encode_decode (hco : co.SubReadsRecord) (hfit : co.SubFits)
    (hsub : co.SubRoundTrip centec) {B : List UInt8} {len : Nat} {prior : Ofpbuf} {p : Pulled}
    (h : ofpactsPullOpenflow11Actions co centec B len prior = p) (hok : p.error = none)
    (hl : ∀ x ∈ p.ofpacts.ofpacts, Dialect.openflow11Actions.loses centec x = false)
    (prior' : Ofpbuf) :
    ∃ E, ofpactsPutOpenflow11Actions co centec p.ofpacts.ofpacts [] = some E ∧
      ofpactsPullOpenflow11Actions co centec E E.length prior' = ⟨none, [], p.ofpacts⟩ :=
  ofpactsPullActions_reencode (ofpactFromOpenflow11_reads hco centec)
    (fun _ hr _ hd x hx => ofpactFromOpenflow11_reencodes hsub hr hd x hx) h hok
    (h ▸ Dialect.pull_fits hfit centec .openflow11Actions B len prior) hl prior'

end Dialects

end OfpActions
