import OfpActions.Locality
import OfpActions.Encode

/-!
# Buffer — what a pull leaves in `ofpacts`

Spec §7: a pull either returns `0` with the decoded records in `ofpacts`, or
an error with `ofpacts` empty, whatever `ofpacts` held before; a length that
is misaligned or longer than the message leaves the message where it was.

Spec §3.1: the decoded records sit at 8-byte aligned offsets of the buffer,
with zeros between them. A decoder builds its buffer from empty with
`ofpact_put` and `ofpact_pad` only, so the buffer is `ofpactLayout` of its
records, padded or not (`IsLayout`). The offsets, gaps and size of a layout,
and what `OFPACT_FOR_EACH` visits in it, are read off from there.
-/

namespace OfpActions

/-! ## All or nothing -/

theorem ofpactsPullActions_badLen (translate : List UInt8 → Nat → Ofpbuf → Ofpbuf × Option Ofperr)
    {openflow : List UInt8} {len : Nat} (prior : Ofpbuf) (h : len % 8 ≠ 0 ∨ openflow.length < len) :
    ofpactsPullActions translate openflow len prior = ⟨some .ofpbrcBadLen, openflow, []⟩ := by
  unfold ofpactsPullActions ofpbufTryPull OFP_ACTION_ALIGN
  by_cases hm : len % 8 = 0
  · simp [hm, show ¬len ≤ openflow.length by omega]
  · simp [hm]

/-- Past the length checks, the message has been pulled, and every error
path clears `ofpacts`. -/
theorem ofpactsPullActions_pulled (translate : List UInt8 → Nat → Ofpbuf → Ofpbuf × Option Ofperr)
    {openflow : List UInt8} {len : Nat} (prior : Ofpbuf) (hm : len % 8 = 0)
    (hl : len ≤ openflow.length) :
    (ofpactsPullActions translate openflow len prior).openflow = openflow.drop len ∧
      ((ofpactsPullActions translate openflow len prior).error ≠ none →
        (ofpactsPullActions translate openflow len prior).ofpacts = []) := by
  simp only [ofpactsPullActions, ofpbufTryPull, OFP_ACTION_ALIGN, hm, hl, ne_eq, not_true_eq_false,
    if_false, if_true]
  split
  · simp
  · split <;> simp

theorem ofpactsPullOpenflow11Instructions_badLen (co : Collab) (centec : Bool)
    {openflow : List UInt8} {len : Nat} (prior : Ofpbuf) (h : len % 8 ≠ 0 ∨ openflow.length < len) :
    ofpactsPullOpenflow11Instructions co centec openflow len prior =
      ⟨some .ofpbicBadLen, openflow, []⟩ := by
  unfold ofpactsPullOpenflow11Instructions ofpbufTryPull OFP_ACTION_ALIGN
  by_cases hm : len % 8 = 0
  · simp [hm, show ¬len ≤ openflow.length by omega]
  · simp [hm]

theorem ofpactsPullOpenflow11Instructions_pulled (co : Collab) (centec : Bool)
    {openflow : List UInt8} {len : Nat} (prior : Ofpbuf) (hm : len % 8 = 0)
    (hl : len ≤ openflow.length) :
    (ofpactsPullOpenflow11Instructions co centec openflow len prior).openflow = openflow.drop len ∧
      ((ofpactsPullOpenflow11Instructions co centec openflow len prior).error ≠ none →
        (ofpactsPullOpenflow11Instructions co centec openflow len prior).ofpacts = []) := by
  simp only [ofpactsPullOpenflow11Instructions, ofpbufTryPull, OFP_ACTION_ALIGN, hm, hl, ne_eq,
    not_true_eq_false, if_false, if_true]
  unfold ofpactsPullOpenflow11InstructionsEnd
  split
  · simp
  · split
    · simp
    · split <;> simp

/-- What a pull that returns `0` did: it pulled `len` aligned bytes, decoded
them into `out` and verified `out`. -/
theorem ofpactsPullActions_ok {translate : List UInt8 → Nat → Ofpbuf → Ofpbuf × Option Ofperr}
    {openflow : List UInt8} {len : Nat} {prior : Ofpbuf}
    (h : (ofpactsPullActions translate openflow len prior).error = none) :
    len % 8 = 0 ∧ len ≤ openflow.length ∧ ∃ out, translate openflow (len / 8) [] = (out, none) ∧
      ofpactsVerify out.ofpacts = none ∧
      ofpactsPullActions translate openflow len prior = ⟨none, openflow.drop len, out⟩ := by
  by_cases hl : len % 8 = 0 ∧ len ≤ openflow.length
  · refine ⟨hl.1, hl.2, ?_⟩
    simp only [ofpactsPullActions, ofpbufTryPull, OFP_ACTION_ALIGN, hl, ne_eq, not_true_eq_false,
      if_false, if_true] at h ⊢
    rcases ht : translate openflow (len / 8) [] with ⟨out, _ | e⟩ <;> simp only [ht] at h
    · rcases hv : ofpactsVerify out.ofpacts with _ | e
      · exact ⟨out, rfl, hv, by simp [hv]⟩
      · simp [hv] at h
    · cases h
  · simp [ofpactsPullActions_badLen translate prior
      (show len % 8 ≠ 0 ∨ openflow.length < len by omega)] at h

theorem ofpactsPullOpenflow11Instructions_ok {co : Collab} {centec : Bool}
    {openflow : List UInt8} {len : Nat} {prior : Ofpbuf}
    (h : (ofpactsPullOpenflow11Instructions co centec openflow len prior).error = none) :
    len % 8 = 0 ∧ len ≤ openflow.length ∧ ∃ insts out,
      decodeOpenflow11Instructions centec (len / 8) openflow (len / 8) (fun _ => none) = .ok insts ∧
      ofpactsFromInstructions co centec insts [] = (out, none) ∧ ofpactsVerify out.ofpacts = none ∧
      ofpactsPullOpenflow11Instructions co centec openflow len prior =
        ⟨none, openflow.drop len, out⟩ := by
  by_cases hl : len % 8 = 0 ∧ len ≤ openflow.length
  · refine ⟨hl.1, hl.2, ?_⟩
    simp only [ofpactsPullOpenflow11Instructions, ofpbufTryPull, OFP_ACTION_ALIGN, hl, ne_eq,
      not_true_eq_false, if_false, if_true] at h ⊢
    unfold ofpactsPullOpenflow11InstructionsEnd at h ⊢
    rcases hd : decodeOpenflow11Instructions centec (len / 8) openflow (len / 8) (fun _ => none)
      with e | insts <;> simp only [hd] at h
    · cases h
    rcases ht : ofpactsFromInstructions co centec insts [] with ⟨out, _ | e⟩ <;> simp only [ht] at h
    · rcases hv : ofpactsVerify out.ofpacts with _ | e
      · exact ⟨insts, out, rfl, ht, hv, by simp [ht, hv]⟩
      · simp [hv] at h
    · cases h
  · simp [ofpactsPullOpenflow11Instructions_badLen co centec prior
      (show len % 8 ≠ 0 ∨ openflow.length < len by omega)] at h

theorem Dialect.pull_badLen (co : Collab) (centec : Bool) (d : Dialect) {openflow : List UInt8}
    {len : Nat} (prior : Ofpbuf) (h : len % 8 ≠ 0 ∨ openflow.length < len) :
    d.pull co centec openflow len prior = ⟨some d.badLen, openflow, []⟩ := by
  cases d
  · exact ofpactsPullActions_badLen _ prior h
  · exact ofpactsPullActions_badLen _ prior h
  · exact ofpactsPullOpenflow11Instructions_badLen co centec prior h

theorem Dialect.pull_pulled (co : Collab) (centec : Bool) (d : Dialect) {openflow : List UInt8}
    {len : Nat} (prior : Ofpbuf) (hm : len % 8 = 0) (hl : len ≤ openflow.length) :
    (d.pull co centec openflow len prior).openflow = openflow.drop len ∧
      ((d.pull co centec openflow len prior).error ≠ none →
        (d.pull co centec openflow len prior).ofpacts = []) := by
  cases d
  · exact ofpactsPullActions_pulled _ prior hm hl
  · exact ofpactsPullActions_pulled _ prior hm hl
  · exact ofpactsPullOpenflow11Instructions_pulled co centec prior hm hl

/-- Decoding is all or nothing (spec §7): the result does not depend on what
`ofpacts` held; an error leaves `ofpacts` empty; a bad length is reported
before anything is pulled from the message; otherwise the message has lost
exactly its `len` bytes. -/
theorem pull_all_or_nothing (co : Collab) (centec : Bool) (d : Dialect) (openflow : List UInt8)
    (len : Nat) (prior prior' : Ofpbuf) :
    d.pull co centec openflow len prior = d.pull co centec openflow len prior' ∧
      ((d.pull co centec openflow len prior).error ≠ none →
        (d.pull co centec openflow len prior).ofpacts = []) ∧
      (len % 8 ≠ 0 ∨ openflow.length < len →
        d.pull co centec openflow len prior = ⟨some d.badLen, openflow, []⟩) ∧
      (len % 8 = 0 → len ≤ openflow.length →
        (d.pull co centec openflow len prior).openflow = openflow.drop len) := by
  refine ⟨by cases d <;> rfl, fun he => ?_, Dialect.pull_badLen co centec d prior,
    fun hm hl => (Dialect.pull_pulled co centec d prior hm hl).1⟩
  by_cases h : len % 8 = 0 ∧ len ≤ openflow.length
  · exact (Dialect.pull_pulled co centec d prior h.1 h.2).2 he
  · rw [Dialect.pull_badLen co centec d prior (by omega)]

/-! ## Layouts -/

/-- The buffer `ofpact_put` builds from empty for the records `as`. -/
def ofpactLayout (as : List Ofpact) : Ofpbuf := ofpactPutAll [] as

/-- The zeros `ofpact_pad` appends after a record of `n` bytes at an aligned offset. -/
def padAfter (n : Nat) : Ofpbuf := if n % 8 = 0 then [] else [.zeros (8 - n % 8)]

/-- Every record followed by its pad. -/
def paddedLayout (as : List Ofpact) : Ofpbuf :=
  as.flatMap fun a => .ofpact a :: padAfter a.body.rawSize

/-- A buffer that `ofpact_put` and `ofpact_pad` built from empty: the layout of
its records, padded at the end or not. -/
def IsLayout (b : Ofpbuf) : Prop :=
  b = ofpactLayout b.ofpacts ∨ b = ofpactPad (ofpactLayout b.ofpacts)

theorem ofpactPad_of_aligned {b : Ofpbuf} (h : b.size % 8 = 0) : ofpactPad b = b := by
  simp [ofpactPad, OFP_ACTION_ALIGN, h]

@[simp] theorem ofpactPad_ofpactPad (b : Ofpbuf) : ofpactPad (ofpactPad b) = ofpactPad b :=
  ofpactPad_of_aligned (ofpactPad_size b)

theorem ofpactPad_append_aligned {b : Ofpbuf} (h : b.size % 8 = 0) (c : Ofpbuf) :
    ofpactPad (b ++ c) = b ++ ofpactPad c := by
  unfold ofpactPad OFP_ACTION_ALIGN
  simp only [Ofpbuf.size_append, List.append_assoc]
  have : (b.size + c.size) % 8 = c.size % 8 := by omega
  split <;> split <;> simp_all

@[simp] theorem paddedLayout_nil : paddedLayout [] = [] := rfl

theorem paddedLayout_cons (a : Ofpact) (as : List Ofpact) :
    paddedLayout (a :: as) = .ofpact a :: padAfter a.body.rawSize ++ paddedLayout as := rfl

theorem paddedLayout_append (as bs : List Ofpact) :
    paddedLayout (as ++ bs) = paddedLayout as ++ paddedLayout bs := List.flatMap_append ..

theorem size_padAfter (n : Nat) : n + (padAfter n).size = roundUp n 8 := by
  unfold padAfter roundUp
  split <;> simp only [Ofpbuf.size_nil, Ofpbuf.size_cons, Chunk.size] <;> omega

theorem roundUp_mod (n : Nat) : roundUp n 8 % 8 = 0 := Nat.mul_mod_left _ _

theorem paddedLayout_size (as : List Ofpact) :
    (paddedLayout as).size = (as.map fun a => roundUp a.body.rawSize 8).sum := by
  induction as with
  | nil => rfl
  | cons a as ih =>
    simp only [paddedLayout_cons, List.cons_append, Ofpbuf.size_cons, Ofpbuf.size_append, ih,
      List.map_cons, List.sum_cons, Chunk.size, ← size_padAfter, Nat.add_assoc]

theorem paddedLayout_aligned (as : List Ofpact) : (paddedLayout as).size % 8 = 0 := by
  induction as with
  | nil => rfl
  | cons a as ih =>
    have h1 := roundUp_mod a.body.rawSize
    have h2 := size_padAfter a.body.rawSize
    rw [paddedLayout_cons, List.cons_append, Ofpbuf.size_cons, Ofpbuf.size_append, Chunk.size]
    omega

@[simp] theorem paddedLayout_ofpacts (as : List Ofpact) : (paddedLayout as).ofpacts = as := by
  induction as with
  | nil => rfl
  | cons a as ih =>
    rw [paddedLayout_cons, List.cons_append, ← List.singleton_append, Ofpbuf.ofpacts_append,
      Ofpbuf.ofpacts_append, ih]
    simp only [padAfter]
    split <;> simp

@[simp] theorem ofpactPad_nil : ofpactPad [] = [] := rfl

theorem ofpactPad_singleton (a : Ofpact) : ofpactPad [.ofpact a] = .ofpact a :: padAfter a.body.rawSize := by
  unfold ofpactPad padAfter OFP_ACTION_ALIGN
  split <;> simp_all [Chunk.size]

/-- Padding after a run of puts pads after every record of the run. -/
theorem ofpactPad_ofpactPutAll (b : Ofpbuf) (as : List Ofpact) :
    ofpactPad (ofpactPutAll b as) = ofpactPad b ++ paddedLayout as := by
  induction as generalizing b with
  | nil => simp
  | cons a as ih =>
    rw [ofpactPutAll_cons, ih, ofpactPut, ofpactPad_append_aligned (ofpactPad_size b),
      paddedLayout_cons, ofpactPad_singleton]
    simp

/-- A run of puts leaves every record but the last followed by its pad. -/
theorem ofpactPutAll_append_singleton (b : Ofpbuf) (as : List Ofpact) (a : Ofpact) :
    ofpactPutAll b (as ++ [a]) = ofpactPad b ++ paddedLayout as ++ [.ofpact a] := by
  rw [ofpactPutAll_append, ofpactPutAll_cons, ofpactPutAll_nil, ofpactPut, ofpactPad_ofpactPutAll]

theorem ofpactPad_ofpactLayout (as : List Ofpact) : ofpactPad (ofpactLayout as) = paddedLayout as := by
  rw [ofpactLayout, ofpactPad_ofpactPutAll, ofpactPad_nil, List.nil_append]

theorem ofpactLayout_append_singleton (as : List Ofpact) (a : Ofpact) :
    ofpactLayout (as ++ [a]) = paddedLayout as ++ [.ofpact a] := by
  rw [ofpactLayout, ofpactPutAll_append_singleton, ofpactPad_nil, List.nil_append]

@[simp] theorem ofpactLayout_ofpacts (as : List Ofpact) : (ofpactLayout as).ofpacts = as := by
  simp [ofpactLayout]

/-! ## Every decoder builds a layout -/

theorem ofpactPutAll_ofpactPad_cons (b : Ofpbuf) (a : Ofpact) (as : List Ofpact) :
    ofpactPutAll (ofpactPad b) (a :: as) = ofpactPutAll b (a :: as) := by
  simp [ofpactPutAll_cons, ofpactPut]

theorem IsLayout.nil : IsLayout [] := .inl rfl

theorem IsLayout.pad {b : Ofpbuf} (h : IsLayout b) : IsLayout (ofpactPad b) := by
  rw [IsLayout, ofpactPad_ofpacts]
  rcases h with h | h <;> rw [h] <;> simp

theorem IsLayout.putAll {b : Ofpbuf} (h : IsLayout b) (as : List Ofpact) :
    IsLayout (ofpactPutAll b as) := by
  rcases as with _ | ⟨a, as⟩
  · exact h
  · have hb : ofpactPutAll b (a :: as) = ofpactLayout (b.ofpacts ++ a :: as) := by
      rcases h with h | h <;> rw [h]
      · simp [ofpactLayout, ofpactPutAll_append]
      · rw [ofpactPutAll_ofpactPad_cons]; simp [ofpactLayout, ofpactPutAll_append]
    exact .inl (by rw [hb, ofpactLayout_ofpacts])

theorem IsLayout.put {b : Ofpbuf} (h : IsLayout b) (a : Ofpact) : IsLayout (ofpactPut b a) :=
  h.putAll [a]

theorem decodeAt_isLayout (f : List UInt8 → Decoded) (ps : List (List UInt8)) (left : Nat)
    {out : Ofpbuf} (h : IsLayout out) : IsLayout (decodeAt f ps left out).1 := by
  induction ps generalizing out with
  | nil =>
    simp only [decodeAt, ofpactsFromOpenflowEnd]
    split
    · exact h
    · exact h.pad
  | cons p ps ih =>
    simp only [decodeAt]
    rcases f p with ⟨recs, _ | e⟩
    · exact ih (h.putAll recs)
    · exact h.putAll recs

theorem ofpactsFromOpenflow_isLayout (f : List UInt8 → Decoded) (fuel : Nat) (a : List UInt8)
    (left : Nat) {out : Ofpbuf} (h : IsLayout out) :
    IsLayout (ofpactsFromOpenflow f fuel a left out).1 := by
  rw [ofpactsFromOpenflow_eq]
  exact decodeAt_isLayout f _ _ h

/-- A stretch of the instruction pull that keeps a property of the buffer. -/
def Step.Keeps (P : Ofpbuf → Prop) (s : Step) : Prop := ∀ out, P out → P (s out).1

theorem Step.Keeps.andThen {P : Ofpbuf → Prop} {f g : Step} (hf : f.Keeps P) (hg : g.Keeps P) :
    (f.andThen g).Keeps P := fun out h => by
  have hf' := hf out h
  unfold Step.andThen
  rcases hfo : f out with ⟨out', _ | e⟩ <;> rw [hfo] at hf'
  · exact hg out' hf'
  · exact hf'

/-- What the instruction pull appends: records of at most 24 bytes that it
synthesises, and what the action walks append. -/
theorem ofpactsFromInstructions_keeps {P : Ofpbuf → Prop} {co : Collab} {centec : Bool}
    (hput : ∀ out (a : Ofpact), a.body.rawSize ≤ 24 → P out → P (ofpactPut out a))
    (hwalk : ∀ a n out, P out → P (ofpactsFromOpenflow11 co centec a n out).1) (insts : Insts) :
    (ofpactsFromInstructions co centec insts).Keeps P := by
  refine .andThen ?_ (.andThen ?_ (.andThen ?_ (.andThen ?_ (.andThen ?_ (.andThen ?_ ?_))))) <;>
    intro out h
  · unfold meterStep; split
    · exact hput _ _ (by simp [OfpactBody.rawSize]) h
    · exact h
  · unfold applyActionsStep; split
    · exact hwalk _ _ out h
    · exact h
  · unfold clearActionsStep; split
    · exact hput _ _ (by simp [OfpactBody.rawSize]) h
    · exact h
  · unfold writeActionsStep; split
    · split
      · exact h
      · exact hwalk _ _ out h
    · exact h
  · unfold writeMetadataStep; split
    · split
      · exact h
      · exact hput _ _ (by simp [OfpactBody.rawSize]) h
    · exact h
  · unfold gotoTableStep; split
    · split
      · exact h
      · exact hput _ _ (by simp [OfpactBody.rawSize]) h
    · exact h
  · unfold writeActionsUnsupStep; split <;> exact h

/-- A property of the buffer that holds of the empty buffer and that every
decoder keeps holds of what every pull leaves. -/
theorem Dialect.pull_keeps {P : Ofpbuf → Prop} {co : Collab} {centec : Bool} (hnil : P [])
    (hput : ∀ out (a : Ofpact), a.body.rawSize ≤ 24 → P out → P (ofpactPut out a))
    (hwalk10 : ∀ a n out, P out → P (ofpactsFromOpenflow10 co centec a n out).1)
    (hwalk11 : ∀ a n out, P out → P (ofpactsFromOpenflow11 co centec a n out).1)
    (d : Dialect) (openflow : List UInt8) (len : Nat) (prior : Ofpbuf) :
    P (d.pull co centec openflow len prior).ofpacts := by
  by_cases he : (d.pull co centec openflow len prior).error = none
  · cases d
    · obtain ⟨-, -, out, ht, -, hp⟩ := ofpactsPullActions_ok he
      have := hwalk10 openflow (len / 8) [] hnil
      rw [Dialect.pull, ofpactsPullOpenflow10, hp]
      rwa [ht] at this
    · obtain ⟨-, -, out, ht, -, hp⟩ := ofpactsPullActions_ok he
      have := hwalk11 openflow (len / 8) [] hnil
      rw [Dialect.pull, ofpactsPullOpenflow11Actions, hp]
      rwa [ht] at this
    · obtain ⟨-, -, insts, out, -, ht, -, hp⟩ := ofpactsPullOpenflow11Instructions_ok he
      have := ofpactsFromInstructions_keeps hput hwalk11 insts [] hnil
      rw [Dialect.pull, hp]
      rwa [ht] at this
  · by_cases hl : len % 8 = 0 ∧ len ≤ openflow.length
    · rwa [(Dialect.pull_pulled co centec d prior hl.1 hl.2).2 he]
    · rwa [Dialect.pull_badLen co centec d prior (by omega)]

/-- Every pull leaves a layout in `ofpacts`. -/
theorem Dialect.pull_isLayout (co : Collab) (centec : Bool) (d : Dialect) (openflow : List UInt8)
    (len : Nat) (prior : Ofpbuf) : IsLayout (d.pull co centec openflow len prior).ofpacts :=
  Dialect.pull_keeps .nil (fun _ _ _ h => h.put _)
    (fun _ _ _ h => ofpactsFromOpenflow_isLayout _ _ _ _ h)
    (fun _ _ _ h => ofpactsFromOpenflow_isLayout _ _ _ _ h) d openflow len prior

/-! ## Record sizes fit the 16-bit `len` -/

/-- Records whose size fits their 16-bit `len`. -/
def Fits (as : List Ofpact) : Prop := ∀ a ∈ as, a.body.rawSize < 65536

/-- The sub-codecs put records whose size fits their 16-bit `len`. -/
def Collab.SubFits (co : Collab) : Prop :=
  ∀ code a body compat, co.subFromOpenflow code a = .ok (body, compat) → body.length < 65532

theorem Collab.rejectAll_subFits : Collab.rejectAll.SubFits := fun _ _ _ _ h => nomatch h

theorem fits_nil : Fits [] := fun _ h => absurd h (List.not_mem_nil _)

theorem fits_putOne {body : OfpactBody} (compat : OfputilActionCode) (h : body.rawSize < 65536) :
    Fits (putOne body compat).1 := by
  simpa [Fits, putOne] using h

theorem Fits.append {as bs : List Ofpact} (ha : Fits as) (hb : Fits bs) : Fits (as ++ bs) := by
  intro x hx
  rcases List.mem_append.mp hx with hx | hx
  exacts [ha x hx, hb x hx]

theorem subFromOpenflow_fits {co : Collab} (hfit : co.SubFits) (code : OfputilActionCode)
    (t : SubType) (a : List UInt8) : Fits (subFromOpenflow co code t a).1 := by
  unfold subFromOpenflow
  split
  · rename_i h
    have := hfit _ _ _ _ h
    exact fits_putOne _ (by simp only [OfpactBody.rawSize]; omega)
  · exact fits_nil

/-- A record put from a wire record of at most `65528` bytes fits: a note
holds `len - 10` bytes, `dec_ttl_cnt_ids` at most `(len - 16) / 2` ids. -/
theorem ofpactFromNxast_fits {co : Collab} (hfit : co.SubFits) {a : List UInt8}
    (hm : getBE a 2 2 % 8 = 0) (c : Nxast) : Fits (ofpactFromNxast co a c).1 := by
  have hL : getBE a 2 2 < 65536 := by simpa using getBE_lt a 2 2
  cases c
  case regMove | regLoad | bundle | bundleLoad | learn => exact subFromOpenflow_fits hfit _ _ _
  case multipath =>
    simp only [ofpactFromNxast, multipathFromOpenflow]
    split
    · rename_i h
      have := hfit _ _ _ _ h
      exact fits_putOne _ (by simp only [OfpactBody.rawSize]; omega)
    · simp [Fits, putOne, OfpactBody.rawSize]
  case note =>
    exact fits_putOne _ (by simp only [OfpactBody.rawSize, rdBytes_length]; omega)
  case decTtlCntIds =>
    simp only [ofpactFromNxast, decTtlCntIdsFromOpenflow]
    split_ifs with h1 h2
    · simp [Fits, putOne, OfpactBody.rawSize]
    · simp [Fits, putOne, OfpactBody.rawSize]
    · exact fits_putOne _ (by simp only [OfpactBody.rawSize, List.length_map, List.length_range]; omega)
  all_goals
    simp only [ofpactFromNxast, resubmitFromOpenflow, resubmitTableFromOpenflow, metadataFromNxast,
      decTtlFromOpenflow, outputRegFromOpenflow]
    try split_ifs
    all_goals first | exact fits_nil | exact fits_putOne _ (by simp [OfpactBody.rawSize])

theorem ofpactFromOpenflow10_fits {co : Collab} (hfit : co.SubFits) (centec : Bool)
    {a : List UInt8} (hm : getBE a 2 2 % 8 = 0) : Fits (ofpactFromOpenflow10 co centec a).1 := by
  unfold ofpactFromOpenflow10
  split
  · exact fits_nil
  · rename_i c _
    cases c <;> simp only [outputFromOpenflow10, enqueueFromOpenflow10, setVlanVidFromOpenflow,
      setVlanPcpFromOpenflow, setNwTosFromOpenflow] <;> (try split_ifs) <;>
      first | exact fits_nil | exact fits_putOne _ (by simp [OfpactBody.rawSize])
  · exact ofpactFromNxast_fits hfit hm _
  · exact fits_nil

theorem ofpactFromOpenflow11_fits {co : Collab} (hfit : co.SubFits) (centec : Bool)
    {a : List UInt8} (hm : getBE a 2 2 % 8 = 0) : Fits (ofpactFromOpenflow11 co centec a).1 := by
  unfold ofpactFromOpenflow11
  split
  · exact fits_nil
  · rename_i c _
    cases c
    case setField => exact subFromOpenflow_fits hfit _ _ _
    all_goals simp only [outputFromOpenflow11, setVlanVidFromOpenflow, setVlanPcpFromOpenflow,
      setNwTosFromOpenflow, pushVlanFromOpenflow11, decTtlFromOpenflow]
    all_goals (try split) <;> (try split_ifs) <;>
      first | exact fits_nil | exact fits_putOne _ (by simp [OfpactBody.rawSize]) | simp [Fits, putOne, OfpactBody.rawSize]
  · exact ofpactFromNxast_fits hfit hm _
  · exact fits_nil

theorem decodeAt_fits {f : List UInt8 → Decoded} {ps : List (List UInt8)}
    (hf : ∀ p ∈ ps, Fits (f p).1) (left : Nat) {out : Ofpbuf} (h : Fits out.ofpacts) :
    Fits (decodeAt f ps left out).1.ofpacts := by
  induction ps generalizing out with
  | nil =>
    simp only [decodeAt, ofpactsFromOpenflowEnd]
    split
    · exact h
    · rwa [ofpactPad_ofpacts]
  | cons p ps ih =>
    have hp := hf p (List.mem_cons_self _ _)
    simp only [decodeAt]
    rcases hfp : f p with ⟨recs, _ | e⟩ <;> rw [hfp] at hp
    · exact ih (fun q hq => hf q (List.mem_cons_of_mem _ hq)) (by simpa using h.append hp)
    · simpa using h.append hp

/-- A walk whose decoder puts fitting records from every valid record keeps
the buffer's records fitting. -/
theorem ofpactsFromOpenflow_fits {f : List UInt8 → Decoded}
    (hf : ∀ a, getBE a 2 2 % 8 = 0 → Fits (f a).1) (fuel : Nat) (a : List UInt8) (left : Nat)
    {out : Ofpbuf} (h : Fits out.ofpacts) : Fits (ofpactsFromOpenflow f fuel a left out).1.ofpacts := by
  rw [ofpactsFromOpenflow_eq]
  exact decodeAt_fits (fun p hp => hf p (forEachPointers_valid hp).1) _ h

/-- Every record a pull leaves fits its 16-bit `len`. -/
theorem Dialect.pull_fits {co : Collab} (hfit : co.SubFits) (centec : Bool) (d : Dialect)
    (openflow : List UInt8) (len : Nat) (prior : Ofpbuf) :
    Fits (d.pull co centec openflow len prior).ofpacts.ofpacts :=
  Dialect.pull_keeps (P := fun b => Fits b.ofpacts) fits_nil
    (fun _ a hs h => by simpa [ofpactPut] using h.append (fits_putOne a.compat (by omega) :
      Fits [⟨a.body, a.compat⟩]))
    (fun _ _ _ h => ofpactsFromOpenflow_fits (fun _ hm => ofpactFromOpenflow10_fits hfit centec hm)
      _ _ _ h)
    (fun _ _ _ h => ofpactsFromOpenflow_fits (fun _ hm => ofpactFromOpenflow11_fits hfit centec hm)
      _ _ _ h) d openflow len prior

/-! ## What a layout looks like -/

/-- Records start at multiples of `OFPACT_ALIGNTO`, counting from `off`, and
the only other chunks are `ofpact_pad`'s: one to seven zero bytes that end at
a multiple of 8. -/
def Ofpbuf.Aligned : Ofpbuf → Nat → Prop
  | [], _ => True
  | .ofpact a :: b, off => off % 8 = 0 ∧ Ofpbuf.Aligned b (off + a.body.rawSize)
  | .zeros n :: b, off => 0 < n ∧ n < 8 ∧ (off + n) % 8 = 0 ∧ Ofpbuf.Aligned b (off + n)

/-- The record that starts `pos` bytes into the buffer, if one does. -/
def Ofpbuf.recordStartingAt : Ofpbuf → Nat → Option Ofpact
  | [], _ => none
  | c :: b, pos =>
    if pos < c.size then
      match c with
      | .ofpact a => if pos = 0 then some a else none
      | .zeros _ => none
    else Ofpbuf.recordStartingAt b (pos - c.size)

/-- `OFPACT_FOR_EACH` over the buffer: visit the record at `pos`, step by
`OFPACT_ALIGN(len)`, stop at `ofpact_end`. -/
def ofpactForEach (b : Ofpbuf) : Nat → Nat → List Ofpact
  | 0, _ => []
  | fuel + 1, pos =>
    if pos < b.size then
      match b.recordStartingAt pos with
      | some a => a :: ofpactForEach b fuel (pos + roundUp a.len 8)
      | none => []
    else []

theorem OfpactBody.rawSize_ge (body : OfpactBody) : 4 ≤ body.rawSize := by
  cases body <;> simp [OfpactBody.rawSize] <;> omega

theorem Ofpbuf.aligned_append (x y : Ofpbuf) (off : Nat) :
    Ofpbuf.Aligned (x ++ y) off ↔ Ofpbuf.Aligned x off ∧ Ofpbuf.Aligned y (off + x.size) := by
  induction x generalizing off with
  | nil => simp [Ofpbuf.Aligned]
  | cons c x ih =>
    cases c <;> simp only [List.cons_append, Ofpbuf.Aligned, List.append_eq, ih, Ofpbuf.size_cons,
      Chunk.size, Nat.add_assoc, and_assoc]

theorem Ofpbuf.aligned_padAfter {off : Nat} (h : off % 8 = 0) (n : Nat) :
    Ofpbuf.Aligned (padAfter n) (off + n) := by
  unfold padAfter
  split
  · trivial
  · exact ⟨by omega, by omega, by omega, trivial⟩

theorem Ofpbuf.aligned_paddedLayout (as : List Ofpact) {off : Nat} (h : off % 8 = 0) :
    Ofpbuf.Aligned (paddedLayout as) off := by
  induction as generalizing off with
  | nil => trivial
  | cons a as ih =>
    have h1 := size_padAfter a.body.rawSize
    have h2 := roundUp_mod a.body.rawSize
    rw [paddedLayout_cons, List.cons_append, Ofpbuf.Aligned, Ofpbuf.aligned_append]
    exact ⟨h, Ofpbuf.aligned_padAfter h _, ih (by omega)⟩

theorem IsLayout.aligned {b : Ofpbuf} (h : IsLayout b) : Ofpbuf.Aligned b 0 := by
  rcases h with h | h
  · rw [h]
    rcases List.eq_nil_or_concat b.ofpacts with hn | ⟨as, a, ha⟩
    · rw [hn]; trivial
    · rw [ha, List.concat_eq_append, ofpactLayout_append_singleton, Ofpbuf.aligned_append]
      exact ⟨Ofpbuf.aligned_paddedLayout as rfl, by
        simp [Ofpbuf.Aligned, paddedLayout_aligned]⟩
  · rw [h, ofpactPad_ofpactLayout]
    exact Ofpbuf.aligned_paddedLayout _ rfl

theorem Ofpbuf.recordStartingAt_append (x y : Ofpbuf) (pos : Nat) :
    Ofpbuf.recordStartingAt (x ++ y) (x.size + pos) = Ofpbuf.recordStartingAt y pos := by
  induction x with
  | nil => simp
  | cons c x ih =>
    simp only [List.cons_append, Ofpbuf.recordStartingAt, Ofpbuf.size_cons, List.append_eq]
    rw [if_neg (by omega), show c.size + Ofpbuf.size x + pos - c.size = Ofpbuf.size x + pos by omega, ih]

theorem Ofpbuf.recordStartingAt_ofpact (a : Ofpact) (b : Ofpbuf) :
    Ofpbuf.recordStartingAt (.ofpact a :: b) 0 = some a := by
  simp [Ofpbuf.recordStartingAt, Chunk.size, show 0 < a.body.rawSize from
    Nat.lt_of_lt_of_le (by decide) (OfpactBody.rawSize_ge _)]

theorem Ofpact.len_of_fits {a : Ofpact} (h : a.body.rawSize < 65536) : a.len = a.body.rawSize :=
  Nat.mod_eq_of_lt h

/-- `OFPACT_FOR_EACH` steps from each record over its pad to the next. -/
theorem ofpactForEach_paddedLayout {b pre tail : Ofpbuf} {as : List Ofpact}
    (hb : b = pre ++ paddedLayout as ++ tail) (hfit : Fits as)
    (fuel : Nat) :
    ofpactForEach b (as.length + fuel) pre.size =
      as ++ ofpactForEach b fuel (pre.size + (paddedLayout as).size) := by
  induction as generalizing pre with
  | nil => simp
  | cons a as ih =>
    have hlen := Ofpact.len_of_fits (hfit a (List.mem_cons_self _ _))
    have hpad := size_padAfter a.body.rawSize
    have hat : b.recordStartingAt pre.size = some a := by
      have := Ofpbuf.recordStartingAt_append pre
        (.ofpact a :: (padAfter a.body.rawSize ++ paddedLayout as ++ tail)) 0
      rw [Nat.add_zero, Ofpbuf.recordStartingAt_ofpact] at this
      rw [← this, hb, paddedLayout_cons]
      simp
    have hlt : pre.size < b.size := by
      have := OfpactBody.rawSize_ge a.body
      simp [hb, paddedLayout_cons, Chunk.size]; omega
    rw [List.length_cons, Nat.add_right_comm]
    simp only [ofpactForEach, if_pos hlt, hat, hlen, List.cons_append, List.cons.injEq, true_and]
    have hb' : b = (pre ++ .ofpact a :: padAfter a.body.rawSize) ++ paddedLayout as ++ tail := by
      simp [hb, paddedLayout_cons]
    have hstep : pre.size + roundUp a.body.rawSize 8 =
        (pre ++ .ofpact a :: padAfter a.body.rawSize).size := by
      simp [Chunk.size, ← hpad, Nat.add_assoc]
    rcases as with _ | ⟨a', as⟩
    · simp [hstep, paddedLayout_cons, Chunk.size, ← hpad, Nat.add_assoc]
    rw [hstep, ih hb' (fun x hx => hfit x (List.mem_cons_of_mem _ hx))]
    simp [paddedLayout_cons, Chunk.size, Nat.add_assoc]

/-- The last record of an unpadded layout is visited, and then the walk is at
the end. -/
theorem ofpactForEach_last {b pre : Ofpbuf} {a : Ofpact} (hb : b = pre ++ [.ofpact a]) :
    ofpactForEach b 1 pre.size = [a] := by
  have hat : b.recordStartingAt pre.size = some a := by
    have := Ofpbuf.recordStartingAt_append pre [.ofpact a] 0
    rwa [Nat.add_zero, Ofpbuf.recordStartingAt_ofpact, ← hb] at this
  have hlt : pre.size < b.size := by
    have := OfpactBody.rawSize_ge a.body
    simp [hb, Chunk.size]; omega
  simp [ofpactForEach, hlt, hat]

theorem ofpactForEach_ofpactLayout {as : List Ofpact} (hfit : Fits as) :
    ofpactForEach (ofpactLayout as) as.length 0 = as := by
  rcases List.eq_nil_or_concat as with rfl | ⟨as, a, rfl⟩
  · rfl
  · rw [List.concat_eq_append] at hfit ⊢
    have hb : ofpactLayout (as ++ [a]) = [] ++ paddedLayout as ++ [.ofpact a] :=
      ofpactLayout_append_singleton as a
    have h1 := ofpactForEach_paddedLayout hb (fun x hx => hfit x (by simp [hx])) 1
    rw [Ofpbuf.size_nil, Nat.zero_add, ofpactForEach_last (ofpactLayout_append_singleton as a)]
      at h1
    rwa [List.length_append, List.length_singleton]

theorem ofpactForEach_paddedLayout_self {as : List Ofpact} (hfit : Fits as) :
    ofpactForEach (paddedLayout as) as.length 0 = as := by
  simpa [ofpactForEach] using
    ofpactForEach_paddedLayout (show paddedLayout as = [] ++ paddedLayout as ++ [] by simp) hfit 0

/-- `OFPACT_FOR_EACH` visits exactly the records of a layout whose records fit
their `len`. -/
theorem IsLayout.forEach {b : Ofpbuf} (h : IsLayout b) (hfit : Fits b.ofpacts) :
    ofpactForEach b b.ofpacts.length 0 = b.ofpacts := by
  rcases h with h | h <;> rw [h]
  · simpa using ofpactForEach_ofpactLayout hfit
  · simpa [ofpactPad_ofpactLayout] using ofpactForEach_paddedLayout_self hfit

theorem roundUp_of_mod {n : Nat} (h : n % 8 = 0) : roundUp n 8 = n := by
  unfold roundUp; omega

/-- `ofpact_pad` rounds the size up to the alignment. -/
theorem ofpactPad_size_eq (b : Ofpbuf) : (ofpactPad b).size = roundUp b.size 8 := by
  unfold ofpactPad roundUp OFP_ACTION_ALIGN
  split <;> simp [Chunk.size] <;> omega

theorem IsLayout.ofpactPad_eq {b : Ofpbuf} (h : IsLayout b) :
    ofpactPad b = paddedLayout b.ofpacts := by
  rcases h with h | h <;> rw [h] <;>
    simp [ofpactPad_ofpactLayout, ofpactPad_of_aligned (paddedLayout_aligned _)]

theorem IsLayout.roundUp_size {b : Ofpbuf} (h : IsLayout b) :
    roundUp b.size 8 = (b.ofpacts.map fun a => roundUp a.body.rawSize 8).sum := by
  rw [← ofpactPad_size_eq, h.ofpactPad_eq, paddedLayout_size]

/-- Spec §3.1's well-formed ofpacts buffer: records at 8-byte aligned offsets
with only `ofpact_pad`'s zeros between them; each record's 16-bit `len` is its
size and covers at least the `struct ofpact` header, so that `OFPACT_FOR_EACH`
visits exactly the records; and the size rounded up to the alignment is the
sum of the records' rounded `len`s. -/
structure Ofpbuf.WellFormed (b : Ofpbuf) : Prop where
  aligned : Ofpbuf.Aligned b 0
  len_eq : ∀ a ∈ b.ofpacts, 4 ≤ a.len ∧ a.len = a.body.rawSize
  forEach : ofpactForEach b b.ofpacts.length 0 = b.ofpacts
  roundUp_size : roundUp b.size 8 = (b.ofpacts.map fun a => roundUp a.len 8).sum

theorem IsLayout.wellFormed {b : Ofpbuf} (h : IsLayout b) (hfit : Fits b.ofpacts) :
    b.WellFormed where
  aligned := h.aligned
  len_eq a ha := by
    rw [Ofpact.len_of_fits (hfit a ha)]
    exact ⟨OfpactBody.rawSize_ge _, rfl⟩
  forEach := h.forEach hfit
  roundUp_size := by
    rw [h.roundUp_size]
    congr 1
    exact List.map_congr_left fun a ha => by rw [Ofpact.len_of_fits (hfit a ha)]

/-- `ofpacts_from_openflow` ends a successful walk with `ofpact_pad`. -/
theorem ofpactsFromOpenflow_aligned {f : List UInt8 → Decoded} {fuel : Nat} {a : List UInt8}
    {left : Nat} {out : Ofpbuf} (h : (ofpactsFromOpenflow f fuel a left out).2 = none) :
    (ofpactsFromOpenflow f fuel a left out).1.size % 8 = 0 := by
  rw [ofpactsFromOpenflow_eq] at h ⊢
  obtain ⟨hall, hl⟩ := decodeAt_eq_none h
  simp only [decodeAt_of_ok hall, ofpactsFromOpenflowEnd, hl, ne_eq, not_true_eq_false, if_false]
  exact ofpactPad_size _

theorem ofpactsPullActions_aligned {translate : List UInt8 → Nat → Ofpbuf → Ofpbuf × Option Ofperr}
    (ht : ∀ a n out, (translate a n []) = (out, none) → out.size % 8 = 0)
    (openflow : List UInt8) (len : Nat) (prior : Ofpbuf) :
    (ofpactsPullActions translate openflow len prior).ofpacts.size % 8 = 0 := by
  by_cases he : (ofpactsPullActions translate openflow len prior).error = none
  · obtain ⟨-, -, out, hout, -, hp⟩ := ofpactsPullActions_ok he
    rw [hp]
    exact ht _ _ _ hout
  · by_cases hl : len % 8 = 0 ∧ len ≤ openflow.length
    · rw [(ofpactsPullActions_pulled translate prior hl.1 hl.2).2 he]; rfl
    · rw [ofpactsPullActions_badLen translate prior (by omega)]; rfl

/-- The buffer every pull leaves is well formed; after an action pull, which
ends with `ofpact_pad`, its size is the sum of the records' rounded `len`s. -/
theorem pull_buffer_wellFormed {co : Collab} (hfit : co.SubFits) (centec : Bool) (d : Dialect)
    (openflow : List UInt8) (len : Nat) (prior : Ofpbuf) :
    (d.pull co centec openflow len prior).ofpacts.WellFormed ∧
      (d ≠ .openflow11Instructions →
        (d.pull co centec openflow len prior).ofpacts.size =
          ((d.pull co centec openflow len prior).ofpacts.ofpacts.map fun a => roundUp a.len 8).sum) := by
  have hwf := (Dialect.pull_isLayout co centec d openflow len prior).wellFormed
    (Dialect.pull_fits hfit centec d openflow len prior)
  refine ⟨hwf, fun hd => ?_⟩
  rw [← hwf.roundUp_size, roundUp_of_mod]
  have ht : ∀ f a n out, ofpactsFromOpenflow f n a n [] = (out, none) → out.size % 8 = 0 := by
    intro f a n out h
    have := ofpactsFromOpenflow_aligned (show (ofpactsFromOpenflow f n a n []).2 = none by rw [h])
    rwa [h] at this
  cases d
  · exact ofpactsPullActions_aligned (fun a n out => ht _ a n out) openflow len prior
  · exact ofpactsPullActions_aligned (fun a n out => ht _ a n out) openflow len prior
  · exact absurd rfl hd

theorem pull_buffer_wellFormed_set_vlan_vid :
    Collab.rejectAll.SubFits ∧ Dialect.openflow10 ≠ .openflow11Instructions ∧
      (Dialect.openflow10.pull Collab.rejectAll false [0, 1, 0, 8, 0, 5, 0, 0] 8 []).error = none ∧
      (Dialect.openflow10.pull Collab.rejectAll false [0, 1, 0, 8, 0, 5, 0, 0] 8
        []).ofpacts.WellFormed ∧
      (Dialect.openflow10.pull Collab.rejectAll false [0, 1, 0, 8, 0, 5, 0, 0] 8 []).ofpacts.size =
        ((Dialect.openflow10.pull Collab.rejectAll false [0, 1, 0, 8, 0, 5, 0, 0] 8
          []).ofpacts.ofpacts.map fun a => roundUp a.len 8).sum :=
  have h := pull_buffer_wellFormed Collab.rejectAll_subFits false .openflow10
    [0, 1, 0, 8, 0, 5, 0, 0] 8 []
  ⟨Collab.rejectAll_subFits, by decide, by decide, h.1, h.2 (by decide)⟩

/-- A lone clear-actions instruction leaves a 4-byte buffer: the instruction
pull puts its synthesised records with no `ofpact_pad` after the last, so the
size is not the 8 bytes of the record's rounded `len`. -/
theorem clear_actions_buffer_unpadded :
    (ofpactsPullOpenflow11Instructions Collab.rejectAll false [0, 5, 0, 8, 0, 0, 0, 0] 8 []).error =
        none ∧
      (ofpactsPullOpenflow11Instructions Collab.rejectAll false [0, 5, 0, 8, 0, 0, 0, 0] 8
        []).ofpacts = [.ofpact ⟨.clearActions, .actionInvalid⟩] ∧
      Ofpbuf.size [.ofpact ⟨.clearActions, .actionInvalid⟩] = 4 ∧
      roundUp (Ofpact.len ⟨.clearActions, .actionInvalid⟩) 8 = 8 := by
  decide

end OfpActions
