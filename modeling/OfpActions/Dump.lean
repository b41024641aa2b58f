import Mathlib.Data.List.Basic
import Mathlib.Data.Nat.Digits
import OfpActions.Format

/-!
# Dump — what the text of a record tells

`ofpact_format` only writes (spec §4.I), but its text is canonical: every
field it prints can be read back. `readOfpact` is such a reader. It takes the
word before the first `:` or `(`, then the fields in the layout of that
word's `ds_put_format`, and it splits at the separators `,` `.` `:` `/` and
`=`, which no `%u`, `%x` or `%#x` conversion writes.

The text does not show `compat` (but as `set_tunnel`'s `64` suffix and as
the id list of a `dec_ttl`), the `max_len` of an output to a port other than
`CONTROLLER`, nor the ethertype of a push-VLAN outside the Centec build.
`Ofpact.shown` sets those to fixed values, and the text of a record is that
of its `shown` (`ofpactFormat_shown`). Of a record whose text `ofpact_format`
writes without a collaborator, the reader recovers the `shown`
(`readOfpact_ofpactFormat`), so two such records have the same text exactly
when they show the same fields (`ofpactFormat_eq_iff`).

The text of a list, `actions=` and its records' texts between commas, splits
back at the commas outside parentheses (`splitTop`). So the dump of what a
pull left gives back what every record shows, in order
(`readDump_ofpactsFormat_pull`), and two pulls print the same dump exactly
when their records show the same fields (`ofpactsFormat_pull_eq_iff`).
-/

namespace OfpActions

/-! ## Digits -/

/-- The value of a digit character of `%u` or `%x`. -/
def digitValue (c : Char) : Nat := if c.toNat < 58 then c.toNat - 48 else c.toNat - 87

/-- The number a run of base-`b` digits writes. -/
def readDigits (b : Nat) (s : List Char) : Nat := s.foldl (fun n c => b * n + digitValue c) 0

/-- The characters that separate the fields of a record's text. -/
def separators : List Char := [':', '.', ',', '/', '=', '(', ')']

theorem digitValue_digitChar {d : Nat} (h : d < 16) : digitValue (Nat.digitChar d) = d := by
  revert d; decide

theorem digitChar_not_mem_separators {d : Nat} (h : d < 16) : Nat.digitChar d ∉ separators := by
  revert d; decide

theorem foldl_toDigitsCore {b : Nat} (hb : 2 ≤ b) (hb' : b ≤ 16) :
    ∀ fuel n (ds : List Char), n < fuel →
      (Nat.toDigitsCore b fuel n ds).foldl (fun m c => b * m + digitValue c) 0 =
        ds.foldl (fun m c => b * m + digitValue c) n := by
  intro fuel
  induction fuel with
  | zero => intro n ds h; omega
  | succ fuel ih =>
    intro n ds h
    have hd : digitValue (Nat.digitChar (n % b)) = n % b :=
      digitValue_digitChar (Nat.lt_of_lt_of_le (Nat.mod_lt _ (by omega)) hb')
    simp only [Nat.toDigitsCore]
    split
    · rename_i h0
      simp only [List.foldl_cons, Nat.mul_zero, Nat.zero_add, hd]
      rw [Nat.mod_eq_of_lt ((Nat.div_eq_zero_iff (by omega)).1 h0)]
    · rename_i h0
      have hlt : n / b < n := Nat.div_lt_self (Nat.pos_of_ne_zero fun h => h0 (by simp [h])) hb
      rw [ih _ _ (by omega), List.foldl_cons, hd, Nat.div_add_mod]

@[simp] theorem readDigits_toDigits {b : Nat} (hb : 2 ≤ b) (hb' : b ≤ 16) (n : Nat) :
    readDigits b (Nat.toDigits b n) = n :=
  foldl_toDigitsCore hb hb' (n + 1) n [] (Nat.lt_succ_self n)

theorem mem_toDigitsCore {b fuel n : Nat} {ds : List Char} {c : Char} (hb : 0 < b)
    (h : c ∈ Nat.toDigitsCore b fuel n ds) : c ∈ ds ∨ ∃ d < b, c = Nat.digitChar d := by
  induction fuel generalizing n ds with
  | zero => exact .inl h
  | succ fuel ih =>
    simp only [Nat.toDigitsCore] at h
    split at h
    · rcases List.mem_cons.1 h with h | h
      exacts [.inr ⟨_, Nat.mod_lt _ hb, h⟩, .inl h]
    · rcases ih h with h | h
      · rcases List.mem_cons.1 h with h | h
        exacts [.inr ⟨_, Nat.mod_lt _ hb, h⟩, .inl h]
      · exact .inr h

theorem separator_not_mem_toDigits {b n : Nat} (hb : 0 < b) (hb' : b ≤ 16) {c : Char}
    (hc : c ∈ separators) : c ∉ Nat.toDigits b n := fun h => by
  rcases mem_toDigitsCore hb h with h | ⟨d, hd, rfl⟩
  · exact List.not_mem_nil _ h
  · exact digitChar_not_mem_separators (by omega) hc

theorem toDigitsCore_ne_nil {b : Nat} :
    ∀ {fuel n} {ds : List Char}, ds ≠ [] → Nat.toDigitsCore b fuel n ds ≠ [] := by
  intro fuel
  induction fuel with
  | zero => exact fun h => h
  | succ fuel ih =>
    intro n ds _
    simp only [Nat.toDigitsCore]
    split
    · exact List.cons_ne_nil _ _
    · exact ih (List.cons_ne_nil _ _)

theorem toDigits_ne_nil (b n : Nat) : Nat.toDigits b n ≠ [] := by
  simp only [Nat.toDigits, Nat.toDigitsCore]
  split
  · exact List.cons_ne_nil _ _
  · exact toDigitsCore_ne_nil (List.cons_ne_nil _ _)

theorem fmtDec_ne_nil (n : Nat) : fmtDec n ≠ [] := toDigits_ne_nil 10 n

theorem fmtHexPad_ne_nil (w n : Nat) : fmtHexPad w n ≠ [] :=
  fun h => toDigits_ne_nil 16 n (List.append_eq_nil.1 h).2

theorem intercalate_map_ne_nil {α : Type} (sep : List Char) {f : α → List Char}
    (hf : ∀ a, f a ≠ []) (a : α) (l : List α) : sep.intercalate ((a :: l).map f) ≠ [] := by
  cases l <;> simp [List.intercalate, List.intersperse, hf]

theorem readDigits_replicate_zero (b k : Nat) (s : List Char) :
    readDigits b (List.replicate k '0' ++ s) = readDigits b s := by
  have : ∀ k, (List.replicate k '0').foldl (fun n c => b * n + digitValue c) 0 = 0 := by
    intro k; induction k with
    | zero => rfl
    | succ k ih => rw [List.replicate_succ, List.foldl_cons]; exact ih
  rw [readDigits, List.foldl_append, this]; rfl

@[simp] theorem readDigits_fmtDec (n : Nat) : readDigits 10 (fmtDec n) = n :=
  readDigits_toDigits (by decide) (by decide) n

@[simp] theorem readDigits_fmtHexPad (w n : Nat) : readDigits 16 (fmtHexPad w n) = n := by
  rw [fmtHexPad, readDigits_replicate_zero, fmtHex, readDigits_toDigits (by decide) (by decide)]

/-- `%#x` read back: the digits after `0x`. -/
def readHexAlt (s : List Char) : Nat := readDigits 16 (s.drop 2)

@[simp] theorem readHexAlt_fmtHexAlt (n : Nat) : readHexAlt (fmtHexAlt n) = n := by
  unfold readHexAlt fmtHexAlt
  split
  · subst n; rfl
  · exact readDigits_toDigits (by decide) (by decide) n

theorem separator_not_mem_fmtDec {n : Nat} {c : Char} (hc : c ∈ separators) : c ∉ fmtDec n :=
  separator_not_mem_toDigits (by decide) (by decide) hc

theorem separator_not_mem_fmtHexPad {w n : Nat} {c : Char} (hc : c ∈ separators) :
    c ∉ fmtHexPad w n := fun h => by
  rcases List.mem_append.1 h with h | h
  · rw [List.eq_of_mem_replicate h] at hc; exact absurd hc (by decide)
  · exact separator_not_mem_toDigits (by decide) (by decide) hc h

theorem separator_not_mem_fmtHexAlt {n : Nat} {c : Char} (hc : c ∈ separators) :
    c ∉ fmtHexAlt n := fun h => by
  unfold fmtHexAlt at h
  split at h
  · rw [List.mem_singleton.1 h] at hc; exact absurd hc (by decide)
  · rcases List.mem_cons.1 h with rfl | h
    · exact absurd hc (by decide)
    rcases List.mem_cons.1 h with rfl | h
    · exact absurd hc (by decide)
    · exact separator_not_mem_toDigits (by decide) (by decide) hc h

/-! ## Fields -/

/-- `ETH_ADDR_FMT` read back: six `%02x` fields between `:`. -/
def readEthAddr (s : List Char) : Option EthAddr :=
  if h : (s.splitOn ':').length = 6 then
    some ⟨(s.splitOn ':').map fun p => UInt8.ofNat (readDigits 16 p), by rw [List.length_map, h]⟩
  else none

/-- `IP_FMT` read back: four `%u` bytes between `.`, most significant first. -/
def readIp (s : List Char) : UInt32 :=
  UInt32.ofNat (((s.splitOn '.').map (readDigits 10)).foldl (fun n x => 256 * n + x) 0)

/-- The bytes of `print_note` read back: `%02x` fields between `.`. -/
def readNoteData (s : List Char) : List UInt8 :=
  if s = [] then [] else (s.splitOn '.').map fun p => UInt8.ofNat (readDigits 16 p)

/-- The ids of `print_dec_ttl` read back: `%u` fields between `,`. -/
def readCntIds (s : List Char) : List UInt16 :=
  if s = [] then [] else (s.splitOn ',').map fun p => UInt16.ofNat (readDigits 10 p)

/-- A `%u` field after `key=` in the first of `items` that starts so, or
`dflt` when none does. -/
def readKey (key : List Char) (dflt : Nat) (items : List (List Char)) : Nat :=
  match items.find? fun i => (key ++ ['=']).isPrefixOf i with
  | some i => readDigits 10 (i.drop (key.length + 1))
  | none => dflt

/-- Splitting at `x` a text made of fields joined by `x` gives the fields back,
when `x` is a separator and every field is the image of `f`, which writes no
separator. -/
theorem splitOn_intercalate_map {α : Type} (x : Char) (hx : x ∈ separators) (f : α → List Char)
    (hf : ∀ a, ∀ c ∈ separators, c ∉ f a) (l : List α) (hl : l ≠ []) :
    ([x].intercalate (l.map f)).splitOn x = l.map f :=
  List.splitOn_intercalate _ x (fun _ hm => by
    obtain ⟨a, -, rfl⟩ := List.mem_map.1 hm
    exact hf a x hx) (by simpa using hl)

theorem readEthAddr_ethAddrFmt (mac : EthAddr) : readEthAddr (ethAddrFmt mac) = some mac := by
  rcases mac with ⟨bytes, hlen⟩
  have hs := splitOn_intercalate_map ':' (by decide) (fun b : UInt8 => fmtHexPad 2 b.toNat)
    (fun _ _ hc => separator_not_mem_fmtHexPad hc) bytes
    (fun h => by simp [h] at hlen)
  simp only [readEthAddr, ethAddrFmt, hs, List.length_map, hlen, dite_true, List.map_map,
    Option.some.injEq, EthAddr.mk.injEq]
  exact List.map_id'' (fun _ => by
    simp only [Function.comp_apply, readDigits_fmtHexPad, uint8_ofNat_toNat]) _

/-- The bytes of an address below `2 ^ 32`, most significant first, give it back. -/
theorem ip_bytes {n : Nat} (h : n < 2 ^ 32) :
    256 * (256 * (256 * (n >>> 24) + (n >>> 16 &&& 0xff)) + (n >>> 8 &&& 0xff)) + (n &&& 0xff) =
      n := by
  have hand : ∀ x : Nat, x &&& 0xff = x % 256 := fun x => Nat.and_pow_two_sub_one_eq_mod x 8
  simp only [hand, Nat.shiftRight_eq_div_pow]
  omega

theorem readIp_bytes (a b c d : Nat) :
    readIp (['.'].intercalate ([a, b, c, d].map fmtDec)) =
      UInt32.ofNat (256 * (256 * (256 * a + b) + c) + d) := by
  rw [readIp, splitOn_intercalate_map '.' (by decide) fmtDec
    (fun _ _ hc => separator_not_mem_fmtDec hc) [a, b, c, d] (List.cons_ne_nil _ _)]
  simp only [List.map_cons, List.map_nil, readDigits_fmtDec, List.foldl_cons, List.foldl_nil,
    Nat.mul_zero, Nat.zero_add]

theorem readIp_ipFmt (ip : UInt32) : readIp (ipFmt ip) = ip := by
  rw [ipFmt, readIp_bytes,
    ip_bytes (show ip.toNat < 2 ^ 32 from ip.toBitVec.isLt), uint32_ofNat_toNat]

theorem readNoteData_printNote (data : List UInt8) :
    readNoteData (['.'].intercalate (data.map fun b => fmtHexPad 2 b.toNat)) = data := by
  rcases data with _ | ⟨b, data⟩
  · rfl
  rw [readNoteData, if_neg (intercalate_map_ne_nil _ (fun _ => fmtHexPad_ne_nil _ _) _ _),
    splitOn_intercalate_map '.' (by decide) (fun b : UInt8 => fmtHexPad 2 b.toNat)
      (fun _ _ hc => separator_not_mem_fmtHexPad hc) (b :: data) (List.cons_ne_nil b data),
    List.map_map]
  exact List.map_id'' (fun _ => by
    simp only [Function.comp_apply, readDigits_fmtHexPad, uint8_ofNat_toNat]) _

theorem readCntIds_printDecTtl (ids : List UInt16) :
    readCntIds ([','].intercalate (ids.map fun id => fmtDec id.toNat)) = ids := by
  rcases ids with _ | ⟨i, ids⟩
  · rfl
  rw [readCntIds, if_neg (intercalate_map_ne_nil _ (fun _ => fmtDec_ne_nil _) _ _),
    splitOn_intercalate_map ',' (by decide) (fun i : UInt16 => fmtDec i.toNat)
      (fun _ _ hc => separator_not_mem_fmtDec hc) (i :: ids) (List.cons_ne_nil i ids),
    List.map_map]
  exact List.map_id'' (fun _ => by
    simp only [Function.comp_apply, readDigits_fmtDec, uint16_ofNat_toNat]) _

/-! ## Keyed items -/

/-- A `key=%u` item of the `controller(...)` and `fin_timeout(...)` texts,
without the `,` that follows it. -/
def keyItem (key : List Char) (n : Nat) : List Char := key ++ '=' :: fmtDec n

/-- The items of a parenthesised text as `ds_put_format` writes them, each
followed by `,`, then `ds_chomp` of the last `,`: the items joined by `,`. -/
theorem dsChomp_items (p : List Char) (hp : p.getLast? ≠ some ',') (items : List (List Char)) :
    dsChomp (p ++ (items.map (· ++ [','])).flatten) ',' = p ++ [','].intercalate items := by
  rcases items with _ | ⟨i, items⟩
  · rw [List.map_nil, List.flatten_nil, List.append_nil, dsChomp, if_neg hp]
    exact (List.append_nil p).symm
  have hflat : ∀ i (items : List (List Char)),
      ((i :: items).map (· ++ [','])).flatten = [','].intercalate (i :: items) ++ [','] := by
    intro i items
    induction items generalizing i with
    | nil => simp [List.intercalate]
    | cons j items ih =>
      rw [List.map_cons, List.flatten_cons, ih]
      simp [List.intercalate, List.intersperse]
  rw [hflat, dsChomp, ← List.append_assoc, List.getLast?_concat, if_pos rfl, List.dropLast_concat]

theorem readKey_keyItem_self (key : List Char) (dflt n : Nat) (items : List (List Char)) :
    readKey key dflt (keyItem key n :: items) = n := by
  have hkey : keyItem key n = (key ++ ['=']) ++ fmtDec n := by simp [keyItem]
  have hpre : (key ++ ['=']).isPrefixOf (keyItem key n) = true := by
    rw [List.isPrefixOf_iff_prefix, hkey]; exact List.prefix_append _ _
  have hdrop : (keyItem key n).drop (key.length + 1) = fmtDec n := by
    rw [hkey]; exact List.drop_left' (by simp)
  simp only [readKey, List.find?_cons, hpre, hdrop, readDigits_fmtDec]

theorem readKey_keyItem_other {key key' : List Char} (dflt n : Nat) (items : List (List Char))
    (h : (key' ++ ['=']).isPrefixOf (keyItem key n) = false) :
    readKey key' dflt (keyItem key n :: items) = readKey key' dflt items := by
  simp only [readKey, List.find?_cons, h]

/-! ## The reader -/

/-- The words that begin the texts `ofpact_format` writes itself, up to their
first `:` or `(`. -/
inductive Word
  | output | controllerCompact | controller | resubmit | modVlanVid | modVlanPcp | stripVlan
  | pushVlan | modDlSrc | modDlDst | modNwSrc | modNwDst | modNwTos | modTpSrc | modTpDst
  | decTtl | decNwTtl | setTunnel | setTunnel64 | setQueue | popQueue | finTimeout | note
  | pushMpls | popMpls | pushL2 | popL2 | setMplsTtl | exit | clearActions | writeMetadata
  | gotoTable | group | meter
  deriving DecidableEq

def Word.text : Word → List Char
  | .output => "output".toList
  | .controllerCompact => "CONTROLLER".toList
  | .controller => "controller".toList
  | .resubmit => "resubmit".toList
  | .modVlanVid => "mod_vlan_vid".toList
  | .modVlanPcp => "mod_vlan_pcp".toList
  | .stripVlan => "strip_vlan".toList
  | .pushVlan => "push_vlan".toList
  | .modDlSrc => "mod_dl_src".toList
  | .modDlDst => "mod_dl_dst".toList
  | .modNwSrc => "mod_nw_src".toList
  | .modNwDst => "mod_nw_dst".toList
  | .modNwTos => "mod_nw_tos".toList
  | .modTpSrc => "mod_tp_src".toList
  | .modTpDst => "mod_tp_dst".toList
  | .decTtl => "dec_ttl".toList
  | .decNwTtl => "dec_nw_ttl".toList
  | .setTunnel => "set_tunnel".toList
  | .setTunnel64 => "set_tunnel64".toList
  | .setQueue => "set_queue".toList
  | .popQueue => "pop_queue".toList
  | .finTimeout => "fin_timeout".toList
  | .note => "note".toList
  | .pushMpls => "push_mpls".toList
  | .popMpls => "pop_mpls".toList
  | .pushL2 => "push_l2".toList
  | .popL2 => "pop_l2".toList
  | .setMplsTtl => "set_mpls_ttl".toList
  | .exit => "exit".toList
  | .clearActions => "clear_actions".toList
  | .writeMetadata => "write_metadata".toList
  | .gotoTable => "goto_table".toList
  | .group => "group".toList
  | .meter => "meter".toList

def Word.all : List Word :=
  [.output, .controllerCompact, .controller, .resubmit, .modVlanVid, .modVlanPcp, .stripVlan,
    .pushVlan, .modDlSrc, .modDlDst, .modNwSrc, .modNwDst, .modNwTos, .modTpSrc, .modTpDst,
    .decTtl, .decNwTtl, .setTunnel, .setTunnel64, .setQueue, .popQueue, .finTimeout, .note,
    .pushMpls, .popMpls, .pushL2, .popL2, .setMplsTtl, .exit, .clearActions, .writeMetadata,
    .gotoTable, .group, .meter]

/-- The word a text begins with. -/
def Word.ofText? (s : List Char) : Option Word := Word.all.find? (·.text = s)

/-- The characters a word can hold: all but `:` and `(`. -/
def notSep (c : Char) : Bool := c != ':' && c != '('

/-- Reads the fields that follow the word of a record's text. -/
def readArgs : Word → List Char → Option Ofpact
  | .output, r => some ⟨.output (UInt16.ofNat (readDigits 10 (r.drop 1))) 0, .actionInvalid⟩
  | .controllerCompact, r =>
    some ⟨.controller (UInt16.ofNat (readDigits 10 (r.drop 1))) 0 OFPR_ACTION, .actionInvalid⟩
  | .controller, r =>
    some ⟨.controller (UInt16.ofNat (readKey "max_len".toList 0xffff (((r.drop 1).dropLast).splitOn ',')))
      (UInt16.ofNat (readKey "id".toList 0 (((r.drop 1).dropLast).splitOn ','))) OFPR_ACTION,
      .actionInvalid⟩
  | .resubmit, r =>
    some ⟨.resubmit OFPP_IN_PORT
      (if ((r.drop 2).dropLast) = [] then 255 else UInt8.ofNat (readDigits 10 ((r.drop 2).dropLast))),
      .actionInvalid⟩
  | .modVlanVid, r => some ⟨.setVlanVid (UInt16.ofNat (readDigits 10 (r.drop 1))), .actionInvalid⟩
  | .modVlanPcp, r => some ⟨.setVlanPcp (UInt8.ofNat (readDigits 10 (r.drop 1))), .actionInvalid⟩
  | .stripVlan, _ => some ⟨.stripVlan, .actionInvalid⟩
  | .pushVlan, r => some ⟨.pushVlan (UInt16.ofNat (readHexAlt (r.drop 1))), .actionInvalid⟩
  | .modDlSrc, r => (readEthAddr (r.drop 1)).map fun mac => ⟨.setEthSrc mac, .actionInvalid⟩
  | .modDlDst, r => (readEthAddr (r.drop 1)).map fun mac => ⟨.setEthDst mac, .actionInvalid⟩
  | .modNwSrc, r => some ⟨.setIpv4Src (readIp (r.drop 1)), .actionInvalid⟩
  | .modNwDst, r => some ⟨.setIpv4Dst (readIp (r.drop 1)), .actionInvalid⟩
  | .modNwTos, r => some ⟨.setIpv4Dscp (UInt8.ofNat (readDigits 10 (r.drop 1))), .actionInvalid⟩
  | .modTpSrc, r => some ⟨.setL4SrcPort (UInt16.ofNat (readDigits 10 (r.drop 1))), .actionInvalid⟩
  | .modTpDst, r => some ⟨.setL4DstPort (UInt16.ofNat (readDigits 10 (r.drop 1))), .actionInvalid⟩
  | .decTtl, r =>
    if r = [] then some ⟨.decTtl [], .actionInvalid⟩
    else some ⟨.decTtl (readCntIds ((r.drop 1).dropLast)), .nxast .decTtlCntIds⟩
  | .decNwTtl, _ => some ⟨.decTtl [], .actionInvalid⟩
  | .setTunnel, r => some ⟨.setTunnel (UInt64.ofNat (readHexAlt (r.drop 1))), .actionInvalid⟩
  | .setTunnel64, r => some ⟨.setTunnel (UInt64.ofNat (readHexAlt (r.drop 1))), .nxast .setTunnel64⟩
  | .setQueue, r => some ⟨.setQueue (UInt32.ofNat (readDigits 10 (r.drop 1))), .actionInvalid⟩
  | .popQueue, _ => some ⟨.popQueue, .actionInvalid⟩
  | .finTimeout, r =>
    some ⟨.finTimeout
      (UInt16.ofNat (readKey "idle_timeout".toList 0 (((r.drop 1).dropLast).splitOn ',')))
      (UInt16.ofNat (readKey "hard_timeout".toList 0 (((r.drop 1).dropLast).splitOn ','))),
      .actionInvalid⟩
  | .note, r => some ⟨.note (readNoteData (r.drop 1)), .actionInvalid⟩
  | .pushMpls, r => some ⟨.pushMpls (UInt16.ofNat (readDigits 16 (r.drop 3))), .actionInvalid⟩
  | .popMpls, r => some ⟨.popMpls (UInt16.ofNat (readDigits 16 (r.drop 3))), .actionInvalid⟩
  | .pushL2, _ => some ⟨.pushL2, .actionInvalid⟩
  | .popL2, _ => some ⟨.popL2, .actionInvalid⟩
  | .setMplsTtl, r => some ⟨.setMplsTtl (UInt8.ofNat (readDigits 10 (r.drop 1))), .actionInvalid⟩
  | .exit, _ => some ⟨.exit, .actionInvalid⟩
  | .clearActions, _ => some ⟨.clearActions, .actionInvalid⟩
  | .writeMetadata, r =>
    match (r.drop 1).splitOn '/' with
    | [md] => some ⟨.writeMetadata (UInt64.ofNat (readHexAlt md)) 0xffffffffffffffff, .actionInvalid⟩
    | [md, mask] =>
      some ⟨.writeMetadata (UInt64.ofNat (readHexAlt md)) (UInt64.ofNat (readHexAlt mask)),
        .actionInvalid⟩
    | _ => none
  | .gotoTable, r => some ⟨.gotoTable (UInt8.ofNat (readDigits 10 (r.drop 1))), .actionInvalid⟩
  | .group, r => some ⟨.group (UInt32.ofNat (readDigits 10 (r.drop 1))), .actionInvalid⟩
  | .meter, r => some ⟨.meter (UInt32.ofNat (readDigits 10 (r.drop 1))), .actionInvalid⟩

/-- Reads a record back from its text: the word, then its fields. -/
def readOfpact (s : List Char) : Option Ofpact :=
  (Word.ofText? (s.takeWhile notSep)).bind fun w => readArgs w (s.dropWhile notSep)

theorem Word.ofText?_text (w : Word) : Word.ofText? w.text = some w := by
  cases w <;> decide

theorem Word.notSep_text (w : Word) : ∀ c ∈ w.text, notSep c = true :=
  List.all_eq_true.1 (by cases w <;> rfl)

/-- A text made of a word and what follows it from a `:` or a `(` on is read
as the fields after that word. -/
theorem readOfpact_of_eq (w : Word) (rest : List Char) {s : List Char} (hs : s = w.text ++ rest)
    (hr : notSep (rest.headD ':') = false) : readOfpact s = readArgs w rest := by
  have htake : rest.takeWhile notSep = [] := by
    cases rest with
    | nil => rfl
    | cons c r => simp only [List.headD_cons] at hr; simp [List.takeWhile_cons, hr]
  have hdrop : rest.dropWhile notSep = rest := by
    cases rest with
    | nil => rfl
    | cons c r => simp only [List.headD_cons] at hr; simp [List.dropWhile_cons, hr]
  rw [hs, readOfpact, List.takeWhile_append_of_pos (Word.notSep_text w), htake, List.append_nil,
    Word.ofText?_text, List.dropWhile_append_of_pos (Word.notSep_text w), hdrop, Option.some_bind]

/-! ## Parenthesised items -/

theorem comma_not_mem_keyItem {key : List Char} (hk : ',' ∉ key) (n : Nat) :
    ',' ∉ keyItem key n := by
  simp only [keyItem, List.mem_append, List.mem_cons, not_or]
  exact ⟨hk, by decide, separator_not_mem_fmtDec (by decide)⟩

theorem comma_not_mem_optItem {key : List Char} (hk : ',' ∉ key) (c : Prop) [Decidable c]
    (n : Nat) : ∀ i ∈ (if c then [keyItem key n] else []), ',' ∉ i := by
  split
  · intro i hi; rw [List.mem_singleton.1 hi]; exact comma_not_mem_keyItem hk n
  · exact fun i hi => absurd hi (List.not_mem_nil i)

/-- A text without `x` is one field. -/
theorem splitOn_of_not_mem {x : Char} {l : List Char} (h : x ∉ l) : l.splitOn x = [l] := by
  have := List.splitOn_intercalate [l] x (by simpa using h) (List.cons_ne_nil _ _)
  rwa [show [x].intercalate [l] = l by simp [List.intercalate]] at this

/-- The items between the parentheses, split at `,`. -/
theorem splitOn_items {items : List (List Char)} (h : ∀ i ∈ items, ',' ∉ i) :
    ([','].intercalate items).splitOn ',' = if items = [] then [[]] else items := by
  rcases items with _ | ⟨i, items⟩
  · rfl
  · exact List.splitOn_intercalate _ ',' h (List.cons_ne_nil _ _)

/-- An item as `ds_put_format` writes it when its condition holds. -/
theorem keyItem_text (keyEq key : List Char) (hk : keyEq = key ++ ['='])
    (n : Nat) (c : Prop) [Decidable c] :
    (if c then keyEq ++ fmtDec n ++ [','] else []) =
      ((if c then [keyItem key n] else []).map (· ++ [','])).flatten := by
  subst hk; split <;> simp [keyItem]

theorem printFinTimeout_eq (finIdleTimeout finHardTimeout : UInt16) :
    printFinTimeout finIdleTimeout finHardTimeout = Word.finTimeout.text ++ '(' ::
      ([','].intercalate
        ((if finIdleTimeout ≠ 0 then [keyItem "idle_timeout".toList finIdleTimeout.toNat] else []) ++
          (if finHardTimeout ≠ 0 then [keyItem "hard_timeout".toList finHardTimeout.toNat]
            else [])) ++ [')']) := by
  rw [printFinTimeout, keyItem_text "idle_timeout=".toList "idle_timeout".toList rfl,
    keyItem_text "hard_timeout=".toList "hard_timeout".toList rfl, List.append_assoc, ← List.flatten_append,
    ← List.map_append, dsChomp_items _ (by decide)]
  rfl

theorem ofpactFormat_controller_eq (fc : FormatCollab) (centec : Bool) (maxLen controllerId : UInt16)
    (compat : OfputilActionCode) (h : controllerId ≠ 0) :
    ofpactFormat fc centec ⟨.controller maxLen controllerId OFPR_ACTION, compat⟩ =
      Word.controller.text ++ '(' :: ([','].intercalate
        ((if maxLen ≠ 0xffff then [keyItem "max_len".toList maxLen.toNat] else []) ++
          [keyItem "id".toList controllerId.toNat]) ++ [')']) := by
  show (if OFPR_ACTION = OFPR_ACTION ∧ controllerId = 0 then _ else _) = _
  rw [if_neg fun h' => h h'.2, if_neg (not_not_intro rfl), List.append_nil,
    keyItem_text "max_len=".toList "max_len".toList rfl,
    keyItem_text "id=".toList "id".toList rfl, if_pos h, List.append_assoc, ← List.flatten_append,
    ← List.map_append, dsChomp_items _ (by decide)]
  rfl

/-! ## What the text shows -/

/-- The records whose text `ofpact_format` writes without a collaborator: all
but an output to a port from `OFPP_MAX` on, a controller action for another
reason than `OFPR_ACTION`, a resubmit from a port other than `OFPP_IN_PORT`,
an `enqueue`, an `output_reg`, and the sub-codecs' kinds. -/
def OfpactBody.selfFormatted : OfpactBody → Bool
  | .output port _ => decide (port.toNat < OFPP_MAX)
  | .controller _ _ reason => reason == OFPR_ACTION
  | .resubmit inPort _ => inPort == OFPP_IN_PORT
  | .enqueue .. | .outputReg .. | .sub .. => false
  | _ => true

/-- The record as its text shows it. `ofpact_format` shows `compat` only as
the `64` of `set_tunnel64` and as the id list of `dec_ttl(...)`; it leaves out
the `max_len` of an output to a port other than `OFPP_CONTROLLER` and of an
`output_reg`, the ethertype of a push-VLAN outside the Centec build, and the
ids of a `dec_ttl` it prints without a list. Those are set to fixed values. -/
def Ofpact.shown (centec : Bool) (a : Ofpact) : Ofpact :=
  match a.body with
  | .output port maxLen =>
    ⟨.output port (if port = OFPP_CONTROLLER then maxLen else 0), .actionInvalid⟩
  | .outputReg src _ => ⟨.outputReg src 0, .actionInvalid⟩
  | .pushVlan ethertype =>
    ⟨.pushVlan (if centec then ethertype else ETH_TYPE_VLAN_8021Q), .actionInvalid⟩
  | .decTtl cntIds =>
    if centec = false ∧ a.compat = .nxast .decTtlCntIds then ⟨.decTtl cntIds, a.compat⟩
    else ⟨.decTtl [], .actionInvalid⟩
  | .setTunnel tunId =>
    ⟨.setTunnel tunId,
      if 0xffffffff < tunId.toNat ∨ a.compat = .nxast .setTunnel64 then .nxast .setTunnel64
      else .actionInvalid⟩
  | body => ⟨body, .actionInvalid⟩

/-- The text of a record is the text of what it shows. -/
theorem ofpactFormat_shown (fc : FormatCollab) (centec : Bool) (a : Ofpact) :
    ofpactFormat fc centec (a.shown centec) = ofpactFormat fc centec a := by
  rcases a with ⟨body, compat⟩
  cases body
  case output port maxLen =>
    by_cases h : port = OFPP_CONTROLLER <;> simp [Ofpact.shown, ofpactFormat, h]
  case pushVlan ethertype => cases centec <;> rfl
  case decTtl cntIds =>
    cases centec
    · by_cases h : compat = .nxast .decTtlCntIds <;> simp [Ofpact.shown, ofpactFormat, printDecTtl, h]
    · rfl
  case setTunnel tunId =>
    by_cases h : 0xffffffff < tunId.toNat ∨ compat = .nxast .setTunnel64
    · simp [Ofpact.shown, ofpactFormat, h]
    · rw [not_or] at h
      simp [Ofpact.shown, ofpactFormat, h]
  all_goals rfl

/-! ## The text determines what it shows -/

theorem word_colon_append (w : Word) (lit : List Char) (h : lit = w.text ++ [':']) (rest : List Char) :
    lit ++ rest = w.text ++ ':' :: rest := by
  rw [h, List.append_assoc, List.singleton_append]

/-- No `,`, `(` or `)`: a part of a dump that no `,` of `ofpacts_format` can
be confused with. -/
def Plain (t : List Char) : Prop := ∀ c ∈ t, c ≠ ',' ∧ c ≠ '(' ∧ c ≠ ')'

instance (t : List Char) : Decidable (Plain t) :=
  inferInstanceAs (Decidable (∀ c ∈ t, c ≠ ',' ∧ c ≠ '(' ∧ c ≠ ')'))

/-- What follows the word of a record's text: plain, or one parenthesised part
with no parenthesis inside. -/
def Enclosed (rest : List Char) : Prop :=
  Plain rest ∨ ∃ x, rest = '(' :: (x ++ [')']) ∧ ∀ c ∈ x, c ≠ '(' ∧ c ≠ ')'

/-- The fields after a word, as `readArgs` reads them to `s` and as a dump can
split them off. -/
def Laid (w : Word) (rest : List Char) (s : Ofpact) : Prop :=
  notSep (rest.headD ':') = false ∧ readArgs w rest = some s ∧ Enclosed rest

theorem forall_mem_intercalate {P : Char → Prop} {sep : List Char} (hsep : ∀ c ∈ sep, P c) :
    ∀ {ls : List (List Char)}, (∀ x ∈ ls, ∀ c ∈ x, P c) → ∀ c ∈ sep.intercalate ls, P c
  | [], _ => fun c h => absurd h (List.not_mem_nil c)
  | [x], h => by simpa [List.intercalate] using h x (List.mem_singleton_self x)
  | x :: y :: ls, h => by
    have hc : sep.intercalate (x :: y :: ls) = x ++ (sep ++ sep.intercalate (y :: ls)) := by
      simp [List.intercalate, List.intersperse]
    rw [hc]
    refine List.forall_mem_append.2 ⟨h x (List.mem_cons_self _ _),
      List.forall_mem_append.2 ⟨hsep, forall_mem_intercalate hsep fun z hz => h z ?_⟩⟩
    exact List.mem_cons_of_mem _ hz

theorem plain_of_separators {t : List Char} (h : ∀ c ∈ separators, c ∉ t) : Plain t :=
  fun _ hc => ⟨fun e => h ',' (by decide) (e ▸ hc), fun e => h '(' (by decide) (e ▸ hc),
    fun e => h ')' (by decide) (e ▸ hc)⟩

theorem plain_fmtDec (n : Nat) : Plain (fmtDec n) :=
  plain_of_separators fun _ hc => separator_not_mem_fmtDec hc

theorem plain_fmtHexAlt (n : Nat) : Plain (fmtHexAlt n) :=
  plain_of_separators fun _ hc => separator_not_mem_fmtHexAlt hc

theorem plain_fmtHexPad (w n : Nat) : Plain (fmtHexPad w n) :=
  plain_of_separators fun _ hc => separator_not_mem_fmtHexPad hc

theorem plain_intercalate_map {α : Type} {sep : List Char} (hsep : Plain sep) {f : α → List Char}
    (hf : ∀ a, Plain (f a)) (l : List α) : Plain (sep.intercalate (l.map f)) :=
  forall_mem_intercalate hsep fun _ hx => by
    obtain ⟨a, -, rfl⟩ := List.mem_map.1 hx
    exact hf a

theorem laid_colon {w : Word} {x : List Char} {s : Ofpact} (hr : readArgs w (':' :: x) = some s)
    (hx : Plain x) : Laid w (':' :: x) s :=
  ⟨rfl, hr, .inl (List.forall_mem_cons.2 ⟨by decide, hx⟩)⟩

theorem laid_nil {w : Word} {s : Ofpact} (hr : readArgs w [] = some s) : Laid w [] s :=
  ⟨rfl, hr, .inl fun _ h => absurd h (List.not_mem_nil _)⟩

theorem laid_paren {w : Word} {x : List Char} {s : Ofpact}
    (hr : readArgs w ('(' :: (x ++ [')'])) = some s) (hx : ∀ c ∈ x, c ≠ '(' ∧ c ≠ ')') :
    Laid w ('(' :: (x ++ [')'])) s :=
  ⟨rfl, hr, .inr ⟨x, rfl, hx⟩⟩

theorem noParens_keyItems {items : List (List Char)}
    (h : ∀ i ∈ items, ∀ c ∈ i, c ≠ '(' ∧ c ≠ ')') :
    ∀ c ∈ [','].intercalate items, c ≠ '(' ∧ c ≠ ')' :=
  forall_mem_intercalate (by decide) h

theorem noParens_keyItem {key : List Char} (hk : ∀ c ∈ key, c ≠ '(' ∧ c ≠ ')') (n : Nat) :
    ∀ c ∈ keyItem key n, c ≠ '(' ∧ c ≠ ')' := by
  refine List.forall_mem_append.2 ⟨hk, List.forall_mem_cons.2 ⟨by decide, fun c hc => ?_⟩⟩
  exact ⟨(plain_fmtDec n c hc).2.1, (plain_fmtDec n c hc).2.2⟩

theorem noParens_optItem {key : List Char} (hk : ∀ c ∈ key, c ≠ '(' ∧ c ≠ ')') (p : Prop)
    [Decidable p] (n : Nat) : ∀ i ∈ (if p then [keyItem key n] else []), ∀ c ∈ i, c ≠ '(' ∧ c ≠ ')' := by
  split
  · intro i hi; rw [List.mem_singleton.1 hi]; exact noParens_keyItem hk n
  · exact fun i hi => absurd hi (List.not_mem_nil i)

/-- How `ofpact_format` lays out the text of a record it writes without a
collaborator: a word, then fields from which the record's shown fields are
read back, and which hold `(`, `)` and `,` only as one parenthesised part. -/
theorem ofpactFormat_laid (fc : FormatCollab) (centec : Bool) {a : Ofpact}
    (hb : a.body.inBuild centec = true) (hs : a.body.selfFormatted = true) :
    ∃ w rest, ofpactFormat fc centec a = w.text ++ rest ∧ Laid w rest (a.shown centec) := by
  rcases a with ⟨body, compat⟩
  cases body
  case output port maxLen =>
    have hp : port.toNat < OFPP_MAX := of_decide_eq_true hs
    have hc : port ≠ OFPP_CONTROLLER := fun h => absurd (h ▸ hp) (by decide)
    refine ⟨.output, ':' :: fmtDec port.toNat,
      show (if port.toNat < OFPP_MAX then _ else _) = _ by rw [if_pos hp]; rfl,
      laid_colon ?_ (plain_fmtDec _)⟩
    simp only [readArgs, List.drop_succ_cons, List.drop_zero, readDigits_fmtDec, uint16_ofNat_toNat,
      Ofpact.shown, if_neg hc]
  case controller maxLen controllerId reason =>
    obtain rfl : reason = OFPR_ACTION := beq_iff_eq.1 hs
    by_cases h0 : controllerId = 0
    · subst h0
      exact ⟨.controllerCompact, ':' :: fmtDec maxLen.toNat, rfl,
        laid_colon (by simp [readArgs, Ofpact.shown]) (plain_fmtDec _)⟩
    have hn : ∀ i ∈ (if maxLen ≠ 0xffff then [keyItem "max_len".toList maxLen.toNat] else []) ++
        [keyItem "id".toList controllerId.toNat], ∀ c ∈ i, c ≠ '(' ∧ c ≠ ')' := fun i hi =>
      (List.mem_append.1 hi).elim (noParens_optItem (by decide) _ _ i) fun hi =>
        List.mem_singleton.1 hi ▸ noParens_keyItem (by decide) _
    refine ⟨.controller, _, (ofpactFormat_controller_eq fc centec _ _ _ h0 :),
      laid_paren ?_ (noParens_keyItems hn)⟩
    have hi : ∀ i ∈ (if maxLen ≠ 0xffff then [keyItem "max_len".toList maxLen.toNat] else []) ++
        [keyItem "id".toList controllerId.toNat], ',' ∉ i := fun i hi =>
      (List.mem_append.1 hi).elim (comma_not_mem_optItem (by decide) _ _ i) fun hi =>
        List.mem_singleton.1 hi ▸ comma_not_mem_keyItem (by decide) _
    simp only [readArgs, List.drop_one, List.tail_cons, List.dropLast_concat, splitOn_items hi,
      if_neg (List.append_ne_nil_of_right_ne_nil _ (List.cons_ne_nil _ _))]
    by_cases hm : maxLen = 0xffff
    · subst hm
      rw [if_neg (not_not_intro rfl), List.nil_append, readKey_keyItem_other, readKey_keyItem_self,
        uint16_ofNat_toNat]
      · rfl
      · rfl
    · rw [if_pos hm, List.singleton_append, readKey_keyItem_self, readKey_keyItem_other,
        readKey_keyItem_self]
      · simp [Ofpact.shown]
      · rfl
  case resubmit inPort tableId =>
    obtain rfl : inPort = OFPP_IN_PORT := beq_iff_eq.1 hs
    refine ⟨.resubmit, '(' :: (',' :: (if tableId ≠ 255 then fmtDec tableId.toNat else []) ++ [')']),
      by dsimp only [ofpactFormat]; rw [if_neg fun h => h.1 rfl, if_neg (not_not_intro rfl)]; rfl,
      laid_paren ?_ (List.forall_mem_cons.2 ⟨by decide, fun c hc => ?_⟩)⟩
    · simp only [readArgs, List.drop_succ_cons, List.drop_zero, List.cons_append,
        List.dropLast_concat]
      by_cases ht : tableId = 255
      · subst ht; rfl
      · rw [if_pos ht, if_neg (fmtDec_ne_nil _), readDigits_fmtDec, uint8_ofNat_toNat]; rfl
    · split at hc
      · exact ⟨(plain_fmtDec _ c hc).2.1, (plain_fmtDec _ c hc).2.2⟩
      · exact absurd hc (List.not_mem_nil c)
  case enqueue | outputReg | sub => cases hs
  case setVlanVid v =>
    refine ⟨.modVlanVid, ':' :: fmtDec v.toNat, rfl, laid_colon ?_ (plain_fmtDec _)⟩
    simp only [readArgs, List.drop_succ_cons, List.drop_zero, readDigits_fmtDec, uint16_ofNat_toNat]
    rfl
  case setVlanPcp p =>
    refine ⟨.modVlanPcp, ':' :: fmtDec p.toNat, rfl, laid_colon ?_ (plain_fmtDec _)⟩
    simp only [readArgs, List.drop_succ_cons, List.drop_zero, readDigits_fmtDec, uint8_ofNat_toNat]
    rfl
  case stripVlan => exact ⟨.stripVlan, [], rfl, laid_nil rfl⟩
  case pushVlan e =>
    refine ⟨.pushVlan, ':' :: fmtHexAlt (if centec then e else ETH_TYPE_VLAN_8021Q).toNat, rfl,
      laid_colon ?_ (plain_fmtHexAlt _)⟩
    simp only [readArgs, List.drop_succ_cons, List.drop_zero, readHexAlt_fmtHexAlt,
      uint16_ofNat_toNat]
    rfl
  case setEthSrc mac =>
    refine ⟨.modDlSrc, ':' :: ethAddrFmt mac, rfl,
      laid_colon ?_ (plain_intercalate_map (by decide) (fun _ => plain_fmtHexPad _ _) _)⟩
    simp only [readArgs, List.drop_succ_cons, List.drop_zero, readEthAddr_ethAddrFmt,
      Option.map_some']
    rfl
  case setEthDst mac =>
    refine ⟨.modDlDst, ':' :: ethAddrFmt mac, rfl,
      laid_colon ?_ (plain_intercalate_map (by decide) (fun _ => plain_fmtHexPad _ _) _)⟩
    simp only [readArgs, List.drop_succ_cons, List.drop_zero, readEthAddr_ethAddrFmt,
      Option.map_some']
    rfl
  case setIpv4Src ip =>
    refine ⟨.modNwSrc, ':' :: ipFmt ip, rfl,
      laid_colon ?_ (plain_intercalate_map (by decide) plain_fmtDec _)⟩
    simp only [readArgs, List.drop_succ_cons, List.drop_zero, readIp_ipFmt]
    rfl
  case setIpv4Dst ip =>
    refine ⟨.modNwDst, ':' :: ipFmt ip, rfl,
      laid_colon ?_ (plain_intercalate_map (by decide) plain_fmtDec _)⟩
    simp only [readArgs, List.drop_succ_cons, List.drop_zero, readIp_ipFmt]
    rfl
  case setIpv4Dscp d =>
    refine ⟨.modNwTos, ':' :: fmtDec d.toNat, rfl, laid_colon ?_ (plain_fmtDec _)⟩
    simp only [readArgs, List.drop_succ_cons, List.drop_zero, readDigits_fmtDec, uint8_ofNat_toNat]
    rfl
  case setL4SrcPort p =>
    refine ⟨.modTpSrc, ':' :: fmtDec p.toNat, rfl, laid_colon ?_ (plain_fmtDec _)⟩
    simp only [readArgs, List.drop_succ_cons, List.drop_zero, readDigits_fmtDec, uint16_ofNat_toNat]
    rfl
  case setL4DstPort p =>
    refine ⟨.modTpDst, ':' :: fmtDec p.toNat, rfl, laid_colon ?_ (plain_fmtDec _)⟩
    simp only [readArgs, List.drop_succ_cons, List.drop_zero, readDigits_fmtDec, uint16_ofNat_toNat]
    rfl
  case decTtl ids =>
    cases centec
    · by_cases hc : compat = .nxast .decTtlCntIds
      · subst hc
        refine ⟨.decTtl, '(' :: ([','].intercalate (ids.map fun id => fmtDec id.toNat) ++ [')']),
          rfl, laid_paren ?_ (forall_mem_intercalate (by decide) fun x hx c hc => ?_)⟩
        · simp only [readArgs, List.cons_ne_nil, if_false, List.drop_succ_cons, List.drop_zero,
            List.dropLast_concat, readCntIds_printDecTtl]
          rfl
        · obtain ⟨i, -, rfl⟩ := List.mem_map.1 hx
          exact ⟨(plain_fmtDec _ c hc).2.1, (plain_fmtDec _ c hc).2.2⟩
      · refine ⟨.decTtl, [], show "dec_ttl".toList ++ (if compat = .nxast .decTtlCntIds then _ else _)
          = _ by rw [if_neg hc]; rfl, laid_nil ?_⟩
        simp [readArgs, Ofpact.shown, hc]
    · exact ⟨.decNwTtl, [], rfl, laid_nil rfl⟩
  case pushMpls e =>
    refine ⟨.pushMpls, ':' :: '0' :: 'x' :: fmtHexPad 4 e.toNat, rfl,
      laid_colon ?_ (List.forall_mem_cons.2 ⟨by decide, List.forall_mem_cons.2 ⟨by decide,
        plain_fmtHexPad _ _⟩⟩)⟩
    simp only [readArgs, List.drop_succ_cons, List.drop_zero, readDigits_fmtHexPad,
      uint16_ofNat_toNat]
    rfl
  case popMpls e =>
    refine ⟨.popMpls, ':' :: '0' :: 'x' :: fmtHexPad 4 e.toNat, rfl,
      laid_colon ?_ (List.forall_mem_cons.2 ⟨by decide, List.forall_mem_cons.2 ⟨by decide,
        plain_fmtHexPad _ _⟩⟩)⟩
    simp only [readArgs, List.drop_succ_cons, List.drop_zero, readDigits_fmtHexPad,
      uint16_ofNat_toNat]
    rfl
  case setTunnel t =>
    by_cases hc : 0xffffffff < t.toNat ∨ compat = .nxast .setTunnel64
    · refine ⟨.setTunnel64, ':' :: fmtHexAlt t.toNat,
        show "set_tunnel".toList ++ (if 0xffffffff < t.toNat ∨ compat = .nxast .setTunnel64
          then _ else _) ++ _ = _ by rw [if_pos hc]; rfl, laid_colon ?_ (plain_fmtHexAlt _)⟩
      simp [readArgs, Ofpact.shown, hc]
    · refine ⟨.setTunnel, ':' :: fmtHexAlt t.toNat,
        show "set_tunnel".toList ++ (if 0xffffffff < t.toNat ∨ compat = .nxast .setTunnel64
          then _ else _) ++ _ = _ by rw [if_neg hc]; rfl, laid_colon ?_ (plain_fmtHexAlt _)⟩
      simp [readArgs, Ofpact.shown, hc]
  case setQueue q =>
    refine ⟨.setQueue, ':' :: fmtDec q.toNat, rfl, laid_colon ?_ (plain_fmtDec _)⟩
    simp only [readArgs, List.drop_succ_cons, List.drop_zero, readDigits_fmtDec, uint32_ofNat_toNat]
    rfl
  case popQueue => exact ⟨.popQueue, [], rfl, laid_nil rfl⟩
  case finTimeout idle hard =>
    have hn : ∀ i ∈ (if idle ≠ 0 then [keyItem "idle_timeout".toList idle.toNat] else []) ++
        (if hard ≠ 0 then [keyItem "hard_timeout".toList hard.toNat] else []),
        ∀ c ∈ i, c ≠ '(' ∧ c ≠ ')' :=
      fun i hi => (List.mem_append.1 hi).elim (noParens_optItem (by decide) _ _ i)
        (noParens_optItem (by decide) _ _ i)
    refine ⟨.finTimeout, _, (printFinTimeout_eq idle hard :), laid_paren ?_ (noParens_keyItems hn)⟩
    have hi : ∀ i ∈ (if idle ≠ 0 then [keyItem "idle_timeout".toList idle.toNat] else []) ++
        (if hard ≠ 0 then [keyItem "hard_timeout".toList hard.toNat] else []), ',' ∉ i :=
      fun i hi => (List.mem_append.1 hi).elim (comma_not_mem_optItem (by decide) _ _ i)
        (comma_not_mem_optItem (by decide) _ _ i)
    simp only [readArgs, List.drop_succ_cons, List.drop_zero, List.dropLast_concat, splitOn_items hi]
    by_cases h1 : idle = 0 <;> by_cases h2 : hard = 0
    · subst h1 h2
      rfl
    · subst h1
      rw [if_neg (not_not_intro rfl), if_pos h2, List.nil_append, if_neg (List.cons_ne_nil _ _),
        readKey_keyItem_other, readKey_keyItem_self, uint16_ofNat_toNat]
      · rfl
      · rfl
    · subst h2
      rw [if_pos h1, if_neg (not_not_intro rfl), List.append_nil, if_neg (List.cons_ne_nil _ _),
        readKey_keyItem_self, readKey_keyItem_other, uint16_ofNat_toNat]
      · rfl
      · rfl
    · rw [if_pos h1, if_pos h2, List.singleton_append, if_neg (List.cons_ne_nil _ _),
        readKey_keyItem_self, readKey_keyItem_other, readKey_keyItem_self, uint16_ofNat_toNat,
        uint16_ofNat_toNat]
      · rfl
      · rfl
  case note data =>
    refine ⟨.note, _, (word_colon_append .note "note:".toList rfl
      (['.'].intercalate (data.map fun b => fmtHexPad 2 b.toNat)) :),
      laid_colon ?_ (plain_intercalate_map (by decide) (fun _ => plain_fmtHexPad _ _) _)⟩
    simp only [readArgs, List.drop_succ_cons, List.drop_zero, readNoteData_printNote]
    rfl
  case exit => exact ⟨.exit, [], rfl, laid_nil rfl⟩
  case writeMetadata md mask =>
    refine ⟨.writeMetadata, ':' :: (fmtHexAlt md.toNat ++
      if mask ≠ 0xffffffffffffffff then '/' :: fmtHexAlt mask.toNat else []),
      show (ofpactInstructionNameFromType .writeMetadata ++ ':' :: fmtHexAlt md.toNat) ++ _ = _ by
        rw [List.append_assoc, List.cons_append]; rfl,
      laid_colon ?_ (List.forall_mem_append.2 ⟨plain_fmtHexAlt _, ?_⟩)⟩
    · simp only [readArgs, List.drop_succ_cons, List.drop_zero]
      by_cases hm : mask = 0xffffffffffffffff
      · subst hm
        rw [if_neg (not_not_intro rfl), List.append_nil,
          splitOn_of_not_mem (separator_not_mem_fmtHexAlt (by decide))]
        simp only [readHexAlt_fmtHexAlt, uint64_ofNat_toNat]
        rfl
      · rw [if_pos hm, show fmtHexAlt md.toNat ++ '/' :: fmtHexAlt mask.toNat =
            ['/'].intercalate ([md.toNat, mask.toNat].map fmtHexAlt) by simp [List.intercalate],
          splitOn_intercalate_map '/' (by decide) fmtHexAlt
            (fun _ _ hc => separator_not_mem_fmtHexAlt hc) _ (List.cons_ne_nil _ _)]
        simp only [List.map_cons, List.map_nil, readHexAlt_fmtHexAlt, uint64_ofNat_toNat]
        rfl
    · split
      · exact List.forall_mem_cons.2 ⟨by decide, plain_fmtHexAlt _⟩
      · exact fun _ h => absurd h (List.not_mem_nil _)
  case clearActions => exact ⟨.clearActions, [], rfl, laid_nil rfl⟩
  case gotoTable t =>
    refine ⟨.gotoTable, ':' :: fmtDec t.toNat, rfl, laid_colon ?_ (plain_fmtDec _)⟩
    simp only [readArgs, List.drop_succ_cons, List.drop_zero, readDigits_fmtDec, uint8_ofNat_toNat]
    rfl
  case pushL2 =>
    obtain rfl : centec = true := hb
    exact ⟨.pushL2, [], rfl, laid_nil rfl⟩
  case popL2 =>
    obtain rfl : centec = true := hb
    exact ⟨.popL2, [], rfl, laid_nil rfl⟩
  case setMplsTtl t =>
    obtain rfl : centec = true := hb
    refine ⟨.setMplsTtl, ':' :: fmtDec t.toNat, rfl, laid_colon ?_ (plain_fmtDec _)⟩
    simp only [readArgs, List.drop_succ_cons, List.drop_zero, readDigits_fmtDec, uint8_ofNat_toNat]
    rfl
  case group g =>
    obtain rfl : centec = true := hb
    refine ⟨.group, ':' :: fmtDec g.toNat, rfl, laid_colon ?_ (plain_fmtDec _)⟩
    simp only [readArgs, List.drop_succ_cons, List.drop_zero, readDigits_fmtDec, uint32_ofNat_toNat]
    rfl
  case meter m =>
    obtain rfl : centec = true := hb
    refine ⟨.meter, ':' :: fmtDec m.toNat, rfl, laid_colon ?_ (plain_fmtDec _)⟩
    simp only [readArgs, List.drop_succ_cons, List.drop_zero, readDigits_fmtDec, uint32_ofNat_toNat]
    rfl

/-- Of a record that `ofpact_format` writes without a collaborator, the text
gives back every field it shows. -/
theorem readOfpact_ofpactFormat (fc : FormatCollab) (centec : Bool) {a : Ofpact}
    (hb : a.body.inBuild centec = true) (hs : a.body.selfFormatted = true) :
    readOfpact (ofpactFormat fc centec a) = some (a.shown centec) := by
  obtain ⟨w, rest, he, hh, hr, -⟩ := ofpactFormat_laid fc centec hb hs
  rw [readOfpact_of_eq w rest he hh, hr]

/- A set_tunnel record whose `compat` names `NXAST_SET_TUNNEL64` keeps it
through its text, even for an id that fits 32 bits. -/
example :
    ofpactFormat FormatCollab.blank false ⟨.setTunnel 5, .nxast .setTunnel64⟩ =
        "set_tunnel64:0x5".toList ∧
      readOfpact (ofpactFormat FormatCollab.blank false ⟨.setTunnel 5, .nxast .setTunnel64⟩) =
        some (Ofpact.shown false ⟨.setTunnel 5, .nxast .setTunnel64⟩) :=
  ⟨by decide, readOfpact_ofpactFormat FormatCollab.blank false rfl rfl⟩

/-- Two records that `ofpact_format` writes without a collaborator have the
same text exactly when they show the same fields. -/
theorem ofpactFormat_eq_iff (fc : FormatCollab) (centec : Bool) {a b : Ofpact}
    (ha : a.body.inBuild centec = true) (ha' : a.body.selfFormatted = true)
    (hb : b.body.inBuild centec = true) (hb' : b.body.selfFormatted = true) :
    ofpactFormat fc centec a = ofpactFormat fc centec b ↔ a.shown centec = b.shown centec := by
  constructor
  · intro h
    have hr := readOfpact_ofpactFormat fc centec ha ha'
    rw [h, readOfpact_ofpactFormat fc centec hb hb'] at hr
    exact (Option.some.inj hr).symm
  · intro h
    rw [← ofpactFormat_shown fc centec a, h, ofpactFormat_shown]

/-- Outside the Centec build a push-VLAN prints `0x8100` whatever its
ethertype, so two push-VLANs of different ethertypes have one text. -/
theorem ofpactFormat_eq_iff_pushVlan :
    OfpactBody.inBuild false (.pushVlan 0x88a8) = true ∧
      OfpactBody.selfFormatted (.pushVlan 0x88a8) = true ∧
      OfpactBody.inBuild false (.pushVlan 0x8100) = true ∧
      OfpactBody.selfFormatted (.pushVlan 0x8100) = true ∧
      (ofpactFormat FormatCollab.blank false ⟨.pushVlan 0x88a8, .actionInvalid⟩ =
          ofpactFormat FormatCollab.blank false ⟨.pushVlan 0x8100, .actionInvalid⟩ ↔
        Ofpact.shown false ⟨.pushVlan 0x88a8, .actionInvalid⟩ =
          Ofpact.shown false ⟨.pushVlan 0x8100, .actionInvalid⟩) :=
  ⟨rfl, rfl, rfl, rfl, ofpactFormat_eq_iff FormatCollab.blank false rfl rfl rfl rfl⟩

/-! ## The dump of a list -/

/-- Splits a dump at the `,` outside parentheses: `depth` counts the
parentheses open, `cur` is what was read since the last split. -/
def splitTop : List Char → Nat → List Char → List (List Char)
  | [], _, cur => [cur]
  | c :: s, depth, cur =>
    if c = ',' ∧ depth = 0 then cur :: splitTop s 0 []
    else
      splitTop s (if c = '(' then depth + 1 else if c = ')' then depth - 1 else depth) (cur ++ [c])

/-- Reads the records back from the text `ofpacts_format` writes. -/
def readDump (s : List Char) : Option (List Ofpact) :=
  if s.take 8 = "actions=".toList then
    if s.drop 8 = "drop".toList then some [] else (splitTop (s.drop 8) 0 []).mapM readOfpact
  else none

theorem Word.plain_text (w : Word) : Plain w.text := by
  cases w <;> decide

theorem splitTop_of_plain {t : List Char} (ht : Plain t) (s : List Char) (d : Nat)
    (cur : List Char) : splitTop (t ++ s) d cur = splitTop s d (cur ++ t) := by
  induction t generalizing cur with
  | nil => rw [List.nil_append, List.append_nil]
  | cons c t ih =>
    obtain ⟨h1, h2, h3⟩ := ht c (List.mem_cons_self _ _)
    rw [List.cons_append, splitTop, if_neg fun h => h1 h.1, if_neg h2, if_neg h3,
      ih fun x hx => ht x (List.mem_cons_of_mem _ hx), List.append_assoc, List.singleton_append]

theorem splitTop_of_noParens {x : List Char} (hx : ∀ c ∈ x, c ≠ '(' ∧ c ≠ ')') (s : List Char)
    (d : Nat) (cur : List Char) : splitTop (x ++ s) (d + 1) cur = splitTop s (d + 1) (cur ++ x) := by
  induction x generalizing cur with
  | nil => rw [List.nil_append, List.append_nil]
  | cons c x ih =>
    obtain ⟨h2, h3⟩ := hx c (List.mem_cons_self _ _)
    rw [List.cons_append, splitTop, if_neg fun h => Nat.succ_ne_zero d h.2, if_neg h2, if_neg h3,
      ih fun y hy => hx y (List.mem_cons_of_mem _ hy), List.append_assoc, List.singleton_append]

/-- The split passes over a record's text as one part. -/
theorem splitTop_text (w : Word) {rest : List Char} (h : Enclosed rest) (s cur : List Char) :
    splitTop (w.text ++ rest ++ s) 0 cur = splitTop s 0 (cur ++ (w.text ++ rest)) := by
  rcases h with h | ⟨x, rfl, hx⟩
  · rw [splitTop_of_plain (List.forall_mem_append.2 ⟨w.plain_text, h⟩)]
  · have hp : splitTop ('(' :: (x ++ [')']) ++ s) 0 (cur ++ w.text) =
        splitTop s 0 (cur ++ w.text ++ '(' :: (x ++ [')'])) := by
      rw [List.cons_append, splitTop, if_neg fun h => absurd h.1 (by decide), if_pos rfl,
        List.append_assoc, splitTop_of_noParens hx, List.singleton_append, splitTop,
        if_neg fun h => absurd h.1 (by decide), if_neg (by decide), if_pos rfl]
      simp
    rw [List.append_assoc, splitTop_of_plain w.plain_text, hp, List.append_assoc]

/-- Texts of records, joined by `,`, split back into those texts. -/
theorem splitTop_intercalate {ts : List (List Char)}
    (h : ∀ t ∈ ts, ∃ (w : Word) (rest : List Char), t = w.text ++ rest ∧ Enclosed rest) (hne : ts ≠ []) :
    splitTop ([','].intercalate ts) 0 [] = ts := by
  induction ts with
  | nil => exact absurd rfl hne
  | cons t ts ih =>
    obtain ⟨w, rest, rfl, hr⟩ := h _ (List.mem_cons_self _ _)
    rcases ts with _ | ⟨t', ts⟩
    · simpa [List.intercalate] using splitTop_text w hr [] []
    · have hc : [','].intercalate ((w.text ++ rest) :: t' :: ts) =
          w.text ++ rest ++ ',' :: [','].intercalate (t' :: ts) := by
        simp [List.intercalate, List.intersperse]
      rw [hc, splitTop_text w hr, List.nil_append, splitTop, if_pos ⟨rfl, rfl⟩,
        ih (fun t ht => h t (List.mem_cons_of_mem _ ht)) (List.cons_ne_nil _ _)]

theorem mapM_map_eq_some {α β : Type} {f : α → List Char} {g : List Char → Option β} {k : α → β}
    {l : List α} (h : ∀ a ∈ l, g (f a) = some (k a)) : (l.map f).mapM g = some (l.map k) := by
  induction l with
  | nil => rfl
  | cons a l ih =>
    rw [List.map_cons, List.mapM_cons, h a (List.mem_cons_self _ _),
      ih fun x hx => h x (List.mem_cons_of_mem _ hx)]
    rfl

/-- Of a list of records that `ofpact_format` writes without a collaborator,
the text that `ofpacts_format` prints for them gives back every field it shows,
record by record. -/
theorem readDump_intercalate (fc : FormatCollab) (centec : Bool) {as : List Ofpact}
    (h : ∀ a ∈ as, a.body.inBuild centec = true ∧ a.body.selfFormatted = true) :
    readDump ("actions=".toList ++ if as = [] then "drop".toList
      else [','].intercalate (as.map (ofpactFormat fc centec))) = some (as.map (Ofpact.shown centec)) := by
  have hd : ∀ t : List Char, ("actions=".toList ++ t).take 8 = "actions=".toList ∧
      ("actions=".toList ++ t).drop 8 = t := fun t => ⟨by simp, by simp⟩
  rw [readDump, if_pos (hd _).1, (hd _).2]
  split
  · rename_i hn; subst hn; rfl
  rename_i hn
  have hl : ∀ t ∈ as.map (ofpactFormat fc centec),
      ∃ (w : Word) (rest : List Char), t = w.text ++ rest ∧ Enclosed rest := by
    intro t ht
    obtain ⟨a, ha, rfl⟩ := List.mem_map.1 ht
    obtain ⟨w, rest, he, hl⟩ := ofpactFormat_laid fc centec (h a ha).1 (h a ha).2
    exact ⟨w, rest, he, hl.2.2⟩
  have hsplit := splitTop_intercalate hl (by simpa using hn)
  have hread : ∀ a ∈ as, readOfpact (ofpactFormat fc centec a) = some (a.shown centec) :=
    fun a ha => readOfpact_ofpactFormat fc centec (h a ha).1 (h a ha).2
  rw [if_neg, hsplit, mapM_map_eq_some hread]
  intro hdrop
  obtain ⟨a, as', rfl⟩ := List.exists_cons_of_ne_nil hn
  rw [hdrop] at hsplit
  have h1 : ofpactFormat fc centec a = "drop".toList := by
    simpa using (List.cons.inj (show ["drop".toList] = _ from hsplit)).1.symm
  have hnone : readOfpact "drop".toList = none := by decide
  have := hread a (List.mem_cons_self _ _)
  rw [h1, hnone] at this
  cases this

/-- The text `ofpacts_format` prints for a layout is determined by what its
records show. -/
theorem ofpactsFormat_layout_shown (fc : FormatCollab) (centec : Bool) {b : Ofpbuf}
    (h : IsLayout b) (hfit : Fits b.ofpacts) :
    ofpactsFormat fc centec b = "actions=".toList ++
      if b.ofpacts.map (Ofpact.shown centec) = [] then "drop".toList
      else [','].intercalate ((b.ofpacts.map (Ofpact.shown centec)).map (ofpactFormat fc centec)) := by
  simp only [ofpactsFormat_layout fc centec h hfit, List.map_eq_nil_iff, List.map_map,
    Function.comp_def, ofpactFormat_shown]

/-- Over a layout whose records `ofpact_format` writes without a collaborator,
the text gives back what every record shows. -/
theorem readDump_layout (fc : FormatCollab) (centec : Bool) {b : Ofpbuf} (hl : IsLayout b)
    (hfit : Fits b.ofpacts)
    (h : ∀ a ∈ b.ofpacts, a.body.inBuild centec = true ∧ a.body.selfFormatted = true) :
    readDump (ofpactsFormat fc centec b) = some (b.ofpacts.map (Ofpact.shown centec)) := by
  rw [ofpactsFormat_layout fc centec hl hfit]
  exact readDump_intercalate fc centec h

/-- The flow-dump text of what a pull leaves in `ofpacts` gives back every
record the pull decoded, as far as its text shows it, when `ofpact_format`
writes each of them without a collaborator. -/
theorem readDump_ofpactsFormat_pull {co : Collab} (hfit : co.SubFits) (fc : FormatCollab)
    (centec : Bool) (d : Dialect) (openflow : List UInt8) (len : Nat) (prior : Ofpbuf)
    (h : ∀ a ∈ (d.pull co centec openflow len prior).ofpacts.ofpacts,
      a.body.inBuild centec = true ∧ a.body.selfFormatted = true) :
    readDump (ofpactsFormat fc centec (d.pull co centec openflow len prior).ofpacts) =
      some ((d.pull co centec openflow len prior).ofpacts.ofpacts.map (Ofpact.shown centec)) :=
  readDump_layout fc centec (Dialect.pull_isLayout co centec d openflow len prior)
    (Dialect.pull_fits hfit centec d openflow len prior) h

/-- A 1.0 set-tunnel of a 64-bit id and a `fin_timeout`: the dump
`actions=set_tunnel64:0x100000000,fin_timeout(idle_timeout=5)` reads back as
both records. -/
theorem readDump_ofpactsFormat_pull_tunnel :
    Collab.rejectAll.SubFits ∧
      (∀ a ∈ (Dialect.pull Collab.rejectAll false .openflow10
          ([255, 255, 0, 24, 0, 0, 35, 32, 0, 9, 0, 0, 0, 0, 0, 0, 0, 0, 0, 1, 0, 0, 0, 0] ++
            [255, 255, 0, 16, 0, 0, 35, 32, 0, 19, 0, 5, 0, 0, 0, 0]) 40 []).ofpacts.ofpacts,
        a.body.inBuild false = true ∧ a.body.selfFormatted = true) ∧
      ofpactsFormat FormatCollab.blank false (Dialect.pull Collab.rejectAll false .openflow10
          ([255, 255, 0, 24, 0, 0, 35, 32, 0, 9, 0, 0, 0, 0, 0, 0, 0, 0, 0, 1, 0, 0, 0, 0] ++
            [255, 255, 0, 16, 0, 0, 35, 32, 0, 19, 0, 5, 0, 0, 0, 0]) 40 []).ofpacts =
        "actions=set_tunnel64:0x100000000,fin_timeout(idle_timeout=5)".toList ∧
      readDump (ofpactsFormat FormatCollab.blank false (Dialect.pull Collab.rejectAll false
          .openflow10
          ([255, 255, 0, 24, 0, 0, 35, 32, 0, 9, 0, 0, 0, 0, 0, 0, 0, 0, 0, 1, 0, 0, 0, 0] ++
            [255, 255, 0, 16, 0, 0, 35, 32, 0, 19, 0, 5, 0, 0, 0, 0]) 40 []).ofpacts) =
        some ((Dialect.pull Collab.rejectAll false .openflow10
          ([255, 255, 0, 24, 0, 0, 35, 32, 0, 9, 0, 0, 0, 0, 0, 0, 0, 0, 0, 1, 0, 0, 0, 0] ++
            [255, 255, 0, 16, 0, 0, 35, 32, 0, 19, 0, 5, 0, 0, 0, 0]) 40 []).ofpacts.ofpacts.map
          (Ofpact.shown false)) :=
  ⟨Collab.rejectAll_subFits, by decide, by decide,
    readDump_ofpactsFormat_pull Collab.rejectAll_subFits FormatCollab.blank false .openflow10 _ 40 []
      (by decide)⟩

/-- Two buffers that pulls left, whose records `ofpact_format` writes without a
collaborator, print the same flow-dump text exactly when their records show
the same fields, in order. -/
theorem ofpactsFormat_pull_eq_iff {co : Collab} (hfit : co.SubFits) (fc : FormatCollab)
    (centec : Bool) (d d' : Dialect) (openflow openflow' : List UInt8) (len len' : Nat)
    (prior prior' : Ofpbuf)
    (h : ∀ a ∈ (d.pull co centec openflow len prior).ofpacts.ofpacts,
      a.body.inBuild centec = true ∧ a.body.selfFormatted = true)
    (h' : ∀ a ∈ (d'.pull co centec openflow' len' prior').ofpacts.ofpacts,
      a.body.inBuild centec = true ∧ a.body.selfFormatted = true) :
    ofpactsFormat fc centec (d.pull co centec openflow len prior).ofpacts =
        ofpactsFormat fc centec (d'.pull co centec openflow' len' prior').ofpacts ↔
      (d.pull co centec openflow len prior).ofpacts.ofpacts.map (Ofpact.shown centec) =
        (d'.pull co centec openflow' len' prior').ofpacts.ofpacts.map (Ofpact.shown centec) := by
  have hl := Dialect.pull_isLayout co centec d openflow len prior
  have hl' := Dialect.pull_isLayout co centec d' openflow' len' prior'
  have hf := Dialect.pull_fits hfit centec d openflow len prior
  have hf' := Dialect.pull_fits hfit centec d' openflow' len' prior'
  refine ⟨fun he => ?_, fun he => ?_⟩
  · have hr := readDump_layout fc centec hl hf h
    rw [he, readDump_layout fc centec hl' hf' h'] at hr
    exact (Option.some.inj hr).symm
  · rw [ofpactsFormat_layout_shown fc centec hl hf, ofpactsFormat_layout_shown fc centec hl' hf', he]

/-- A 1.0 output to port 1 and the 1.1 output to port 1 print one text. -/
theorem ofpactsFormat_pull_eq_iff_output :
    Collab.rejectAll.SubFits ∧
      (∀ a ∈ (Dialect.pull Collab.rejectAll false .openflow10 [0, 0, 0, 8, 0, 1, 0, 0] 8
          []).ofpacts.ofpacts, a.body.inBuild false = true ∧ a.body.selfFormatted = true) ∧
      (∀ a ∈ (Dialect.pull Collab.rejectAll false .openflow11Actions
          [0, 0, 0, 16, 0, 0, 0, 1, 0, 0, 0, 0, 0, 0, 0, 0] 16 []).ofpacts.ofpacts,
        a.body.inBuild false = true ∧ a.body.selfFormatted = true) ∧
      (ofpactsFormat FormatCollab.blank false (Dialect.pull Collab.rejectAll false .openflow10
          [0, 0, 0, 8, 0, 1, 0, 0] 8 []).ofpacts =
        ofpactsFormat FormatCollab.blank false (Dialect.pull Collab.rejectAll false
          .openflow11Actions [0, 0, 0, 16, 0, 0, 0, 1, 0, 0, 0, 0, 0, 0, 0, 0] 16 []).ofpacts ↔
        (Dialect.pull Collab.rejectAll false .openflow10 [0, 0, 0, 8, 0, 1, 0, 0] 8
          []).ofpacts.ofpacts.map (Ofpact.shown false) =
        (Dialect.pull Collab.rejectAll false .openflow11Actions
          [0, 0, 0, 16, 0, 0, 0, 1, 0, 0, 0, 0, 0, 0, 0, 0] 16 []).ofpacts.ofpacts.map
          (Ofpact.shown false)) :=
  ⟨Collab.rejectAll_subFits, by decide, by decide,
    ofpactsFormat_pull_eq_iff Collab.rejectAll_subFits FormatCollab.blank false .openflow10
      .openflow11Actions _ _ 8 16 [] [] (by decide) (by decide)⟩

end OfpActions
