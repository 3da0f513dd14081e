import EchoProbe.Address.Text

/-!
# The text of an address, read back

* `Numeral.ofDigits?_toDigits` says that digits are read as the number that they were written for;
* `IpAddr.quad?_quad` says so of octets, and `eightGroups?_colons`, `eightGroups?_gap` and
  `eightGroups?_mapped` of groups: all eight of them, with a gap, and with octets at the end;
* `IpAddr.Canonical` says how an address is to be written. Each address has one such text
  (`Canonical.unique`), it is the one that is written (`canonical_text`), and it is read as the
  address (`parse?_of_canonical`), so that an address is read back from its text (`parse?_text`).
-/

namespace EchoProbe

/-! ### Numerals -/

namespace Numeral

variable {base : Nat}

theorem digit?_digitChar : ∀ base ≤ 16, ∀ d < base, digit? base (Nat.digitChar d) = some d := by
  decide

theorem readOn_append (acc : Nat) (cs ds : List Char) :
    readOn base acc (cs ++ ds) = (readOn base acc cs).bind fun n => readOn base n ds := by
  induction cs generalizing acc with
  | nil => rfl
  | cons c cs ih =>
    rw [List.cons_append, readOn, readOn]
    cases digit? base c with
    | none => rfl
    | some v => exact ih _

theorem readOn_toDigits (hb : 1 < base) (hb' : base ≤ 16) (n : Nat) :
    readOn base 0 (Nat.toDigits base n) = some n := by
  induction n using Nat.strongRecOn with
  | ind n ih =>
    rcases Nat.lt_or_ge n base with h | h
    · rw [Nat.toDigits_of_lt_base h, readOn, digit?_digitChar base hb' n h]
      exact congrArg some (Nat.zero_add n)
    · -- the last digit comes off the end
      have hlast : n % base < base := Nat.mod_lt n (Nat.zero_lt_of_lt hb)
      have hrest : n / base < n := Nat.div_lt_self (by omega) hb
      rw [Nat.toDigits_of_base_le hb h, readOn_append, ih _ hrest, Option.bind_some, readOn,
        digit?_digitChar base hb' _ hlast, Option.bind_some, readOn, Nat.div_add_mod]

/-- **A numeral is read as what it was written for.** -/
theorem ofDigits?_toDigits (hb : 1 < base) (hb' : base ≤ 16) (n : Nat) :
    ofDigits? base (Nat.toDigits base n) = some n := by
  rw [ofDigits?, if_neg (by simp [Nat.toDigits_ne_nil]), readOn_toDigits hb hb']

theorem isSome_digit?_of_readOn {acc n : Nat} {cs : List Char} (h : readOn base acc cs = some n)
    {c : Char} (hc : c ∈ cs) : (digit? base c).isSome = true := by
  induction cs generalizing acc with
  | nil => cases hc
  | cons d cs ih =>
    obtain ⟨v, hv, h⟩ := Option.bind_eq_some_iff.1 h
    rcases List.mem_cons.1 hc with rfl | hc
    · rw [hv]; rfl
    · exact ih h hc

theorem ofDigits?_eq_none {cs : List Char} {c : Char} (hc : c ∈ cs) (h : digit? base c = none) :
    ofDigits? base cs = none := by
  cases hn : readOn base 0 cs with
  | none => simp [ofDigits?, hn]
  | some n =>
    have hsome := isSome_digit?_of_readOn hn hc
    rw [h] at hsome
    cases hsome

theorem notMem_toDigits (hb : 1 < base) (hb' : base ≤ 16) {c : Char} (h : digit? base c = none)
    (n : Nat) : c ∉ Nat.toDigits base n := by
  intro hc
  have hsome := isSome_digit?_of_readOn (readOn_toDigits hb hb' n) hc
  rw [h] at hsome
  cases hsome

theorem head?_toDigits (hb : 1 < base) (hb' : base ≤ 16) {n : Nat} (hn : 0 < n) :
    (Nat.toDigits base n).head? ≠ some '0' := by
  induction n using Nat.strongRecOn with
  | ind n ih =>
    rcases Nat.lt_or_ge n base with h | h
    · rw [Nat.toDigits_of_lt_base h]
      intro he
      have hzero := digit?_digitChar base hb' 0 (Nat.lt_trans Nat.one_pos hb)
      have hdigit := digit?_digitChar base hb' n h
      rw [Option.some.inj he] at hdigit
      exact Nat.ne_of_gt hn (Option.some.inj (hdigit.symm.trans hzero))
    · have hpos : 0 < n / base := Nat.div_pos h (Nat.zero_lt_of_lt hb)
      rw [Nat.toDigits_of_base_le hb h, List.head?_append]
      have hhead := ih _ (Nat.div_lt_self hn hb) hpos
      cases hd : (Nat.toDigits base (n / base)).head? with
      | none => exact (Nat.toDigits_ne_nil (List.head?_eq_none_iff.1 hd)).elim
      | some c => rwa [Option.some_or, ← hd]

end Numeral

namespace IpAddr

/-! ### Separators -/

theorem pieces_eq_splitOn (sep : Char) (cs : List Char) : pieces sep cs = cs.splitOn sep := by
  induction cs with
  | nil => rfl
  | cons c cs ih =>
    rw [pieces, List.splitOn_cons_eq_if_modifyHead, ih]
    by_cases h : c = sep
    · simp [h]
    · obtain ⟨p, ps, hp⟩ := List.exists_cons_of_ne_nil (List.splitOn_ne_nil sep cs)
      simp [h, hp]

theorem pieces_intercalate {sep : Char} {ps : List (List Char)} (hsep : ∀ p ∈ ps, sep ∉ p)
    (hne : ps ≠ []) : pieces sep (List.intercalate [sep] ps) = ps := by
  rw [pieces_eq_splitOn, List.splitOn_intercalate sep hsep hne]

/-- Nothing but separators stands between the pieces. -/
theorem exists_piece {sep c : Char} {cs : List Char} (hc : c ∈ cs) (hne : c ≠ sep) :
    ∃ p ∈ pieces sep cs, c ∈ p := by
  have hwhole : List.intercalate [sep] (cs.splitOn sep) = cs := List.intercalate_splitOn sep
  rw [pieces_eq_splitOn]
  rw [← hwhole] at hc
  obtain ⟨p, hp, hcp⟩ := List.mem_flatten.1 hc
  obtain ⟨i, hi, rfl⟩ := List.getElem_of_mem hp
  rw [List.getElem_intersperse] at hcp
  split at hcp
  · exact ⟨_, List.getElem_mem _, hcp⟩
  · exact (hne (List.mem_singleton.1 hcp)).elim

/-! ### Octets -/

theorem dot_notMem_decimal (n : Nat) : '.' ∉ decimal n :=
  Numeral.notMem_toDigits (by decide) (by decide) (by decide) n

theorem octet?_decimal {n : Nat} (h : n < 2 ^ 8) : octet? (decimal n) = some n := by
  have hshort : (decimal n).length ≤ 3 :=
    (Nat.length_toDigits_le_iff (by decide) (by decide)).2 (Nat.lt_trans h (by decide))
  have hhead : ¬(1 < (decimal n).length ∧ (decimal n).head? = some '0') := by
    rintro ⟨hlong, hzero⟩
    rcases Nat.eq_zero_or_pos n with rfl | hn
    · exact absurd hlong (by decide)
    · exact Numeral.head?_toDigits (by decide) (by decide) hn hzero
  have hread : Numeral.ofDigits? 10 (decimal n) = some n :=
    Numeral.ofDigits?_toDigits (by decide) (by decide) n
  rw [octet?, if_neg (not_or.2 ⟨Nat.not_lt.2 hshort, hhead⟩), hread]
  simp [Option.filter, h]

theorem mapM_octet?_decimal {ds : List Nat} (h : ∀ d ∈ ds, d < 2 ^ 8) :
    (ds.map decimal).mapM octet? = some ds := by
  induction ds with
  | nil => rfl
  | cons d ds ih =>
    obtain ⟨hd, hds⟩ := List.forall_mem_cons.1 h
    rw [List.map_cons, List.mapM_cons, octet?_decimal hd, ih hds]
    rfl

theorem pieces_quad (n : Nat) :
    pieces '.' (quad n) = (Radix.digits (2 ^ 8) 4 n).map decimal := by
  refine pieces_intercalate ?_ (by simp [Radix.digits])
  intro p hp
  obtain ⟨d, -, rfl⟩ := List.mem_map.1 hp
  exact dot_notMem_decimal d

/-- Four octets are read as the number that they spell. -/
theorem quad?_quad {n : Nat} (h : n < 2 ^ 32) : quad? (quad n) = some n := by
  have hlt : ∀ d ∈ Radix.digits (2 ^ 8) 4 n, d < 2 ^ 8 :=
    fun d => Radix.lt_of_mem_digits (by decide)
  rw [quad?, pieces_quad, if_pos (by simp), mapM_octet?_decimal hlt, Option.map_some,
    Radix.value_digits (by omega)]

theorem isSome_of_mapM {α β : Type} {f : α → Option β} {xs : List α} {ys : List β}
    (h : xs.mapM f = some ys) {x : α} (hx : x ∈ xs) : (f x).isSome = true := by
  induction xs generalizing ys with
  | nil => cases hx
  | cons z zs ih =>
    rw [List.mapM_cons] at h
    obtain ⟨y, hy, h⟩ := Option.bind_eq_some_iff.1 h
    obtain ⟨ws, hws, -⟩ := Option.bind_eq_some_iff.1 h
    rcases List.mem_cons.1 hx with rfl | hx
    · rw [hy]; rfl
    · exact ih hws hx

theorem quad?_eq_none {cs : List Char} (h : ':' ∈ cs) : quad? cs = none := by
  obtain ⟨p, hp, hcp⟩ : ∃ p ∈ pieces '.' cs, ':' ∈ p := exists_piece h (by decide)
  have hp' : octet? p = none := by
    rw [octet?, Numeral.ofDigits?_eq_none hcp (by decide)]
    split <;> rfl
  rw [quad?]
  split
  · cases hm : (pieces '.' cs).mapM octet? with
    | none => rfl
    | some os =>
      have hsome := isSome_of_mapM hm hp
      rw [hp'] at hsome
      cases hsome
  · rfl

/-! ### Groups -/

theorem colon_notMem_hexadecimal (n : Nat) : ':' ∉ hexadecimal n :=
  Numeral.notMem_toDigits (by decide) (by decide) (by decide) n

theorem group?_hexadecimal {n : Nat} (h : n < 2 ^ 16) : group? (hexadecimal n) = some n := by
  have hshort : (hexadecimal n).length ≤ 4 :=
    (Nat.length_toDigits_le_iff (by decide) (by decide)).2 h
  rw [group?, if_neg (Nat.not_lt.2 hshort)]
  exact Numeral.ofDigits?_toDigits (by decide) (by decide) n

theorem groups?_map_hexadecimal (welcome : Bool) {gs : List Nat} (h : ∀ g ∈ gs, g < 2 ^ 16) :
    groups? welcome (gs.map hexadecimal) = some gs := by
  induction gs with
  | nil => rfl
  | cons g gs ih =>
    obtain ⟨hg, hgs⟩ := List.forall_mem_cons.1 h
    cases gs with
    | nil => simp only [List.map_cons, List.map_nil, groups?, group?_hexadecimal hg]
    | cons g' gs =>
      have hrest := ih hgs
      rw [List.map_cons] at hrest
      rw [List.map_cons, List.map_cons, groups?, group?_hexadecimal hg, hrest]
      · rfl
      · exact List.cons_ne_nil _ _

theorem pieces_colons {gs : List Nat} (hne : gs ≠ []) :
    pieces ':' (colons gs) = gs.map hexadecimal := by
  refine pieces_intercalate ?_ (by simpa using hne)
  intro p hp
  obtain ⟨g, -, rfl⟩ := List.mem_map.1 hp
  exact colon_notMem_hexadecimal g

theorem colons_cons_cons (g g' : Nat) (gs : List Nat) :
    colons (g :: g' :: gs) = hexadecimal g ++ ':' :: colons (g' :: gs) := by
  rw [colons, List.map_cons, List.intercalate_cons_of_ne_nil (by simp), List.append_assoc]
  rfl

theorem exists_head_colons (g : Nat) (gs : List Nat) :
    ∃ c cs, colons (g :: gs) = c :: cs ∧ c ≠ ':' := by
  obtain ⟨c, cs, hc⟩ := List.exists_cons_of_ne_nil (Nat.toDigits_ne_nil (n := g) (b := 16))
  have hne : c ≠ ':' := by
    rintro rfl
    exact colon_notMem_hexadecimal g (show ':' ∈ Nat.toDigits 16 g from hc ▸ List.mem_cons_self)
  cases gs with
  | nil => exact ⟨c, cs, by rw [← hc]; exact List.intercalate_singleton, hne⟩
  | cons g' gs => exact ⟨c, _, by rw [colons_cons_cons, hexadecimal, hc]; rfl, hne⟩

theorem side?_colons (welcome : Bool) {gs : List Nat} (h : ∀ g ∈ gs, g < 2 ^ 16) :
    side? welcome (colons gs) = some gs := by
  cases gs with
  | nil => rfl
  | cons g gs =>
    obtain ⟨c, cs, hc, -⟩ := exists_head_colons g gs
    rw [side?, if_neg (by simp [hc]), pieces_colons (List.cons_ne_nil g gs),
      groups?_map_hexadecimal welcome h]

/-! ### The gap -/

theorem cutAtGap_append {p : List Char} (hp : ':' ∉ p) (cs : List Char) :
    cutAtGap (p ++ cs) = (cutAtGap cs).map fun x => (p ++ x.1, x.2) := by
  induction p with
  | nil => simp
  | cons c p ih =>
    rw [List.mem_cons, not_or] at hp
    rw [List.cons_append, cutAtGap, if_neg fun h => hp.1 h.1.symm, ih hp.2, Option.map_map]
    rfl

/-- There is no gap in a run of groups, so that the first lies behind it. -/
theorem cutAtGap_colons_append (gs : List Nat) (cs : List Char) :
    cutAtGap (colons gs ++ cs) = (cutAtGap cs).map fun x => (colons gs ++ x.1, x.2) := by
  induction gs with
  | nil => simp [colons]
  | cons g gs ih =>
    cases gs with
    | nil =>
      have hone : colons [g] = hexadecimal g := List.intercalate_singleton
      rw [hone, cutAtGap_append (colon_notMem_hexadecimal g)]
    | cons g' gs =>
      -- a colon between two groups is no gap, as no group is empty
      obtain ⟨c, ds, hds, hc⟩ := exists_head_colons g' gs
      have hhead : ¬(':' = ':' ∧ (colons (g' :: gs) ++ cs).head? = some ':') := by
        rw [hds]
        exact fun h => hc (Option.some.inj h.2)
      rw [colons_cons_cons, List.append_assoc, cutAtGap_append (colon_notMem_hexadecimal g),
        List.cons_append, cutAtGap, if_neg hhead, ih, Option.map_map, Option.map_map]
      congr 1
      funext x
      simp

/-- **Groups are read back**, also from a text with a gap for some zeros. -/
theorem eightGroups?_gap {front back : List Nat} {n : Nat} (hf : ∀ g ∈ front, g < 2 ^ 16)
    (hb : ∀ g ∈ back, g < 2 ^ 16) (hn : 0 < n) (hlen : front.length + n + back.length = 8) :
    eightGroups? (colons front ++ ':' :: ':' :: colons back) =
      some (front ++ List.replicate n 0 ++ back) := by
  have hcut : cutAtGap (colons front ++ ':' :: ':' :: colons back) =
      some (colons front, colons back) := by
    rw [cutAtGap_colons_append]
    simp [cutAtGap]
  have hzeros : 8 - (front.length + back.length) = n := by omega
  rw [eightGroups?, hcut]
  simp only [side?_colons false hf, side?_colons true hb, bind, Option.bind_some]
  rw [if_pos (by omega), hzeros]
  rfl

theorem eightGroups?_colons {gs : List Nat} (h : ∀ g ∈ gs, g < 2 ^ 16) (hlen : gs.length = 8) :
    eightGroups? (colons gs) = some gs := by
  have hcut : cutAtGap (colons gs) = none := by
    have hend := cutAtGap_colons_append gs []
    rwa [List.append_nil] at hend
  rw [eightGroups?, hcut, pieces_colons (by rintro rfl; cases hlen),
    groups?_map_hexadecimal true h]
  simp [Option.filter, hlen]

theorem sep_mem_of_pieces {sep : Char} {cs : List Char} (h : 1 < (pieces sep cs).length) :
    sep ∈ cs := by
  refine Classical.byContradiction fun hno => ?_
  rw [pieces_eq_splitOn, List.splitOn_eq_singleton hno] at h
  exact Nat.lt_irrefl 1 h

theorem dot_mem_quad (n : Nat) : '.' ∈ quad n := by
  refine sep_mem_of_pieces ?_
  rw [pieces_quad, List.length_map, Radix.length_digits]
  decide

theorem colon_notMem_quad (n : Nat) : ':' ∉ quad n := by
  intro h
  obtain ⟨p, hp, hcp⟩ : ∃ p ∈ pieces '.' (quad n), ':' ∈ p := exists_piece h (by decide)
  rw [pieces_quad] at hp
  obtain ⟨d, -, rfl⟩ := List.mem_map.1 hp
  exact Numeral.notMem_toDigits (by decide) (by decide) (by decide) d hcp

theorem eightGroups?_mapped {n : Nat} (h : n < 2 ^ 32) :
    eightGroups? ("::ffff:".toList ++ quad n) =
      some [0, 0, 0, 0, 0, 2 ^ 16 - 1, n / 2 ^ 16, n % 2 ^ 16] := by
  have hpieces : pieces ':' ("ffff:".toList ++ quad n) = ["ffff".toList, quad n] := by
    rw [pieces_eq_splitOn]
    change List.splitOn ':' ("ffff".toList ++ ':' :: quad n) = _
    rw [List.splitOn_append_cons_self_of_not_mem (by decide),
      List.splitOn_eq_singleton (colon_notMem_quad n)]
  have hlast : groups? true [quad n] = some [n / 2 ^ 16, n % 2 ^ 16] := by
    have hno : group? (quad n) = none := by
      rw [group?, Numeral.ofDigits?_eq_none (dot_mem_quad n) (by decide)]
      split <;> rfl
    simp only [groups?, hno, quad?_quad h, Option.map_some, ite_true]
  have hback : side? true ("ffff:".toList ++ quad n) =
      some [2 ^ 16 - 1, n / 2 ^ 16, n % 2 ^ 16] := by
    rw [side?, if_neg (by simp), hpieces, groups?, hlast]
    · rfl
    · exact List.cons_ne_nil _ _
  have hcut : cutAtGap ("::ffff:".toList ++ quad n) = some ([], "ffff:".toList ++ quad n) := rfl
  rw [eightGroups?, hcut]
  simp only [hback]
  rfl

/-! ### Canonical texts -/

/-- From the place `i` on, there are `n` zeros. -/
def ZerosAt (gs : List Nat) (i n : Nat) : Prop := List.replicate n 0 <+: gs.drop i

theorem ZerosAt.mono {gs : List Nat} {i m n : Nat} (h : ZerosAt gs i n) (hm : m ≤ n) :
    ZerosAt gs i m := by
  refine List.IsPrefix.trans ⟨List.replicate (n - m) 0, ?_⟩ h
  rw [List.replicate_append_replicate, Nat.add_sub_cancel' hm]

/-- How an address is written. -/
inductive Canonical : IpAddr → List Char → Prop
  /-- An address of version 4 is four octets. -/
  | octets (bits : Fin (2 ^ 32)) : Canonical (.v4 bits) (quad bits)
  /-- An address of version 6 that maps one of version 4 ends in its octets. -/
  | mapped {bits : Fin (2 ^ 128)} {n : Nat} : n < 2 ^ 32 →
      bits.val = (2 ^ 16 - 1) * 2 ^ 32 + n → Canonical (.v6 bits) ("::ffff:".toList ++ quad n)
  /-- Any other is eight groups, if there are no two zeros in a row. -/
  | groups {bits : Fin (2 ^ 128)} : bits.val / 2 ^ 32 ≠ 2 ^ 16 - 1 →
      (∀ i, ¬ZerosAt (Radix.digits (2 ^ 16) 8 bits) i 2) →
      Canonical (.v6 bits) (colons (Radix.digits (2 ^ 16) 8 bits))
  /-- If there are, then the longest run of zeros is left out, the first of equals. -/
  | gap {bits : Fin (2 ^ 128)} {front back : List Nat} {n : Nat} :
      bits.val / 2 ^ 32 ≠ 2 ^ 16 - 1 →
      Radix.digits (2 ^ 16) 8 bits = front ++ List.replicate n 0 ++ back → 1 < n →
      (∀ i m, ZerosAt (Radix.digits (2 ^ 16) 8 bits) i m → m ≤ n ∧ (m = n → front.length ≤ i)) →
      Canonical (.v6 bits) (colons front ++ ':' :: ':' :: colons back)

theorem replicate_leadingZeros (gs : List Nat) :
    List.replicate (leadingZeros gs) 0 ++ gs.drop (leadingZeros gs) = gs := by
  induction gs with
  | nil => rfl
  | cons g gs ih =>
    cases g with
    | zero => rw [leadingZeros, List.replicate_succ, List.drop_succ_cons, List.cons_append, ih]
    | succ g => rfl

theorem le_leadingZeros {gs : List Nat} {n : Nat} (h : List.replicate n 0 <+: gs) :
    n ≤ leadingZeros gs := by
  induction n generalizing gs with
  | zero => exact Nat.zero_le _
  | succ n ih =>
    obtain ⟨gs', rfl⟩ := h
    rw [List.replicate_succ, List.cons_append, leadingZeros]
    exact Nat.succ_le_succ (ih (List.prefix_append _ _))

theorem take_longestZeros (gs : List Nat) :
    gs.take (longestZeros gs).1 ++ List.replicate (longestZeros gs).2 0 ++
      gs.drop ((longestZeros gs).1 + (longestZeros gs).2) = gs := by
  induction gs with
  | nil => rfl
  | cons g gs ih =>
    rw [longestZeros]
    dsimp only
    split
    · simpa using replicate_leadingZeros (g :: gs)
    · rw [List.take_succ_cons, Nat.add_right_comm, List.drop_succ_cons, List.cons_append,
        List.cons_append, ih]

theorem longestZeros_of_zerosAt {gs : List Nat} {i n : Nat} (h : ZerosAt gs i n) (hn : 0 < n) :
    n ≤ (longestZeros gs).2 ∧ (n = (longestZeros gs).2 → (longestZeros gs).1 ≤ i) := by
  induction gs generalizing i with
  | nil =>
    rw [ZerosAt, List.drop_nil, List.prefix_nil, List.replicate_eq_nil_iff] at h
    omega
  | cons g gs ih =>
    rw [longestZeros]
    dsimp only
    cases i with
    | zero =>
      have hle : n ≤ leadingZeros (g :: gs) := le_leadingZeros h
      split <;> omega
    | succ i =>
      have hrest := ih h
      split <;> omega

/-- What is left out starts where the text says. -/
theorem zerosAt_append (front back : List Nat) (n : Nat) :
    ZerosAt (front ++ List.replicate n 0 ++ back) front.length n := by
  rw [ZerosAt, List.append_assoc, List.drop_left]
  exact List.prefix_append _ _

/-- **An address has one canonical text.** -/
theorem Canonical.unique {a : IpAddr} {cs cs' : List Char} (h : Canonical a cs)
    (h' : Canonical a cs') : cs = cs' := by
  cases h with
  | octets bits => cases h'; rfl
  | @mapped bits n hn hbits =>
    cases h' with
    | @mapped _ n' hn' hbits' =>
      obtain rfl : n = n' := by omega
      rfl
    | groups hother _ => omega
    | gap hother _ _ _ => omega
  | @groups bits hother hnone =>
    cases h' with
    | mapped hn' hbits' => omega
    | groups _ _ => rfl
    | @gap _ front back n _ hdigits hn _ =>
      refine (hnone front.length ?_).elim
      have hzeros := zerosAt_append front back n
      rw [← hdigits] at hzeros
      exact hzeros.mono hn
  | @gap bits front back n hother hdigits hn hmost =>
    have hzeros := zerosAt_append front back n
    rw [← hdigits] at hzeros
    cases h' with
    | mapped hn' hbits' => omega
    | groups _ hnone =>
      exact (hnone front.length (hzeros.mono hn)).elim
    | @gap _ front' back' n' _ hdigits' hn' hmost' =>
      -- each run is as long as the other, and starts no later
      have hzeros' := zerosAt_append front' back' n'
      rw [← hdigits'] at hzeros'
      obtain ⟨hle, hstart⟩ := hmost _ _ hzeros'
      obtain ⟨hge, hstart'⟩ := hmost' _ _ hzeros
      obtain rfl : n = n' := Nat.le_antisymm hge hle
      have hlen : front.length = front'.length := Nat.le_antisymm (hstart rfl) (hstart' rfl)
      rw [hdigits, List.append_assoc, List.append_assoc] at hdigits'
      obtain ⟨rfl, hrest⟩ := List.append_inj hdigits' hlen
      rw [List.append_cancel_left hrest]

/-- **The text of an address is canonical.** -/
theorem canonical_chars (a : IpAddr) : Canonical a a.chars := by
  cases a with
  | v4 bits => exact .octets bits
  | v6 bits =>
    rw [chars]
    split
    · rename_i hmapped
      exact .mapped (Nat.mod_lt _ (by decide)) (by omega)
    · rename_i hother
      have hgap := take_longestZeros (Radix.digits (2 ^ 16) 8 bits)
      have hmost (i n : Nat) (h : ZerosAt (Radix.digits (2 ^ 16) 8 bits) i n) (hn : 0 < n) :=
        longestZeros_of_zerosAt h hn
      rw [compressed]
      generalize longestZeros (Radix.digits (2 ^ 16) 8 bits) = run at hgap hmost
      obtain ⟨start, length⟩ := run
      dsimp only at hgap hmost ⊢
      split
      · rename_i hlong
        rw [List.append_assoc]
        refine .gap hother hgap.symm hlong fun i m hzeros => ?_
        rcases Nat.eq_zero_or_pos m with rfl | hm
        · omega
        · obtain ⟨hle, hfirst⟩ := hmost i m hzeros hm
          exact ⟨hle, fun heq => Nat.le_trans (List.length_take_le _ _) (hfirst heq)⟩
      · rename_i hshort
        refine .groups hother fun i hzeros => ?_
        exact hshort (hmost i 2 hzeros (by decide)).1

/-- What has a colon in it is read as the groups that it stands for. -/
theorem ofChars?_of_eightGroups {cs : List Char} {gs : List Nat} {bits : Fin (2 ^ 128)}
    (hcolon : ':' ∈ cs) (hgs : eightGroups? cs = some gs)
    (hvalue : Radix.value (2 ^ 16) gs = bits.val) : ofChars? cs = some (.v6 bits) := by
  rw [ofChars?, quad?_eq_none hcolon]
  simp only [hgs, Option.bind_some, hvalue]
  exact dif_pos bits.isLt

/-- **A canonical text is read as the address.** -/
theorem ofChars?_of_canonical {a : IpAddr} {cs : List Char} (h : Canonical a cs) :
    ofChars? cs = some a := by
  have hdigit (n : Nat) : ∀ g ∈ Radix.digits (2 ^ 16) 8 n, g < 2 ^ 16 :=
    fun g => Radix.lt_of_mem_digits (by decide)
  have hvalue (bits : Fin (2 ^ 128)) :
      Radix.value (2 ^ 16) (Radix.digits (2 ^ 16) 8 bits.val) = bits.val :=
    Radix.value_digits (Nat.lt_of_lt_of_eq bits.isLt (by decide))
  cases h with
  | octets bits =>
    rw [ofChars?, quad?_quad bits.isLt]
    exact dif_pos bits.isLt
  | @mapped bits n hn hbits =>
    refine ofChars?_of_eightGroups (List.mem_append_left _ (by decide)) (eightGroups?_mapped hn) ?_
    simp only [Radix.value, List.length_cons, List.length_nil]
    omega
  | @groups bits _ _ =>
    have hlen : (Radix.digits (2 ^ 16) 8 bits.val).length = 8 := Radix.length_digits 8 _
    refine ofChars?_of_eightGroups (sep_mem_of_pieces ?_)
      (eightGroups?_colons (hdigit bits) hlen) (hvalue bits)
    rw [pieces_colons (by rintro hnil; rw [hnil] at hlen; cases hlen), List.length_map, hlen]
    decide
  | @gap bits front back n _ hdigits hn _ =>
    have hlen : (Radix.digits (2 ^ 16) 8 bits.val).length = 8 := Radix.length_digits 8 _
    have hlt := hdigit bits
    rw [hdigits] at hlen hlt
    have hgs : eightGroups? (colons front ++ ':' :: ':' :: colons back) =
        some (Radix.digits (2 ^ 16) 8 bits) := by
      rw [hdigits]
      refine eightGroups?_gap (fun g hg => hlt g ?_) (fun g hg => hlt g ?_) (by omega) ?_
      · exact List.mem_append_left _ (List.mem_append_left _ hg)
      · exact List.mem_append_right _ hg
      · simpa [Nat.add_assoc] using hlen
    exact ofChars?_of_eightGroups (by simp) hgs (hvalue bits)

theorem canonical_text (a : IpAddr) : Canonical a a.text.toList := by
  rw [text, String.toList_ofList]
  exact canonical_chars a

theorem parse?_of_canonical {a : IpAddr} {s : String} (h : Canonical a s.toList) :
    parse? s = some a :=
  ofChars?_of_canonical h

/-- **An address is read back from its text.** -/
@[simp] theorem parse?_text (a : IpAddr) : parse? a.text = some a :=
  parse?_of_canonical (canonical_text a)

end IpAddr

end EchoProbe
