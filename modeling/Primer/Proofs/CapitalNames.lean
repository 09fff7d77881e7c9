import Primer.Proofs.Capitals
import Primer.Proofs.Loading

/-!
# Declarations in upper case

Lines are put into upper case before they are read.  This keeps the parts of a declaration apart,
and a literal stays a literal.  A name stays a name as well, unless it has one of the few letters in
it that have no capital of their own: they are written in upper case as a letter and one or two
combining marks, and a mark that is no letter cannot stand in a name.  A declaration of such a name
is refused in upper case.

## Main definitions

* `Primer.Text.Ranges.covers` — whether equally spaced code points all lie in ranges.
* `Primer.Declaration.marked` — the letters whose capital has a mark that is no letter.

## Main results

* `Primer.Declaration.isNameChar_of_mem_capital` — the capitals of the other letters.
* `Primer.Declaration.IsName.upper_iff` — which names stay names in upper case.
* `Primer.Declaration.parse_upper_iff` — which declarations stay declarations in upper case.
-/

set_option relaxedAutoImplicit false
set_option autoImplicit false

namespace Primer

namespace Text

/-! ## Letters become letters -/

/-- Whether the code points from `low` to `high` in steps of `step` all lie in the ranges.  Behind a
range the walk goes on with the first of them that lies beyond. -/
def Ranges.covers : Ranges → Nat → Nat → Nat → Bool
  | [], low, high, _ => high.blt low
  | (first, last) :: rest, low, high, step =>
    high.blt low || first.ble low &&
      bif last.blt low then covers rest low high step
      else covers rest (low + step * ((last - low) / step + 1)) high step

/-- If `n` is beyond `last` and a multiple of `step` away from `low`, then it is also a multiple of
`step` away from the first such number beyond `last`, and not below it. -/
lemma next_step {low last step n : Nat} (hlast : low ≤ last) (hn : last < n)
    (hstep : step ∣ n - low) :
    low + step * ((last - low) / step + 1) ≤ n ∧
      step ∣ n - (low + step * ((last - low) / step + 1)) := by
  obtain ⟨k, hk⟩ := hstep
  have hlt : (last - low) / step < k := Nat.div_lt_of_lt_mul (by omega)
  have hle : step * ((last - low) / step + 1) ≤ step * k := Nat.mul_le_mul_left step hlt
  have hsub : n - (low + step * ((last - low) / step + 1)) =
      step * (k - ((last - low) / step + 1)) := by
    rw [Nat.mul_sub, ← hk]
    omega
  exact ⟨by omega, _, hsub⟩

/-- If `rs.covers low high step` then `rs` contains each `n` from `low` to `high` in steps of
`step`.

**Proof sketch.** Induction on the ranges.  A code point up to the end of the first range lies in
it.  One beyond is at a multiple of the step from where the walk goes on. -/
lemma Ranges.contains_of_covers {rs : Ranges} {low high step n : Nat}
    (h : rs.covers low high step = true) (hlow : low ≤ n) (hhigh : n ≤ high)
    (hstep : step ∣ n - low) : rs.contains n = true := by
  induction rs generalizing low with
  | nil =>
    rw [covers, Nat.blt_eq] at h
    omega
  | cons r rs ih =>
    obtain ⟨first, last⟩ := r
    simp only [covers, Bool.or_eq_true, Bool.and_eq_true, Nat.blt_eq, Nat.ble_eq] at h
    obtain ⟨hfirst, hrest⟩ := h.resolve_left (by omega)
    rw [contains, if_neg (by omega)]
    split_ifs with hlast
    · rfl
    · by_cases hbefore : last < low
      · rw [Nat.blt_eq.mpr hbefore, cond_true] at hrest
        exact ih hrest hlow hstep
      · rw [Bool.eq_false_iff.2 (mt Nat.blt_eq.mp hbefore), cond_false] at hrest
        obtain ⟨hle, hdvd⟩ := next_step (Nat.not_lt.1 hbefore) (Nat.not_le.1 hlast) hstep
        exact ih hrest hle hdvd

/-- The capitals of each run of `caseRuns` lie in `alphabetic`. -/
lemma alphabetic_caseRuns : ∀ r ∈ caseRuns,
    alphabetic.covers (r.first + r.shift).toNat (r.last + r.shift).toNat r.step = true := by
  decide +kernel

/-- If `alphabetic` contains `n` then `Char.ofNat n` is a letter, and not NUL. -/
lemma isAlphabetic_ofNat {n : Nat} (h : alphabetic.contains n = true) :
    isAlphabetic (Char.ofNat n) = true := by
  have hranges : ∀ r ∈ alphabetic, r.2 < 0xD800 ∨ 0xDFFF < r.1 ∧ r.2 < 0x110000 := by
    decide +kernel
  obtain ⟨r, hr, hlow, hhigh⟩ := Ranges.exists_of_contains h
  have hvalid : n.isValidChar := by
    have := hranges r hr
    unfold Nat.isValidChar
    omega
  have hchar : Char.ofNat n = Char.ofNatAux n hvalid := dif_pos hvalid
  rw [isAlphabetic, hchar]
  exact h

/-- The code point of `c`, moved by the shift that `caseRuns` has for it, is that of a letter. -/
lemma isAlphabetic_of_shift? {c : Char} {shift : Int}
    (h : shift? caseRuns c.toNat = some shift) :
    isAlphabetic (Char.ofNat (c.toNat + shift).toNat) = true := by
  obtain ⟨r, hr, hfirst, hlast, hstep, rfl⟩ := exists_of_shift? h
  have hpos := (settled_caseRuns r hr).1
  have hdistance : (c.toNat + r.shift).toNat - (r.first + r.shift).toNat = c.toNat - r.first := by
    omega
  exact isAlphabetic_ofNat (Ranges.contains_of_covers (alphabetic_caseRuns r hr) (by omega)
    (by omega) (by rwa [hdistance]))

end Text

namespace Declaration

open Text Reading

/-! ## Letters without a capital of their own -/

/-- The letters whose capital is written with a mark that cannot stand in a name, such as `ǰ`. -/
def marked : List Nat :=
  [ 0x1F0, 0x390, 0x3B0, 0x1E96, 0x1E97, 0x1E98, 0x1E99, 0x1F50, 0x1F52, 0x1F54, 0x1F56, 0x1FB6,
    0x1FB7, 0x1FC6, 0x1FC7, 0x1FD2, 0x1FD3, 0x1FD6, 0x1FD7, 0x1FE2, 0x1FE3, 0x1FE4, 0x1FE6, 0x1FE7,
    0x1FF6, 0x1FF7 ]

/-- Each sequence in `expansions` begins with a letter, and consists of characters that can stand in
a name unless it is the capital of a marked letter. -/
lemma expansions_names : ∀ e ∈ expansions,
    (e.2.head?.any fun m => isAlphabetic (Char.ofNat m)) = true ∧
      (e.1 ∉ marked → ∀ m ∈ e.2, isNameChar (Char.ofNat m) = true) := by decide +kernel

/-- If `n` is marked then `capital (Char.ofNat n)` has a character that cannot stand in a name. -/
lemma exists_mark : ∀ n ∈ marked, ∃ d ∈ capital (Char.ofNat n), isNameChar d = false := by
  have hany : ∀ n ∈ marked, ((capital (Char.ofNat n)).any fun d => !isNameChar d) = true := by
    decide +kernel
  intro n hn
  simpa using hany n hn

variable {c d : Char}

/-- If `c` is a letter then `capital c` begins with a letter. -/
lemma isAlphabetic_head?_capital (hc : isAlphabetic c = true) :
    (capital c).head?.any isAlphabetic = true := by
  unfold capital
  split
  · next shift _ hshift => simpa using isAlphabetic_of_shift? hshift
  · next sequence _ hsequence =>
    simpa [Option.any_map] using (expansions_names _ (mem_of_expansion? hsequence)).1
  · simpa using hc

/-- **Capitals in names.**  If `c` can stand in a name, and is not marked, then each character of
`capital c` can stand in a name. -/
lemma isNameChar_of_mem_capital (hc : isNameChar c = true) (hmark : c.toNat ∉ marked)
    (hd : d ∈ capital c) : isNameChar d = true := by
  unfold capital at hd
  split at hd
  · next shift _ hshift =>
    rw [List.mem_singleton.1 hd, isNameChar, isAlphabetic_of_shift? hshift]
    rfl
  · next sequence _ hsequence =>
    obtain ⟨m, hm, rfl⟩ := List.mem_map.1 hd
    exact (expansions_names _ (mem_of_expansion? hsequence)).2 hmark m hm
  · rwa [List.mem_singleton.1 hd]

/-! ## The parts of a declaration in upper case -/

/-- `upper w = w` for spacing `w`. -/
lemma upper_of_spacing {w : Text} (hw : Spacing w) : upper w = w :=
  upper_eq_self fun c hc => capital_of_isBlank (isBlank_of_isSpacing (hw c hc))

/-- If `literal` is a literal then so is `upper literal`. -/
lemma IsLiteral.upper {literal : Text} (h : IsLiteral literal) : IsLiteral (upper literal) := by
  obtain ⟨hne, hblank⟩ := h
  constructor
  · obtain ⟨c, t, rfl⟩ := List.exists_cons_of_ne_nil hne
    simp [Text.upper, capital_ne_nil]
  · intro d hd
    obtain ⟨c, hc, hdc⟩ := List.mem_flatMap.1 hd
    exact isBlank_of_mem_capital (hblank c hc) hdc

/-- If `name` is a name then `upper name` begins with a letter. -/
lemma IsName.exists_cons_upper {name : Text} (h : IsName name) :
    ∃ d t, upper name = d :: t ∧ isAlphabetic d = true := by
  obtain ⟨⟨c, hc, halpha⟩, -⟩ := isName_iff.1 h
  cases name with
  | nil => simp at hc
  | cons b name =>
    obtain rfl : b = c := by simpa using hc
    have hhead := isAlphabetic_head?_capital halpha
    obtain ⟨d, t, hcapital⟩ := List.exists_cons_of_ne_nil (capital_ne_nil b)
    rw [hcapital, List.head?_cons, Option.any_some] at hhead
    exact ⟨d, t ++ upper name, by simp [upper, hcapital], hhead⟩

/-- If `name` is a name then `upper name` is one if and only if `name` has no marked letter. -/
lemma IsName.upper_iff {name : Text} (h : IsName name) :
    IsName (upper name) ↔ ∀ c ∈ name, c.toNat ∉ marked := by
  obtain ⟨d, t, hupper, halpha⟩ := h.exists_cons_upper
  constructor
  · intro hname c hc hmark
    obtain ⟨m, hm, hfalse⟩ := exists_mark c.toNat hmark
    rw [Char.ofNat_toNat] at hm
    have htrue := (isName_iff.1 hname).2 m (List.mem_flatMap.2 ⟨c, hc, hm⟩)
    exact absurd (htrue.symm.trans hfalse) (by simp)
  · intro hmark
    refine isName_iff.2 ⟨⟨d, by simp [hupper], halpha⟩, fun e he => ?_⟩
    obtain ⟨c, hc, hec⟩ := List.mem_flatMap.1 he
    exact isNameChar_of_mem_capital ((isName_iff.1 h).2 c hc) (hmark c hc) hec

/-- If the name `name` has a marked letter then `upper name` is a name up to some character `m` that
cannot stand in a name.

**Proof sketch.** Take `before` as far as characters of `upper name` can stand in a name.  It begins
with a letter (`exists_cons_upper`), and so it is a name.  If nothing were left behind it, then
`upper name` would be a name, against `upper_iff`. -/
lemma IsName.exists_mark_upper {name : Text} (h : IsName name)
    (hmark : ∃ c ∈ name, c.toNat ∈ marked) :
    ∃ before m after, upper name = before ++ m :: after ∧ IsName before ∧
      isNameChar m = false := by
  obtain ⟨d, t, hupper, halpha⟩ := h.exists_cons_upper
  have hd : isNameChar d = true := by simp [isNameChar, halpha]
  have hsplit := (List.takeWhile_append_dropWhile (p := isNameChar) (l := upper name)).symm
  have hbefore : IsName ((upper name).takeWhile isNameChar) :=
    isName_iff.2 ⟨⟨d, by simp [hupper, hd], halpha⟩, fun _ => List.mem_takeWhile_imp⟩
  cases hafter : (upper name).dropWhile isNameChar with
  | nil =>
    rw [hafter, List.append_nil] at hsplit
    rw [← hsplit, h.upper_iff] at hbefore
    obtain ⟨c, hc, hmark⟩ := hmark
    exact absurd hmark (hbefore c hc)
  | cons m after =>
    have hstops := stops_dropWhile isNameChar (upper name)
    rw [hafter] at hsplit hstops
    exact ⟨_, m, after, hsplit, hbefore, (stops_cons _ _ _).1 hstops⟩

/-- The range of the equals sign alone, `0x3D`, is `Untouched`. -/
lemma untouched_equals : Untouched [(0x3D, 0x3D)] := by decide +kernel

/-- If `name` is a name then `upper name` has neither spacing nor an equals sign in it. -/
lemma IsName.of_mem_upper {name : Text} (h : IsName name) {m : Char} (hm : m ∈ upper name) :
    isSpacing m = false ∧ m ≠ '=' := by
  obtain ⟨c, hc, hmc⟩ := List.mem_flatMap.1 hm
  have hname : isNameChar c = true := (isName_iff.1 h).2 c hc
  constructor
  · by_contra hspacing
    rw [Bool.not_eq_false] at hspacing
    obtain rfl := (mem_capital_iff untouched_blank (isBlank_of_isSpacing hspacing)).1 hmc
    exact absurd (hname.symm.trans (isNameChar_of_isSpacing hspacing)) (by simp)
  · rintro rfl
    obtain rfl := (mem_capital_iff untouched_equals (by decide)).1 hmc
    exact absurd hname (by decide)

/-! ## Declarations in upper case -/

/-- `upper` of a text that is put together like a declaration acts on the name and the literal
only. -/
lemma upper_parts {w₀ w₁ w₂ w₃ w₄ : Text} (hw₀ : Spacing w₀) (hw₁ : Spacing w₁)
    (hw₂ : Spacing w₂) (hw₃ : Spacing w₃) (hw₄ : Spacing w₄) (name literal : Text) :
    upper (w₀ ++ (keyword ++ (w₁ ++ (name ++ (w₂ ++ (['='] ++ (w₃ ++ (literal ++ w₄)))))))) =
      w₀ ++ (keyword ++ (w₁ ++ (upper name ++ (w₂ ++ (['='] ++ (w₃ ++ (upper literal ++ w₄))))))) :=
  by
  have hkeyword : upper keyword = keyword := by decide +kernel
  have hequals : upper ['='] = ['='] := by decide +kernel
  simp only [upper_append, upper_of_spacing hw₀, hkeyword, upper_of_spacing hw₁,
    upper_of_spacing hw₂, hequals, upper_of_spacing hw₃, upper_of_spacing hw₄]

/-- If `t` declares `d`, and `d.name` has no marked letter, then `upper t` declares `upper d.name`
with the literal `upper d.literal`. -/
lemma parse_upper_of_unmarked {t : Text} {d : Declaration} (h : parse t = .ok d)
    (hmark : ∀ c ∈ d.name, c.toNat ∉ marked) :
    parse (upper t) = .ok ⟨upper d.name, upper d.literal⟩ := by
  obtain ⟨w₄, hread, hw₄⟩ := parse_eq_ok_iff.1 h
  obtain ⟨w₀, w₁, w₂, w₃, rfl, hw₀, hw₁, hne, hname, hw₂, hw₃, hliteral, -⟩ :=
    read_eq_ok_iff.1 hread
  exact parse_eq_ok_iff.2 ⟨w₄, read_eq_ok_iff.2 ⟨w₀, w₁, w₂, w₃,
    upper_parts hw₀ hw₁ hw₂ hw₃ hw₄ d.name d.literal, hw₀, hw₁, hne, hname.upper_iff.2 hmark, hw₂,
    hw₃, hliteral.upper, stops_of_spacing hw₄⟩, hw₄⟩

/-- If `t` declares `d`, and `d.name` has a marked letter, then `upper t` is refused: the name ends
at a character `m` of `upper d.name`, and there should be an equals sign instead.

**Proof sketch.** The name in `upper t` is read up to `m` (`exists_mark_upper`).  Neither spacing
nor an equals sign stands there (`of_mem_upper`), so that reading stops
(`read_eq_error_of_not_equals`). -/
lemma parse_upper_of_marked {t : Text} {d : Declaration} (h : parse t = .ok d)
    (hmark : ∃ c ∈ d.name, c.toNat ∈ marked) :
    ∃ m rest, m ∈ upper d.name ∧ isNameChar m = false ∧
      parse (upper t) = .error (.failed (upper t) [⟨.word, m :: rest⟩]) := by
  obtain ⟨w₄, hread, hw₄⟩ := parse_eq_ok_iff.1 h
  obtain ⟨w₀, w₁, w₂, w₃, rfl, hw₀, hw₁, hne, hname, hw₂, hw₃, hliteral, -⟩ :=
    read_eq_ok_iff.1 hread
  obtain ⟨before, m, after, hupper, hbefore, hm⟩ := hname.exists_mark_upper hmark
  have hmem : m ∈ upper d.name := by simp [hupper]
  obtain ⟨hspacing, hequals⟩ := hname.of_mem_upper hmem
  have hparts := upper_parts hw₀ hw₁ hw₂ hw₃ hw₄ d.name d.literal
  rw [hupper, List.append_assoc] at hparts
  have hstop : ∀ rest, read (w₀ ++ (keyword ++ (w₁ ++ (before ++ m :: rest)))) =
      .error ⟨.word, m :: rest⟩ := fun rest =>
    @read_eq_error_of_not_equals w₀ w₁ before [] (m :: rest) hw₀ hw₁ hne hbefore (by simpa using hm)
      (by simp [Spacing]) (by simpa using hspacing) (by simpa using hequals.symm)
  have hmissed := (congrArg read hparts).trans (hstop _)
  exact ⟨m, _, hmem, hm, parse_eq_error_iff.2 (.inl ⟨_, hmissed, rfl⟩)⟩

/-- **Declarations in upper case.**  A declaration stays one in upper case, of the name in upper
case and with the literal in upper case, if and only if its name has no marked letter.  Otherwise it
is refused at a mark, where an equals sign is looked for.  Likewise a name stays a name in upper
case if and only if it has no marked letter. -/
theorem parse_upper_iff {t : Text} {d : Declaration} (h : parse t = .ok d) :
    (parse (upper t) = .ok ⟨upper d.name, upper d.literal⟩ ↔ ∀ c ∈ d.name, c.toNat ∉ marked) ∧
    ((∃ c ∈ d.name, c.toNat ∈ marked) → ∃ m rest, m ∈ upper d.name ∧ isNameChar m = false ∧
      parse (upper t) = .error (.failed (upper t) [⟨.word, m :: rest⟩])) ∧
    ∀ name, IsName name → (IsName (upper name) ↔ ∀ c ∈ name, c.toNat ∉ marked) := by
  refine ⟨⟨fun hok c hc hmark => ?_, parse_upper_of_unmarked h⟩, parse_upper_of_marked h,
    fun name hname => hname.upper_iff⟩
  obtain ⟨m, rest, -, -, herror⟩ := parse_upper_of_marked h ⟨c, hc, hmark⟩
  exact absurd (herror.symm.trans hok) nofun

/-- A name with letters that become two letters stays a name. -/
theorem parse_upper_iff_ligature :
    parse "LET straße_ﬁ = ß".toList = .ok ⟨"straße_ﬁ".toList, "ß".toList⟩ ∧
    parse "LET STRASSE_FI = SS".toList = .ok ⟨"STRASSE_FI".toList, "SS".toList⟩ := by
  have hparse : parse "LET straße_ﬁ = ß".toList = .ok ⟨"straße_ﬁ".toList, "ß".toList⟩ := by
    decide +kernel
  have htext : upper "LET straße_ﬁ = ß".toList = "LET STRASSE_FI = SS".toList := by decide +kernel
  have hname : upper "straße_ﬁ".toList = "STRASSE_FI".toList := by decide +kernel
  have hliteral : upper "ß".toList = "SS".toList := by decide +kernel
  have hunmarked : ("straße_ﬁ".toList.all fun c => decide (c.toNat ∉ marked)) = true := by
    decide +kernel
  have hupper := (parse_upper_iff hparse).1.2 fun c hc =>
    of_decide_eq_true (List.all_eq_true.1 hunmarked c hc)
  rw [htext, hname, hliteral] at hupper
  exact ⟨hparse, hupper⟩

/-- A name of one marked letter, `ǰ`: the declaration is refused in upper case, and a program that
consists of it cannot be loaded. -/
theorem upper_refused_caron :
    IsName "\u01F0".toList ∧
    parse "LET \u01F0 = 1".toList = .ok ⟨"\u01F0".toList, "1".toList⟩ ∧
    parse (upper "LET \u01F0 = 1".toList) ≠ .ok ⟨upper "\u01F0".toList, upper "1".toList⟩ ∧
    Program.faultOf (Program.load "LET \u01F0 = 1".toList {}).result =
      some ⟨1, "LET J\u030C = 1".toList, .unrecognized⟩ := by
  refine ⟨isName_iff.2 ⟨⟨_, rfl, by decide +kernel⟩, List.all_eq_true.1 (by decide +kernel)⟩, ?_⟩
  decide +kernel

end Declaration

end Primer
