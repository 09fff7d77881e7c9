import Primer.Proofs.Scanning
import Primer.Text.Uppercase

/-!
# Characters that upper case leaves alone

Upper case changes letters only.  A class of characters that the tables of upper case stay clear of
is *untouched*: its members are their own capitals, and no other character has one of them in its
capital.  For the classes of a few ranges that matter here this can be read off the tables, run by
run and not code point by code point.  In particular the blanks at the beginning of a text are the
same in upper case, and so is whether it goes on with a number sign.  Capitals are left alone as
well: no character of a capital is in the tables, so that upper case comes to an end at once.

## Main definitions

* `Primer.Text.Untouched` — a class that the tables of upper case stay clear of.
* `Primer.Text.Inert` — a text of blanks, or with a number sign as its first other character.
* `Primer.Text.settled` — whether the tables of upper case pass over equally spaced code points.

## Main results

* `Primer.Text.capital_of_untouched`, `Primer.Text.not_contains_of_mem_capital` — upper case keeps
  an untouched class and what is outside.
* `Primer.Text.trimStart_upper` — upper case and the removal of leading blanks can change places.
* `Primer.Text.inert_upper_iff` — upper case makes no difference for an inert text.
* `Primer.Text.capital_of_mem_capital`, `Primer.Text.upper_upper` — a second upper case changes
  nothing.
-/

set_option relaxedAutoImplicit false
set_option autoImplicit false

namespace Primer

namespace Text

/-! ## The tables -/

/-- If `rs.contains n` then `n` lies between the two ends of some range of `rs`. -/
lemma Ranges.exists_of_contains {rs : Ranges} {n : Nat} (h : rs.contains n = true) :
    ∃ r ∈ rs, r.1 ≤ n ∧ n ≤ r.2 := by
  induction rs with
  | nil => simp [contains] at h
  | cons r rs ih =>
    obtain ⟨first, last⟩ := r
    rw [contains] at h
    split_ifs at h with hfirst hlast
    · exact ⟨(first, last), by simp, by simp only; omega⟩
    · obtain ⟨r, hr, hn⟩ := ih h
      exact ⟨r, by simp [hr], hn⟩

/-- If `shift? runs n = some d` then `d` is the shift of a run that has `n` as one of its
letters. -/
lemma exists_of_shift? {runs : List CaseRun} {n : Nat} {d : Int} (h : shift? runs n = some d) :
    ∃ r ∈ runs, r.first ≤ n ∧ n ≤ r.last ∧ r.step ∣ n - r.first ∧ r.shift = d := by
  induction runs with
  | nil => simp [shift?] at h
  | cons r runs ih =>
    rw [shift?] at h
    split_ifs at h with hfirst hlast hstep
    · exact ⟨r, by simp, by omega, hlast, Nat.dvd_of_mod_eq_zero hstep, Option.some.inj h⟩
    · obtain ⟨r', hr', hn⟩ := ih h
      exact ⟨r', by simp [hr'], hn⟩

/-- What `expansion?` finds for `n` stands in the table next to `n`. -/
lemma mem_of_expansion? {table : List (Nat × List Nat)} {n : Nat} {sequence : List Nat}
    (h : expansion? table n = some sequence) : (n, sequence) ∈ table := by
  induction table with
  | nil => simp [expansion?] at h
  | cons e table ih =>
    obtain ⟨key, entry⟩ := e
    rw [expansion?] at h
    split_ifs at h with hlt hkey
    · rw [hkey, ← Option.some.inj h]
      exact List.mem_cons_self
    · exact List.mem_cons_of_mem _ (ih h)

/-! ## Untouched classes -/

/-- The ranges `s` are untouched by upper case: no letter of `caseRuns` or `expansions` lies in
them, and none of the capitals of these letters does. -/
def Untouched (s : Ranges) : Prop :=
  (∀ r ∈ caseRuns, ∀ range ∈ s, (r.last < range.1 ∨ range.2 < r.first) ∧
    (r.last + r.shift < range.1 ∨ range.2 < r.first + r.shift)) ∧
  (∀ e ∈ expansions, ∀ range ∈ s, (e.1 < range.1 ∨ range.2 < e.1) ∧
    ∀ m ∈ e.2, m < range.1 ∨ range.2 < m) ∧
  ∀ range ∈ s, 0 < range.1

instance (s : Ranges) : Decidable (Untouched s) := inferInstanceAs (Decidable (_ ∧ _ ∧ _))

/-- `blank` is untouched by upper case: no blank has a capital or is one. -/
lemma untouched_blank : Untouched blank := by decide +kernel

/-- The range of the number sign alone, `0x23`, is `Untouched`. -/
lemma untouched_numberSign : Untouched [(0x23, 0x23)] := by decide +kernel

variable {s : Ranges} {c d : Char}

/-- `capital c = [c]` for a character `c` of an untouched class. -/
lemma capital_of_untouched (hs : Untouched s) (hc : s.contains c.toNat = true) :
    capital c = [c] := by
  obtain ⟨range, hrange, hlow, hhigh⟩ := Ranges.exists_of_contains hc
  have hshift : shift? caseRuns c.toNat = none := by
    by_contra hne
    obtain ⟨d, hd⟩ := Option.ne_none_iff_exists'.1 hne
    obtain ⟨r, hr, hfirst, hlast, -⟩ := exists_of_shift? hd
    have := (hs.1 r hr range hrange).1
    omega
  have hexpansion : expansion? expansions c.toNat = none := by
    by_contra hne
    obtain ⟨sequence, hsequence⟩ := Option.ne_none_iff_exists'.1 hne
    have := (hs.2.1 _ (mem_of_expansion? hsequence) range hrange).1
    omega
  simp [capital, hshift, hexpansion]

/-- The code point of `Char.ofNat n` is `n`, or `0` if there is no character with code point `n`. -/
lemma toNat_ofNat_or (n : Nat) : (Char.ofNat n).toNat = n ∨ (Char.ofNat n).toNat = 0 := by
  by_cases h : n.isValidChar
  · have hvalid : Char.ofNat n = Char.ofNatAux n h := dif_pos h
    rw [hvalid]
    exact .inl rfl
  · refine .inr ?_
    rw [Char.ofNat, dif_neg h]
    rfl

/-- If `c` is outside the untouched class `s` then so is each character of `capital c`.

**Proof sketch.** A character of `capital c` comes from the tables, or it is `c` itself.  The
capitals in the tables lie outside of each range of an untouched class, and so does NUL, which
stands for code points that are no characters. -/
lemma not_contains_of_mem_capital (hs : Untouched s) (hc : s.contains c.toNat = false)
    (hd : d ∈ capital c) : s.contains d.toNat = false := by
  by_contra hne
  obtain ⟨range, hrange, hlow, hhigh⟩ := Ranges.exists_of_contains (by simpa using hne)
  have hpos := hs.2.2 range hrange
  unfold capital at hd
  split at hd
  · next shift _ hshift =>
    obtain ⟨r, hr, hfirst, hlast, -, rfl⟩ := exists_of_shift? hshift
    have hclear := (hs.1 r hr range hrange).2
    rw [List.mem_singleton] at hd
    rcases toNat_ofNat_or (c.toNat + r.shift).toNat with h | h <;> rw [← hd] at h <;> omega
  · next sequence _ hsequence =>
    obtain ⟨m, hm, rfl⟩ := List.mem_map.1 hd
    have hclear := (hs.2.1 _ (mem_of_expansion? hsequence) range hrange).2 m hm
    rcases toNat_ofNat_or m with h | h <;> omega
  · rw [List.mem_singleton.1 hd, hc] at hne
    exact hne rfl

/-- A character `d` of an untouched class is in `capital c` for `c = d` only. -/
lemma mem_capital_iff (hs : Untouched s) (hd : s.contains d.toNat = true) :
    d ∈ capital c ↔ c = d := by
  constructor
  · intro h
    cases hc : s.contains c.toNat with
    | true =>
      rw [capital_of_untouched hs hc] at h
      exact (List.mem_singleton.1 h).symm
    | false =>
      rw [not_contains_of_mem_capital hs hc h] at hd
      exact absurd hd (by simp)
  · rintro rfl
    rw [capital_of_untouched hs hd]
    exact List.mem_singleton_self c

/-- `capital c` has at least one character. -/
lemma capital_ne_nil (c : Char) : capital c ≠ [] := by
  have hentries : ∀ e ∈ expansions, e.2 ≠ [] := by decide +kernel
  unfold capital
  split
  · simp
  · next sequence _ hsequence => simpa using hentries _ (mem_of_expansion? hsequence)
  · simp

/-- `upper` distributes over `++`. -/
lemma upper_append (t u : Text) : upper (t ++ u) = upper t ++ upper u := List.flatMap_append

/-! ## Leading blanks -/

/-- `capital c = [c]` for a blank `c`. -/
lemma capital_of_isBlank (h : isBlank c = true) : capital c = [c] :=
  capital_of_untouched untouched_blank h

/-- If `c` is no blank then `capital c` has no blanks. -/
lemma isBlank_of_mem_capital (hc : isBlank c = false) (hd : d ∈ capital c) : isBlank d = false :=
  not_contains_of_mem_capital untouched_blank hc hd

/-- `upper t` has the same blanks as `t`. -/
lemma mem_upper_iff_of_isBlank {t : Text} (h : isBlank d = true) : d ∈ upper t ↔ d ∈ t := by
  simp [upper, mem_capital_iff untouched_blank h]

/-- `trimStart` and `upper` commute.

**Proof sketch.** Induction on the text.  A blank in front is its own capital, and it is removed on
both sides.  Any other character stays, and so does its capital, which begins with no blank. -/
lemma trimStart_upper (t : Text) : trimStart (upper t) = upper (trimStart t) := by
  induction t with
  | nil => rfl
  | cons c t ih =>
    have hcons : upper (c :: t) = capital c ++ upper t := by simp [upper]
    cases hc : isBlank c with
    | true =>
      rw [hcons, capital_of_isBlank hc]
      simpa [trimStart, hc] using ih
    | false =>
      obtain ⟨d, ds, hcapital⟩ := List.exists_cons_of_ne_nil (capital_ne_nil c)
      have hd : isBlank d = false := isBlank_of_mem_capital hc (by simp [hcapital])
      have hkept : trimStart (c :: t) = c :: t := by simp [trimStart, hc]
      rw [hkept, hcons, hcapital]
      simp [trimStart, hd]

/-- `trim t` and `trimStart t` begin with the same character.

**Proof sketch.** `trim t` is a prefix of `trimStart t`, and so they begin alike if it is not empty.
If it is empty then all of `trimStart t` is blank, but its first character is not. -/
lemma head?_trim (t : Text) : (trim t).head? = (trimStart t).head? := by
  cases hu : trimStart t with
  | nil => simp [trim, hu, trimEnd]
  | cons c u =>
    have hc : isBlank c = false := by
      have hstops := stops_dropWhile isBlank t
      change Stops isBlank (trimStart t) at hstops
      rwa [hu, stops_cons] at hstops
    have hp : trim t <+: trimStart t := List.rdropWhile_prefix isBlank (trimStart t)
    rw [hu] at hp
    cases ht : trim t with
    | nil =>
      -- not all of the text is blank, since its first character is not
      have hall : ∀ d ∈ c :: u, isBlank d = true := by
        have hnil : (c :: u).rdropWhile isBlank = [] := by rw [← hu]; exact ht
        exact List.rdropWhile_eq_nil_iff.1 hnil
      rw [hall c (by simp)] at hc
      exact absurd hc (by simp)
    | cons d v =>
      rw [ht] at hp
      obtain rfl : d = c := (List.cons_prefix_cons.1 hp).1
      rfl

/-! ## Inert texts -/

/-- A text that apart from outer blanks is empty or begins with a number sign. -/
def Inert (t : Text) : Prop := trim t = [] ∨ (trim t).head? = some '#'

instance (t : Text) : Decidable (Inert t) := inferInstanceAs (Decidable (_ ∨ _))

/-- `Inert t` says of `trimStart t` that it is empty or begins with `#`. -/
lemma inert_iff {t : Text} : Inert t ↔ ∀ c ∈ (trimStart t).head?, c = '#' := by
  rw [Inert, ← head?_trim]
  cases trim t <;> simp

/-- The first character of `capital c` is `#` only for `c = '#'`. -/
lemma head_capital_eq_numberSign_iff (hd : d ∈ (capital c).head?) : d = '#' ↔ c = '#' := by
  have hmem : d ∈ capital c := List.mem_of_mem_head? hd
  constructor
  · rintro rfl
    exact (mem_capital_iff untouched_numberSign (by decide)).1 hmem
  · rintro rfl
    rw [capital_of_untouched untouched_numberSign (by decide)] at hmem
    exact List.mem_singleton.1 hmem

/-- `upper t` is inert if and only if `t` is. -/
lemma inert_upper_iff {t : Text} : Inert (upper t) ↔ Inert t := by
  rw [inert_iff, inert_iff, trimStart_upper]
  cases trimStart t with
  | nil => rfl
  | cons c u =>
    obtain ⟨d, ds, hcapital⟩ := List.exists_cons_of_ne_nil (capital_ne_nil c)
    have hhead : (upper (c :: u)).head? = some d := by simp [upper, hcapital]
    have hiff := head_capital_eq_numberSign_iff (c := c) (d := d) (by simp [hcapital])
    rw [hhead]
    simpa using hiff

/-! ## Capitals of capitals -/

/-- Whether the code points from `low` to `high` in steps of `step` are in none of the runs.  They
may lie between the letters of a run that has every second code point only. -/
def unshifted (low high step : Nat) : List CaseRun → Bool
  | [] => true
  | r :: runs =>
    high.blt r.first ||
      (r.last.blt low || r.step.beq 2 && (step % 2).beq 0 && ((low + r.first) % 2).beq 1) &&
        unshifted low high step runs

/-- Whether no code point from `low` to `high` has an entry in the table. -/
def unexpanded (low high : Nat) : List (Nat × List Nat) → Bool
  | [] => true
  | e :: table => high.blt e.1 || e.1.blt low && unexpanded low high table

/-- Whether both tables of upper case pass over the code points from `low` to `high` in steps of
`step`. -/
def settled (low high step : Nat) : Bool :=
  unshifted low high step caseRuns && unexpanded low high expansions

/-- The capitals of each run of `caseRuns` are settled, also where they lie between its own letters.
A run of one letter has no steps to take. -/
lemma settled_caseRuns : ∀ r ∈ caseRuns, 0 ≤ r.first + r.shift ∧
    settled (r.first + r.shift).toNat (r.last + r.shift).toNat
      (if r.first = r.last then 0 else r.step) = true := by decide +kernel

/-- The code points of each sequence in `expansions` are settled. -/
lemma settled_expansions : ∀ e ∈ expansions, ∀ m ∈ e.2, settled m m 0 = true := by decide +kernel

/-- `shift? runs n = none` for each `n` among the code points that `unshifted` checks.

**Proof sketch.** Both walks go through the runs in step.  At a run around the code point the one
for the shift looks at the distance from its first letter, which is odd: the distance from `low` is
even, since it is made of even steps, and `low` is at an odd distance itself. -/
lemma shift?_of_unshifted {runs : List CaseRun} {low high step n : Nat}
    (h : unshifted low high step runs = true) (hlow : low ≤ n) (hhigh : n ≤ high)
    (hstep : step ∣ n - low) : shift? runs n = none := by
  induction runs with
  | nil => rfl
  | cons r runs ih =>
    simp only [unshifted, Bool.or_eq_true, Bool.and_eq_true, Nat.blt_eq, Nat.beq_eq] at h
    rw [shift?]
    split_ifs with hfirst hlast hletter
    · rfl
    · exfalso
      rcases h with h | ⟨h | ⟨⟨hsecond, heven⟩, hodd⟩, -⟩
      · omega
      · omega
      · have htwo : 2 ∣ n - low := Nat.dvd_trans (Nat.dvd_of_mod_eq_zero heven) hstep
        rw [hsecond] at hletter
        omega
    · rfl
    · rcases h with h | ⟨-, h⟩
      · omega
      · exact ih h

/-- `expansion? table n = none` for each `n` among the code points that `unexpanded` checks. -/
lemma expansion?_of_unexpanded {table : List (Nat × List Nat)} {low high n : Nat}
    (h : unexpanded low high table = true) (hlow : low ≤ n) (hhigh : n ≤ high) :
    expansion? table n = none := by
  induction table with
  | nil => rfl
  | cons e table ih =>
    simp only [unexpanded, Bool.or_eq_true, Bool.and_eq_true, Nat.blt_eq] at h
    rw [expansion?]
    split_ifs with hbefore hkey
    · rfl
    · omega
    · rcases h with h | ⟨-, h⟩
      · omega
      · exact ih h

/-- `capital c = [c]` if the code point of `c` is among settled ones. -/
lemma capital_of_settled {low high step : Nat} (h : settled low high step = true)
    (hlow : low ≤ c.toNat) (hhigh : c.toNat ≤ high) (hstep : step ∣ c.toNat - low) :
    capital c = [c] := by
  rw [settled, Bool.and_eq_true] at h
  simp [capital, shift?_of_unshifted h.1 hlow hhigh hstep,
    expansion?_of_unexpanded h.2 hlow hhigh]

/-- `capital_of_settled` for the character `Char.ofNat n`, also where it is NUL instead. -/
lemma capital_ofNat_of_settled {low high step n : Nat} (h : settled low high step = true)
    (hlow : low ≤ n) (hhigh : n ≤ high) (hstep : step ∣ n - low) :
    capital (Char.ofNat n) = [Char.ofNat n] := by
  rcases toNat_ofNat_or n with hn | hn
  · exact capital_of_settled h (by rwa [hn]) (by rwa [hn]) (by rwa [hn])
  · have hnul : settled 0 0 0 = true := by decide +kernel
    exact capital_of_settled hnul (by omega) (by omega) (by simp [hn])

/-- **The characters of a capital are their own capitals**: `capital d = [d]` for
`d ∈ capital c`.

**Proof sketch.** By the table that `capital c` comes from.  The capitals of a run are settled
(`settled_caseRuns`), and their distance from the first is that of `c` from the first letter; the
characters of an expansion are settled one by one (`settled_expansions`).  Without a table `d` is
`c`. -/
lemma capital_of_mem_capital (h : d ∈ capital c) : capital d = [d] := by
  unfold capital at h
  split at h
  · next shift _ hshift =>
    obtain ⟨r, hr, hfirst, hlast, hstep, rfl⟩ := exists_of_shift? hshift
    obtain ⟨hpos, hsettled⟩ := settled_caseRuns r hr
    rw [List.mem_singleton.1 h]
    refine capital_ofNat_of_settled hsettled (by omega) (by omega) ?_
    have hdistance : (c.toNat + r.shift).toNat - (r.first + r.shift).toNat =
        c.toNat - r.first := by omega
    rw [hdistance]
    split_ifs with hsingle
    · exact Nat.zero_dvd.2 (by omega)
    · exact hstep
  · next sequence _ hsequence =>
    obtain ⟨m, hm, rfl⟩ := List.mem_map.1 h
    exact capital_ofNat_of_settled (settled_expansions _ (mem_of_expansion? hsequence) m hm)
      le_rfl le_rfl (by simp)
  · next hshift hexpansion =>
    rw [List.mem_singleton.1 h]
    simp [capital, hshift, hexpansion]

/-- `capital c = [c]` for each character `c` of `upper t`. -/
lemma capital_of_mem_upper {t : Text} (h : c ∈ upper t) : capital c = [c] := by
  obtain ⟨b, -, hc⟩ := List.mem_flatMap.1 h
  exact capital_of_mem_capital hc

/-- `upper t = t` if each character of `t` is its own capital. -/
lemma upper_eq_self {t : Text} (h : ∀ c ∈ t, capital c = [c]) : upper t = t := by
  induction t with
  | nil => rfl
  | cons c t ih =>
    rw [List.forall_mem_cons] at h
    have htail : t.flatMap capital = t := ih h.2
    rw [upper, List.flatMap_cons, h.1, htail]
    rfl

/-- `upper` is idempotent. -/
lemma upper_upper (t : Text) : upper (upper t) = upper t :=
  upper_eq_self fun _ => capital_of_mem_upper

end Text

end Primer
