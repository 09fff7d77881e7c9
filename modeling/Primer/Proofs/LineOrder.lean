import Mathlib.Data.List.OfFn
import Mathlib.Logic.Equiv.Basic
import Primer.Proofs.Concatenation

/-!
# The order of lines

Whether a line is bad or faulty is said by looking at the lines before it.  In a fresh session, all
the same, the order of the lines does not matter: a source runs without a fault if and only if it is
*coherent*, which says of any two lines that they carry different labels and declare different
variables, and of every line that it is a statement and gives a number to what it declares.  What
such a source leaves in the tables can be said in the same way, by the lines that carry a label or
declare a variable.  So lines can be put in another order, and only the numbers of the marked lines
change with it.

## Main definitions

* `Primer.Source.DeclaredAt` — the declarations on the lines of a source.
* `Primer.Source.Coherent` — a source without conflicts between its lines.
* `Primer.Source.rearranged` — lines in another order; `Primer.Source.renumbering` — the numbers
  that the lines then have.

## Main results

* `Primer.Session.run_ok_iff_coherent` — the sources that run without a fault in a fresh session.
* `Primer.Session.labels_get?_eq_some_iff`, `Primer.Session.bindings_get?_eq_some_iff` — what they
  leave in the tables.
* `Primer.Session.run_rearranged` — lines in another order.
-/

set_option relaxedAutoImplicit false
set_option autoImplicit false

namespace Primer

open Text Program

/-! ## Looking up in a table -/

/-- If equal names have equal values in `t`, then `t.get? name = some v` if and only if `(name, v)`
is an entry of `t`. -/
lemma Table.get?_eq_some_iff {α : Type} {t : Table α}
    (h : ∀ name v v', (name, v) ∈ t.entries → (name, v') ∈ t.entries → v = v') {name : Text}
    {v : α} : t.get? name = some v ↔ (name, v) ∈ t.entries := by
  have hmem : ∀ v', t.get? name = some v' → (name, v') ∈ t.entries := by
    intro v' hv'
    obtain ⟨before, behind, hentries, -⟩ := List.lookup_eq_some_iff.1 hv'
    rw [hentries]
    simp
  refine ⟨hmem v, fun hv => ?_⟩
  cases hget : t.get? name with
  | none =>
    have hne := List.lookup_eq_none_iff.1 hget (name, v) hv
    simp at hne
  | some v' => rw [h name v' v (hmem v' hget) hv]

/-- If `b` extends the empty bindings by `ds`, then its entries are the names in `ds` with the
values that their literals spell. -/
lemma Bindings.ExtendedBy.mem_iff {b : Bindings} {ds : List Declaration}
    (h : ExtendedBy {} ds b) {name : Text} {v : Int32} :
    (name, v) ∈ b.entries ↔ ∃ d ∈ ds, d.name = name ∧ Spells d.literal v.toInt := by
  obtain ⟨new, hentries, hnew⟩ := h
  rw [hentries, List.nil_append]
  clear hentries
  induction hnew with
  | nil => simp
  | @cons d e ds new hde _ ih =>
    obtain ⟨name', v'⟩ := e
    simp only [List.mem_cons, ih, exists_eq_or_imp, Prod.mk.injEq]
    have hvalue : v = v' ↔ Spells d.literal v.toInt :=
      ⟨fun hv => hv ▸ hde.2, fun hv => hv.unique hde.2⟩
    rw [hvalue, ← hde.1, eq_comm (a := name)]

/-- If `f` has a value at none but the numbers from `1` to `n`, then `filterMap f` over these
numbers gives all values of `f`. -/
lemma mem_filterMap_range'_all_iff {α : Type} {f : Nat → Option α} {n : Nat} (hzero : f 0 = none)
    (hbeyond : ∀ m, n < m → f m = none) {a : α} :
    a ∈ (List.range' 1 n).filterMap f ↔ ∃ m, f m = some a := by
  rw [mem_filterMap_range'_iff hzero]
  refine ⟨fun ⟨m, _, hm⟩ => ⟨m, hm⟩, fun ⟨m, hm⟩ => ⟨m, ?_, hm⟩⟩
  by_contra hlarge
  simp [hbeyond m (by omega)] at hm

namespace Source

/-! ## Sources without conflicts -/

/-- Line `n` of the source declares `d`. -/
def DeclaredAt (source : Text) (n : Nat) (d : Declaration) : Prop :=
  ∃ raw, lineAt source n = some raw ∧ d.Written (Line.splitLabel raw).2

/-- A coherent source: no two lines carry the same label or declare the same variable, every line is
a statement, and every literal is a numeral. -/
structure Coherent (source : Text) : Prop where
  labels : ∀ m n label, labelAt source m = some label → labelAt source n = some label → m = n
  legible : ∀ n, ¬ Illegible source n
  names : ∀ m n d d', DeclaredAt source m d → DeclaredAt source n d' → d.name = d'.name → m = n
  literals : ∀ n d, DeclaredAt source n d → IsNumeral d.literal

/-- If `R` is symmetric, and relates no number to a greater one, then `R m n` implies `m = n`. -/
lemma eq_of_not_lt {R : Nat → Nat → Prop} (hsymm : ∀ m n, R m n → R n m)
    (h : ∀ m n, m < n → ¬ R m n) {m n : Nat} (hmn : R m n) : m = n := by
  rcases Nat.lt_trichotomy m n with hlt | heq | hgt
  · exact absurd hmn (h m n hlt)
  · exact heq
  · exact absurd (hsymm m n hmn) (h n m hgt)

/-- With no labels known before, no line of `source` is `Bad` if and only if no two lines carry the
same label and none is `Illegible`.

**Proof sketch.** A label that two lines carry is taken when the later one comes, and conversely a
taken label was carried before, since there were none at first. -/
lemma not_bad_iff {source : Text} :
    (∀ n, ¬ Bad {} source n) ↔
      (∀ m n label, labelAt source m = some label → labelAt source n = some label → m = n) ∧
        ∀ n, ¬ Illegible source n := by
  constructor
  · intro h
    refine ⟨fun m n label hm hn => ?_, fun n hn => h n (.inr hn)⟩
    refine eq_of_not_lt (R := fun m n => labelAt source m = some label ∧
      labelAt source n = some label) (fun m n hmn => ⟨hmn.2, hmn.1⟩) ?_ ⟨hm, hn⟩
    -- a label that two lines carry is taken when the later one comes
    rintro m n hlt ⟨hm, hn⟩
    exact h n (.inl ⟨label, hn, .inr ⟨m, hlt, hm⟩⟩)
  · rintro ⟨hlabels, hlegible⟩ n (⟨label, hn, hknown | ⟨m, hlt, hm⟩⟩ | hillegible)
    · simp [Table.contains_iff] at hknown
    · exact absurd (hlabels m n label hm hn) (by omega)
    · exact hlegible n hillegible

/-- With no variables bound before, no line of the program `p` that `load` returns is `Faulty` if
and only if no two lines declare the same variable and every literal is a numeral.

**Proof sketch.** As in `not_bad_iff`, with the declarations of the source's lines
(`declarationAt_of_load`): a variable that two lines declare exists when the later one comes. -/
lemma not_faulty_iff {source : Text} {labels : Labels} {p : Program}
    (h : (load source labels).result = .ok p) :
    (∀ n, ¬ p.Faulty {} n) ↔
      (∀ m n d d', DeclaredAt source m d → DeclaredAt source n d' → d.name = d'.name → m = n) ∧
        ∀ n d, DeclaredAt source n d → IsNumeral d.literal := by
  have hat : ∀ n d, p.declarationAt n = some d ↔ DeclaredAt source n d := declarationAt_of_load h
  constructor
  · intro hgood
    refine ⟨fun m n d d' hm hn hname => ?_, fun n d hn => ?_⟩
    · refine eq_of_not_lt (R := fun m n => ∃ d d', DeclaredAt source m d ∧ DeclaredAt source n d' ∧
        d.name = d'.name) (fun m n ⟨d, d', hm, hn, hname⟩ => ⟨d', d, hn, hm, hname.symm⟩) ?_
        ⟨d, d', hm, hn, hname⟩
      rintro m n hlt ⟨d, d', hm, hn, hname⟩
      exact hgood n ⟨d', (hat n d').2 hn, .inl (.inr ⟨m, hlt, by simp [(hat m d).2 hm, hname]⟩)⟩
    · by_contra hliteral
      exact hgood n ⟨d, (hat n d).2 hn, .inr hliteral⟩
  · rintro ⟨hnames, hliterals⟩ n ⟨d, hn, (hbound | ⟨m, hlt, hm⟩) | hliteral⟩
    · simp [Table.contains_iff] at hbound
    · obtain ⟨d', hm, hname⟩ := Option.map_eq_some_iff.1 hm
      exact absurd (hnames m n d' d ((hat m d').1 hm) ((hat n d).1 hn) hname) (by omega)
    · exact hliteral (hliterals n d ((hat n d).1 hn))

/-- If `table` holds all labels of `source`, and no two lines carry the same one, then
`table.get? label = some n` if and only if line `n` carries `label`. -/
lemma get?_eq_some_iff {source : Text} {table : Labels}
    (htable : table.entries = labelsUpTo source (Text.lines source).length)
    (hlabels : ∀ m n label, labelAt source m = some label → labelAt source n = some label → m = n)
    {label : Text} {n : Nat} : table.get? label = some n ↔ labelAt source n = some label := by
  have hmem : ∀ label n, (label, n) ∈ table.entries ↔ labelAt source n = some label := by
    intro label n
    rw [htable, labelsUpTo, mem_filterMap_range'_all_iff rfl fun m hm => by
      simp [labelAt, lineAt_eq_none_of_length_lt hm]]
    simp
  rw [Table.get?_eq_some_iff, hmem]
  intro label m n hm hn
  exact hlabels m n label ((hmem label m).1 hm) ((hmem label n).1 hn)

end Source

namespace Program

/-- `load source labels` has no fault if and only if no line is `Bad`. -/
lemma load_ok_iff (source : Text) (labels : Labels) :
    faultOf (load source labels).result = none ↔ ∀ n, ¬ Source.Bad labels source n := by
  have hverdict := load_verdict source labels
  generalize faultOf (load source labels).result = found at hverdict ⊢
  cases hverdict with
  | loaded hgood => simp [hgood]
  | @clash n _ label _ _ hclash => simpa using ⟨n, .inl ⟨label, hclash⟩⟩
  | @illegible n _ _ _ _ hillegible => simpa using ⟨n, .inr hillegible⟩

/-- `p.run b` has no fault if and only if no line of `p` is `Faulty`, and then it leaves `b`
extended by all declarations of `p`. -/
lemma run_ok_iff (p : Program) (b : Bindings) :
    (faultOf (p.run b).result = none ↔ ∀ n, ¬ p.Faulty b n) ∧
      (faultOf (p.run b).result = none →
        b.ExtendedBy (p.declarationsUpTo p.length) (p.run b).state) := by
  have hending := run_ending p b
  generalize faultOf (p.run b).result = found at hending ⊢
  generalize executed (p.run b).log = visited at hending
  cases hending with
  | finished hgood hb => exact ⟨by simp [hgood], fun _ => hb⟩
  | @taken k l d _ hl hd htaken =>
    have hfaulty : p.Faulty b k := ⟨d, by simp [declarationAt, hl, hd], .inl htaken⟩
    exact ⟨by simpa using ⟨k, hfaulty⟩, by simp⟩
  | @invalid k l d _ hl hd _ hv =>
    have hfaulty : p.Faulty b k := ⟨d, by simp [declarationAt, hl, hd], .inr hv⟩
    exact ⟨by simpa using ⟨k, hfaulty⟩, by simp⟩

end Program

namespace Session

open Source

/-- `s.run source` has no fault if and only if `load` returns a program `p`, and `p.run s.bindings`
has no fault. -/
lemma run_ok_iff_loaded {s : Session} {source : Text} :
    faultOf (s.run source).result = none ↔
      ∃ p, (Program.load source s.labels).result = .ok p ∧
        faultOf (p.run s.bindings).result = none := by
  cases hload : (Program.load source s.labels).result with
  | error fault => simp [run_of_load_error hload, faultOf]
  | ok p => simp [run_of_loaded hload]

/-- **The coherent sources are those that run without a fault**: `run {} source` has no fault if and
only if `Coherent source`. -/
lemma run_ok_iff_coherent (source : Text) :
    faultOf (run {} source).result = none ↔ Coherent source := by
  rw [run_ok_iff_loaded]
  constructor
  · rintro ⟨p, hload, hrun⟩
    have hgood := (load_ok_iff source {}).1 (by rw [hload]; rfl)
    obtain ⟨hlabels, hlegible⟩ := not_bad_iff.1 hgood
    obtain ⟨hnames, hliterals⟩ := (not_faulty_iff hload).1 ((p.run_ok_iff {}).1.1 hrun)
    exact ⟨hlabels, hlegible, hnames, hliterals⟩
  · rintro ⟨hlabels, hlegible, hnames, hliterals⟩
    obtain ⟨p, hload⟩ := faultOf_eq_none_iff.1
      ((load_ok_iff source {}).2 (not_bad_iff.2 ⟨hlabels, hlegible⟩))
    exact ⟨p, hload, (p.run_ok_iff {}).1.2 ((not_faulty_iff hload).2 ⟨hnames, hliterals⟩)⟩

/-! ## What coherent sources leave -/

/-- If `source` is coherent, then after its run in a fresh session a label marks line `n` if and
only if line `n` carries it. -/
lemma labels_get?_eq_some_iff {source : Text} (h : Coherent source) {label : Text} {n : Nat} :
    (run {} source).state.labels.get? label = some n ↔ labelAt source n = some label := by
  have hentries := labels_of_run ((run_ok_iff_coherent source).2 h)
  exact get?_eq_some_iff hentries h.labels

/-- If `source` is coherent, then after its run in a fresh session a variable has the value `v` if
and only if a line declares it with a literal that spells `v`.

**Proof sketch.** A coherent source is loaded as a program that runs without a fault
(`run_ok_iff_coherent`), and which leaves the variables of all its declarations
(`Bindings.ExtendedBy.mem_iff`); these are the declarations of the source's lines
(`declarationAt_of_load`).  So the entries are as stated.  What `get?` finds is what the entries
are, if no name has two values (`Table.get?_eq_some_iff`): two lines that declare the same name are
the same line, which is one declaration, and its literal spells one number. -/
lemma bindings_get?_eq_some_iff {source : Text} (h : Coherent source) {name : Text} {v : Int32} :
    (run {} source).state.bindings.get? name = some v ↔
      ∃ n d, DeclaredAt source n d ∧ d.name = name ∧ Spells d.literal v.toInt := by
  obtain ⟨p, hload, hrun⟩ := run_ok_iff_loaded.1 ((run_ok_iff_coherent source).2 h)
  have hat : ∀ n d, p.declarationAt n = some d ↔ DeclaredAt source n d :=
    declarationAt_of_load hload
  have hstate : (run {} source).state.bindings = (p.run {}).state := by
    rw [run_of_loaded hload]
  have hall : ∀ d, d ∈ p.declarationsUpTo p.length ↔ ∃ n, DeclaredAt source n d := by
    intro d
    rw [declarationsUpTo, mem_filterMap_range'_all_iff rfl fun m hm => by
      rw [declarationAt, at?_eq_none_of_length_lt hm, Option.bind_none]]
    simp only [hat]
  have hmem : ∀ name v, (name, v) ∈ (run {} source).state.bindings.entries ↔
      ∃ n d, DeclaredAt source n d ∧ d.name = name ∧ Spells d.literal v.toInt := by
    intro name v
    rw [hstate, ((p.run_ok_iff {}).2 hrun).mem_iff]
    simp only [hall]
    constructor
    · rintro ⟨d, ⟨n, hn⟩, hd⟩
      exact ⟨n, d, hn, hd⟩
    · rintro ⟨n, d, hn, hd⟩
      exact ⟨d, ⟨n, hn⟩, hd⟩
  rw [Table.get?_eq_some_iff, hmem]
  intro name v v' hv hv'
  obtain ⟨m, d, hm, hname, hvalue⟩ := (hmem name v).1 hv
  obtain ⟨n, d', hn, hname', hvalue'⟩ := (hmem name v').1 hv'
  -- one name is declared on one line only, and a line is one declaration only
  obtain rfl := h.names m n d d' hm hn (hname.trans hname'.symm)
  obtain rfl : d = d' := Option.some.inj (((hat m d).2 hm).symm.trans ((hat m d').2 hn))
  exact hvalue.unique hvalue'

end Session

/-! ## Lines in another order -/

namespace Source

/-- The lines of `source` are those of `source'` under the numbers that `f` gives them. -/
def SameLines (f : Nat ≃ Nat) (source source' : Text) : Prop :=
  ∀ n, lineAt source' (f n) = lineAt source n

namespace SameLines

variable {f : Nat ≃ Nat} {source source' : Text}

/-- If `f` leads from the lines of `source` to those of `source'`, then `f.symm` leads back. -/
lemma symm (h : SameLines f source source') : SameLines f.symm source' source := by
  intro n
  rw [← h (f.symm n), f.apply_symm_apply]

/-- Line `f n` of `source'` carries the label of line `n` of `source`. -/
lemma labelAt (h : SameLines f source source') (n : Nat) :
    labelAt source' (f n) = Source.labelAt source n := by
  rw [Source.labelAt, Source.labelAt, h n]

/-- Line `f n` of `source'` declares what line `n` of `source` declares. -/
lemma declaredAt_iff (h : SameLines f source source') {n : Nat} {d : Declaration} :
    DeclaredAt source' (f n) d ↔ DeclaredAt source n d := by
  rw [DeclaredAt, DeclaredAt, h n]

/-- If `source` is coherent, and `source'` has the same lines, then `source'` is coherent.

**Proof sketch.** Each number is `f m` for some `m`.  So what is said of the lines of `source'` is
said of those of `source`, and `f` keeps different numbers apart. -/
lemma coherent (h : SameLines f source source') (hs : Coherent source) : Coherent source' := by
  have hat : ∀ n, ∃ m, n = f m := fun n => ⟨f.symm n, (f.apply_symm_apply n).symm⟩
  constructor
  · intro m n label hm hn
    obtain ⟨m, rfl⟩ := hat m
    obtain ⟨n, rfl⟩ := hat n
    rw [h.labelAt] at hm hn
    rw [hs.labels m n label hm hn]
  · rintro n ⟨raw, hraw, hno⟩
    obtain ⟨n, rfl⟩ := hat n
    exact hs.legible n ⟨raw, h n ▸ hraw, hno⟩
  · intro m n d d' hm hn hname
    obtain ⟨m, rfl⟩ := hat m
    obtain ⟨n, rfl⟩ := hat n
    rw [hs.names m n d d' (h.declaredAt_iff.1 hm) (h.declaredAt_iff.1 hn) hname]
  · intro n d hn
    obtain ⟨n, rfl⟩ := hat n
    exact hs.literals n d (h.declaredAt_iff.1 hn)

end SameLines

/-- Lines in another order: each line is moved to the place that `σ` gives it. -/
def rearranged (ls : List Text) (σ : Equiv.Perm (Fin ls.length)) : List Text :=
  List.ofFn fun i => ls.get (σ.symm i)

/-- The number of a line after lines have been moved to other places.  Lines are numbered from one,
and beyond the last line nothing is moved. -/
def renumbered {k : Nat} (σ : Equiv.Perm (Fin k)) : Nat → Nat
  | 0 => 0
  | n + 1 => if h : n < k then σ ⟨n, h⟩ + 1 else n + 1

/-- `renumbered σ.symm` takes `renumbered σ` back. -/
lemma renumbered_symm {k : Nat} (σ : Equiv.Perm (Fin k)) (n : Nat) :
    renumbered σ.symm (renumbered σ n) = n := by
  cases n with
  | zero => rfl
  | succ n =>
    by_cases h : n < k
    · simp [renumbered, h]
    · simp [renumbered, h]

/-- The numbers of lines after they have been moved, as a permutation of all numbers. -/
def renumbering {k : Nat} (σ : Equiv.Perm (Fin k)) : Nat ≃ Nat where
  toFun := renumbered σ
  invFun := renumbered σ.symm
  left_inv := renumbered_symm σ
  right_inv := renumbered_symm σ.symm

/-- `terminated (rearranged ls σ)` has the lines of `terminated ls`, under the numbers that
`renumbering σ` gives them.

**Proof sketch.** The lines of both sources are the given ones (`lines_terminated`).  Line `n + 1`
is moved to place `σ n`, where `rearranged` takes the line from `σ.symm` of that place; beyond the
last line nothing is moved, and there are no lines. -/
lemma sameLines_rearranged {ls : List Text} (hls : ∀ l ∈ ls, '\n' ∉ l)
    (σ : Equiv.Perm (Fin ls.length)) :
    SameLines (renumbering σ) (terminated ls) (terminated (rearranged ls σ)) := by
  have hmoved : ∀ l ∈ rearranged ls σ, '\n' ∉ l := by
    intro l hl
    obtain ⟨i, rfl⟩ := List.mem_ofFn.1 hl
    exact hls _ (List.get_mem _ _)
  have hlines := lines_terminated hls
  have hlines' := lines_terminated hmoved
  intro n
  cases n with
  | zero => rfl
  | succ n =>
    by_cases h : n < ls.length
    · have hplace : renumbering σ (n + 1) = σ ⟨n, h⟩ + 1 := dif_pos h
      rw [hplace, lineAt, lineAt, hlines, hlines']
      simp [rearranged, h]
    · have hplace : renumbering σ (n + 1) = n + 1 := dif_neg h
      have hlength : (rearranged ls σ).length = ls.length := by simp [rearranged]
      rw [hplace, lineAt, lineAt, hlines, hlines']
      simp [hlength, h]

end Source

namespace Session

open Source

/-- **Lines can be put in another order.**  Take lines without newlines, and the same lines in
another order, each with a newline behind every line.  In a fresh session the one source runs
without a fault if and only if the other does.  Then every variable has the same value after both,
and every label marks the same line, under the number that this line has in the new order.

**Proof sketch.** Both sources have the same lines under other numbers, so that the one is coherent
if and only if the other is, and the coherent sources are those that run without a fault
(`run_ok_iff_coherent`).  What is in the tables then is what the lines carry
(`labels_get?_eq_some_iff`, `bindings_get?_eq_some_iff`). -/
theorem run_rearranged {ls : List Text} (hls : ∀ l ∈ ls, '\n' ∉ l)
    (σ : Equiv.Perm (Fin ls.length)) :
    ((∃ p, (run {} (terminated ls)).result = .ok p) ↔
      ∃ p, (run {} (terminated (rearranged ls σ))).result = .ok p) ∧
    ((∃ p, (run {} (terminated ls)).result = .ok p) →
      (∀ name, (run {} (terminated (rearranged ls σ))).state.bindings.get? name =
        (run {} (terminated ls)).state.bindings.get? name) ∧
      ∀ label, (run {} (terminated (rearranged ls σ))).state.labels.get? label =
        ((run {} (terminated ls)).state.labels.get? label).map (renumbered σ)) := by
  have hsame := sameLines_rearranged hls σ
  simp only [← faultOf_eq_none_iff, run_ok_iff_coherent]
  refine ⟨⟨hsame.coherent, hsame.symm.coherent⟩, fun hs => ⟨fun name => ?_, fun label => ?_⟩⟩
  · ext v
    rw [bindings_get?_eq_some_iff (hsame.coherent hs), bindings_get?_eq_some_iff hs]
    constructor
    · rintro ⟨n, d, hn, hd⟩
      exact ⟨_, d, hsame.symm.declaredAt_iff.2 hn, hd⟩
    · rintro ⟨n, d, hn, hd⟩
      exact ⟨_, d, hsame.declaredAt_iff.2 hn, hd⟩
  · ext n
    -- every number is the new number of some line, so that the lines can be compared one by one
    obtain ⟨n, rfl⟩ := (renumbering σ).surjective n
    rw [labels_get?_eq_some_iff (hsame.coherent hs), hsame.labelAt, ← labels_get?_eq_some_iff hs,
      Option.map_eq_some_iff]
    constructor
    · intro hn
      exact ⟨n, hn, rfl⟩
    · rintro ⟨m, hm, hmn⟩
      rwa [← (renumbering σ).injective hmn]

/-- Lines with two labels and two variables. -/
def marked : List Text := ["b: let y = -3\r".toList, "# note".toList, "a: let x = 1".toList]

/-- The first of the lines and the last one change places. -/
def turned : Equiv.Perm (Fin marked.length) := Equiv.swap ⟨0, by decide⟩ ⟨2, by decide⟩

/-- The turned lines run without a fault, and the labels have changed places too. -/
theorem run_rearranged_turned :
    (∀ l ∈ marked, '\n' ∉ l) ∧
    (∃ p, (run {} (terminated (rearranged marked turned))).result = .ok p) ∧
    (run {} (terminated (rearranged marked turned))).state.bindings.get? "Y".toList =
      some (-3) ∧
    (run {} (terminated (rearranged marked turned))).state.labels.get? "A".toList = some 1 ∧
    (run {} (terminated (rearranged marked turned))).state.labels.get? "B".toList = some 3 := by
  have hls : ∀ l ∈ marked, '\n' ∉ l := by decide
  have hresult : ∃ p, (run {} (terminated marked)).result = .ok p :=
    faultOf_eq_none_iff.1 (by decide +kernel)
  have hstate : (run {} (terminated marked)).state =
      ⟨⟨[("Y".toList, -3), ("X".toList, 1)]⟩, ⟨[("B".toList, 1), ("A".toList, 3)]⟩⟩ := by
    decide +kernel
  obtain ⟨hiff, htables⟩ := run_rearranged hls turned
  obtain ⟨hbindings, hlabels⟩ := htables hresult
  rw [hstate] at hbindings hlabels
  exact ⟨hls, hiff.1 hresult, hbindings _, hlabels _, hlabels _⟩

end Session

end Primer
