import Mathlib.Tactic.Lemma
import Primer.Proofs.DeclarationGrammar
import Primer.Proofs.Tables
import Primer.Session

/-!
# Loading

Loading goes through the lines of a source in order and stops at the first *bad* line: one whose
label is taken, or whose body is no statement.  Which lines are bad can be said without going
through them, since a label is taken if it was known before or if an earlier line carries it.

## Main definitions

* `Primer.Statement.Written` — a text is a way to write a statement.
* `Primer.Source.lineAt`, `Primer.Source.labelAt` — the lines of a source, numbered from one, and
  their labels.
* `Primer.Source.Clash`, `Primer.Source.Illegible`, `Primer.Source.Bad` — what can be wrong with a
  line.
* `Primer.Source.labelsUpTo` — the labels of the first lines.
* `Primer.Source.Verdict` — what loading comes to.

## Main results

* `Primer.Line.classify_of_clash`, `Primer.Line.classify_of_fresh` — what classifying a line does.
* `Primer.Program.classify_cases` — what loading does with one line.
* `Primer.Program.loadLines_verdict` — loading from any line on, with the labels recorded before.
* `Primer.Program.load_verdict` — loading a source.
* `Primer.Program.load_stops_at_first_bad_line` — loading fails exactly at the first bad line.

## Design

The loop over the lines is followed from an arbitrary line on.  Its invariant says that no earlier
line is bad, and that the table holds the labels from before and those of the earlier lines.
-/

set_option relaxedAutoImplicit false
set_option autoImplicit false

namespace Primer

open Text

/-! ## Statements -/

/-- The texts that a statement is written as. -/
inductive Statement.Written : Statement → Text → Prop
  | blank : Written .blank []
  | comment (t : Text) : Written .comment ('#' :: t)
  | declaration {d : Declaration} {t : Text} (h : d.Written t) : Written (.declaration d) t

/-- If `t` is written as a declaration, and does not begin with a blank, then it begins with
`Declaration.keyword`. -/
lemma Declaration.Written.eq_keyword_append {d : Declaration} {t : Text} (h : d.Written t)
    (ht : Stops isBlank t) : ∃ u, t = Declaration.keyword ++ u := by
  cases h with
  | @intro name literal w₀ w₁ w₂ w₃ w₄ h₀ =>
    cases w₀ with
    | nil => exact ⟨_, by simp [Declaration.keyword, List.append_assoc]; rfl⟩
    | cons c w₀ =>
      have hc : isBlank c = true := isBlank_of_isSpacing (h₀ c (by simp))
      simp [hc] at ht

/-- `Kind.of?` finds a kind that accepts the text. -/
lemma Kind.accepts_of_of? {t : Text} {kind : Kind} (h : Kind.of? t = some kind) :
    kind.accepts t = true := by
  have hfound := List.find?_some h
  exact hfound

/-- `Kind.of? t` is `declaration` for each `t` that begins with `Declaration.keyword`. -/
lemma Kind.of?_keyword_append (u : Text) :
    Kind.of? (Declaration.keyword ++ u) = some .declaration := by
  simp [Kind.of?, Kind.all, Kind.accepts, Declaration.keyword, List.isPrefixOf]

namespace Line

/-- `readBody` reads a body without blanks before it as the line `l` if and only if `l` has a
statement that the body is written as.

**Proof sketch.** A text of a kind begins in the way that the kind tells, and reading goes on from
there.  Conversely a blank text and a comment show their kind at once, and a declaration begins with
`LET`, since no blank stands before it. -/
lemma readBody_eq_some_iff {number : Nat} {raw body : Text} {l : Line}
    (hbody : Stops isBlank body) :
    (readBody number raw body).1 = some l ↔
      ∃ st : Statement, st.Written body ∧ l = ⟨number, raw, body, st⟩ := by
  constructor
  · intro h
    unfold readBody at h
    split at h
    · simp at h
    · next kind hkind =>
      have hlooks := Kind.accepts_of_of? hkind
      split at h
      · next statement hread =>
        refine ⟨statement, ?_, (Option.some.inj h).symm⟩
        cases kind with
        | blank =>
          obtain rfl : body = [] := by simpa [Kind.accepts] using hlooks
          obtain rfl : Statement.blank = statement := by simpa [Kind.read] using hread
          exact .blank
        | comment =>
          obtain ⟨t, rfl⟩ : ∃ t, body = '#' :: t := by
            cases body with
            | nil => simp [Kind.accepts, List.isPrefixOf] at hlooks
            | cons c t =>
              have hc : '#' = c := by simpa [Kind.accepts] using hlooks
              exact ⟨t, by rw [hc]⟩
          obtain rfl : Statement.comment = statement := by simpa [Kind.read] using hread
          exact .comment t
        | declaration =>
          cases hp : Declaration.parse body with
          | error e => simp [Kind.read, hp, Except.map] at hread
          | ok d =>
            obtain rfl : Statement.declaration d = statement := by
              simpa [Kind.read, hp, Except.map] using hread
            exact .declaration (Declaration.written_of_parse hp)
      · simp at h
  · rintro ⟨st, hst, rfl⟩
    cases hst with
    | blank => rfl
    | comment t => rfl
    | @declaration d t hd =>
      have hp := Declaration.parse_of_written hd
      obtain ⟨u, hu⟩ := hd.eq_keyword_append hbody
      have hkind : Kind.of? body = some .declaration := hu ▸ Kind.of?_keyword_append u
      simp [readBody, hkind, Kind.read, hp, Except.map]

/-- `readBody` reads nothing from a body without blanks before it if and only if no statement is
written as this body. -/
lemma readBody_eq_none_iff {number : Nat} {raw body : Text} (hbody : Stops isBlank body) :
    (readBody number raw body).1 = none ↔ ¬ ∃ st : Statement, st.Written body := by
  rw [← not_iff_not, not_not, ← ne_eq, Option.ne_none_iff_exists']
  constructor
  · rintro ⟨l, hl⟩
    obtain ⟨st, hst, -⟩ := (readBody_eq_some_iff hbody).1 hl
    exact ⟨st, hst⟩
  · rintro ⟨st, hst⟩
    exact ⟨_, (readBody_eq_some_iff hbody).2 ⟨st, hst, rfl⟩⟩

/-- Two statements that are both written as `body` are the same. -/
lemma eq_of_written {body : Text} {st st' : Statement} (hbody : Stops isBlank body)
    (h : st.Written body) (h' : st'.Written body) : st = st' := by
  have hread := (@readBody_eq_some_iff 0 [] body _ hbody).2 ⟨st, h, rfl⟩
  rw [(readBody_eq_some_iff hbody).2 ⟨st', h', rfl⟩, Option.some.injEq, mk.injEq] at hread
  exact hread.2.2.2.symm

/-- The body that `splitLabel raw` gives does not begin with a blank. -/
lemma splitLabel_snd_stops (raw : Text) : Stops isBlank (splitLabel raw).2 := by
  unfold splitLabel
  split
  · exact trim_stops _
  · exact trim_stops _

/-! ## Classifying a line -/

/-- What classifying a line adds to the labels: its own label with its number, if it has one. -/
def recorded (number : Nat) (raw : Text) : List (Text × Nat) :=
  ((splitLabel raw).1.map (·, number)).toList

/-- `classify` refuses a line whose label is in `labels`, before it looks at the body. -/
lemma classify_of_clash {number : Nat} {raw label : Text} {labels : Labels}
    (hlabel : (splitLabel raw).1 = some label) (h : labels.contains label = true) :
    classify number raw labels = ⟨labels, [], .error ⟨number, raw, .duplicateLabel label⟩⟩ := by
  obtain ⟨first, -, hdef⟩ := Labels.define_of_contains h number
  simp [classify, register, hlabel, hdef, AlreadyDefined.cause]

/-- If the line has no label that is in `labels`, then `classify` adds `recorded number raw` to
`labels` and reads the body. -/
lemma classify_of_fresh {number : Nat} {raw : Text} {labels : Labels}
    (h : ∀ label, (splitLabel raw).1 = some label → labels.contains label = false) :
    classify number raw labels =
      ⟨⟨labels.entries ++ recorded number raw⟩,
        (recorded number raw).map (fun e => .labelRegistered e.1 e.2) ++
          (readBody number raw (splitLabel raw).2).2,
        .ok (readBody number raw (splitLabel raw).2).1⟩ := by
  cases hlabel : (splitLabel raw).1 with
  | none => simp [classify, register, recorded, hlabel]
  | some label =>
    have hdef := Labels.define_of_not_contains (h label hlabel) number
    simp [classify, register, recorded, hlabel, hdef]

/-- A line that `classify` returns is the one that `readBody` reads from the body. -/
lemma readBody_of_classify {number : Nat} {raw : Text} {labels : Labels} {l : Line}
    (h : (classify number raw labels).result = .ok (some l)) :
    (readBody number raw (splitLabel raw).2).1 = some l := by
  simp only [classify] at h
  split at h
  · simp at h
  · exact Except.ok.inj h

end Line

/-! ## What numbered lines carry -/

/-- `filterMap f` over the numbers from `1` to `n + 1` adds `f (n + 1)` to the result for those up
to `n`. -/
lemma filterMap_range'_succ {α : Type} (f : Nat → Option α) (n : Nat) :
    (List.range' 1 (n + 1)).filterMap f = (List.range' 1 n).filterMap f ++ (f (n + 1)).toList := by
  rw [List.range'_1_concat, List.filterMap_append, Nat.add_comm 1 n]
  cases hf : f (n + 1) <;> simp [hf]

/-- If `f` has no value at `0`, then `filterMap f` over the numbers from `1` to `n` gives the values
of `f` below `n + 1`. -/
lemma mem_filterMap_range'_iff {α : Type} {f : Nat → Option α} (hzero : f 0 = none) {n : Nat}
    {a : α} : a ∈ (List.range' 1 n).filterMap f ↔ ∃ m < n + 1, f m = some a := by
  simp only [List.mem_filterMap, List.mem_range'_1]
  constructor
  · rintro ⟨m, hm, ha⟩
    exact ⟨m, by omega, ha⟩
  · rintro ⟨m, hm, ha⟩
    have hpos : m ≠ 0 := by
      rintro rfl
      simp [hzero] at ha
    exact ⟨m, by omega, ha⟩

/-! ## Bad lines -/

namespace Source

/-- The line of a source with the given number, in upper case. -/
def lineAt (source : Text) : Nat → Option Text
  | 0 => none
  | n + 1 => (Text.lines source)[n]?.map upper

/-- The label of the line with the given number. -/
def labelAt (source : Text) (n : Nat) : Option Text :=
  (lineAt source n).bind fun raw => (Line.splitLabel raw).1

/-- Line `n` carries a label that is taken: it was known before, or an earlier line carries it
too. -/
def Clash (labels : Labels) (source : Text) (n : Nat) (label : Text) : Prop :=
  labelAt source n = some label ∧
    (labels.contains label = true ∨ ∃ m < n, labelAt source m = some label)

/-- The body of line `n` is neither blank nor a comment nor a declaration. -/
def Illegible (source : Text) (n : Nat) : Prop :=
  ∃ raw, lineAt source n = some raw ∧ ¬ ∃ st : Statement, st.Written (Line.splitLabel raw).2

/-- Line `n` cannot be loaded. -/
def Bad (labels : Labels) (source : Text) (n : Nat) : Prop :=
  (∃ label, Clash labels source n label) ∨ Illegible source n

/-- The labels of the lines up to number `n`, each with the number of its line. -/
def labelsUpTo (source : Text) (n : Nat) : List (Text × Nat) :=
  (List.range' 1 n).filterMap fun m => (labelAt source m).map (·, m)

/-- `labelsUpTo source (n + 1)` is `labelsUpTo source n` with what line `n + 1` records behind
it. -/
lemma labelsUpTo_succ {source raw : Text} {n : Nat} (h : lineAt source (n + 1) = some raw) :
    labelsUpTo source (n + 1) = labelsUpTo source n ++ Line.recorded (n + 1) raw := by
  have hlabel : labelAt source (n + 1) = (Line.splitLabel raw).1 := by simp [labelAt, h]
  rw [labelsUpTo, filterMap_range'_succ, ← labelsUpTo, Line.recorded, hlabel]

/-- The labels in `labelsUpTo source n` are those of the lines with a number below `n + 1`. -/
lemma mem_labelsUpTo_iff {source label : Text} {n : Nat} :
    label ∈ (labelsUpTo source n).map Prod.fst ↔ ∃ m < n + 1, labelAt source m = some label := by
  have hfst : (labelsUpTo source n).map Prod.fst =
      (List.range' 1 n).filterMap (labelAt source) := by
    simp [labelsUpTo, List.map_filterMap, Function.comp_def]
  rw [hfst, mem_filterMap_range'_iff rfl]

/-- If `table` holds `labels` and the labels of the first `n` lines, then line `n + 1` clashes if
and only if `table` has its label. -/
lemma clash_iff {labels table : Labels} {source raw label : Text} {n : Nat}
    (hline : lineAt source (n + 1) = some raw)
    (htable : table.entries = labels.entries ++ labelsUpTo source n) :
    Clash labels source (n + 1) label ↔
      (Line.splitLabel raw).1 = some label ∧ table.contains label = true := by
  rw [Table.contains_of_entries_append htable, mem_labelsUpTo_iff]
  simp [Clash, labelAt, hline]

/-- `lineAt source n = none` for `n` beyond the number of lines. -/
lemma lineAt_eq_none_of_length_lt {source : Text} {n : Nat} (h : (Text.lines source).length < n) :
    lineAt source n = none := by
  obtain ⟨n, rfl⟩ : ∃ k, n = k + 1 := ⟨n - 1, by omega⟩
  simp only [lineAt, Option.map_eq_none_iff, List.getElem?_eq_none_iff]
  omega

/-- `Bad labels source n` fails for `n` beyond the number of lines. -/
lemma not_bad_of_length_lt {labels : Labels} {source : Text} {n : Nat}
    (h : (Text.lines source).length < n) : ¬ Bad labels source n := by
  have hnone := lineAt_eq_none_of_length_lt h
  rintro (⟨label, hlabel, -⟩ | ⟨raw, hraw, -⟩)
  · simp [labelAt, hnone] at hlabel
  · simp [hnone] at hraw

/-! ## What loading comes to -/

/-- What loading a source comes to, with the labels `labels` known before: the table after it, and
the fault if there is one. -/
inductive Verdict (labels : Labels) (source : Text) : Labels → Option Fault → Prop
  /-- No line is bad, and all labels are recorded. -/
  | loaded {table : Labels} (hgood : ∀ n, ¬ Bad labels source n)
      (htable : table.entries = labels.entries ++ labelsUpTo source (Text.lines source).length) :
      Verdict labels source table none
  /-- The first bad line carries a label that is taken. -/
  | clash {table : Labels} {n : Nat} {raw label : Text} (hgood : ∀ m < n, ¬ Bad labels source m)
      (hline : lineAt source n = some raw) (hclash : Clash labels source n label)
      (htable : table.entries = labels.entries ++ labelsUpTo source (n - 1)) :
      Verdict labels source table (some ⟨n, raw, .duplicateLabel label⟩)
  /-- The first bad line has a new label or none, and is no statement. -/
  | illegible {table : Labels} {n : Nat} {raw : Text} (hgood : ∀ m < n, ¬ Bad labels source m)
      (hline : lineAt source n = some raw) (hfresh : ∀ label, ¬ Clash labels source n label)
      (hillegible : Illegible source n)
      (htable : table.entries = labels.entries ++ labelsUpTo source n) :
      Verdict labels source table (some ⟨n, raw, .unrecognized⟩)

end Source

namespace Program

open Source

/-- The fault of a result, if there is one. -/
def faultOf {α : Type} : Except Fault α → Option Fault
  | .error fault => some fault
  | .ok _ => none

@[simp]
lemma faultOf_map {α β : Type} (f : α → β) (r : Except Fault α) :
    faultOf (r.map f) = faultOf r := by
  cases r <;> rfl

/-- If `faultOf r = some fault` then `r = .error fault`. -/
lemma eq_error_of_faultOf {α : Type} {r : Except Fault α} {fault : Fault}
    (h : faultOf r = some fault) : r = .error fault := by
  cases r with
  | error f => exact congrArg Except.error (Option.some.inj h)
  | ok a => simp [faultOf] at h

/-- `faultOf r = none` if and only if `r` is a value. -/
lemma faultOf_eq_none_iff {α : Type} {r : Except Fault α} :
    faultOf r = none ↔ ∃ a, r = .ok a := by
  cases r <;> simp [faultOf]

/-- If `P n` and `P k`, and `P` holds for no number below `n` and for none below `k`, then
`n = k`. -/
lemma eq_of_first {P : Nat → Prop} {n k : Nat} (hn : P n) (hn' : ∀ m < n, ¬ P m) (hk : P k)
    (hk' : ∀ m < k, ¬ P m) : n = k := by
  rcases Nat.lt_trichotomy n k with h | h | h
  · exact absurd hn (hk' n h)
  · exact h
  · exact absurd hk (hn' k h)

/-- **Classifying the next line.**  Let `table` hold `labels` and the labels of the first `n` lines.
If line `n + 1` clashes, then `classify` refuses it and leaves `table` as it is.  Otherwise
`classify` adds the label of the line, and returns the line if and only if it is not `Illegible`.

**Proof sketch.** The line clashes if and only if the table has its label (`clash_iff`).  The two
laws of `Line.classify` then say what happens, and the body is read if and only if it is written as
a statement (`Line.readBody_eq_some_iff`). -/
lemma classify_cases {labels table : Labels} {source raw : Text} {n : Nat}
    (hline : lineAt source (n + 1) = some raw)
    (htable : table.entries = labels.entries ++ labelsUpTo source n) :
    (∃ label, Clash labels source (n + 1) label ∧ Line.classify (n + 1) raw table =
      ⟨table, [], .error ⟨n + 1, raw, .duplicateLabel label⟩⟩) ∨
    (∀ label, ¬ Clash labels source (n + 1) label) ∧
      (Line.classify (n + 1) raw table).state.entries =
        labels.entries ++ labelsUpTo source (n + 1) ∧
      ((Illegible source (n + 1) ∧ (Line.classify (n + 1) raw table).result = .ok none) ∨
        (¬ Bad labels source (n + 1) ∧
          ∃ line, (Line.classify (n + 1) raw table).result = .ok (some line))) := by
  have hbody := Line.splitLabel_snd_stops raw
  by_cases hclash : ∃ label, Clash labels source (n + 1) label
  · obtain ⟨label, hclash⟩ := hclash
    obtain ⟨hlabel, hcontains⟩ := (clash_iff hline htable).1 hclash
    exact .inl ⟨label, hclash, Line.classify_of_clash hlabel hcontains⟩
  · rw [not_exists] at hclash
    have hfresh : ∀ label, (Line.splitLabel raw).1 = some label →
        table.contains label = false := by
      intro label hlabel
      by_contra hc
      exact hclash label ((clash_iff hline htable).2 ⟨hlabel, by simpa using hc⟩)
    have hclassify := @Line.classify_of_fresh (n + 1) raw table hfresh
    refine .inr ⟨hclash, ?_, ?_⟩
    · rw [hclassify, labelsUpTo_succ hline, htable, List.append_assoc]
    · rw [hclassify]
      cases hread : (Line.readBody (n + 1) raw (Line.splitLabel raw).2).1 with
      | none => exact .inl ⟨⟨raw, hline, (Line.readBody_eq_none_iff hbody).1 hread⟩, rfl⟩
      | some line =>
        refine .inr ⟨?_, line, rfl⟩
        obtain ⟨st, hst, -⟩ := (Line.readBody_eq_some_iff hbody).1 hread
        rintro (⟨label, hl⟩ | ⟨raw', hraw, hno⟩)
        · exact hclash label hl
        · obtain rfl := Option.some.inj (hline.symm.trans hraw)
          exact hno ⟨st, hst⟩

/-- **Loading from any line on.**  If no line of `before` is bad, and `table` holds `labels` and the
labels of the lines in `before`, then `loadLines` comes to a `Verdict` on the source with the lines
in `rest`.

**Proof sketch.** Induction on the lines that are left.  If there are none, no line is bad.  The
next line is classified (`classify_cases`): loading stops if its label is taken or its body is no
statement, and otherwise the hypothesis holds with one more line behind it. -/
lemma loadLines_verdict {labels : Labels} {source : Text} {rest : List Text} :
    ∀ {before : List Text} {table : Labels}, Text.lines source = before ++ rest →
      (∀ m < before.length + 1, ¬ Bad labels source m) →
      table.entries = labels.entries ++ labelsUpTo source before.length →
      Verdict labels source (loadLines (before.length + 1) rest table).state
        (faultOf (loadLines (before.length + 1) rest table).result) := by
  induction rest with
  | nil =>
    intro before table hlines hgood htable
    rw [List.append_nil] at hlines
    refine .loaded (fun n => ?_) (by rw [hlines]; exact htable)
    rcases Nat.lt_or_ge n (before.length + 1) with h | h
    · exact hgood n h
    · exact not_bad_of_length_lt (by rw [hlines]; omega)
  | cons text rest ih =>
    intro before table hlines hgood htable
    have hline : lineAt source (before.length + 1) = some (upper text) := by
      simp [lineAt, hlines]
    rcases classify_cases hline htable with
      ⟨label, hclash, hclassify⟩ | ⟨hfresh, hentries, ⟨hillegible, hresult⟩ | ⟨hok, l, hresult⟩⟩
    · rw [loadLines, hclassify]
      exact .clash hgood hline hclash htable
    · simp only [loadLines, hresult]
      exact .illegible hgood hline hfresh hillegible hentries
    · have hlength : (before ++ [text]).length = before.length + 1 := by simp
      have hrest := @ih (before ++ [text])
        (Line.classify (before.length + 1) (upper text) table).state (by rw [hlines]; simp)
        (by rw [hlength]; exact Nat.forall_lt_succ_right.2 ⟨hgood, hok⟩)
        (by rw [hlength]; exact hentries)
      simp only [loadLines, hresult, faultOf_map]
      rw [hlength] at hrest
      exact hrest

/-- `load source labels` leaves the labels that `loadLines` leaves. -/
lemma load_state (source : Text) (labels : Labels) :
    (load source labels).state = (loadLines 1 (Text.lines source) labels).state := by
  dsimp only [load]
  split <;> rfl

/-- The lines of the program that `load` returns are those that `loadLines` returns. -/
lemma load_result (source : Text) (labels : Labels) :
    (load source labels).result.map Program.lines =
      (loadLines 1 (Text.lines source) labels).result := by
  dsimp only [load]
  split
  · next fault h => exact h.symm
  · next ls h => exact h.symm

/-- `load source labels` comes to a `Verdict` on the source. -/
lemma load_verdict (source : Text) (labels : Labels) :
    Verdict labels source (load source labels).state (faultOf (load source labels).result) := by
  have h := @loadLines_verdict labels source (Text.lines source) [] labels rfl
    (fun m hm => by
      obtain rfl : m = 0 := by simpa using hm
      rintro (⟨label, hlabel, -⟩ | ⟨raw, hraw, -⟩)
      · simp [labelAt, lineAt] at hlabel
      · simp [lineAt] at hraw)
    (by simp [labelsUpTo])
  rw [load_state, ← faultOf_map Program.lines, load_result]
  exact h

/-- If `load` returns a program, then it adds the labels of all lines to `labels`. -/
lemma labels_of_load {source : Text} {labels : Labels} {p : Program}
    (h : (load source labels).result = .ok p) :
    (load source labels).state.entries =
      labels.entries ++ labelsUpTo source (Text.lines source).length := by
  have hverdict := load_verdict source labels
  rw [h] at hverdict
  cases hverdict with
  | loaded _ htable => exact htable

/-- If `load` fails with `fault`, then `s.run source` fails with it too, and leaves `s.bindings`
alone. -/
lemma run_of_load_error {s : Session} {source : Text} {fault : Fault}
    (h : (load source s.labels).result = .error fault) :
    (s.run source).result = .error fault ∧
      (s.run source).state = { s with labels := (load source s.labels).state } := by
  simp [Session.run, Session.load, h]

/-- If `load` returns `p`, then `s.run source` goes on with `p.run s.bindings`. -/
lemma run_of_loaded {s : Session} {source : Text} {p : Program}
    (h : (load source s.labels).result = .ok p) :
    s.run source = ⟨⟨(p.run s.bindings).state, (load source s.labels).state⟩,
      (load source s.labels).log ++ (p.run s.bindings).log,
      (p.run s.bindings).result.map fun _ => p⟩ := by
  simp [Session.run, Session.load, Session.execute, h]

/-! ## The lines of a loaded program -/

/-- The lines that `loadLines` returns have the raw texts `texts.map upper`, and each of them has
the body that `splitLabel` gives and a statement that this body is written as.

**Proof sketch.** Induction on the texts.  If all of them are loaded then the first has been
classified, and its body has been read (`Line.readBody_of_classify`) as a statement that it is
written as (`Line.readBody_eq_some_iff`). -/
lemma loadLines_lines {texts : List Text} {number : Nat} {labels : Labels} {ls : List Line}
    (h : (loadLines number texts labels).result = .ok ls) :
    ls.map Line.raw = texts.map upper ∧
      ∀ l ∈ ls, l.body = (Line.splitLabel l.raw).2 ∧ l.statement.Written l.body := by
  induction texts generalizing number labels ls with
  | nil =>
    obtain rfl : [] = ls := by simpa [loadLines] using h
    simp
  | cons text texts ih =>
    simp only [loadLines] at h
    split at h
    · simp at h
    · simp at h
    · next line hline =>
      generalize hrest : (loadLines (number + 1) texts _).result = rest at h
      cases rest with
      | error fault => simp [Except.map] at h
      | ok others =>
        obtain rfl : line :: others = ls := by simpa [Except.map] using h
        obtain ⟨hraw, hothers⟩ := ih hrest
        have hread := Line.readBody_of_classify hline
        obtain ⟨st, hst, rfl⟩ :=
          (Line.readBody_eq_some_iff (Line.splitLabel_snd_stops (upper text))).1 hread
        exact ⟨by simp [hraw], List.forall_mem_cons.2 ⟨⟨rfl, hst⟩, hothers⟩⟩

/-- `p.lines` are the lines that `loadLines` returns, for the program `p` that `load` returns. -/
lemma lines_of_load {source : Text} {labels : Labels} {p : Program}
    (h : (load source labels).result = .ok p) :
    (loadLines 1 (Text.lines source) labels).result = .ok p.lines := by
  rw [← load_result, h]
  rfl

/-- The program that `load` returns has as many lines as its source. -/
lemma length_of_load {source : Text} {labels : Labels} {p : Program}
    (h : (load source labels).result = .ok p) : p.length = (Text.lines source).length := by
  have hraw := congrArg List.length (loadLines_lines (lines_of_load h)).1
  simpa [length] using hraw

/-- `p.at? n` has the raw text `lineAt source n`, for the program `p` that `load` returns. -/
lemma raw_at?_of_load {source : Text} {labels : Labels} {p : Program}
    (h : (load source labels).result = .ok p) (n : Nat) :
    (p.at? n).map Line.raw = lineAt source n := by
  have hraw := (loadLines_lines (lines_of_load h)).1
  cases n with
  | zero => rfl
  | succ n => rw [at?, lineAt, ← List.getElem?_map, ← List.getElem?_map, hraw]

/-- `p.at? n` is one of `p.lines`. -/
lemma mem_lines_of_at? {p : Program} {n : Nat} {l : Line} (hl : p.at? n = some l) :
    l ∈ p.lines := by
  cases n with
  | zero => simp [at?] at hl
  | succ n => exact List.mem_of_getElem? hl

/-- Each line of the program that `load` returns has a statement that its body is written as. -/
lemma written_of_load {source : Text} {labels : Labels} {p : Program}
    (h : (load source labels).result = .ok p) {n : Nat} {l : Line} (hl : p.at? n = some l) :
    l.statement.Written (Line.splitLabel l.raw).2 := by
  obtain ⟨hbody, hst⟩ := (loadLines_lines (lines_of_load h)).2 l (mem_lines_of_at? hl)
  exact hbody ▸ hst

/-- **Loading fails exactly at the first bad line.**  It fails if and only if there is a bad line.
The fault is that of the first one: its label is taken, whatever its body is, or else its body is no
statement.  The table then holds the labels from before and those of the lines before the bad one,
and also the bad line's own label if only its body was wrong; without a bad line it holds all
labels.  A session that cannot load a program keeps its variables.

**Proof sketch.** By the verdict on the source (`load_verdict`).  The first bad line is the one that
the verdict names, since each of the two is not less than the other. -/
theorem load_stops_at_first_bad_line (source : Text) (labels : Labels) :
    ((∃ fault, (load source labels).result = .error fault) ↔ ∃ n, Bad labels source n) ∧
    (∀ n, Bad labels source n → (∀ m < n, ¬ Bad labels source m) →
      ∃ raw, lineAt source n = some raw ∧
        (∀ label, Clash labels source n label →
          (load source labels).result = .error ⟨n, raw, .duplicateLabel label⟩ ∧
          (load source labels).state.entries = labels.entries ++ labelsUpTo source (n - 1)) ∧
        ((∀ label, ¬ Clash labels source n label) →
          (load source labels).result = .error ⟨n, raw, .unrecognized⟩ ∧
          (load source labels).state.entries = labels.entries ++ labelsUpTo source n)) ∧
    ((∀ n, ¬ Bad labels source n) → (load source labels).state.entries =
      labels.entries ++ labelsUpTo source (Text.lines source).length) ∧
    ∀ (b : Bindings) (fault : Fault), (load source labels).result = .error fault →
      (Session.run ⟨b, labels⟩ source).result = .error fault ∧
        (Session.run ⟨b, labels⟩ source).state = ⟨b, (load source labels).state⟩ := by
  have hsession : ∀ (b : Bindings) (fault : Fault), (load source labels).result = .error fault →
      (Session.run ⟨b, labels⟩ source).result = .error fault ∧
        (Session.run ⟨b, labels⟩ source).state = ⟨b, (load source labels).state⟩ :=
    fun b fault h => @run_of_load_error ⟨b, labels⟩ source fault h
  have hverdict := load_verdict source labels
  generalize hf : faultOf (load source labels).result = found at hverdict
  cases hverdict with
  | loaded hgood htable =>
    refine ⟨⟨?_, fun ⟨n, hn⟩ => absurd hn (hgood n)⟩, fun n hn => absurd hn (hgood n),
      fun _ => htable, hsession⟩
    rintro ⟨fault, h⟩
    simp [h, faultOf] at hf
  | @clash n raw label hgood hline hclash htable =>
    have hbad : Bad labels source n := .inl ⟨label, hclash⟩
    refine ⟨⟨fun _ => ⟨n, hbad⟩, fun _ => ⟨_, eq_error_of_faultOf hf⟩⟩, fun k hk hk' => ?_,
      fun h => absurd hbad (h n), hsession⟩
    obtain rfl := eq_of_first hbad hgood hk hk'
    refine ⟨raw, hline, fun label' hclash' => ?_, fun h => absurd hclash (h label)⟩
    have hlabel : label = label' := Option.some.inj (hclash.1.symm.trans hclash'.1)
    exact ⟨hlabel ▸ eq_error_of_faultOf hf, htable⟩
  | @illegible n raw hgood hline hfresh hillegible htable =>
    have hbad : Bad labels source n := .inr hillegible
    refine ⟨⟨fun _ => ⟨n, hbad⟩, fun _ => ⟨_, eq_error_of_faultOf hf⟩⟩, fun k hk hk' => ?_,
      fun h => absurd hbad (h n), hsession⟩
    obtain rfl := eq_of_first hbad hgood hk hk'
    exact ⟨raw, hline, fun label hclash => absurd hclash (hfresh label),
      fun _ => ⟨eq_error_of_faultOf hf, htable⟩⟩

end Program

end Primer
