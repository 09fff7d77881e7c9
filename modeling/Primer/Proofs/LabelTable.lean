import Mathlib.Data.List.Nodup
import Primer.Proofs.ConsoleHistory
import Primer.Proofs.LineOrder
import Primer.Proofs.WriteOnce

/-!
# The label table is well determined

The labels of a session are shown by line number, and how they come to be enumerated before they are
arranged is left open.  Two labels of one line could change places then.  A source, however, gives
each of its lines one label at most, and the lines of one source come in order; so the labels that
it leaves in a fresh session mark different lines, and their table is the same for every
enumeration.  The last session at a console is always one of this kind, because every run starts
afresh.

## Main definitions

* `Primer.Table.Enumeration` — the entries of a table in any order.
* `Primer.Labels.Filled` — a table that holds labels of the lines before a number, in their order.
* `Primer.Labels.Determined` — the label table does not depend on the enumeration.
* `Primer.Console.Reachable` — the consoles that steps lead to, on any outputs.
* `Primer.Console.RanAfresh` — the last session was left by a run in a fresh one.

## Main results

* `Primer.Labels.Filled.classify`, `Primer.Labels.Filled.loadLines` — what one line keeps, and what
  all lines keep.
* `Primer.Labels.Filled.determined` — such a table is well determined.
* `Primer.Console.RanAfresh.reply`, `Primer.Console.Reachable.ranAfresh` — what one step keeps of
  the last session, and what all steps keep.
* `Primer.Console.label_table_determined` — the label table of every source and of every console.
-/

set_option relaxedAutoImplicit false
set_option autoImplicit false

namespace Primer

/-! ## Enumerations -/

namespace Table

variable {α : Type} {t : Table α} {es es' : List (Text × α)}

/-- The entries of a table, enumerated in some order: every name that is defined comes once, with
its value, and there is nothing else. -/
structure Enumeration (t : Table α) (es : List (Text × α)) : Prop where
  once : (es.map Prod.fst).Nodup
  mem_iff : ∀ name value, (name, value) ∈ es ↔ t.get? name = some value

/-- Two enumerations `es` and `es'` of the same table are permutations of each other. -/
lemma Enumeration.perm (h : t.Enumeration es) (h' : t.Enumeration es') : es.Perm es' := by
  rw [List.perm_ext_iff_of_nodup (List.Nodup.of_map _ h.once) (List.Nodup.of_map _ h'.once)]
  rintro ⟨name, value⟩
  rw [h.mem_iff, h'.mem_iff]

/-- A permutation `es'` of an enumeration `es` is an enumeration. -/
lemma Enumeration.of_perm (h : t.Enumeration es) (hp : es'.Perm es) : t.Enumeration es' := by
  refine ⟨(hp.map Prod.fst).nodup_iff.2 h.once, fun name value => ?_⟩
  rw [hp.mem_iff, h.mem_iff]

/-- If no name stands twice in `t.entries`, then `t.entries` is an enumeration of `t`. -/
lemma enumeration_entries (h : (t.entries.map Prod.fst).Nodup) : t.Enumeration t.entries := by
  refine ⟨h, fun name value => (get?_eq_some_iff ?_).symm⟩
  intro name v v' hv hv'
  exact (Prod.mk.inj (List.inj_on_of_nodup_map h hv hv' rfl)).2

end Table

/-! ## Arranging by line number -/

namespace Labels

variable {t : Labels} {es : List (Text × Nat)}

/-- `byLine es` is a permutation of `es`. -/
lemma byLine_perm (es : List (Text × Nat)) : (byLine es).Perm es := List.mergeSort_perm _ _

/-- The line numbers in `byLine es` do not go down. -/
lemma byLine_pairwise (es : List (Text × Nat)) : (byLine es).Pairwise fun a b => a.2 ≤ b.2 := by
  have htrans : ∀ a b c : Text × Nat, decide (a.2 ≤ b.2) = true → decide (b.2 ≤ c.2) = true →
      decide (a.2 ≤ c.2) = true := by
    intro a b c hab hbc
    rw [decide_eq_true_eq] at hab hbc ⊢
    omega
  have htotal : ∀ a b : Text × Nat, (decide (a.2 ≤ b.2) || decide (b.2 ≤ a.2)) = true := by
    intro a b
    rw [Bool.or_eq_true, decide_eq_true_eq, decide_eq_true_eq]
    omega
  exact (List.pairwise_mergeSort htrans htotal es).imp of_decide_eq_true

/-- The line numbers in `byLine es` go up strictly if no two entries of `es` have the same one. -/
lemma byLine_pairwise_lt (h : (es.map Prod.snd).Nodup) :
    (byLine es).Pairwise fun a b => a.2 < b.2 := by
  have hne : (byLine es).Pairwise fun a b => a.2 ≠ b.2 :=
    List.pairwise_map.1 (((byLine_perm es).map Prod.snd).nodup_iff.2 h)
  exact ((byLine_pairwise es).and hne).imp fun hab => Nat.lt_of_le_of_ne hab.1 hab.2

/-- `byLine` gives the same for permutations, if no two entries have the same line number. -/
lemma byLine_eq_of_perm {es' : List (Text × Nat)} (h : (es.map Prod.snd).Nodup)
    (hp : es'.Perm es) : byLine es' = byLine es := by
  have h' : (es'.map Prod.snd).Nodup := (hp.map Prod.snd).nodup_iff.2 h
  have hperm : (byLine es').Perm (byLine es) :=
    (byLine_perm es').trans (hp.trans (byLine_perm es).symm)
  refine hperm.eq_of_pairwise ?_ (byLine_pairwise_lt h') (byLine_pairwise_lt h)
  intro a b _ _ hab hba
  omega

/-- The label table does not depend on the order in which the labels are enumerated.  No two labels
mark the same line.  The rows that are shown are an enumeration of the labels, and their line
numbers go up strictly; every enumeration gives these rows when it is arranged by line number, and
so it gives the same table. -/
structure Determined (t : Labels) : Prop where
  separate : t.Separate
  listed : t.Enumeration t.rows
  increasing : t.rows.Pairwise fun a b => a.2 < b.2
  arranged : ∀ es, t.Enumeration es → byLine es = t.rows
  shown : ∀ es, t.Enumeration es →
    Table.printed "Label".toList ((byLine es).map fun e => (e.1, Text.ofNat e.2)) = t.table

/-- If no two entries of `t` have the same name or the same line, then `t` is `Determined`. -/
lemma determined_of_nodup (hnames : (t.entries.map Prod.fst).Nodup) (hlines : t.Separate) :
    t.Determined := by
  have hentries := Table.enumeration_entries hnames
  have hlabel : (byLabel t.entries).Perm t.entries := List.mergeSort_perm _ _
  have hrows : t.rows = byLine t.entries := byLine_eq_of_perm hlines hlabel
  have harranged : ∀ es, t.Enumeration es → byLine es = t.rows := fun es hes =>
    (byLine_eq_of_perm hlines (hes.perm hentries)).trans hrows.symm
  refine ⟨hlines, ?_, ?_, harranged, fun es hes => ?_⟩
  · rw [hrows]
    exact hentries.of_perm (byLine_perm _)
  · rw [hrows]
    exact byLine_pairwise_lt hlines
  · rw [harranged es hes, table]

/-! ## The labels of one source -/

/-- A table of labels that lines before the given number carry, in the order of these lines and
each of them new. -/
structure Filled (number : Nat) (t : Labels) : Prop where
  names : (t.entries.map Prod.fst).Nodup
  increasing : t.entries.Pairwise fun a b => a.2 < b.2
  below : ∀ e ∈ t.entries, e.2 < number

/-- The table without labels is `Filled` before the first line. -/
lemma filled_nil : Filled 1 {} := ⟨by simp, by simp, by simp⟩

namespace Filled

variable {number : Nat}

/-- A line without a label leaves a `Filled` table `Filled`. -/
lemma succ (h : Filled number t) : Filled (number + 1) t :=
  ⟨h.names, h.increasing, fun e he => Nat.lt_succ_of_lt (h.below e he)⟩

/-- A new label of line `number`, put behind all others, leaves a `Filled` table `Filled`. -/
lemma concat (h : Filled number t) {label : Text} (hnew : t.contains label = false) :
    Filled (number + 1) ⟨t.entries ++ [(label, number)]⟩ := by
  constructor
  · exact Table.nodup_names_concat h.names hnew number
  · rw [List.pairwise_append]
    refine ⟨h.increasing, by simp, fun a ha b hb => ?_⟩
    rw [List.mem_singleton.1 hb]
    exact h.below a ha
  · refine List.forall_mem_append.2 ⟨h.succ.below, ?_⟩
    simp

/-- **What one line keeps.**  If `t` is `Filled` before line `number`, then `classify` of this line
leaves a table that is `Filled` before the next. -/
lemma classify (h : Filled number t) (raw : Text) :
    Filled (number + 1) (Line.classify number raw t).state := by
  rcases Program.clash_or_fresh t (Line.splitLabel raw).1 with ⟨label, hlabel, hclash⟩ | hfresh
  · rw [Line.classify_of_clash hlabel hclash]
    exact h.succ
  · rw [Line.classify_of_fresh hfresh, Line.recorded]
    cases hlabel : (Line.splitLabel raw).1 with
    | none => simpa using h.succ
    | some label => exact h.concat (hfresh label hlabel)

/-- **What all lines keep.**  If `t` is `Filled`, then `loadLines` leaves a table that is `Filled`,
whether all lines are loaded or not. -/
lemma loadLines (h : Filled number t) (texts : List Text) :
    ∃ m, Filled m (Program.loadLines number texts t).state := by
  induction texts generalizing number t with
  | nil => exact ⟨number, h⟩
  | cons text texts ih =>
    have hfirst := h.classify (Text.upper text)
    simp only [Program.loadLines]
    split
    · exact ⟨_, hfirst⟩
    · exact ⟨_, hfirst⟩
    · exact ih hfirst

/-- A `Filled` table is `Determined`. -/
lemma determined (h : Filled number t) : t.Determined := by
  refine determined_of_nodup h.names (List.pairwise_map.2 (h.increasing.imp ?_))
  intro a b hab
  exact Nat.ne_of_lt hab

end Filled

end Labels

/-- Loading a source in a fresh session leaves labels that are `Determined`. -/
lemma Session.determined_of_load (source : Text) :
    Labels.Determined (Session.load {} source).state.labels := by
  obtain ⟨m, hm⟩ := Labels.filled_nil.loadLines (Text.lines source)
  rw [← Program.load_state] at hm
  exact hm.determined

/-- Running a source in a fresh session leaves labels that are `Determined`, since executing a
program leaves the labels alone. -/
lemma Session.determined_of_run (source : Text) :
    Labels.Determined (Session.run {} source).state.labels := by
  rcases Session.run_state_cases {} source with h | ⟨p, -, h⟩
  · rw [h]
    exact determined_of_load source
  · rw [h]
    exact determined_of_load source

/-! ## The last session at the console -/

namespace Console

/-- The consoles that steps lead to from a new one, each step with an output of its own, which may
be too small. -/
inductive Reachable : Console → Prop
  | start : Reachable {}
  | step {c : Console} (h : Reachable c) (s : Step) (out : Sink) : Reachable (s.reply c out).console

/-- If `P` holds of `before` and of `after`, then it holds of the console that `print` leaves. -/
lemma print_induction {P : Console → Prop} {before after : Console} (hbefore : P before)
    (hafter : P after) (log : List Event) (texts : List Text) (out : Sink) :
    P (print before after log texts out).console := by
  unfold print
  split
  · exact hafter
  · exact hbefore

/-- The last session, if there is one, is what a run in a fresh session left. -/
def RanAfresh (c : Console) : Prop := ∀ s ∈ c.last, ∃ source, s = (Session.run {} source).state

/-- `c.execute` keeps `RanAfresh`.  Only a run makes a session the last one, and whether its
variables can be shown or not, the last session is its own or the one from before. -/
lemma RanAfresh.execute {c : Console} (h : c.RanAfresh) (read : Text → Except IoError Text)
    (command : Command) (out : Sink) : (c.execute read command out).console.RanAfresh := by
  cases command with
  | append line => exact h
  | list => exact print_induction h h _ _ _
  | run =>
    have hafter : RanAfresh { c with last := some (sessionOf c.buffer) } := fun s hs =>
      ⟨Text.joinLines c.buffer, (Option.mem_some_iff.1 hs).symm⟩
    rw [Console.execute, run]
    split
    · exact print_induction h hafter _ _ _
    · exact hafter
  | showLabels => exact print_induction h h _ _ _
  | showVars => exact print_induction h h _ _ _
  | load path =>
    rw [Console.execute, Console.load.eq_def]
    split
    · exact h
    · exact print_induction (by simp [RanAfresh]) (by simp [RanAfresh]) _ _ _
  | clear => simp [RanAfresh, Console.execute]
  | quit => exact h

/-- `s.reply` keeps `RanAfresh`, since a line that cannot be read does nothing. -/
lemma RanAfresh.reply {c : Console} (h : c.RanAfresh) (s : Step) (out : Sink) :
    (s.reply c out).console.RanAfresh := by
  cases hc : s.command? with
  | some command =>
    rw [Step.reply_of_command? hc]
    exact h.execute s.content command out
  | none => rwa [(Step.reply_of_unread hc c out).1]

/-- A `Reachable` console satisfies `RanAfresh`. -/
lemma Reachable.ranAfresh {c : Console} (h : Reachable c) : c.RanAfresh := by
  induction h with
  | start => simp [RanAfresh]
  | step _ s out ih => exact ih.reply s out

/-- The console after a history `h` on an output without limit is `Reachable`. -/
lemma reachable_perform (h : List Step) : Reachable (perform h).1 := by
  induction h using List.reverseRecOn with
  | nil => exact .start
  | append_singleton h s ih =>
    rw [perform, List.foldl_concat]
    exact ih.step s _

/-- **The label table is well determined.**  This holds of the labels that a source leaves in a
fresh session, loaded or run, with success or without, and so it holds of the last session at the
console after any steps on any outputs: no two labels mark the same line, the line numbers of the
rows go up strictly, and the table is the same for every order in which the labels may be
enumerated.

**Proof sketch.** Loading records labels in the order of the lines, each of them new
(`Labels.Filled.loadLines`).  Every last session was left by a run in a fresh session
(`Reachable.ranAfresh`). -/
theorem label_table_determined :
    (∀ source, Labels.Determined (Session.load {} source).state.labels ∧
      Labels.Determined (Session.run {} source).state.labels) ∧
    ∀ c, Reachable c → ∀ s ∈ c.last, Labels.Determined s.labels := by
  refine ⟨fun source => ⟨Session.determined_of_load source, Session.determined_of_run source⟩, ?_⟩
  intro c hc s hs
  obtain ⟨source, rfl⟩ := hc.ranAfresh s hs
  exact Session.determined_of_run source

/-- Two labelled lines are typed and run; the second one has a fault. -/
def labelledHistory : List Step :=
  ["b: let y = 1".toList, "a: let y = 2".toList, ":run".toList].map
    (.typed fun _ => .error .notFound)

/-- The labels of the failed run are shown by line number, also when they are enumerated the other
way round. -/
theorem label_table_determined_labelled :
    ∃ s ∈ (perform labelledHistory).1.last,
      Table.Enumeration s.labels [("A".toList, 2), ("B".toList, 1)] ∧
      Table.printed "Label".toList ((Labels.byLine [("A".toList, 2), ("B".toList, 1)]).map
        fun e => (e.1, Text.ofNat e.2)) = Labels.table s.labels := by
  have hlast : (perform labelledHistory).1.last =
      some ⟨⟨[("Y".toList, 1)]⟩, ⟨[("B".toList, 1), ("A".toList, 2)]⟩⟩ := by decide +kernel
  have hd := label_table_determined.2 _ (reachable_perform labelledHistory) _ hlast
  have hes : Table.Enumeration (⟨[("B".toList, 1), ("A".toList, 2)]⟩ : Labels)
      [("A".toList, 2), ("B".toList, 1)] :=
    (Table.enumeration_entries (by decide)).of_perm (.swap _ _ _)
  exact ⟨_, hlast, hes, hd.shown _ hes⟩

end Console

end Primer
