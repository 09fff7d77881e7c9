import Primer.Proofs.Capitals
import Primer.Proofs.SourceLines
import Primer.Proofs.Walking

/-!
# Sessions only grow

Programs are loaded in a session and executed in it, one after the other and several times, and some
of them fail.  Whatever is done, entries are added to the two tables and none is changed: this holds
of loading a program and of executing one, and so it holds of everything that is put together from
these.  In the same way the shape of the entries is kept.  A name is an identifier in upper case,
because it is taken from a line in upper case by the parser; a label is trimmed and in upper case,
and it has neither a colon nor a newline, because it is the part of a line before its first colon.

## Main definitions

* `Primer.Program.Loaded` — a program that was loaded from some source.
* `Primer.Line.IsLabel` — a text that can be the label of a line.
* `Primer.Session.WellFormed` — the shape of what a session holds.
* `Primer.Session.Step` — what can be done with a session; `Primer.Session.after`,
  `Primer.Session.afterAll` — the session after a step, and after several.

## Main results

* `Primer.Program.walk_induction` — what every declaration keeps is kept by executing lines.
* `Primer.Session.afterAll_induction` — what loading and executing keep is kept by all steps.
* `Primer.Session.writes_once` — entries stay, and they have the right shape.
-/

set_option relaxedAutoImplicit false
set_option autoImplicit false

namespace Primer

open Text

/-- If the entries of `t` are the first ones of `t'`, then `t'` has the values that `t` has. -/
lemma Table.get?_of_prefix {α : Type} {t t' : Table α} (h : t.entries <+: t'.entries)
    {name : Text} {value : α} (hget : t.get? name = some value) : t'.get? name = some value := by
  obtain ⟨new, hnew⟩ := h
  unfold get? at hget ⊢
  rw [← hnew, List.lookup_append, hget]
  rfl

/-! ## Parts of a line -/

/-- Each character of `trim t` is in `t`. -/
lemma Text.mem_of_mem_trim {c : Char} {t : Text} (h : c ∈ trim t) : c ∈ t :=
  (List.dropWhile_suffix isBlank).subset
    ((List.rdropWhile_prefix isBlank (trimStart t)).subset h)

/-- `trim t` does not end in a blank. -/
lemma Text.isBlank_getLast?_trim {c : Char} {t : Text} (h : c ∈ (trim t).getLast?) :
    isBlank c = false := by
  have hne : trim t ≠ [] := by
    rintro hnil
    simp [hnil] at h
  have hlast : ¬ isBlank ((trim t).getLast hne) = true :=
    List.rdropWhile_last_not isBlank (trimStart t) hne
  rw [List.getLast?_eq_getLast_of_ne_nil hne, Option.mem_some_iff] at h
  simpa [h] using hlast

namespace Line

/-- Each character of the body that `splitLabel raw` gives is in `raw`. -/
lemma mem_of_mem_body {raw : Text} {c : Char} (h : c ∈ (splitLabel raw).2) : c ∈ raw := by
  unfold splitLabel at h
  split at h
  · exact mem_of_mem_trim h
  · next colon body hdrop =>
    have hbody : c ∈ raw.dropWhile (· != ':') := by
      rw [hdrop]
      exact List.mem_cons_of_mem _ (mem_of_mem_trim h)
    exact (List.dropWhile_suffix _).subset hbody

/-- A text that can be the label of a line: it has no outer blanks, no colon and no newline, and it
is in upper case. -/
structure IsLabel (label : Text) : Prop where
  front : ∀ c ∈ label.head?, isBlank c = false
  back : ∀ c ∈ label.getLast?, isBlank c = false
  colon : ':' ∉ label
  newline : '\n' ∉ label
  upper : upper label = label

/-- If `splitLabel raw` finds a label, then it is what stands before the first colon, trimmed. -/
lemma label_eq_trim {raw label : Text} (h : (splitLabel raw).1 = some label) :
    label = trim (raw.takeWhile (· != ':')) := by
  unfold splitLabel at h
  split at h
  · simp at h
  · exact (Option.some.inj h).symm

/-- If `t` has no newline, then a label that `splitLabel (upper t)` finds satisfies `IsLabel`.

**Proof sketch.** The label is what stands before the first colon of `upper t`, trimmed
(`label_eq_trim`).  So it has no colon and no outer blanks, and its characters are those of a line
in upper case without newlines. -/
lemma isLabel_of_splitLabel {t label : Text} (ht : '\n' ∉ t)
    (h : (splitLabel (Text.upper t)).1 = some label) : IsLabel label := by
  have htrim := label_eq_trim h
  -- the label is a part of the line, and this part ends before the first colon
  have hbefore : ∀ c ∈ label, c ∈ (Text.upper t).takeWhile (· != ':') := fun c hc =>
    mem_of_mem_trim (htrim ▸ hc)
  have hline : ∀ c ∈ label, c ∈ Text.upper t := fun c hc =>
    (List.takeWhile_prefix _).subset (hbefore c hc)
  constructor
  · rw [htrim]
    exact trim_stops _
  · rw [htrim]
    exact fun c hc => isBlank_getLast?_trim hc
  · intro hcolon
    simpa using List.mem_takeWhile_imp (hbefore _ hcolon)
  · intro hnewline
    exact ht ((mem_upper_iff_of_isBlank (by decide)).1 (hline _ hnewline))
  · exact upper_eq_self fun c hc => capital_of_mem_upper (hline c hc)

end Line

/-- If `t` is written as `d`, then each character of `d.name` is in `t`. -/
lemma Declaration.Written.mem_of_mem_name {d : Declaration} {t : Text} (h : d.Written t) {c : Char}
    (hc : c ∈ d.name) : c ∈ t := by
  cases h
  simp [hc]

/-- If a text is written as `d`, then `d.name` satisfies `IsName`. -/
lemma Declaration.Written.isName {d : Declaration} {t : Text} (h : d.Written t) :
    IsName d.name := by
  cases h with
  | intro h₀ h₁ h₁' hname => exact hname

/-! ## Loading -/

/-- If line `n` carries `label`, then `label` satisfies `IsLabel`, and `n` is not zero. -/
lemma Source.isLabel_of_labelAt {source label : Text} {n : Nat}
    (h : labelAt source n = some label) : Line.IsLabel label ∧ 1 ≤ n := by
  obtain ⟨raw, hraw, hlabel⟩ := Option.bind_eq_some_iff.1 h
  cases n with
  | zero => simp [lineAt] at hraw
  | succ n =>
    obtain ⟨t, ht, rfl⟩ := Option.map_eq_some_iff.1 hraw
    have hline := newline_not_mem_of_mem_lines (List.mem_of_getElem? ht)
    exact ⟨Line.isLabel_of_splitLabel hline hlabel, by omega⟩

namespace Program

open Source

/-- `load source labels` adds `labelsUpTo source n` for some `n`, whether it fails or not. -/
lemma exists_labelsUpTo_of_load (source : Text) (labels : Labels) :
    ∃ n, (load source labels).state.entries = labels.entries ++ labelsUpTo source n := by
  have hverdict := load_verdict source labels
  generalize Program.faultOf (load source labels).result = found at hverdict
  cases hverdict with
  | loaded _ htable => exact ⟨_, htable⟩
  | clash _ _ _ htable => exact ⟨_, htable⟩
  | illegible _ _ _ _ htable => exact ⟨_, htable⟩

/-- A program that was loaded from some source, with some labels known before. -/
def Loaded (p : Program) : Prop := ∃ source labels, (load source labels).result = .ok p

/-- Each name that a loaded program declares satisfies `IsName` and is in upper case.

**Proof sketch.** A declaration is what the body of its line is written as, and the line is in upper
case.  The characters of its name are in the line, and so they are their own capitals. -/
lemma Loaded.name_of_mem_lines {p : Program} (h : p.Loaded) {l : Line} (hl : l ∈ p.lines)
    {d : Declaration} (hd : l.statement.declaration? = some d) :
    Declaration.IsName d.name ∧ upper d.name = d.name := by
  obtain ⟨source, labels, hload⟩ := h
  obtain ⟨hraw, hlines⟩ := loadLines_lines (lines_of_load hload)
  obtain ⟨t, -, ht⟩ := List.mem_map.1 (hraw ▸ List.mem_map_of_mem hl)
  obtain ⟨hbody, hst⟩ := hlines l hl
  rw [Line.statement_eq hd] at hst
  cases hst with
  | declaration hw =>
    refine ⟨hw.isName, upper_eq_self fun c hc => ?_⟩
    have hmem : c ∈ l.raw := Line.mem_of_mem_body (hbody ▸ hw.mem_of_mem_name hc)
    exact capital_of_mem_upper (ht ▸ hmem)

/-! ## Executing -/

/-- `l.execute b` leaves `b` as it is, or binds a new variable behind all others. -/
lemma cases_of_execute {l : Line} {b b' : Bindings} {next : Nat}
    (h : l.execute b = .ok (next, b')) :
    b' = b ∨ ∃ d v, l.statement.declaration? = some d ∧ b.contains d.name = false ∧
      b' = ⟨b.entries ++ [(d.name, v)]⟩ := by
  cases hd : l.statement.declaration? with
  | none =>
    rw [Line.execute_of_inert hd] at h
    exact .inl (Prod.mk.inj (Except.ok.inj h)).2.symm
  | some d =>
    cases d.fate b with
    | taken hb => simp [Line.execute_eq_taken hd hb] at h
    | invalid hb hv => simp [Line.execute_eq_invalid hd hb hv] at h
    | @bound v hb hv =>
      rw [Line.execute_eq_ok hd hb hv] at h
      exact .inr ⟨d, v, rfl, hb, (Prod.mk.inj (Except.ok.inj h)).2.symm⟩

/-- **What every declaration keeps is kept by executing lines**: if binding a new variable that one
of the lines `ls` declares keeps `P`, then so does `walk ls`, up to the fault if there is one.

**Proof sketch.** Induction on the lines.  The first line has a fault, and then `b` is left; or it
leaves `b` alone or binds a new variable (`cases_of_execute`), and the others go on from there. -/
lemma walk_induction {P : Bindings → Prop} {ls : List Line}
    (hstep : ∀ l ∈ ls, ∀ d, l.statement.declaration? = some d →
      ∀ (b : Bindings) (v : Int32), b.contains d.name = false → P b →
        P ⟨b.entries ++ [(d.name, v)]⟩)
    {b : Bindings} (hb : P b) : P (walk ls b).state := by
  induction ls generalizing b with
  | nil => exact hb
  | cons l ls ih =>
    have hothers := @ih fun l' hl' => hstep l' (List.mem_cons_of_mem _ hl')
    rw [walk]
    cases he : l.execute b with
    | error fault => exact hb
    | ok found =>
      obtain ⟨next, b'⟩ := found
      rcases cases_of_execute he with rfl | ⟨d, v, hd, hnew, rfl⟩
      · exact hothers hb
      · exact hothers (hstep l (by simp) d hd b v hnew hb)

/-- `p.run b` leaves the entries of `b` in front of all others. -/
lemma entries_prefix_run (p : Program) (b : Bindings) : b.entries <+: (p.run b).state.entries := by
  rw [run_eq_walk]
  refine walk_induction (P := fun b' => b.entries <+: b'.entries) ?_ (List.prefix_refl _)
  intro l _ d _ b' v _ hb'
  exact hb'.trans (List.prefix_append _ _)

end Program

/-! ## The shape of the tables -/

/-- The names of the variables are identifiers in upper case, and no two are the same. -/
structure Bindings.WellFormed (b : Bindings) : Prop where
  name : ∀ e ∈ b.entries, Declaration.IsName e.1 ∧ upper e.1 = e.1
  distinct : (b.entries.map Prod.fst).Nodup

/-- The labels are texts that can be labels, and they mark lines numbered from one. -/
structure Labels.WellFormed (t : Labels) : Prop where
  label : ∀ e ∈ t.entries, Line.IsLabel e.1
  line : ∀ e ∈ t.entries, 1 ≤ e.2

/-- Well-formed bindings stay well-formed if a new name in upper case that satisfies `IsName` is
bound behind all others. -/
lemma Bindings.WellFormed.concat {b : Bindings} (h : b.WellFormed) {name : Text}
    (hname : Declaration.IsName name ∧ upper name = name) (hnew : b.contains name = false)
    (v : Int32) : Bindings.WellFormed ⟨b.entries ++ [(name, v)]⟩ := by
  constructor
  · intro e he
    rcases List.mem_append.1 he with he | he
    · exact h.name e he
    · rw [List.mem_singleton.1 he]
      exact hname
  · exact Table.nodup_names_concat h.distinct hnew v

/-- `p.run b` leaves well-formed bindings if `b` is well-formed and `p` was loaded. -/
lemma Bindings.WellFormed.run {b : Bindings} (h : b.WellFormed) {p : Program} (hp : p.Loaded) :
    (p.run b).state.WellFormed := by
  rw [Program.run_eq_walk]
  refine Program.walk_induction ?_ h
  intro l hl d hd b' v hnew hb'
  exact hb'.concat (hp.name_of_mem_lines hl hd) hnew v

/-- `load source t` leaves well-formed labels if `t` is well-formed. -/
lemma Labels.WellFormed.load {t : Labels} (h : t.WellFormed) (source : Text) :
    Labels.WellFormed (Program.load source t).state := by
  obtain ⟨n, hn⟩ := Program.exists_labelsUpTo_of_load source t
  have hnew : ∀ e ∈ Source.labelsUpTo source n, Line.IsLabel e.1 ∧ 1 ≤ e.2 := by
    intro e he
    obtain ⟨m, -, hm⟩ := List.mem_filterMap.1 he
    obtain ⟨label, hlabel, rfl⟩ := Option.map_eq_some_iff.1 hm
    exact Source.isLabel_of_labelAt hlabel
  constructor
  · rw [hn]
    exact List.forall_mem_append.2 ⟨h.label, fun e he => (hnew e he).1⟩
  · rw [hn]
    exact List.forall_mem_append.2 ⟨h.line, fun e he => (hnew e he).2⟩

namespace Session

/-- What a session holds has the right shape. -/
structure WellFormed (s : Session) : Prop where
  bindings : s.bindings.WellFormed
  labels : Labels.WellFormed s.labels

/-! ## Steps -/

/-- What can be done with a session, with success or without: a source is loaded or run, or a
program that was loaded is executed. -/
inductive Step where
  | load (source : Text)
  | run (source : Text)
  | execute (p : Program) (loaded : p.Loaded)

/-- The session after a step. -/
def after (s : Session) : Step → Session
  | .load source => (s.load source).state
  | .run source => (s.run source).state
  | .execute p _ => (s.execute p).state

/-- The session after several steps. -/
def afterAll (s : Session) (steps : List Step) : Session := steps.foldl after s

/-- `s.run source` leaves what `s.load source` leaves, or what executing the loaded program leaves
then. -/
lemma run_state_cases (s : Session) (source : Text) :
    (s.run source).state = (s.load source).state ∨
      ∃ p : Program, p.Loaded ∧ (s.run source).state = ((s.load source).state.execute p).state := by
  cases hload : (Program.load source s.labels).result with
  | error fault => exact .inl (Program.run_of_load_error hload).2
  | ok p =>
    refine .inr ⟨p, ⟨source, s.labels, hload⟩, ?_⟩
    rw [Program.run_of_loaded hload]
    rfl

/-- **What loading and executing keep is kept by all steps**: if `load` and `execute` keep `P`, then
so does `afterAll`.

**Proof sketch.** Induction on the steps.  A step that runs a source loads it, and then executes
what was loaded unless loading fails (`run_state_cases`). -/
lemma afterAll_induction {P : Session → Prop}
    (hload : ∀ (s : Session) (source : Text), P s → P (s.load source).state)
    (hexecute : ∀ (s : Session) (p : Program), p.Loaded → P s → P (s.execute p).state)
    {s : Session} (hs : P s) (steps : List Step) : P (s.afterAll steps) := by
  induction steps generalizing s with
  | nil => exact hs
  | cons step steps ih =>
    refine ih (s := s.after step) ?_
    cases step with
    | load source => exact hload s source hs
    | execute p hp => exact hexecute s p hp hs
    | run source =>
      change P (s.run source).state
      rcases s.run_state_cases source with h | ⟨p, hp, h⟩
      · rw [h]
        exact hload s source hs
      · rw [h]
        exact hexecute _ p hp (hload s source hs)

/-- `s.afterAll steps` has the entries of `s` in front of all others, in both tables. -/
lemma entries_prefix_afterAll (s : Session) (steps : List Step) :
    s.bindings.entries <+: (s.afterAll steps).bindings.entries ∧
      s.labels.entries <+: (s.afterAll steps).labels.entries := by
  refine afterAll_induction (P := fun s' => s.bindings.entries <+: s'.bindings.entries ∧
    s.labels.entries <+: s'.labels.entries) ?_ ?_ ⟨List.prefix_refl _, List.prefix_refl _⟩ steps
  · intro s' source h
    obtain ⟨n, hn⟩ := Program.exists_labelsUpTo_of_load source s'.labels
    exact ⟨h.1, h.2.trans ⟨_, hn.symm⟩⟩
  · intro s' p _ h
    exact ⟨h.1.trans (p.entries_prefix_run s'.bindings), h.2⟩

/-- `afterAll {} steps` is well-formed. -/
lemma wellFormed_afterAll (steps : List Step) : (afterAll {} steps).WellFormed := by
  refine afterAll_induction (P := WellFormed) ?_ ?_ ?_ steps
  · intro s source h
    exact ⟨h.bindings, h.labels.load source⟩
  · intro s p hp h
    exact ⟨h.bindings.run hp, h.labels⟩
  · exact ⟨⟨by simp, by simp⟩, ⟨by simp, by simp⟩⟩

/-- **Sessions only grow.**  Whatever is done in a session, its variables stay in their order with
their values, further ones come behind them, and every label keeps its line.  In a session that was
fresh before, the names of the variables are identifiers in upper case and no two are the same; the
labels have no outer blanks, no colon and no newline, they are in upper case, and they mark lines
numbered from one.

**Proof sketch.** Both parts hold of loading and of executing, and so of all steps
(`afterAll_induction`). -/
theorem writes_once (steps : List Step) :
    (∀ s : Session, s.bindings.entries <+: (s.afterAll steps).bindings.entries ∧
      ∀ label line, s.labels.get? label = some line →
        (s.afterAll steps).labels.get? label = some line) ∧
    (∀ e ∈ (afterAll {} steps).bindings.entries,
      Declaration.IsName e.1 ∧ upper e.1 = e.1) ∧
    ((afterAll {} steps).bindings.entries.map Prod.fst).Nodup ∧
    ∀ e ∈ (afterAll {} steps).labels.entries, Line.IsLabel e.1 ∧ 1 ≤ e.2 := by
  have hshape := wellFormed_afterAll steps
  refine ⟨fun s => ?_, hshape.bindings.name, hshape.bindings.distinct, fun e he =>
    ⟨hshape.labels.label e he, hshape.labels.line e he⟩⟩
  obtain ⟨hbindings, hlabels⟩ := s.entries_prefix_afterAll steps
  exact ⟨hbindings, fun label line h => Table.get?_of_prefix hlabels h⟩

end Session

end Primer
