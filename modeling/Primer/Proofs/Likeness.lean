import Mathlib.Data.List.Forall2
import Primer.Proofs.Walking

/-!
# Lines that say the same

Two lines say the same if they have the same label and the same body.  They may stand at different
places of different programs, and their texts may differ in what does not matter.  Lines that say
the same, one by one, are loaded and executed alike: the same variables are bound, the same labels
are recorded, and a fault has the same cause, but for the places of the lines and for their texts.

## Main definitions

* `Primer.Fault.renumber` — a fault with its line numbered anew.
* `Primer.Fault.Alike`, `Primer.Line.Alike` — faults and lines that differ in place and text only.
* `Primer.Program.LoadedAlike` — results of loading that do.

## Main results

* `Primer.Program.walk_alike` — lines that say the same are executed alike.
* `Primer.Program.loadLines_alike` — texts that say the same are loaded alike.
* `Primer.Session.runLines_alike` — a run of texts that say the same.

## Design

How the texts may differ is a parameter: a relation `R` between texts that keeps what
`Line.splitLabel` gives.  The lines of the second program stand `k` lines further on.
-/

set_option relaxedAutoImplicit false
set_option autoImplicit false

namespace Primer

open Text

variable {R : Text → Text → Prop} {k : Nat}

/-- A fault with its line numbered anew. -/
def Fault.renumber (g : Nat → Nat) (f : Fault) : Fault := { f with line := g f.line }

/-- Faults for the same cause, the second `k` lines further on, and with related texts. -/
structure Fault.Alike (R : Text → Text → Prop) (k : Nat) (f f' : Fault) : Prop where
  line : f'.line = f.line + k
  text : R f.text f'.text
  cause : f'.cause = f.cause

/-- If `f'` is alike `f` with the same text, then `f'` is `f` renumbered by `k`. -/
lemma Fault.Alike.eq_renumber {f f' : Fault} (h : f.Alike (· = ·) k f') :
    f' = f.renumber (· + k) := by
  obtain ⟨line, text, cause⟩ := f'
  obtain ⟨rfl, rfl, rfl⟩ : line = f.line + k ∧ f.text = text ∧ cause = f.cause :=
    ⟨h.line, h.text, h.cause⟩
  rfl

/-- `Fault.Alike.eq_renumber` for optional faults. -/
lemma Fault.eq_map_renumber_of_rel {f f' : Option Fault}
    (h : Option.Rel (Fault.Alike (· = ·) k) f f') : f' = f.map (renumber (· + k)) := by
  cases h with
  | none => rfl
  | some hf => rw [hf.eq_renumber, Option.map_some]

/-- Lines with the same statement, the second `k` lines further on, and with related texts. -/
structure Line.Alike (R : Text → Text → Prop) (k : Nat) (l l' : Line) : Prop where
  number : l'.number = l.number + k
  raw : R l.raw l'.raw
  statement : l'.statement = l.statement

/-! ## Executing -/

/-- If `l'` is alike `l`, then `execute` has the same effect on both, or fails on both with faults
that are alike.

**Proof sketch.** Both lines have the same declaration or none, and without one nothing changes.
The fate of the declaration does not depend on the line, and the faults have the number and the text
of their own line. -/
lemma Line.Alike.execute {l l' : Line} (h : l.Alike R k l') (b : Bindings) :
    (∃ b', l.execute b = .ok (l.number + 1, b') ∧ l'.execute b = .ok (l'.number + 1, b')) ∨
      ∃ f f', l.execute b = .error f ∧ l'.execute b = .error f' ∧ f.Alike R k f' := by
  have hst : l'.statement.declaration? = l.statement.declaration? := by rw [h.statement]
  cases hd : l.statement.declaration? with
  | none =>
    rw [hd] at hst
    exact .inl ⟨b, execute_of_inert hd b, execute_of_inert hst b⟩
  | some d =>
    rw [hd] at hst
    cases d.fate b with
    | taken hb =>
      exact .inr ⟨_, _, execute_eq_taken hd hb, execute_eq_taken hst hb, h.number, h.raw, rfl⟩
    | invalid hb hv =>
      exact .inr ⟨_, _, execute_eq_invalid hd hb hv, execute_eq_invalid hst hb hv, h.number, h.raw,
        rfl⟩
    | bound hb hv => exact .inl ⟨_, execute_eq_ok hd hb hv, execute_eq_ok hst hb hv⟩

namespace Program

/-- **Lines that say the same are executed alike**: `walk ls b` and `walk ls' b` leave the same
bindings, and their faults are alike. -/
lemma walk_alike {ls ls' : List Line} (h : List.Forall₂ (Line.Alike R k) ls ls') (b : Bindings) :
    (walk ls' b).state = (walk ls b).state ∧
      Option.Rel (Fault.Alike R k) (faultOf (walk ls b).result) (faultOf (walk ls' b).result) := by
  induction h generalizing b with
  | nil => exact ⟨rfl, .none⟩
  | cons hl _ ih =>
    rw [walk, walk]
    rcases hl.execute b with ⟨b', he, he'⟩ | ⟨f, f', he, he', hf⟩
    · rw [he, he']
      exact ih b'
    · rw [he, he']
      exact ⟨rfl, .some hf⟩

/-! ## Loading -/

/-- Lines that were loaded alike, or alike faults. -/
inductive LoadedAlike (R : Text → Text → Prop) (k : Nat) :
    Except Fault (List Line) → Except Fault (List Line) → Prop
  | lines {ls ls' : List Line} (h : List.Forall₂ (Line.Alike R k) ls ls') :
      LoadedAlike R k (.ok ls) (.ok ls')
  | fault {f f' : Fault} (h : f.Alike R k f') : LoadedAlike R k (.error f) (.error f')

/-- If `l'` is alike `l`, and `r'` is alike `r`, then they are also with `l` and `l'` in front. -/
lemma LoadedAlike.cons {l l' : Line} {r r' : Except Fault (List Line)} (hl : l.Alike R k l')
    (h : LoadedAlike R k r r') : LoadedAlike R k (r.map (l :: ·)) (r'.map (l' :: ·)) := by
  cases h with
  | lines hls => exact .lines (.cons hl hls)
  | fault hf => exact .fault hf

/-- `readBody` reads nothing from `body` under either number and raw text, or lines that are
alike. -/
lemma readBody_alike (number number' : Nat) {raw raw' : Text} (hR : R raw raw') (body : Text)
    (hnumber : number' = number + k) :
    (Line.readBody number raw body).1 = none ∧ (Line.readBody number' raw' body).1 = none ∨
      ∃ l l', (Line.readBody number raw body).1 = some l ∧
        (Line.readBody number' raw' body).1 = some l' ∧ l.Alike R k l' := by
  unfold Line.readBody
  split
  · exact .inl ⟨rfl, rfl⟩
  · next kind _ =>
    cases kind.read body with
    | error e => exact .inl ⟨rfl, rfl⟩
    | ok statement => exact .inr ⟨_, _, rfl, rfl, hnumber, hR, rfl⟩

/-- If `raw` and `raw'` are split in the same way, then `raw'` records `k` lines further on what
`raw` records, with the number moved on by `k`. -/
lemma recorded_add (number : Nat) {raw raw' : Text}
    (h : Line.splitLabel raw' = Line.splitLabel raw) :
    Line.recorded (number + k) raw' =
      (Line.recorded number raw).map (Prod.map id (· + k)) := by
  unfold Line.recorded
  rw [h]
  cases (Line.splitLabel raw).1 <;> rfl

/-- **Texts that say the same are loaded alike.**  If `R` relates only texts that are split in the
same way, then `loadLines` of `texts` and of `texts'`, which are related in upper case, from tables
with the same labels, give results that are alike, and add the same labels, moved on by `k`.

**Proof sketch.** Induction on the texts.  The next two texts have the same label, which both tables
have or both have not.  If they have it, both texts are refused.  If not, both tables take the
label, and the bodies, being the same, are both refused or both read (`readBody_alike`); the
hypothesis holds again for the texts that are left, since the tables still have the same labels. -/
lemma loadLines_alike (hR : ∀ raw raw', R raw raw' → Line.splitLabel raw' = Line.splitLabel raw)
    {texts texts' : List Text}
    (h : List.Forall₂ (fun t t' => R (upper t) (upper t')) texts texts') :
    ∀ (number : Nat) (labels labels' : Labels),
      labels'.entries.map Prod.fst = labels.entries.map Prod.fst →
      LoadedAlike R k (loadLines number texts labels).result
        (loadLines (number + k) texts' labels').result ∧
      ∃ new, (loadLines number texts labels).state.entries = labels.entries ++ new ∧
        (loadLines (number + k) texts' labels').state.entries =
          labels'.entries ++ new.map (Prod.map id (· + k)) := by
  induction h with
  | nil =>
    intro number labels labels' _
    exact ⟨.lines .nil, [], by simp [loadLines], by simp [loadLines]⟩
  | @cons text text' texts texts' htext _ ih =>
    intro number labels labels' hnames
    have hsplit := hR _ _ htext
    have hcontains := Table.contains_congr hnames
    rcases clash_or_fresh labels (Line.splitLabel (upper text)).1 with ⟨label, hlabel, hc⟩ | hfresh
    · rw [loadLines, loadLines, Line.classify_of_clash hlabel hc,
        Line.classify_of_clash (hsplit ▸ hlabel) ((hcontains label).trans hc)]
      exact ⟨.fault ⟨rfl, htext, rfl⟩, [], by simp, by simp⟩
    · have hfresh' : ∀ label, (Line.splitLabel (upper text')).1 = some label →
          labels'.contains label = false := by
        intro label hlabel
        rw [hcontains]
        exact hfresh label (hsplit ▸ hlabel)
      have hrecorded := recorded_add (k := k) number hsplit
      rw [loadLines, loadLines, Line.classify_of_fresh hfresh, Line.classify_of_fresh hfresh',
        hsplit]
      rcases readBody_alike number (number + k) htext (Line.splitLabel (upper text)).2 rfl with
        ⟨hread, hread'⟩ | ⟨l, l', hread, hread', hl⟩
      · rw [hread, hread', hrecorded]
        exact ⟨.fault ⟨rfl, htext, rfl⟩, _, rfl, rfl⟩
      · rw [hread, hread', Nat.add_right_comm]
        obtain ⟨hresult, new, hnew, hnew'⟩ := ih (number + 1)
          ⟨labels.entries ++ Line.recorded number (upper text)⟩
          ⟨labels'.entries ++ Line.recorded (number + k) (upper text')⟩
          (by simp [hnames, hrecorded, Function.comp_def])
        refine ⟨hresult.cons hl, Line.recorded number (upper text) ++ new, ?_, ?_⟩
        · rw [← List.append_assoc]
          exact hnew
        · rw [List.map_append, ← hrecorded, ← List.append_assoc]
          exact hnew'

end Program

/-- **Texts that say the same run alike**: `s.runLines texts` and `s.runLines texts'` leave the same
session, and their faults are alike.

**Proof sketch.** The texts are loaded alike (`Program.loadLines_alike`), and what was loaded is
executed alike (`Program.walk_alike`). -/
lemma Session.runLines_alike
    (hR : ∀ raw raw', R raw raw' → Line.splitLabel raw' = Line.splitLabel raw)
    {texts texts' : List Text}
    (h : List.Forall₂ (fun t t' => R (upper t) (upper t')) texts texts') (s : Session) :
    (s.runLines texts').1 = (s.runLines texts).1 ∧
      Option.Rel (Fault.Alike R 0) (s.runLines texts).2 (s.runLines texts').2 := by
  obtain ⟨hresult, new, hnew, hnew'⟩ :=
    Program.loadLines_alike (k := 0) hR h 1 s.labels s.labels rfl
  have hlabels : (Program.loadLines 1 texts' s.labels).state =
      (Program.loadLines 1 texts s.labels).state := by
    apply Table.eq_of_entries
    have hnew0 : new.map (Prod.map id (· + 0)) = new := List.map_id'' (fun _ => rfl) new
    rw [hnew, ← hnew0]
    exact hnew'
  generalize hr : (Program.loadLines 1 texts s.labels).result = r at hresult
  generalize hr' : (Program.loadLines 1 texts' s.labels).result = r' at hresult
  cases hresult with
  | fault hf =>
    rw [runLines_of_fault hr, runLines_of_fault hr', hlabels]
    exact ⟨rfl, .some hf⟩
  | lines hls =>
    obtain ⟨hstate, hfault⟩ := Program.walk_alike hls s.bindings
    rw [runLines_of_loaded hr, runLines_of_loaded hr', hlabels, hstate]
    exact ⟨rfl, hfault⟩

end Primer
