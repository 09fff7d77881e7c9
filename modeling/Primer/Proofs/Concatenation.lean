import Primer.Proofs.Likeness
import Primer.Proofs.SourceLines

/-!
# Two sources in a row

A source that is run behind another one, in the session that the first has left, comes to the same
as the two put together into one source.  This is not how they are carried out: put together, all
lines are loaded before the first is executed, and one after the other the first source is executed
before the second is loaded.  A label or a variable that both sources define is found all the same,
since what the first source leaves in the tables is what its lines record and declare.

## Main results

* `Primer.Session.runLines_append` — lines behind lines that run without a fault.
* `Primer.Session.runLines_append_of_fault` — lines behind lines that do not.
* `Primer.Session.run_append` — two sources in a row.
-/

set_option relaxedAutoImplicit false
set_option autoImplicit false

namespace Primer

open Text Program

namespace Session

/-- If `s.runLines texts` has no fault, then `loadLines` returns lines, and `walk` through them has
no fault. -/
lemma loaded_of_runLines {s : Session} {texts : List Text} (h : (s.runLines texts).2 = none) :
    ∃ ls, (loadLines 1 texts s.labels).result = .ok ls ∧ (walk ls s.bindings).result = .ok () := by
  cases hload : (loadLines 1 texts s.labels).result with
  | error fault => simp [runLines_of_fault hload] at h
  | ok ls =>
    rw [runLines_of_loaded hload] at h
    obtain ⟨⟨⟩, hwalk⟩ := faultOf_eq_none_iff.1 h
    exact ⟨ls, rfl, hwalk⟩

/-- **Lines behind lines that run without a fault.**  If `s.runLines texts` leaves `first` without a
fault, then `s.runLines (texts ++ texts')` has the fault of `first.runLines texts'`, and records its
labels, both with the numbers moved on; without a fault it leaves the same variables.

**Proof sketch.** Loading goes on with the second lines where the first have ended, from the same
table as if they were loaded on their own, so that they are loaded alike (`loadLines_alike`).  If
they are loaded, the walk goes through the first lines as before, and then through the second from
the bindings that the first leave (`walk_append`), alike again (`walk_alike`). -/
lemma runLines_append {s first : Session} {texts : List Text}
    (hfirst : s.runLines texts = (first, none)) (texts' : List Text) :
    (s.runLines (texts ++ texts')).2 =
      (first.runLines texts').2.map (Fault.renumber (· + texts.length)) ∧
    (∃ new, (first.runLines texts').1.labels.entries = first.labels.entries ++ new ∧
      (s.runLines (texts ++ texts')).1.labels.entries =
        first.labels.entries ++ new.map (Prod.map id (· + texts.length))) ∧
    ((first.runLines texts').2 = none →
      (s.runLines (texts ++ texts')).1.bindings = (first.runLines texts').1.bindings) := by
  obtain ⟨ls, hload, hwalk⟩ := loaded_of_runLines (congrArg Prod.snd hfirst)
  obtain rfl : first = ⟨(walk ls s.bindings).state, (loadLines 1 texts s.labels).state⟩ := by
    rw [runLines_of_loaded hload] at hfirst
    exact (congrArg Prod.fst hfirst).symm
  obtain ⟨hresult, new, hnew, hnew'⟩ := loadLines_alike (R := (· = ·)) (k := texts.length)
    (fun _ _ h => by rw [h]) (List.forall₂_same.2 fun _ _ => rfl) 1
    (loadLines 1 texts s.labels).state (loadLines 1 texts s.labels).state rfl
  have hjoint := loadLines_append 1 texts texts' s.labels
  rw [hload] at hjoint
  have hlabels : (loadLines 1 (texts ++ texts') s.labels).state =
      (loadLines (1 + texts.length) texts' (loadLines 1 texts s.labels).state).state := by
    rw [hjoint]
  generalize hr : (loadLines 1 texts' (loadLines 1 texts s.labels).state).result = r at hresult
  generalize hr' :
    (loadLines (1 + texts.length) texts' (loadLines 1 texts s.labels).state).result = r' at hresult
  simp only [hr'] at hjoint
  cases hresult with
  | @fault f f' hf =>
    have hload' : (loadLines 1 (texts ++ texts') s.labels).result = .error f' := by
      rw [hjoint]
      rfl
    rw [runLines_of_fault hload', runLines_of_fault hr, hlabels, hf.eq_renumber]
    exact ⟨rfl, ⟨new, hnew, hnew'⟩, by simp⟩
  | @lines others others' hls =>
    have hload' : (loadLines 1 (texts ++ texts') s.labels).result = .ok (ls ++ others') := by
      rw [hjoint]
      rfl
    obtain ⟨hbindings, hfault⟩ := walk_alike hls (walk ls s.bindings).state
    have hwalk' := walk_append ls others' s.bindings
    rw [hwalk] at hwalk'
    rw [runLines_of_loaded hload', runLines_of_loaded hr, hlabels, hwalk', hbindings]
    exact ⟨Fault.eq_map_renumber_of_rel hfault, ⟨new, hnew, hnew'⟩, fun _ => rfl⟩

/-- If `s.runLines texts` has a fault then so has `s.runLines (texts ++ texts')`.  It may be another
one, since all lines are loaded before the first is executed.

**Proof sketch.** Suppose the joint run has no fault.  Then both lists are loaded, and the walk goes
through the first before the second (`walk_append`); but the first has a fault. -/
lemma runLines_append_of_fault {s : Session} {texts : List Text} {fault : Fault}
    (h : (s.runLines texts).2 = some fault) (texts' : List Text) :
    (s.runLines (texts ++ texts')).2 ≠ none := by
  intro hnone
  obtain ⟨ls, hload, hwalk⟩ := loaded_of_runLines hnone
  rw [loadLines_append] at hload
  cases hfirst : (loadLines 1 texts s.labels).result with
  | error f => simp [hfirst] at hload
  | ok ls₁ =>
    simp only [hfirst] at hload
    cases hrest :
      (loadLines (1 + texts.length) texts' (loadLines 1 texts s.labels).state).result with
    | error f => simp [hrest, Except.map] at hload
    | ok ls₂ =>
      obtain rfl : ls₁ ++ ls₂ = ls := by simpa [hrest, Except.map] using hload
      -- the fault is one of executing the first lines, and the walk does not get past it
      rw [runLines_of_loaded hfirst] at h
      rw [walk_append, eq_error_of_faultOf h] at hwalk
      simp at hwalk

/-- If `s.run source` has no fault, then it adds the labels of the source to those of `s`. -/
lemma labels_of_run {s : Session} {source : Text} (h : faultOf (s.run source).result = none) :
    (s.run source).state.labels.entries =
      s.labels.entries ++ Source.labelsUpTo source (Text.lines source).length := by
  cases hload : (Program.load source s.labels).result with
  | error fault =>
    rw [(run_of_load_error hload).1] at h
    simp [faultOf] at h
  | ok p =>
    rw [run_of_loaded hload]
    exact labels_of_load hload

/-- **Two sources in a row.**  Let the first be empty or end in a newline, so that no line goes from
one into the other.  In any session, the two run without a fault one after the other if and only if
they do put together.  Then the variables are the same, and the labels are those that the first
source leaves, followed by those of the second with the numbers of their lines, counted on from the
first source when put together.  If only the second has a fault, so have both together, with the
number of the line counted on.

**Proof sketch.** The lines of the sources put together are those of the first and those of the
second (`Text.lines_append`), and lines in a row run as said by `runLines_append` and
`runLines_append_of_fault`.  Which labels the second source adds is said by `labels_of_run`. -/
theorem run_append (s : Session) {s₁ s₂ : Text} (h : s₁ = [] ∨ s₁.getLast? = some '\n') :
    ((∃ p, (s.run (s₁ ++ s₂)).result = .ok p) ↔
      (∃ p, (s.run s₁).result = .ok p) ∧ ∃ p, ((s.run s₁).state.run s₂).result = .ok p) ∧
    ((∃ p, (s.run (s₁ ++ s₂)).result = .ok p) →
      (s.run (s₁ ++ s₂)).state.bindings = ((s.run s₁).state.run s₂).state.bindings ∧
      ((s.run s₁).state.run s₂).state.labels.entries =
        (s.run s₁).state.labels.entries ++ Source.labelsUpTo s₂ (Text.lines s₂).length ∧
      (s.run (s₁ ++ s₂)).state.labels.entries =
        (s.run s₁).state.labels.entries ++
          (Source.labelsUpTo s₂ (Text.lines s₂).length).map fun e =>
            (e.1, (Text.lines s₁).length + e.2)) ∧
    ∀ fault, (∃ p, (s.run s₁).result = .ok p) →
      ((s.run s₁).state.run s₂).result = .error fault →
        (s.run (s₁ ++ s₂)).result =
          .error ⟨(Text.lines s₁).length + fault.line, fault.text, fault.cause⟩ := by
  obtain ⟨hstate₁, hfault₁⟩ := s.run_eq_runLines s₁
  obtain ⟨hstate₂, hfault₂⟩ := (s.run s₁).state.run_eq_runLines s₂
  obtain ⟨hstate, hfault⟩ := s.run_eq_runLines (s₁ ++ s₂)
  rw [lines_append h s₂] at hstate hfault
  simp only [← faultOf_eq_none_iff]
  cases hfirst : faultOf (s.run s₁).result with
  | some fault =>
    have hjoint : faultOf (s.run (s₁ ++ s₂)).result ≠ none := by
      rw [hfault]
      exact runLines_append_of_fault (hfault₁ ▸ hfirst) (Text.lines s₂)
    exact ⟨⟨fun hok => absurd hok hjoint, fun hok => absurd hok.1 (by simp)⟩,
      fun hok => absurd hok hjoint, fun _ hok => absurd hok (by simp)⟩
  | none =>
    have hrun : s.runLines (Text.lines s₁) = ((s.run s₁).state, none) :=
      Prod.ext hstate₁.symm (hfault₁ ▸ hfirst)
    obtain ⟨hboth, ⟨new, hnew, hnew'⟩, hbindings⟩ := runLines_append hrun (Text.lines s₂)
    rw [← hfault, ← hfault₂] at hboth
    rw [← hstate₂] at hnew
    rw [← hstate] at hnew'
    rw [← hstate, ← hstate₂, ← hfault₂] at hbindings
    have hiff : faultOf (s.run (s₁ ++ s₂)).result = none ↔
        faultOf ((s.run s₁).state.run s₂).result = none := by
      rw [hboth, Option.map_eq_none_iff]
    refine ⟨⟨fun hok => ⟨rfl, hiff.1 hok⟩, fun hok => hiff.2 hok.2⟩, fun hok => ?_, ?_⟩
    · have hlabels := labels_of_run (hiff.1 hok)
      obtain rfl : new = Source.labelsUpTo s₂ (Text.lines s₂).length :=
        List.append_cancel_left (hnew.symm.trans hlabels)
      refine ⟨hbindings (hiff.1 hok), hlabels, ?_⟩
      rw [hnew']
      simp only [Nat.add_comm]
      rfl
    · intro fault _ hsecond
      rw [hsecond] at hboth
      rw [eq_error_of_faultOf hboth, Nat.add_comm]
      rfl

/-- A session in which other programs have run. -/
def inUse : Session := ⟨⟨[("Z".toList, 1)]⟩, ⟨[("TOP".toList, 9)]⟩⟩

/-- A variable of the first source is declared again on the second line of the second, which is the
third line of both together. -/
theorem run_append_redeclaring :
    "a: let x = 1\n".toList.getLast? = some '\n' ∧
    (inUse.run ("a: let x = 1\n".toList ++ "b: let y = 2\nlet x = 3".toList)).result =
      .error ⟨1 + 2, "LET X = 3".toList, .duplicateDeclaration "X".toList⟩ := by
  have hnewline : "a: let x = 1\n".toList.getLast? = some '\n' := by decide
  have hfirst : faultOf (inUse.run "a: let x = 1\n".toList).result = none := by decide +kernel
  have hsecond : faultOf ((inUse.run "a: let x = 1\n".toList).state.run
      "b: let y = 2\nlet x = 3".toList).result =
      some ⟨2, "LET X = 3".toList, .duplicateDeclaration "X".toList⟩ := by decide +kernel
  exact ⟨hnewline, (run_append inUse (.inr hnewline)).2.2 _ (faultOf_eq_none_iff.1 hfirst)
    (eq_error_of_faultOf hsecond)⟩

end Session

end Primer
