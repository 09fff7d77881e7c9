import Primer.CommandLine.Run
import Primer.Proofs.ConsoleHistory
import Primer.Proofs.InertLines
import Primer.Proofs.Numerals

/-!
# The front ends

A program in a file can be run from the command line, or loaded and run at the console.  Both come
to what a run in a fresh session comes to.  The command line loads and executes by itself, with
listings around.  The console cuts the file into lines, puts these together again and runs the
result, which is not the same text: carriage returns can get lost, and so can an empty last line.
What is lost matters for nothing but the text of a fault.

## Main definitions

* `Primer.CommandLine.Exit.Tells` — an exit tells what a run in a fresh session comes to.
* `Primer.Text.Returned` — a text, or the text with a carriage return behind.
* `Primer.Reply.Tells` — a reply of the console tells what a run in a fresh session comes to.

## Main results

* `Primer.CommandLine.exit_tells` — running a source from the command line.
* `Primer.Session.run_joinLines_lines` — a source that is cut into lines and put together again.
* `Primer.Console.run_tells` — running the lines of a source at the console.
* `Primer.CommandLine.front_ends_agree` — a file at both front ends.
-/

set_option relaxedAutoImplicit false
set_option autoImplicit false

namespace Primer

open Text

/-! ## Bytes and outputs -/

/-- `ofBytes?` reads `bytes t` as `t`. -/
lemma Text.ofBytes?_bytes (t : Text) : ofBytes? (bytes t) = some t := by
  have h : (bytes t).toByteArray = (String.ofList t).toByteArray := rfl
  rw [ofBytes?, h, String.fromUTF8?, dif_pos (String.ofList t).isValidUTF8]
  exact congrArg some String.toList_ofList

/-- `bytes` distributes over `++`. -/
lemma Text.bytes_append (t u : Text) : bytes (t ++ u) = bytes t ++ bytes u := List.flatMap_append

/-- `bytes t` is empty for the empty text only. -/
lemma Text.bytes_eq_nil_iff {t : Text} : bytes t = [] ↔ t = [] := by
  cases t <;> simp [bytes]

/-- `IoError.text` makes the text `t` of the bytes `Text.bytes t`. -/
lemma IoError.text_bytes (t : Text) : IoError.text (.ok (Text.bytes t)) = .ok t := by
  simp [IoError.text, ofBytes?_bytes]

/-- If `out.write t` succeeds, then it puts `Text.bytes t` behind what was written. -/
lemma Sink.written_of_write {out : Sink} {t : Text} (h : (out.write t).2 = .ok ()) :
    (out.write t).1.written = out.written ++ Text.bytes t := by
  obtain ⟨room, written⟩ := out
  cases room with
  | none => rfl
  | some n =>
    have hfits : (Text.bytes t).length ≤ n := by
      by_contra hlt
      simp [write, hlt] at h
    simp [write, List.take_of_length_le hfits]

/-- If `out.writeAll texts` succeeds, then it puts the bytes of all `texts` behind what was
written. -/
lemma Sink.written_of_writeAll {out : Sink} {texts : List Text}
    (h : (out.writeAll texts).2 = .ok ()) :
    (out.writeAll texts).1.written = out.written ++ texts.flatMap Text.bytes := by
  induction texts generalizing out with
  | nil => simp [writeAll]
  | cons t texts ih =>
    have hwrite := @written_of_write out t
    rw [writeAll] at h ⊢
    generalize out.write t = w at h hwrite
    obtain ⟨out', result⟩ := w
    cases result with
    | error e => simp at h
    | ok => rw [ih h, hwrite rfl, List.flatMap_cons, List.append_assoc]

namespace Console

/-- If `print` does not fail, then it leaves the console `after`, and has written all `texts`. -/
lemma print_of_not_io {before after : Console} {log : List Event} {texts : List Text} {out : Sink}
    (h : ∀ e, (print before after log texts out).result ≠ .error (.io e)) :
    (print before after log texts out).console = after ∧
      (print before after log texts out).result = .ok .proceed ∧
      (print before after log texts out).sink.written =
        out.written ++ texts.flatMap Text.bytes := by
  have hwritten := @Sink.written_of_writeAll out texts
  unfold print at h ⊢
  generalize out.writeAll texts = w at h hwritten
  obtain ⟨out', result⟩ := w
  cases result with
  | error e => exact absurd rfl (h e)
  | ok => exact ⟨rfl, rfl, hwritten rfl⟩

end Console

/-! ## The table of variables as it is shown -/

/-- `Bindings.table b` ends in a dash or a digit, and a newline. -/
lemma Bindings.table_eq_concat (b : Bindings) :
    ∃ u c, (Bindings.table b).flatten = u ++ [c, '\n'] ∧ 45 ≤ c.toNat ∧ c.toNat ≤ 57 := by
  rcases List.eq_nil_or_concat b.entries with h | ⟨entries, e, h⟩
  · refine ⟨"Var\tValue\n--------------".toList, '-', ?_, by decide, by decide⟩
    simp [table, Table.printed, h, Table.printedRow]
  · obtain ⟨u, d, hd⟩ :=
      (List.eq_nil_or_concat' (ofInt e.2.toInt)).resolve_left (ofInt_ne_nil e.2.toInt)
    obtain ⟨hlow, hhigh⟩ := bounds_of_mem_ofInt (i := e.2.toInt) (c := d) (by simp [hd])
    have htable : Bindings.table b =
        Bindings.table ⟨entries⟩ ++ [Table.printedRow e.1 (u ++ [d])] := by
      simp [table, Table.printed, h, hd]
    refine ⟨(Bindings.table ⟨entries⟩).flatten ++ e.1 ++ ['\t'] ++ u, d, ?_, hlow, hhigh⟩
    simp [htable, Table.printedRow]

/-- Each character from `-` to `9` is encoded as a single byte, which is no newline. -/
lemma Text.utf8EncodeChar_of_le {c : Char} (hlow : 45 ≤ c.toNat) (hhigh : c.toNat ≤ 57) :
    ∃ byte : UInt8, byte ≠ 10 ∧ String.utf8EncodeChar c = [byte] := by
  have hsize : c.utf8Size = 1 := by
    rw [Char.utf8Size_eq_one_iff, UInt32.le_iff_toNat_le]
    exact Nat.le_trans hhigh (by decide)
  refine ⟨_, fun hbyte => ?_, String.utf8EncodeChar_eq_singleton hsize⟩
  have hten : c.toNat % 256 = 10 := by
    have h := congrArg UInt8.toNat hbyte
    rwa [UInt32.toNat_toUInt8] at h
  omega

/-- A text that ends in two newlines does not end in `Bindings.table b`. -/
lemma Bindings.not_table_suffix (b : Bindings) (t : Text) :
    ¬ Text.bytes (Bindings.table b).flatten <:+ Text.bytes (t ++ ['\n', '\n']) := by
  obtain ⟨u, c, hu, hlow, hhigh⟩ := table_eq_concat b
  obtain ⟨byte, hne, hbyte⟩ := utf8EncodeChar_of_le hlow hhigh
  have hnewline : String.utf8EncodeChar '\n' = [10] := by decide
  have htable : Text.bytes [c, '\n'] = [byte, 10] := by simp [bytes, hbyte, hnewline]
  have htext : Text.bytes ['\n', '\n'] = [10, 10] := by simp [bytes, hnewline]
  rw [hu, bytes_append, bytes_append, htable, htext]
  rintro ⟨w, hw⟩
  rw [← List.append_assoc] at hw
  have hends := (List.append_inj' hw rfl).2
  exact hne (List.cons.inj hends).1

namespace CommandLine

/-! ## The command line -/

/-- What an exit tells of a run of a source in a fresh session: the exit code is zero if and only if
there is no fault, and a fault is reported behind what the log writer `w` shows of the run.  Without
listings nothing is put out.  With them the output ends in the table of variables if and only if
there is no fault, and it is empty if and only if the program cannot be loaded. -/
structure Exit.Tells (e : Exit) (source : Text) (debug : Bool) (w : LogWriter) : Prop where
  code : e.code = 0 ↔ ∃ p, (Session.run {} source).result = .ok p
  success : ∀ p, (Session.run {} source).result = .ok p →
    e.stderr = w.log (Session.run {} source).log
  failure : ∀ fault, (Session.run {} source).result = .error fault →
    e.code = 1 ∧
      e.stderr = w.log (Session.run {} source).log ++ Text.bytes (fault.message ++ ['\n'])
  quiet : debug = false → e.stdout = []
  table : debug = true →
    (Text.bytes (Bindings.table (Session.run {} source).state.bindings).flatten <:+ e.stdout ↔
      ∃ p, (Session.run {} source).result = .ok p)
  /-- Otherwise the output ends in no table at all, whatever its variables. -/
  no_table : debug = true →
    ∀ b, Text.bytes (Bindings.table b).flatten <:+ e.stdout →
      ∃ p, (Session.run {} source).result = .ok p
  nothing : debug = true →
    (e.stdout = [] ↔ ∃ fault, (Session.load {} source).result = .error fault)

section Source

variable {path source : Text} {debug : Bool}

/-- If `load` fails with `fault`, then `runSource` shows nothing, and has the message of `fault`. -/
lemma runSource_of_load_error {fault : Fault}
    (h : (Program.load source {}).result = .error fault) :
    runSource path debug source = ⟨[], (Session.run {} source).log, some fault.message⟩ := by
  simp [runSource, Session.run, Session.load, h]

/-- If `load` returns `p`, then `runSource` shows the preamble for `p` if it is asked for listings,
and the epilogue too unless the run has a fault. -/
lemma runSource_of_loaded {p : Program} (h : (Program.load source {}).result = .ok p) :
    runSource path debug source =
      match (Session.run {} source).result with
      | .error fault =>
        ⟨if debug then preamble path p (Session.run {} source).state.labels else [],
          (Session.run {} source).log, some fault.message⟩
      | .ok _ =>
        ⟨(if debug then preamble path p (Session.run {} source).state.labels else []) ++
            if debug then epilogue (Session.run {} source).state.bindings else [],
          (Session.run {} source).log, none⟩ := by
  simp only [runSource, Session.run, Session.load, Session.execute, h]
  cases (p.run {}).result <;> rfl

/-- `preamble path p labels` ends in two newlines. -/
lemma preamble_eq_concat (path : Text) (p : Program) (labels : Labels) :
    ∃ t, preamble path p labels = t ++ ['\n', '\n'] := by
  have hlast : "\nOutput from Program Execution:\n\n".toList =
      "\nOutput from Program Execution:".toList ++ ['\n', '\n'] := rfl
  unfold preamble
  rw [hlast, ← List.append_assoc]
  exact ⟨_, rfl⟩

/-- What ends in `epilogue b` ends in `Bindings.table b`. -/
lemma bytes_suffix_epilogue (t : Text) (b : Bindings) :
    Text.bytes (Bindings.table b).flatten <:+ Text.bytes (t ++ epilogue b) := by
  have h : t ++ epilogue b =
      t ++ "\nFinal Variable Map:\n\n".toList ++ (Bindings.table b).flatten :=
    (List.append_assoc _ _ _).symm
  rw [h, bytes_append]
  exact List.suffix_append _ _

/-- The exit for a run with a fault `Tells` of it, if `shown` is empty or ends in two newlines, is
empty without listings, and with them is empty exactly if the program cannot be loaded.

**Proof sketch.** By the fields of `Exit.Tells`.  Two newlines at the end of `shown` exclude
every table (`Bindings.not_table_suffix`), and there is no table in an empty output either. -/
lemma exit_tells_fault {fault : Fault} {shown : Text} {w : LogWriter}
    (hrun : (Session.run {} source).result = .error fault)
    (hshown : shown = [] ∨ ∃ t, shown = t ++ ['\n', '\n']) (hquiet : debug = false → shown = [])
    (hnothing : debug = true →
      (shown = [] ↔ ∃ fault, (Session.load {} source).result = .error fault)) :
    (Transcript.exit ⟨shown, (Session.run {} source).log, some fault.message⟩ w).Tells
      source debug w := by
  have hfault : ¬ ∃ p, (Session.run {} source).result = .ok p := by simp [hrun]
  have hnone : ∀ b, ¬ Text.bytes (Bindings.table b).flatten <:+ Text.bytes shown := by
    intro b hsuffix
    rcases hshown with rfl | ⟨t, rfl⟩
    · exact b.not_table_suffix [] (hsuffix.trans List.nil_suffix)
    · exact b.not_table_suffix t hsuffix
  exact {
    code := by simp [Transcript.exit, hfault]
    success := by simp [hrun]
    failure := by
      intro fault' hrun'
      obtain rfl : fault = fault' := by simpa [hrun] using hrun'
      exact ⟨rfl, rfl⟩
    quiet := fun h => bytes_eq_nil_iff.2 (hquiet h)
    table := fun _ => ⟨fun hsuffix => absurd hsuffix (hnone _), fun hok => absurd hok hfault⟩
    no_table := fun _ b hsuffix => absurd hsuffix (hnone b)
    nothing := fun h => bytes_eq_nil_iff.trans (hnothing h) }

/-- **Running a source from the command line.**  The exit of `runSource path debug source` `Tells`
what a run of `source` in a fresh session comes to.

**Proof sketch.** The program cannot be loaded, or it has a fault, or it has none
(`runSource_of_load_error`, `runSource_of_loaded`).  What is shown before a program runs ends in an
empty line, which no table does (`Bindings.not_table_suffix`). -/
lemma exit_tells (path source : Text) (debug : Bool) (w : LogWriter) :
    ((runSource path debug source).exit w).Tells source debug w := by
  cases hload : (Program.load source {}).result with
  | error fault =>
    obtain ⟨hrun, -⟩ := @Program.run_of_load_error {} source fault hload
    rw [runSource_of_load_error hload]
    exact exit_tells_fault hrun (.inl rfl) (fun _ => rfl) (by simp [Session.load, hload])
  | ok p =>
    obtain ⟨t, ht⟩ := preamble_eq_concat path p (Session.run {} source).state.labels
    have hloaded : ¬ ∃ fault, (Session.load {} source).result = .error fault := by
      simp [Session.load, hload]
    rw [runSource_of_loaded hload]
    cases hrun : (Session.run {} source).result with
    | error fault =>
      refine exit_tells_fault hrun ?_ (fun h => by simp [h]) (fun h => by simp [h, ht, hloaded])
      cases debug with
      | false => exact .inl rfl
      | true => exact .inr ⟨t, ht⟩
    | ok q =>
      have hok : ∃ p, (Session.run {} source).result = .ok p := ⟨q, hrun⟩
      cases debug with
      | false =>
        exact {
          code := by simp [Transcript.exit, hok]
          success := fun _ _ => rfl
          failure := by simp [hrun]
          quiet := fun _ => rfl
          table := by simp
          no_table := by simp
          nothing := by simp }
      | true =>
        exact {
          code := by simp [Transcript.exit, hok]
          success := fun _ _ => rfl
          failure := by simp [hrun]
          quiet := by simp
          table := fun _ => ⟨fun _ => hok, fun _ => bytes_suffix_epilogue _ _⟩
          no_table := fun _ _ _ => hok
          nothing := fun _ => by
            refine bytes_eq_nil_iff.trans ⟨fun hnil => ?_, fun hfault => absurd hfault hloaded⟩
            rw [if_pos rfl, ht] at hnil
            simp at hnil }

end Source

end CommandLine

/-! ## Lines cut apart and put together -/

/-- `Returned t t'` says that `t` is `t'`, or `t'` with a carriage return behind it. -/
def Text.Returned (t t' : Text) : Prop := t = t' ∨ t = t' ++ ['\r']

/-- `splitLabel` gives the same for texts that are `Returned`. -/
lemma Text.Returned.splitLabel {raw raw' : Text} (h : Returned raw raw') :
    Line.splitLabel raw' = Line.splitLabel raw := by
  rcases h with rfl | rfl
  · rfl
  · exact (Line.splitLabel_append_return raw').symm

/-- `upper t` is `upper (dropReturn t)`, or has a carriage return behind it. -/
lemma Text.returned_upper_dropReturn (t : Text) : Returned (upper t) (upper (dropReturn t)) := by
  rcases eq_dropReturn_or t with h | h
  · exact .inl (congrArg upper h)
  · refine .inr ?_
    have hreturn : upper ['\r'] = ['\r'] := by decide +kernel
    rw [← hreturn, upper, upper, upper, ← List.flatMap_append, ← h]

/-- Lines `texts` without newlines, put together by `joinLines` and cut again, run as lines `texts'`
that are `Returned` from `texts`.

**Proof sketch.** All lines but the last lose the carriage return at their end.  The last one stays
as it is, but if it is empty then it gets lost; an empty line at the end does nothing
(`runLines_concat_inert`). -/
lemma Session.runLines_joinLines (s : Session) {texts : List Text} (h : ∀ t ∈ texts, '\n' ∉ t) :
    ∃ texts', List.Forall₂ (fun t t' => Returned (upper t) (upper t')) texts texts' ∧
      s.runLines (lines (joinLines texts)) = s.runLines texts' := by
  rcases List.eq_nil_or_concat texts with rfl | ⟨before, last, rfl⟩
  · exact ⟨[], .nil, rfl⟩
  · rw [List.concat_eq_append] at h ⊢
    rw [List.forall_mem_append, List.forall_mem_singleton] at h
    refine ⟨before.map dropReturn ++ [last], ?_, ?_⟩
    · refine List.rel_append ?_ (.cons (.inl rfl) .nil)
      rw [List.forall₂_map_right_iff]
      exact List.forall₂_same.2 fun t _ => returned_upper_dropReturn t
    · rw [lines_joinLines_concat h.1 h.2]
      split
      · next hnil =>
        rw [hnil, List.append_nil]
        exact (runLines_concat_inert (by decide) (by decide) s _).symm
      · rfl

/-- **A source that is cut into lines and put together again.**  `s.run (joinLines (lines source))`
leaves the session that `s.run source` leaves, and its fault is the same but for a carriage return
at the end of its text.

**Proof sketch.** The lines of the new source say the same as those of the old one, except that an
empty last line is lost, and this line does nothing (`Session.runLines_joinLines`).  So they run
alike (`Session.runLines_alike`). -/
lemma Session.run_joinLines_lines (s : Session) (source : Text) :
    (s.run (joinLines (lines source))).state = (s.run source).state ∧
      Option.Rel (Fault.Alike Returned 0) (Program.faultOf (s.run source).result)
        (Program.faultOf (s.run (joinLines (lines source))).result) := by
  obtain ⟨hstate, hfault⟩ := s.run_eq_runLines source
  obtain ⟨hstate', hfault'⟩ := s.run_eq_runLines (joinLines (lines source))
  obtain ⟨texts', halike, heq⟩ :=
    s.runLines_joinLines fun t (ht : t ∈ lines source) => newline_not_mem_of_mem_lines ht
  rw [hstate, hfault, hstate', hfault', heq]
  exact runLines_alike (fun _ _ h => h.splitLabel) halike s

/-! ## The console -/

/-- What a reply of the console tells of a run of a source in a fresh session, given the output
before: the session that it leaves is the last one.  Without a fault the table of variables is
printed.  A fault is the same but for a carriage return at the end of its text, and nothing is
printed. -/
structure Reply.Tells (r : Reply) (source : Text) (before : Sink) : Prop where
  session : r.console.last = some (Session.run {} source).state
  finished : ∀ p, (Session.run {} source).result = .ok p →
    r.result = .ok .proceed ∧ r.sink.written =
      before.written ++ (Bindings.table (Session.run {} source).state.bindings).flatMap Text.bytes
  failed : ∀ fault, (Session.run {} source).result = .error fault →
    r.sink = before ∧ ∃ fault', r.result = .error (.program fault') ∧
      fault'.line = fault.line ∧ fault'.cause = fault.cause ∧
      (fault.text = fault'.text ∨ fault.text = fault'.text ++ ['\r'])

/-- **Running the lines of a source at the console.**  If the buffer of `c` is `lines source`, and
the output does not fail, then the reply of `c.run` `Tells` what a run of `source` in a fresh
session comes to.

**Proof sketch.** The console runs `joinLines (lines source)`.  By `Session.run_joinLines_lines`
this leaves the session that `source` leaves, and both runs succeed, or their faults are alike up to
a carriage return at the end of the text.  If they succeed, the table is printed, and all of it is
written since printing does not fail (`print_of_not_io`); otherwise nothing is printed. -/
lemma Console.run_tells {c : Console} {source : Text} {out : Sink} (hc : c.buffer = lines source)
    (h : ∀ e, (c.run out).result ≠ .error (.io e)) : (c.run out).Tells source out := by
  obtain ⟨hstate, hfault⟩ := Session.run_joinLines_lines {} source
  rw [← hc] at hstate hfault
  simp only [run, hstate] at h ⊢
  generalize hfound : Program.faultOf (Session.run {} source).result = found at hfault
  generalize hrun : (Session.run {} (joinLines c.buffer)).result = result at h hfault ⊢
  cases result with
  | ok q =>
    cases hfault
    obtain ⟨p, hp⟩ := Program.faultOf_eq_none_iff.1 hfound
    obtain ⟨hconsole, hresult, hwritten⟩ := print_of_not_io h
    exact {
      session := by rw [hconsole]
      finished := fun _ _ => ⟨hresult, hwritten⟩
      failed := by simp [hp] }
  | error fault' =>
    cases hfault with
    | @some fault _ halike =>
      have hfault := Program.eq_error_of_faultOf hfound
      exact {
        session := rfl
        finished := by simp [hfault]
        failed := by
          intro fault'' hfault''
          obtain rfl : fault = fault'' := by simpa [hfault] using hfault''
          exact ⟨rfl, fault', rfl, halike.line, halike.cause, halike.text⟩ }

namespace CommandLine

/-- **The front ends agree.**  Let reading a file, whatever its path, give a source in UTF-8.  Run
from the command line, with listings or without and whatever the log shows, it comes to an exit that
tells what a run of the source in a fresh session comes to.  Loaded and run at the console, by
commands given or typed and with an output that does not fail, it gets a reply that tells the same,
up to a carriage return at the end of a fault's text.

**Proof sketch.** The command line reads the source back from its bytes (`IoError.text_bytes`), and
the rest is `exit_tells`.  The console has the lines of the source in its buffer after loading, and
the rest is `Console.run_tells`. -/
theorem front_ends_agree (source : Text) :
    (∀ (l : Launch) (o : Options) (path : Text), parse l.arguments = .ok (.start o) →
      o.source = some path → l.read path = .ok (Text.bytes source) →
        ∃ e, run l = .ok e ∧ e.Tells source o.debug (l.log o.verbosity)) ∧
    ∀ (load run : Console.Step) (path : Text) (c : Console) (out : Sink),
      load.command? = some (.load path) → load.content path = .ok source →
      run.command? = some .run → (∀ e, (load.reply c out).result ≠ .error (.io e)) →
      (∀ e, (run.reply (load.reply c out).console (load.reply c out).sink).result ≠
        .error (.io e)) →
        (run.reply (load.reply c out).console (load.reply c out).sink).Tells source
          (load.reply c out).sink := by
  refine ⟨fun l o path hparse hsource hfile => ?_, fun load run path c out hload hcontent hrun
    hprinted hshown => ?_⟩
  · refine ⟨_, ?_, exit_tells path source o.debug (l.log o.verbosity)⟩
    have hcontent : IoError.text (l.read path) = .ok source := by
      rw [hfile, IoError.text_bytes]
    simp [CommandLine.run, hparse, respond, Request.verbosity, hsource, hcontent, runFile]
  · have hreply : load.reply c out = c.load path (.ok source) out := by
      rw [Console.Step.reply_of_command? hload, Console.execute, hcontent]
    rw [hreply, Console.load] at hprinted
    obtain ⟨hconsole, -, -⟩ := Console.print_of_not_io hprinted
    rw [Console.Step.reply_of_command? hrun, Console.execute] at hshown ⊢
    refine Console.run_tells ?_ hshown
    rw [hreply, Console.load, hconsole]

/-- A source with two carriage returns at the end of each line, and an empty last line. -/
def returning : Text := "let a = 1\r\r\nlet a = 2\r\r\n\n".toList

/-- This source is run from a file in another directory, with listings.  The log shows the message
of each event behind its place. -/
def returningLaunch : Launch where
  arguments := ["--debug".toList, "../p".toList]
  log _ := ⟨fun n e => Text.bytes (ofNat n ++ [' '] ++ e.message ++ ['\n'])⟩
  read path := if path = "../p".toList then .ok (Text.bytes returning) else .error .notFound

/-- A line is typed at the console while the file holds this source. -/
def returningStep (line : Text) : Console.Step := .typed (fun _ => .ok returning) line

/-- The second line of this source has a fault at both front ends. -/
theorem front_ends_agree_returning :
    (∃ e, run returningLaunch = .ok e ∧ e.code = 1 ∧
      Text.bytes ("Error on line 2\n  LET A = 2\r\n  ".toList ++
        "The variable A is already defined.\n".toList) <:+ e.stderr) ∧
    ∃ fault, ((returningStep ":run".toList).reply
        ((returningStep ":load p".toList).reply {} {}).console
        ((returningStep ":load p".toList).reply {} {}).sink).result = .error (.program fault) ∧
      fault.line = 2 ∧ fault.cause = .duplicateDeclaration "A".toList := by
  have hfault : Program.faultOf (Session.run {} returning).result =
      some ⟨2, "LET A = 2\r".toList, .duplicateDeclaration "A".toList⟩ := by decide +kernel
  have hload : ((returningStep ":load p".toList).reply {} {}).result = .ok .proceed := by
    decide +kernel
  have hrun : ((returningStep ":run".toList).reply
      ((returningStep ":load p".toList).reply {} {}).console
      ((returningStep ":load p".toList).reply {} {}).sink).result =
        .error (.program ⟨2, "LET A = 2".toList, .duplicateDeclaration "A".toList⟩) := by
    decide +kernel
  obtain ⟨hfile, hconsole⟩ := front_ends_agree returning
  obtain ⟨e, he, htells⟩ := hfile returningLaunch ⟨true, 0, some "../p".toList⟩ "../p".toList
    (by decide +kernel) rfl (by decide +kernel)
  obtain ⟨hcode, hstderr⟩ := htells.failure _ (Program.eq_error_of_faultOf hfault)
  have hreply := hconsole (returningStep ":load p".toList) (returningStep ":run".toList)
    "p".toList {} {} (by decide +kernel) rfl (by decide +kernel)
    (fun e => by rw [hload]; exact nofun) (fun e => by rw [hrun]; exact nofun)
  obtain ⟨-, fault, hresult, hline, hcause, -⟩ :=
    hreply.failed _ (Program.eq_error_of_faultOf hfault)
  exact ⟨⟨e, he, hcode, hstderr ▸ List.suffix_append _ _⟩, fault, hresult, hline, hcause⟩

end CommandLine

end Primer
