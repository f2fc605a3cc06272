import RegistrySchema.CommandLine.Run
import RegistrySchema.Proofs.Buffering
import RegistrySchema.Proofs.EntityWalk
import RegistrySchema.Proofs.EnumUnification
import RegistrySchema.Proofs.FileSystem.Replace
import RegistrySchema.Proofs.Sink

/-!
# Storing a report, all or nothing

An extraction whose report goes to a file can fail at six points. If it fails at one of them, the
file system is as before and the exit code is 1; otherwise the report is at the place where the
target leads, as a whole, and nothing else has changed (`run_extract_cases`). A strict run that
reports a conflict of enum types also ends with 1, but only after the report was stored. On its way
the report may go through a buffer of any size, which makes no difference
(`Extraction.replace_store`).
-/

namespace RegistrySchema

/-! ## Findings of an extraction -/

/-- An extraction finds conflicts of enum types and kinds without an object. -/
theorem Extraction.kind_of_mem_diagnostics {snapshot : Snapshot} {settings : Settings}
    {diagnostic : Diagnostic}
    (h : diagnostic ∈ (ofSnapshot snapshot settings).diagnostics) :
    diagnostic.kind = .enumConflict ∨ diagnostic.kind = .instantiationEmpty := by
  rcases List.mem_append.1 h with hblock | hentity
  · rw [BlockWalk.diagnostics_run (List.prefix_refl _)] at hblock
    obtain ⟨sighting, -, hcomplaint⟩ := List.mem_filterMap.1 hblock
    obtain ⟨conflict, -, rfl⟩ := Option.map_eq_some_iff.1 hcomplaint
    exact Or.inl rfl
  · rw [EntityWalk.diagnostics_run] at hentity
    obtain ⟨found, -, rfl⟩ := List.mem_map.1 hentity
    exact Or.inr rfl

/-- Only conflicts are errors. -/
theorem Extraction.hasErrors_diagnostics_iff {snapshot : Snapshot} {settings : Settings} :
    hasErrors (ofSnapshot snapshot settings).diagnostics = true ↔
      ∃ diagnostic ∈ (ofSnapshot snapshot settings).diagnostics,
        diagnostic.kind = .enumConflict := by
  rw [hasErrors, List.any_eq_true]
  -- A finding of the other kind is a warning.
  apply exists_congr
  intro diagnostic
  apply and_congr_right
  intro hmem
  rcases kind_of_mem_diagnostics hmem with hkind | hkind
  · simp [Diagnostic.isError, Diagnostic.severity, hkind, DiagnosticKind.severity]
  · simp [Diagnostic.isError, Diagnostic.severity, hkind, DiagnosticKind.severity]

/-- Writing a report fails if the sink does not take all of it, or does not pass it on. -/
theorem Extraction.exists_write_eq_error_iff {extraction : Extraction} {sink : Sink} :
    (∃ err, (extraction.write sink).result = .error err) ↔
      (∃ err, (sink.writeAll extraction.reportBytes).result = .error err) ∨
        ∃ err, sink.flushFailure = some err := by
  have hwrite := sink.result_writeAll_andThen_flush extraction.reportBytes
  rw [exists_eq_error_iff, exists_eq_error_iff, ← Option.ne_none_iff_exists']
  simp only [Unique.exists_iff, ne_eq, ← not_and_or]
  exact not_congr hwrite

namespace CommandLine

/-- What an extraction reads. -/
def readSource (source : String) (faults : Faults) (fs : FileSystem) : Except IoError String :=
  IoError.raise faults.read >>= fun _ => fs.readText (.ofText source)

/-- The points at which an extraction to a file can fail. -/
inductive Failure (source target : String) (chosen : Settings) (faults : Faults)
    (fs : FileSystem) : Prop
  /-- The snapshot cannot be read. -/
  | unreadable {err : IoError} : readSource source faults fs = .error err →
      Failure source target chosen faults fs
  /-- The text is no snapshot, or declares a kind twice. -/
  | refused {text : String} {err : Snapshot.LoadError} : readSource source faults fs = .ok text →
      Snapshot.ofText text = .error err → Failure source target chosen faults fs
  /-- There cannot be a temporary file beside the target. -/
  | notCreated {err : IoError} : (IoError.raise faults.create >>= fun _ =>
      fs.createTemporary (Path.ofText target).parent) = .error err →
      Failure source target chosen faults fs
  /-- Not all bytes of the report are taken. -/
  | cutShort {text : String} {snapshot : Snapshot} {err : IoError} :
      readSource source faults fs = .ok text → Snapshot.ofText text = .ok snapshot →
      (faults.device.writeAll (Extraction.ofSnapshot snapshot chosen).reportBytes).result =
        .error err → Failure source target chosen faults fs
  /-- What was taken is not passed on. -/
  | notFlushed {err : IoError} : faults.device.flushFailure = some err →
      Failure source target chosen faults fs
  /-- The temporary file cannot be moved to where the target leads. -/
  | notMoved {err : IoError} : (IoError.raise faults.move >>= fun _ =>
      fs.destination (.ofText target)) = .error err → Failure source target chosen faults fs

/-- The run finds a conflict of enum types. -/
def FindsConflict (source : String) (chosen : Settings) (faults : Faults) (fs : FileSystem) :
    Prop :=
  ∃ text snapshot, readSource source faults fs = .ok text ∧ Snapshot.ofText text = .ok snapshot ∧
    ∃ diagnostic ∈ (Extraction.ofSnapshot snapshot chosen).diagnostics,
      diagnostic.kind = .enumConflict

section Run

variable {source text : String} (target : String) (space player : Option String)
  (manner : Manner) (circumstances : Circumstances) {faults : Faults} {fs : FileSystem}
  {snapshot : Snapshot}

theorem input_extract : (Invocation.extract source (some target) space player manner).input =
    source := rfl

/-- Without a snapshot a run ends with a failure and touches no file. -/
theorem run_extract_of_not_loaded (h : (∃ err, readSource source faults fs = .error err) ∨
    ∃ text err, readSource source faults fs = .ok text ∧ Snapshot.ofText text = .error err) :
    ∃ outcome, (Invocation.extract source (some target) space player manner).run circumstances
      faults fs = (outcome, fs) ∧ outcome.exitCode = 1 := by
  unfold Invocation.run
  rw [input_extract]
  rcases h with ⟨err, hread⟩ | ⟨text, err, hread, hload⟩
  · rw [readSource] at hread
    rw [hread]
    exact ⟨_, rfl, rfl⟩
  · rw [readSource] at hread
    rw [hread]
    unfold Invocation.proceed
    dsimp only
    rw [hload]
    exact ⟨_, rfl, rfl⟩

/-- With a snapshot, what is left to a run is to replace the target by the report. -/
theorem run_extract_of_loaded (hread : readSource source faults fs = .ok text)
    (hload : Snapshot.ofText text = .ok snapshot) :
    let extraction := Extraction.ofSnapshot snapshot (settings space player)
    let replaced := fs.replace faults (.ofText target) extraction.write
    (Invocation.extract source (some target) space player manner).run circumstances faults fs =
      (stored manner circumstances extraction replaced.1, replaced.2) := by
  rw [readSource] at hread
  unfold Invocation.run
  rw [input_extract, hread]
  unfold Invocation.proceed
  dsimp only
  rw [hload]
  rfl

/-- The exit code after the report was stored. -/
theorem exitCode_stored_ok {chosen : Settings} :
    (stored manner circumstances (Extraction.ofSnapshot snapshot chosen) (.ok ())).exitCode = 1 ↔
      manner.strict = true ∧ ∃ diagnostic ∈ (Extraction.ofSnapshot snapshot chosen).diagnostics,
        diagnostic.kind = .enumConflict := by
  show (if manner.strict && hasErrors _ then 1 else 0) = 1 ↔ _
  rw [← Extraction.hasErrors_diagnostics_iff]
  simp

/-- With a snapshot, a run can fail only in what the replacement of the target is made of. -/
theorem failure_iff_of_loaded (hread : readSource source faults fs = .ok text)
    (hload : Snapshot.ofText text = .ok snapshot) {chosen : Settings} :
    Failure source target chosen faults fs ↔
      (∃ err, (IoError.raise faults.create >>= fun _ =>
        fs.createTemporary (Path.ofText target).parent) = .error err) ∨
      (∃ err, ((Extraction.ofSnapshot snapshot chosen).write faults.device).result =
        .error err) ∨
      ∃ err, (IoError.raise faults.move >>= fun _ => fs.destination (.ofText target)) =
        .error err := by
  rw [Extraction.exists_write_eq_error_iff]
  constructor
  · -- What was read is settled, so the first two points are excluded.
    rintro (hnone | ⟨htext, hnone⟩ | hcreate | ⟨htext, hother, hwrite⟩ | hflush | hmove)
    · cases hread.symm.trans hnone
    · cases hread.symm.trans htext
      cases hload.symm.trans hnone
    · exact Or.inl ⟨_, hcreate⟩
    · cases hread.symm.trans htext
      cases hload.symm.trans hother
      exact Or.inr (Or.inl (Or.inl ⟨_, hwrite⟩))
    · exact Or.inr (Or.inl (Or.inr ⟨_, hflush⟩))
    · exact Or.inr (Or.inr ⟨_, hmove⟩)
  · rintro (⟨err, hcreate⟩ | (⟨err, hwrite⟩ | ⟨err, hflush⟩) | ⟨err, hmove⟩)
    · exact .notCreated hcreate
    · exact .cutShort hread hload hwrite
    · exact .notFlushed hflush
    · exact .notMoved hmove

/-- Which conflicts a run finds is settled by the snapshot that it reads. -/
theorem findsConflict_iff_of_loaded (hread : readSource source faults fs = .ok text)
    (hload : Snapshot.ofText text = .ok snapshot) {chosen : Settings} :
    FindsConflict source chosen faults fs ↔
      ∃ diagnostic ∈ (Extraction.ofSnapshot snapshot chosen).diagnostics,
        diagnostic.kind = .enumConflict := by
  constructor
  · rintro ⟨other, found, hother, hfound, hconflict⟩
    cases hread.symm.trans hother
    cases hload.symm.trans hfound
    exact hconflict
  · intro hconflict
    exact ⟨text, snapshot, hread, hload, hconflict⟩

/-- With a snapshot, a run fails and touches no file, or puts the report where the target leads. -/
theorem run_extract_of_loaded_cases (hread : readSource source faults fs = .ok text)
    (hload : Snapshot.ofText text = .ok snapshot) (hdevice : faults.device.received = []) :
    let chosen := settings space player
    let extraction := Extraction.ofSnapshot snapshot chosen
    let ran := (Invocation.extract source (some target) space player manner).run circumstances
      faults fs
    (Failure source target chosen faults fs ∧
        ∃ outcome, ran = (outcome, fs) ∧ outcome.exitCode = 1) ∨
      (¬ Failure source target chosen faults fs ∧
        ∃ place, fs.destination (.ofText target) = .ok place ∧
          ran = (stored manner circumstances extraction (.ok ()),
            fs.put place (.file extraction.reportBytes))) := by
  intro chosen extraction ran
  have hran : ran = _ :=
    run_extract_of_loaded target space player manner circumstances hread hload
  rw [failure_iff_of_loaded target hread hload, hran]
  rcases fs.replace_cases faults (.ofText target) extraction.write with
    ⟨place, hmade, hwrite, hmove, hreplaced⟩ | ⟨hfails, err, hreplaced⟩
  · -- Each part of the replacement succeeds, so there is no failure.
    refine Or.inr ⟨?_, place, ?_, ?_⟩
    · rintro (hfails | hfails | hfails)
      · exact exists_eq_error_iff.1 hfails hmade
      · exact exists_eq_error_iff.1 hfails ⟨(), hwrite⟩
      · exact exists_eq_error_iff.1 hfails ⟨place, hmove⟩
    · obtain ⟨-, -, hplace⟩ := bind_eq_ok_iff.1 hmove
      exact hplace
    · -- The device had nothing before, so the new file is the report.
      have hreceived : (extraction.write faults.device).sink.received = extraction.reportBytes := by
        rw [Extraction.write, Sink.received_writeAll_andThen_flush hwrite, hdevice, List.nil_append]
      rw [hreplaced, hreceived]
  · refine Or.inl ⟨hfails, stored manner circumstances extraction (.error err), ?_, rfl⟩
    rw [hreplaced]

end Run

/-- A run fails and touches no file, or it puts the report where the target leads. -/
theorem run_extract_outcome (source target : String) (space player : Option String)
    (manner : Manner) (circumstances : Circumstances) (faults : Faults) (fs : FileSystem)
    (hdevice : faults.device.received = []) :
    let chosen := settings space player
    let ran := (Invocation.extract source (some target) space player manner).run circumstances
      faults fs
    (Failure source target chosen faults fs ∧
        ∃ outcome, ran = (outcome, fs) ∧ outcome.exitCode = 1) ∨
      (¬ Failure source target chosen faults fs ∧ ∃ text snapshot place,
        readSource source faults fs = .ok text ∧ Snapshot.ofText text = .ok snapshot ∧
        fs.destination (.ofText target) = .ok place ∧
        ran = (stored manner circumstances (Extraction.ofSnapshot snapshot chosen) (.ok ()),
          fs.put place (.file (Extraction.ofSnapshot snapshot chosen).reportBytes))) := by
  intro chosen ran
  cases hread : readSource source faults fs with
  | error err =>
    have hran := run_extract_of_not_loaded target space player manner circumstances
      (Or.inl ⟨err, hread⟩)
    exact Or.inl ⟨.unreadable hread, hran⟩
  | ok text =>
    cases hload : Snapshot.ofText text with
    | error err =>
      have hran := run_extract_of_not_loaded target space player manner circumstances
        (Or.inr ⟨text, err, hread, hload⟩)
      exact Or.inl ⟨.refused hread hload, hran⟩
    | ok snapshot =>
      rcases run_extract_of_loaded_cases target space player manner circumstances hread hload
        hdevice with hfails | ⟨hnone, place, hplace, hran⟩
      · exact Or.inl hfails
      · exact Or.inr ⟨hnone, text, snapshot, place, rfl, hload, hplace, hran⟩

/-- How an extraction to a file can end. If it fails at one of the six points, no file has changed
and the exit code is 1. If it fails at none, the report stands where the target leads, byte by byte,
and there is no other change. The exit code is 1 exactly after a failure, or if the command is
strict and a conflict of enum types is found, although the report is stored then. A replacement
that takes a report through a buffer of any size ends in the same way. -/
theorem run_extract_cases (source target : String) (space player : Option String)
    (manner : Manner) (circumstances : Circumstances) (faults : Faults) (fs : FileSystem)
    (hdevice : faults.device.received = []) :
    let chosen := settings space player
    let ran := (Invocation.extract source (some target) space player manner).run circumstances
      faults fs
    ((Failure source target chosen faults fs ∧ ran.2 = fs ∧ ran.1.exitCode = 1) ∨
      (¬ Failure source target chosen faults fs ∧ ∃ text snapshot place,
        readSource source faults fs = .ok text ∧ Snapshot.ofText text = .ok snapshot ∧
        fs.destination (.ofText target) = .ok place ∧
        ran.2.lookup (.ofText target) = .ok
          (.file (Text.encode (Extraction.ofSnapshot snapshot chosen).reportText.toList)) ∧
        ∀ elsewhere, elsewhere ≠ place → ran.2.node? elsewhere = fs.node? elsewhere)) ∧
    (ran.1.exitCode = 1 ↔ Failure source target chosen faults fs ∨
      manner.strict = true ∧ FindsConflict source chosen faults fs) ∧
    ∀ (extraction : Extraction) (size : Nat),
      fs.replace faults (.ofText target) (Buffer.store size extraction.reportBytes) =
        fs.replace faults (.ofText target) extraction.write := by
  intro chosen ran
  have hbuffer := fun (extraction : Extraction) (size : Nat) =>
    extraction.replace_store size fs faults (.ofText target)
  rcases run_extract_outcome source target space player manner circumstances faults fs hdevice with
    ⟨hfailure, outcome, hran, hcode⟩ |
      ⟨hnone, text, snapshot, place, hread, hload, hplace, hran⟩
  · have hran : ran = (outcome, fs) := hran
    rw [hran]
    exact ⟨Or.inl ⟨hfailure, rfl, hcode⟩, iff_of_true hcode (Or.inl hfailure), hbuffer⟩
  · have hran : ran = _ := hran
    rw [hran]
    refine ⟨Or.inr ⟨hnone, text, snapshot, place, hread, hload, hplace, ?_, ?_⟩, ?_, hbuffer⟩
    · rw [← Extraction.reportBytes_eq]
      exact FileSystem.lookup_put hplace _
    · intro elsewhere hne
      rw [FileSystem.node?_put fs (FileSystem.ne_nil_of_destination hplace), if_neg hne]
    · -- The report is stored by now, and only a conflict can still make the run fail.
      rw [exitCode_stored_ok, or_iff_right hnone, findsConflict_iff_of_loaded hread hload]

/-- A snapshot of two block kinds that disagree on an enum type, and an old report. -/
def shelf : FileSystem where
  nodes :=
    ⟨[(["snapshot"], .file (Text.encode ("[[[\"a\",[[\"p\",[\"enum\",0,0,null,\"C\",[\"x\"]]]]]," ++
        "[\"b\",[[\"p\",[\"enum\",0,0,null,\"C\",[\"y\"]]]]]]]").toList)),
      (["report"], .file (Text.encode "old".toList))], by decide⟩
  current := []

/-- A strict extraction that stores a new report. -/
def shelfRun (faults : Faults) : Outcome × FileSystem :=
  (Invocation.extract "snapshot" (some "report") none none ⟨true, .never, 0⟩).run {} faults shelf

/-- If the new report cannot be moved, the old one stays. Otherwise it is replaced, although the
strict run fails because of the conflict. -/
theorem run_extract_cases_shelf :
    ((shelfRun { move := some .busy }).2 = shelf ∧
        (shelfRun { move := some .busy }).1.exitCode = 1) ∧
      (∃ report, (shelfRun {}).2.lookup (.ofText "report") = .ok (.file (Text.encode report)) ∧
        report ≠ "old".toList) ∧
      (shelfRun {}).2.node? ["snapshot"] = shelf.node? ["snapshot"] ∧
      (shelfRun {}).1.exitCode = 1 := by
  have hold : (shelfRun {}).2.lookup (.ofText "report") ≠
      .ok (.file (Text.encode "old".toList)) := by decide +kernel
  have hshelf : shelf.lookup (.ofText "report") = .ok (.file (Text.encode "old".toList)) := by
    decide +kernel
  have hdestination : shelf.destination (.ofText "report") = .ok ["report"] := by decide +kernel
  have hcode : (shelfRun {}).1.exitCode = 1 := by decide +kernel
  have hfault : Failure "snapshot" "report" (settings none none) { move := some .busy } shelf :=
    .notMoved rfl
  unfold shelfRun at hold hcode ⊢
  obtain ⟨hmove, -⟩ := run_extract_cases "snapshot" "report" none none ⟨true, .never, 0⟩ {}
    { move := some .busy } shelf rfl
  obtain ⟨hnone, -⟩ := run_extract_cases "snapshot" "report" none none ⟨true, .never, 0⟩ {} {}
    shelf rfl
  refine ⟨?_, ?_⟩
  · rcases hmove with ⟨-, hsame, hfails⟩ | ⟨hno, -⟩
    · exact ⟨hsame, hfails⟩
    · exact absurd hfault hno
  · rcases hnone with ⟨-, hsame, -⟩ | ⟨-, text, snapshot, place, -, -, hplace, hlookup, hothers⟩
    · rw [hsame] at hold
      exact absurd hshelf hold
    · cases hplace.symm.trans hdestination
      refine ⟨⟨_, hlookup, fun hsame => hold ?_⟩, hothers _ (by decide), hcode⟩
      rw [hlookup, hsame]

end CommandLine

end RegistrySchema
