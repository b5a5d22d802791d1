import DocMarkup.Log.Output
import DocMarkup.Proofs.Config.Opening

/-!
Setting the log up from settings. Settings that fail their checks change nothing, and settings that
can be met give the level and the sinks that they ask for, whatever the level and the sinks were
before. In between are files that pass their check and cannot be opened: there the log is left with
the new level and the console alone. Main statement: these are all cases, and which of them is met
(`LogState.configureFrom_outcome`).
-/

namespace DocMarkup

namespace LogState

/-! ## Writing records -/

theorem setup_write (s : LogState) (r : LogRecord) (sink : Sink) :
    (s.write r sink).level = s.level ∧ (s.write r sink).sinks = s.sinks := by
  cases sink with
  | console => exact ⟨rfl, rfl⟩
  | file place => exact ⟨rfl, rfl⟩
  | other kind => exact ⟨rfl, rfl⟩

theorem setup_foldl_write (r : LogRecord) (sinks : List Sink) (s : LogState) :
    (sinks.foldl (fun s sink => s.write r sink) s).level = s.level ∧
      (sinks.foldl (fun s sink => s.write r sink) s).sinks = s.sinks := by
  induction sinks generalizing s with
  | nil => exact ⟨rfl, rfl⟩
  | cons sink sinks ih =>
      obtain ⟨hlevel, hsinks⟩ := ih (s.write r sink)
      obtain ⟨hlevel', hsinks'⟩ := s.setup_write r sink
      exact ⟨hlevel.trans hlevel', hsinks.trans hsinks'⟩

/-- A record that is written changes neither the level nor the sinks. -/
theorem setup_emit (s : LogState) (r : LogRecord) :
    (s.emit r).level = s.level ∧ (s.emit r).sinks = s.sinks := by
  unfold emit
  split
  · exact setup_foldl_write r s.sinks s
  · exact ⟨rfl, rfl⟩

end LogState

/-! ## Checks -/

theorem Level.exists_of_mem {name : String} (h : name ∈ Check.levelNames) :
    ∃ level, Level.ofName? name = some level ∧ level.name = name := by
  simp only [Check.levelNames, List.mem_cons, List.not_mem_nil, or_false] at h
  rcases h with rfl | rfl | rfl | rfl | rfl
  · exact ⟨.debug, rfl, rfl⟩
  · exact ⟨.info, rfl, rfl⟩
  · exact ⟨.warning, rfl, rfl⟩
  · exact ⟨.error, rfl, rfl⟩
  · exact ⟨.critical, rfl, rfl⟩

theorem Check.logLevel_ok_iff {level : String} :
    (Check.logLevel level).ok = true ↔ Text.upper level ∈ levelNames := by
  unfold logLevel
  split
  · simp_all
  · simp_all

theorem Check.logFile_ok_iff {files : FileTree} {path : String} :
    (Check.logFile files path).ok = true ↔ files.hasPath (Path.ofText path).parent = true := by
  simp only [logFile]
  split
  · simp_all
  · simp_all

/-- The path of the log file; an empty one names no file. -/
def Settings.logPath? (settings : Settings) : Option String := settings.logFile.filter (!·.isEmpty)

/-- The sinks that the settings ask for. -/
def Settings.logSinks (settings : Settings) : List Sink :=
  .console :: (settings.logPath?.map fun path => .file (Place.named (Path.ofText path))).toList

namespace LogState

variable {settings : Settings}

theorem passes_of_problems {files : FileTree} (h : problems files settings = []) :
    Text.upper settings.logLevel ∈ Check.levelNames ∧
      ∀ path, settings.logPath? = some path → files.hasPath (Path.ofText path).parent = true := by
  have hok : ∀ v ∈ problems.verdicts files settings, v.2.ok = true := by simpa [problems] using h
  refine ⟨?_, fun path hpath => ?_⟩
  · exact Check.logLevel_ok_iff.1
      (hok ("LOG_LEVEL", Check.logLevel settings.logLevel) List.mem_cons_self)
  · refine Check.logFile_ok_iff.1
      (hok ("LOG_FILE", Check.logFile files path) (List.mem_cons_of_mem _ ?_))
    rw [Settings.logPath?] at hpath
    simp [hpath]

/-! ## The main statement -/

variable (s : LogState) {level : Level}

/-- The level is set and the sinks are dropped before the log file is opened. -/
theorem configure_of_unopened {path : String} {error : OpenError}
    (hlevel : Level.ofName? (Text.upper settings.logLevel) = some level)
    (hpath : settings.logPath? = some path) (hopen : s.files.openForAppend path = .error error) :
    s.configure settings.logLevel settings.logFile =
      ({ s with level := level.value, sinks := [.console] }, .error (.cannotOpen error)) := by
  rw [Settings.logPath?] at hpath
  rw [configure, hlevel]
  simp only [hpath, hopen]

theorem configure_of_opened {path : String} {place : Place} {files : FileTree}
    (hlevel : Level.ofName? (Text.upper settings.logLevel) = some level)
    (hpath : settings.logPath? = some path)
    (hopen : s.files.openForAppend path = .ok (place, files)) :
    s.configure settings.logLevel settings.logFile =
      ({ s with level := level.value, sinks := [.console, .file place], files }.emit
        (configured settings.logLevel settings.logFile), .ok ()) := by
  rw [Settings.logPath?] at hpath
  rw [configure, hlevel]
  simp only [hpath, hopen]

theorem configure_of_no_path (hlevel : Level.ofName? (Text.upper settings.logLevel) = some level)
    (hpath : settings.logPath? = none) :
    s.configure settings.logLevel settings.logFile =
      ({ s with level := level.value, sinks := [.console] }.emit
        (configured settings.logLevel settings.logFile), .ok ()) := by
  rw [Settings.logPath?] at hpath
  rw [configure, hlevel]
  simp only [hpath]

theorem configureFrom_of_problems (h : problems s.files settings = []) :
    s.configureFrom settings = s.configure settings.logLevel settings.logFile := by
  rw [configureFrom, h]

theorem configureFrom_of_unopened (path : String) {error : OpenError}
    (hproblems : problems s.files settings = [])
    (hlevel : Level.ofName? (Text.upper settings.logLevel) = some level)
    (hpath : settings.logPath? = some path) (hopen : s.files.openForAppend path = .error error) :
    s.configureFrom settings =
      ({ s with level := level.value, sinks := [.console] }, .error (.cannotOpen error)) := by
  rw [s.configureFrom_of_problems hproblems, s.configure_of_unopened hlevel hpath hopen]

/-- Setting the log up fails before anything is changed, or it succeeds, or it fails because the log
file cannot be opened. -/
theorem configureFrom_outcome (s : LogState) (settings : Settings) :
    (problems s.files settings ≠ [] ∧
      s.configureFrom settings = (s, .error (.invalid (problems s.files settings)))) ∨
    (problems s.files settings = [] ∧
      (∀ path, settings.logPath? = some path → s.files.IsOpenable path) ∧
      ∃ (level : Level) (s' : LogState), s.configureFrom settings = (s', .ok ()) ∧
        level.name = Text.upper settings.logLevel ∧ s'.level = level.value ∧
        s'.sinks = settings.logSinks) ∨
    (problems s.files settings = [] ∧
      (∃ path, settings.logPath? = some path ∧ ¬ s.files.IsOpenable path) ∧
      ∃ (level : Level) (error : OpenError), level.name = Text.upper settings.logLevel ∧
        s.configureFrom settings =
          ({ s with level := level.value, sinks := [.console] }, .error (.cannotOpen error))) := by
  cases hproblems : problems s.files settings with
  | cons problem more =>
      refine .inl ⟨by simp, ?_⟩
      rw [configureFrom, hproblems]
  | nil =>
      obtain ⟨hname, hparent⟩ := passes_of_problems hproblems
      obtain ⟨level, hlevel, hupper⟩ := Level.exists_of_mem hname
      cases hpath : settings.logPath? with
      | none =>
          obtain ⟨hsame, hsinks⟩ := setup_emit
            { s with level := level.value, sinks := [.console] }
            (configured settings.logLevel settings.logFile)
          rw [s.configureFrom_of_problems hproblems, s.configure_of_no_path hlevel hpath]
          refine .inr (.inl ⟨rfl, by simp, level, _, rfl, hupper, hsame, ?_⟩)
          rw [hsinks, Settings.logSinks, hpath]
          rfl
      | some path =>
          rcases FileTree.openForAppend_cases (hparent path hpath) with
            ⟨hopenable, files, hopen⟩ | ⟨hopenable, error, hopen⟩
          · obtain ⟨hsame, hsinks⟩ := setup_emit
              { s with
                level := level.value
                sinks := [.console, .file (Place.named (Path.ofText path))]
                files }
              (configured settings.logLevel settings.logFile)
            rw [s.configureFrom_of_problems hproblems, s.configure_of_opened hlevel hpath hopen]
            refine .inr (.inl ⟨rfl, by simpa using hopenable, level, _, rfl, hupper, hsame, ?_⟩)
            rw [hsinks, Settings.logSinks, hpath]
            rfl
          · exact .inr (.inr ⟨rfl, ⟨path, rfl, hopenable⟩, level, error, hupper,
              s.configureFrom_of_unopened path hproblems hlevel hpath hopen⟩)

/-- A log that nobody has set up, beside a directory. -/
def besideLogs : LogState where
  files := FileTree.addDirectory {} "logs"
  clock := ""

/-- A log file that is a directory, and one whose path holds a null character: the log is set up in
part. -/
theorem configureFrom_in_part :
    besideLogs.level = Level.warning.value ∧ besideLogs.sinks = [] ∧
    besideLogs.configureFrom { logFile := some "logs" } =
      ({ besideLogs with level := Level.info.value, sinks := [.console] },
        .error (.cannotOpen .isADirectory)) ∧
    besideLogs.configureFrom { logFile := some "a\x00b" } =
      ({ besideLogs with level := Level.info.value, sinks := [.console] },
        .error (.cannotOpen .badCharacter)) := by
  refine ⟨rfl, rfl, ?_, ?_⟩
  · exact configureFrom_of_unopened _ "logs" (by decide +kernel) (by decide +kernel)
      (by decide +kernel) rfl
  · exact configureFrom_of_unopened _ "a\x00b" (by decide +kernel) (by decide +kernel)
      (by decide +kernel) rfl

end LogState

end DocMarkup
