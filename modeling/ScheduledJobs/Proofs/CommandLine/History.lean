import ScheduledJobs.CommandLine.Program
import ScheduledJobs.Proofs.CommandLine.InStep
import ScheduledJobs.Proofs.FileTree
import ScheduledJobs.Proofs.Synchronizer.Answer

/-!
# Histories of commands on the emulator

Commands are run one after the other from an empty store on, and records and
definitions stay in step all along.
-/

namespace ScheduledJobs.CommandLine

open Document Store Text

theorem opened_closed {root : String} {directory before : Directory}
    (sameLimit : directory.nameLimit = (opened root before).nameLimit) :
    opened root (closed directory) = directory := by
  obtain ⟨contents, nameLimit⟩ := directory
  obtain rfl := sameLimit
  rfl

theorem hasNoFolder_of_opened {root : String} {directory : Directory}
    (noFolder : (opened root directory).HasNoFolder) :
    directory.HasNoFolder := fun name => noFolder name

/-- A run on a store that is there gives the action the store and puts back
what the action leaves. -/
theorem onStore_of_locate {root : String} {files : FileTree}
    {place : List String} (located : files.locate "/" root = .ok place)
    (action : Directory → Except Failure String × Directory) :
    onStore root action files =
      ((action (opened root (files.directory place))).1,
        files.withContents place
          (closed (action (opened root (files.directory place))).2)) := by
  have created := FileTree.createDirectory_of_locate located
  simp only [onStore, created, Except.bind, located]

/-- A configuration in which jobs are sent to the emulator in a subscription
without slashes, and the place of the store. -/
structure LocalSetup where
  locations : Locations
  settings : Settings
  place : List String
  isLocal : settings.backend = .emulator
  noSlash : '/' ∉ settings.subscription.toList

namespace LocalSetup

variable (setup : LocalSetup)

def root : String := setup.locations.stateDirectory setup.settings

def subscription : String := Session.subscriptionOf setup.settings

theorem isSegment_subscription : IsSegment setup.subscription :=
  Session.isSegment_subscriptionOf setup.noSlash

/-- Whether the path to the store leads to its place. -/
def IsLocated (files : FileTree) : Prop :=
  files.locate "/" setup.root = .ok setup.place

/-- The store that commands find among the files. -/
def store (files : FileTree) : Directory :=
  opened setup.root (files.directory setup.place)

/-- Whether a run with the options finds the configuration among the files. -/
structure IsFound (surroundings : Surroundings) (options : Options)
    (files : FileTree) : Prop where
  locations :
    Locations.ofVariables? surroundings.variableValues = some setup.locations
  settings : ∃ found,
    findSettings setup.locations files = (.ok found, files) ∧
      { found with backend := options.backend.getD found.backend } =
        setup.settings

variable {setup : LocalSetup} {surroundings : Surroundings}
  {options : Options} {files : FileTree} {job : Job}

theorem invoke_of_isFound (isFound : setup.IsFound surroundings options files)
    (command : Command) (file : String) :
    invoke surroundings options command file files =
      match files.load Job.readDeclared surroundings.workingDirectory file with
      | .error failure => (.error (.loading failure), files)
      | .ok job =>
          runCommand surroundings setup.locations setup.settings file job
            command files := by
  obtain ⟨found, isSettings, same⟩ := isFound.settings
  cases loaded :
      files.load Job.readDeclared surroundings.workingDirectory file with
  | error failure =>
      simp only [invoke, isFound.locations, isSettings, loaded]
  | ok job =>
      simp only [invoke, isFound.locations, isSettings, same, loaded]

theorem inSession_eq (surroundings : Surroundings)
    (action : Session → Directory → Except Failure String × Directory)
    (files : FileTree) :
    inSession surroundings setup.locations setup.settings action files =
      onStore setup.root
        (action (.ofEmulator setup.settings setup.root surroundings.toTimes))
        files := by
  simp only [inSession, Session.ofSettings, setup.isLocal]
  rfl

/-- Whether the store is at its place, and every job is in step in it. -/
structure KeepsTrack (setup : LocalSetup) (files : FileTree) : Prop where
  located : setup.IsLocated files
  store : Session.KeepsTrack setup.subscription (setup.store files)

/-- Whether the store stays at its place and the command for the job is orderly
on it. -/
structure IsOrderly (setup : LocalSetup) (job : Job) (before : FileTree)
    (result : Except Failure String) (after : FileTree) : Prop where
  located : setup.IsLocated after
  store : Session.IsOrderly setup.subscription job (setup.store before) result
    (setup.store after)

theorem IsOrderly.keepsTrack {after : FileTree}
    {result : Except Failure String}
    (orderly : setup.IsOrderly job files result after)
    (keeps : setup.KeepsTrack files) (slashFree : job.IsSlashFree) :
    setup.KeepsTrack after where
  located := orderly.located
  store := orderly.store.keepsTrack keeps.store slashFree
    setup.isSegment_subscription

theorem fst_onStore (located : setup.IsLocated files)
    (action : Directory → Except Failure String × Directory) :
    (onStore setup.root action files).1 = (action (setup.store files)).1 := by
  rw [onStore_of_locate located, LocalSetup.store]

theorem store_onStore (located : setup.IsLocated files)
    {action : Directory → Except Failure String × Directory}
    (sameLimit : (action (setup.store files)).2.nameLimit =
      (setup.store files).nameLimit) :
    setup.store (onStore setup.root action files).2 =
      (action (setup.store files)).2 := by
  rw [onStore_of_locate located, LocalSetup.store,
    FileTree.directory_withContents_self]
  exact opened_closed sameLimit

/-- What is orderly on the store is orderly on the files, as the way to it enters
none of its folders. -/
theorem KeepsTrack.isOrderly_onStore (keeps : setup.KeepsTrack files)
    {action : Directory → Except Failure String × Directory}
    (orderly : Session.IsOrderly setup.subscription job (setup.store files)
      (action (setup.store files)).1 (action (setup.store files)).2) :
    let ended := onStore setup.root action files
    setup.IsOrderly job files ended.1 ended.2 where
  located := by
    have noFolder : (files.directory setup.place).HasNoFolder :=
      hasNoFolder_of_opened keeps.store.noFolder
    rw [onStore_of_locate keeps.located]
    exact FileTree.locate_withContents noFolder keeps.located
  store := by
    rw [fst_onStore keeps.located,
      store_onStore keeps.located orderly.sameLimit]
    exact orderly

theorem KeepsTrack.isOrderly_self (keeps : setup.KeepsTrack files) (job : Job)
    (result : Except Failure String) :
    setup.IsOrderly job files result files where
  located := keeps.located
  store := keeps.store.isOrderly_self job result

theorem KeepsTrack.isOrderly_runCommand (keeps : setup.KeepsTrack files)
    (slashFree : job.IsSlashFree) (surroundings : Surroundings) (file : String)
    (command : Command) :
    let ended := runCommand surroundings setup.locations setup.settings file
      job command files
    setup.IsOrderly job files ended.1 ended.2 := by
  match command with
  | .validate => exact keeps.isOrderly_self job _
  | .plan => exact keeps.isOrderly_self job _
  | .apply =>
      simp only [runCommand, inSession_eq]
      exact keeps.isOrderly_onStore (Session.isOrderly_apply keeps.store
        slashFree setup.isSegment_subscription setup.root surroundings.toTimes)
  | .refresh =>
      simp only [runCommand, inSession_eq]
      exact keeps.isOrderly_onStore (Session.isOrderly_refresh keeps.store job
        setup.root surroundings.toTimes)
  | .destroy =>
      simp only [runCommand, inSession_eq]
      obtain ⟨output, next, destroyed, -, -, orderly⟩ :=
        Session.exists_destroy_eq keeps.store job setup.root
          surroundings.toTimes
      apply keeps.isOrderly_onStore
      rwa [destroyed]
  | .show =>
      simp only [runCommand]
      apply keeps.isOrderly_onStore
      exact keeps.store.isOrderly_self job _

theorem KeepsTrack.runCommand_apply (keeps : setup.KeepsTrack files)
    (slashFree : job.IsSlashFree) (valid : job.isValid = true)
    (surroundings : Surroundings)
    (stores : Synchronizer.Stores setup.settings.environment setup.subscription
      surroundings.now surroundings.stamp job (setup.store files))
    (file : String) :
    let ended := runCommand surroundings setup.locations setup.settings file
      job .apply files
    (∃ output, ended.1 = .ok output) ∧
      (get? (setup.store ended.2) (Record.key job.address)).isSome = true := by
  obtain ⟨output, next, applied, isRecorded⟩ :=
    Session.exists_apply_eq keeps.store.noFolder slashFree valid
      setup.isSegment_subscription stores setup.root
  have orderly := Session.isOrderly_apply keeps.store slashFree
    setup.isSegment_subscription setup.root surroundings.toTimes
  simp only [runCommand, inSession_eq, fst_onStore keeps.located,
    store_onStore keeps.located orderly.sameLimit, applied]
  exact ⟨⟨output, rfl⟩, isRecorded⟩

theorem KeepsTrack.runCommand_destroy (keeps : setup.KeepsTrack files)
    (job : Job) (surroundings : Surroundings) (file : String) :
    let ended := runCommand surroundings setup.locations setup.settings file
      job .destroy files
    (∃ output, ended.1 = .ok output) ∧
      get? (setup.store ended.2) (Record.key job.address) = none ∧
      get? (setup.store ended.2)
        (Emulator.key (job.idIn setup.subscription)) = none := by
  obtain ⟨output, next, destroyed, noRecord, noDefinition, orderly⟩ :=
    Session.exists_destroy_eq keeps.store job setup.root surroundings.toTimes
  have sameLimit : ((Session.ofEmulator setup.settings setup.root
      surroundings.toTimes).destroy job (setup.store files)).2.nameLimit =
        (setup.store files).nameLimit := by
    rw [destroyed]
    exact orderly.sameLimit
  simp only [runCommand, inSession_eq, fst_onStore keeps.located,
    store_onStore keeps.located sameLimit, destroyed]
  exact ⟨⟨output, rfl⟩, noRecord, noDefinition⟩

/-- The trees of files that result from commands for jobs without slashes, in
one configuration and from an empty store on.  In between, everything may
change but the store and the way to it. -/
inductive Reachable (setup : LocalSetup) : FileTree → Prop where
  | start {files : FileTree} (located : setup.IsLocated files)
      (empty : (files.directory setup.place).contents = ∅) :
      Reachable setup files
  | edit {files edited : FileTree} (before : Reachable setup files)
      (located : setup.IsLocated edited)
      (same : edited.directory setup.place = files.directory setup.place) :
      Reachable setup edited
  | invoke {files : FileTree} (before : Reachable setup files)
      {surroundings : Surroundings} {options : Options}
      (isFound : setup.IsFound surroundings options files) (command : Command)
      {file : String}
      (slashFree : ∀ job, files.load Job.readDeclared
        surroundings.workingDirectory file = .ok job → job.IsSlashFree) :
      Reachable setup (invoke surroundings options command file files).2

theorem Reachable.keepsTrack (reachable : setup.Reachable files) :
    setup.KeepsTrack files := by
  induction reachable with
  | @start files located empty =>
      refine ⟨located, ?_⟩
      have fresh := Session.KeepsTrack.fresh setup.subscription
        (setup.store files).nameLimit
      have same : setup.store files =
          { nameLimit := (setup.store files).nameLimit } := by
        rw [LocalSetup.store, opened, empty]
      rwa [same]
  | edit before located same ih =>
      refine ⟨located, ?_⟩
      rw [LocalSetup.store, same]
      exact ih.store
  | @invoke files before surroundings options isFound command file slashFree
      ih =>
      rw [invoke_of_isFound isFound]
      split
      · exact ih
      · next job loaded =>
          exact (ih.isOrderly_runCommand (slashFree job loaded) surroundings
            file command).keepsTrack ih (slashFree job loaded)

/-- After every history, each job has both a record and a definition or neither
of them, and the record tells the id of the job and what the definition says.
A further command whose file cannot be read changes nothing.  One for a job
without slashes changes nothing in the store when it fails, never fails to apply
an accepted job that the emulator stores or to destroy any job, and changes no
key of a job at another address. -/
theorem inStep_of_reachable (reachable : setup.Reachable files) :
    (∀ job, Session.InStep setup.subscription (setup.store files) job) ∧
    ∀ surroundings options, setup.IsFound surroundings options files →
      ∀ command file,
        let loaded := files.load Job.readDeclared
          surroundings.workingDirectory file
        let ended := invoke surroundings options command file files
        (∀ failure, loaded = .error failure →
          ended = (.error (.loading failure), files)) ∧
        ∀ job, loaded = .ok job → job.IsSlashFree →
          (∀ failure, ended.1 = .error failure →
            setup.store ended.2 = setup.store files) ∧
          (command = .apply → job.isValid = true →
            Synchronizer.Stores setup.settings.environment setup.subscription
              surroundings.now surroundings.stamp job (setup.store files) →
              (∃ output, ended.1 = .ok output) ∧
              (get? (setup.store ended.2)
                (Record.key job.address)).isSome = true) ∧
          (command = .destroy →
            (∃ output, ended.1 = .ok output) ∧
            get? (setup.store ended.2) (Record.key job.address) = none ∧
            get? (setup.store ended.2)
              (Emulator.key (job.idIn setup.subscription)) = none) ∧
          ∀ other key, Job.address other ≠ job.address →
            Session.BelongsTo other key →
              get? (setup.store ended.2) key =
                get? (setup.store files) key := by
  have keeps := reachable.keepsTrack
  refine ⟨fun job => (keeps.store.tracks job).inStep, ?_⟩
  intro surroundings options isFound command file loaded ended
  have unfolded : ended = _ := invoke_of_isFound isFound command file
  constructor
  · intro failure isFailure
    simp only [unfolded, loaded] at isFailure ⊢
    rw [isFailure]
  · intro job isJob slashFree
    have ran : ended = runCommand surroundings setup.locations setup.settings
        file job command files := by
      simp only [unfolded, loaded] at isJob ⊢
      rw [isJob]
    have orderly := keeps.isOrderly_runCommand slashFree surroundings file
      command
    rw [← ran] at orderly
    refine ⟨orderly.store.failed, ?_, ?_, ?_⟩
    · rintro rfl valid stores
      rw [ran]
      exact keeps.runCommand_apply slashFree valid surroundings stores file
    · rintro rfl
      rw [ran]
      exact keeps.runCommand_destroy job surroundings file
    · intro other key different belongs
      exact orderly.store.get?_of_belongsTo slashFree
        setup.isSegment_subscription different belongs

/-- Settings that name the emulator. -/
def plainText : String := "log_level = 'info'\nbackend = 'local'\n"

/-- The configuration with these settings, near the root. -/
def plain : LocalSetup where
  locations := { configuration := "/c/jobsync", data := "/d/jobsync" }
  settings := { logLevel := "info", backend := .emulator }
  place := ["d", "jobsync", "state"]
  isLocal := rfl
  noSlash := by decide

/-- Files with the settings, an empty store and the file of the report. -/
def plainFiles : FileTree :=
  let folders := ((((FileTree.bare.withFolder [] "c").withFolder ["c"]
    "jobsync").withFolder [] "d").withFolder ["d"] "jobsync").withFolder
      ["d", "jobsync"] "state"
  (folders.withFile ["c", "jobsync"] "config.toml"
    (Utf8.encode plainText)).withFile [] "job.toml"
      (Utf8.encode Synchronizer.reportFile)

def plainSurroundings : Surroundings where
  workingDirectory := "/"
  variableValues :=
    SortedMap.ofList [("XDG_CONFIG_HOME", "/c"), ("XDG_DATA_HOME", "/d")]
  now := .epoch

theorem isLocated_plainFiles : plain.IsLocated plainFiles :=
  eq_ok_of_toOption_eq_some (by decide +kernel)

theorem isFound_plainFiles : plain.IsFound plainSurroundings {} plainFiles where
  locations := by decide +kernel
  settings := by
    have located : plainFiles.locate "/" plain.locations.configuration =
        .ok ["c", "jobsync"] :=
      eq_ok_of_toOption_eq_some (by decide +kernel)
    have given : Settings.areGiven plain.locations plainFiles = true := by
      decide +kernel
    have loaded : Settings.load plain.locations plainFiles =
        .ok plain.settings :=
      eq_ok_of_toOption_eq_some (by decide +kernel)
    refine ⟨plain.settings, ?_, rfl⟩
    simp only [findSettings, FileTree.createDirectory_of_locate located, given,
      loaded, if_true]
    rfl

theorem load_plainFiles :
    plainFiles.load Job.readDeclared plainSurroundings.workingDirectory
      "/job.toml" = .ok Synchronizer.report :=
  FileTree.load_of_read (eq_ok_of_toOption_eq_some (by decide +kernel))
    Synchronizer.ofFile_reportFile

theorem reachable_plainFiles : plain.Reachable plainFiles :=
  .start isLocated_plainFiles (by decide +kernel)

theorem isSlashFree_report : Synchronizer.report.IsSlashFree :=
  ⟨by decide, by decide, by decide⟩

theorem stores_report :
    Synchronizer.Stores plain.settings.environment plain.subscription
      plainSurroundings.now plainSurroundings.stamp Synchronizer.report
      (plain.store plainFiles) :=
  ⟨by decide +kernel, by decide +kernel⟩

/-- The report is in step once it has been applied, and it could have been
destroyed instead. -/
theorem inStep_of_reachable_report :
    let applied := invoke plainSurroundings {} .apply "/job.toml" plainFiles
    let destroyed := invoke plainSurroundings {} .destroy "/job.toml"
      plainFiles
    (∃ definition syncedAt,
      Store.load Definition.read (plain.store applied.2)
          (Emulator.key (Synchronizer.report.idIn plain.subscription)) =
        .ok (some definition) ∧
      Record.load (plain.store applied.2) Synchronizer.report.address =
        .ok (some {
          id := (Synchronizer.report.idIn plain.subscription).text
          observed := definition.toJob
            (Synchronizer.report.idIn plain.subscription)
          syncedAt })) ∧
    ∃ output, destroyed.1 = .ok output := by
  have slashFree : ∀ job, plainFiles.load Job.readDeclared
      plainSurroundings.workingDirectory "/job.toml" = .ok job →
        job.IsSlashFree := by
    intro job loaded
    rw [load_plainFiles] at loaded
    obtain rfl := Except.ok.inj loaded
    exact isSlashFree_report
  have ends (command : Command) := ((inStep_of_reachable
    reachable_plainFiles).2 plainSurroundings {} isFound_plainFiles command
      "/job.toml").2 _ load_plainFiles isSlashFree_report
  have after := (inStep_of_reachable (.invoke reachable_plainFiles
    isFound_plainFiles .apply slashFree)).1 Synchronizer.report
  obtain ⟨-, applies, -, -⟩ := ends .apply
  obtain ⟨-, -, destroys, -⟩ := ends .destroy
  exact ⟨after.agree (applies rfl Synchronizer.isValid_report stores_report).2,
    (destroys rfl).1⟩

end LocalSetup

end ScheduledJobs.CommandLine
