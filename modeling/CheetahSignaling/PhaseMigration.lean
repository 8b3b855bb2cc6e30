import CheetahSignaling.GuardedRun
import CheetahSignaling.Outcomes

/-! Schema migrations in phases: expand, migrate, backfill, switch and contract, with the tables in
which their progress is kept. -/
namespace CheetahSignaling.PhaseMigration

open GuardedRun Outcomes

inductive MigrationPhase where
  | expand | migrate | backfill | switch | contract | baseline
  deriving DecidableEq

def phaseOrder : MigrationPhase → Nat
  | .expand => 0
  | .migrate => 1
  | .backfill => 2
  | .switch => 3
  | .contract => 4
  | .baseline => 0

/-- The phases applied by a normal start. -/
def MigrationPhase.startup : MigrationPhase → Bool
  | .expand | .migrate | .baseline => true
  | _ => false

def MigrationPhase.debug : MigrationPhase → String
  | .expand => "Expand"
  | .migrate => "Migrate"
  | .backfill => "Backfill"
  | .switch => "Switch"
  | .contract => "Contract"
  | .baseline => "Baseline"

structure AppliedMigration where
  version : Int
  phase : MigrationPhase
  checksum : List UInt8

abbrev Key := Int × MigrationPhase

def AppliedMigration.key (m : AppliedMigration) : Key := (m.version,m.phase)

/-- The SQL of a migration stands in what its execution returns. -/
structure VersionedMigration extends AppliedMigration where
  description : String

/-- A row of `_sqlx_migrations`, which an older binary left; the version is its primary key. -/
structure SqlxMigration where
  version : Int
  checksum : List UInt8
  success : Bool

structure BackfillJob where
  version : Int
  description : String
  processedRows : Nat
  finished : Bool

/-- `backend` stands for whatever a call of the backend returns when it fails. -/
inductive StorageError where
  | backend
  | migration (version : Int) (message : String)
  | invalidArgument (message : String)

/-- The tables, and what the backend will answer: a number of rows, or that the operation fails.
`legacy` is `none` when there is no `_sqlx_migrations`. -/
structure Backend where
  applied : List AppliedMigration
  jobs : Int → Option BackfillJob
  legacy : Option (List SqlxMigration)
  replies : List (Option Nat)

abbrev Run := EStateM StorageError Backend

def attempt (e : StorageError) : Run Nat := fun b =>
  match b.replies with
  | some rows :: rest => .ok rows { b with replies := rest }
  | none :: rest => .error e { b with replies := rest }
  | [] => .error e b

/-- The rows taken over from `_sqlx_migrations`, all as baseline. -/
def seeds (legacy : List SqlxMigration) : List AppliedMigration :=
  (legacy.filter (·.success)).map fun row => ⟨row.version,.baseline,row.checksum⟩

def seedFromSqlxMigrations : Run Unit := do
  let _ ← attempt .backend
  match (← get).legacy with
  | none => pure ()
  | some legacy => do
    let _ ← attempt .backend
    if (← get).applied.isEmpty then do
      let _ ← attempt .backend
      modify fun b => { b with applied := seeds legacy }

def initStateTables : Run Unit := do
  let _ ← attempt .backend
  let _ ← attempt .backend
  seedFromSqlxMigrations

/-- A row replaces the one with its key. -/
def put (m : AppliedMigration) (applied : List AppliedMigration) : List AppliedMigration :=
  applied.filter (·.key ≠ m.key) ++ [m]

def recordApplied (m : AppliedMigration) : Run Unit := do
  let _ ← attempt .backend
  modify fun b => { b with applied := put m b.applied }

def saveBackfillJob (job : BackfillJob) : Run Unit := do
  let _ ← attempt .backend
  modify fun b => { b with jobs := Function.update b.jobs job.version (some job) }

def applyMigration (m : VersionedMigration) : Run Unit := do
  let _ ← attempt .backend
  recordApplied m.toAppliedMigration

def applyPending : List VersionedMigration → Run Unit
  | [] => pure ()
  | m :: rest => do
    applyMigration m
    applyPending rest

def pending (applied : List AppliedMigration) (known : List VersionedMigration) : List VersionedMigration :=
  known.filter fun m => m.key ∉ applied.map (·.key)

/-- The last migration of a key is the one compared. -/
def validateChecksums (known : List VersionedMigration) : List AppliedMigration → Run Unit
  | [] => pure ()
  | a :: rest =>
    if (known.reverse.find? (·.key = a.key)).any (a.checksum ≠ ·.checksum) then
      throw (.migration a.version
        ("checksum mismatch for applied migration " ++ toString a.version ++ " " ++ a.phase.debug ++ ": file changed"))
    else validateChecksums known rest

section

variable (known : List VersionedMigration)

def startupMigrations : List VersionedMigration := known.filter (·.phase.startup)

def phaseMigrations (phase : MigrationPhase) : List VersionedMigration := known.filter (·.phase = phase)

def latestStartupVersion : Int := ((startupMigrations known).map (·.version)).max?.getD 0

inductive MigrationStatus where
  | empty | current
  | behind (current target : Int)
  | diverged (applied known : Int)
  deriving DecidableEq

def statusInfo (applied : List AppliedMigration) : MigrationStatus :=
  let lastApplied := (applied.map (·.version)).max?
  let latestStartup := latestStartupVersion known
  if pending applied (startupMigrations known) ≠ [] then .behind (lastApplied.getD 0) latestStartup
  else if latestStartup = 0 then .current
  else
    match lastApplied with
    | some last =>
      if last = latestStartup then .current
      else if last < latestStartup then .behind last latestStartup
      else .diverged last latestStartup
    | none => .empty

def appliedStartupVersions (applied : List AppliedMigration) : List AppliedMigration := applied.filter (·.phase.startup)

/-- The rows of the other phases do not count. -/
def status : Run MigrationStatus := do
  initStateTables
  let _ ← attempt .backend
  return statusInfo known (appliedStartupVersions (← get).applied)

/-- The state tables are created and the lock is taken; releasing it changes nothing. -/
def applyLocked (candidates : List VersionedMigration) : Run Unit := do
  initStateTables
  let _ ← attempt .backend
  let _ ← attempt .backend
  let applied := (← get).applied
  validateChecksums candidates applied
  applyPending (pending applied candidates)

def runStartup : Run Unit := applyLocked (startupMigrations known)

def runPhase (phase : MigrationPhase) : Run Unit :=
  if phase = .backfill then
    throw (.invalidArgument "backfill phase must be run through run_backfills, not run_phase")
  else applyLocked (phaseMigrations known phase)

def runBackfillStep (version : Int) : Run Nat := do
  initStateTables
  match (phaseMigrations known .backfill).find? (·.version = version) with
  | none => throw (.migration version "no backfill migration found")
  | some m => do
    let _ ← attempt .backend
    let job := ((← get).jobs version).getD ⟨version,m.description,0,false⟩
    if job.finished then pure 0
    else do
      let rows ← attempt .backend
      if rows = 0 then do
        recordApplied m.toAppliedMigration
        saveBackfillJob { job with finished := true }
      else saveBackfillJob { job with processedRows := job.processedRows + rows }
      pure rows

/-- At most so many batches of one backfill, while the time allows. -/
def runBatches (version : Int) : Nat → Run Unit
  | 0 => pure ()
  | batches + 1 => do
    let _ ← attempt (.migration version "backfill exceeded maximum duration")
    let rows ← runBackfillStep known version
    if rows = 0 then pure ()
    else if batches = 0 then throw (.migration version "backfill exceeded maximum batch count")
    else runBatches version batches

def runEach : List VersionedMigration → Run Unit
  | [] => pure ()
  | m :: rest => do
    runBatches known m.version 10000
    runEach rest

def runBackfills : Run Unit := do
  initStateTables
  runEach known (phaseMigrations known .backfill)

inductive Call where
  | runStartup
  | runPhase (phase : MigrationPhase)
  | runBackfills
  | runBackfillStep (version : Int)

def Call.run : Call → Run Unit
  | .runStartup => PhaseMigration.runStartup known
  | .runPhase phase => PhaseMigration.runPhase known phase
  | .runBackfills => PhaseMigration.runBackfills known
  | .runBackfillStep version => discard (PhaseMigration.runBackfillStep known version)

/-- A call keeps what it has written, whether it returns or fails. -/
def step (b : Backend) (c : Call × List (Option Nat)) : Backend :=
  match (c.1.run known).run { b with replies := c.2 } with
  | .ok _ b' | .error _ b' => b'

/-! What a call can do to the rows -/

def Call.candidates : Call → List VersionedMigration
  | .runStartup => startupMigrations known
  | .runPhase phase => phaseMigrations known phase
  | .runBackfills | .runBackfillStep _ => phaseMigrations known .backfill

end

/-- What `_sqlx_migrations` says is taken over when there is no row yet. -/
def seeded (legacy : Option (List SqlxMigration)) : List AppliedMigration := (legacy.map seeds).getD []

section

variable (legacy : Option (List SqlxMigration)) (I : List AppliedMigration → Prop)

/-- The program leaves `_sqlx_migrations` alone and keeps `I` of the rows. -/
abbrev Keeps (x : Run α) : Prop :=
  Preserves (fun b => b.legacy = legacy ∧ I b.applied) x

/-- Once the tables are there, they are not without a row while there is a seed. -/
def Ready (rows : List AppliedMigration) : Prop :=
  I rows ∧ (rows = [] → seeded legacy = [])

/-- What a call writes: the seeds, when there is no row, and then rows of the migrations it is about. -/
structure Closed (migrations : List VersionedMigration) : Prop where
  seed : I [] → I (seeded legacy)
  put : ∀ m ∈ migrations, ∀ rows, Ready legacy I rows → I (put m.toAppliedMigration rows)

variable {legacy I}

theorem Closed.ready (closed : Closed legacy I migrations) : Closed legacy (Ready legacy I) migrations where
  seed holds := (holds.2 rfl).symm ▸ holds
  put m member rows holds := ⟨closed.put m member rows holds.1,by simp [PhaseMigration.put]⟩

theorem attempt_keeps (e : StorageError) : Keeps legacy I (attempt e) := by
  constructor <;> intro b _ b' start ran <;> rw [EStateM.run,attempt.eq_def] at ran <;> split at ran <;> cases ran <;>
    exact start

theorem get_ensures {f : Backend → Run α} (each : ∀ b, Ensures (fun s => s = b ∧ pre s) (f b) post onError) :
    Ensures pre (get >>= f) post onError :=
  ⟨fun start ran => (each _).ok ⟨rfl,start⟩ ran,fun start ran => (each _).error ⟨rfl,start⟩ ran⟩

theorem get_keeps {f : Backend → Run α} (each : ∀ b, Keeps legacy I (f b)) : Keeps legacy I (get >>= f) :=
  get_ensures fun b => (each b).weaken (fun _ => And.right) (fun _ _ => id) fun _ => id

theorem pure_keeps : Keeps legacy I (pure a : Run α) := .pure fun _ => id

theorem throw_keeps : Keeps legacy I (throw e : Run α) := .throw fun _ => id

theorem initStateTables_ensures (seed : I [] → I (seeded legacy)) :
    Ensures (fun b => b.legacy = legacy ∧ I b.applied) initStateTables
      (fun _ b => b.legacy = legacy ∧ Ready legacy I b.applied) (fun b => b.legacy = legacy ∧ I b.applied) := by
  refine (attempt_keeps _).bind fun _ => (attempt_keeps _).bind fun _ => (attempt_keeps _).bind fun _ => get_ensures fun b => ?_
  split
  · rename_i absent
    exact .pure fun s start => ⟨start.2.1,start.2.2,fun _ => by rw [← start.2.1,start.1,absent]; rfl⟩
  · rename_i rows present
    have known : ∀ s : Backend, s = b ∧ s.legacy = legacy ∧ I s.applied → legacy = some rows ∧ s.legacy = legacy ∧ I s.applied :=
      fun s start => ⟨by rw [← start.2.1,start.1,present],start.2⟩
    refine Ensures.weaken (.of_fact fun same => ?_) known (fun _ _ => id) fun _ => id
    refine (attempt_keeps _).bind fun _ => get_ensures fun b => ?_
    split
    · rename_i none
      refine Ensures.weaken (.of_fact fun first : I [] => ?_)
        (fun s start => ⟨List.isEmpty_iff.mp none ▸ start.1 ▸ start.2.2,start.2⟩) (fun _ _ => id) fun _ => id
      have taken : seeds rows = seeded legacy := by rw [same]; rfl
      exact (attempt_keeps _).bind fun _ => .modify fun s start => ⟨start.1,taken ▸ seed first,fun none => taken ▸ none⟩
    · exact .pure fun s start => ⟨start.2.1,start.2.2,fun none => by simp_all⟩

theorem initStateTables_bind (closed : Closed legacy I migrations) {f : Unit → Run α}
    (rest : Keeps legacy (Ready legacy I) (f ())) : Keeps legacy I (initStateTables >>= f) :=
  (initStateTables_ensures closed.seed).bind fun _ =>
    rest.weaken (fun _ => id) (fun _ _ holds => ⟨holds.1,holds.2.1⟩) fun _ holds => ⟨holds.1,holds.2.1⟩

theorem recordApplied_keeps (closed : Closed legacy I migrations) (member : m ∈ migrations) :
    Keeps legacy (Ready legacy I) (recordApplied m.toAppliedMigration) :=
  (attempt_keeps _).bind fun _ => .modify fun _ holds => ⟨holds.1,closed.ready.put m member _ ⟨holds.2,holds.2.2⟩⟩

theorem saveBackfillJob_keeps : Keeps legacy I (saveBackfillJob job) :=
  (attempt_keeps _).bind fun _ => .modify fun _ => id

theorem applyPending_keeps (closed : Closed legacy I migrations) (pending : List VersionedMigration)
    (among : ∀ m ∈ pending, m ∈ migrations) : Keeps legacy (Ready legacy I) (applyPending pending) := by
  induction pending with
  | nil => exact pure_keeps
  | cons m rest ih =>
    obtain ⟨first,others⟩ := List.forall_mem_cons.mp among
    exact ((attempt_keeps _).bind fun _ => recordApplied_keeps closed first).bind fun _ => ih others

theorem validateChecksums_keeps (known : List VersionedMigration) (rows : List AppliedMigration) :
    Keeps legacy I (validateChecksums known rows) := by
  induction rows with
  | nil => exact pure_keeps
  | cons a rest ih => exact .ite (fun _ => throw_keeps) fun _ => ih

theorem applyLocked_keeps (closed : Closed legacy I migrations) : Keeps legacy I (applyLocked migrations) := by
  refine initStateTables_bind closed ((attempt_keeps _).bind fun _ => (attempt_keeps _).bind fun _ => get_keeps fun b => ?_)
  exact (validateChecksums_keeps _ _).bind fun _ => applyPending_keeps closed _ fun _ => List.mem_of_mem_filter

variable {known : List VersionedMigration} (closed : Closed legacy I (phaseMigrations known .backfill))

include closed

theorem runBackfillStep_keeps (version : Int) : Keeps legacy I (runBackfillStep known version) := by
  refine initStateTables_bind closed ?_
  split
  · exact throw_keeps
  · rename_i m found
    refine (attempt_keeps _).bind fun _ => get_keeps fun b => .ite (fun _ => pure_keeps) fun _ => ?_
    refine (attempt_keeps _).bind fun rows => .ite (fun _ => ?_) fun _ => saveBackfillJob_keeps.bind fun _ => pure_keeps
    have recorded := recordApplied_keeps closed (List.mem_of_find?_eq_some found)
    exact recorded.bind fun _ => saveBackfillJob_keeps.bind fun _ => pure_keeps

theorem runBatches_keeps (version : Int) (batches : Nat) : Keeps legacy I (runBatches known version batches) := by
  induction batches with
  | zero => exact pure_keeps
  | succ batches ih =>
    refine (attempt_keeps _).bind fun _ => (runBackfillStep_keeps closed version).bind fun rows => ?_
    exact .ite (fun _ => pure_keeps) fun _ => .ite (fun _ => throw_keeps) fun _ => ih

theorem runEach_keeps (migrations : List VersionedMigration) : Keeps legacy I (runEach known migrations) := by
  induction migrations with
  | nil => exact pure_keeps
  | cons m rest ih => exact (runBatches_keeps closed _ _).bind fun _ => ih

omit closed

/-- A call, whether it returns or fails, keeps what its seeds and its migrations keep. -/
theorem step_keeps (c : Call × List (Option Nat)) (closed : Closed b.legacy I (c.1.candidates known)) (holds : I b.applied) :
    (step known b c).legacy = b.legacy ∧ I (step known b c).applied := by
  have kept : Keeps b.legacy I (c.1.run known) := by
    obtain ⟨c,replies⟩ := c
    cases c with
    | runStartup => exact applyLocked_keeps closed
    | runPhase phase => exact .ite (fun _ => throw_keeps) fun _ => applyLocked_keeps closed
    | runBackfills => exact initStateTables_bind closed (runEach_keeps closed.ready _)
    | runBackfillStep version => exact (runBackfillStep_keeps closed version).bind fun _ => pure_keeps
  unfold step
  split
  · exact kept.ok (s := { b with replies := c.2 }) ⟨rfl,holds⟩ ‹_›
  · exact kept.error (s := { b with replies := c.2 }) ⟨rfl,holds⟩ ‹_›

end

theorem mem_put : a ∈ put m rows ↔ (a ∈ rows ∧ a.key ≠ m.key) ∨ a = m := by simp [put]

/-- A row may be written anew, but a key stays. -/
theorem exists_key_put (found : ∃ a ∈ rows, a.key = key) (m : AppliedMigration) : ∃ a ∈ put m rows, a.key = key := by
  obtain ⟨a,row,same⟩ := found
  by_cases replaced : a.key = m.key
  · exact ⟨m,mem_put.mpr (.inr rfl),replaced.symm.trans same⟩
  · exact ⟨a,mem_put.mpr (.inl ⟨row,replaced⟩),same⟩

theorem seeded_phase (member : a ∈ seeded legacy) : a.phase = .baseline := by
  cases legacy <;> simp_all [seeded,seeds]
  grind

theorem Call.candidates_known {c : Call} (member : m ∈ c.candidates known) : m ∈ known := by
  cases c <;> exact List.mem_of_mem_filter member

/-! Order -/

/-- A database without a row, with or without the table of an older binary. -/
def Backend.empty (legacy : Option (List SqlxMigration)) : Backend := ⟨[],fun _ => none,legacy,[]⟩

section

variable (known : List VersionedMigration) (rows : List AppliedMigration)

/-- Every known migration of the version with an earlier phase has its row. -/
def Prepared (key : Key) : Prop :=
  ∀ m ∈ known, m.version = key.1 → phaseOrder m.phase < phaseOrder key.2 → ∃ a ∈ rows, a.key = m.key

def Late (phase : MigrationPhase) : Prop := phase = .switch ∨ phase = .contract

/-- A switch or contract row comes after all earlier phases of its version. -/
def InOrder : Prop :=
  ∀ a ∈ rows, Late a.phase → Prepared known rows a.key

/-- `run_phase` for a late phase is called once the phases before are done. -/
def Due (b : Backend) : Call × List (Option Nat) → Prop
  | (.runPhase phase,_) => Late phase → ∀ m ∈ phaseMigrations known phase, Prepared known b.applied m.key
  | _ => True

end

theorem Prepared.put (prepared : Prepared known rows key) (m : AppliedMigration) : Prepared known (put m rows) key :=
  fun earlier member version order => exists_key_put (prepared earlier member version order) m

theorem InOrder.put (ordered : InOrder known rows) (prepared : Late m.phase → Prepared known rows m.key) :
    InOrder known (put m rows) := by
  intro a member late
  obtain ⟨row,-⟩ | rfl := mem_put.mp member
  · exact (ordered a row late).put m
  · exact (prepared late).put a

theorem InOrder.seeded (known : List VersionedMigration) (legacy : Option (List SqlxMigration)) :
    InOrder known (seeded legacy) := by
  intro a row late
  rcases late with late | late <;> cases late.symm.trans (seeded_phase row)

/-- One call keeps the order, whatever rows it finds and wherever it fails. -/
theorem step_inOrder (ordered : InOrder known b.applied) (c : Call × List (Option Nat)) (due : Due known b c) :
    InOrder known (step known b c).applied := by
  -- what is prepared when the call begins stays so, and nothing else is needed of the rows
  let I rows := InOrder known rows ∧ ∀ m ∈ c.1.candidates known, Late m.phase → Prepared known rows m.key
  refine (step_keeps (I := I) c ⟨fun holds => ?_,fun m member rows holds => ?_⟩ ⟨ordered,fun m member late => ?_⟩).2.1
  · refine ⟨.seeded known b.legacy,fun m member late earlier among version order => ?_⟩
    obtain ⟨a,none,-⟩ := holds.2 m member late earlier among version order
    cases none
  · exact ⟨holds.1.1.put (holds.1.2 m member),fun m' member' late => (holds.1.2 m' member' late).put _⟩
  · obtain ⟨c,replies⟩ := c
    cases c with
    | runPhase phase =>
      have own : m.phase = phase := by simpa using List.of_mem_filter member
      exact due (own ▸ late) m member
    | _ =>
      have := List.of_mem_filter member
      rcases late with late | late <;> simp [late,MigrationPhase.startup] at this

/-! Status -/

/-- Where the rows come from: each is a seed or that of a known migration, and while there is a row
no seed is missing. -/
structure Sourced (known : List VersionedMigration) (legacy : Option (List SqlxMigration)) (rows : List AppliedMigration) :
    Prop where
  source : ∀ a ∈ rows, (∃ m ∈ known, m.key = a.key) ∨ a ∈ seeded legacy
  seed : rows ≠ [] → ∀ s ∈ seeded legacy, ∃ a ∈ rows, a.key = s.key

theorem Sourced.seeded (known : List VersionedMigration) (legacy : Option (List SqlxMigration)) :
    Sourced known legacy (seeded legacy) :=
  ⟨fun _ => .inr,fun _ s member => ⟨s,member,rfl⟩⟩

theorem Sourced.put (ready : Ready legacy (Sourced known legacy) rows) (member : m ∈ known) :
    Sourced known legacy (put m.toAppliedMigration rows) where
  source a row := by
    obtain ⟨row,-⟩ | rfl := mem_put.mp row
    · exact ready.1.source a row
    · exact .inl ⟨m,member,rfl⟩
  seed _ s seed := by
    by_cases none : rows = []
    · simp [ready.2 none] at seed
    · exact exists_key_put (ready.1.seed none s seed) _

/-- Every call leaves `_sqlx_migrations` as it is and the rows from these sources. -/
theorem step_sourced (c : Call × List (Option Nat)) (kept : b.legacy = legacy ∧ Sourced known legacy b.applied) :
    (step known b c).legacy = legacy ∧ Sourced known legacy (step known b c).applied := by
  obtain ⟨rfl,sourced⟩ := kept
  exact step_keeps c ⟨fun _ => .seeded known b.legacy,fun m member rows ready => .put ready (Call.candidates_known member)⟩
    sourced

/-- Earlier phases first: in whatever order the calls come and wherever they fail, a row of a late
phase stands only beside rows of all earlier phases of its version. -/
theorem phases_in_order (known : List VersionedMigration) (b : Backend) (ordered : InOrder known b.applied)
    (run : List (Call × List (Option Nat))) (due : Guarded (step known) (Due known) b run) :
    InOrder known (execute (step known) b run).applied :=
  guarded_invariant (I := fun b => InOrder known b.applied) (fun _ c ordered => step_inOrder ordered c) ordered due

theorem latestStartupVersion_spec (known : List VersionedMigration) :
    (∀ m ∈ startupMigrations known, m.version ≤ latestStartupVersion known) ∧
      (latestStartupVersion known ≠ 0 → ∃ m ∈ startupMigrations known, m.version = latestStartupVersion known) := by
  unfold latestStartupVersion
  cases latest : ((startupMigrations known).map (·.version)).max? with
  | none => simp [List.map_eq_nil_iff.mp (List.max?_eq_none_iff.mp latest)]
  | some version =>
    obtain ⟨reached,bound⟩ := List.max?_eq_some_iff.mp latest
    exact ⟨fun m member => bound _ (List.mem_map.mpr ⟨m,member,rfl⟩),fun _ => List.mem_map.mp reached⟩

/-- Every startup migration has its row. -/
def StartupApplied (known : List VersionedMigration) (rows : List AppliedMigration) : Prop :=
  ∀ m ∈ startupMigrations known, ∃ a ∈ rows, a.key = m.key

/-- No seed is of a version above those of the startup migrations. -/
def Covered (known : List VersionedMigration) (legacy : Option (List SqlxMigration)) : Prop :=
  latestStartupVersion known ≠ 0 → ∀ s ∈ seeded legacy, s.version ≤ latestStartupVersion known

/-- The phase is part of the key, so the row of a startup migration is one that the status reads. -/
theorem pending_startup_eq_nil :
    pending (appliedStartupVersions rows) (startupMigrations known) = [] ↔ StartupApplied known rows := by
  unfold pending
  rw [List.filter_eq_nil_iff]
  refine forall₂_congr fun m member => ?_
  have startup := (List.mem_filter.mp member).2
  have phase : ∀ a : AppliedMigration, a.key = m.key → a.phase.startup := fun a same => (Prod.mk.inj same).2 ▸ startup
  simp only [appliedStartupVersions,List.mem_map,List.mem_filter]
  grind

section

variable (sourced : Sourced known legacy rows) (first : rows = [] → seeded legacy = [])
include sourced first

/-- The versions the status reads are those of startup migrations and those of the seeds. -/
theorem startup_versions_le_iff (latest : latestStartupVersion known ≠ 0) :
    (∀ a ∈ appliedStartupVersions rows, a.version ≤ latestStartupVersion known) ↔ Covered known legacy := by
  constructor
  · intro bounded _ s seed
    have some : rows ≠ [] := fun none => by simp [first none] at seed
    obtain ⟨a,row,same⟩ := sourced.seed some s seed
    obtain ⟨version,phase⟩ := Prod.mk.inj same
    have startup : a.phase.startup := by rw [phase,seeded_phase seed]; rfl
    exact version ▸ bounded a (List.mem_filter.mpr ⟨row,startup⟩)
  · intro covered a row
    obtain ⟨listed,startup⟩ := List.mem_filter.mp row
    obtain ⟨m,member,same⟩ | seed := sourced.source a listed
    · obtain ⟨version,phase⟩ := Prod.mk.inj same
      exact version ▸ (latestStartupVersion_spec known).1 m (List.mem_filter.mpr ⟨member,phase ▸ startup⟩)
    · exact covered latest a seed

/-- `Behind` while a startup migration has no row; then `Current` or, with a seed above, `Diverged`. -/
theorem statusInfo_eq (done : StartupApplied known rows) :
    (statusInfo known (appliedStartupVersions rows) = .current ↔ Covered known legacy) ∧
      ((∃ applied latest, statusInfo known (appliedStartupVersions rows) = .diverged applied latest) ↔
        ¬ Covered known legacy) := by
  have none := pending_startup_eq_nil.mpr done
  by_cases zero : latestStartupVersion known = 0
  · simp [statusInfo,none,zero,Covered]
  rw [← startup_versions_le_iff sourced first zero]
  obtain ⟨m,member,latest⟩ := (latestStartupVersion_spec known).2 zero
  have reached : latestStartupVersion known ∈ (appliedStartupVersions rows).map (·.version) := by
    obtain ⟨a,row,same⟩ := done m member
    obtain ⟨version,phase⟩ := Prod.mk.inj same
    exact List.mem_map.mpr ⟨a,List.mem_filter.mpr ⟨row,phase ▸ (List.mem_filter.mp member).2⟩,version.trans latest⟩
  cases highest : ((appliedStartupVersions rows).map (·.version)).max? with
  | none => simp [List.max?_eq_none_iff.mp highest] at reached
  | some last =>
    obtain ⟨listed,bound⟩ := List.max?_eq_some_iff.mp highest
    have least := bound _ reached
    have same : (∀ a ∈ appliedStartupVersions rows, a.version ≤ latestStartupVersion known) ↔
      last = latestStartupVersion known := by
      rw [← List.forall_mem_map (P := fun version => version ≤ latestStartupVersion known)]
      exact ⟨fun all => Int.le_antisymm (all _ listed) least,fun equal version member => equal ▸ bound version member⟩
    rw [same]
    simp only [statusInfo,none,highest]
    grind

end

theorem status_ensures (known : List VersionedMigration) (legacy : Option (List SqlxMigration)) :
    Ensures (fun b => b.legacy = legacy ∧ Sourced known legacy b.applied) (status known)
      (fun answer b => Ready legacy (Sourced known legacy) b.applied ∧
        answer = statusInfo known (appliedStartupVersions b.applied))
      (fun _ => True) := by
  refine ((initStateTables_ensures fun _ => .seeded known legacy).imp_error fun _ _ => trivial).bind fun _ => ?_
  refine ((attempt_keeps _).imp_error fun _ _ => trivial).bind fun _ => get_ensures fun b => ?_
  exact .pure fun s start => ⟨start.2.2,by rw [start.1]⟩

/-- The answer of `status` after any calls, of which each may fail anywhere. -/
theorem status_exact (known : List VersionedMigration) (legacy : Option (List SqlxMigration))
    (run : List (Call × List (Option Nat))) (replies : List (Option Nat))
    (answered : (status known).run { execute (step known) (.empty legacy) run with replies } = .ok answer b) :
    (∀ a ∈ b.applied, (∃ m ∈ known, m.version = a.version) ∨ a ∈ seeded legacy) ∧
      (StartupApplied known b.applied → (answer = .current ↔ Covered known legacy)) ∧
      ((∃ applied latest, answer = .diverged applied latest) ↔ StartupApplied known b.applied ∧ ¬ Covered known legacy) := by
  have kept := execute_invariant (I := fun b : Backend => b.legacy = legacy ∧ Sourced known legacy b.applied)
    (fun _ c => step_sourced c) run (s := .empty legacy) ⟨rfl,nofun,fun some => (some rfl).elim⟩
  obtain ⟨⟨sourced,first⟩,rfl⟩ :=
    (status_ensures known legacy).ok (s := { execute (step known) (.empty legacy) run with replies }) kept answered
  refine ⟨fun a row => (sourced.source a row).imp_left fun ⟨m,member,same⟩ => ⟨m,member,congrArg Prod.fst same⟩,
    fun done => (statusInfo_eq sourced first done).1,fun diverged => ?_,fun ⟨done,above⟩ =>
      (statusInfo_eq sourced first done).2.mpr above⟩
  by_cases done : StartupApplied known b.applied
  · exact ⟨done,(statusInfo_eq sourced first done).2.mp diverged⟩
  · obtain ⟨applied,latest,diverged⟩ := diverged
    simp [statusInfo,mt pending_startup_eq_nil.mp done] at diverged

namespace Sample

def migrations (keys : List Key) : List VersionedMigration := keys.map fun (version,phase) => ⟨⟨version,phase,[]⟩,""⟩

def known : List VersionedMigration := migrations [(1,.expand),(1,.backfill),(1,.switch),(2,.contract)]

def calls (run : List Call) : List (Call × List (Option Nat)) := run.map fun c => (c,List.replicate 20 (some 0))

def rows (run : List Call) : List AppliedMigration := (execute (step known) (.empty none) (calls run)).applied

theorem switched_first : (rows [.runPhase .switch]).map (·.key) = [(1,.switch)] := by decide +kernel

theorem switched_in_order : InOrder known (rows [.runStartup,.runBackfills,.runPhase .switch]) := by
  refine phases_in_order known (.empty none) (by simp [InOrder,Backend.empty]) (calls _) ⟨trivial,trivial,fun _ => ?_,trivial⟩
  unfold Prepared
  decide +kernel

/-- Versions 1 and 2 were applied before there were phases. -/
def older : Option (List SqlxMigration) := some [⟨1,[],true⟩,⟨2,[],true⟩]

def answered (known : List VersionedMigration) : EStateM.Result StorageError Backend MigrationStatus :=
  (status known).run { execute (step known) (.empty older) (calls [.runStartup]) with replies := List.replicate 6 (some 0) }

theorem covered_current : ∃ b, answered (migrations [(1,.baseline),(2,.migrate)]) = .ok .current b := by
  let known := migrations [(1,.baseline),(2,.migrate)]
  have current := (status_exact known older (calls [.runStartup]) (List.replicate 6 (some 0)) rfl).2.1
    (by unfold StartupApplied; decide +kernel)
  exact ⟨_,congrArg (EStateM.Result.ok · _) (current.mpr (by unfold Covered; decide +kernel))⟩

/-- All versions are known and the startup migration is applied, but version 2 is now one to contract. -/
theorem known_version_diverges :
    let known := migrations [(1,.baseline),(2,.contract)]
    (startupMigrations known).map (·.key) = [(1,.baseline)] ∧
      ∃ b, answered known = .ok (.diverged 2 1) b ∧ b.applied.map (·.key) = [(1,.baseline),(2,.baseline)] :=
  ⟨by decide +kernel,_,rfl,by decide +kernel⟩

end Sample

end CheetahSignaling.PhaseMigration
