import CheetahSignaling.MediaCallback

/-! What each kind of callback does to the aggregates, as tables over their states: the
state it drives an aggregate to, and by how many revisions the aggregate is then ahead of
its stored row. The saves that follow accept at most one, so the tables decide which
callbacks are applied and which are refused. -/
namespace CheetahSignaling.MediaCallback

open Service EStateM Table

def sessionTarget : Kind → MediaSessionState → MediaSessionState
  | .started, .allocating | .started, .inviting => .active
  | .started, state => state
  | .stopped _, state => if MediaSession.terminal state then state else .stopped
  | .failed _, state => if MediaSession.terminal state then state else .failed

def sessionAhead : Kind → MediaSessionState → Nat
  | .started, .allocating | .started, .inviting => 1
  | .started, _ => 0
  | .stopped _, .active => 2
  | .stopped _, state | .failed _, state => if MediaSession.terminal state then 0 else 1

def bindingTarget : Kind → MediaBindingState → MediaBindingState
  | .started, .reserved | .started, .needsVerification => .active
  | .started, state => state
  | .stopped _, .reserved => .reserved
  | .stopped _, state => if MediaBinding.terminal state then state else .released
  | .failed _, state => if MediaBinding.terminal state then state else .failed

def bindingAhead : Kind → MediaBindingState → Nat
  | .started, .reserved | .started, .needsVerification => 1
  | .started, _ => 0
  | .stopped _, .active | .stopped _, .needsVerification => 2
  | .stopped _, .releasing => 1
  | .stopped _, _ => 0
  | .failed _, state => if MediaBinding.terminal state then 0 else 1

def operationResult : Kind → OperationResult
  | .started => .success
  | .stopped reason => stopResult reason
  | .failed error => .failure error

/-- The error text of a failure is checked by every aggregate it is written to. -/
def TextFits (session : MediaSession) (binding : MediaBinding) : Kind → Prop
  | .failed error => session.isTerminal = false ∨ binding.isTerminal = false → error.Fits
  | _ => True

/-- What a callback must meet to be saved: no row may move twice in one call. -/
structure Accepted (session : MediaSession) (binding : MediaBinding) (operation : Option Operation)
    (kind : Kind) : Prop where
  text : TextFits session binding kind
  sessionOnce : sessionAhead kind session.state ≤ 1
  bindingOnce : bindingAhead kind binding.state ≤ 1
  running : ∀ op ∈ operation, op.status = .running ∧ (operationResult kind).validate = .ok ()

theorem sessionTarget_eq_iff : sessionTarget kind state = state ↔ sessionAhead kind state = 0 := by
  cases kind <;> cases state <;> simp [sessionTarget,sessionAhead,MediaSession.terminal]

theorem bindingTarget_eq_iff : bindingTarget kind state = state ↔ bindingAhead kind state = 0 := by
  cases kind <;> cases state <;> simp [bindingTarget,bindingAhead,MediaBinding.terminal]

variable (tenant : TenantId) (now : UtcTimestamp)

def moveSession (session : MediaSession) : Kind → Service MediaSession
  | .started => startSession tenant now session
  | .stopped _ => stopSession tenant now session
  | .failed error => failSession tenant now error session

def moveBinding (binding : MediaBinding) : Kind → Service MediaBinding
  | .started => activateBinding tenant now binding
  | .stopped _ => releaseBinding tenant now binding
  | .failed error => failBinding tenant now error binding

theorem applyKind_eq :
    applyKind tenant now session binding operation kind = (do
      let session ← moveSession tenant now session kind
      let binding ← moveBinding tenant now binding kind
      let operation ← completeOperation tenant now operation (operationResult kind)
      return (session,binding,operation)) := by
  cases kind <;> rfl

/-- What a handler has done with the session: `Started` may have stored it once already. -/
structure SessionMoved (kind : Kind) (w : World) (session session' : MediaSession) (w' : World) : Prop where
  id : session'.mediaSessionId = session.mediaSessionId
  state : session'.state = sessionTarget kind session.state
  newer : sessionAhead kind session.state ≠ 0 → session.revision < session'.revision
  row : ∃ row, w'.working.sessions.find session.mediaSessionId = some row ∧
    session'.revision = row.revision + sessionAhead kind session.state
  others : ∀ k, k ≠ session.mediaSessionId → w'.working.sessions.find k = w.working.sessions.find k
  kept : sessionAhead kind session.state = 0 → session' = session ∧ w'.working.sessions = w.working.sessions
  operations : w'.working.operations = w.working.operations
  bindings : w'.working.bindings = w.working.bindings
  committed : w'.committed = w.committed

structure BindingMoved (kind : Kind) (w : World) (binding binding' : MediaBinding) (w' : World) : Prop where
  id : binding'.mediaBindingId = binding.mediaBindingId
  state : binding'.state = bindingTarget kind binding.state
  revision : binding'.revision = binding.revision + bindingAhead kind binding.state
  kept : bindingAhead kind binding.state = 0 → binding' = binding
  tables : SameTables w w'

section

variable {tenant : TenantId} {now : UtcTimestamp}
  {operation : Option Operation}

theorem SessionMoved.of_sameTables (stored : w.HasSession session)
    (same : SameTables w w') (id : session'.mediaSessionId = session.mediaSessionId)
    (state : session'.state = sessionTarget kind session.state)
    (revision : session'.revision = session.revision + sessionAhead kind session.state)
    (kept : sessionAhead kind session.state = 0 → session' = session) :
    SessionMoved kind w session session' w' where
  id := id
  state := state
  newer := by omega
  row := ⟨session,by rw [same.sessions,stored],revision⟩
  others := fun k _ => by rw [same.sessions]
  kept := fun none => ⟨kept none,same.sessions⟩
  operations := same.operations
  bindings := same.bindings
  committed := same.committed

section

variable (tenant : TenantId) (now : UtcTimestamp)

theorem run_startSession_allocating (stored : w.HasSession session)
    (allocating : session.state = .allocating) :
    ∃ w₁ w', SameTables w w₁ ∧ SameTables (w₁.putSession (session.moved now .inviting none)) w' ∧
      (startSession tenant now session).run w =
        .ok ((session.moved now .inviting none).moved now .active none) w' := by
  obtain ⟨w₁,invited,same₁⟩ := run_record (sessionEvent tenant) (session.transitionTo_ok
    (by rw [allocating]; rfl) (by rw [allocating]; rfl) nofun : session.transitionTo now .inviting none = _)
  have stored₁ : w₁.HasSession session := by
    rw [World.HasSession,same₁.sessions,stored]
  have saved : (saveSession (session.moved now .inviting none)).run w₁ =
      .ok () (w₁.putSession (session.moved now .inviting none)) :=
    saveSession_next stored₁ rfl
  obtain ⟨w₂,activated,same₂⟩ := run_record (sessionEvent tenant)
    (MediaSession.transitionTo_ok _ rfl rfl nofun : (session.moved now .inviting none).transitionTo now .active none = _)
  refine ⟨w₁,w₂,same₁,same₂,?_⟩
  simp [startSession,MediaSession.inviting,MediaSession.active,allocating,invited,saved,activated]

theorem run_startSession (stored : w.HasSession session) :
    ∃ session' w', (startSession tenant now session).run w = .ok session' w' ∧
      SessionMoved .started w session session' w' := by
  by_cases allocating : session.state = .allocating
  · obtain ⟨w₁,w',same₁,same₂,ran⟩ := run_startSession_allocating tenant now stored allocating
    refine ⟨_,w',ran,rfl,by simp [allocating,sessionTarget],?_,⟨session.moved now .inviting none,?_,?_⟩,?_,
      ?_,same₂.operations.trans same₁.operations,same₂.bindings.trans same₁.bindings,
      same₂.committed.trans same₁.committed⟩
    · intro _
      exact Nat.lt_add_of_pos_right (by decide : 0 < 2)
    · rw [same₂.sessions]
      exact find_put_same ..
    · simp [allocating,sessionAhead]
    · intro k other
      have apart : k ≠ (session.moved now .inviting none).mediaSessionId := other
      rw [same₂.sessions,World.putSession_sessions,find_put_other _ apart,same₁.sessions]
    · simp [allocating,sessionAhead]
  obtain ⟨session',w',ran,same,id,state,revision,kept⟩ : ∃ session' w',
      (startSession tenant now session).run w = .ok session' w' ∧ SameTables w w' ∧
        session'.mediaSessionId = session.mediaSessionId ∧
        session'.state = sessionTarget .started session.state ∧
        session'.revision = session.revision + sessionAhead .started session.state ∧
        (sessionAhead .started session.state = 0 → session' = session) := by
    obtain ⟨_,_,_,_,_,_,state⟩ := session
    cases state with
    | allocating => exact absurd rfl allocating
    | inviting => exact ⟨_,_,rfl,⟨rfl,rfl,rfl,rfl,rfl⟩,rfl,rfl,rfl,by simp [sessionAhead]⟩
    | _ => exact ⟨_,_,rfl,⟨rfl,rfl,rfl,rfl,rfl⟩,rfl,rfl,rfl,fun _ => rfl⟩
  exact ⟨session',w',ran,.of_sameTables stored same id state revision kept⟩

theorem run_stopSession (stored : w.HasSession session) :
    ∃ session' w', (stopSession tenant now session).run w = .ok session' w' ∧
      SessionMoved (.stopped reason) w session session' w' := by
  obtain ⟨session',w',ran,same,id,state,revision,kept⟩ : ∃ session' w',
      (stopSession tenant now session).run w = .ok session' w' ∧ SameTables w w' ∧
        session'.mediaSessionId = session.mediaSessionId ∧
        session'.state = sessionTarget (.stopped reason) session.state ∧
        session'.revision = session.revision + sessionAhead (.stopped reason) session.state ∧
        (sessionAhead (.stopped reason) session.state = 0 → session' = session) := by
    obtain ⟨_,_,_,_,_,_,state⟩ := session
    cases state <;> exact ⟨_,_,rfl,⟨rfl,rfl,rfl,rfl,rfl⟩,rfl,rfl,rfl,by simp [sessionAhead,MediaSession.terminal]⟩
  exact ⟨session',w',ran,.of_sameTables stored same id state revision kept⟩

theorem run_failSession (stored : w.HasSession session)
    (fits : session.isTerminal = false → error.Fits) :
    ∃ session' w', (failSession tenant now error session).run w = .ok session' w' ∧
      SessionMoved (.failed error) w session session' w' := by
  cases live : session.isTerminal with
  | true =>
    have ahead : sessionAhead (.failed error) session.state = 0 := if_pos live
    refine ⟨session,w,run_failSession_terminal live,.of_sameTables stored (.refl w) rfl ?_ (by simp [ahead])
      fun _ => rfl⟩
    exact (sessionTarget_eq_iff.mpr ahead).symm
  | false =>
    obtain ⟨w',ran,same⟩ := run_failSession_live tenant now w live (fits live)
    have live : MediaSession.terminal session.state = false := live
    refine ⟨session.moved now .failed (some error),w',ran,.of_sameTables stored same rfl ?_ ?_ ?_⟩
    · simp [sessionTarget,live]
    · simp [sessionAhead,live]
    · simp [sessionAhead,live]

theorem run_moveBinding
    (fits : ∀ error, kind = .failed error → binding.isTerminal = false → error.Fits) :
    ∃ binding' w', (moveBinding tenant now binding kind).run w = .ok binding' w' ∧
      BindingMoved kind w binding binding' w' := by
  cases kind with
  | started =>
    obtain ⟨_,_,_,_,_,_,_,state⟩ := binding
    cases state with
    | reserved => exact ⟨_,_,rfl,rfl,rfl,rfl,by simp [bindingAhead],rfl,rfl,rfl,rfl,rfl⟩
    | needsVerification => exact ⟨_,_,rfl,rfl,rfl,rfl,by simp [bindingAhead],rfl,rfl,rfl,rfl,rfl⟩
    | _ => exact ⟨_,_,rfl,rfl,rfl,rfl,fun _ => rfl,rfl,rfl,rfl,rfl,rfl⟩
  | stopped reason =>
    obtain ⟨_,_,_,_,_,_,_,state⟩ := binding
    cases state <;> exact ⟨_,_,rfl,rfl,rfl,rfl,by simp [bindingAhead],rfl,rfl,rfl,rfl,rfl⟩
  | failed error =>
    cases live : binding.isTerminal with
    | true =>
      have ahead : bindingAhead (.failed error) binding.state = 0 := if_pos live
      refine ⟨binding,w,run_failBinding_terminal live,rfl,?_,by simp [ahead],fun _ => rfl,.refl w⟩
      exact (bindingTarget_eq_iff.mpr ahead).symm
    | false =>
      obtain ⟨w',ran,same⟩ := run_failBinding_live tenant now live (fits error rfl live)
      have live : MediaBinding.terminal binding.state = false := live
      refine ⟨binding.moved now .failed (some error),w',ran,rfl,?_,?_,?_,same⟩
      · simp [bindingTarget,live]
      · simp [bindingAhead,live]
      · simp [bindingAhead,live]

theorem run_moveSession (stored : w.HasSession session)
    (fits : ∀ error, kind = .failed error → session.isTerminal = false → error.Fits) :
    ∃ session' w', (moveSession tenant now session kind).run w = .ok session' w' ∧
      SessionMoved kind w session session' w' := by
  cases kind with
  | started => exact run_startSession tenant now stored
  | stopped reason => exact run_stopSession tenant now stored
  | failed error => exact run_failSession tenant now stored (fits error rfl)

theorem SessionMoved.sameTables (moved : SessionMoved kind w session session' w₁)
    (same : SameTables w₁ w₂) : SessionMoved kind w session session' w₂ where
  id := moved.id
  state := moved.state
  newer := moved.newer
  row := same.sessions ▸ moved.row
  others := fun k other => by rw [same.sessions,moved.others k other]
  kept := fun none => ⟨(moved.kept none).1,same.sessions.trans (moved.kept none).2⟩
  operations := same.operations.trans moved.operations
  bindings := same.bindings.trans moved.bindings
  committed := same.committed.trans moved.committed

/-- A callback moves session and binding to their targets and completes the operation. -/
theorem run_applyKind (stored : w.HasSession session)
    (text : TextFits session binding kind)
    (running : ∀ op ∈ operation, op.status = .running ∧ (operationResult kind).validate = .ok ()) :
    ∃ session' binding' w₁ w', SessionMoved kind w session session' w' ∧ BindingMoved kind w₁ binding binding' w' ∧
      (applyKind tenant now session binding operation kind).run w = .ok (session',binding',
        operation.map fun op => op.completed (operationResult kind) now) w' := by
  have fits : ∀ error, kind = .failed error →
      session.isTerminal = false ∨ binding.isTerminal = false → error.Fits := by
    rintro error rfl
    exact text
  obtain ⟨session',w₁,moveS,sessionMoved⟩ := run_moveSession tenant now stored
    fun error failed live => fits error failed (.inl live)
  obtain ⟨binding',w₂,moveB,bindingMoved⟩ := run_moveBinding tenant now
    fun error failed live => fits error failed (.inr live)
  obtain ⟨w₃,complete,same⟩ := run_completeOperation_running tenant now w₂ running
  refine ⟨session',binding',w₁,w₃,sessionMoved.sameTables (bindingMoved.tables.trans same),
    { bindingMoved with tables := bindingMoved.tables.trans same },?_⟩
  simp only [applyKind_eq,run_bind,moveS,moveB,complete,run_pure]

theorem SessionMoved.run_save (moved : SessionMoved kind w session session' w')
    (stored : w.HasSession session)
    (once : sessionAhead kind session.state ≤ 1) :
    ∃ w₁, (if session'.state ≠ session.state then saveSession session' else pure () : Service Unit).run w' =
        .ok () w₁ ∧
      w₁.working.sessions.find session.mediaSessionId = some session' ∧
      (∀ k, k ≠ session.mediaSessionId → w₁.working.sessions.find k = w.working.sessions.find k) ∧
      w₁.working.bindings = w.working.bindings ∧ w₁.working.operations = w.working.operations := by
  by_cases none : sessionAhead kind session.state = 0
  · obtain ⟨rfl,sessions⟩ := moved.kept none
    refine ⟨w',by simp,by rw [sessions,stored],moved.others,moved.bindings,moved.operations⟩
  obtain ⟨row,stored,revision⟩ := moved.row
  have changed : session'.state ≠ session.state := by
    rw [moved.state]
    exact mt sessionTarget_eq_iff.mp none
  refine ⟨w'.putSession session',?_,?_,?_,moved.bindings,moved.operations⟩
  · rw [if_pos changed]
    apply saveSession_next (moved.id.symm ▸ stored)
    omega
  · rw [← moved.id]
    exact find_put_same ..
  · intro k other
    rw [World.putSession_sessions,find_put_other _ (moved.id.symm ▸ other),moved.others k other]

theorem BindingMoved.run_save (moved : BindingMoved kind w binding binding' w')
    (stored : before.working.bindings.find binding.mediaBindingId = some binding)
    (once : bindingAhead kind binding.state ≤ 1) :
    ∃ w₁, (if binding'.state ≠ binding.state then saveBinding binding' else pure () : Service Unit).run before =
        .ok () w₁ ∧
      w₁.working.bindings.find binding.mediaBindingId = some binding' ∧
      w₁.working.sessions = before.working.sessions ∧ w₁.working.operations = before.working.operations := by
  by_cases none : bindingAhead kind binding.state = 0
  · obtain rfl := moved.kept none
    exact ⟨before,by simp,stored,rfl,rfl⟩
  have changed : binding'.state ≠ binding.state := by
    rw [moved.state]
    exact mt bindingTarget_eq_iff.mp none
  refine ⟨before.putBinding binding',?_,?_,rfl,rfl⟩
  · rw [if_pos changed]
    apply saveBinding_next (moved.id.symm ▸ stored)
    have revision := moved.revision
    omega
  · rw [← moved.id]
    exact find_put_same ..

theorem run_saveCompleted (running : ∀ op ∈ operation, op.status = .running)
    (stored : ∀ op ∈ operation, w.working.operations.find op.operationId = some op) :
    ∃ w₁, (match operation.map (fun op => op.completed result now) with
        | some op => if some op.status ≠ operation.map Operation.status then saveOperation op else pure ()
        | none => pure () : Service Unit).run w = .ok () w₁ ∧
      (∀ op ∈ operation, w₁.working.operations.find op.operationId = some (op.completed result now)) ∧
      (∀ k, (∀ op ∈ operation, k ≠ op.operationId) → w₁.working.operations.find k = w.working.operations.find k) ∧
      w₁.working.sessions = w.working.sessions ∧ w₁.working.bindings = w.working.bindings := by
  cases operation with
  | none => exact ⟨w,rfl,by simp,fun _ _ => rfl,rfl,rfl⟩
  | some op =>
    have changed : some (op.completed result now).status ≠ (some op).map Operation.status := by
      cases result <;> simp [running op rfl,Operation.completedStatus,OperationResult.isSuccess]
    refine ⟨w.putOperation (op.completed result now),?_,?_,?_,rfl,rfl⟩
    · simp only [Option.map_some] at changed ⊢
      rw [if_pos changed]
      exact saveOperation_next (stored op rfl) op.completed_revision.symm
    · intro other named
      cases named
      exact find_put_same ..
    · intro k other
      exact find_put_other _ (other op rfl)

end

/-- The tables after a callback that was applied. -/
structure Effect (kind : Kind) (now : UtcTimestamp) (w : World) (session : MediaSession)
    (binding : MediaBinding) (operation : Option Operation) (after : World) : Prop where
  sessionSaved : ∃ session', after.working.sessions.find session.mediaSessionId = some session' ∧
    session'.state = sessionTarget kind session.state ∧
    (sessionAhead kind session.state = 0 ↔ session' = session)
  otherSessions : ∀ k, k ≠ session.mediaSessionId → after.working.sessions.find k = w.working.sessions.find k
  bindingSaved : ∃ binding', after.working.bindings.find binding.mediaBindingId = some binding' ∧
    binding'.state = bindingTarget kind binding.state
  operationSaved : ∀ op ∈ operation, after.working.operations.find op.operationId =
    some (op.completed (operationResult kind) now)
  otherOperations : ∀ k, (∀ op ∈ operation, k ≠ op.operationId) →
    after.working.operations.find k = w.working.operations.find k

theorem run_saveChanged (accepted : Accepted session binding operation kind)
    (storedSession : w.HasSession session)
    (storedBinding : w.working.bindings.find binding.mediaBindingId = some binding)
    (storedOperation : ∀ op ∈ operation, w.working.operations.find op.operationId = some op)
    (sessionMoved : SessionMoved kind w session session' w')
    (bindingMoved : BindingMoved kind before binding binding' w') :
    ∃ after, (saveChanged (session,binding,operation) (session',binding',
        operation.map fun op => op.completed (operationResult kind) now)).run w' = .ok () after ∧
      Effect kind now w session binding operation after := by
  obtain ⟨w₁,saveS,session₁,others₁,bindings₁,operations₁⟩ := sessionMoved.run_save storedSession accepted.sessionOnce
  obtain ⟨w₂,saveB,binding₂,sessions₂,operations₂⟩ :=
    bindingMoved.run_save (bindings₁.symm ▸ storedBinding) accepted.bindingOnce
  have operations := operations₂.trans operations₁
  obtain ⟨w₃,saveO,operation₃,others₃,sessions₃,bindings₃⟩ := run_saveCompleted now
    (fun op named => (accepted.running op named).1) (operations.symm ▸ storedOperation)
  have sessions := sessions₃.trans sessions₂
  refine ⟨w₃,?_,⟨session',by rw [sessions,session₁],sessionMoved.state,?_⟩,?_,
    ⟨binding',by rw [bindings₃,binding₂],bindingMoved.state⟩,operation₃,?_⟩
  · simp only [saveChanged,run_bind,saveS,saveB]
    exact saveO
  · refine ⟨fun none => (sessionMoved.kept none).1,fun same => ?_⟩
    by_contra ahead
    have newer := sessionMoved.newer ahead
    rw [same] at newer
    omega
  · intro k other
    rw [sessions,others₁ k other]
  · intro k other
    rw [others₃ k other,operations]

theorem Accepted.live (accepted : Accepted session binding operation kind) :
    operation.any Operation.isTerminal = false := by
  rw [Option.any_eq_false_iff_get]
  intro named
  have running := (accepted.running (operation.get named) (Option.get_mem named)).1
  simp [Operation.isTerminal,running,OperationStatus.isTerminal]

theorem Fenced.applied (now : UtcTimestamp) (fenced : Fenced tenant w callback session binding operation)
    (accepted : Accepted session binding operation callback.kind) :
    ∃ returned after, (applyMediaEvent tenant now callback).run w = .ok returned after ∧
      Effect callback.kind now w session binding operation after := by
  obtain ⟨session',binding',w₁,w',sessionMoved,bindingMoved,ran⟩ :=
    run_applyKind tenant now fenced.session_stored accepted.text accepted.running
  obtain ⟨after,saved,effect⟩ := run_saveChanged accepted fenced.session_stored fenced.binding_stored
    fenced.operation_stored sessionMoved bindingMoved
  refine ⟨session',after,?_,effect⟩
  simp only [fenced.run,accepted.live,Bool.false_eq_true,if_false,run_bind,ran,saved,run_pure]

theorem applyKind_ok (live : operation.any Operation.isTerminal = false)
    (ran : (applyKind tenant now session binding operation kind).run w = .ok result w') :
    TextFits session binding kind ∧
      ∀ op ∈ operation, op.status = .running ∧ (operationResult kind).validate = .ok () := by
  rw [applyKind_eq] at ran
  obtain ⟨session',w₁,moveS,ran⟩ := bind_ok ran
  obtain ⟨binding',w₂,moveB,ran⟩ := bind_ok ran
  obtain ⟨operation',w₃,complete,-⟩ := bind_ok ran
  constructor
  · cases kind with
    | started => trivial
    | stopped reason => trivial
    | failed error =>
      intro needed
      by_contra oversized
      rcases needed with liveSession | liveBinding
      · obtain ⟨e,refused⟩ := failSession_refused tenant now w liveSession oversized
        rw [moveSession,refused] at moveS
        cases moveS
      · obtain ⟨e,refused⟩ := failBinding_refused tenant now w₁ liveBinding oversized
        rw [moveBinding,refused] at moveB
        cases moveB
  intro op named
  cases named
  by_contra refused
  obtain ⟨e,failed⟩ := run_completeOperation_refused
    (by simpa using live) refused
  rw [failed] at complete
  cases complete

theorem Fenced.accepted (fenced : Fenced tenant w callback session binding operation)
    (live : operation.any Operation.isTerminal = false)
    (ran : (applyMediaEvent tenant now callback).run w = .ok returned after) :
    Accepted session binding operation callback.kind := by
  rw [fenced.run,live,if_neg Bool.false_ne_true] at ran
  obtain ⟨result,w₁,applied,ran⟩ := bind_ok ran
  obtain ⟨_,w₂,saved,-⟩ := bind_ok ran
  obtain ⟨text,running⟩ := applyKind_ok live applied
  obtain ⟨session',binding',w₃,w₄,sessionMoved,bindingMoved,ran⟩ :=
    run_applyKind tenant now fenced.session_stored text running
  rw [ran] at applied
  cases applied
  obtain ⟨sessionNext,bindingNext,-⟩ := saveChanged_ok saved
  refine ⟨text,?_,?_,running⟩
  · by_contra twice
    obtain ⟨row,rowStored,revision⟩ := sessionMoved.row
    have moved : session'.state ≠ session.state := by
      rw [sessionMoved.state]
      exact mt sessionTarget_eq_iff.mp (by omega)
    have next := sessionNext moved row (sessionMoved.id.symm ▸ rowStored)
    dsimp only at next
    omega
  by_contra twice
  have moved : binding'.state ≠ binding.state := by
    rw [bindingMoved.state]
    exact mt bindingTarget_eq_iff.mp (by omega)
  have rowStored : w₁.working.bindings.find binding'.mediaBindingId = some binding := by
    rw [sessionMoved.bindings,bindingMoved.id,fenced.binding_stored]
  have next := bindingNext moved binding rowStored
  have revision := bindingMoved.revision
  dsimp only at next
  omega

end

end CheetahSignaling.MediaCallback
