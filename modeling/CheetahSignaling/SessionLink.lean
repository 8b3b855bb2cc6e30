import CheetahSignaling.ProtocolSession
import CheetahSignaling.Resumption
import CheetahSignaling.SortedTable
import Mathlib.Data.Prod.Lex

/-! The `protocol_sessions` table and the link that drives sessions through it. A method of the link
is a program over the calls of its repository, so that others may run between two calls. -/
namespace CheetahSignaling.SessionLink

open Resumption (Prog)

def Clashes (a b : ProtocolSession) : Prop := a.tenantId = b.tenantId ∧ a.protocol = b.protocol ∧
    (a.deviceId = b.deviceId ∨ a.protocolIdentity = b.protocolIdentity)

instance (a b : ProtocolSession) : Decidable (Clashes a b) := inferInstanceAs (Decidable (_ ∧ _ ∧ _))

theorem Clashes.symm (clash : Clashes a b) : Clashes b a := ⟨clash.1.symm,clash.2.1.symm,clash.2.2.imp Eq.symm Eq.symm⟩

structure ProtocolSessions where
  table : Table ProtocolSession.protocolSessionId
  unique : ∀ a ∈ table.rows, ∀ b ∈ table.rows, Clashes a b → a = b

abbrev Cursor := Int × ProtocolSessionId

structure ExpiredPage where
  items : List ProtocolSession
  nextCursor : Option Cursor

namespace ProtocolSessions

def empty : ProtocolSessions := ⟨.empty,List.forall_mem_nil _⟩

section

variable (store : ProtocolSessions)

def getByDevice (tenantId : TenantId) (protocol : Protocol) (deviceId : DeviceId) : Option ProtocolSession :=
  store.table.rows.find? fun row => row.tenantId = tenantId ∧ row.protocol = protocol ∧ row.deviceId = deviceId

def Free (session : ProtocolSession) : Prop :=
  ∀ row ∈ store.table.rows, Clashes row session → row.protocolSessionId = session.protocolSessionId

instance (store : ProtocolSessions) (session : ProtocolSession) : Decidable (store.Free session) :=
  inferInstanceAs (Decidable (∀ row ∈ store.table.rows, _ → _))

def put (session : ProtocolSession) (free : store.Free session) : ProtocolSessions where
  table := store.table.put session
  unique := by
    intro a left b right clash
    rw [Table.mem_put] at left right
    obtain rfl | ⟨left,apart⟩ := left
    · obtain rfl | ⟨right,apart⟩ := right
      · rfl
      · exact absurd (free b right clash.symm) apart
    · obtain rfl | ⟨right,-⟩ := right
      · exact absurd (free a left clash) apart
      · exact store.unique a left b right clash

def save (session : ProtocolSession) : Except DomainError ProtocolSessions :=
  match store.table.find session.protocolSessionId with
  | some stored =>
    if stored.revision + 1 = session.revision then insert
    else .error (.concurrentModification (session.revision - 1) stored.revision)
  | none => insert
where
  insert :=
    if free : store.Free session then .ok (store.put session free)
    else .error (.invalidArgument "UNIQUE constraint failed: protocol_sessions")

def delete (tenantId : TenantId) (id : ProtocolSessionId) (expectedRevision : Nat) :
    Except DomainError ProtocolSessions :=
  match (store.table.find id).filter fun row => row.tenantId = tenantId with
  | some row =>
    if row.revision = expectedRevision then
      .ok ⟨store.table.remove id,fun a left b right =>
        store.unique a ((store.table.mem_remove).mp left).1 b ((store.table.mem_remove).mp right).1⟩
    else .error (.concurrentModification expectedRevision row.revision)
  | none => .error (.notFound "protocol_session" id)

def listExpired (now : UtcTimestamp) (cursor : Option Cursor) (pageSize : Nat) : ExpiredPage :=
  let position (row : ProtocolSession) : Cursor := (toMillis row.updatedAt,row.protocolSessionId)
  let rows := (store.table.rows.filter fun row =>
    toMillis row.expiryAt ≤ toMillis now && cursor.all fun last => toLex last < toLex (position row)).mergeSort
      fun a b => toLex (position a) ≤ toLex (position b)
  ⟨rows.take pageSize,if pageSize < rows.length then rows[pageSize - 1]?.map position else none⟩

end

variable {store : ProtocolSessions}

theorem getByDevice_eq_some : store.getByDevice tenantId protocol deviceId = some session ↔
      session ∈ store.table.rows ∧ session.tenantId = tenantId ∧ session.protocol = protocol ∧
        session.deviceId = deviceId := by
  constructor
  · intro found
    exact ⟨List.mem_of_find?_eq_some found,by simpa using List.find?_some found⟩
  rintro ⟨member,rfl,rfl,rfl⟩
  cases found : store.getByDevice session.tenantId session.protocol session.deviceId with
  | none => simpa using List.find?_eq_none.mp found session member
  | some other =>
    have same : other.tenantId = session.tenantId ∧ other.protocol = session.protocol ∧
        other.deviceId = session.deviceId := by simpa using List.find?_some found
    rw [store.unique other (List.mem_of_find?_eq_some found) session member ⟨same.1,same.2.1,.inl same.2.2⟩]

theorem getByDevice_put (free : store.Free session) :
    (store.put session free).getByDevice session.tenantId session.protocol session.deviceId = some session :=
  getByDevice_eq_some.mpr ⟨store.table.mem_put.mpr (.inl rfl),rfl,rfl,rfl⟩

theorem free_of_follows (stored : session ∈ store.table.rows) (follows : session.Follows next) : store.Free next := by
  intro row member clash
  have clash : Clashes row session := ⟨clash.1.trans follows.tenantId,clash.2.1.trans follows.protocol,
      clash.2.2.imp (·.trans follows.deviceId) (·.trans follows.protocolIdentity)⟩
  rw [store.unique row member session stored clash,follows.protocolSessionId]

theorem save_follows (found : store.getByDevice tenantId protocol deviceId = some session)
    (follows : session.Follows next) :
    ∃ store', store.save next = .ok store' ∧ store'.getByDevice tenantId protocol deviceId = some next := by
  obtain ⟨member,rfl,rfl,rfl⟩ := getByDevice_eq_some.mp found
  have stored := store.table.find_eq_some.mpr ⟨member,follows.protocolSessionId.symm⟩
  have free := free_of_follows member follows
  refine ⟨store.put next free,?_,?_⟩
  · simp [save,save.insert,stored,follows.revision,free]
  · rw [← follows.tenantId,← follows.protocol,← follows.deviceId]
    exact getByDevice_put free

theorem save_ok (saved : store.save session = .ok store') :
    (∀ old ∈ store.table.find session.protocolSessionId, old.revision + 1 = session.revision) ∧
      ∃ free, store' = store.put session free := by
  have inserted (done : save.insert store session = .ok store') : ∃ free, store' = store.put session free := by
    unfold save.insert at done
    split at done
    · cases done
      exact ⟨_,rfl⟩
    · cases done
  unfold save at saved
  split at saved
  · rename_i stored found
    split at saved
    · rename_i next
      exact ⟨fun old same => Option.some.inj (found.symm.trans same) ▸ next,inserted saved⟩
    · cases saved
  · rename_i found
    exact ⟨by simp [found],inserted saved⟩

theorem delete_ok {id : ProtocolSessionId} (deleted : store.delete tenantId id expectedRevision = .ok store') :
    ∃ row ∈ store.table.rows, row.protocolSessionId = id ∧ row.revision = expectedRevision ∧
      ∀ other ∈ store'.table.rows, other ∈ store.table.rows ∧ other.protocolSessionId ≠ id := by
  unfold delete at deleted
  split at deleted
  · rename_i row found
    split at deleted
    · rename_i same
      cases deleted
      obtain ⟨member,key⟩ := store.table.find_eq_some.mp (Option.filter_eq_some_iff.mp found).1
      exact ⟨row,member,key,same,fun other member => store.table.mem_remove.mp member⟩
    · cases deleted
  · cases deleted

end ProtocolSessions

/-- The calls of the repository that the link makes; it only asks for sessions of GB28181. -/
inductive Call where
  | getByDevice (tenantId : TenantId) (deviceId : DeviceId)
  | save (session : ProtocolSession)
  | delete (tenantId : TenantId) (id : ProtocolSessionId) (expectedRevision : Nat)
  | listExpired (now : UtcTimestamp) (cursor : Option Cursor) (pageSize : Nat)

abbrev Answer : Call → Type
  | .getByDevice .. => Option ProtocolSession
  | .save _ => Unit
  | .delete .. => Unit
  | .listExpired .. => ExpiredPage

abbrev Reply (c : Call) : Type := Except DomainError (Answer c)

def answer : (c : Call) → ProtocolSessions → Reply c × ProtocolSessions
  | .getByDevice tenantId deviceId, store => (.ok (store.getByDevice tenantId .gb28181 deviceId),store)
  | .save session, store =>
    match store.save session with
    | .ok store => (.ok (),store)
    | .error e => (.error e,store)
  | .delete tenantId id expectedRevision, store =>
    match store.delete tenantId id expectedRevision with
    | .ok store => (.ok (),store)
    | .error e => (.error e,store)
  | .listExpired now cursor pageSize, store => (.ok (store.listExpired now cursor pageSize),store)

inductive SessionLinkError where
  | notRegistered
  | expired
  | staleOwner (current got : OwnerEpoch)
  | repository (error : DomainError)
  deriving DecidableEq

structure SessionContext where
  tenantId : TenantId
  deviceId : DeviceId
  protocolIdentity : String
  localIdentity : LocalIdentity
  transport : SipTransport
  ownerNodeId : NodeId
  ownerEpoch : OwnerEpoch
  compatibility : CompatibilityProfile

structure RegisterParams where
  endpoint : SessionEndpoint
  registration : RegistrationInfo
  expiryAt : UtcTimestamp

inductive RegisterOutcome where
  | created (protocolSessionId : ProtocolSessionId) (ownerEpoch : OwnerEpoch)
  | refreshed (protocolSessionId : ProtocolSessionId) (revision : Nat)
  deriving DecidableEq

abbrev Link (α : Type) := Prog Call Reply (Except SessionLinkError α)

namespace Link

def fail (e : SessionLinkError) : Link α := .ret (.error e)

/-- Makes a call; an error of the repository ends the program. -/
def ask (c : Call) (next : Answer c → Link α) : Link α := .call c fun
    | .ok a => next a
    | .error e => fail (.repository e)

/-- Goes on with a value of the domain; its error ends the program. -/
def tryWith (x : Except DomainError β) (next : β → Link α) : Link α :=
  match x with
  | .ok b => next b
  | .error e => fail (.repository e)

end Link

open Link

def ensureOwnerCurrent (session : ProtocolSession) (got : OwnerEpoch) (next : Link α) : Link α :=
  if got < session.ownerEpoch then fail (.staleOwner session.ownerEpoch got) else next

def SessionContext.newSession (ctx : SessionContext) (id : ProtocolSessionId) (params : RegisterParams) :
    NewProtocolSession where
  protocolSessionId := id
  tenantId := ctx.tenantId
  deviceId := ctx.deviceId
  protocol := .gb28181
  protocolIdentity := ctx.protocolIdentity
  localIdentity := ctx.localIdentity
  transport := ctx.transport
  endpoint := params.endpoint
  registration := params.registration
  expiryAt := params.expiryAt
  ownerNodeId := some ctx.ownerNodeId
  ownerEpoch := ctx.ownerEpoch
  compatibility := ctx.compatibility

/-- The stored session belongs to another node, or to this one at an older epoch. -/
def SessionContext.TakesOver (ctx : SessionContext) (session : ProtocolSession) : Prop :=
  session.ownerNodeId ≠ some ctx.ownerNodeId ∨ session.ownerEpoch < ctx.ownerEpoch

instance (ctx : SessionContext) (session : ProtocolSession) : Decidable (ctx.TakesOver session) :=
  inferInstanceAs (Decidable (_ ∨ _))

section

variable (clock : UtcTimestamp)

def refresh (params : RegisterParams) (session : ProtocolSession) : Link RegisterOutcome :=
  tryWith (session.refreshRegistration clock params.registration params.expiryAt (some params.endpoint)) fun session =>
  ask (.save session) fun () => .ret (.ok (.refreshed session.protocolSessionId session.revision))

/-- `id` is what the generator gives if a session is created. -/
def register (id : ProtocolSessionId) (ctx : SessionContext) (params : RegisterParams) : Link RegisterOutcome :=
  ask (.getByDevice ctx.tenantId ctx.deviceId) fun
    | none =>
      tryWith (ProtocolSession.new clock (ctx.newSession id params)) fun session =>
      ask (.save session) fun () => .ret (.ok (.created session.protocolSessionId ctx.ownerEpoch))
    | some session =>
      ensureOwnerCurrent session ctx.ownerEpoch <|
      if ctx.TakesOver session then
        let session := session.assignOwner clock ctx.ownerNodeId ctx.ownerEpoch
        ask (.save session) fun () => refresh clock params session
      else refresh clock params session

def unregister (ctx : SessionContext) : Link (Option ProtocolSessionId) :=
  ask (.getByDevice ctx.tenantId ctx.deviceId) fun
    | none => .ret (.ok none)
    | some session =>
      ensureOwnerCurrent session ctx.ownerEpoch <|
      ask (.delete ctx.tenantId session.protocolSessionId session.revision) fun () =>
      .ret (.ok (some session.protocolSessionId))

def keepalive (ctx : SessionContext) : Link Unit :=
  ask (.getByDevice ctx.tenantId ctx.deviceId) fun
    | none => fail .notRegistered
    | some session =>
      ensureOwnerCurrent session ctx.ownerEpoch <|
      if session.isExpired clock then fail .expired
      else ask (.save (session.recordKeepalive clock)) fun () => .ret (.ok ())

def acquireOwner (tenantId : TenantId) (deviceId : DeviceId) (nodeId : NodeId) (newEpoch : OwnerEpoch) :
    Link (Option Nat) :=
  ask (.getByDevice tenantId deviceId) fun
    | none => .ret (.ok none)
    | some session =>
      if newEpoch ≤ session.ownerEpoch then fail (.staleOwner session.ownerEpoch newEpoch)
      else
        let session := session.assignOwner clock nodeId newEpoch
        ask (.save session) fun () => .ret (.ok (some session.revision))

/-- The reading loop of `reap_expired`, cut off after `pages` pages. -/
def collectExpired (now : UtcTimestamp) (pageSize maxSessions : Nat) (next : List ProtocolSession → Link α) :
    Nat → Option Cursor → List ProtocolSession → Link α
  | 0, _, expired => next expired
  | pages + 1, cursor, expired =>
    if maxSessions ≤ expired.length then next expired
    else
      ask (.listExpired now cursor pageSize) fun page =>
      let found := page.items.filter fun session => session.presence ≠ .offline
      let expired := (expired ++ found).take maxSessions
      match page.nextCursor with
      | some last => collectExpired now pageSize maxSessions next pages (some last) expired
      | none => next expired

def markExpired : List ProtocolSession → Nat → Link Nat
  | [], reaped => .ret (.ok reaped)
  | session :: rest, reaped =>
    tryWith (session.markOffline clock "expired") fun session =>
    .call (.save session) fun
      | .ok () => markExpired rest (reaped + 1)
      | .error (.concurrentModification ..) => markExpired rest reaped
      | .error e => fail (.repository e)

def reapExpired (now : UtcTimestamp) (pageSize maxSessions pages : Nat) : Link Nat :=
  collectExpired now (min (max pageSize 1) 1000) maxSessions (markExpired clock · 0) pages none []

end

/-! One register on its own. -/
section Alone

variable {session : ProtocolSession}

theorem run_getByDevice
    (next : Option ProtocolSession → Link α) :
    (ask (.getByDevice tenantId deviceId) next).run answer store =
      (next (store.getByDevice tenantId .gb28181 deviceId)).run answer store := rfl

theorem run_save_ok (next : Unit → Link α) (saved : store.save session = .ok store') :
    (ask (.save session) next).run answer store = (next ()).run answer store' := by
  simp [ask,Prog.run,answer,saved]

theorem run_save_error (next : Unit → Link α) (refused : store.save session = .error e) :
    (ask (.save session) next).run answer store = (.error (.repository e),store) := by
  simp [ask,Prog.run,answer,refused,fail]

/-- The checks that a refresh of the session makes. -/
def RegisterParams.Refreshes (params : RegisterParams) (session : ProtocolSession) : Prop :=
  params.registration.Fits ∧ session.registration.cseq ≤ params.registration.cseq ∧ params.endpoint.Fits

instance (params : RegisterParams) (session : ProtocolSession) : Decidable (params.Refreshes session) :=
  inferInstanceAs (Decidable (_ ∧ _ ∧ _))

/-- The session is online with what the REGISTER says. -/
structure Renewed (params : RegisterParams) (session : ProtocolSession) : Prop where
  presence : session.presence = .online
  registration : session.registration = params.registration
  endpoint : session.endpoint = params.endpoint
  expiryAt : session.expiryAt = params.expiryAt

theorem refreshRegistration_renews (refreshed : session.refreshRegistration clock params.registration
    params.expiryAt (some params.endpoint) = .ok session') : Renewed params session' := by
  obtain ⟨-,rfl⟩ := ProtocolSession.refreshRegistration_ok.mp refreshed
  exact ⟨rfl,rfl,rfl,rfl⟩

theorem run_refresh_ok (found : store.getByDevice tenantId protocol deviceId = some session)
    (passes : params.Refreshes session) :
    ∃ store' session', (refresh clock params session).run answer store =
        (.ok (.refreshed session.protocolSessionId (session.revision + 1)),store') ∧
      store'.getByDevice tenantId protocol deviceId = some session' ∧ Renewed params session' := by
  obtain ⟨next,refreshed⟩ : ∃ next, session.refreshRegistration clock params.registration params.expiryAt
      (some params.endpoint) = .ok next := ⟨_,ProtocolSession.refreshRegistration_ok.mpr ⟨passes,rfl⟩⟩
  obtain ⟨follows,-⟩ := ProtocolSession.refreshRegistration_follows refreshed
  obtain ⟨store',saved,found'⟩ := ProtocolSessions.save_follows found follows
  refine ⟨store',next,?_,found',refreshRegistration_renews refreshed⟩
  rw [refresh,refreshed,tryWith,run_save_ok _ saved,follows.protocolSessionId,follows.revision]
  rfl

theorem run_refresh_error (refused : ¬ params.Refreshes session) :
    ∃ e, (refresh clock params session).run answer store = (.error e,store) := by
  cases refreshed : session.refreshRegistration clock params.registration params.expiryAt (some params.endpoint) with
  | ok next => exact absurd (ProtocolSession.refreshRegistration_ok.mp refreshed).1 refused
  | error e =>
    refine ⟨.repository e,?_⟩
    rw [refresh,refreshed,tryWith]
    rfl

section

variable (clock : UtcTimestamp) (id : ProtocolSessionId) (params : RegisterParams)

include clock id params

/-- A register that finds the session takes it over if it must, and then refreshes it. -/
theorem run_register_found (found : store.getByDevice ctx.tenantId .gb28181 ctx.deviceId = some session)
    (current : session.ownerEpoch ≤ ctx.ownerEpoch) :
    ∃ store' session', (register clock id ctx params).run answer store = (refresh clock params session').run answer store' ∧
      store'.getByDevice ctx.tenantId .gb28181 ctx.deviceId = some session' ∧
      session'.protocolSessionId = session.protocolSessionId ∧ session'.registration = session.registration ∧
      (ctx.TakesOver session → session'.revision = session.revision + 1) ∧
      (¬ ctx.TakesOver session → store' = store ∧ session' = session) := by
  have begun : (register clock id ctx params).run answer store = Prog.run answer
      (if ctx.TakesOver session then
        ask (.save (session.assignOwner clock ctx.ownerNodeId ctx.ownerEpoch)) fun () =>
          refresh clock params (session.assignOwner clock ctx.ownerNodeId ctx.ownerEpoch)
      else refresh clock params session) store := by
    rw [register,run_getByDevice,found]
    simp [ensureOwnerCurrent,if_neg (Nat.not_lt.mpr current)]
  by_cases takes : ctx.TakesOver session
  · have follows := session.assignOwner_follows clock ctx.ownerNodeId ctx.ownerEpoch
    obtain ⟨store',saved,found'⟩ := ProtocolSessions.save_follows found follows
    refine ⟨store',_,?_,found',follows.protocolSessionId,rfl,fun _ => follows.revision,fun stays => absurd takes stays⟩
    rw [begun,if_pos takes,run_save_ok _ saved]
  · refine ⟨store,session,?_,found,rfl,rfl,fun moves => absurd moves takes,fun _ => ⟨rfl,rfl⟩⟩
    rw [begun,if_neg takes]

theorem run_register_absent (absent : store.getByDevice ctx.tenantId .gb28181 ctx.deviceId = none)
    (failed : ((register clock id ctx params).run answer store).1 = .error e) :
    ((register clock id ctx params).run answer store).2 = store := by
  rw [register,run_getByDevice,absent] at failed ⊢
  cases created : ProtocolSession.new clock (ctx.newSession id params) with
  | error e =>
    rfl
  | ok session =>
    simp only [created,tryWith] at failed ⊢
    cases saved : store.save session with
    | ok store' => rw [run_save_ok _ saved] at failed; cases failed
    | error e => rw [run_save_error _ saved]

theorem run_register_stale (found : store.getByDevice ctx.tenantId .gb28181 ctx.deviceId = some session)
    (stale : ctx.ownerEpoch < session.ownerEpoch) :
    (register clock id ctx params).run answer store = (.error (.staleOwner session.ownerEpoch ctx.ownerEpoch),store) := by
  rw [register,run_getByDevice,found]
  simp only [ensureOwnerCurrent,if_pos stale]
  rfl

end

/-- The register takes the session over, and then its refresh is refused. -/
def HalfDone (store : ProtocolSessions) (ctx : SessionContext) (params : RegisterParams) : Prop :=
  ∃ session ∈ store.getByDevice ctx.tenantId .gb28181 ctx.deviceId,
    session.ownerEpoch ≤ ctx.ownerEpoch ∧ ctx.TakesOver session ∧ ¬ params.Refreshes session

theorem halfDone_iff (found : store.getByDevice ctx.tenantId .gb28181 ctx.deviceId = some session) :
    HalfDone store ctx params ↔ session.ownerEpoch ≤ ctx.ownerEpoch ∧ ctx.TakesOver session ∧ ¬ params.Refreshes session := by
  simp [HalfDone,found]

theorem register_error_keeps_iff (id : ProtocolSessionId) :
    (∀ e, ((register clock id ctx params).run answer store).1 = .error e →
      ((register clock id ctx params).run answer store).2.getByDevice ctx.tenantId .gb28181 ctx.deviceId =
        store.getByDevice ctx.tenantId .gb28181 ctx.deviceId) ↔ ¬ HalfDone store ctx params := by
  cases found : store.getByDevice ctx.tenantId .gb28181 ctx.deviceId with
  | none =>
    refine iff_of_true (fun e failed => ?_) (by simp [HalfDone,found])
    rw [run_register_absent clock id params found failed,found]
  | some session =>
    rw [halfDone_iff found]
    rcases Nat.lt_or_ge ctx.ownerEpoch session.ownerEpoch with stale | current
    · refine iff_of_true (fun e failed => ?_) fun half => absurd stale (Nat.not_lt.mpr half.1)
      rw [run_register_stale clock id params found stale,found]
    obtain ⟨store',session',run,found',-,registration,takes,stays⟩ := run_register_found clock id params found current
    have passes : params.Refreshes session' ↔ params.Refreshes session := by
      rw [RegisterParams.Refreshes,RegisterParams.Refreshes,registration]
    rw [run]
    by_cases refreshes : params.Refreshes session'
    · obtain ⟨after,final,done,-⟩ := run_refresh_ok found' refreshes
      refine iff_of_true (fun e failed => ?_) fun half => half.2.2 (passes.mp refreshes)
      rw [done] at failed
      cases failed
    obtain ⟨e,failed⟩ := run_refresh_error refreshes
    rw [failed,found']
    by_cases takeover : ctx.TakesOver session
    · refine iff_of_false (fun kept => ?_) (not_not_intro ⟨current,takeover,mt passes.mpr refreshes⟩)
      have same : session' = session := by simpa using kept e rfl
      exact absurd (congrArg ProtocolSession.revision same) (by rw [takes takeover]; omega)
    · refine iff_of_true (fun e failed => ?_) fun half => takeover half.2.1
      rw [(stays takeover).2]

/-- The register refreshes the session that is there. -/
def Reregisters (store : ProtocolSessions) (clock : UtcTimestamp) (id : ProtocolSessionId) (ctx : SessionContext)
    (params : RegisterParams) (session : ProtocolSession) : Prop :=
  ∃ store' session' revision, (register clock id ctx params).run answer store =
      (.ok (.refreshed session.protocolSessionId revision),store') ∧
    store'.getByDevice ctx.tenantId .gb28181 ctx.deviceId = some session' ∧ Renewed params session'

theorem reregisters_iff (id : ProtocolSessionId)
    (found : store.getByDevice ctx.tenantId .gb28181 ctx.deviceId = some session)
    (current : session.ownerEpoch ≤ ctx.ownerEpoch) :
    Reregisters store clock id ctx params session ↔ params.Refreshes session := by
  obtain ⟨store',session',run,found',same,registration,-⟩ := run_register_found clock id params found current
  have passes : params.Refreshes session' ↔ params.Refreshes session := by
    rw [RegisterParams.Refreshes,RegisterParams.Refreshes,registration]
  rw [Reregisters,run,← passes]
  constructor
  · rintro ⟨after,final,revision,done,-⟩
    by_contra refused
    obtain ⟨e,failed⟩ := run_refresh_error refused
    rw [failed] at done
    cases done
  intro refreshes
  obtain ⟨after,final,done,stored,renewed⟩ := run_refresh_ok found' refreshes
  rw [same] at done
  exact ⟨after,final,_,done,stored,renewed⟩

/-- What a REGISTER does whose sender owns the session: it renews the session exactly if its CSeq is
no smaller than the stored one, whatever the Call-IDs are. A register that fails leaves the session
alone exactly if it has not taken it over before. -/
theorem register_renews_iff (store : ProtocolSessions) (clock : UtcTimestamp) (id : ProtocolSessionId)
    (ctx : SessionContext) (params : RegisterParams) :
    (∀ session, store.getByDevice ctx.tenantId .gb28181 ctx.deviceId = some session →
      session.ownerEpoch ≤ ctx.ownerEpoch → params.registration.Fits → params.endpoint.Fits →
      (Reregisters store clock id ctx params session ↔ session.registration.cseq ≤ params.registration.cseq)) ∧
    ((∀ e, ((register clock id ctx params).run answer store).1 = .error e →
      ((register clock id ctx params).run answer store).2.getByDevice ctx.tenantId .gb28181 ctx.deviceId =
        store.getByDevice ctx.tenantId .gb28181 ctx.deviceId) ↔ ¬ HalfDone store ctx params) := by
  refine ⟨fun session found current short fits => ?_,register_error_keeps_iff id⟩
  rw [reregisters_iff id found current]
  exact ⟨fun passes => passes.2.1,fun later => ⟨short,later,fits⟩⟩

namespace Sample

def context (node : NodeId) (epoch : OwnerEpoch) : SessionContext where
  tenantId := 1
  deviceId := 1
  protocolIdentity := "34020000001320000001"
  localIdentity := ⟨"udp","34020000002000000001","3402000000","3402000000"⟩
  transport := .udp
  ownerNodeId := node
  ownerEpoch := epoch
  compatibility := {}

def params (callId : String) (cseq : Nat) : RegisterParams where
  endpoint := ⟨"10.0.0.9:5060","sip:34020000001320000001@10.0.0.9:5060",""⟩
  registration := ⟨callId,cseq,3600⟩
  expiryAt := 3600

/-- Node 1 has registered the device at epoch 1 with CSeq 5. -/
def registered : ProtocolSessions := ((register 0 1 (context 1 1) (params "boot-1" 5)).run answer .empty).2

theorem registered_again : ∃ session, registered.getByDevice 1 .gb28181 1 = some session ∧
    Reregisters registered 10 2 (context 1 1) (params "boot-2" 6) session := by
  refine ⟨(registered.getByDevice 1 .gb28181 1).get (by decide +kernel),by decide +kernel,?_⟩
  exact ((register_renews_iff registered 10 2 (context 1 1) (params "boot-2" 6)).1 _ (by decide +kernel)
    (by decide +kernel) (by decide +kernel) (by decide +kernel)).mpr (by decide +kernel)

/-- The owner's REGISTER of a rebooted device is refused, and a takeover that is refused in the same
way has moved the session to the new owner. -/
theorem rebooted_device_refused : ((registered.getByDevice 1 .gb28181 1).map fun session =>
        (session.ownerNodeId,session.ownerEpoch,session.registration.callId)) = some (some 1,1,"boot-1") ∧
    (params "boot-2" 1).registration.Fits ∧ (params "boot-2" 1).endpoint.Fits ∧
    ((register 10 2 (context 1 1) (params "boot-2" 1)).run answer registered).1 =
      .error (.repository (.invalidArgument "REGISTER CSeq must not decrease")) ∧
    ((register 10 2 (context 2 2) (params "boot-2" 1)).run answer registered).1 =
      .error (.repository (.invalidArgument "REGISTER CSeq must not decrease")) ∧
    ((((register 10 2 (context 2 2) (params "boot-2" 1)).run answer registered).2.getByDevice 1 .gb28181 1).map
      fun session => (session.ownerNodeId,session.ownerEpoch)) = some (some 2,2) := by
  decide +kernel

end Sample

end Alone

end CheetahSignaling.SessionLink
