import CheetahSignaling.TakeoverService

/-! What a takeover commits: the new owner together with the failure of every operation that
was accepted under an older epoch, or nothing. -/
namespace CheetahSignaling.TakeoverService

open OwnerRepository UnitOfWork Outcomes Table
open List hiding after

section

variable (t : Takeover) (owner : OwnerInfo)

variable (status : OperationStatus) (op : Operation)

def lost : Operation := op.failedWith ownerLost (t.clock op.operationId)

def lostEvent : Event := Service.operationEvent t.tenantId (lost t op) ((lost t op).stateChangedEvent op.status)

def below : Bool := op.expectedOwnerEpoch < owner.ownerEpoch

def staleIn : Bool := listed t status op && below owner op

/-- Pending or running work of the device from before the new epoch. -/
def stale : Bool := staleIn t owner .pending op || staleIn t owner .running op

def failAll (ops : List Operation) (store : Store) : Store :=
  { store with operations := store.operations.replaceAll (lost t) ops, outbox := store.outbox ++ ops.map (lostEvent t) }

def pass (cursor : Option OperationId) (store : Store) : List Operation :=
  (store.operations.remaining (listed t status) cursor).filter (below owner)

def Passed (fuel : Nat) (cursor : Option OperationId) (recovered : Nat)
    (committed store : Store) (n : Option Nat) (u : UnitOfWork Store) : Prop :=
  match n with
  | none => fuel ≤ (store.operations.remaining (listed t status) cursor).length ∧ Uncommitted committed u
  | some n => n = recovered + (pass t owner status cursor store).length ∧
      Holds committed (failAll t (pass t owner status cursor store) store) u

def fencedOperations (store : Store) : List Operation :=
  store.operations.rows.filter (staleIn t owner .pending) ++ store.operations.rows.filter (staleIn t owner .running)

end

section

variable {committed store : Store}

theorem lost_id (op : Operation) : (lost t op).operationId = op.operationId := rfl

theorem failAll_append :
    failAll t (first ++ second) store = failAll t second (failAll t first store) := by
  simp [failAll,replaceAll_append]

theorem fail_cases (op : Operation) : op.fail ownerLost now =
        (op.failedWith ownerLost now,.ok ((op.failedWith ownerLost now).stateChangedEvent op.status)) ∨
      ∃ op' e, op.fail ownerLost now = (op',.error e) := by
  have fits : ownerLost.validate "operation" = .ok () := ErrorText.validate_fits _ (by decide)
  cases status : op.status with
  | pending | running => exact .inl (by simp [Operation.fail,status,fits])
  | succeeded | failed | cancelled | timedOut => exact .inr ⟨_,_,by simp [Operation.fail,status]; exact ⟨rfl,rfl⟩⟩

theorem ensures_saveOperation : Ensures (Holds committed store) (saveOperation op)
      (fun _ => Holds committed { store with operations := store.operations.put op }) (Uncommitted committed) := by
  refine ensures_read.bind fun found => .of_fact fun same => ?_
  subst same
  cases saved : found.operations.save Operation.revision op with
  | ok operations =>
    rw [save_ok saved]
    exact ensures_write
  | error revision => exact .throw fun _ => Holds.uncommitted

theorem ensures_recoverOperation :
    Ensures (Holds committed store) (recoverOperation t owner op recovered)
      (fun n u => n = recovered + ([op].filter (below owner)).length ∧
        Holds committed (failAll t ([op].filter (below owner)) store) u) (Uncommitted committed) := by
  by_cases older : op.expectedOwnerEpoch < owner.ownerEpoch
  · have selected : [op].filter (below owner) = [op] := by simp [below,older]
    rw [recoverOperation,if_pos older,selected]
    rcases fail_cases op with failed | ⟨op',e,refused⟩
    · rw [failed]
      refine (ensures_perform _ ensures_saveOperation fun _ => Holds.uncommitted).bind fun _ => ?_
      refine (ensures_perform _ ensures_write fun _ => Holds.uncommitted).bind fun _ => ?_
      exact .pure fun u holds => ⟨rfl,holds⟩
    · rw [refused]
      exact .throw fun _ => Holds.uncommitted
  · have selected : [op].filter (below owner) = [] := by simp [below,older]
    rw [recoverOperation,if_neg older,selected]
    exact .pure fun u holds => ⟨rfl,by simpa [failAll,Table.replaceAll] using holds⟩

theorem ensures_recoverPage (recovered : Nat) :
    Ensures (Holds committed store) (recoverPage t owner ops recovered)
      (fun n u => n = recovered + (ops.filter (below owner)).length ∧
        Holds committed (failAll t (ops.filter (below owner)) store) u) (Uncommitted committed) := by
  induction ops generalizing recovered store with
  | nil => exact .pure fun u holds => ⟨rfl,by simpa [failAll,Table.replaceAll] using holds⟩
  | cons op rest ih =>
    have split : (op :: rest).filter (below owner) = [op].filter (below owner) ++ rest.filter (below owner) := by
      rw [← filter_append,singleton_append]
    refine ensures_recoverOperation.bind fun n => .of_fact fun counted => ?_
    rw [split,failAll_append,length_append,← Nat.add_assoc,← counted]
    exact ih n

theorem maxPageSize_pos : 0 < maxPageSize := by decide

theorem ensures_listOperations :
    Ensures (Holds committed store) (listOperations t status cursor)
      (fun page u => page = store.operations.page maxPageSize (listed t status) cursor ∧ Holds committed store u)
      (Uncommitted committed) := by
  refine ensures_read.bind fun found => .of_fact fun same => ?_
  subst same
  exact .pure fun u holds => ⟨rfl,holds⟩

theorem remaining_failAll {next : OperationId} (owner : OwnerInfo) (ops : List Operation)
    (read : ∀ op ∈ ops, op.operationId ≤ next) :
    (failAll t (ops.filter (below owner)) store).operations.remaining (listed t status) (some next) =
      store.operations.remaining (listed t status) (some next) := by
  refine remaining_replaceAll lost_id _ fun op member => ?_
  simpa [Table.beyond] using read op (mem_filter.mp member).1

theorem ensures_recoverStatus (cursor : Option OperationId)
    (recovered : Nat) :
    Ensures (Holds committed store) (recoverStatus t owner status fuel cursor recovered)
      (Passed t owner status fuel cursor recovered committed store) (Uncommitted committed) := by
  induction fuel generalizing cursor recovered store with
  | zero => exact .pure fun u holds => ⟨Nat.zero_le _,holds.uncommitted⟩
  | succ fuel ih =>
    refine (ensures_perform _ ensures_listOperations fun _ => Holds.uncommitted).bind
      fun page => .of_fact fun listing => ?_
    refine (ensures_recoverPage recovered).bind fun n => .of_fact fun counted => ?_
    subst counted
    cases next : page.nextCursor with
    | none =>
      have all : page.items = store.operations.remaining (listed t status) cursor := by
        subst listing
        exact page_last maxPageSize_pos next
      rw [all]
      exact .pure fun u holds => ⟨rfl,holds⟩
    | some last =>
      have items : page.items = (store.operations.remaining (listed t status) cursor).take maxPageSize := by
        subst listing
        exact page_items ..
      obtain ⟨more,behind,before⟩ := page_next maxPageSize_pos (listing ▸ next)
      have rest := (remaining_failAll owner page.items (listing ▸ before)).trans behind
      have split : pass t owner status cursor store = page.items.filter (below owner) ++
            pass t owner status (some last) (failAll t (page.items.filter (below owner)) store) := by
        rw [pass,pass,rest,← filter_append,items,take_append_drop]
      refine (ih (some last) _).weaken (fun _ => id) (fun n u passed => ?_) fun _ => id
      cases n with
      | none =>
        refine ⟨?_,passed.2⟩
        have bound := passed.1
        rw [rest,length_drop] at bound
        have positive := maxPageSize_pos
        omega
      | some n =>
        refine ⟨?_,?_⟩
        · rw [passed.1,split,length_append,Nat.add_assoc]
        · rw [split,failAll_append]
          exact passed.2

theorem pass_none :
    pass t owner status none store = store.operations.rows.filter (staleIn t owner status) := by
  rw [pass,remaining_none,filter_filter]
  exact filter_congr fun op _ => Bool.and_comm ..

def replaced (t : Takeover) (q : Operation → Bool) (op : Operation) : Operation := if q op then lost t op else op

theorem replaced_id (op : Operation) : (replaced t q op).operationId = op.operationId := by
  unfold replaced
  split <;> rfl

theorem failAll_rows :
    (failAll t (store.operations.rows.filter q) store).operations = store.operations.mapRows (replaced t q) (replaced_id) :=
  replaceAll_filter lost_id replaced_id

theorem staleIn_status (selected : staleIn t owner status op = true) : op.status = status := by
  simp only [staleIn,listed,Bool.and_eq_true,decide_eq_true_eq] at selected
  exact selected.1.2

theorem lost_not_staleIn (live : status ≠ .failed) :
    staleIn t owner status (lost t op) = false := by
  by_contra selected
  have failed : (lost t op).status = status := staleIn_status (by simpa using selected)
  exact live failed.symm

theorem pending_not_running (pending : staleIn t owner .pending op = true) : staleIn t owner .running op = false := by
  by_contra running
  have status : op.status = .running := staleIn_status (by simpa using running)
  rw [staleIn_status pending] at status
  cases status

theorem running_kept (running : staleIn t owner .running op = true) :
    replaced t (staleIn t owner .pending) op = op := by
  refine if_neg fun pending => ?_
  rw [pending_not_running pending] at running
  cases running

theorem second_pass (store : Store) : pass t owner .running none (failAll t (pass t owner .pending none store) store) =
      store.operations.rows.filter (staleIn t owner .running) := by
  have unchanged (op : Operation) :
      staleIn t owner .running (replaced t (staleIn t owner .pending) op) = staleIn t owner .running op := by
    by_cases pending : staleIn t owner .pending op = true
    · rw [replaced,if_pos pending,lost_not_staleIn (by decide),pending_not_running pending]
    · rw [replaced,if_neg pending]
  rw [pass_none,pass_none,failAll_rows]
  change (store.operations.rows.map (replaced t (staleIn t owner .pending))).filter _ = _
  rw [filter_map,Function.comp_def]
  simp only [unchanged]
  exact (map_congr_left fun op member => running_kept (mem_filter.mp member).2).trans (map_id _)

theorem ensures_recoverOperations : Ensures (Holds committed store) (recoverOperations t fuel owner)
      (fun n u => match n with
        | none => fuel ≤ store.operations.rows.length ∧ Uncommitted committed u
        | some n => n = (fencedOperations t owner store).length ∧
            Holds committed (failAll t (fencedOperations t owner store) store) u) (Uncommitted committed) := by
  refine (ensures_recoverStatus none 0).bind fun n => ?_
  cases n with
  | none =>
    refine .pure fun u passed => ⟨passed.1.trans ?_,passed.2⟩
    exact length_filter_le ..
  | some n =>
    refine .of_fact fun counted => ?_
    refine (ensures_recoverStatus none n).weaken (fun _ => id) (fun m u passed => ?_)
      fun _ => id
    cases m with
    | none =>
      refine ⟨passed.1.trans ?_,passed.2⟩
      calc _ ≤ (failAll t (pass t owner .pending none store) store).operations.rows.length := length_filter_le ..
        _ = store.operations.rows.length := by rw [pass_none,failAll_rows,Table.mapRows,length_map]
    | some m =>
      have swept := passed.2
      rw [second_pass,← failAll_append,pass_none] at swept
      refine ⟨?_,swept⟩
      rw [passed.1,counted,second_pass,pass_none,fencedOperations,length_append,Nat.zero_add]

theorem find_fenced (store : Store) (id : OperationId) :
    (failAll t (fencedOperations t owner store) store).operations.find id =
      (store.operations.find id).map (replaced t (stale t owner)) := by
  have both (op : Operation) : replaced t (staleIn t owner .running) (replaced t (staleIn t owner .pending) op) =
      replaced t (stale t owner) op := by
    by_cases pending : staleIn t owner .pending op = true
    · simp [replaced,stale,pending,lost_not_staleIn]
    · simp [replaced,stale,pending]
  rw [fencedOperations,failAll_append,← second_pass,pass_none,pass_none,failAll_rows,find_mapRows,failAll_rows,
    find_mapRows,Option.map_map]
  congr 1
  exact funext both

theorem fenced_once (member : op ∈ store.operations.rows) (outdated : stale t owner op = true) :
    ((fencedOperations t owner store).filter fun other => other.operationId = op.operationId) = [op] := by
  have alone (q : Operation → Bool) :
      ((store.operations.rows.filter q).filter fun other => other.operationId = op.operationId) = [op].filter q := by
    rw [← filter_key member,filter_filter,filter_filter]
    exact filter_congr fun other _ => Bool.and_comm ..
  rw [fencedOperations,filter_append,alone,alone]
  by_cases pending : staleIn t owner .pending op = true
  · simp [pending,pending_not_running pending]
  · have running : staleIn t owner .running op = true := by simpa [stale,pending] using outdated
    simp [pending,running]

theorem mem_fenced : op ∈ fencedOperations t owner store ↔ op ∈ store.operations.rows ∧ stale t owner op = true := by
  simp [fencedOperations,stale,and_or_left]

end

def eventsOf (t : Takeover) (id : OperationId) (events : List Event) : List Event :=
  events.filter fun e => e.aggregate = ⟨t.tenantId,.operation,id⟩

/-- The row the takeover has written, one epoch up. -/
structure NewOwner (t : Takeover) (owner : OwnerInfo) (before after : Database) (row : OwnerRow) : Prop where
  stored : after = before.put t.deviceId (some row)
  tenantId : row.tenantId = t.tenantId
  node : row.ownerNodeId = t.thisNode
  expires : row.expiresAt = t.leaseUntil.map before.store.kept
  epoch : row.ownerEpoch = ((before.owners t.deviceId).map fun previous => previous.ownerEpoch + 1).getD 1
  info : owner = row.info

/-- What a takeover that acquired the device has committed. -/
structure Fenced (t : Takeover) (owner : OwnerInfo) (recovered : Nat) (before after : Store) : Prop where
  owned : ∃ row, NewOwner t owner before.registry after.registry row
  failed : ∀ op ∈ before.operations.rows, stale t owner op = true →
    after.operations.find op.operationId = some (lost t op)
  kept : ∀ id, (∀ op ∈ before.operations.rows, op.operationId = id → stale t owner op = false) →
    after.operations.find id = before.operations.find id
  announced : ∃ events, after.outbox = before.outbox ++ events ++
      [ownerChanged t owner (OwnerRepository.storedOwner before.registry t.tenantId t.deviceId)] ∧
    (∀ op ∈ before.operations.rows, stale t owner op = true → eventsOf t op.operationId events = [lostEvent t op]) ∧
    (∀ e ∈ events, ∃ op ∈ before.operations.rows, stale t owner op = true ∧ e = lostEvent t op) ∧
    recovered = events.length

section

theorem upsertOwner_cases (written : upsertOwner db tenant device node now leaseUntil = .ok db') :
    (db' = db ∧ ∃ row, db.owners device = some row ∧
      (acquireWhere db node now row && candidateAlive db node now) = false) ∨
    ∃ epoch, db' = db.put device (some ⟨tenant,node,epoch,some (db.store.kept leaseUntil)⟩) ∧
      (epoch ≤ i64Max → epoch = ((db.owners device).map fun row => row.ownerEpoch + 1).getD 1) := by
  unfold upsertOwner at written
  split at written
  · rename_i unowned
    cases written
    exact .inr ⟨1,rfl,fun _ => by rw [unowned]; rfl⟩
  rename_i row stored
  split at written
  · split at written
    · rename_i epoch raised
      cases written
      exact .inr ⟨epoch,rfl,fun readable => by rw [stored]; exact SqlStore.increment_readable raised readable⟩
    · cases written
  · rename_i refused
    cases written
    exact .inl ⟨rfl,row,stored,by simpa using refused⟩

theorem readOwner_ok (read : readOwner db tenant device = .ok found) :
    found = OwnerRepository.storedOwner db tenant device ∧
      ∀ row, select db tenant device = some row → row.ownerEpoch ≤ i64Max := by
  unfold readOwner at read
  cases got : OwnerRepository.get db tenant device with
  | error e => simp [got,Except.mapError] at read
  | ok owner =>
    simp only [got,Except.mapError,Except.ok.injEq] at read
    exact read ▸ get_ok got

theorem acquireOwnership_some (lease : t.leaseUntil = some leaseUntil)
    (acquired : acquireOwnership db t.tenantId t.deviceId t.thisNode t.now leaseUntil =
      .ok (db',some (owner,previous))) :
    previous = OwnerRepository.storedOwner db t.tenantId t.deviceId ∧ ∃ row, NewOwner t owner db db' row := by
  unfold acquireOwnership at acquired
  split at acquired
  case isFalse => cases acquired
  case isTrue alive =>
  obtain ⟨earlier,before,left,written,acquired⟩ := bind_eq_ok₂ acquired
  obtain ⟨current,after,acquired⟩ := bind_eq_ok acquired
  obtain ⟨rfl,-⟩ := readOwner_ok before
  obtain ⟨rfl,readable⟩ := readOwner_ok after
  simp only [pure,Except.pure,Except.ok.injEq,Prod.mk.injEq,Option.map_eq_some_iff,Option.filter_eq_some_iff] at acquired
  obtain ⟨rfl,info,⟨found,here⟩,rfl,rfl⟩ := acquired
  obtain ⟨row,selected,rfl⟩ := Option.map_eq_some_iff.mp found
  obtain ⟨stored,tenant⟩ := select_eq_some.mp selected
  refine ⟨rfl,row,?_⟩
  rcases upsertOwner_cases written with ⟨rfl,old,same,refused⟩ | ⟨epoch,rfl,next⟩
  · -- a row of this node is never refused
    rw [same] at stored
    cases stored
    have own : row.ownerNodeId = t.thisNode := of_decide_eq_true here
    simp [acquireWhere,own,alive] at refused
  · have read := readable row selected
    rw [put_same] at stored
    cases stored
    exact ⟨rfl,rfl,rfl,by rw [lease]; rfl,next read,rfl⟩

theorem ensures_getOwner {committed working : Store} (failure : Option DomainError) (db : Database) :
    Ensures (Holds committed working) (perform failure (getOwner t db)) (fun _ => Holds committed working)
      (Uncommitted committed) := by
  refine ensures_perform failure ?_ fun _ => Holds.uncommitted
  unfold getOwner
  split
  · exact .pure fun _ => id
  · exact .throw fun _ => Holds.uncommitted

theorem ensures_acquire (lease : t.leaseUntil = some leaseUntil) : Ensures (Holds store store) (acquire t leaseUntil)
      (fun result u => match result with
        | none => ∃ working, Holds store working u
        | some (owner,previous) => previous = OwnerRepository.storedOwner store.registry t.tenantId t.deviceId ∧
            ∃ registry row, NewOwner t owner store.registry registry row ∧ Holds store { store with registry } u)
      (Uncommitted store) := by
  refine ensures_read.bind fun found => .of_fact fun same => ?_
  subst same
  cases attempt : acquireOwnership found.registry t.tenantId t.deviceId t.thisNode t.now leaseUntil with
  | error e => exact .throw fun _ => Holds.uncommitted
  | ok result =>
    obtain ⟨registry,acquired⟩ := result
    refine ensures_write.bind fun _ => .pure fun u holds => ?_
    cases acquired with
    | none => exact ⟨_,holds⟩
    | some pair =>
      obtain ⟨previous,row,new⟩ := acquireOwnership_some lease attempt
      exact ⟨previous,registry,row,new,holds⟩

theorem eventsOf_lost (id : OperationId) (ops : List Operation) :
    eventsOf t id (ops.map (lostEvent t)) = (ops.filter fun op => op.operationId = id).map (lostEvent t) := by
  rw [eventsOf,filter_map]
  congr 1
  refine filter_congr fun op _ => ?_
  simp [lostEvent,Service.operationEvent,lost_id]

theorem fenced_committed (new : NewOwner t owner store.registry registry row) :
    Fenced t owner (fencedOperations t owner store).length store
      { registry, operations := (failAll t (fencedOperations t owner store) store).operations,
        outbox := store.outbox ++ (fencedOperations t owner store).map (lostEvent t) ++
          [ownerChanged t owner (OwnerRepository.storedOwner store.registry t.tenantId t.deviceId)] } where
  owned := ⟨row,new⟩
  failed op member outdated := by
    have found := store.operations.find_eq_some.mpr ⟨member,rfl⟩
    rw [find_fenced,found]
    simp [replaced,outdated]
  kept id current := by
    rw [find_fenced]
    cases found : store.operations.find id with
    | none => rfl
    | some op =>
      obtain ⟨member,same⟩ := store.operations.find_eq_some.mp found
      simp [replaced,current op member same]
  announced := by
    refine ⟨_,rfl,fun op member outdated => ?_,fun e emitted => ?_,by simp⟩
    · rw [eventsOf_lost,fenced_once member outdated,map_singleton]
    · obtain ⟨op,member,rfl⟩ := mem_map.mp emitted
      obtain ⟨member,outdated⟩ := mem_fenced.mp member
      exact ⟨op,member,outdated,rfl⟩

end

/-- A takeover commits all of it or nothing. -/
def Ending (t : Takeover) (fuel : Nat) (before : Store) (result : Option TakeoverResult) (u : UnitOfWork Store) : Prop :=
  match result with
  | none => fuel ≤ before.operations.rows.length ∧ u.committed = before
  | some (.acquired owner recovered) => Fenced t owner recovered before u.committed
  | some _ => u.committed = before

section

theorem ensures_recoverAndCommit (new : NewOwner t owner store.registry registry row) :
    Ensures (Holds store { store with registry })
      (recoverAndCommit t fuel owner (OwnerRepository.storedOwner store.registry t.tenantId t.deviceId))
      (Ending t fuel store) (Uncommitted store) := by
  refine ensures_recoverOperations.bind fun n => ?_
  cases n with
  | none => exact .pure fun u ended => ended
  | some n =>
    refine .of_fact fun counted => ?_
    subst counted
    refine (ensures_perform _ ensures_write fun _ => Holds.uncommitted).bind fun _ => ?_
    refine (ensures_perform _ ensures_commit fun _ => Holds.uncommitted).bind fun _ => .pure fun u holds => ?_
    rw [holds]
    exact fenced_committed new

theorem ensures_lostRace (working : Store) :
    Ensures (Holds store working) (lostRace t) (Ending t fuel store) (Uncommitted store) := by
  refine (ensures_perform _ ensures_rollback fun _ => Holds.uncommitted).bind fun _ => ?_
  refine (ensures_getOwner _ _).bind fun winner => ?_
  cases winner with
  | none => exact .throw fun _ => Holds.uncommitted
  | some owner => exact .pure fun _ => Holds.uncommitted

theorem ensures_compete (lease : t.leaseUntil = some leaseUntil) :
    Ensures (Holds store store) (compete t fuel leaseUntil) (Ending t fuel store) (Uncommitted store) := by
  refine (ensures_answer _ _).bind fun _ => .of_fact fun _ => ?_
  refine (ensures_perform _ (ensures_acquire lease) fun _ => Holds.uncommitted).bind fun result => ?_
  cases result with
  | none => exact .of_exists ensures_lostRace
  | some pair =>
    obtain ⟨owner,previous⟩ := pair
    refine .of_fact fun known => .of_exists fun registry => .of_exists fun row => .of_fact fun new => ?_
    subst known
    exact ensures_recoverAndCommit new

theorem ensures_validOwner : Ensures (Holds store store) (validOwner t) (fun _ => Holds store store) (Uncommitted store) := by
  refine (ensures_getOwner _ _).bind fun current => ?_
  cases current with
  | none => exact .pure fun _ => id
  | some owner => exact (ensures_answer _ _).bind fun _ => .of_fact fun _ => .pure fun _ => id

theorem ensures_isThisNodeEligible :
    Ensures (Holds store store) (isThisNodeEligible t) (fun _ => Holds store store) (Uncommitted store) :=
  (ensures_answer _ _).bind fun _ => .of_fact fun _ => .pure fun _ => id

theorem ensures_takeover :
    Ensures (Holds store store) (takeover t fuel) (Ending t fuel store) (Uncommitted store) := by
  unfold takeover
  cases lease : t.leaseUntil with
  | none => exact .throw fun _ => Holds.uncommitted
  | some leaseUntil =>
    refine ensures_validOwner.bind fun found => ?_
    cases found with
    | some owner =>
      refine .pure fun u holds => ?_
      by_cases own : owner.ownerNodeId = t.thisNode
      · rw [if_pos own]
        exact holds.uncommitted
      · rw [if_neg own]
        exact holds.uncommitted
    | none =>
      refine ensures_isThisNodeEligible.bind fun eligible => ?_
      cases eligible with
      | true => exact ensures_compete lease
      | false => exact .pure fun _ => Holds.uncommitted

end

/-- For any contents of the tables, any number of pages and a failure at any call, a takeover
commits the new owner with all that follows from it, or nothing. -/
theorem takeover_fences (t : Takeover) (fuel : Nat) (before : Store) :
    match (takeover t fuel).run (.opened before) with
    | .ok result u => Ending t fuel before result u
    | .error _ u => u.committed = before := by
  have spec : Ensures (Holds before before) (takeover t fuel) (Ending t fuel before) (Uncommitted before) :=
    ensures_takeover
  split
  · exact spec.ok rfl ‹_›
  · exact spec.error rfl ‹_›

end CheetahSignaling.TakeoverService
