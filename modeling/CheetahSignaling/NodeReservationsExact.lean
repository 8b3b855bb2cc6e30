import CheetahSignaling.NodeReservations

/-! No reservation is lost or comes back as long as none is granted or released while a registration
is between its snapshot of the entry and its write of the entry. -/
namespace CheetahSignaling.NodeReservations

open MediaNodeRegistry GuardedRun Option

/-- The reservations held are those granted, but for expired ones. -/
structure Exact (granted reserved : Reservations) (latest : UtcTimestamp) : Prop where
  /-- What was released is not there. -/
  only : ∀ key deadline, reserved.lookup key = some deadline → granted.lookup key = some deadline
  /-- What was granted and has not expired is there. -/
  all : ∀ key deadline, granted.lookup key = some deadline → latest < deadline → reserved.lookup key = some deadline

namespace Exact

variable {granted reserved : Reservations}

theorem refl (reserved : Reservations) (latest : UtcTimestamp) : Exact reserved reserved latest :=
  ⟨fun _ _ found => found,fun _ _ found _ => found⟩

theorem later (exact : Exact granted reserved latest) (le : latest ≤ now) : Exact granted reserved now :=
  ⟨exact.only,fun key deadline found ahead => exact.all key deadline found (lt_of_le_of_lt le ahead)⟩

theorem lookup_retain :
    (retain now reserved).lookup key = some deadline ↔ reserved.lookup key = some deadline ∧ now < deadline := by
  rw [retain,KeyMap.lookup_sweep,bind_eq_some_iff]
  constructor
  · rintro ⟨kept,found,ahead⟩
    split at ahead
    · cases ahead
      exact ⟨found,‹_›⟩
    · cases ahead
  · rintro ⟨found,ahead⟩
    exact ⟨deadline,found,if_pos ahead⟩

section

variable (exact : Exact granted reserved latest)

include exact

theorem retain (le : now ≤ latest) : Exact granted (retain now reserved) latest where
  only key deadline found := exact.only key deadline (lookup_retain.mp found).1
  all key deadline found ahead := lookup_retain.mpr ⟨exact.all key deadline found ahead,lt_of_le_of_lt le ahead⟩

theorem insert (key : Reservation) (deadline : UtcTimestamp) :
    Exact (granted.insert key deadline) (reserved.insert key deadline) latest := by
  constructor
  · intro other d found
    by_cases same : other = key
    · subst same
      rwa [AList.lookup_insert] at found ⊢
    · rw [AList.lookup_insert_ne same] at found ⊢
      exact exact.only other d found
  intro other d found ahead
  by_cases same : other = key
  · subst same
    rwa [AList.lookup_insert] at found ⊢
  · rw [AList.lookup_insert_ne same] at found ⊢
    exact exact.all other d found ahead

theorem erase (key : Reservation) : Exact (granted.erase key) (reserved.erase key) latest := by
  constructor
  · intro other d found
    by_cases same : other = key
    · subst same
      simp at found
    · rw [AList.lookup_erase_ne same] at found ⊢
      exact exact.only other d found
  intro other d found ahead
  by_cases same : other = key
  · subst same
    simp at found
  · rw [AList.lookup_erase_ne same] at found ⊢
    exact exact.all other d found ahead

theorem erase_absent (absent : key ∉ granted) : Exact (granted.erase key) reserved latest := by
  have kept {other : Reservation} {d : UtcTimestamp} (found : granted.lookup other = some d) :
      (granted.erase key).lookup other = granted.lookup other := by
    refine AList.lookup_erase_ne fun same => ?_
    rw [same,AList.lookup_eq_none.mpr absent] at found
    cases found
  constructor
  · intro other d found
    have outstanding := exact.only other d found
    rwa [kept outstanding]
  intro other d found ahead
  by_cases same : other = key
  · subst same
    simp at found
  · rw [AList.lookup_erase_ne same] at found
    exact exact.all other d found ahead

end

theorem mem_unexpired :
    entry ∈ reserved.entries.filter (·.2 > now) ↔ reserved.lookup entry.1 = some entry.2 ∧ now < entry.2 := by
  rw [List.mem_filter,decide_eq_true_iff]
  exact and_congr_left fun _ => AList.mem_lookup_iff.symm

theorem unexpired_eq (exact : Exact granted reserved latest) (le : latest ≤ now) :
    unexpired now reserved = unexpired now granted := by
  apply List.Perm.length_eq
  rw [List.perm_ext_iff_of_nodup (reserved.nodupKeys.nodup.filter _) (granted.nodupKeys.nodup.filter _)]
  intro entry
  rw [mem_unexpired,mem_unexpired]
  refine and_congr_left fun ahead => ⟨exact.only entry.1 entry.2,fun found => ?_⟩
  exact exact.all entry.1 entry.2 found (lt_of_le_of_lt le ahead)

end Exact

def reservedIn (entry : Option NodeEntry) : Reservations := (entry.map NodeEntry.reserved).getD ∅

/-- The reservations a registration will write; none if it found no entry. -/
def Phase.snapshot : Phase → Option Reservations
  | .reading _ _ _ => some ∅
  | .writing _ _ _ reserved | .caching _ _ _ reserved => some reserved
  | _ => none

def Phase.registers : Phase → Option String
  | .reading node _ _ | .writing node _ _ _ | .caching node _ _ _ => some node.node.instanceId
  | _ => none

def Action.registers : Action → Option String
  | .register _ node _ _ => some node.node.instanceId
  | _ => none

def Clear (s : State) : Prop := ∀ call ∈ s.calls.entries, call.2.snapshot = none

section Calls

variable (config : MediaRegistryConfig) (nodeId : String)

def Dropped (now : UtcTimestamp) (entry entry' : Option NodeEntry) : Prop :=
  entry' = entry ∨ ∃ found, entry = some found ∧ entry' = some { found with reserved := retain now found.reserved }

theorem reserve_cases (entry : Option NodeEntry) (key : Reservation) (now : UtcTimestamp) :
    ((reserve config nodeId entry key now).1.isOk = false ∧ Dropped now entry (reserve config nodeId entry key now).2) ∨
      ((reserve config nodeId entry key now).1.isOk = true ∧ ∃ found, entry = some found ∧
          (reserve config nodeId entry key now).2 =
            some { found with reserved := (retain now found.reserved).insert key (now + millis config.reservationTtlMs) }) := by
  cases entry with
  | none => exact .inl ⟨rfl,.inl rfl⟩
  | some entry =>
    simp only [reserve]
    split
    · exact .inl ⟨rfl,.inl rfl⟩
    split
    · exact .inl ⟨rfl,.inl rfl⟩
    split
    · exact .inl ⟨rfl,.inl rfl⟩
    split
    · exact .inl ⟨rfl,.inl rfl⟩
    split
    · exact .inl ⟨rfl,.inl rfl⟩
    rename_i deadline added
    have ends : deadline = now + millis config.reservationTtlMs := by
      unfold checkedAdd at added
      split at added
      · exact (Option.some.inj added).symm
      · cases added
    subst ends
    split
    · exact .inl ⟨rfl,.inr ⟨entry,rfl,rfl⟩⟩
    · exact .inr ⟨rfl,entry,rfl,rfl⟩

def Same (entry entry' : Option NodeEntry) : Prop :=
  reservedIn entry' = reservedIn entry ∧ entry'.map NodeEntry.instanceId = entry.map NodeEntry.instanceId

theorem attempt_entry (same : next.1.entry = m.entry) : (attempt fault m next).1.entry = m.entry := by
  cases fault with
  | none => exact same
  | some error => rfl

theorem attempt_waits (waits : (attempt fault m next).2 = .waits phase) : next.2 = .waits phase := by
  cases fault with
  | none => exact waits
  | some error => cases waits

theorem amend_same
    (kept : ∀ entry node, Same (some entry) (some (change entry node))) :
    Same m.entry (amend config nodeId persisted m now change).1.entry := by
  unfold amend
  split
  · rename_i node entry found
    rw [found]
    exact kept entry node
  · exact ⟨rfl,rfl⟩

theorem amend_answers :
    ¬(amend config nodeId persisted m now change).2 = .waits phase := by
  unfold amend
  split <;> nofun

theorem resume_entry :
    Same m.entry (resume config nodeId fault m phase).1.entry ∨
      ∃ entry, (resume config nodeId fault m phase).1.entry = some entry ∧
        phase.snapshot = some entry.reserved ∧ phase.registers = some entry.instanceId := by
  have unchanged {next : Registry × Progress} (same : next.1.entry = m.entry) : Same m.entry next.1.entry :=
    ⟨congrArg reservedIn same,congrArg (Option.map NodeEntry.instanceId) same⟩
  cases phase with
  | reading node now lease => cases fault <;> exact .inl ⟨rfl,rfl⟩
  | writing updated now reported reserved =>
    refine .inl (unchanged (attempt_entry ?_))
    split <;> rfl
  | caching persisted now reported reserved => exact .inr ⟨_,rfl,rfl,rfl⟩
  | beating leaseId now lease load sessionCount => exact .inl (unchanged (attempt_entry rfl))
  | beaten persisted now lease sessionCount => exact .inl (amend_same config nodeId fun _ _ => ⟨rfl,rfl⟩)
  | draining instanceId now drain => exact .inl (unchanged (attempt_entry rfl))
  | drained persisted now => exact .inl (amend_same config nodeId fun _ _ => ⟨rfl,rfl⟩)

theorem registerRow_ok (written : registerRow db node = .ok row) :
    row.loaded.node.instanceId = node.node.instanceId := by
  unfold registerRow at written
  cases registered : MediaNodeRegistry.register (db.map Row.row) node.node with
  | error e =>
    rw [registered] at written
    cases written
  | ok plain =>
    rw [registered] at written
    cases written
    obtain ⟨⟨revision,rfl⟩,-⟩ := register_ok registered
    exact MediaNode.row_instanceId node.node revision

theorem fromStore_instanceId : (fromStore node now lease existing).instanceId = node.instanceId := by
  cases existing <;> rfl

theorem resume_waits
    (waits : (resume config nodeId fault m phase).2 = .waits phase') :
    phase'.snapshot = phase.snapshot ∧ phase'.registers = phase.registers := by
  cases phase with
  | reading node now lease =>
    cases fault with
    | some error => cases waits
    | none =>
      cases waits
      exact ⟨rfl,congrArg some (fromStore_instanceId ..)⟩
  | writing updated now reported reserved =>
    have waits := attempt_waits waits
    split at waits
    · rename_i row written
      cases waits
      exact ⟨rfl,congrArg some (registerRow_ok written)⟩
    · cases waits
  | caching persisted now reported reserved => cases waits
  | beating leaseId now lease load sessionCount =>
    cases attempt_waits waits
    exact ⟨rfl,rfl⟩
  | beaten persisted now lease sessionCount => exact absurd waits (amend_answers config nodeId)
  | draining instanceId now drain =>
    cases attempt_waits waits
    exact ⟨rfl,rfl⟩
  | drained persisted now => exact absurd waits (amend_answers config nodeId)

theorem heartbeat_waits (waits : heartbeat config nodeId entry leaseId instanceEpoch load sessionCount now = .waits phase) :
    phase.snapshot = none ∧ phase.registers = none := by
  unfold heartbeat at waits
  repeat' split at waits
  all_goals cases waits
  exact ⟨rfl,rfl⟩

theorem drain_waits (waits : drain nodeId entry flag now = .waits phase) : phase.snapshot = none ∧ phase.registers = none := by
  unfold drain at waits
  split at waits
  all_goals cases waits
  exact ⟨rfl,rfl⟩

theorem register_same (same : ∀ found ∈ entry, found.instanceId = node.node.instanceId) (leaseTtlMs : Nat)
    (now : UtcTimestamp) :
    (register entry node leaseTtlMs now).snapshot = some (reservedIn entry) ∧
      (register entry node leaseTtlMs now).registers = some node.node.instanceId := by
  cases entry with
  | none => exact ⟨rfl,rfl⟩
  | some found =>
    simp only [register,if_pos (same found rfl)]
    exact ⟨rfl,rfl⟩

end Calls

/-! Runs -/

section Runs

variable (config : MediaRegistryConfig) (nodeId : String)

def Alters (s : State) : Action → Prop
  | .reserve key now => grants config nodeId s key now = true
  | .release key _ => key ∈ s.granted
  | _ => False

instance (s : State) : (action : Action) → Decidable (Alters config nodeId s action)
  | .reserve key now => inferInstanceAs (Decidable (grants config nodeId s key now = true))
  | .release key _ => inferInstanceAs (Decidable (key ∈ s.granted))
  | .register .. | .heartbeat .. | .drain .. | .resume .. | .abandon .. | .store .. => inferInstanceAs (Decidable False)

instance (s : State) : Decidable (Clear s) :=
  decidable_of_iff (∀ call ∈ s.calls.entries, call.2.snapshot.isNone = true) (by simp [Clear])

/-- Reservations change only while no call holds a snapshot. -/
def Undisturbed (s : State) (action : Action) : Prop := Alters config nodeId s action → Clear s

instance (s : State) (action : Action) : Decidable (Undisturbed config nodeId s action) :=
  inferInstanceAs (Decidable (Alters config nodeId s action → Clear s))

variable {config nodeId}

section

variable (instanceId : String) (granted : Reservations) (latest : UtcTimestamp)

/-- A call waits with a snapshot that is still exact. -/
structure Phase.Sound (phase : Phase) : Prop where
  snapshot : ∀ reserved ∈ phase.snapshot, Exact granted reserved latest
  registers : ∀ registered ∈ phase.registers, registered = instanceId

structure Entry.Sound (entry : Option NodeEntry) : Prop where
  reserved : Exact granted (reservedIn entry) latest
  named : ∀ found ∈ entry, found.instanceId = instanceId

/-- The entry and the snapshots of all calls under way are exact. -/
structure Sound (s : State) : Prop where
  entry : Entry.Sound instanceId s.granted s.latest s.registry.entry
  calls : ∀ call phase, s.calls.lookup call = some phase → phase.Sound instanceId s.granted s.latest

end

theorem Phase.Sound.of_eq {phase phase' : Phase} (sound : phase.Sound instanceId granted latest)
    (same : phase'.snapshot = phase.snapshot ∧ phase'.registers = phase.registers) : phase'.Sound instanceId granted latest :=
  ⟨same.1 ▸ sound.snapshot,same.2 ▸ sound.registers⟩

theorem Phase.Sound.of_none {phase : Phase} (none : phase.snapshot = none ∧ phase.registers = none) :
    phase.Sound instanceId granted latest :=
  ⟨by simp [none.1],by simp [none.2]⟩

theorem Entry.Sound.of_same (sound : Entry.Sound instanceId granted latest entry) (same : Same entry entry') :
    Entry.Sound instanceId granted latest entry' := by
  refine ⟨same.1 ▸ sound.reserved,fun found member => ?_⟩
  have named : entry.map NodeEntry.instanceId = some found.instanceId := by
    rw [← same.2,mem_def.mp member,map_some]
  obtain ⟨old,stored,eq⟩ := map_eq_some_iff.mp named
  exact eq ▸ sound.named old stored

namespace Sound

section

variable (sound : Sound instanceId s) (call : Nat)
include call sound

theorem erase : Sound instanceId { s with calls := s.calls.erase call } := by
  refine ⟨sound.entry,fun other phase found => ?_⟩
  by_cases same : other = call
  · subst same
    simp at found
  · exact sound.calls other phase ((AList.lookup_erase_ne same).symm.trans found)

theorem settle
    (next : ∀ phase, progress = .waits phase → phase.Sound instanceId s.granted s.latest) :
    Sound instanceId (settle s call progress) := by
  cases progress with
  | answers answer => exact sound.erase call
  | waits phase =>
    refine ⟨sound.entry,fun other waiting found => ?_⟩
    by_cases same : other = call
    · subst same
      have inserted : (s.calls.insert other phase).lookup other = some waiting := found
      rw [AList.lookup_insert] at inserted
      exact Option.some.inj inserted ▸ next phase rfl
    · exact sound.calls other waiting ((AList.lookup_insert_ne same).symm.trans found)

theorem start (next : ∀ phase, progress = .waits phase → phase.Sound instanceId s.granted s.latest) :
    Sound instanceId (start s call progress) := by
  unfold NodeReservations.start
  split
  · exact sound
  · exact sound.settle call next

theorem resumed (fault : Option StorageError) : Sound instanceId (resumed config nodeId s call fault) := by
  unfold NodeReservations.resumed
  split
  · exact sound
  rename_i phase waiting
  have waits := sound.calls call phase waiting
  have entry : Entry.Sound instanceId s.granted s.latest (resume config nodeId fault s.registry phase).1.entry := by
    rcases resume_entry config nodeId with same | ⟨written,left,snapshot,registers⟩
    · exact sound.entry.of_same same
    rw [left]
    refine ⟨waits.snapshot written.reserved snapshot,?_⟩
    rintro _ ⟨⟩
    exact waits.registers written.instanceId registers
  have after : Sound instanceId { s with registry := (resume config nodeId fault s.registry phase).1 } := ⟨entry,sound.calls⟩
  exact after.settle call fun phase' next => waits.of_eq (resume_waits config nodeId next)

end

theorem calls_clear (clear : Clear s) (sound : Sound instanceId s) (latest : UtcTimestamp) (call : Nat)
    (phase : Phase) (found : s.calls.lookup call = some phase) : phase.Sound instanceId granted latest := by
  have none := clear ⟨call,phase⟩ (AList.mem_lookup_iff.mp found)
  exact ⟨by simp [none],(sound.calls call phase found).registers⟩

theorem reserve (sound : Sound instanceId s) (key : Reservation) (now : UtcTimestamp)
    (undisturbed : Undisturbed config nodeId s (.reserve key now)) :
    Sound instanceId (step config nodeId s (.reserve key now)) := by
  have later := sound.entry.reserved.later (le_max_left s.latest now)
  have entry : (step config nodeId s (.reserve key now)).registry.entry =
      (NodeReservations.reserve config nodeId s.registry.entry key now).2 := rfl
  rcases reserve_cases config nodeId s.registry.entry key now with ⟨denied,dropped⟩ | ⟨granted,found,stored,left⟩
  · have kept : (step config nodeId s (.reserve key now)).granted = s.granted := if_neg (by simp [grants,denied])
    constructor
    · rw [kept,entry]
      rcases dropped with same | ⟨found,stored,left⟩
      · rw [same]
        exact ⟨later,sound.entry.named⟩
      rw [left]
      rw [stored] at later
      refine ⟨later.retain (le_max_right s.latest now),?_⟩
      rintro _ ⟨⟩
      exact sound.entry.named found stored
    intro call phase waiting
    have before := sound.calls call phase waiting
    rw [kept]
    exact ⟨fun reserved member => (before.snapshot reserved member).later (le_max_left s.latest now),before.registers⟩
  have added : (step config nodeId s (.reserve key now)).granted =
      s.granted.insert key (now + millis config.reservationTtlMs) := if_pos granted
  have clear : Clear s := undisturbed granted
  constructor
  · rw [added,entry,left]
    rw [stored] at later
    refine ⟨(later.retain (le_max_right s.latest now)).insert key _,?_⟩
    rintro _ ⟨⟩
    exact sound.entry.named found stored
  · exact calls_clear clear sound _

theorem release (sound : Sound instanceId s) (key : Reservation) (now : UtcTimestamp)
    (undisturbed : Undisturbed config nodeId s (.release key now)) :
    Sound instanceId (step config nodeId s (.release key now)) := by
  have later := (sound.entry.reserved.later (le_max_left s.latest now)).erase key
  constructor
  · have freed := later.retain (le_max_right s.latest now)
    cases stored : s.registry.entry with
    | none =>
      rw [stored] at freed
      simp only [step,stored]
      exact ⟨freed,nofun⟩
    | some found =>
      rw [stored] at freed
      simp only [step,stored]
      refine ⟨freed,?_⟩
      rintro _ ⟨⟩
      exact sound.entry.named found stored
  intro call phase waiting
  by_cases outstanding : key ∈ s.granted
  · exact calls_clear (undisturbed outstanding) sound _ call phase waiting
  · have before := sound.calls call phase waiting
    refine ⟨fun reserved member => ?_,before.registers⟩
    exact ((before.snapshot reserved member).later (le_max_left s.latest now)).erase_absent outstanding

/-- A step of any call keeps them so. -/
theorem step (sound : Sound instanceId s) (action : Action) (same : ∀ registered ∈ action.registers, registered = instanceId)
    (undisturbed : Undisturbed config nodeId s action) : Sound instanceId (step config nodeId s action) := by
  cases action with
  | register call node leaseTtlMs now =>
    refine sound.start call fun phase waits => ?_
    cases waits
    have own := same node.node.instanceId rfl
    have taken := register_same (fun found stored => (sound.entry.named found stored).trans own.symm) leaseTtlMs now
    refine ⟨?_,?_⟩
    · rw [taken.1]
      rintro _ ⟨⟩
      exact sound.entry.reserved
    · rw [taken.2]
      rintro _ ⟨⟩
      exact own
  | heartbeat call leaseId instanceEpoch load sessionCount now =>
    exact sound.start call fun phase waits => .of_none (heartbeat_waits config nodeId waits)
  | drain call flag now => exact sound.start call fun phase waits => .of_none (drain_waits nodeId waits)
  | resume call fault => exact sound.resumed call fault
  | abandon call => exact sound.erase call
  | reserve key now => exact sound.reserve key now undisturbed
  | release key now => exact sound.release key now undisturbed
  | store db => exact ⟨sound.entry,sound.calls⟩

end Sound

def idle (db : Option Row) (entry : Option NodeEntry) (latest : UtcTimestamp) : State :=
  ⟨⟨db,entry⟩,∅,reservedIn entry,latest⟩

theorem idle_sound (own : ∀ found ∈ entry, found.instanceId = instanceId) :
    Sound instanceId (idle db entry latest) :=
  ⟨⟨.refl _ _,own⟩,fun call phase found => by simp [idle] at found⟩

/-- The outstanding reservations are exactly those the entry counts. -/
structure Counted (config : MediaRegistryConfig) (s : State) : Prop where
  exact : Exact s.granted (reservedIn s.registry.entry) s.latest
  sessionCount : ∀ entry ∈ s.registry.entry, ∀ now ≥ s.latest, (toMediaNode config entry now).node.node.sessionCount =
      saturatingAdd entry.reportedSessionCount (unexpired now s.granted)

theorem Sound.counted (sound : Sound instanceId s) : Counted config s := by
  refine ⟨sound.entry.reserved,fun entry stored now le => ?_⟩
  have exact := sound.entry.reserved
  rw [mem_def.mp stored] at exact
  exact congrArg (saturatingAdd entry.reportedSessionCount) (exact.unexpired_eq le)

/-- In every interleaving of registrations of one instance, heartbeats, drains, reservations and releases in which
no reservation is granted or released while a registration is between its snapshot and its write, a reservation that
was granted, not released and has not expired is counted, and a released one does not come back. -/
theorem reservations_counted_exactly (config : MediaRegistryConfig) (nodeId instanceId : String) (db : Option Row)
    (entry : Option NodeEntry) (latest : UtcTimestamp) (own : ∀ found ∈ entry, found.instanceId = instanceId)
    (run : List Action) (same : ∀ action ∈ run, ∀ registered ∈ action.registers, registered = instanceId)
    (undisturbed : Guarded (step config nodeId) (Undisturbed config nodeId) (idle db entry latest) run) :
    Counted config (execute (step config nodeId) (idle db entry latest) run) := by
  have preserved (s : State) (action : Action) (sound : Sound instanceId s)
      (ok : (∀ registered ∈ action.registers, registered = instanceId) ∧ Undisturbed config nodeId s action) :
      Sound instanceId (step config nodeId s action) := sound.step action ok.1 ok.2
  exact (guarded_invariant preserved (idle_sound own) (undisturbed.and_actions run same)).counted

end Runs

namespace Sample

def config : MediaRegistryConfig := ⟨30000,60000,100,100000,10000⟩

def node : Node := ⟨⟨"i-1",0,0,0,0,false,.active,none,none,0⟩,⟨10,80⟩⟩

def started : List Action := [.register 0 node 30000 0,.resume 0 none,.resume 0 none,.resume 0 none]

def after (run : List Action) : State := execute (step config "n-1") (idle none none 0) (started ++ run)

def sessionCount (s : State) (now : UtcTimestamp) : Option Nat :=
  s.registry.entry.map fun entry => (toMediaNode config entry now).node.node.sessionCount

def renewal : List Action :=
  [.reserve (1,7) 1000,.heartbeat 2 "i-1" 1 20 3 2000,.register 1 node 30000 3000,.resume 1 none,.resume 2 none,
    .resume 1 none,.resume 2 none,.reserve (1,8) 4000,.drain 3 true 5000,.resume 3 none,.release (1,7) 6000,.resume 3 none]

theorem renewal_counted : Counted config (after renewal) ∧ sessionCount (after renewal) 7000 = some 4 :=
  ⟨reservations_counted_exactly config "n-1" "i-1" none none 0 nofun (started ++ renewal) (by decide) (by decide +kernel),
    by decide +kernel⟩

def reservedInGap : List Action := [.register 1 node 30000 1000,.reserve (1,7) 2000,.resume 1 none,.resume 1 none]

/-- The session was reserved before and is released there. -/
def releasedInGap : List Action :=
  [.reserve (1,7) 1000,.register 1 node 30000 2000,.release (1,7) 3000,.resume 1 none,.resume 1 none]

/-- The first reservation is outstanding but not counted; the second was released but is counted. -/
theorem gap_loses_and_revives :
    ((after reservedInGap).granted.lookup (1,7) = some 10000002000 ∧ sessionCount (after reservedInGap) 4000 = some 0) ∧
      ((after releasedInGap).granted.lookup (1,7) = none ∧ sessionCount (after releasedInGap) 4000 = some 1) := by
  decide +kernel

end Sample

end CheetahSignaling.NodeReservations
