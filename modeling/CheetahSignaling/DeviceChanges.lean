import CheetahSignaling.DeviceAggregates
import CheetahSignaling.GuardedRun
import CheetahSignaling.Outcomes

/-! `update` of `Device` and `Channel` as it works in place: the arguments given are checked and
assigned one after the other, and an error leaves the assignments before it. -/
namespace CheetahSignaling.Devices

open GuardedRun Outcomes

structure Assignment (σ : Type) where
  accepted : Except DomainError Unit
  set : σ → σ

def assign (validate : α → Except DomainError Unit) (set : α → σ → σ) : Option α → List (Assignment σ)
  | none => []
  | some a => [⟨validate a,set a⟩]

def assignAll : List (Assignment σ) → σ → Except DomainError Unit × σ
  | [], s => (.ok (),s)
  | first :: rest, s =>
    match first.accepted with
    | .error e => (.error e,s)
    | .ok () => assignAll rest (first.set s)

def emit (bump : σ → σ) (event : σ → DomainEvent) : Except DomainError Unit × σ → Except DomainError DomainEvent × σ
  | (.error e,s) => (.error e,s)
  | (.ok (),s) => (.ok (event (bump s)),bump s)

def Device.assignments (changes : Changes) : List (Assignment Device) :=
  [assign checkName (fun name device => { device with name }) changes.name,
    assign (fun kind => check (kind ≠ .unknown) "device kind must be known")
      (fun kind device => { device with kind }) changes.kind,
    assign (fun protocol => check (protocol ≠ .unknown) "protocol must be known")
      (fun protocol device => { device with protocol }) changes.protocol,
    assign (fun externalId => check (externalId ≠ "") "external_id must not be empty")
      (fun externalId device => { device with externalId }) changes.externalId,
    assign (fun authority => check (authority.utf8ByteSize ≤ 256) "authority must not exceed 256 bytes")
      (fun authority device => { device with authority }) changes.authority,
    assign validateCapabilities (fun capabilities device => { device with capabilities }) changes.capabilities,
    assign validateMetadata (fun metadata device => { device with metadata }) changes.metadata].flatten

def Device.updateInPlace (now : UtcTimestamp) (changes : Changes) (device : Device) : Except DomainError DomainEvent × Device :=
  match device.guardNotRetired with
  | .error e => (.error e,device)
  | .ok () => emit (bump now) updatedEvent (assignAll (assignments changes) device)

namespace Channel

structure Changes where
  kind : Option ChannelKind := none
  name : Option String := none
  enabled : Option Bool := none
  status : Option ChannelStatus := none
  streamProfiles : Option (List StreamProfile) := none
  ptzCapabilities : Option PtzCapabilities := none
  metadata : Option Metadata := none

def bump (now : UtcTimestamp) (channel : Channel) : Channel :=
  { channel with updatedAt := now, revision := channel.revision + 1 }

def updatedEvent (channel : Channel) : DomainEvent :=
  .channelUpdated channel.tenantId channel.deviceId channel.channelId channel.toChannelFields channel.updatedAt

def assignments (changes : Changes) : List (Assignment Channel) :=
  [assign (fun _ => .ok ()) (fun kind channel => { channel with kind }) changes.kind,
    assign checkName (fun name channel => { channel with name }) changes.name,
    assign (fun _ => .ok ()) (fun enabled channel => { channel with enabled }) changes.enabled,
    assign (fun _ => .ok ()) (fun status channel => { channel with status }) changes.status,
    assign validateStreamProfiles (fun streamProfiles channel => { channel with streamProfiles }) changes.streamProfiles,
    assign (fun _ => .ok ()) (fun ptzCapabilities channel => { channel with ptzCapabilities }) changes.ptzCapabilities,
    assign validateMetadata (fun metadata channel => { channel with metadata }) changes.metadata].flatten

def updateInPlace (now : UtcTimestamp) (changes : Changes) (channel : Channel) : Except DomainError DomainEvent × Channel :=
  emit (bump now) updatedEvent (assignAll (assignments changes) channel)

end Channel

/-! What assigning leaves -/

section

variable {as : List (Assignment σ)} {a : Assignment σ} {s : σ}

def applied (as : List (Assignment σ)) (s : σ) : σ := as.foldl (fun s a => a.set s) s

/-- The assignments made before the first refused one. -/
def made (as : List (Assignment σ)) : List (Assignment σ) := as.takeWhile (·.accepted.isOk)

/-- In any order and however often, the assignments come to the same. -/
structure Independent (as : List (Assignment σ)) : Prop where
  commute : as.Pairwise fun a b => ∀ s, a.set (b.set s) = b.set (a.set s)
  repeated : ∀ a ∈ as, ∀ s, a.set (a.set s) = a.set s

theorem assignAll_ok (returned : assignAll as s = (.ok (),changed)) : changed = applied as s := by
  induction as generalizing s with
  | nil => cases returned; rfl
  | cons first rest ih =>
    rw [assignAll] at returned
    split at returned
    · cases returned
    · exact ih returned

theorem assignAll_error (returned : assignAll as s = (.error e,left)) : left = applied (made as) s := by
  induction as generalizing s with
  | nil => cases returned
  | cons first rest ih =>
    rw [assignAll] at returned
    split at returned
    · rename_i refused
      cases returned
      simp [made,applied,refused,Except.isOk,Except.toBool]
    · rename_i accepted
      rw [ih returned]
      simp [made,applied,accepted,Except.isOk,Except.toBool]

theorem set_applied (commute : ∀ b ∈ as, ∀ s, a.set (b.set s) = b.set (a.set s)) (s : σ) :
    a.set (applied as s) = applied as (a.set s) := by
  induction as generalizing s with
  | nil => rfl
  | cons b rest ih =>
    obtain ⟨first,others⟩ := List.forall_mem_cons.mp commute
    rw [applied,List.foldl_cons,← applied,ih others,first,applied,applied,List.foldl_cons]

theorem Independent.set_again (independent : Independent as) (member : a ∈ as) (s : σ) :
    a.set (applied as s) = applied as s := by
  obtain ⟨commute,repeated⟩ := independent
  induction as generalizing s with
  | nil => cases member
  | cons b rest ih =>
    obtain ⟨first,others⟩ := List.pairwise_cons.mp commute
    obtain ⟨own,later⟩ := List.forall_mem_cons.mp repeated
    rw [applied,List.foldl_cons,← applied]
    rcases List.mem_cons.mp member with rfl | member
    · rw [set_applied first,own]
    · exact ih member (b.set s) others later

/-- No assignment undoes another, so together they change nothing only if none of them does. -/
theorem Independent.applied_eq_iff (independent : Independent as) : applied as s = s ↔ ∀ a ∈ as, a.set s = s := by
  constructor
  · intro same a member
    have again := independent.set_again member s
    rwa [same] at again
  · intro each
    clear independent
    induction as with
    | nil => rfl
    | cons b rest ih =>
      obtain ⟨own,others⟩ := List.forall_mem_cons.mp each
      rw [applied,List.foldl_cons,own]
      exact ih others

theorem Independent.made (independent : Independent as) : Independent (made as) where
  commute := independent.commute.sublist (List.takeWhile_sublist _)
  repeated a member := independent.repeated a ((List.takeWhile_sublist _).subset member)

theorem forall_mem_assign {P : Assignment σ → Prop} {set : α → σ → σ} (each : ∀ a, P ⟨validate a,set a⟩) :
    ∀ a ∈ assign validate set given, P a := by
  cases given with
  | none => nofun
  | some a => exact List.forall_mem_singleton.mpr (each a)

theorem Independent.assign_append {set : α → σ → σ} (repeated : ∀ a s, set a (set a s) = set a s)
    (commute : ∀ a, ∀ b ∈ as, ∀ s, set a (b.set s) = b.set (set a s)) (independent : Independent as) :
    Independent (assign validate set given ++ as) where
  commute := by
    cases given with
    | none => exact independent.commute
    | some a => exact List.pairwise_cons.mpr ⟨commute a,independent.commute⟩
  repeated := List.forall_mem_append.mpr ⟨forall_mem_assign repeated,independent.repeated⟩

theorem Independent.nil : Independent ([] : List (Assignment σ)) := ⟨.nil,nofun⟩

theorem assign_keeps (f : σ → β) {set : α → σ → σ} (keeps : ∀ a s, f (set a s) = f s) :
    ∀ a ∈ assign validate set given, ∀ s, f (a.set s) = f s := forall_mem_assign keeps

theorem assignAll_keeps {f : σ → β} (keeps : ∀ a ∈ as, ∀ s, f (a.set s) = f s) (s : σ) : f (assignAll as s).2 = f s := by
  induction as generalizing s with
  | nil => rfl
  | cons first rest ih =>
    rw [assignAll]
    split
    · rfl
    · exact (ih (fun a later => keeps a (.tail _ later)) _).trans (keeps first (.head _) s)

theorem assignAll_assign (validate : α → Except DomainError Unit) (set : α → σ → σ) (given : Option α) (s : σ) :
    (assignAll (assign validate set given ++ as) s).1 =
      checkSome validate given >>= fun _ => (assignAll as (applied (assign validate set given) s)).1 := by
  cases given with
  | none => rfl
  | some a =>
    rw [assign,List.singleton_append,assignAll,checkSome]
    cases validate a <;> rfl

end

/-- In place or not, an update accepts the same arguments with the same result. -/
theorem Device.update_eq (now : UtcTimestamp) (changes : Changes) (device : Device) : device.update now changes = (do
      device.guardNotRetired
      (assignAll (assignments changes) device).1
      let changed := bump now (applied (assignments changes) device)
      .ok (changed,changed.updatedEvent)) := by
  simp only [assignments,List.flatten_cons,assignAll_assign,bind_assoc]
  rcases changes with ⟨_ | _,_ | _,_ | _,_ | _,_ | _,_ | _,_ | _⟩ <;> rfl

theorem Channel.update_eq (now : UtcTimestamp) (fields : ChannelFields) (status : Option ChannelStatus) (channel : Channel) :
    let changes : Changes := ⟨some fields.kind,some fields.name,some fields.enabled,status,some fields.streamProfiles,
      some fields.ptzCapabilities,some fields.metadata⟩
    channel.update now (fun status => { fields with status }) status = (do
      (assignAll (assignments changes) channel).1
      let changed := bump now (applied (assignments changes) channel)
      .ok (changed,changed.updatedEvent)) := by
  simp only [assignments,List.flatten_cons,assignAll_assign,bind_assoc]
  cases status <;> rfl

/-- What an update leaves: every argument given at the next revision, announced by its event; or on an error the
revision, and the whole state exactly if the update was barred or no argument taken before the refused one changes
anything. -/
def Settles (revision : σ → Nat) (bump : σ → σ) (event : σ → DomainEvent) (as : List (Assignment σ)) (barred : Prop) (s : σ) :
    Except DomainError DomainEvent × σ → Prop
  | (.error _,left) => revision left = revision s ∧ (left = s ↔ barred ∨ ∀ a ∈ made as, a.set s = s)
  | (.ok emitted,changed) => revision changed = revision s + 1 ∧ changed = bump (applied as s) ∧ emitted = event changed

theorem emit_settles {as : List (Assignment σ)} (event : σ → DomainEvent) (independent : Independent as)
    (keeps : ∀ a ∈ as, ∀ s, revision (a.set s) = revision s) (next : ∀ s, revision (bump s) = revision s + 1) (free : ¬ barred)
    (s : σ) : Settles revision bump event as barred s (emit bump event (assignAll as s)) := by
  have kept := assignAll_keeps keeps s
  rcases returned : assignAll as s with ⟨e | ⟨⟩,left⟩ <;> rw [returned] at kept
  · refine ⟨kept,?_⟩
    rw [assignAll_error returned,independent.made.applied_eq_iff,or_iff_right free]
  · exact ⟨(next left).trans (congrArg _ kept),congrArg bump (assignAll_ok returned),rfl⟩

def Device.standing (device : Device) : DeviceLifecycle × Connectivity × Nat :=
  (device.lifecycle,device.connectivity,device.revision)

theorem Device.assignments_keep (changes : Changes) :
    ∀ a ∈ assignments changes, ∀ device, (a.set device).standing = device.standing := by
  simp only [assignments,List.flatten_cons,List.flatten_nil,List.append_nil,List.forall_mem_append]
  and_intros <;> exact assign_keeps standing fun _ _ => rfl

theorem Channel.assignments_keep (changes : Changes) :
    ∀ a ∈ assignments changes, ∀ channel, (a.set channel).revision = channel.revision := by
  simp only [assignments,List.flatten_cons,List.flatten_nil,List.append_nil,List.forall_mem_append]
  and_intros <;> exact assign_keeps revision fun _ _ => rfl

theorem Device.assignments_independent (changes : Changes) : Independent (assignments changes) := by
  simp only [assignments,List.flatten_cons,List.flatten_nil]
  iterate 7 (refine .assign_append (fun _ _ => rfl) (fun _ => ?_) ?_; rotate_left)
  · exact .nil
  all_goals simp only [List.forall_mem_append,List.not_mem_nil,false_implies,implies_true,and_true]
  all_goals and_intros <;> exact forall_mem_assign fun _ _ => rfl

theorem Channel.assignments_independent (changes : Changes) : Independent (assignments changes) := by
  simp only [assignments,List.flatten_cons,List.flatten_nil]
  iterate 7 (refine .assign_append (fun _ _ => rfl) (fun _ => ?_) ?_; rotate_left)
  · exact .nil
  all_goals simp only [List.forall_mem_append,List.not_mem_nil,false_implies,implies_true,and_true]
  all_goals and_intros <;> exact forall_mem_assign fun _ _ => rfl

/-- An update of a device or a channel settles; a retired device bars its own. -/
theorem updates_settle (now : UtcTimestamp) (changes : Device.Changes) (device : Device) (given : Channel.Changes)
    (channel : Channel) :
    Settles Device.revision (Device.bump now) Device.updatedEvent (Device.assignments changes) (device.lifecycle = .retired)
      device (device.updateInPlace now changes) ∧
    Settles Channel.revision (Channel.bump now) Channel.updatedEvent (Channel.assignments given) False channel
      (channel.updateInPlace now given) := by
  refine ⟨?_,emit_settles _ (Channel.assignments_independent given) (Channel.assignments_keep given) (fun _ => rfl) id channel⟩
  rw [Device.updateInPlace,Device.guardNotRetired]
  by_cases retired : device.lifecycle = .retired
  · rw [if_pos retired]
    exact ⟨rfl,iff_of_true rfl (.inl retired)⟩
  · rw [if_neg retired]
    exact emit_settles _ (Device.assignments_independent changes)
      (fun a member s => congrArg (·.2.2) (Device.assignments_keep changes a member s)) (fun _ => rfl) retired device

/-! Lifecycle and connectivity over calls one after the other -/

namespace Device

inductive Method where
  | markOnline (reason : Option String)
  | markOffline (reason : String)
  | suspend | activate | retire
  | update (changes : Changes)
  | touch

section

variable (device : Device)

def kept : Except DomainError (Device × DomainEvent) → Device
  | .ok (changed,_) => changed
  | .error _ => device

/-- Only `update` changes anything when it fails. -/
def call : UtcTimestamp × Method → Device
  | (now,.markOnline reason) => device.kept (device.markOnline now reason)
  | (now,.markOffline reason) => device.kept (device.markOffline now reason)
  | (now,.suspend) => device.kept (device.suspend now)
  | (now,.activate) => device.kept (device.activate now)
  | (now,.retire) => device.kept (device.retire now)
  | (now,.update changes) => (device.updateInPlace now changes).2
  | (now,.touch) => (device.touch now).1

/-- A suspended or retired device is not online. -/
def NotOnline : Prop :=
  device.lifecycle = .suspended ∨ device.lifecycle = .retired → device.connectivity ≠ .online

/-- A suspended device is not marked online. -/
def Waits : UtcTimestamp × Method → Prop
  | (_,.markOnline _) => device.lifecycle ≠ .suspended
  | _ => True

end

theorem updateInPlace_keeps (now : UtcTimestamp) (changes : Changes) (device : Device) :
    (device.updateInPlace now changes).2.lifecycle = device.lifecycle ∧
      (device.updateInPlace now changes).2.connectivity = device.connectivity := by
  have kept := assignAll_keeps (assignments_keep changes) device
  rw [updateInPlace]
  split
  · exact ⟨rfl,rfl⟩
  · revert kept
    rcases assignAll (assignments changes) device with ⟨e | ⟨⟩,left⟩ <;> exact fun kept =>
      ⟨congrArg (·.1) kept,congrArg (·.2.1) kept⟩

theorem kept_guarded (P : Device → Prop) (same : P device)
    (changed : device.lifecycle ≠ .retired → ∀ c, x = .ok c → P c.1) :
    P (device.kept (device.guardNotRetired >>= fun _ => x)) := by
  rw [guardNotRetired]
  split
  · exact same
  · cases returned : x with
    | error e => exact same
    | ok c => exact changed ‹_› c returned

theorem call_notOnline {device : Device} (holds : device.NotOnline) (m : UtcTimestamp × Method) (waits : device.Waits m) :
    (device.call m).NotOnline := by
  obtain ⟨now,m⟩ := m
  cases m with
  | update changes => rwa [NotOnline,call,(updateInPlace_keeps now changes device).1,(updateInPlace_keeps now changes device).2]
  | touch => exact holds
  | markOnline _ | markOffline _ =>
    refine kept_guarded NotOnline holds fun notRetired c returned => ?_
    obtain ⟨-,-,⟨⟩⟩ := bind_eq_ok returned
    dsimp only [NotOnline,bump,Waits] at waits ⊢
    grind
  | suspend | activate | retire =>
    refine kept_guarded NotOnline holds fun _ c returned => ?_
    cases returned
    dsimp [NotOnline,bump]
    grind

theorem call_retired {device : Device} (retired : device.lifecycle = .retired) (m : UtcTimestamp × Method) :
    (device.call m).lifecycle = .retired := by
  obtain ⟨now,m⟩ := m
  cases m with
  | update changes => exact (updateInPlace_keeps now changes device).1.trans retired
  | touch => exact retired
  | _ => exact kept_guarded (·.lifecycle = .retired) retired fun left => absurd retired left

/-- Over any calls, a device that is suspended or retired is not online as long as no suspended one is marked online, and
a retired one stays retired. -/
theorem suspended_or_retired_not_online (device : Device) (run : List (UtcTimestamp × Method)) :
    (device.NotOnline → Guarded call Waits device run → (execute call device run).NotOnline) ∧
    (device.lifecycle = .retired → (execute call device run).lifecycle = .retired) :=
  ⟨guarded_invariant fun _ m holds => call_notOnline holds m,
    execute_invariant (I := fun device : Device => device.lifecycle = .retired) (fun _ m retired => call_retired retired m) run⟩

end Device

namespace Sample

def camera : Device :=
  { protocol := .gb28181, externalId := "34020000001320000001", authority := "gb28181", name := "gate", kind := .camera
    lifecycle := .active, connectivity := .online, ownerEpoch := 1, capabilities := [], metadata := [], tenantId := 1
    deviceId := 7, createdAt := 0, updatedAt := 0, revision := 3 }

theorem renamed_by_refused_update : camera.updateInPlace 1 { name := some "yard", kind := some .unknown } =
      (.error (.invalidArgument "device kind must be known"),{ camera with name := "yard" }) := rfl

theorem suspended_marked_online :
    let device := execute Device.call camera [(1,.suspend),(2,.markOnline none)]
    device.lifecycle = .suspended ∧ device.connectivity = .online := ⟨rfl,rfl⟩

end Sample

end CheetahSignaling.Devices
