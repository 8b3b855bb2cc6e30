import CheetahSignaling.DeviceService
import CheetahSignaling.GuardedRun
import CheetahSignaling.Outcomes
import CheetahSignaling.RevisionLog

/-! The numbers of the events that `DeviceService` appends for one aggregate. A call is a sequence of
creations, changes and removals of rows with a revision, each with its event, so what is known of
such logs holds of the outbox. -/
namespace CheetahSignaling.Devices

open Outcomes GuardedRun RevisionLog Relation Function Option
open List hiding set

inductive Key where
  | device (tenantId : TenantId) (deviceId : DeviceId)
  | channel (key : ChannelKey)
  deriving DecidableEq

def Key.ref : Key → ResourceRef
  | .device tenantId deviceId => deviceResourceRef tenantId deviceId
  | .channel (tenantId,deviceId,channelId) => channelResourceRef tenantId deviceId channelId

def DomainEvent.change : DomainEvent → Change
  | .deviceRegistered .. | .channelCreated .. => .created
  | .channelRemoved .. => .removed
  | _ => .changed

def Event.entry (event : Event) : Entry ResourceRef := ⟨event.aggregateRef,event.aggregateSequence,event.payload.change⟩

def revision (s : Store) : Key → Option Nat
  | .device tenantId deviceId => ((s.devices.lookup deviceId).filter (·.tenantId = tenantId)).map (·.revision)
  | .channel key => (s.channels.lookup key).map (·.revision)

def ledger (s : Store) : Ledger Key ResourceRef := ⟨revision s,s.outbox.map Event.entry⟩

/-- Rows stand under their own ids. -/
structure Keyed (s : Store) : Prop where
  devices : ∀ deviceId device, s.devices.lookup deviceId = some device → device.deviceId = deviceId
  channels : ∀ key channel, s.channels.lookup key = some channel → channel.key = key

/-- What is done to the rows between two stores is a sequence of moves. -/
structure Moves (s s' : Store) : Prop where
  moves : ReflTransGen (Move Key.ref) (ledger s) (ledger s')
  keyed : Keyed s'

/-- Only a device and its events are written. -/
structure DeviceMoves (s s' : Store) : Prop extends Moves s s' where
  channels : s'.channels = s.channels
  outbox : ∃ event : Event, s'.outbox = s.outbox ++ [event] ∧ event.payload.change ≠ .removed

theorem Moves.refl (keyed : Keyed s) : Moves s s := ⟨.refl,keyed⟩

theorem Moves.trans (first : Moves s s') (rest : Moves s' s'') : Moves s s'' := ⟨first.moves.trans rest.moves,rest.keyed⟩

theorem domain_ok (returned : domain x = .ok a) : x = .ok a := by
  cases x with
  | error e => cases returned
  | ok b =>
    cases returned
    rfl

/-! Aggregates -/

/-- A changed device is the same one at its next revision. -/
structure Device.Next (device : Device) (changed : Device × DomainEvent) : Prop where
  tenantId : changed.1.tenantId = device.tenantId
  deviceId : changed.1.deviceId = device.deviceId
  revision : changed.1.revision = device.revision + 1
  change : changed.2.change = .changed

namespace Device

variable {device : Device}

theorem update_next (returned : device.update now changes = .ok changed) : device.Next changed := by
  iterate 8 obtain ⟨-,-,returned⟩ := bind_eq_ok returned
  cases returned
  exact ⟨rfl,rfl,rfl,rfl⟩

theorem markOnline_next (returned : device.markOnline now reason = .ok changed) : device.Next changed := by
  obtain ⟨-,-,-,-,returned⟩ := bind_eq_ok₂ returned
  cases returned
  exact ⟨rfl,rfl,rfl,rfl⟩

theorem markOffline_next (returned : device.markOffline now reason = .ok changed) : device.Next changed := by
  obtain ⟨-,-,-,-,returned⟩ := bind_eq_ok₂ returned
  cases returned
  exact ⟨rfl,rfl,rfl,rfl⟩

theorem retire_next (returned : device.retire now = .ok changed) : device.Next changed := by
  obtain ⟨-,-,returned⟩ := bind_eq_ok returned
  cases returned
  exact ⟨rfl,rfl,rfl,rfl⟩

theorem touch_next (device : Device) : device.Next (device.touch now) := ⟨rfl,rfl,rfl,rfl⟩

theorem new_first {id : DeviceId}
    (returned : Device.new now owner id p identity place title k abilities data = .ok changed) :
    changed.1.tenantId = owner ∧ changed.1.revision = 0 ∧ changed.2.change = .created := by
  iterate 8 obtain ⟨-,-,returned⟩ := bind_eq_ok returned
  cases returned
  exact ⟨rfl,rfl,rfl⟩

end Device

namespace Channel

variable {channel : Channel}

theorem update_next (returned : channel.update now given state = .ok changed) :
    changed.1.key = channel.key ∧ changed.1.revision = channel.revision + 1 ∧ changed.2.change = .changed := by
  iterate 3 obtain ⟨-,-,returned⟩ := bind_eq_ok returned
  cases returned
  exact ⟨rfl,rfl,rfl⟩

theorem new_first {id : ChannelId}
    (returned : Channel.new now owner device id given state = .ok changed) :
    changed.1.key = (owner,device,id) ∧ changed.1.revision = 0 ∧ changed.2.change = .created := by
  iterate 4 obtain ⟨-,-,returned⟩ := bind_eq_ok returned
  cases returned
  exact ⟨rfl,rfl,rfl⟩

end Channel

/-! Rows -/

section Rows

theorem checkRevision_zero (passed : checkRevision stored 0 = .ok ()) : stored = none := by
  unfold checkRevision at passed
  split at passed
  · rfl
  · split at passed
    · exact absurd ‹_› (Nat.succ_ne_zero _)
    · cases passed

theorem Keyed.insertDevice (keyed : Keyed s) : Keyed ⟨s.devices.insert device.deviceId device,s.channels,outbox⟩ := by
  refine ⟨fun deviceId found lookup => ?_,keyed.channels⟩
  rcases update_some ((KeyMap.lookup_insert_eq ..).symm.trans lookup) with ⟨rfl,same⟩ | ⟨-,stored⟩
  · rw [← Option.some.inj same]
  · exact keyed.devices deviceId found stored

theorem Keyed.setChannel (keyed : Keyed s) (set : ∀ other, rows.lookup other = update (s.channels.lookup ·) key row other)
    (own : ∀ channel ∈ row, channel.key = key) : Keyed ⟨s.devices,rows,outbox⟩ := by
  refine ⟨keyed.devices,fun other found lookup => ?_⟩
  rcases update_some ((set other).symm.trans lookup) with ⟨rfl,same⟩ | ⟨-,stored⟩
  · exact own found same
  · exact keyed.channels other found stored

/-- The device's id was free, or its row belonged to the same tenant. -/
theorem revision_insertDevice
    (own : ∀ row, s.devices.lookup device.deviceId = some row → row.tenantId = device.tenantId) :
    revision ⟨s.devices.insert device.deviceId device,s.channels,outbox⟩ =
      update (revision s) (.device device.tenantId device.deviceId) (some device.revision) := by
  funext key
  cases key with
  | channel key =>
    rfl
  | device tenantId deviceId =>
    by_cases sameId : deviceId = device.deviceId
    · subst sameId
      by_cases sameTenant : tenantId = device.tenantId
      · subst sameTenant
        rw [update_self,revision,AList.lookup_insert]
        simp
      rw [update_of_ne (fun same => sameTenant (Key.device.inj same).1),revision,revision,AList.lookup_insert]
      cases stored : s.devices.lookup device.deviceId with
      | none => simp [Ne.symm sameTenant]
      | some row =>
        have foreign : row.tenantId ≠ tenantId := fun same => sameTenant (same.symm.trans (own row stored))
        simp [Option.filter,foreign,Ne.symm sameTenant]
    · rw [update_of_ne (fun same => sameId (Key.device.inj same).2),revision,revision,AList.lookup_insert_ne sameId]

theorem revision_setChannel (set : ∀ other, rows.lookup other = update (s.channels.lookup ·) key row other) :
    revision ⟨s.devices,rows,outbox⟩ = update (revision s) (.channel key) (row.map (·.revision)) := by
  funext other
  cases other with
  | device tenantId deviceId =>
    rfl
  | channel other =>
    show (rows.lookup other).map _ = _
    rw [set]
    by_cases same : other = key
    · rw [same,update_self,update_self]
    · rw [update_of_ne same,update_of_ne (fun eq => same (Key.channel.inj eq)),revision]

/-! One row and its event -/

theorem commitDevice_ok (returned : commitDevice now tenantId changed s = .ok (device,s')) :
    checkRevision ((s.devices.lookup changed.1.deviceId).map (·.revision)) changed.1.revision = .ok () ∧
      s' = ⟨s.devices.insert changed.1.deviceId changed.1,s.channels,
        s.outbox ++ [⟨tenantId,deviceResourceRef tenantId changed.1.deviceId,changed.1.revision,now,changed.2⟩]⟩ := by
  obtain ⟨saved,save,returned⟩ := bind_eq_ok returned
  obtain ⟨⟨⟩,passed,save⟩ := bind_eq_ok save
  cases save
  cases returned
  exact ⟨passed,rfl⟩

theorem insertDevice_moves (keyed : Keyed s)
    (own : ∀ row, s.devices.lookup device.deviceId = some row → row.tenantId = device.tenantId)
    (move : Move Key.ref (ledger s) ⟨update (ledger s).rows (.device device.tenantId device.deviceId) (some device.revision),
      (ledger s).log ++ [event.entry]⟩) (kept : event.payload.change ≠ .removed) :
    DeviceMoves s ⟨s.devices.insert device.deviceId device,s.channels,s.outbox ++ [event]⟩ := by
  refine ⟨⟨.single ?_,keyed.insertDevice⟩,rfl,event,rfl,kept⟩
  unfold ledger at move ⊢
  rwa [revision_insertDevice own,map_append]

theorem commitDevice_change (keyed : Keyed s) (stored : s.devices.lookup device.deviceId = some device)
    (own : device.tenantId = tenantId) (next : device.Next changed)
    (returned : commitDevice now tenantId changed s = .ok (result,s')) : DeviceMoves s s' := by
  obtain ⟨-,rfl⟩ := commitDevice_ok returned
  have row := next.deviceId.symm ▸ stored
  have before : (ledger s).rows (.device changed.1.tenantId changed.1.deviceId) = some device.revision := by
    change ((s.devices.lookup changed.1.deviceId).filter (·.tenantId = changed.1.tenantId)).map (·.revision) = _
    rw [row]
    simp [next.tenantId]
  have same (found : Device) (lookup : s.devices.lookup changed.1.deviceId = some found) :
      found.tenantId = changed.1.tenantId := by
    cases row.symm.trans lookup
    exact next.tenantId.symm
  refine insertDevice_moves keyed same ?_ (by rw [next.change]; nofun)
  rw [Event.entry,next.change,next.revision,← next.tenantId.trans own]
  exact .change _ device.revision before

theorem commitDevice_create (keyed : Keyed s) (own : changed.1.tenantId = tenantId) (initial : changed.1.revision = 0)
    (created : changed.2.change = .created) (returned : commitDevice now tenantId changed s = .ok (result,s')) :
    DeviceMoves s s' := by
  obtain ⟨passed,rfl⟩ := commitDevice_ok returned
  rw [initial] at passed
  have free := map_eq_none_iff.mp (checkRevision_zero passed)
  have before : (ledger s).rows (.device changed.1.tenantId changed.1.deviceId) = none := by
    change ((s.devices.lookup changed.1.deviceId).filter (·.tenantId = changed.1.tenantId)).map (·.revision) = _
    rw [free]
    rfl
  refine insertDevice_moves keyed (fun found lookup => nomatch free.symm.trans lookup) ?_ (by rw [created]; nofun)
  rw [Event.entry,created,initial,← own]
  exact .create _ before

theorem setChannel_moves (keyed : Keyed s) (event : Event)
    (set : ∀ other, rows.lookup other = update (s.channels.lookup ·) key row other)
    (own : ∀ channel ∈ row, channel.key = key)
    (move : Move Key.ref (ledger s)
      ⟨update (ledger s).rows (.channel key) (row.map (·.revision)),(ledger s).log ++ [event.entry]⟩) :
    Moves s ⟨s.devices,rows,s.outbox ++ [event]⟩ := by
  refine ⟨.single ?_,keyed.setChannel set own⟩
  unfold ledger at move ⊢
  rwa [revision_setChannel set,map_append]

end Rows

/-! Channels -/

section Channels

theorem described_cases (keyed : Keyed s) (returned : described now tenantId deviceId channelId given status s = .ok changed) :
    changed.1.key = (tenantId,deviceId,channelId) ∧
      ((revision s (.channel changed.1.key) = none ∧ changed.1.revision = 0 ∧ changed.2.change = .created) ∨
        ∃ n, revision s (.channel changed.1.key) = some n ∧ changed.1.revision = n + 1 ∧ changed.2.change = .changed) := by
  unfold described at returned
  split at returned
  · rename_i existing stored
    obtain ⟨same,next,change⟩ := Channel.update_next returned
    have key := same.trans (keyed.channels _ existing stored)
    refine ⟨key,.inr ⟨existing.revision,?_,next,change⟩⟩
    rw [key,revision,stored,map_some]
  rename_i free
  obtain ⟨key,initial,change⟩ := Channel.new_first returned
  refine ⟨key,.inl ⟨?_,initial,change⟩⟩
  rw [key,revision,free,map_none]

/-- What a descriptor writes: the row it names, which is new or changed, and the event of that. -/
structure Described (tenantId : TenantId) (deviceId : DeviceId) (channelId : ChannelId) (s s' : Store) :
    Prop extends Moves s s' where
  devices : s'.devices = s.devices
  rows : ∃ channel, ∀ key, s'.channels.lookup key = update (s.channels.lookup ·) (tenantId,deviceId,channelId) (some channel) key
  outbox : ∃ event : Event, s'.outbox = s.outbox ++ [event] ∧ event.payload.change ≠ .removed

theorem applyDescriptor_described (keyed : Keyed s)
    (returned : applyDescriptor now tenantId deviceId ports generated descriptor s = .ok s') :
    ∃ channelId, descriptorId ports generated descriptor.id = .ok channelId ∧ Described tenantId deviceId channelId s s' := by
  obtain ⟨channelId,named,kind,-,returned⟩ := bind_eq_ok₂ returned
  obtain ⟨status,-,-,-,returned⟩ := bind_eq_ok₂ returned
  obtain ⟨changed,found,saved,save,returned⟩ := bind_eq_ok₂ returned
  obtain ⟨-,-,save⟩ := bind_eq_ok save
  cases save
  cases returned
  obtain ⟨key,cases⟩ := described_cases keyed (domain_ok found)
  have kept : changed.2.change ≠ .removed := by
    rcases cases with ⟨-,-,change⟩ | ⟨-,-,-,change⟩ <;> rw [change] <;> nofun
  refine ⟨channelId,named,⟨?_,rfl,⟨changed.1,key ▸ KeyMap.lookup_insert_eq _⟩,_,rfl,kept⟩⟩
  refine setChannel_moves keyed _ (KeyMap.lookup_insert_eq _) (fun channel same => by cases same; rfl) ?_
  have named : channelResourceRef tenantId deviceId changed.1.channelId = Key.ref (.channel changed.1.key) := by
    have owner : changed.1.tenantId = tenantId := congrArg Prod.fst key
    rw [← owner]
    rfl
  rw [Event.entry,named,map_some]
  rcases cases with ⟨free,initial,change⟩ | ⟨n,stored,next,change⟩
  · rw [initial,change]
    exact .create _ free
  · rw [next,change]
    exact .change _ n stored

/-- The id a descriptor gives its channel: the one it names, or the one generated for it. -/
def Names (ports : Ports) (channels : List (ChannelDescriptor × ChannelId)) (channelId : ChannelId) : Prop :=
  ∃ one ∈ channels, descriptorId ports one.2 one.1.id = .ok channelId

/-- What the descriptors write: the rows of the ids they name, and no removal. -/
structure Catalogued (ports : Ports) (tenantId : TenantId) (deviceId : DeviceId)
    (channels : List (ChannelDescriptor × ChannelId))
    (s s' : Store) : Prop extends Moves s s' where
  devices : s'.devices = s.devices
  stored : ∀ key, (s'.channels.lookup key).isSome ↔
    (s.channels.lookup key).isSome ∨ ∃ channelId, Names ports channels channelId ∧ key = (tenantId,deviceId,channelId)
  outbox : ∃ events, s'.outbox = s.outbox ++ events ∧ ∀ event ∈ events, event.payload.change ≠ .removed

theorem Described.stored (written : Described tenantId deviceId channelId s s') (key : ChannelKey) :
    (s'.channels.lookup key).isSome ↔ (s.channels.lookup key).isSome ∨ key = (tenantId,deviceId,channelId) := by
  obtain ⟨channel,rows⟩ := written.rows
  rw [rows]
  by_cases own : key = (tenantId,deviceId,channelId)
  · simp [own]
  · simp [own]

theorem applyDescriptors_catalogued (keyed : Keyed s)
    (returned : applyDescriptors now tenantId deviceId ports channels s = .ok s') :
    Catalogued ports tenantId deviceId channels s s' := by
  induction channels generalizing s with
  | nil =>
    cases returned
    exact ⟨.refl keyed,rfl,by simp [Names],[],by simp⟩
  | cons one rest ih =>
    obtain ⟨next,applied,returned⟩ := bind_eq_ok returned
    obtain ⟨channelId,named,first⟩ := applyDescriptor_described keyed applied
    have later := ih first.keyed returned
    obtain ⟨event,appended,kept⟩ := first.outbox
    obtain ⟨events,more,others⟩ := later.outbox
    refine ⟨first.trans later.toMoves,later.devices.trans first.devices,fun key => ?_,event :: events,?_,?_⟩
    · rw [later.stored,first.stored]
      simp only [Names,exists_mem_cons_iff,named]
      grind
    · simp [more,appended]
    · exact forall_mem_cons.mpr ⟨kept,others⟩

theorem removeChannel_ok (returned : removeChannel key expected s = .ok s') :
    revision s (.channel key) = some expected ∧ s' = { s with channels := s.channels.erase key } := by
  unfold removeChannel at returned
  split at returned
  · cases returned
  rename_i channel stored
  split at returned
  · rename_i same
    cases returned
    refine ⟨?_,rfl⟩
    rw [revision,stored,map_some,same]
  · cases returned

/-- What a replacement removes: the channels it does not list, each with its event. -/
structure Pruned (incoming : List ChannelId) (existing : List Channel) (s s' : Store) : Prop extends Moves s s' where
  devices : s'.devices = s.devices
  outbox : ∃ events, s'.outbox = s.outbox ++ events ∧
    ((∃ channel ∈ existing, channel.channelId ∉ incoming) → ∃ event ∈ events, event.payload.change = .removed)
  listed : (∀ channel ∈ existing, channel.channelId ∈ incoming) → s' = s

theorem removeMissing_pruned (keyed : Keyed s)
    (returned : removeMissing now tenantId deviceId incoming existing s = .ok s') : Pruned incoming existing s s' := by
  induction existing generalizing s with
  | nil =>
    cases returned
    exact ⟨.refl keyed,rfl,⟨[],by simp⟩,fun _ => rfl⟩
  | cons channel rest ih =>
    rw [removeMissing] at returned
    split at returned
    · rename_i kept
      have later := ih keyed returned
      exact ⟨later.toMoves,later.devices,by simpa [kept] using later.outbox,by simpa [kept] using later.listed⟩
    obtain ⟨next,removal,returned⟩ := bind_eq_ok returned
    obtain ⟨stored,rfl⟩ := removeChannel_ok removal
    -- The channel is removed under the number it has.
    have first := setChannel_moves keyed
      ⟨tenantId,channelResourceRef tenantId deviceId channel.channelId,channel.revision,now,channel.remove⟩
      (KeyMap.lookup_erase_eq s.channels) (fun _ => nofun) (.remove (Key.channel (tenantId,deviceId,_)) channel.revision stored)
    have later := ih first.keyed returned
    obtain ⟨events,appended,-⟩ := later.outbox
    refine ⟨first.trans later.toMoves,later.devices,⟨_,appended.trans (append_assoc ..),fun _ => ⟨_,mem_cons_self,rfl⟩⟩,
      fun all => ?_⟩
    exact absurd (all channel mem_cons_self) ‹_›

end Channels

/-! Calls -/

section Calls

theorem findDevice_ok (keyed : Keyed s) (returned : findDevice tenantId deviceId s = .ok device) :
    s.devices.lookup device.deviceId = some device ∧ device.tenantId = tenantId := by
  unfold findDevice at returned
  split at returned
  · rename_i found lookup
    cases returned
    obtain ⟨stored,kept⟩ := filter_eq_some_iff.mp lookup
    refine ⟨?_,by simp_all⟩
    rwa [keyed.devices deviceId device stored]
  · cases returned

theorem getByExternalId_some (keyed : Keyed s) (found : getByExternalId s tenantId protocol externalId = some device) :
    s.devices.lookup device.deviceId = some device ∧ device.tenantId = tenantId := by
  have kept := List.find?_some found
  obtain ⟨⟨id,row⟩,member,rfl⟩ := mem_map.mp (mem_of_find?_eq_some found)
  have stored : s.devices.lookup id = some row := AList.mem_lookup_iff.mpr member
  refine ⟨?_,by simp_all⟩
  rwa [keyed.devices id row stored]

/-- The calls that find a device, change it and commit. -/
theorem changeDevice_moves (keyed : Keyed s) {f : Device → Except SignalError (Device × DomainEvent)}
    (next : ∀ device changed, f device = .ok changed → device.Next changed)
    (returned : (do
      let device ← findDevice tenantId deviceId s
      let changed ← f device
      commitDevice now tenantId changed s) = .ok (result,s')) : DeviceMoves s s' := by
  obtain ⟨device,found,changed,change,returned⟩ := bind_eq_ok₂ returned
  obtain ⟨stored,own⟩ := findDevice_ok keyed found
  exact commitDevice_change keyed stored own (next device changed change) returned

section

variable (keyed : Keyed s)

include keyed

theorem registerOrUpdateDevice_moves (returned : registerOrUpdateDevice now tenantId generated request s = .ok (result,s')) :
    DeviceMoves s s' := by
  obtain ⟨protocol,-,kind,-,returned⟩ := bind_eq_ok₂ returned
  obtain ⟨externalId,-,capabilities,-,returned⟩ := bind_eq_ok₂ returned
  obtain ⟨found,registration,⟨device,last⟩,commit,returned⟩ := bind_eq_ok₂ returned
  cases returned
  unfold registered at registration
  split at registration
  · rename_i existing lookup
    obtain ⟨changed,update,registration⟩ := bind_eq_ok registration
    cases registration
    obtain ⟨stored,own⟩ := getByExternalId_some keyed lookup
    exact commitDevice_change keyed stored own (Device.update_next (domain_ok update)) commit
  obtain ⟨created,creation,registration⟩ := bind_eq_ok registration
  cases registration
  obtain ⟨own,initial,change⟩ := Device.new_first (domain_ok creation)
  exact commitDevice_create keyed own initial change commit

theorem updateDeviceCapabilities_moves
    (returned : updateDeviceCapabilities now tenantId deviceId expected capabilities metadata s = .ok (result,s')) :
    DeviceMoves s s' := by
  obtain ⟨device,found,returned⟩ := bind_eq_ok returned
  obtain ⟨-,returned⟩ := passed_of_ok returned
  obtain ⟨converted,-,changed,update,returned⟩ := bind_eq_ok₂ returned
  obtain ⟨stored,own⟩ := findDevice_ok keyed found
  exact commitDevice_change keyed stored own (Device.update_next (domain_ok update)) returned

/-- A replacement prunes, writes what is listed and touches the device. -/
theorem replaceChannelCatalog_parts (returned : replaceChannelCatalog now tenantId deviceId ports channels s = .ok (result,s')) :
    ∃ incoming remaining described, convertAll ports.parseChannelId (channels.filterMap (·.1.id)) = .ok incoming ∧
      Pruned incoming (listByDevice s tenantId deviceId) s remaining ∧
      Catalogued ports tenantId deviceId channels remaining described ∧ DeviceMoves described s' := by
  obtain ⟨device,found,returned⟩ := bind_eq_ok returned
  obtain ⟨-,returned⟩ := passed_of_ok returned
  obtain ⟨-,returned⟩ := passed_of_ok returned
  obtain ⟨incoming,listed,remaining,removal,returned⟩ := bind_eq_ok₂ returned
  obtain ⟨described,applied,returned⟩ := bind_eq_ok returned
  have pruned := removeMissing_pruned keyed removal
  have catalogued := applyDescriptors_catalogued pruned.keyed applied
  obtain ⟨stored,own⟩ := findDevice_ok keyed found
  rw [← pruned.devices,← catalogued.devices] at stored
  exact ⟨incoming,remaining,described,listed,pruned,catalogued,
    commitDevice_change catalogued.keyed stored own device.touch_next returned⟩

/-- A call writes a device alone, or it replaces a catalog. -/
theorem committed_cases (returned : committed ports s r = .ok s') :
    (DeviceMoves s s' ∧ ∀ deviceId channels, r.call ≠ .replaceChannelCatalog deviceId channels) ∨
      ∃ deviceId channels result, r.call = .replaceChannelCatalog deviceId channels ∧
        replaceChannelCatalog r.now r.tenantId deviceId ports channels s = .ok (result,s') := by
  have inner {α : Type} {x : Except SignalError (α × Store)} (mapped : x.map Prod.snd = .ok s') :
    ∃ result, x = .ok (result,s') := by
    cases x with
    | error e => cases mapped
    | ok pair =>
      cases mapped
      exact ⟨pair.1,rfl⟩
  unfold committed at returned
  split at returned <;> obtain ⟨result,done⟩ := inner returned <;> rename_i call
  · exact .inl ⟨registerOrUpdateDevice_moves keyed done,by simp [call]⟩
  · exact .inl ⟨changeDevice_moves keyed (fun device changed online => Device.markOnline_next (domain_ok online)) done,
      by simp [call]⟩
  · exact .inl ⟨changeDevice_moves keyed (fun device changed offline => Device.markOffline_next (domain_ok offline)) done,
      by simp [call]⟩
  · exact .inr ⟨_,_,result,call,done⟩
  · exact .inl ⟨updateDeviceCapabilities_moves keyed done,by simp [call]⟩
  · exact .inl ⟨changeDevice_moves keyed (fun device changed retired => Device.retire_next (domain_ok retired)) done,
      by simp [call]⟩

theorem committed_moves (returned : committed ports s r = .ok s') : Moves s s' := by
  obtain ⟨moves,-⟩ | ⟨deviceId,channels,result,-,done⟩ := committed_cases keyed returned
  · exact moves.toMoves
  · obtain ⟨incoming,remaining,described,-,pruned,catalogued,touched⟩ := replaceChannelCatalog_parts keyed done
    exact (pruned.toMoves.trans catalogued.toMoves).trans touched.toMoves

/-- What a request does to the rows is a sequence of moves. -/
theorem step_moves : Moves s (step ports s r) := by
  unfold step
  split
  · exact committed_moves keyed ‹_›
  · exact .refl keyed

end

end Calls

theorem Moves.empty : Moves Store.empty Store.empty :=
  .refl ⟨fun _ _ found => by simp [Store.empty] at found,fun _ _ found => by simp [Store.empty] at found⟩

theorem run_moves (ports : Ports) (run : List Request) : Moves Store.empty (execute (step ports) Store.empty run) :=
  execute_invariant (fun _ _ before => before.trans (step_moves before.keyed)) run .empty

theorem ledger_empty : ledger Store.empty = RevisionLog.empty := by
  have rows : revision Store.empty = fun _ => none := by
    funext key
    cases key <;> simp [revision,Store.empty]
  rw [ledger,rows]
  rfl

/-- Events of one aggregate have rising numbers. -/
def NumbersRise (outbox : List Event) : Prop :=
  outbox.Pairwise fun a b => a.aggregateRef = b.aggregateRef → a.aggregateSequence < b.aggregateSequence

instance (outbox : List Event) : Decidable (NumbersRise outbox) := inferInstanceAs (Decidable (outbox.Pairwise _))

/-- No event tells of a removal. -/
def Kept (outbox : List Event) : Prop := ∀ event ∈ outbox, event.payload.change ≠ .removed

/-- A channel id is used under one device of a tenant. -/
def Unshared (s : Store) : Prop :=
  ∀ tenantId deviceId other channelId, (s.channels.lookup (tenantId,deviceId,channelId)).isSome →
  (s.channels.lookup (tenantId,other,channelId)).isSome → deviceId = other

theorem single_iff_unshared : Single Key.ref (revision s) ↔ Unshared s := by
  constructor
  · intro single tenantId deviceId other channelId left right
    have same := single (.channel (tenantId,deviceId,channelId)) (.channel (tenantId,other,channelId))
      (by simpa [revision] using left) (by simpa [revision] using right) rfl
    simpa using same
  · intro unshared key key' left right same
    cases key with
    | device tenantId deviceId => cases key' <;> simp_all [Key.ref,deviceResourceRef,channelResourceRef]
    | channel key =>
      cases key' with
      | device tenantId deviceId => simp [Key.ref,deviceResourceRef,channelResourceRef] at same
      | channel key' =>
        obtain ⟨tenantId,deviceId,channelId⟩ := key
        obtain ⟨tenantId',other,channelId'⟩ := key'
        obtain ⟨rfl,-,rfl⟩ := ResourceRef.mk.inj same
        rw [unshared tenantId deviceId other channelId (by simpa [revision] using left) (by simpa [revision] using right)]

theorem numbersRise_iff (moves : Moves Store.empty s) : NumbersRise s.outbox ↔ Kept s.outbox ∧ Unshared s := by
  have whole := rising_iff (ledger_empty ▸ moves.moves)
  rw [← single_iff_unshared]
  exact pairwise_map.symm.trans (whole.trans (and_congr forall_mem_map Iff.rfl))

/-- A replacement that lists every channel the device has, and gives no new channel an id that another device of
the tenant uses. -/
structure Additive (ports : Ports) (s : Store) (tenantId : TenantId) (deviceId : DeviceId)
    (channels : List (ChannelDescriptor × ChannelId)) : Prop where
  listed : ∀ channel ∈ listByDevice s tenantId deviceId, ∃ one ∈ channels, ∃ id ∈ one.1.id,
    ports.parseChannelId id = .ok channel.channelId
  unused : ∀ channelId, Names ports channels channelId → ∀ other, other ≠ deviceId →
    s.channels.lookup (tenantId,other,channelId) = none

/-- Every replacement of a catalog is additive; any other call will do. -/
def Careful (ports : Ports) (s : Store) (r : Request) : Prop :=
  ∀ deviceId channels, r.call = .replaceChannelCatalog deviceId channels → Additive ports s r.tenantId deviceId channels

theorem mem_convertAll (converted : convertAll f values = .ok results) :
    result ∈ results ↔ ∃ value ∈ values, f value = .ok result := by
  induction values generalizing results with
  | nil =>
    cases converted
    simp
  | cons value rest ih =>
    obtain ⟨first,one,others,more,converted⟩ := bind_eq_ok₂ converted
    cases converted
    simp [ih more,one,eq_comm]

theorem replaced_iff (keyed : Keyed s) (kept : Kept s.outbox) (unshared : Unshared s)
    (returned : replaceChannelCatalog now tenantId deviceId ports channels s = .ok (result,s')) :
    Kept s'.outbox ∧ Unshared s' ↔ Additive ports s tenantId deviceId channels := by
  obtain ⟨incoming,remaining,described,converted,pruned,catalogued,touched⟩ := replaceChannelCatalog_parts keyed returned
  have listed (channelId : ChannelId) :
      channelId ∈ incoming ↔ ∃ one ∈ channels, ∃ id ∈ one.1.id, ports.parseChannelId id = .ok channelId := by
    rw [mem_convertAll converted]
    simp only [mem_filterMap,Option.mem_def]
    grind
  obtain ⟨removals,first,missing⟩ := pruned.outbox
  obtain ⟨writes,second,written⟩ := catalogued.outbox
  obtain ⟨event,third,touch⟩ := touched.outbox
  have outbox : s'.outbox = s.outbox ++ removals ++ writes ++ [event] := by rw [third,second,first]
  constructor
  · rintro ⟨all,after⟩
    have complete : ∀ channel ∈ listByDevice s tenantId deviceId, channel.channelId ∈ incoming := by
      by_contra absent
      push Not at absent
      obtain ⟨event,removal,removed⟩ := missing absent
      exact all event (by simp [outbox,removal]) removed
    cases pruned.listed complete
    refine ⟨fun channel member => (listed _).mp (complete channel member),fun channelId named other apart => ?_⟩
    by_contra used
    have both := after tenantId deviceId other channelId
    rw [touched.channels,catalogued.stored,catalogued.stored] at both
    exact apart (both (.inr ⟨channelId,named,rfl⟩) (.inl (Option.isSome_iff_ne_none.mpr used))).symm
  · rintro ⟨complete,unused⟩
    cases pruned.listed fun channel member => (listed _).mpr (complete channel member)
    obtain rfl : removals = [] := by simpa using first
    refine ⟨fun event member => ?_,fun tenantId' one two channelId left right => ?_⟩
    · simp only [outbox,append_nil,mem_append,mem_singleton] at member
      obtain (before | own) | rfl := member
      · exact kept event before
      · exact written event own
      · exact touch
    rw [touched.channels,catalogued.stored] at left right
    obtain stored | ⟨_,named,same⟩ := left <;> obtain stored' | ⟨_,named',same'⟩ := right
    · exact unshared tenantId' one two channelId stored stored'
    · cases same'
      by_contra apart
      simp [unused channelId named' one apart] at stored
    · cases same
      by_contra apart
      simp [unused channelId named two (Ne.symm apart)] at stored'
    · cases same
      cases same'
      rfl

/-- One request keeps the numbers rising exactly when it fails or is careful. -/
theorem step_rise_iff (ports : Ports) (r : Request) (moves : Moves Store.empty s) (rise : NumbersRise s.outbox) :
    NumbersRise (step ports s r).outbox ↔ ((committed ports s r).isOk → Careful ports s r) := by
  obtain ⟨kept,unshared⟩ := (numbersRise_iff moves).mp rise
  rw [numbersRise_iff (moves.trans (step_moves moves.keyed)),step]
  split
  · rename_i next returned
    simp only [returned,Except.isOk,Except.toBool,true_implies]
    obtain ⟨device,other⟩ | ⟨deviceId,channels,result,call,done⟩ := committed_cases moves.keyed returned
    · obtain ⟨event,outbox,change⟩ := device.outbox
      refine iff_of_true ⟨?_,
        by simpa [Unshared,device.channels] using unshared⟩ fun deviceId channels same => (other deviceId channels same).elim
      simpa [Kept,outbox,or_imp,forall_and] using ⟨kept,change⟩
    · rw [replaced_iff moves.keyed kept unshared done]
      refine ⟨fun additive deviceId' channels' same => ?_,fun careful => careful deviceId channels call⟩
      cases call.symm.trans same
      exact additive
  · rename_i refused
    simp [refused,Except.isOk,Except.toBool,kept,unshared]

/-- Numbers that have stopped rising never rise again. -/
theorem step_rise_before (keyed : Keyed s) (rise : NumbersRise (step ports s r).outbox) : NumbersRise s.outbox :=
  pairwise_map.mp (Rising.before (step_moves keyed).moves (pairwise_map.mpr rise))

/-- After any calls, the numbers of each aggregate rise if every replacement of a catalog was additive, and only
then, the replacements apart that were refused. -/
theorem aggregate_sequences_rise_iff (ports : Ports) (run : List Request) :
    (Guarded (step ports) (Careful ports) Store.empty run → NumbersRise (execute (step ports) Store.empty run).outbox) ∧
      (NumbersRise (execute (step ports) Store.empty run).outbox ↔
        Guarded (step ports) (fun s r => (committed ports s r).isOk → Careful ports s r) Store.empty run) := by
  have exact := holds_iff_guarded (P := fun s : Store => NumbersRise s.outbox) (I := Moves Store.empty)
    (fun s r moves => moves.trans (step_moves moves.keyed)) (fun s r moves => step_rise_before moves.keyed)
      (fun s r => step_rise_iff ports r)
    run .empty
  have whole := exact.trans (and_iff_right .nil)
  exact ⟨fun careful => whole.mpr (careful.imp fun _ _ holds _ => holds),whole⟩

/-- After any calls, the event that brought a stored row to its revision is in the outbox. -/
theorem revisions_announced (ports : Ports) (run : List Request) : let s := execute (step ports) Store.empty run
    Keyed s ∧ ∀ key n, revision s key = some n → ∃ event ∈ s.outbox, event.aggregateRef = key.ref ∧
      event.aggregateSequence = n := by
  obtain ⟨moves,keyed⟩ := run_moves ports run
  rw [ledger_empty] at moves
  refine ⟨keyed,fun key n found => ?_⟩
  obtain ⟨e,member,same,number⟩ := (reachable moves).1.last key n found
  obtain ⟨event,appended,rfl⟩ := mem_map.mp member
  exact ⟨event,appended,same,number⟩

namespace Sample

def hexDigit (c : Char) : Option Nat :=
  if '0' ≤ c ∧ c ≤ '9' then some (c.toNat - 48) else if 'a' ≤ c ∧ c ≤ 'f' then some (c.toNat - 87)
  else if 'A' ≤ c ∧ c ≤ 'F' then some (c.toNat - 55) else none

/-- An id is read in the one form of a UUID that is 36 bytes long. -/
def parseUuid (text : String) : Option Nat :=
  if (text.toList.splitOn '-').map length = [8,4,4,4,12] then
    (text.toList.filter (· ≠ '-')).foldlM (fun n c => (hexDigit c).map (16 * n + ·)) 0
  else none

def ports : Ports := ⟨fun id => (parseUuid id).elim (.error (.invalidArgument "ChannelId string must be a UUID")) .ok⟩

def registration (generated : DeviceId) (externalId : String) : Request :=
  ⟨0,1,.registerOrUpdateDevice generated ⟨"gb28181",externalId,none,"camera","camera",none,none⟩⟩

def catalog (deviceId : DeviceId) (ids : List String) : Request := ⟨0,1,.replaceChannelCatalog deviceId
    (ids.map fun id => (⟨some id,"channel","video",true,none,[],none,none⟩,0))⟩

def outbox (run : List Request) : List Event := (execute (step ports) Store.empty run).outbox

def numbers (channelId : ChannelId) (events : List Event) : List (Change × Nat) :=
  (events.filter (·.aggregateRef = channelResourceRef 1 0 channelId)).map fun event =>
    (event.payload.change,event.aggregateSequence)

def five : String := "00000000-0000-0000-0000-000000000005"

/-- Channel 5 of a device is created, removed and created again. -/
def addedAgain : List Request := [registration 7 "34020000001320000001",catalog 7 [five],catalog 7 [],catalog 7 [five]]

def shared : List Request :=
  [registration 7 "34020000001320000001",registration 8 "34020000001320000002",catalog 7 [five],catalog 8 [five]]

theorem channel_numbers_repeat :
    (numbers 5 (outbox addedAgain) = [(.created,0),(.removed,0),(.created,0)] ∧ ¬NumbersRise (outbox addedAgain)) ∧
      (numbers 5 (outbox shared) = [(.created,0),(.created,0)] ∧ ¬NumbersRise (outbox shared)) := by
  decide +kernel

/-- A catalog that only changes its channels numbers their events in rising order. -/
example : NumbersRise (outbox [registration 7 "34020000001320000001",catalog 7 [five],
    catalog 7 [five,"018f2e5c-7b1a-7c3d-9E4F-0123456789ab"]]) := by
  decide +kernel

end Sample

end CheetahSignaling.Devices
