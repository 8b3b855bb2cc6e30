import CheetahSignaling.EndpointRoute
import CheetahSignaling.SortedTable
import CheetahSignaling.XmlWriter
import Mathlib.Data.String.Basic

/-! The registrations of one domain. A registration keeps the route of the REGISTER it came with; signs
of life change when the device was last seen, and nothing else. -/
namespace CheetahSignaling.Gb28181.Access

structure Registration where
  deviceId : DeviceId
  route : EndpointRoute
  contact : String
  (registeredAt expires lastSeen : Nat)
  offline : Bool
  userAgent : Option String
  registrationSequence : Nat

namespace Registration

variable (reg : Registration)

def key : String := reg.deviceId.text

def source : SocketAddr := reg.route.sendTarget

def isExpired (now : Nat) : Bool := reg.expires ≤ now - reg.registeredAt

end Registration

structure RegistrationTable where
  table : Table Registration.key
  nextSequence : Nat

namespace RegistrationTable

def empty : RegistrationTable := ⟨.empty,0⟩

section

variable (t : RegistrationTable) (deviceId : DeviceId)

def get : Option Registration := t.table.find deviceId.text

def put (reg : Registration) : RegistrationTable := { t with table := t.table.put reg }

def remove : RegistrationTable := { t with table := t.table.remove deviceId.text }

def route : Option EndpointRoute := (t.get deviceId).map Registration.route

def sendTarget : Option SocketAddr := (t.get deviceId).map Registration.source

end

/-- A device that is online keeps its sequence number. -/
def upsert (max : Nat) (deviceId : DeviceId) (route : EndpointRoute) (contact : String) (expires now : Nat)
    (userAgent : Option String) (t : RegistrationTable) : Except AccessError (Registration × RegistrationTable) :=
  if (t.get deviceId).isNone ∧ max ≤ t.table.rows.length then .error .registrationTableFull
  else
    let next := (t.nextSequence + 1) % 2 ^ 64
    let (sequence,nextSequence) := match (t.get deviceId).filter fun reg => !reg.offline with
      | some previous => (previous.registrationSequence,t.nextSequence)
      | none => (next,next)
    let reg : Registration := ⟨deviceId,route,contact,now,expires,now,false,userAgent,sequence⟩
    .ok (reg,{ table := t.table.put reg,nextSequence := nextSequence })

structure TouchOutcome where
  (wasOffline sourceDrift : Bool)

def touch (deviceId : DeviceId) (source : SocketAddr) (now : Nat) (t : RegistrationTable) :
    Option (TouchOutcome × RegistrationTable) :=
  (t.get deviceId).map fun reg =>
    (⟨reg.offline,reg.route.isUnauthenticatedDrift source⟩,t.put { reg with lastSeen := now,offline := false })

/-! ### What the operations leave -/

section Lemmas

variable {t t' : RegistrationTable}

theorem get_deviceId (found : t.get deviceId = some reg) : reg.deviceId = deviceId := by
  have same : reg.deviceId.text = deviceId.text := (t.table.find_eq_some.mp found).2
  exact DeviceId.ext same

@[simp] theorem get_empty : empty.get deviceId = none := rfl

@[simp] theorem get_put_same (t : RegistrationTable) : (t.put reg).get reg.deviceId = some reg :=
  t.table.find_put_same reg

theorem get_put_other (t : RegistrationTable) (apart : deviceId ≠ reg.deviceId) :
    (t.put reg).get deviceId = t.get deviceId :=
  t.table.find_put_other fun same => apart (DeviceId.ext same)

@[simp] theorem get_remove_same :
    (t.remove deviceId).get deviceId = none :=
  t.table.find_remove_same

theorem get_remove_other (t : RegistrationTable) (apart : deviceId ≠ gone) :
    (t.remove gone).get deviceId = t.get deviceId :=
  t.table.find_remove_other fun same => apart (DeviceId.ext same)

theorem get_of_remove (found : (t.remove gone).get deviceId = some reg) : t.get deviceId = some reg := by
  by_cases same : deviceId = gone
  · rw [same,get_remove_same] at found
    cases found
  · rwa [get_remove_other t same] at found

theorem get_of_put (found : (t.put new).get deviceId = some reg) :
    (deviceId = new.deviceId ∧ reg = new) ∨ t.get deviceId = some reg := by
  by_cases same : deviceId = new.deviceId
  · rw [same,get_put_same] at found
    exact .inl ⟨same,(Option.some.inj found).symm⟩
  · rw [get_put_other t same] at found
    exact .inr found

/-- An accepted registration replaces that of its device and no other. -/
structure Upserted (deviceId : DeviceId) (route : EndpointRoute) (t : RegistrationTable) (reg : Registration)
    (t' : RegistrationTable) : Prop where
  device : reg.deviceId = deviceId
  route : reg.route = route
  stored : t'.get deviceId = some reg
  others : ∀ other, other ≠ deviceId → t'.get other = t.get other

theorem upsert_ok
    (done : upsert most deviceId target contact expires now userAgent t = .ok (reg,t')) :
    Upserted deviceId target t reg t' := by
  unfold upsert at done
  split at done
  · cases done
  · obtain ⟨rfl,rfl⟩ := Prod.mk.inj (Except.ok.inj done)
    exact ⟨rfl,rfl,get_put_same t,fun other apart => get_put_other t apart⟩

theorem Upserted.get_cases (done : Upserted deviceId target t reg t') (found : t'.get other = some reg') :
    (other = deviceId ∧ reg' = reg) ∨ t.get other = some reg' := by
  by_cases same : other = deviceId
  · rw [same,done.stored] at found
    exact .inl ⟨same,(Option.some.inj found).symm⟩
  · exact .inr ((done.others other same).symm.trans found)

end Lemmas

end RegistrationTable

end CheetahSignaling.Gb28181.Access
