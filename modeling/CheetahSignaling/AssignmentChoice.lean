import CheetahSignaling.DeviceAssignment
import CheetahSignaling.LeastChoice
import Mathlib.Data.List.Sort

/-! The node chosen for a device is the least of the eligible ones by zone, hash and node id, whatever
the order of the listing is. -/
namespace CheetahSignaling.DeviceAssignment

open LeastChoice OwnerRepository List

variable (device : DeviceId) (preferredZone : Option String) (candidates : List ClusterNode)

def score (node : ClusterNode) : Nat ×ₗ Nat := toLex (hashScore device node.nodeId,node.nodeId)

def nearby (node : ClusterNode) : Bool := preferredZone.all (node.zone == ·)

def rank (node : ClusterNode) : Bool ×ₗ Nat ×ₗ Nat := toLex (!nearby preferredZone node,score device node)

def eligible (protocol : String) (now : UtcTimestamp) (listed : List ClusterNode) : List ClusterNode :=
  listed.filter (isEligible · protocol now)

theorem before_iff : before device a b = true ↔ score device a < score device b := by
  simp [before,score,Prod.Lex.toLex_lt_toLex]

theorem first_eq_argmin : first device candidates = candidates.argmin (score device) := by
  induction candidates with
  | nil => rfl
  | cons node rest ih =>
    rw [first,ih,argmin_cons]
    cases rest.argmin (score device) with
    | none => rfl
    | some other => simp [before_iff]

theorem inZone_eq_tier : inZone preferredZone candidates = tier (nearby preferredZone) candidates := by
  cases preferredZone with
  | none =>
    have all : candidates.filter (nearby none) = candidates := filter_eq_self.mpr fun _ _ => rfl
    rw [tier,all,ite_self]
    rfl
  | some zone => rfl

theorem selectNode_eq :
    selectNode listed device protocol preferredZone now =
      ((eligible protocol now listed).argmin (rank device preferredZone)).elim (.error .noAvailableNode) .ok := by
  rw [selectNode,inZone_eq_tier,first_eq_argmin,argmin_tier]
  show _ = ((eligible protocol now listed).argmin fun node => toLex (!nearby preferredZone node,score device node)).elim _ _
  rw [eligible]
  split
  · rename_i chosen
    rw [chosen]
    rfl
  · rename_i chosen
    rw [chosen]
    rfl

/-- Ids name nodes. -/
def Keyed (nodes : List ClusterNode) : Prop := ∀ a ∈ nodes, ∀ b ∈ nodes, a.nodeId = b.nodeId → a = b

theorem rank_told (keyed : Keyed nodes) (device : DeviceId) (preferredZone : Option String) :
    Told (rank device preferredZone) nodes := by
  intro a left b right same
  have scores : score device a = score device b := congrArg (fun key => (ofLex key).2) same
  exact keyed a left b right (congrArg (fun key => (ofLex key).2) scores)

/-- The choice depends on the set of the eligible nodes only; one more node is chosen itself or changes
nothing, and the loss of a node that was not chosen changes nothing. -/
theorem selection_minimally_disruptive (device : DeviceId) (protocol : String) (preferredZone : Option String)
    (now : UtcTimestamp)
    (listed : List ClusterNode) (keyed : Keyed (eligible protocol now listed)) :
    (∀ listed', (∀ node, node ∈ eligible protocol now listed' ↔ node ∈ eligible protocol now listed) →
      selectNode listed' device protocol preferredZone now = selectNode listed device protocol preferredZone now) ∧
    (∀ added listed', (∀ node, node ∈ eligible protocol now listed' ↔ node = added ∨ node ∈ eligible protocol now listed) →
      selectNode listed' device protocol preferredZone now = .ok added ∨
        selectNode listed' device protocol preferredZone now = selectNode listed device protocol preferredZone now) ∧
    ∀ removed listed', (∀ node, node ∈ eligible protocol now listed' ↔ node ∈ eligible protocol now listed ∧ node ≠ removed) →
      selectNode listed device protocol preferredZone now ≠ .ok removed →
      selectNode listed' device protocol preferredZone now = selectNode listed device protocol preferredZone now := by
  have told := rank_told keyed device preferredZone
  simp only [selectNode_eq]
  refine ⟨?_,?_,?_⟩
  · intro listed' same
    rw [argmin_congr told same]
  · intro added listed' more
    rcases argmin_insert told more with taken | same
    · exact .inl (by rw [taken]; rfl)
    · exact .inr (by rw [same])
  intro removed listed' less other
  have kept : (eligible protocol now listed).argmin (rank device preferredZone) ≠ some removed := by
    intro chosen
    rw [chosen] at other
    exact other rfl
  rw [argmin_erase told less kept]

namespace Sample

def node (id : NodeId) (zone : String) : ClusterNode := ⟨id,id,zone,60 * 10 ^ 9,false,10,0,[]⟩

def pair : List ClusterNode := [node 1 "east",node 2 "east"]

/-- The order of the listing and the loss of the other node change nothing; a first node in the preferred
zone takes over. -/
theorem pair_choice : selectNode pair 7 "" (some "west") 0 = .ok (node 1 "east") ∧
    selectNode [node 2 "east",node 1 "east"] 7 "" (some "west") 0 = selectNode pair 7 "" (some "west") 0 ∧
    selectNode [node 1 "east"] 7 "" (some "west") 0 = selectNode pair 7 "" (some "west") 0 ∧
    (selectNode (node 3 "west" :: pair) 7 "" (some "west") 0 = .ok (node 3 "west") ∨
      selectNode (node 3 "west" :: pair) 7 "" (some "west") 0 = selectNode pair 7 "" (some "west") 0) := by
  have chosen : selectNode pair 7 "" (some "west") 0 = .ok (node 1 "east") := rfl
  have listed : eligible "" 0 pair = pair := rfl
  have keyed : Keyed (eligible "" 0 pair) := by
    unfold Keyed
    decide
  obtain ⟨order,more,less⟩ := selection_minimally_disruptive 7 "" (some "west") 0 pair keyed
  refine ⟨chosen,order _ fun n => ?_,less (node 2 "east") _ (fun n => ?_) ?_,more (node 3 "west") _ fun n => ?_⟩
  · rw [listed,show eligible "" 0 [node 2 "east",node 1 "east"] = [node 2 "east",node 1 "east"] from rfl]
    simp [pair,or_comm]
  · rw [listed,show eligible "" 0 [node 1 "east"] = [node 1 "east"] from rfl]
    constructor
    · intro member
      obtain rfl := mem_singleton.mp member
      exact ⟨mem_cons_self,by decide⟩
    · rintro ⟨member,other⟩
      simpa [pair,other] using member
  · rw [chosen]
    decide
  · rw [listed,show eligible "" 0 (node 3 "west" :: pair) = node 3 "west" :: pair from rfl,mem_cons]

end Sample

end CheetahSignaling.DeviceAssignment
