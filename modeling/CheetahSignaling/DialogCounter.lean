import CheetahSignaling.DialogOrder

/-! The numbers of a dialog's own requests. The counter follows the responses of the remote side, which may take it
to the end of its range. -/
namespace CheetahSignaling.SipDialog.Dialog

open List hiding after max
open GuardedRun

inductive Call where
  | process (event : DialogEvent)
  | nextLocalCseq

def call (d : Dialog) : Call → Dialog
  | .process event => d.step event
  | .nextLocalCseq => d.nextLocalCseq.2

def taken (d : Dialog) : Call → List Nat
  | .process _ => []
  | .nextLocalCseq => [d.nextLocalCseq.1]

def allocations : List Call → Nat
  | [] => 0
  | .process _ :: calls => allocations calls
  | .nextLocalCseq :: calls => allocations calls + 1

/-- The number in every response leaves room for those that are taken later. -/
def PeersLeaveRoom : List Call → Prop
  | [] => True
  | .process (.response message) :: calls =>
    (∀ n method, message.cseq = .ok (n,method) → n + allocations calls < 2 ^ 32) ∧ PeersLeaveRoom calls
  | _ :: calls => PeersLeaveRoom calls

theorem onRequest_localCseq (d : Dialog) : (d.onRequest message).2.localCseq = d.localCseq := by
  unfold onRequest
  repeat' split
  all_goals rfl

/-- Only a response moves the counter, up to its own number. -/
theorem step_localCseq (d : Dialog) (event : DialogEvent) :
    (d.step event).localCseq = d.localCseq ∨ ∃ message n method, event = .response message ∧ message.cseq = .ok (n,method) ∧
      (d.step event).localCseq = max d.localCseq n := by
  unfold step process
  split
  · exact .inl rfl
  cases event with
  | request message => exact .inl d.onRequest_localCseq
  | timer => exact .inl rfl
  | response message =>
    simp only [onResponse]
    split
    · exact .inl rfl
    split
    · exact .inl rfl
    rename_i n method parsed
    split
    · exact .inl rfl
    · exact .inr ⟨_,n,method,rfl,parsed,rfl⟩

theorem call_room {d : Dialog} (start : d.localCseq + allocations (c :: calls) < 2 ^ 32) (peers : PeersLeaveRoom (c :: calls)) :
    (d.call c).localCseq + allocations calls < 2 ^ 32 ∧ PeersLeaveRoom calls ∧ d.localCseq ≤ (d.call c).localCseq ∧
      ∀ k ∈ d.taken c, k = d.localCseq + 1 ∧ k = (d.call c).localCseq := by
  cases c with
  | nextLocalCseq =>
    simp only [allocations] at start
    have next : (d.localCseq + 1) % 2 ^ 32 = d.localCseq + 1 := Nat.mod_eq_of_lt (by omega)
    simp only [call,taken,nextLocalCseq,next,mem_singleton]
    exact ⟨by omega,peers,by omega,fun k same => ⟨same,same⟩⟩
  | process event =>
    have later : PeersLeaveRoom calls := by
      cases event with
      | response message => exact peers.2
      | _ => exact peers
    refine ⟨?_,later,?_,forall_mem_nil _⟩
    · rcases d.step_localCseq event with same | ⟨message,n,method,rfl,parsed,raised⟩
      · rw [call,same]
        exact start
      have room := peers.1 n method parsed
      simp only [allocations] at start
      rw [call,raised]
      omega
    · rcases d.step_localCseq event with same | ⟨_,_,_,_,_,raised⟩
      · exact Nat.le_of_eq same.symm
      · exact raised ▸ Nat.le_max_left _ _

/-- As long as the dialog's number and those of the responses leave room for the numbers that are taken later, these
rise, and no addition overflows. -/
theorem local_cseq_rises (d : Dialog) (calls : List Call) (start : d.localCseq + allocations calls < 2 ^ 32)
    (peers : PeersLeaveRoom calls) :
    (emissions call taken d calls).Pairwise (· < ·) ∧ (∀ k ∈ emissions call taken d calls, d.localCseq < k) ∧
      ∀ before after, calls = before ++ .nextLocalCseq :: after → (execute call d before).localCseq + 1 < 2 ^ 32 := by
  induction calls generalizing d with
  | nil => exact ⟨.nil,forall_mem_nil _,fun before after split => by simp at split⟩
  | cons c calls ih =>
    obtain ⟨room,later,below,here⟩ := call_room start peers
    obtain ⟨rises,above,fits⟩ := ih (d.call c) room later
    have first : ∀ k ∈ d.taken c, d.localCseq < k := fun k member => (here k member).1 ▸ Nat.lt_succ_self _
    refine ⟨pairwise_append.mpr ⟨?_,rises,fun k member n behind => (here k member).2 ▸ above n behind⟩,
      forall_mem_append.mpr ⟨first,fun k member => Nat.lt_of_le_of_lt below (above k member)⟩,?_⟩
    · cases c <;> simp [taken]
    rintro (_ | ⟨_,before⟩) after split
    · cases split
      simp only [allocations] at start
      show d.localCseq + 1 < 2 ^ 32
      omega
    · cases split
      exact fits before after rfl

namespace Sample

def peer : SipUri := ⟨.sip,some "bob",none,"192.0.2.4",none,[]⟩

def established : Dialog := ⟨⟨"call","local","remote"⟩,.uac,.confirmed,[],peer,1,none⟩

def answered (cseq : String) : Call := .process (.response (.response ⟨200,"OK"⟩ [(.cSeq,cseq)] .empty))

def followed : List Call := [.nextLocalCseq,answered "7 OPTIONS",.nextLocalCseq,.nextLocalCseq]

/-- A response with a larger number is followed. -/
theorem followed_numbers_rise : (emissions call taken established followed).Pairwise (· < ·) := by
  have room : PeersLeaveRoom followed := by
    refine And.intro (fun n method parsed => ?_) trivial
    have seven : SipMessage.cseq (.response ⟨200,"OK"⟩ [(.cSeq,"7 OPTIONS")] .empty) = .ok (7,.options) := by decide +kernel
    cases seven.symm.trans parsed
    decide
  exact (local_cseq_rises established followed (by decide) room).1

/-- A response with the greatest number makes the counter overflow. -/
theorem greatest_number_overflows :
    emissions call taken established [.nextLocalCseq,answered "4294967295 OPTIONS",.nextLocalCseq] = [2,0] ∧
      (execute call established [.nextLocalCseq,answered "4294967295 OPTIONS"]).localCseq + 1 = 2 ^ 32 := by
  decide +kernel

end Sample

end CheetahSignaling.SipDialog.Dialog
