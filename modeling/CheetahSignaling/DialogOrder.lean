import CheetahSignaling.Dialog
import CheetahSignaling.GuardedRun
import Mathlib.Data.List.Pairwise

/-! A dialog delivers the requests of the remote side in the order of their sequence numbers, each at
most once, and nothing once it is terminated. -/
namespace CheetahSignaling.SipDialog

open GuardedRun

def DialogOutput.number : DialogOutput → Option Nat
  | .deliver (.request line headers body) =>
    if line.method = .ack ∨ line.method = .cancel then none
    else ((SipMessage.request line headers body).cseq.toOption).map Prod.fst
  | _ => none

namespace Dialog

/-- What one event does to the sequence of the remote side. -/
inductive Advances (d : Dialog) (result : List DialogOutput × Dialog) : Prop where
  | kept (none : result.1.filterMap (·.number) = []) (same : result.2.remoteCseq = d.remoteCseq)
  | advanced (cseq : Nat) (one : result.1.filterMap (·.number) = [cseq]) (above : ∀ n ∈ d.remoteCseq, n < cseq)
      (recorded : result.2.remoteCseq = some cseq)

theorem above_of_fresh {d : Dialog} (fresh : ¬d.stale cseq) : ∀ n ∈ d.remoteCseq, n < cseq := by
  intro n held
  rw [Option.mem_def] at held
  simpa [stale,held] using fresh

theorem onRequest_advances (d : Dialog) : d.Advances (d.onRequest message) := by
  cases message with
  | response _ _ _ => exact .kept rfl rfl
  | request line headers body =>
    unfold onRequest
    cases parsed : (SipMessage.request line headers body).cseq with
    | error e => exact .kept rfl rfl
    | ok pair =>
      have checked (other : line.method ≠ .ack ∧ line.method ≠ .cancel) (rest : List DialogOutput) (d' : Dialog)
          (none : rest.filterMap (·.number) = []) (recorded : d'.remoteCseq = some pair.1) :
          d.Advances (if d.stale pair.1 then ([],d) else (.deliver (.request line headers body) :: rest,d')) := by
        have number : (DialogOutput.deliver (.request line headers body)).number = some pair.1 := by
          simp [DialogOutput.number,other,parsed,Except.toOption]
        split
        · exact .kept rfl rfl
        · rename_i fresh
          exact .advanced pair.1 (by simp [number,none]) (above_of_fresh fresh) recorded
      have passed (same : line.method = .ack ∨ line.method = .cancel) :
          d.Advances ([.deliver (.request line headers body)],d) :=
        .kept (by simp [DialogOutput.number,same]) rfl
      simp only
      split
      case h_1 bye => exact checked (by simp [bye]) [.complete] _ rfl rfl
      case h_2 ack => exact passed (.inl ack)
      case h_3 cancel => exact passed (.inr cancel)
      case h_4 invite => exact checked (by simp [invite]) [] _ rfl rfl
      case h_5 message => exact checked (by simp [message]) [] _ rfl rfl
      case h_6 options => exact checked (by simp [options]) [] _ rfl rfl
      case h_7 ack cancel _ _ _ => exact checked ⟨ack,cancel⟩ [] _ rfl rfl

theorem onResponse_advances (d : Dialog) : d.Advances (d.onResponse message) := by
  cases message with
  | request _ _ _ => exact .kept rfl rfl
  | response line headers body =>
    unfold onResponse
    cases (SipMessage.response line headers body).cseq with
    | error e => exact .kept rfl rfl
    | ok pair =>
      simp only
      split
      · exact .kept rfl rfl
      · exact .kept rfl rfl

theorem process_advances (d : Dialog) : d.Advances (d.process event) := by
  unfold process
  split
  · exact .kept rfl rfl
  cases event with
  | request message => exact d.onRequest_advances
  | response message => exact d.onResponse_advances
  | timer => exact .kept rfl rfl

def step (d : Dialog) (event : DialogEvent) : Dialog := (d.process event).2

def outputs (d : Dialog) (events : List DialogEvent) : List DialogOutput :=
  emissions step (fun d event => (d.process event).1) d events

def Recorded (n : Nat) (d : Dialog) : Prop := ∃ r ∈ d.remoteCseq, n ≤ r

theorem Advances.recorded {d : Dialog} (advances : d.Advances result) (before : d.Recorded n) :
    result.2.Recorded n ∧ ∀ k ∈ result.1.filterMap (·.number), n < k := by
  obtain ⟨r,held,le⟩ := before
  cases advances with
  | kept none same =>
    refine ⟨⟨r,?_,le⟩,by simp [none]⟩
    rwa [same]
  | advanced cseq one above recorded =>
    have below : n < cseq := Nat.lt_of_le_of_lt le (above r held)
    exact ⟨⟨cseq,recorded,Nat.le_of_lt below⟩,by simpa [one] using below⟩

theorem Advances.records {d : Dialog} (advances : d.Advances result) :
    (result.1.filterMap (·.number)).Pairwise (· < ·) ∧ ∀ n ∈ result.1.filterMap (·.number), result.2.Recorded n := by
  cases advances with
  | kept none same => simp [none]
  | advanced cseq one above recorded => simp [one,Recorded,recorded]

theorem remembers : Remembers step (fun _ _ => True) (fun _ => True)
    (fun d event => (d.process event).1.filterMap (·.number)) Recorded where
  preserved _ _ _ _ := trivial
  kept d _ _ _ _ before := (d.process_advances.recorded before).1
  larger d _ _ _ _ before := (d.process_advances.recorded before).2
  rising d _ _ _ := d.process_advances.records.1
  recorded d _ _ _ := d.process_advances.records.2

theorem terminated_outputs {d : Dialog} (terminated : d.state = .terminated) : d.outputs events = [] := by
  induction events with
  | nil => rfl
  | cons event events ih =>
    have still : d.process event = ([],d) := if_pos (decide_eq_true terminated)
    rw [outputs,emissions,step,still]
    exact ih

/-- In-dialog requests: the delivered ones other than ACK and CANCEL have rising sequence numbers, the
recorded remote number does not fall, and a terminated dialog gives out nothing more. -/
theorem requests_delivered_in_order (d : Dialog) (before after : List DialogEvent) :
    ((d.outputs (before ++ after)).filterMap (·.number)).Pairwise (· < ·) ∧
      (∀ n ∈ (execute step d before).remoteCseq, ∃ n' ∈ (execute step d (before ++ after)).remoteCseq, n ≤ n') ∧
      ((execute step d before).state = .terminated → (execute step d before).outputs after = []) := by
  refine ⟨?_,?_,fun terminated => terminated_outputs terminated⟩
  · rw [outputs,filterMap_emissions]
    exact remembers.emissions_rising _ trivial (guarded_of_all _ fun _ _ => trivial)
  intro n held
  rw [execute_append]
  have recorded : (execute step d before).Recorded n := ⟨n,held,Nat.le_refl n⟩
  exact execute_invariant (fun d event before => ((process_advances d).recorded before).1) after recorded

end Dialog

end CheetahSignaling.SipDialog
