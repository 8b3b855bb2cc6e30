import CheetahSignaling.KeyedQueues
import CheetahSignaling.ShardRuntime
import Mathlib.Algebra.Order.BigOperators.Group.List
import Mathlib.Algebra.Order.Ring.Nat

/-! Messages of one device are handled once and in the order of their arrival. What was handled under a
key, followed by what still waits there, is all that has arrived for it: each step of the loops moves
messages from the second part to the first. -/
namespace CheetahSignaling.Runtime

open List Option KeyedQueues
open KeyMap (under)

variable {env : Environment W A O E}

def account (worker : Worker W A) (key : DeviceKey) : List RuntimeMessage :=
  under key worker.handled ++ queue worker.readyQueue key

/-- No messages are lost, repeated or reordered, and the queues do not grow. -/
structure Moves (worker worker' : Worker W A) : Prop where
  account : ∀ key, account worker' key = account worker key
  weight : weight worker'.readyQueue ≤ weight worker.readyQueue

theorem Moves.refl (worker : Worker W A) : Moves worker worker := ⟨fun _ => rfl,le_refl _⟩

theorem Moves.trans (first : Moves worker middle) (second : Moves middle worker') : Moves worker worker' :=
  ⟨fun key => (second.account key).trans (first.account key),second.weight.trans first.weight⟩

theorem Moves.of_same (queues : worker'.readyQueue = worker.readyQueue) (handled : worker'.handled = worker.handled) :
    Moves worker worker' :=
  ⟨fun key => by rw [Runtime.account,Runtime.account,queues,handled],by rw [queues]⟩

/-- Actors can be created and outputs sent. -/
structure Serves (env : Environment W A O E) : Prop where
  creates : ∀ key world, ∃ actor, (env.create key world).1 = .ok actor
  accepts : ∀ output world, (env.send output world).1 = true

section Handle

theorem sendAll_accepts (serves : Serves env) : (sendAll env outputs world).1 = true := by
  induction outputs generalizing world with
  | nil => rfl
  | cons output outputs ih => rw [sendAll,if_pos (serves.accepts output world),ih]

theorem deliver_accepts (serves : Serves env) : (deliver env outcome world).1 = true := by
  cases outcome with
  | error e => rfl
  | ok outputs => exact sendAll_accepts serves

@[simp] theorem handleMessage_readyQueue :
    (handleMessage env key actor message rest poll).worker.readyQueue = poll.worker.readyQueue.insert key rest := by
  simp only [handleMessage]
  split <;> rfl

@[simp] theorem handleMessage_handled :
    (handleMessage env key actor message rest poll).worker.handled = poll.worker.handled ++ [(key,message)] := by
  simp only [handleMessage]
  split <;> rfl

theorem handleMessage_returned (serves : Serves env) : (handleMessage env key actor message rest poll).returned = false := by
  simp [handleMessage,deliver_accepts serves]

theorem handleMessage_moves (waits : poll.worker.readyQueue.lookup key = some (message :: rest)) :
    Moves poll.worker (handleMessage env key actor message rest poll).worker ∧
      weight (handleMessage env key actor message rest poll).worker.readyQueue < weight poll.worker.readyQueue := by
  have lighter := weight_insert poll.worker.readyQueue waits rest
  rw [length_cons] at lighter
  refine ⟨⟨fun k => ?_,?_⟩,?_⟩
  · rw [account,account,handleMessage_handled,handleMessage_readyQueue,KeyMap.under_append,queue_insert]
    by_cases same : k = key
    · subst same
      simp [under,queue,waits]
    · have apart : under k [(key,message)] = [] := KeyMap.under_map_other (Ne.symm same) [message]
      rw [apart,if_neg same,append_nil]
  · rw [handleMessage_readyQueue]
    omega
  · rw [handleMessage_readyQueue]
    omega

theorem handleConsecutive_moves (config : ShardConfig) (env : Environment W A O E) (key : DeviceKey)
    (times : Nat) (poll : Poll W A) :
    Moves poll.worker (handleConsecutive config env key times poll).worker := by
  induction times generalizing poll with
  | zero => exact .refl _
  | succ times ih =>
    rw [handleConsecutive]
    split
    · exact .refl _
    split
    · rename_i actor message rest _ waits
      exact (handleMessage_moves waits).1.trans (ih _)
    · exact .refl _

theorem handleConsecutive_returned (serves : Serves env) (poll : Poll W A) (going : poll.returned = false) :
    (handleConsecutive config env key times poll).returned = false := by
  induction times generalizing poll with
  | zero => exact going
  | succ times ih =>
    rw [handleConsecutive]
    split
    · exact going
    · split
      · exact ih _ (handleMessage_returned serves)
      · exact going

theorem handleConsecutive_blank (blank : poll.worker.readyQueue.lookup key = some []) :
    handleConsecutive config env key times poll = poll := by
  cases times with
  | zero => rfl
  | succ times =>
    rw [handleConsecutive]
    split
    · rfl
    · cases loaded : poll.worker.actors.lookup key <;> simp [blank]

theorem handleConsecutive_lighter (once : 1 ≤ times)
    (running : ¬(poll.returned = true ∨ config.maxMessagesPerPoll ≤ poll.processed))
    (loaded : poll.worker.actors.lookup key = some actor) (waits : poll.worker.readyQueue.lookup key = some (message :: rest)) :
    weight (handleConsecutive config env key times poll).worker.readyQueue < weight poll.worker.readyQueue := by
  obtain ⟨times,rfl⟩ := Nat.exists_eq_add_of_le' once
  rw [handleConsecutive,if_neg running]
  simp only [loaded,waits]
  exact lt_of_le_of_lt (handleConsecutive_moves config env key times _).weight (handleMessage_moves waits).2

end Handle

section Visit

theorem loadActor_cases (worker : Worker W A) :
    (∃ actor, (loadActor env key worker).actors.lookup key = some actor ∧
      (loadActor env key worker).readyQueue = worker.readyQueue ∧
      (loadActor env key worker).handled = worker.handled) ∨
    ((loadActor env key worker).readyQueue = worker.readyQueue.erase key ∧ ∃ e, (env.create key worker.world).1 = .error e) := by
  unfold loadActor
  split
  · rename_i actor loaded
    exact .inl ⟨actor,loaded,rfl,rfl⟩
  split
  · rename_i actor world created
    exact .inl ⟨actor,AList.lookup_insert _,rfl,rfl⟩
  · rename_i e world created
    exact .inr ⟨rfl,e,by rw [created]⟩

theorem loadActor_moves (serves : Serves env) : Moves worker (loadActor env key worker) := by
  rcases loadActor_cases worker with ⟨_,-,queues,handled⟩ | ⟨-,e,failed⟩
  · exact .of_same queues handled
  · obtain ⟨actor,created⟩ := serves.creates key worker.world
    rw [created] at failed
    cases failed

theorem weight_loadActor_le : weight (loadActor env key worker).readyQueue ≤ weight worker.readyQueue := by
  rcases loadActor_cases worker with ⟨_,-,queues,-⟩ | ⟨dropped,-⟩
  · rw [queues]
  · rw [dropped]
    exact KeyedQueues.weight_erase_le key

theorem dropEmpty_moves : Moves worker (dropEmpty key worker) := by
  unfold dropEmpty
  split
  · rename_i blank
    obtain ⟨messages,found,none⟩ := (any_eq_true _ _).mp blank
    refine ⟨fun k => ?_,KeyedQueues.weight_erase_le key⟩
    simp only [account,queue_erase]
    split
    · rename_i same
      rw [queue,same,found,isEmpty_iff.mp none]
      rfl
    · rfl
  · exact .refl worker

theorem leave_moves : Moves poll.worker (leave key poll).worker := by
  unfold leave
  split
  · exact .refl _
  · exact dropEmpty_moves

theorem leave_returned : (leave key poll).returned = poll.returned := by
  unfold leave
  split <;> rfl

theorem visit_moves (serves : Serves env) : Moves poll.worker (visit config env poll key).worker := by
  unfold visit
  split
  · exact .refl _
  · have served := handleConsecutive_moves config env key config.maxConsecutivePerDevice
      { poll with worker := loadActor env key poll.worker }
    exact ((loadActor_moves serves).trans served).trans leave_moves

theorem visit_returned (serves : Serves env) (going : poll.returned = false) :
    (visit config env poll key).returned = false := by
  unfold visit
  split
  · exact going
  · rw [leave_returned]
    exact handleConsecutive_returned serves _ going

theorem weight_visit_le :
    weight (visit config env poll key).worker.readyQueue ≤ weight poll.worker.readyQueue := by
  unfold visit
  split
  · exact le_refl _
  · exact (leave_moves.weight.trans (handleConsecutive_moves config env key _ _).weight).trans
      weight_loadActor_le

theorem weight_leave_lt (going : poll.returned = false) (blank : poll.worker.readyQueue.lookup key = some []) :
    weight (leave key poll).worker.readyQueue < weight poll.worker.readyQueue := by
  have lighter := weight_erase poll.worker.readyQueue blank
  simp only [leave,going,dropEmpty,blank]
  simp only [any_some,isEmpty_nil,if_true,Bool.false_eq_true,if_false]
  omega

theorem weight_visit_lt (consecutive : 1 ≤ config.maxConsecutivePerDevice)
    (running : ¬(poll.returned = true ∨ config.maxMessagesPerPoll ≤ poll.processed))
    (waits : poll.worker.readyQueue.lookup key = some messages) :
    weight (visit config env poll key).worker.readyQueue < weight poll.worker.readyQueue := by
  rw [visit,if_neg running]
  rcases loadActor_cases poll.worker with ⟨actor,loaded,queues,-⟩ | ⟨dropped,-⟩
  · cases messages with
    | nil =>
      have blank : ({ poll with worker := loadActor env key poll.worker } : Poll W A).worker.readyQueue.lookup key = some [] :=
        queues ▸ waits
      rw [handleConsecutive_blank blank]
      exact lt_of_lt_of_eq (weight_leave_lt (Bool.eq_false_iff.mpr fun back => running (.inl back)) blank)
        (congrArg weight queues)
    | cons message rest =>
      refine lt_of_le_of_lt leave_moves.weight ?_
      have filled : ({ poll with worker := loadActor env key poll.worker } : Poll W A).worker.readyQueue.lookup key =
        some (message :: rest) := queues ▸ waits
      exact lt_of_lt_of_eq (handleConsecutive_lighter consecutive running loaded filled) (congrArg weight queues)
  refine lt_of_le_of_lt (leave_moves.weight.trans (handleConsecutive_moves config env key _ _).weight) ?_
  have lighter := weight_erase poll.worker.readyQueue waits
  simp only [dropped]
  omega

end Visit

section Loop

theorem foldl_visit_moves (serves : Serves env) (keys : List DeviceKey) (poll : Poll W A) (going : poll.returned = false) :
    Moves poll.worker (keys.foldl (visit config env) poll).worker ∧ (keys.foldl (visit config env) poll).returned = false := by
  induction keys generalizing poll with
  | nil => exact ⟨.refl _,going⟩
  | cons key keys ih =>
    obtain ⟨moves,still⟩ := ih (visit config env poll key) (visit_returned serves going)
    exact ⟨(visit_moves serves).trans moves,still⟩

theorem weight_foldl_visit_le (keys : List DeviceKey) (poll : Poll W A) :
    weight (keys.foldl (visit config env) poll).worker.readyQueue ≤ weight poll.worker.readyQueue := by
  induction keys generalizing poll with
  | nil => exact le_refl _
  | cons key keys ih => exact (ih _).trans weight_visit_le

/-- The conditions under which the loop goes on. -/
def Running (config : ShardConfig) (poll : Poll W A) : Prop :=
  ¬(poll.returned = true ∨ poll.worker.readyQueue.entries.isEmpty = true ∨ config.maxMessagesPerPoll ≤ poll.processed)

theorem weight_pass_lt (env : Environment W A O E) (consecutive : 1 ≤ config.maxConsecutivePerDevice)
    (running : Running config poll) :
    weight (pass config env poll).worker.readyQueue < weight poll.worker.readyQueue := by
  obtain ⟨going,rest⟩ := not_or.mp running
  obtain ⟨filled,room⟩ := not_or.mp rest
  unfold pass
  cases keys : keysInOrder poll.worker.readyQueue with
  | nil =>
    have none := (perm_insertionSort DeviceKey.le poll.worker.readyQueue.keys).length_eq
    rw [← keysInOrder,keys,AList.keys,List.keys,length_map] at none
    exact absurd (isEmpty_iff.mpr (length_eq_zero_iff.mp none.symm)) filled
  | cons key keys' =>
    have member : key ∈ poll.worker.readyQueue := by
      have first := keys ▸ mem_cons_self
      exact (mem_insertionSort DeviceKey.le).mp first
    obtain ⟨messages,waits⟩ := isSome_iff_exists.mp (AList.lookup_isSome.mpr member)
    exact lt_of_le_of_lt (weight_foldl_visit_le keys' _)
      (weight_visit_lt consecutive (not_or.mpr ⟨going,room⟩) waits)

theorem pollLoop_ends (consecutive : 1 ≤ config.maxConsecutivePerDevice) (poll : Poll W A)
    (enough : weight poll.worker.readyQueue < fuel) : ∃ poll', pollLoop config env fuel poll = some poll' := by
  induction fuel generalizing poll with
  | zero => omega
  | succ fuel ih =>
    rw [pollLoop]
    by_cases running : Running config poll
    · rw [if_neg running]
      have lighter := weight_pass_lt env consecutive running
      exact ih _ (by omega)
    · rw [if_pos (not_not.mp running)]
      exact ⟨poll,rfl⟩

theorem pollLoop_moves (serves : Serves env) (poll : Poll W A) (going : poll.returned = false)
    (ended : pollLoop config env fuel poll = some poll') : Moves poll.worker poll'.worker := by
  induction fuel generalizing poll with
  | zero => cases ended
  | succ fuel ih =>
    rw [pollLoop] at ended
    split at ended
    · cases ended
      exact .refl _
    · obtain ⟨moves,still⟩ := foldl_visit_moves serves (keysInOrder poll.worker.readyQueue) poll going
      exact moves.trans (ih _ still ended)

theorem processReadyQueue_ends (consecutive : 1 ≤ config.maxConsecutivePerDevice)
    (enough : weight worker.readyQueue < fuel) : ∃ worker', processReadyQueue config env fuel worker = some worker' := by
  obtain ⟨poll,ended⟩ := pollLoop_ends consecutive ⟨worker,0,false⟩ enough
  exact ⟨poll.worker,by rw [processReadyQueue,ended]; rfl⟩

/-- A call with messages waiting moves some of them. -/
structure Sized (config : ShardConfig) : Prop where
  polls : 1 ≤ config.maxMessagesPerPoll
  consecutive : 1 ≤ config.maxConsecutivePerDevice

theorem processReadyQueue_moves (sized : Sized config)
    (serves : Serves env) (filled : worker.readyQueue.entries.isEmpty = false)
    (ended : processReadyQueue config env fuel worker = some worker') :
    Moves worker worker' ∧ weight worker'.readyQueue < weight worker.readyQueue := by
  obtain ⟨poll,looped,rfl⟩ := map_eq_some_iff.mp ended
  refine ⟨pollLoop_moves serves ⟨worker,0,false⟩ rfl looped,?_⟩
  cases fuel with
  | zero => cases looped
  | succ fuel =>
    have running : Running config ⟨worker,0,false⟩ := by
      simp only [Running,filled]
      simp
      have := sized.polls
      omega
    rw [pollLoop,if_neg running] at looped
    obtain ⟨-,still⟩ := foldl_visit_moves serves (keysInOrder worker.readyQueue) ⟨worker,0,false⟩ rfl
    exact lt_of_le_of_lt (pollLoop_moves serves _ still looped).weight (weight_pass_lt env sized.consecutive running)

/-- With enough fuel the queues are drained, in order. -/
theorem drain_ends (sized : Sized config) (serves : Serves env) (worker : Worker W A)
    (enough : weight worker.readyQueue + 1 < fuel) :
    ∃ worker', drain config env fuel worker = some worker' ∧ Moves worker worker' ∧ worker'.readyQueue.entries = [] := by
  induction fuel generalizing worker with
  | zero => omega
  | succ fuel ih =>
    rw [drain]
    split
    · rename_i blank
      exact ⟨worker,rfl,.refl _,isEmpty_iff.mp blank⟩
    rename_i filled
    obtain ⟨middle,ended⟩ := processReadyQueue_ends sized.consecutive (by omega : weight worker.readyQueue < fuel)
    obtain ⟨moves,lighter⟩ := processReadyQueue_moves sized serves (Bool.eq_false_iff.mpr filled) ended
    obtain ⟨final,drained,rest,blank⟩ := ih middle (by omega)
    exact ⟨final,by rw [ended]; exact drained,moves.trans rest,blank⟩

end Loop

section Run

theorem evictIdle_same :
    (evictIdle config env worker).readyQueue = worker.readyQueue ∧ (evictIdle config env worker).handled = worker.handled := by
  unfold evictIdle
  split
  · exact ⟨rfl,rfl⟩
  · exact ⟨rfl,rfl⟩

theorem shutdownActors_handled (keys : List DeviceKey) (worker : Worker W A) :
    (shutdownActors env keys worker).handled = worker.handled := by
  induction keys generalizing worker with
  | nil => rfl
  | cons key keys ih =>
    rw [shutdownActors]
    split
    · exact ih worker
    simp only
    split
    · exact ih _
    · rfl

theorem turn_handles (sized : Sized config) (serves : Serves env)
    (worker : Worker W A) (enough : weight worker.readyQueue + 1 < fuel) :
    ∃ worker', turn config env fuel worker = some worker' ∧ weight worker'.readyQueue = 0 ∧
      ∀ key, under key worker'.handled = account worker key ∧ account worker' key = account worker key := by
  obtain ⟨drained,ended,moves,blank⟩ := drain_ends sized serves worker enough
  obtain ⟨queues,handled⟩ := evictIdle_same
  refine ⟨evictIdle config env drained,by rw [turn,ended]; rfl,?_,fun key => ?_⟩
  · rw [queues]
    exact KeyedQueues.weight_eq_zero.mpr blank
  have none : queue drained.readyQueue key = [] := by
    rw [queue,AList.lookup,blank]
    rfl
  rw [← moves.account key,account,account,queues,handled,none,append_nil]
  exact ⟨rfl,rfl⟩

theorem enqueue_account :
    account (enqueue worker message) key = account worker key ++ [message].filter (·.deviceKey = some key) ∧
      weight (enqueue worker message).readyQueue ≤ weight worker.readyQueue + 2 := by
  unfold enqueue
  cases addressed : message.deviceKey with
  | none => simp [addressed]
  | some target =>
    refine ⟨?_,KeyedQueues.weight_insert_le target⟩
    simp only [account,queue_insert]
    by_cases same : key = target
    · subst same
      simp [addressed,queue]
    · simp [addressed,same,Ne.symm same]

theorem foldl_enqueue_account (messages : List RuntimeMessage) (worker : Worker W A) (key : DeviceKey) :
    account (messages.foldl enqueue worker) key = account worker key ++ messages.filter (·.deviceKey = some key) ∧
      weight (messages.foldl enqueue worker).readyQueue ≤ weight worker.readyQueue + 2 * messages.length := by
  induction messages generalizing worker with
  | nil => simp
  | cons message messages ih =>
    obtain ⟨first,grown⟩ := enqueue_account
    obtain ⟨rest,total⟩ := ih (enqueue worker message)
    rw [foldl_cons,rest,first,append_assoc,← filter_append,length_cons]
    exact ⟨rfl,by omega⟩

def received : List Batch → List RuntimeMessage
  | [] => []
  | batch :: batches =>
    if batch.messages.any RuntimeMessage.isShutdown then batch.messages else batch.messages ++ received batches

theorem received_eq (alive : ∀ batch ∈ batches.dropLast, batch.messages.any RuntimeMessage.isShutdown = false) :
    received batches = batches.flatMap Batch.messages := by
  induction batches with
  | nil => rfl
  | cons batch batches ih =>
    cases batches with
    | nil => simp [received]
    | cons next batches =>
      obtain ⟨first,rest⟩ := forall_mem_cons.mp alive
      rw [received,first,ih rest]
      rfl

/-- A run handles what it received, of each device in order. -/
theorem run_handles (sized : Sized config) (serves : Serves env) (worker : Worker W A)
    (enough : weight worker.readyQueue + 1 < fuel)
    (room : ∀ batch ∈ batches, 2 * batch.messages.length + 1 < fuel) :
    ∃ final, run config env fuel batches worker = some final ∧
      ∀ key, under key final.handled = account worker key ++ (received batches).filter (·.deviceKey = some key) := by
  induction batches generalizing worker with
  | nil =>
    obtain ⟨first,turned,light,accounts⟩ := turn_handles sized serves worker enough
    obtain ⟨second,again,-,accounts'⟩ := turn_handles sized serves first (by omega : weight first.readyQueue + 1 < fuel)
    refine ⟨shutdownAll env second,?_,fun key => ?_⟩
    · simp only [run,turned,again,bind,Option.bind]
      rfl
    · rw [shutdownAll,shutdownActors_handled,(accounts' key).1,(accounts key).2]
      simp [received]
  | cons batch batches ih =>
    obtain ⟨first,turned,light,accounts⟩ := turn_handles sized serves worker enough
    obtain ⟨fits,others⟩ := forall_mem_cons.mp room
    have arrived := foldl_enqueue_account batch.messages first
    have small : weight (receive batch first).readyQueue + 1 < fuel := by
      have := (arrived ⟨0,0⟩).2
      rw [receive]
      omega
    rw [run,turned]
    by_cases ends : batch.messages.any RuntimeMessage.isShutdown = true
    · obtain ⟨second,again,-,accounts'⟩ := turn_handles sized serves (receive batch first) small
      refine ⟨shutdownAll env second,?_,fun key => ?_⟩
      · simp only [bind,Option.bind,ends,again]
        rfl
      · rw [shutdownAll,shutdownActors_handled,(accounts' key).1,receive,(arrived key).1,(accounts key).2,received,if_pos ends]
    obtain ⟨final,ran,handled⟩ := ih (receive batch first) small others
    refine ⟨final,?_,fun key => ?_⟩
    · simp only [bind,Option.bind,if_neg ends,ran]
    · rw [handled key,receive,(arrived key).1,(accounts key).2,received,if_neg ends,filter_append,append_assoc]

end Run

/-- The messages of each device that the worker reads are handled once and in their order, however they come in batches; and
every call to the ready-queue loop ends. Before a shutdown request it reads all that arrives. -/
theorem handled_in_order (config : ShardConfig) (polls : 1 ≤ config.maxMessagesPerPoll)
    (consecutive : 1 ≤ config.maxConsecutivePerDevice)
    (serves : Serves env) (batches : List Batch) (world : W) :
    (∀ worker : Worker W A, ∃ least, ∀ fuel ≥ least, (processReadyQueue config env fuel worker).isSome) ∧
    ∃ least, ∀ fuel ≥ least, ∃ final, run config env fuel batches (Worker.start world) = some final ∧
      (∀ key, under key final.handled = (received batches).filter (·.deviceKey = some key)) ∧
      ((∀ batch ∈ batches.dropLast, batch.messages.any RuntimeMessage.isShutdown = false) →
        received batches = batches.flatMap Batch.messages) := by
  refine ⟨fun worker => ⟨weight worker.readyQueue + 1,fun fuel enough => ?_⟩,
    (batches.map fun batch => 2 * batch.messages.length + 2).sum + 2,fun fuel enough => ?_⟩
  · obtain ⟨worker',ended⟩ := processReadyQueue_ends consecutive enough
    rw [ended]
    rfl
  have blank : weight (Worker.start world : Worker W A).readyQueue = 0 := rfl
  obtain ⟨final,ran,handled⟩ := run_handles ⟨polls,consecutive⟩ serves (Worker.start world)
    (by omega : weight (Worker.start world : Worker W A).readyQueue + 1 < fuel) fun batch member => by
      have fits : 2 * batch.messages.length + 2 ≤ (batches.map fun batch => 2 * batch.messages.length + 2).sum :=
        le_sum_of_mem (mem_map_of_mem member)
      omega
  exact ⟨final,ran,handled,received_eq⟩

namespace Sample

def counting : Environment Unit Nat Nat Unit where
  create _ world := (.ok 0,world)
  handle _ actor _ world := ((actor + 1,.ok [actor + 1]),world)
  shutdown _ actor world := (.ok [actor],world)
  send _ world := (true,world)
  now world := (0,world)

theorem counting_serves : Serves counting := ⟨fun _ _ => ⟨0,rfl⟩,fun _ _ => rfl⟩

def event (device : DeviceId) (payload : UInt8) : RuntimeMessage := .protocolEvent ⟨1,device⟩ [payload]

/-- Two devices, one message in a call, and a shutdown request with the last batch. -/
theorem two_devices_handled : ∃ least, ∀ fuel ≥ least, ∃ final,
      run ⟨1,1,0⟩ counting fuel [⟨event 7 1,[event 8 2,event 7 3]⟩,⟨.shutdown,[event 7 4]⟩] (Worker.start ()) = some final ∧
        under ⟨1,7⟩ final.handled = [event 7 1,event 7 3,event 7 4] ∧ under ⟨1,8⟩ final.handled = [event 8 2] := by
  obtain ⟨-,least,handled⟩ := handled_in_order ⟨1,1,0⟩ (by decide) (by decide) counting_serves
    [⟨event 7 1,[event 8 2,event 7 3]⟩,⟨.shutdown,[event 7 4]⟩] ()
  refine ⟨least,fun fuel enough => ?_⟩
  obtain ⟨final,ran,order,-⟩ := handled fuel enough
  exact ⟨final,ran,order ⟨1,7⟩,order ⟨1,8⟩⟩

end Sample

end CheetahSignaling.Runtime
