import CheetahSignaling.CascadeRegistration

/-! Events of the platform's own devices, queued for the upstream platform. Presence and position
are merged per device, alarms are kept one by one. -/
namespace CheetahSignaling.Cascade

open Gb28181

abbrev Reporter := Counted Reports

variable {E : Type}

section

variable (config : CascadeConfig)

def dropNonCritical (max : Nat) : List PendingReport → List PendingReport
  | [] => []
  | report :: queue =>
    if (report :: queue).length ≥ max ∧ !report.isCritical then dropNonCritical max queue else report :: queue

/-- `push_to_queue`: `none` if there is no room. -/
def pushToQueue (report : PendingReport) (queue : List PendingReport) : Option (List PendingReport) :=
  let max := config.reportMaxQueueSize
  let queue := if report.isCritical then dropNonCritical max queue else queue
  if queue.length < max then some (queue ++ [report])
  else if report.isCritical then some (queue.drop 1 ++ [report])
  else none

def evictStates (max : Nat) : List String → Reports → Reports
  | [], r => { r with order := [] }
  | key :: order, r =>
    if r.states.rows.length + r.queue.length > max ∧ r.states.rows ≠ [] then
      evictStates max order { r with states := r.states.remove key }
    else { r with order := key :: order }

def enforceBounds (r : Reports) : Reports :=
  let max := config.reportMaxQueueSize
  let r := evictStates max r.order r
  { r with queue := r.queue.drop (r.queue.length - max) }

def enqueueReport (report : PendingReport) (r : Reports) : Reports :=
  match report.kind with
  | .presence | .mobilePosition =>
    let key := report.mergeKey
    let order := if (r.states.find key).isSome then r.order.erase key else r.order
    enforceBounds config { r with states := r.states.put report,order := order ++ [key] }
  | .alarm => enforceBounds config { r with queue := (pushToQueue config report r.queue).getD r.queue }

def stateReport (kind : ReportKind) (what : String) (deviceId : String) (now : Nat)
    (build : String → Except AccessError String) (s : Reporter) : Outcome Reporter :=
  let n := s.part.reportCounter + 1
  let s : Reporter := { s with part := { s.part with reportCounter := n } }
  match build (toString n) with
  | .error e => (.error (.failure ("failed to encode " ++ what ++ " XML: " ++ e.text)),s)
  | .ok body =>
    let report : PendingReport := ⟨kind,deviceId,body,false,none,saturatingAdd now 300⟩
    (.ok [],{ s with part := enqueueReport config report s.part })

def enqueue (ports : Ports E) (now : Nat) (event : Gb28181Event) (s : Reporter) : Outcome Reporter :=
  match event with
  | .device _ deviceId _ (.presenceChanged presence) =>
    stateReport config .presence "DeviceStatus" deviceId.text now
      (fun sn => Gb28181.buildDeviceStatusNotify sn deviceId.text (presence = .online)) s
  | .device _ deviceId _ (.alarmReceived sn priority method alarmType time info) =>
    match Gb28181.buildAlarmNotify sn deviceId.text priority method alarmType time info with
    | .error e => (.error (.failure ("failed to encode Alarm XML: " ++ e.text)),s)
    | .ok body =>
      let key := deviceId.text ++ "-" ++ ports.alarmHash deviceId.text (alarmType.getD "") (time.getD "") sn
      let report : PendingReport := ⟨.alarm,deviceId.text,body,true,some key,saturatingAdd now 300⟩
      (.ok [],{ s with part := enqueueReport config report s.part })
  | .device _ deviceId _ (.mobilePositionReceived _ time longitude latitude speed direction altitude) =>
    stateReport config .mobilePosition "MobilePosition" deviceId.text now
      (fun sn =>
        Gb28181.buildMobilePositionNotify sn deviceId.text time longitude latitude speed direction altitude) s
  | _ => (.ok [],s)

/-- `prune_expired`: snapshots past their deadline are dropped, alarms are not. -/
def pruneExpired (now : Nat) (r : Reports) : Reports :=
  let states : Table PendingReport.mergeKey :=
    ⟨r.states.rows.filter fun report => now < report.expiresAt,r.states.sorted.filter _⟩
  { r with states := states,order := r.order.filter fun key => (states.find key).isSome }

def moveStates (now : Nat) : List String → Reports → Reports
  | [], r => { r with order := [] }
  | key :: order, r =>
    match r.states.find key with
    | none => moveStates now order r
    | some report =>
      match if now < report.expiresAt then pushToQueue config report r.queue else none with
      | some queue => moveStates now order { r with queue := queue,states := r.states.remove key }
      | none =>
        let r := moveStates now order r
        { r with order := key :: r.order }

def buildMessageRequest (now : Nat) (report : PendingReport) (s : Reporter) :
    Except CascadeError SipMessage × Reporter :=
  let (callId,s) := nextTag config now s
  match validateToken callId with
  | .error e => (.error e,s)
  | .ok () =>
    let (cseq,s) := nextCseq s
    let (branch,s) := nextBranch callId cseq s
    let extra := (report.idempotencyKey.map (HeaderName.other "X-Idempotency-Key",·)).toList
    (validateToken branch >>= fun _ => buildMessage config callId cseq callId branch extra report.bodyXml,s)

/-- Sends the queue from the front; an error loses the report it was reached with. -/
def sendQueue (now : Nat) : List PendingReport → Reporter → Outcome Reporter
  | [], s => (.ok [],{ s with part := { s.part with queue := [] } })
  | report :: queue, s =>
    match buildMessageRequest config now report s with
    | (.error e,s) => (.error e,{ s with part := { s.part with queue := queue } })
    | (.ok request,s) =>
      match sendQueue now queue s with
      | (.error e,s) => (.error e,s)
      | (.ok outputs,s) => (.ok (.sendRequest request :: outputs),s)

def flush (registered : Bool) (now : Nat) (s : Reporter) : Outcome Reporter :=
  let pruned := pruneExpired now s.part
  if !registered then (.ok [],{ s with part := pruned })
  else
    let moved := enforceBounds config (moveStates config now pruned.order pruned)
    sendQueue config now moved.queue { s with part := moved }

end

end CheetahSignaling.Cascade
