import CheetahSignaling.Sip

/-! Timers, keys, events and outputs of SIP transactions. Times and intervals are in nanoseconds. -/
namespace CheetahSignaling.SipTransaction

inductive TransportKind where
  | unreliable
  | reliable
deriving DecidableEq

/-- In the order in which timers that are due at once fire. -/
inductive TimerKind where
  | A | B | F | D | E | G | H | I | J | K
deriving DecidableEq

def TimerKind.all : List TimerKind := [.A,.B,.F,.D,.E,.G,.H,.I,.J,.K]

theorem TimerKind.mem_all (kind : TimerKind) : kind ∈ all := by cases kind <;> decide

def millisU64 (d : Nat) : Nat := min (d / 1000000) (2 ^ 64 - 1)

def scaleDuration (d multiplier : Nat) : Nat := min (d * multiplier) (2 ^ 64 - 1)

structure TransactionConfig where
  t1 : Nat := 500000000
  t2 : Nat := 4000000000
  t4 : Nat := 5000000000
  transport : TransportKind := .unreliable

namespace TransactionConfig

variable (config : TransactionConfig)

/-- Doubles from T1 up to T2. -/
def backoff (n : Nat) : Nat :=
  if config.transport = .reliable then 0
  else
    let factor := min (2 ^ n) (2 ^ 64 - 1)
    let cap := millisU64 config.t2 / max (millisU64 config.t1) 1
    scaleDuration config.t1 (max (min factor cap) 1)

def timerA (n : Nat) : Nat := config.backoff n

def timerB : Nat := config.t1 * 64

def timerD : Nat := if config.transport = .reliable then 0 else 32000000000

def timerE (n : Nat) : Nat := config.backoff n

def timerF : Nat := config.t1 * 64

def timerG (n : Nat) : Nat := if config.transport = .reliable then 0 else config.timerE n

def timerH : Nat := config.t1 * 64

def timerI : Nat := if config.transport = .reliable then 0 else config.t4

def timerJ : Nat := if config.transport = .reliable then 0 else config.timerB

def timerK : Nat := if config.transport = .reliable then 0 else config.t4

theorem backoff_mono (le : m ≤ n) : config.backoff m ≤ config.backoff n := by
  have doubled : 2 ^ m ≤ 2 ^ n := Nat.pow_le_pow_right (by decide) le
  unfold backoff scaleDuration
  split
  · exact Nat.le_refl 0
  generalize millisU64 config.t2 / max (millisU64 config.t1) 1 = cap
  have factors : max (min (min (2 ^ m) (2 ^ 64 - 1)) cap) 1 ≤ max (min (min (2 ^ n) (2 ^ 64 - 1)) cap) 1 := by omega
  have := Nat.mul_le_mul_left config.t1 factors
  simp only
  omega

/-- The longest delay, in whole milliseconds of both intervals. -/
def longest : Nat := config.t1 * max (config.t2 / 1000000 / max (config.t1 / 1000000) 1) 1

theorem backoff_ge (unreliable : config.transport = .unreliable) (small : config.t1 < 2 ^ 64) (n : Nat) :
    config.t1 ≤ config.backoff n := by
  unfold backoff scaleDuration
  rw [if_neg (by simp [unreliable])]
  exact Nat.le_min.mpr ⟨Nat.le_mul_of_pos_right _ (Nat.le_max_right ..),Nat.le_sub_one_of_lt small⟩

theorem backoff_lt : config.backoff n < 2 ^ 64 := by
  unfold backoff scaleDuration
  split
  · decide
  · exact Nat.lt_of_le_of_lt (Nat.min_le_right ..) (by decide)

/-- The doubling reaches its cap after 64 steps at the latest. -/
theorem backoff_last (unreliable : config.transport = .unreliable) (ordered : config.t1 ≤ config.t2)
    (small : config.t2 < 2 ^ 64 - 1) : config.backoff 64 = min config.longest (2 ^ 64 - 1) := by
  have first : millisU64 config.t1 = config.t1 / 1000000 := by unfold millisU64; omega
  have second : millisU64 config.t2 = config.t2 / 1000000 := by unfold millisU64; omega
  have cap := Nat.div_le_self (config.t2 / 1000000) (max (config.t1 / 1000000) 1)
  unfold backoff scaleDuration longest
  rw [if_neg (by simp [unreliable])]
  simp only [first,second]
  rw [Nat.min_eq_right (by omega : _ ≤ min (2 ^ 64) (2 ^ 64 - 1))]

theorem backoff_le_iff (ordered : config.t1 ≤ config.t2) : (∀ n, config.backoff n ≤ config.t2) ↔
    config.transport = .reliable ∨ 2 ^ 64 - 1 ≤ config.t2 ∨ config.longest ≤ config.t2 := by
  cases kind : config.transport with
  | reliable => simp [backoff,kind]
  | unreliable =>
    simp only [reduceCtorEq,false_or]
    by_cases large : 2 ^ 64 - 1 ≤ config.t2
    · have bound (n : Nat) := config.backoff_lt (n := n)
      exact iff_of_true (fun n => by have := bound n; omega) (.inl large)
    have last := config.backoff_last kind ordered (by omega)
    constructor
    · intro within
      have := within 64
      omega
    · intro within n
      -- beyond the 64th the delay does not grow
      have : config.backoff n ≤ config.backoff (max n 64) := config.backoff_mono (Nat.le_max_left ..)
      have : config.backoff (max n 64) = config.backoff 64 := by
        unfold backoff
        rw [show min (2 ^ max n 64) (2 ^ 64 - 1) = min (2 ^ 64) (2 ^ 64 - 1) from ?_]
        have := Nat.pow_le_pow_right (n := 2) (by decide) (Nat.le_max_right n 64)
        omega
      omega

/-- The delays never fall. They are at least T1 exactly if the transport leaves retransmissions to the transaction and T1
has 64 bits of nanoseconds, and at most T2 exactly if the longest one is (or T2 is beyond those bits). -/
theorem retransmission_delays (positive : 0 < config.t1) (ordered : config.t1 ≤ config.t2) :
    (∀ m n, m ≤ n → config.timerA m ≤ config.timerA n ∧ config.timerE m ≤ config.timerE n) ∧
    ((∀ n, config.t1 ≤ config.timerA n ∧ config.t1 ≤ config.timerE n) ↔
      config.transport = .unreliable ∧ config.t1 < 2 ^ 64) ∧
    ((∀ n, config.timerE n ≤ config.t2) ↔
      config.transport = .reliable ∨ 2 ^ 64 - 1 ≤ config.t2 ∨ config.longest ≤ config.t2) := by
  refine ⟨fun _ _ le => ⟨config.backoff_mono le,config.backoff_mono le⟩,⟨fun above => ?_,?_⟩,config.backoff_le_iff ordered⟩
  · have first : config.t1 ≤ config.backoff 0 := (above 0).1
    have := config.backoff_lt (n := 0)
    refine ⟨?_,by omega⟩
    cases kind : config.transport with
    | unreliable => rfl
    | reliable =>
      simp only [backoff,kind,if_true] at first
      omega
  · rintro ⟨unreliable,small⟩ n
    exact ⟨config.backoff_ge unreliable small n,config.backoff_ge unreliable small n⟩

theorem default_delays : (⟨500000000,4000000000,5000000000,.unreliable⟩ : TransactionConfig).timerE 40 ≤ 4000000000 :=
  (retransmission_delays ⟨500000000,4000000000,5000000000,.unreliable⟩ (by decide) (by decide)).2.2.mpr (by decide) 40

/-- With T1 of 1.5 ms the second delay is 3 ms, over a T2 of 2 ms. -/
theorem rounded_delay_exceeds : 2000000 < (⟨1500000,2000000,0,.unreliable⟩ : TransactionConfig).timerE 1 ∧
    (⟨2 ^ 64,2 ^ 64,0,.unreliable⟩ : TransactionConfig).timerE 1 < 2 ^ 64 := by
  decide

end TransactionConfig

inductive TransactionRole where
  | uac
  | uas
deriving DecidableEq

inductive BranchPolicy where
  | strict
  | permissive
deriving DecidableEq

def magicCookie : String := "z9hG4bK"

/-- The CSeq number is not part of the key. -/
structure TransactionKey where
  branch : String
  cseqMethod : Method
  callId : String
  role : TransactionRole
deriving DecidableEq

def isRequest : SipMessage → Bool
  | .request _ _ _ => true
  | .response _ _ _ => false

def TransactionKey.forMessage (message : SipMessage) (role : TransactionRole) (policy : BranchPolicy) :
    Option TransactionKey := do
  let branch ← message.topBranch
  if branch.isEmpty ∨ (isRequest message ∧ policy = .strict ∧ !magicCookie.toList.isPrefixOf branch.toList) then none
  else do
    let callId ← message.callId
    let (_,cseqMethod) ← message.cseq.toOption
    return ⟨branch,cseqMethod,callId,role⟩

inductive TransactionEvent where
  | request (message : SipMessage)
  | response (message : SipMessage)
  | timer (kind : TimerKind)
  | transportError

inductive TransactionOutput where
  | sendMessage (message : SipMessage)
  | deliver (message : SipMessage)
  | setTimer (kind : TimerKind) (deadline : Nat)
  | cancelTimer (kind : TimerKind)
  | complete
  | failure (kind : SipErrorKind)
deriving DecidableEq

def isProvisional (code : Nat) : Bool := 100 ≤ code && code < 200

def isSuccess (code : Nat) : Bool := 200 ≤ code && code < 300

def isFailure (code : Nat) : Bool := 300 ≤ code && code < 700

def requestMethod : SipMessage → Option Method
  | .request line _ _ => some line.method
  | .response _ _ _ => none

def responseCode : SipMessage → Nat
  | .request _ _ _ => 0
  | .response line _ _ => line.code

def isFinal (message : SipMessage) : Bool := 200 ≤ responseCode message && responseCode message < 700

end CheetahSignaling.SipTransaction
