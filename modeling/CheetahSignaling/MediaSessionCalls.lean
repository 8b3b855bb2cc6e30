import CheetahSignaling.GuardedRun
import CheetahSignaling.MediaSession

/-! Calls of the methods of a media session in any order. Three of them record the wish to stop before
they ask for the transition, which is then never refused. -/
namespace CheetahSignaling.MediaSession

open GuardedRun

inductive Call where
  | allocating | inviting | active | stopping | stop | stopped
  | failed (error : ErrorText)
  | cancel | timeout | bumpGeneration
  | setPlaybackWindow (startTime endTime : UtcTimestamp) (scale : Scale)

abbrev Answer := MediaSession × Except DomainError (Option DomainEvent)

section

variable (s : MediaSession) (now : UtcTimestamp)

/-- What a method leaves that returns before it changes the session. -/
def kept : Except DomainError (MediaSession × DomainEvent) → Answer
  | .ok (changed,event) => (changed,.ok (some event))
  | .error e => (s,.error e)

/-- A transition with the wish to stop, which an error does not take back. -/
def wishing (target : MediaSessionState) : Answer :=
  { s with desiredState := .stopped }.kept ({ s with desiredState := .stopped }.transitionTo now target none)

/-- The session after a call, and the answer. -/
def call : Call → Answer
  | .allocating => s.kept (s.allocating now)
  | .inviting => s.kept (s.inviting now)
  | .active => s.kept (s.active now)
  | .stopping =>
    if s.isTerminal then (s,.error (.alreadyTerminal "MediaSession" (stateName s.state)))
    else if s.state ≠ .active then (s,.error (.invalidTransition "MediaSession" (stateName s.state) "Stopping"))
    else s.wishing now .stopping
  | .stop =>
    if s.isTerminal then (s,.error (.alreadyTerminal "MediaSession" (stateName s.state)))
    else if s.state = .active then s.wishing now .stopping
    else s.wishing now .stopped
  | .stopped => s.kept (s.stopped now)
  | .failed error => s.kept (s.failed error now)
  | .cancel =>
    if s.isTerminal then (s,.error (.alreadyTerminal "MediaSession" (stateName s.state)))
    else s.wishing now .stopped
  | .timeout => s.kept (s.timeout now)
  | .bumpGeneration => s.kept (s.bumpGeneration now)
  | .setPlaybackWindow startTime endTime scale =>
    match s.setPlaybackWindow startTime endTime scale with
    | .ok changed => (changed,.ok none)
    | .error e => (s,.error e)

end

/-- The transition that is asked for with the wish to stop is never refused, so that nothing is left by an error. -/
theorem call_wishing (s : MediaSession) (now : UtcTimestamp) : s.call now .stopping = s.kept (s.stopping now) ∧
    s.call now .stop = s.kept (s.stop now) ∧ s.call now .cancel = s.kept (s.cancel now) := by
  obtain ⟨_,_,_,_,_,_,state⟩ := s
  cases state <;> exact ⟨rfl,rfl,rfl⟩

/-- What a call can do. -/
inductive Effect (s : MediaSession) (c : Call) : Answer → Prop
  | refused (e : DomainError) : Effect s c (s,.error e)
  | moved (live : s.isTerminal = false) (wish : MediaSessionDesiredState) (now : UtcTimestamp) (target : MediaSessionState)
      (cause : Option ErrorText) (reason : cause.isSome = true ↔ target = .failed) (event : DomainEvent) :
      Effect s c ({ s with desiredState := wish }.moved now target cause,.ok (some event))
  | bumped (live : s.isTerminal = false) (now : UtcTimestamp) (event : DomainEvent) :
      Effect s c ({ s with generation := s.generation + 1 }.bump now,.ok (some event))
  | windowed (startTime endTime : UtcTimestamp) (scale : Scale) (called : c = .setPlaybackWindow startTime endTime scale) :
      Effect s c ({ s with playbackStartTime := some startTime, playbackEndTime := some endTime,
                           playbackScale := some scale },.ok none)

section

variable {s : MediaSession}

theorem kept_effect (reason : cause.isSome = true ↔ target = .failed) :
    Effect s c (s.kept (s.transitionTo now target cause)) := by
  cases ran : s.transitionTo now target cause with
  | error e => exact .refused e
  | ok result =>
    obtain ⟨live,-,-,same⟩ := transitionTo_inv ran
    rw [kept,same]
    exact .moved live s.desiredState now target cause reason result.2

theorem wishing_effect (live : s.isTerminal = false) (allowed : allowedTransition s.state target = true)
    (other : target ≠ .failed) : Effect s c (s.wishing now target) := by
  have moved : { s with desiredState := .stopped }.transitionTo now target none = _ := transitionTo_ok _ live allowed nofun
  rw [wishing,moved]
  exact .moved live .stopped now target none (by simp [other]) _

theorem stopped_allowed (live : s.isTerminal = false) : allowedTransition s.state .stopped = true := by
  unfold isTerminal at live
  cases state : s.state with
  | stopped | failed => rw [state] at live; cases live
  | _ => rfl

theorem call_effect : Effect s c (s.call now c) := by
  cases c with
  | allocating | inviting | active | stopped => exact kept_effect (by decide)
  | failed | timeout => exact kept_effect (by simp)
  | stopping =>
    simp only [call]
    split_ifs with terminal state
    · exact .refused _
    · exact .refused _
    · exact wishing_effect (by simpa using terminal) (by rw [not_not.mp state]; rfl) (by decide)
  | stop =>
    simp only [call]
    split_ifs with terminal state
    · exact .refused _
    · exact wishing_effect (by simpa using terminal) (by rw [state]; rfl) (by decide)
    · exact wishing_effect (by simpa using terminal) (stopped_allowed (by simpa using terminal)) (by decide)
  | cancel =>
    simp only [call]
    split_ifs with terminal
    · exact .refused _
    · exact wishing_effect (by simpa using terminal) (stopped_allowed (by simpa using terminal)) (by decide)
  | bumpGeneration =>
    simp only [call,bumpGeneration]
    split_ifs with terminal
    · exact .refused _
    · exact .bumped (by simpa using terminal) now _
  | setPlaybackWindow startTime endTime scale =>
    simp only [call,setPlaybackWindow]
    split_ifs
    · exact .refused _
    · exact .refused _
    · exact .refused _
    · exact .windowed startTime endTime scale rfl

def Failing (s : MediaSession) : Prop := s.error.isSome = true ↔ s.state = .failed

theorem Effect.failing (effect : Effect s c answer) (failing : s.Failing) : answer.1.Failing := by
  cases effect with
  | moved live wish now target cause reason event =>
    show (if cause.isSome then cause else if target = .failed then s.error else none).isSome = true ↔ target = .failed
    by_cases given : cause.isSome = true
    · simp [given,reason.mp given]
    · have other : target ≠ .failed := fun failed => given (reason.mpr failed)
      simp [given,other]
  | _ => exact failing

/-- What holds of every call. -/
structure Sound (s : MediaSession) (c : Call) (answer : Answer) : Prop where
  unchanged : ∀ e, answer.2 = .error e → answer.1 = s
  terminal : s.isTerminal = true → answer.1.state = s.state
  revised : ∀ event, answer.2 = .ok (some event) → answer.1.revision = s.revision + 1
  windowed : answer.2 = .ok none → ∃ startTime endTime scale, c = .setPlaybackWindow startTime endTime scale ∧
    answer.1 = { s with playbackStartTime := some startTime, playbackEndTime := some endTime, playbackScale := some scale }
  generation : s.generation ≤ answer.1.generation

theorem Effect.sound (effect : Effect s c answer) : Sound s c answer := by
  cases effect with
  | refused e => exact ⟨fun _ _ => rfl,fun _ => rfl,by simp,by simp,Nat.le_refl _⟩
  | moved live => exact ⟨by simp,by simp [live],fun _ _ => rfl,by simp,Nat.le_refl _⟩
  | bumped live => exact ⟨by simp,fun _ => rfl,fun _ _ => rfl,by simp,Nat.le_succ _⟩
  | windowed startTime endTime scale called =>
    exact ⟨by simp,fun _ => rfl,by simp,fun _ => ⟨startTime,endTime,scale,called,rfl⟩,Nat.le_refl _⟩

end

/-- Over every run of calls on a new session. -/
theorem session_calls_sound
    (created : new now k tenant device channel use desired owner operation scope due = .ok (initial,event))
    (run : List (UtcTimestamp × Call)) :
    let s := execute (fun s (now,c) => (s.call now c).1) initial run
    (s.error.isSome = true ↔ s.state = .failed) ∧ ∀ now c, Sound s c (s.call now c) := by
  intro s
  refine ⟨?_,fun now c => call_effect.sound⟩
  have start : initial.Failing := by
    unfold new at created
    split_ifs at created
    cases created
    simp [Failing]
  exact execute_invariant (fun s action failing => call_effect.failing failing) run start

theorem new_session_fails :
    ∃ initial event, new 0 1 1 1 1 .live .active 0 1 ⟨1,"user",⟨1,.device,1⟩,"key"⟩ none = .ok (initial,event) ∧
      let s := execute (fun s (now,c) => (s.call now c).1) initial [(1,.allocating),(2,.timeout),(3,.cancel)]
      (s.error.isSome = true ↔ s.state = .failed) ∧ ∀ now c, Sound s c (s.call now c) := by
  obtain ⟨initial,event,created⟩ :
      ∃ initial event, new 0 1 1 1 1 .live .active 0 1 ⟨1,"user",⟨1,.device,1⟩,"key"⟩ none = .ok (initial,event) := ⟨_,_,rfl⟩
  exact ⟨initial,event,created,session_calls_sound created _⟩

end CheetahSignaling.MediaSession
