import Mathlib.Data.List.Basic

/-! Decoders of a stream that comes in chunks: after each chunk the complete messages are taken out,
up to the first error. A decoder is incremental when what it has decided about the bytes it holds
does not change with the bytes to come; then the messages depend on the stream alone and not on
where it is cut. -/
namespace CheetahSignaling.Framing

structure Decoder (σ β ε μ : Type) where
  feed : σ → List β → Except ε σ
  /-- The next message or error; none while more bytes are needed. -/
  pop : σ → Option (Except ε μ) × σ
  /-- A bound on the messages that can still be taken out. -/
  weight : σ → Nat

namespace Decoder

variable {σ β ε μ : Type} (decoder : Decoder σ β ε μ)

def drain : Nat → σ → List μ × Except ε σ
  | 0, s => ([],.ok s)
  | fuel + 1, s =>
    match decoder.pop s with
    | (none,s') => ([],.ok s')
    | (some (.error e),_) => ([],.error e)
    | (some (.ok m),s') => (m :: (drain fuel s').1,(drain fuel s').2)

def drained (s : σ) : List μ × Except ε σ := decoder.drain (decoder.weight s + 1) s

def andThen (received : List μ × Except ε σ) (next : σ → List μ × Except ε σ) : List μ × Except ε σ :=
  match received with
  | (messages,.error e) => (messages,.error e)
  | (messages,.ok s) => (messages ++ (next s).1,(next s).2)

/-- The messages of a stream fed chunk by chunk, up to the first error. -/
def receive : σ → List (List β) → List μ × Except ε σ
  | s, [] => ([],.ok s)
  | s, chunk :: chunks =>
    match decoder.feed s chunk with
    | .error e => ([],.error e)
    | .ok fed => andThen (decoder.drained fed) fun s' => receive s' chunks

def stop : Nat → σ → σ
  | 0, s => s
  | fuel + 1, s =>
    match decoder.pop s with
    | (some (.ok _),s') => stop fuel s'
    | _ => s

def Whole (ok : σ → List β → Prop) : σ → List (List β) → Prop
  | _, [] => True
  | s, chunk :: chunks =>
    match decoder.feed s chunk with
    | .error _ => False
    | .ok fed =>
      ok (decoder.stop (decoder.weight fed + 1) fed) chunks.flatten ∧
        match (decoder.drained fed).2 with
        | .error _ => True
        | .ok s' => Whole ok s' chunks

instance decidableWhole (ok : σ → List β → Prop) [decide : ∀ s rest, Decidable (ok s rest)] :
    (s : σ) → (chunks : List (List β)) → Decidable (decoder.Whole ok s chunks)
  | _, [] => .isTrue trivial
  | s, chunk :: chunks =>
    match fedEq : decoder.feed s chunk with
    | .error _ => .isFalse (by simp [Whole,fedEq])
    | .ok fed =>
      match endEq : (decoder.drained fed).2 with
      | .error _ =>
        @decidable_of_iff _ _ (by simp [Whole,fedEq,endEq]) (decide (decoder.stop (decoder.weight fed + 1) fed) chunks.flatten)
      | .ok s' =>
        have := decidableWhole ok s' chunks
        decidable_of_iff (ok (decoder.stop (decoder.weight fed + 1) fed) chunks.flatten ∧ decoder.Whole ok s' chunks)
          (by simp [Whole,fedEq,endEq])

/-- From the states with `inv`, what the decoder has decided stays decided when more bytes come. Errors may
change or be withdrawn where `ok` fails. -/
structure Incremental (inv : σ → Prop) (push : σ → List β → σ) (ok : σ → List β → Prop) : Prop where
  feed_ok : ∀ {s chunk fed}, decoder.feed s chunk = .ok fed → fed = push s chunk
  push_nil : ∀ s, push s [] = s
  push_append : ∀ s a b, push s (a ++ b) = push (push s a) b
  inv_push : ∀ {s} more, inv s → inv (push s more)
  inv_pop : ∀ {s}, inv s → inv (decoder.pop s).2
  waits : ∀ {s s'} more, inv s → decoder.pop s = (none,s') → decoder.pop (push s more) = decoder.pop (push s' more)
  gives : ∀ {s m s'} more, inv s → decoder.pop s = (some (.ok m),s') →
    decoder.pop (push s more) = (some (.ok m),push s' more)
  fails : ∀ {s e s'} {more : List β}, inv s → decoder.pop s = (some (.error e),s') → ok s more →
    ∃ s'', decoder.pop (push s more) = (some (.error e),s'')
  progress : ∀ {s m s'}, inv s → decoder.pop s = (some (.ok m),s') → decoder.weight s' < decoder.weight s

variable {decoder} {inv : σ → Prop} {push : σ → List β → σ} {ok : σ → List β → Prop}

theorem inv_next (law : decoder.Incremental inv push ok) (start : inv s) (popped : decoder.pop s = (out,s')) : inv s' := by
  have := law.inv_pop start
  rwa [popped] at this

theorem drain_fuel (law : decoder.Incremental inv push ok) (fuel fuel' : Nat) (s : σ) (start : inv s)
    (enough : decoder.weight s < fuel) (enough' : decoder.weight s < fuel') :
    decoder.drain fuel s = decoder.drain fuel' s ∧ decoder.stop fuel s = decoder.stop fuel' s := by
  induction fuel generalizing fuel' s with
  | zero => cases enough
  | succ fuel ih =>
    obtain ⟨fuel',rfl⟩ := Nat.exists_eq_succ_of_ne_zero (Nat.ne_zero_of_lt enough')
    cases popped : decoder.pop s with
    | mk out s' =>
      match out with
      | none => simp [drain,stop,popped]
      | some (.error e) => simp [drain,stop,popped]
      | some (.ok m) =>
        have lighter := law.progress start popped
        obtain ⟨same,stops⟩ := ih fuel' s' (inv_next law start popped) (by omega) (by omega)
        simp [drain,stop,popped,same,stops]

theorem drained_waits (waiting : decoder.pop s = (none,s')) : decoder.drained s = ([],.ok s') := by
  simp [drained,drain,waiting]

theorem drained_fails (failed : decoder.pop s = (some (.error e),s')) : decoder.drained s = ([],.error e) := by
  simp [drained,drain,failed]

section

variable (law : decoder.Incremental inv push ok)

include law

theorem drained_gives (start : inv s) (given : decoder.pop s = (some (.ok m),s')) :
    decoder.drained s = (m :: (decoder.drained s').1,(decoder.drained s').2) := by
  have same := (drain_fuel law _ (decoder.weight s' + 1) s' (inv_next law start given) (law.progress start given)
    (Nat.lt_succ_self _)).1
  simp [drained,drain,given,same]

theorem stop_gives (start : inv s) (given : decoder.pop s = (some (.ok m),s')) :
    decoder.stop (decoder.weight s + 1) s = decoder.stop (decoder.weight s' + 1) s' := by
  rw [stop,given]
  exact (drain_fuel law _ _ s' (inv_next law start given) (law.progress start given) (Nat.lt_succ_self _)).2

theorem drained_congr (first : inv s) (second : inv t) (same : decoder.pop s = decoder.pop t) :
    decoder.drained s = decoder.drained t := by
  cases popped : decoder.pop t with
  | mk out s' =>
    match out with
    | none => rw [drained_waits popped,drained_waits (same.trans popped)]
    | some (.error e) => rw [drained_fails popped,drained_fails (same.trans popped)]
    | some (.ok m) => rw [drained_gives law second popped,drained_gives law first (same.trans popped)]

end

theorem andThen_cons (next : σ → List μ × Except ε σ) :
    andThen (m :: received.1,received.2) next = (m :: (andThen received next).1,(andThen received next).2) := by
  obtain ⟨messages,e | s⟩ := received <;> rfl

section

variable (law : decoder.Incremental inv push ok)

include law

theorem drained_push (s : σ) (start : inv s) (whole : ok (decoder.stop (decoder.weight s + 1) s) more) :
    decoder.drained (push s more) = andThen (decoder.drained s) fun s' => decoder.drained (push s' more) := by
  induction weight : decoder.weight s using Nat.strongRecOn generalizing s with
  | ind n ih =>
    cases popped : decoder.pop s with
    | mk out s' =>
      match out with
      | none =>
        have later := inv_next law start popped
        rw [drained_waits popped,
          drained_congr law (law.inv_push more start) (law.inv_push more later) (law.waits more start popped)]
        rfl
      | some (.error e) =>
        have here : decoder.stop (decoder.weight s + 1) s = s := by rw [stop,popped]
        rw [here] at whole
        obtain ⟨s'',failed⟩ := law.fails start popped whole
        rw [drained_fails popped,drained_fails failed]
        rfl
      | some (.ok m) =>
        rw [stop_gives law start popped] at whole
        have rest := ih _ (weight ▸ law.progress start popped) s' (inv_next law start popped) whole rfl
        rw [drained_gives law start popped,drained_gives law (law.inv_push more start) (law.gives more start popped),
          andThen_cons]
        exact congrArg (fun received => (m :: received.1,received.2)) rest

theorem waiting_of_drained (start : inv s)
    (ended : (decoder.drained s).2 = .ok s') : inv s' ∧ decoder.pop s' = (none,s') := by
  induction weight : decoder.weight s using Nat.strongRecOn generalizing s with
  | ind n ih =>
    cases popped : decoder.pop s with
    | mk out t =>
      have kept := inv_next law start popped
      match out with
      | none =>
        rw [drained_waits popped] at ended
        cases ended
        have again := law.waits [] start popped
        rw [law.push_nil,law.push_nil,popped] at again
        exact ⟨kept,again.symm⟩
      | some (.error e) =>
        rw [drained_fails popped] at ended
        cases ended
      | some (.ok m) =>
        rw [drained_gives law start popped] at ended
        exact ih _ (weight ▸ law.progress start popped) kept ended rfl

/-- A stream fed in chunks gives what it gives at once. -/
theorem receive_eq (start : inv s) (waits : decoder.pop s = (none,s)) (whole : decoder.Whole ok s chunks) :
    decoder.receive s chunks = decoder.drained (push s chunks.flatten) := by
  induction chunks generalizing s with
  | nil => rw [List.flatten_nil,law.push_nil,drained_waits waits,receive]
  | cons chunk chunks ih =>
    unfold Whole at whole
    cases fedEq : decoder.feed s chunk with
    | error e => simp only [fedEq] at whole
    | ok fed =>
      simp only [fedEq] at whole
      obtain ⟨here,later⟩ := whole
      have pushed := law.feed_ok fedEq
      have kept : inv fed := pushed ▸ law.inv_push chunk start
      rw [List.flatten_cons,law.push_append,← pushed,drained_push law fed kept here]
      simp only [receive,fedEq]
      cases ended : decoder.drained fed with
      | mk messages last =>
        simp only [ended] at later
        cases last with
        | error e => rfl
        | ok s' =>
          obtain ⟨next,waiting⟩ : inv s' ∧ decoder.pop s' = (none,s') := waiting_of_drained law kept (by rw [ended])
          have rest := ih next waiting later
          exact congrArg (fun received => (messages ++ received.1,received.2)) rest

theorem receive_flatten (start : inv s) (waits : decoder.pop s = (none,s)) (same : chunks.flatten = chunks'.flatten)
    (whole : decoder.Whole ok s chunks) (whole' : decoder.Whole ok s chunks') :
    decoder.receive s chunks = decoder.receive s chunks' := by
  rw [receive_eq law start waits whole,receive_eq law start waits whole',same]

end

end Decoder

end CheetahSignaling.Framing
