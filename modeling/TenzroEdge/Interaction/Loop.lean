import TenzroEdge.Interaction.Basic

/-!
# Loops and retries

`loop body` repeats a round until it yields a result; the number of rounds is
bounded by an argument, and the loop yields nothing when the bound is reached,
so that a statement about the unbounded loop quantifies over the bound.

A request that crosses a network may be lost on the way, executed with its reply
delivered, or executed with its reply lost. `overNetwork` is the remote side
behind such a network together with the record of what it executed, and `retry`
is the caller that repeats an attempt as long as its result asks for it. The
record then grows by one entry for each attempt that was executed.
-/

namespace Interaction

/-- Repeat `body` until it yields a result, for the given number of rounds at most. -/
def loop {m : Type → Type} [Monad m] {α : Type} (body : m (Option α)) : ℕ → m (Option α)
  | 0 => pure none
  | rounds + 1 => body >>= fun
      | some value => pure (some value)
      | none => loop body rounds

section Loop

variable {I : Interface} {σ α ε : Type} {serve : Handler I σ}
  {body : ExceptT ε (Prog I) (Option α)} {state after : σ}

@[simp]
theorem run_loop_zero : (loop body 0).run.run serve state = (.ok none, state) := rfl

theorem run_loop_of_some {value : α} {rounds : ℕ}
    (finished : body.run.run serve state = (.ok (some value), after)) :
    (loop body (rounds + 1)).run.run serve state = (.ok (some value), after) :=
  Prog.run_bind_of_ok serve finished

theorem run_loop_of_none {rounds : ℕ}
    (unfinished : body.run.run serve state = (.ok none, after)) :
    (loop body (rounds + 1)).run.run serve state = (loop body rounds).run.run serve after :=
  Prog.run_bind_of_ok serve unfinished

/-- A round that does not ask for another ends the loop. -/
theorem run_loop_of_ne {result : Except ε (Option α)} {rounds : ℕ}
    (ended : body.run.run serve state = (result, after)) (last : result ≠ .ok none) :
    (loop body (rounds + 1)).run.run serve state = (result, after) := by
  rcases result with error | _ | value
  · exact Prog.run_bind_of_error serve ended
  · exact absurd rfl last
  · exact run_loop_of_some ended

/-- Rounds that each ask for another lead from one world to the next. -/
theorem run_loop_worlds {w : ℕ → σ} {rounds : ℕ}
    (goesOn : ∀ round < rounds,
      body.run.run serve (w round) = (.ok none, w (round + 1))) :
    (loop body rounds).run.run serve (w 0) = (.ok none, w rounds) := by
  induction rounds generalizing w with
  | zero => rfl
  | succ rounds ih =>
      rw [run_loop_of_none (goesOn 0 (Nat.succ_pos rounds))]
      exact ih (w := fun round => w (round + 1)) fun round bound =>
        goesOn (round + 1) (Nat.succ_lt_succ bound)

/-- The first round that does not ask for another ends the loop. -/
theorem run_loop_until {w : ℕ → σ} {ending rounds : ℕ} {result : Except ε (Option α)}
    (within : ending < rounds)
    (goesOn : ∀ round < ending,
      body.run.run serve (w round) = (.ok none, w (round + 1)))
    (ended : body.run.run serve (w ending) = (result, after)) (last : result ≠ .ok none) :
    (loop body rounds).run.run serve (w 0) = (result, after) := by
  induction ending generalizing w rounds with
  | zero =>
      cases rounds with
      | zero => cases within
      | succ rounds => exact run_loop_of_ne ended last
  | succ ending ih =>
      cases rounds with
      | zero => cases within
      | succ rounds =>
          rw [run_loop_of_none (goesOn 0 (Nat.succ_pos ending))]
          exact ih (w := fun round => w (round + 1)) (Nat.lt_of_succ_lt_succ within)
            (fun round bound => goesOn (round + 1) (Nat.succ_lt_succ bound)) ended

/-- Some round of these is the first that is not as described, or they all are. -/
theorem first_or_forall (goesOn : ℕ → Prop) (rounds : ℕ) :
    (∃ ending < rounds, ¬ goesOn ending ∧ ∀ round < ending, goesOn round) ∨
      ∀ round < rounds, goesOn round := by
  induction rounds with
  | zero => exact .inr fun round bound => absurd bound (Nat.not_lt_zero round)
  | succ rounds ih =>
      rcases ih with ⟨ending, bound, ended, earlier⟩ | all
      · exact .inl ⟨ending, Nat.lt_succ_of_lt bound, ended, earlier⟩
      · by_cases last : goesOn rounds
        · right
          intro round bound
          rcases Nat.lt_succ_iff_lt_or_eq.mp bound with earlier | rfl
          · exact all round earlier
          · exact last
        · exact .inl ⟨rounds, Nat.lt_succ_self rounds, last, all⟩

theorem Issues_loop {allowed : I.Cmd → Prop} (round : body.run.Issues allowed) (rounds : ℕ) :
    (loop body rounds).run.Issues allowed := by
  induction rounds with
  | zero => exact trivial
  | succ rounds ih =>
      apply Prog.Issues.bind_run round
      intro result
      cases result with
      | none => exact ih
      | some value => exact trivial

end Loop

/-- What a network does with one request and its reply. -/
inductive Delivery (Fault : Type) : Type where
  | lost (fault : Fault)
  | delivered
  | replyLost (fault : Fault)
deriving DecidableEq

namespace Delivery

variable {Fault : Type}

@[simp]
def executes : Delivery Fault → Bool
  | .lost _ => false
  | .delivered => true
  | .replyLost _ => true

/-- The request is executed without the caller learning of it. -/
@[simp]
def losesReply : Delivery Fault → Bool
  | .replyLost _ => true
  | _ => false

end Delivery

/-- A remote side behind a network: its state, and the requests it executed, oldest first. -/
structure Recorded (I : Interface) (σ : Type) where
  state : σ
  executed : List I.Cmd

/-- Serve a command through the network; `fail` is the reply that reports a fault to the caller. -/
def overNetwork {I : Interface} {σ Fault : Type} (fail : (cmd : I.Cmd) → Fault → I.Reply cmd)
    (serve : Handler I σ) : Delivery Fault → Handler I (Recorded I σ)
  | .lost fault, cmd, world => (fail cmd fault, world)
  | .delivered, cmd, world =>
      ((serve cmd world.state).1, ⟨(serve cmd world.state).2, world.executed ++ [cmd]⟩)
  | .replyLost fault, cmd, world =>
      (fail cmd fault, ⟨(serve cmd world.state).2, world.executed ++ [cmd]⟩)

/-- Repeat `attempt` as long as its result asks for it, for the given number of attempts at most. -/
def retry {I : Interface} {α : Type} (again : α → Bool) (attempt : Prog I α) (attempts : ℕ) :
    Prog I (Option α) :=
  loop (attempt >>= fun result => .ret (if again result then none else some result)) attempts

section Retry

variable {I : Interface} {σ α Fault : Type} {fail : (cmd : I.Cmd) → Fault → I.Reply cmd}
  {serve : Handler I σ} {again : α → Bool}

section

variable {τ : Type} {handler : Handler I τ} {attempt : Prog I α} {attempts : ℕ} {before after : τ}
  {outcome result : α}

theorem run_retry_of_again (attempted : Prog.run handler attempt before = (outcome, after))
    (asks : again outcome = true) :
    Prog.run handler (retry again attempt (attempts + 1)) before =
      Prog.run handler (retry again attempt attempts) after := by
  simp [retry, loop, attempted, asks]

theorem run_retry_of_settled (attempted : Prog.run handler attempt before = (outcome, after))
    (settles : again outcome = false) :
    Prog.run handler (retry again attempt (attempts + 1)) before = (some outcome, after) := by
  simp [retry, loop, attempted, settles]

/-- A result that retrying ends with is the result of an attempt, and does not ask for another. -/
theorem run_retry_some
    (finished : Prog.run handler (retry again attempt attempts) before = (some result, after)) :
    again result = false ∧ ∃ world, Prog.run handler attempt world = (result, after) := by
  induction attempts generalizing before with
  | zero => cases finished
  | succ attempts ih =>
      rcases attempted : Prog.run handler attempt before with ⟨outcome, world⟩
      cases decision : again outcome with
      | true =>
          rw [run_retry_of_again attempted decision] at finished
          exact ih finished
      | false =>
          rw [run_retry_of_settled attempted decision] at finished
          cases finished
          exact ⟨decision, before, attempted⟩

end

theorem Issues_retry {allowed : I.Cmd → Prop} {attempt : Prog I α}
    (issues : attempt.Issues allowed) (attempts : ℕ) :
    (retry again attempt attempts).Issues allowed := by
  induction attempts with
  | zero => exact trivial
  | succ attempts ih =>
      apply Prog.Issues.bind
      · apply issues.bind
        intro result
        exact trivial
      · intro result
        cases result with
        | none => exact ih
        | some value => exact trivial

/-- What an attempt that issues no command does: nothing, however often it is repeated. -/
theorem run_retry_ret {τ : Type} (handler : Handler I τ) (result : α) (attempts : ℕ) (world : τ) :
    (Prog.run handler (retry again (.ret result) attempts) world).2 = world := by
  induction attempts with
  | zero => rfl
  | succ attempts ih =>
      have attempted : Prog.run handler (.ret result) world = (result, world) := rfl
      cases decision : again result with
      | true => rw [run_retry_of_again attempted decision, ih]
      | false => rw [run_retry_of_settled attempted decision]

/-- The state of affairs after retrying one request. The attempts made have met the first
deliveries of the script, and ended at the first reply that was delivered or at the bound. The
requests which the network let through were executed, and the replies to all but one of these
were lost. -/
structure Retried (cmd : I.Cmd) (serve : Handler I σ) (attempts : ℕ)
    (script : Stream' (Delivery Fault)) (before : Recorded I σ)
    (after : Recorded I σ × Stream' (Delivery Fault)) (made : ℕ) : Prop where
  rest : after.2 = script.drop made
  bound : made ≤ attempts
  earlier : ∀ attempt, attempt + 1 < made → script.get attempt ≠ .delivered
  ended : made = attempts ∨ ∃ last, made = last + 1 ∧ script.get last = .delivered
  executed : after.1.executed = before.executed ++
    List.replicate ((script.take made).countP Delivery.executes) cmd
  state : after.1.state = (fun state => (serve cmd state).2)^[
    (script.take made).countP Delivery.executes] before.state
  unanswered : (script.take made).countP Delivery.executes ≤
    1 + (script.take made).countP Delivery.losesReply

namespace Retried

variable {cmd : I.Cmd} {attempts : ℕ} {script : Stream' (Delivery Fault)}
  {before : Recorded I σ} {after : Recorded I σ × Stream' (Delivery Fault)} {made : ℕ}

theorem none (script : Stream' (Delivery Fault)) (world : Recorded I σ) :
    Retried cmd serve 0 script world (world, script) 0 where
  rest := rfl
  bound := le_refl 0
  earlier attempt early := absurd early (Nat.not_lt_zero _)
  ended := .inl rfl
  executed := by simp
  state := by simp
  unanswered := by simp

theorem delivered (head : script.head = .delivered) : Retried cmd serve (attempts + 1) script before
    (⟨(serve cmd before.state).2, before.executed ++ [cmd]⟩, script.tail) 1 where
  rest := rfl
  bound := Nat.succ_le_succ (Nat.zero_le attempts)
  earlier attempt early := absurd early (by omega)
  ended := .inr ⟨0, rfl, head⟩
  executed := by simp [Stream'.take_succ, head, List.countP_cons]
  state := by simp [Stream'.take_succ, head, List.countP_cons]
  unanswered := by simp [Stream'.take_succ, head, List.countP_cons]

/-- An attempt whose reply is not delivered does not end the retrying. -/
theorem earlier_succ (head : script.head ≠ .delivered)
    (earlier : ∀ attempt, attempt + 1 < made → script.tail.get attempt ≠ .delivered) :
    ∀ attempt, attempt + 1 < made + 1 → script.get attempt ≠ .delivered := by
  intro attempt early
  cases attempt with
  | zero => exact head
  | succ attempt => exact earlier attempt (Nat.lt_of_succ_lt_succ early)

theorem ended_succ
    (ended : made = attempts ∨ ∃ last, made = last + 1 ∧ script.tail.get last = .delivered) :
    made + 1 = attempts + 1 ∨ ∃ last, made + 1 = last + 1 ∧ script.get last = .delivered := by
  rcases ended with all | ⟨last, count, delivered⟩
  · exact .inl (congrArg (· + 1) all)
  · exact .inr ⟨last + 1, congrArg (· + 1) count, delivered⟩

theorem lost {fault : Fault} (head : script.head = .lost fault)
    (retried : Retried cmd serve attempts script.tail before after made) :
    Retried cmd serve (attempts + 1) script before after (made + 1) where
  rest := retried.rest
  bound := Nat.succ_le_succ retried.bound
  earlier := earlier_succ (by simp [head]) retried.earlier
  ended := ended_succ retried.ended
  executed := by simpa [Stream'.take_succ, head, List.countP_cons] using retried.executed
  state := by simpa [Stream'.take_succ, head, List.countP_cons] using retried.state
  unanswered := by simpa [Stream'.take_succ, head, List.countP_cons] using retried.unanswered

theorem replyLost {fault : Fault} (head : script.head = .replyLost fault)
    (retried : Retried cmd serve attempts script.tail
      ⟨(serve cmd before.state).2, before.executed ++ [cmd]⟩ after made) :
    Retried cmd serve (attempts + 1) script before after (made + 1) where
  rest := retried.rest
  bound := Nat.succ_le_succ retried.bound
  earlier := earlier_succ (by simp [head]) retried.earlier
  ended := ended_succ retried.ended
  executed := by
    simpa [Stream'.take_succ, head, List.countP_cons, List.replicate_succ] using retried.executed
  state := by simpa [Stream'.take_succ, head, List.countP_cons] using retried.state
  unanswered := by
    have unanswered := retried.unanswered
    simp only [Stream'.take_succ, head, List.countP_cons, Delivery.executes, Delivery.losesReply,
      if_true]
    omega

end Retried

/-- Retrying a request until its reply is delivered, where every fault asks for another attempt
and no reply of the remote side does. -/
theorem run_retry_request {cmd : I.Cmd} {finish : I.Reply cmd → α}
    (transient : ∀ fault, again (finish (fail cmd fault)) = true)
    (settled : ∀ state, again (finish (serve cmd state).1) = false)
    (attempts : ℕ) (before : Recorded I σ) (script : Stream' (Delivery Fault)) :
    ∃ made, Retried cmd serve attempts script before
      (Prog.run (scripted (overNetwork fail serve))
        (retry again (.call cmd fun reply => .ret (finish reply)) attempts)
        (before, script)).2 made := by
  induction attempts generalizing before script with
  | zero => exact ⟨0, .none script before⟩
  | succ attempts ih =>
      have attempted : Prog.run (scripted (overNetwork fail serve))
          (.call cmd fun reply => .ret (finish reply)) (before, script) =
            (finish (overNetwork fail serve script.head cmd before).1,
              (overNetwork fail serve script.head cmd before).2, script.tail) := rfl
      cases head : script.head with
      | lost fault =>
          rw [head] at attempted
          rw [run_retry_of_again attempted (transient fault)]
          rcases ih before script.tail with ⟨made, retried⟩
          exact ⟨made + 1, retried.lost head⟩
      | delivered =>
          rw [head] at attempted
          rw [run_retry_of_settled attempted (settled before.state)]
          exact ⟨1, .delivered head⟩
      | replyLost fault =>
          rw [head] at attempted
          rw [run_retry_of_again attempted (transient fault)]
          rcases ih ⟨(serve cmd before.state).2, before.executed ++ [cmd]⟩ script.tail with
            ⟨made, retried⟩
          exact ⟨made + 1, retried.replyLost head⟩

end Retry

end Interaction
