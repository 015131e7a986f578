import TenzroEdge.Broker.Round

/-!
# What an offer leaves on the marketplace

The marketplace evolves by itself between the commands of an offer, in any way; the
network may lose a request or its reply. An offer posts its task once and only asks
about it from then on. There is no command to withdraw a task, so whatever ends the
offer (a lost reply, a failing poll, the deadline) leaves the task in the state that
the marketplace itself has brought it to.
-/

namespace TenzroEdge.Broker

open Codec Interaction Interaction.Prog

structure Market where
  tasks : String → Option TaskInfo

namespace Market

def empty : Market := ⟨fun _ => none⟩

/-- A new task waits for an executor. -/
def post (market : Market) (id : String) : Market where
  tasks := Function.update market.tasks id
    (some { status := .string "open", output := none, assignedAgent := none })

/-- The task is on the marketplace, and its status is not terminal. -/
def Live (market : Market) (id : String) : Prop :=
  ∃ info, market.tasks id = some info ∧
    statusStr info.status ∉ ["completed", "failed", "cancelled"]

theorem live_post (market : Market) (id : String) : (market.post id).Live id :=
  ⟨_, Function.update_self _ _ _, by decide⟩

end Market

structure Event where
  /-- What the marketplace does by itself before the command. -/
  drift : Market → Market
  delivery : Delivery SdkError
  id : String
  reading : ℕ

/-- The marketplace behind a request to post a task. -/
def Event.settlePost (event : Event) (market : Market) : Market :=
  if event.delivery.executes then (event.drift market).post event.id else event.drift market

/-- What the marketplace does by itself over several commands. -/
def evolve (events : List Event) (market : Market) : Market :=
  events.foldl (fun market event => event.drift market) market

def serveMarket (event : Event) : Handler io Market
  | .postTask _ _ _ _ _ _, market => (match event.delivery with
      | .delivered => .ok ⟨event.id⟩
      | .lost fault => .error fault
      | .replyLost fault => .error fault, event.settlePost market)
  | .getTask taskId, market => (match event.delivery, (event.drift market).tasks taskId with
      | .delivered, some info => .ok info
      | .delivered, none => .error (.notFound taskId)
      | .lost fault, _ => .error fault
      | .replyLost fault, _ => .error fault, event.drift market)
  | .now, market => (event.reading, event.drift market)
  | .sleep _, market => ((), event.drift market)

def marketplace : Handler io (Market × Stream' Event) := scripted serveMarket

/-- The commands of an offer whose task has been posted. -/
def AsksAbout (taskId : String) : io.Cmd → Prop
  | .postTask _ _ _ _ _ _ => False
  | .getTask asked => asked = taskId
  | .now => True
  | .sleep _ => True

section

variable {debug : SdkError → String} {blake3 : Bytes → Octets 32} {decodeError : String → String}
  {interval deadline : Duration} {taskId : String} {started : ℕ}

theorem poll_asksAbout :
    (poll debug blake3 decodeError interval deadline taskId started).run.Issues
      (AsksAbout taskId) := by
  apply Issues.bind_run (Issues.lift (Issues.request trivial))
  intro current
  split
  · exact trivial
  · have own : AsksAbout taskId (.getTask taskId) := rfl
    apply Issues.bind_run (Issues.orFail (Issues.request own))
    intro info
    split
    · exact trivial
    · exact trivial
    · apply Issues.bind_run (Issues.lift (Issues.request trivial))
      intro _
      exact trivial

/-- The world is what the marketplace makes of itself from the given one on. -/
def LeftToItself (start world : Market × Stream' Event) : Prop :=
  ∃ count, world = (evolve (start.2.take count) start.1, start.2.drop count)

theorem LeftToItself.step {start world : Market × Stream' Event} {cmd : io.Cmd}
    (left : LeftToItself start world) (asks : AsksAbout taskId cmd) :
    LeftToItself start (marketplace cmd world).2 := by
  rcases left with ⟨count, rfl⟩
  have drifted : (serveMarket (start.2.drop count).head cmd
      (evolve (start.2.take count) start.1)).2 =
        (start.2.get count).drift (evolve (start.2.take count) start.1) := by
    rw [Stream'.head_drop]
    cases cmd with
    | postTask => exact absurd asks id
    | _ => rfl
  refine ⟨count + 1, Prod.ext ?_ Stream'.tail_drop'⟩
  change (serveMarket _ cmd _).2 = _
  rw [drifted, Stream'.take_succ', evolve, evolve, List.foldl_append]
  rfl

theorem run_postOf_marketplace (broker : TenzroBroker) (work : WorkOffer) (market : Market)
    (script : Stream' Event) : run marketplace (postOf broker work) (market, script) =
      (match script.head.delivery with
        | .delivered => .ok ⟨script.head.id⟩
        | .lost fault => .error fault
        | .replyLost fault => .error fault, (script.head.settlePost market, script.tail)) := rfl

/-- Posting the task is the first command of an offer, and the only one that is not a look: the
marketplace is left to itself from then on, whatever the outcome. -/
theorem offer_marketplace (debug : SdkError → String) (blake3 : Bytes → Octets 32)
    (decodeError : String → String) (rounds : ℕ) (broker : TenzroBroker) (work : WorkOffer)
    (market : Market) (script : Stream' Event) :
    ∃ count, (run marketplace (offer debug blake3 decodeError rounds broker work).run
      (market, script)).2.1 =
        evolve (script.tail.take count) (script.head.settlePost market) := by
  let posted : Market × Stream' Event := (script.head.settlePost market, script.tail)
  suffices left : LeftToItself posted (run marketplace
      (offer debug blake3 decodeError rounds broker work).run (market, script)).2 by
    rcases left with ⟨count, left⟩
    exact ⟨count, congrArg Prod.fst left⟩
  have request := run_postOf_marketplace broker work market script
  cases delivery : script.head.delivery with
  | lost fault =>
      simp only [delivery] at request
      rw [run_offer_of_error request]
      exact ⟨0, rfl⟩
  | replyLost fault =>
      simp only [delivery] at request
      rw [run_offer_of_error request]
      exact ⟨0, rfl⟩
  | delivered =>
      simp only [delivery] at request
      rw [run_offer_of_ok request rfl]
      apply (Issues_loop poll_asksAbout rounds).run_invariant
      · exact ⟨1, rfl⟩
      · intro cmd world asks left
        exact left.step asks

end

/-- The offer tells its caller that the work was not accepted. -/
inductive Rejected (taskId : String) (deadline : Duration) :
    Except WorkBrokerError (Option WorkOutcome) → Prop where
  | unreachable (message : String) : Rejected taskId deadline (.error (.unreachable message))
  | transient (message : String) : Rejected taskId deadline (.error (.transient message))
  | exceeded : Rejected taskId deadline (.ok (some (deadlineExceeded taskId deadline)))

/-- The marketplace rests, and `task-1` is the next identifier. -/
def resting (delivery : Delivery SdkError) : Event where
  drift market := market
  delivery := delivery
  id := "task-1"
  reading := 0

/-- The task is posted, and the first poll does not reach the marketplace. -/
def pollLost : Stream' Event :=
  Stream'.cons (resting .delivered) (Stream'.const (resting (.lost (.connectionError "offline"))))

/-- One lost poll rejects the offer and leaves its task on the marketplace. -/
theorem offer_leaves_live_task :
    ¬ ∀ (script : Stream' Event) (rounds : ℕ) (broker : TenzroBroker) (work : WorkOffer),
      let outcome := run marketplace (offer (fun _ => "") (fun _ => Octets.replicate 32 0)
        (fun _ => "") rounds broker work).run (Market.empty, script)
      Rejected script.head.id (deadlineOf broker work) outcome.1 →
        ¬ outcome.2.1.Live script.head.id := by
  intro noneLeft
  exact noneLeft pollLost 1 ⟨Octets.replicate 32 0, 0, 0⟩ ⟨"inference", [], none, none⟩
    (.unreachable "offline") (Market.live_post .empty "task-1")

end TenzroEdge.Broker
