import TenzroEdge.Discovery.Poll

/-!
# Discovery through outages

The stream is meant to go on for ever, over outages too. A poll that fails makes the
early-exit operator leave the loop, and with it the stream: whatever the reason of the
failure was, the consumer gets it as the last item.
-/

namespace TenzroEdge.Discovery

open Codec Interaction Interaction.Prog

variable {debug : SdkError → String} {blake3 : Bytes → Octets 32} {discovery : TenzroDiscovery}
  {outcomes : ℕ → Except SdkError (List NetworkProvider)}

/-- The consumer of a stream: the polls that were made for it, and the items that it got. -/
structure Consumer where
  polls : ℕ
  items : List (Except DiscoveryError PeerAnnouncement)

/-- The polls have the given outcomes, one after the other. -/
def serve (outcomes : ℕ → Except SdkError (List NetworkProvider)) : Handler io Consumer
  | .listProviders, consumer =>
      (outcomes consumer.polls, { consumer with polls := consumer.polls + 1 })
  | .yield item, consumer => ((), { consumer with items := consumer.items ++ [item] })
  | .sleep _, consumer => ((), consumer)

def announcements (blake3 : Bytes → Octets 32) :
    Except SdkError (List NetworkProvider) → List PeerAnnouncement
  | .ok providers => providers.map (announcementFromProvider blake3)
  | .error _ => []

def streamed (debug : SdkError → String) (blake3 : Bytes → Octets 32) (discovery : TenzroDiscovery)
    (outcomes : ℕ → Except SdkError (List NetworkProvider)) (rounds : ℕ) :
    StreamState × Consumer :=
  run (serve outcomes) (start debug blake3 rounds discovery) ⟨0, []⟩

/-! ## What is promised -/

/-- The errors of a poll that Tenzro was not reached for. -/
def Unreachable : SdkError → Prop
  | .connectionError _ => True
  | .rpcError _ => True
  | .timeout => True
  | _ => False

/-- The stream goes on for ever, and announces the providers of every successful poll in order. -/
structure Survives (debug : SdkError → String) (blake3 : Bytes → Octets 32)
    (discovery : TenzroDiscovery) (outcomes : ℕ → Except SdkError (List NetworkProvider)) :
    Prop where
  announced : ∀ rounds,
    (streamed debug blake3 discovery outcomes rounds).2.items.filterMap Except.toOption =
      (List.range rounds).flatMap fun poll => announcements blake3 (outcomes poll)
  /-- An error item stands for a poll that failed for another reason than that Tenzro was not
  reached. -/
  quiet : ∀ rounds error,
    .error error ∈ (streamed debug blake3 discovery outcomes rounds).2.items →
      ∃ poll sdkError, outcomes poll = .error sdkError ∧ ¬ Unreachable sdkError
  endless : ∀ rounds, (streamed debug blake3 discovery outcomes rounds).1 = .polling

/-! ## A round -/

section Round

variable {interval : ℕ} {consumer : Consumer}

theorem run_yield (item : Except DiscoveryError PeerAnnouncement) :
    run (serve outcomes) (yield item) consumer =
      ((), { consumer with items := consumer.items ++ [item] }) := rfl

theorem run_sleep (duration : ℕ) :
    run (serve outcomes) (sleep duration) consumer = ((), consumer) := rfl

theorem run_yieldAll (providers : List NetworkProvider) (consumer : Consumer) :
    run (serve outcomes) (yieldAll blake3 providers) consumer = ((), { consumer with
      items := consumer.items ++ (providers.map (announcementFromProvider blake3)).map .ok }) := by
  induction providers generalizing consumer with
  | nil => simp [yieldAll]
  | cons provider rest ih =>
      rw [yieldAll, run_bind, run_yield, ih]
      simp

theorem run_poll_of_ok {providers : List NetworkProvider}
    (listed : outcomes consumer.polls = .ok providers) :
    run (serve outcomes) (poll debug blake3 interval).run consumer = (.ok none, {
      polls := consumer.polls + 1
      items := consumer.items ++ (announcements blake3 (outcomes consumer.polls)).map .ok }) := by
  have lists : run (serve outcomes) listProviders consumer = (.ok providers, _) :=
    Prod.ext listed rfl
  rw [poll, run_orFail_bind_of_ok _ lists, run_lift_bind, run_yieldAll, run_lift_bind, run_sleep,
    listed]
  rfl

theorem run_poll_of_error {error : SdkError} (failed : outcomes consumer.polls = .error error) :
    run (serve outcomes) (poll debug blake3 interval).run consumer =
      (.error (mapSdk debug error), { consumer with polls := consumer.polls + 1 }) := by
  have fails : run (serve outcomes) listProviders consumer = (.error error, _) :=
    Prod.ext failed rfl
  rw [poll, run_orFail_bind_of_error _ fails]
  rfl

end Round

/-! ## The whole stream -/

section Stream

variable {rounds : ℕ}

/-- The consumer after the given number of polls, if all of them succeed. -/
def consumed (blake3 : Bytes → Octets 32)
    (outcomes : ℕ → Except SdkError (List NetworkProvider)) (polls : ℕ) : Consumer where
  polls := polls
  items := ((List.range polls).flatMap fun poll => announcements blake3 (outcomes poll)).map .ok

theorem run_poll_consumed {interval round : ℕ} {providers : List NetworkProvider}
    (listed : outcomes round = .ok providers) :
    run (serve outcomes) (poll debug blake3 interval).run (consumed blake3 outcomes round) =
      (.ok none, consumed blake3 outcomes (round + 1)) := by
  have here : outcomes (consumed blake3 outcomes round).polls = .ok providers := listed
  rw [run_poll_of_ok here]
  simp [consumed, List.range_succ]

/-- The stream ends with the item of the error that leaves the loop, if one does. -/
def lastState : Except DiscoveryError (Option Empty) × Consumer → StreamState × Consumer
  | (.ok _, consumer) => (.polling, consumer)
  | (.error error, consumer) =>
      (.ended, { consumer with items := consumer.items ++ [.error error] })

theorem streamed_eq_lastState : streamed debug blake3 discovery outcomes rounds =
    lastState (run (serve outcomes) (loop (poll debug blake3 discovery.pollInterval) rounds).run
      (consumed blake3 outcomes 0)) := by
  change run (serve outcomes) _ (consumed blake3 outcomes 0) = _
  rw [start, run_bind]
  rcases run (serve outcomes) (loop (poll debug blake3 discovery.pollInterval) rounds).run
    (consumed blake3 outcomes 0) with ⟨result, after⟩
  cases result with
  | ok never => rfl
  | error error => rfl

theorem streamed_of_ok (listed : ∀ round < rounds, ∃ providers, outcomes round = .ok providers) :
    streamed debug blake3 discovery outcomes rounds =
      (.polling, consumed blake3 outcomes rounds) := by
  have looped : run (serve outcomes) (loop (poll debug blake3 discovery.pollInterval) rounds).run
      (consumed blake3 outcomes 0) = (.ok none, consumed blake3 outcomes rounds) := by
    apply run_loop_worlds
    intro round bound
    rcases listed round bound with ⟨providers, outcome⟩
    exact run_poll_consumed outcome
  rw [streamed_eq_lastState, looped]
  rfl

/-- The stream ends in the round of the first poll that fails. -/
theorem streamed_of_error {failing : ℕ} {error : SdkError} (within : failing < rounds)
    (failed : outcomes failing = .error error)
    (listed : ∀ round < failing, ∃ providers, outcomes round = .ok providers) :
    (streamed debug blake3 discovery outcomes rounds).1 = .ended := by
  have goesOn : ∀ round < failing, run (serve outcomes)
      (poll debug blake3 discovery.pollInterval).run (consumed blake3 outcomes round) =
        (.ok none, consumed blake3 outcomes (round + 1)) := by
    intro round bound
    rcases listed round bound with ⟨providers, outcome⟩
    exact run_poll_consumed outcome
  have here : outcomes (consumed blake3 outcomes failing).polls = .error error := failed
  rw [streamed_eq_lastState,
    run_loop_until within goesOn (run_poll_of_error here) fun same => nomatch same]
  rfl

/-- The promise is kept exactly if no poll ever fails. -/
theorem start_survives_iff : Survives debug blake3 discovery outcomes ↔
    ∀ poll, ∃ providers, outcomes poll = .ok providers := by
  constructor
  · intro survives poll
    -- the polls before it have succeeded, or the stream would have ended earlier
    induction poll using Nat.strong_induction_on with
    | _ poll ih =>
        cases outcome : outcomes poll with
        | ok providers => exact ⟨providers, rfl⟩
        | error error =>
            have ended : (streamed debug blake3 discovery outcomes (poll + 1)).1 = .ended :=
              streamed_of_error (Nat.lt_succ_self poll) outcome ih
            rw [survives.endless] at ended
            cases ended
  · intro listed
    have all : ∀ rounds, streamed debug blake3 discovery outcomes rounds = (.polling, _) :=
      fun rounds => streamed_of_ok fun round _ => listed round
    constructor
    case announced =>
      intro rounds
      rw [all]
      exact List.filterMap_map.trans List.filterMap_some
    case quiet =>
      intro rounds error mem
      rw [all] at mem
      simp [consumed] at mem
    case endless =>
      intro rounds
      rw [all]

end Stream

/-- The first poll times out; from then on one provider is listed. -/
def firstTimesOut (poll : ℕ) : Except SdkError (List NetworkProvider) :=
  if poll = 0 then .error .timeout
  else .ok [{
    peerId := "12D3KooW", providerType := "llm", status := "active", capabilities := []
    servedModels := [], rpcEndpoint := "" }]

/-- One poll that times out ends the stream, and the provider is never announced. -/
theorem start_ends_on_timeout : ¬ Survives (fun _ => "") (fun _ => Octets.replicate 32 0) .new
    firstTimesOut := by
  intro survives
  exact absurd (survives.endless 1) (by decide)

end TenzroEdge.Discovery
