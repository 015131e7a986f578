import TenzroEdge.DpopRpc.Binding
import TenzroEdge.Interaction.Transcript

/-!
# Calls on the clones of one client

The clones of a client share the counter that the identifiers come from, and have the
same endpoint, token and key. Their calls run interleaved: a call takes its identifier,
reads the environment and the clock, draws a nonce, and sends its request, unless the
clock is before the epoch. What the environment, the clock, the random number generator
and the network answer is free at every step, so that a reply may be any, and in
particular one that was meant for another call.

A call that is left with its request to send is a call whose request is in flight; its
next step is the arrival of the reply.
-/

namespace TenzroEdge.DpopRpc

open Codec Auth Interaction Interaction.Prog

/-- What the world answers at one step. -/
structure Moment where
  htu : Option String
  clock : SystemTime
  nonce : Octets 16
  answer : Except String Response

/-- The counter of the clones, and the calls that have taken an identifier, the first one first. -/
structure Counter (ι : Type) where
  requestId : UInt64
  takenBy : List ι

section

variable {ι : Type}

def serveShared (moment : Moment) (i : ι) : Handler io (Counter ι)
  | .takeId, counter => (counter.requestId,
      { requestId := counter.requestId + 1, takenBy := counter.takenBy ++ [i] })
  | .readHtu, counter => (moment.htu, counter)
  | .now, counter => (moment.clock, counter)
  | .draw, counter => (moment.nonce, counter)
  | .send _, counter => (moment.answer, counter)

end

/-! ## What a call has done -/

section

variable {ed25519 : Ed25519} {sha256 : Bytes → Octets 32} {α : Type} (decoding : Decoding α)
  (rpc : DpopRpc ed25519 sha256) (method : String) (params : Json)

/-- The exchanges of a call that finds its clock before the epoch. -/
def clockReadings (id : UInt64) (htu : Option String) (clock : SystemTime) : List (Exchange io) :=
  [⟨.takeId, id⟩, ⟨.readHtu, htu⟩, ⟨.now, clock⟩]

/-- The exchanges of a call before its request. -/
def readings (id : UInt64) (htu : Option String) (clock : SystemTime) (nonce : Octets 16) :
    List (Exchange io) :=
  [⟨.takeId, id⟩, ⟨.readHtu, htu⟩, ⟨.now, clock⟩, ⟨.draw, nonce⟩]

/-- How far a call has come: what it has exchanged, and what is left of it. -/
inductive Progress : List (Exchange io) → Prog io (Except TenzroEdgeError α) → Prop where
  | reading {transcript : List (Exchange io)} {cmd : Cmd}
      {next : io.Reply cmd → Prog io (Except TenzroEdgeError α)} (id : UInt64)
      (htu : Option String) (clock : SystemTime) (nonce : Octets 16)
      (soFar : transcript <+: readings id htu clock nonce)
      (quiet : ∀ request, cmd ≠ .send request) :
      Progress transcript (.call cmd next)
  | refused {id : UInt64} {htu : Option String} {clock : SystemTime} {error : TenzroEdgeError}
      (unissued : issuedAt clock = .error error) :
      Progress (clockReadings id htu clock) (.ret (.error error))
  | inFlight {id : UInt64} {htu : Option String} {clock : SystemTime} {nonce : Octets 16}
      {proof : String} (minted : rpc.signer.mintProof "POST" (htu.getD rpc.endpoint) clock nonce =
        .ok proof) :
      Progress (readings id htu clock nonce) (sendRest decoding rpc method params id proof)
  | answered {id : UInt64} {htu : Option String} {clock : SystemTime} {nonce : Octets 16}
      {proof : String} (minted : rpc.signer.mintProof "POST" (htu.getD rpc.endpoint) clock nonce =
        .ok proof) (reply : Except String Response) :
      Progress (readings id htu clock nonce ++
        [⟨.send (rpc.requestOf method params id proof), reply⟩]) (.ret (finish decoding reply))

variable {decoding rpc method params}

theorem progress_of_leaves_drawRest {id : UInt64} {htu : Option String} {clock : SystemTime}
    {transcript : List (Exchange io)} {left : Prog io (Except TenzroEdgeError α)}
    (leaves : (drawRest decoding rpc method params id (htu.getD rpc.endpoint)
      (issuedAt clock)).Leaves transcript left) :
    Progress decoding rpc method params
      (⟨.takeId, id⟩ :: ⟨.readHtu, htu⟩ :: ⟨.now, clock⟩ :: transcript) left := by
  cases issued : issuedAt clock with
  | error error =>
      rw [issued] at leaves
      cases leaves with
      | start => exact .refused issued
  | ok iat =>
      have minted (nonce : Octets 16) : rpc.signer.mintProof "POST" (htu.getD rpc.endpoint) clock
          nonce = .ok (rpc.signer.proofAt "POST" (htu.getD rpc.endpoint) iat nonce) := by
        rw [DpopSigner.mintProof, issued]
        rfl
      rw [issued] at leaves
      cases leaves with
      | start => exact .reading id htu clock (.replicate 16 0) (by simp [readings]) (by simp)
      | exchange nonce leaves =>
          cases leaves with
          | start => exact .inFlight (minted nonce)
          | exchange reply leaves =>
              cases leaves with
              | start => exact .answered (minted nonce) reply

theorem progress_of_leaves {transcript : List (Exchange io)}
    {left : Prog io (Except TenzroEdgeError α)}
    (leaves : (rpc.call decoding method params).run.Leaves transcript left) :
    Progress decoding rpc method params transcript left := by
  rw [call_eq] at leaves
  cases leaves with
  | start => exact .reading 0 none ⟨0, by decide⟩ (.replicate 16 0) List.nil_prefix (by simp)
  | exchange id leaves =>
      cases leaves with
      | start =>
          exact .reading id none ⟨0, by decide⟩ (.replicate 16 0) (by simp [readings]) (by simp)
      | exchange htu leaves =>
          cases leaves with
          | start =>
              exact .reading id htu ⟨0, by decide⟩ (.replicate 16 0) (by simp [readings]) (by simp)
          | exchange clock leaves => exact progress_of_leaves_drawRest leaves

def commands (transcript : List (Exchange io)) : List Cmd := transcript.map Sigma.fst

theorem commands_append (first second : List (Exchange io)) :
    commands (first ++ second) = commands first ++ commands second := List.map_append

/-- The request is in flight, or has been answered. -/
def Sends (transcript : List (Exchange io)) (left : Prog io (Except TenzroEdgeError α))
    (request : Request) : Prop :=
  (∃ next, left = .call (.send request) next) ∨ .send request ∈ commands transcript

/-- The request of a call, made of the client's data and of what the call itself was answered. -/
inductive Own (rpc : DpopRpc ed25519 sha256) (method : String) (params : Json)
    (transcript : List (Exchange io)) : Request → Prop where
  | request {id : UInt64} {htu : Option String} {clock : SystemTime} {nonce : Octets 16}
      {proof : String} (read : readings id htu clock nonce <+: transcript)
      (minted : rpc.signer.mintProof "POST" (htu.getD rpc.endpoint) clock nonce = .ok proof) :
      Own rpc method params transcript (rpc.requestOf method params id proof)

theorem send_notMem_readings {id : UInt64} {htu : Option String} {clock : SystemTime}
    {nonce : Octets 16} (request : Request) :
    Cmd.send request ∉ commands (readings id htu clock nonce) := by
  have read : commands (readings id htu clock nonce) = [.takeId, .readHtu, .now, .draw] := rfl
  simp [read]

theorem send_notMem_clockReadings {id : UInt64} {htu : Option String} {clock : SystemTime}
    (request : Request) : Cmd.send request ∉ commands (clockReadings id htu clock) := by
  have read : commands (clockReadings id htu clock) = [.takeId, .readHtu, .now] := rfl
  simp [read]

theorem Progress.own {transcript : List (Exchange io)} {left : Prog io (Except TenzroEdgeError α)}
    {request : Request} (progress : Progress decoding rpc method params transcript left)
    (sends : Sends transcript left request) : Own rpc method params transcript request := by
  cases progress with
  | reading id htu clock nonce soFar quiet =>
      rcases sends with ⟨next, pending⟩ | sent
      · cases pending
        exact absurd rfl (quiet request)
      · exact absurd ((soFar.map Sigma.fst).subset sent) (send_notMem_readings request)
  | refused unissued =>
      rcases sends with ⟨next, pending⟩ | sent
      · cases pending
      · exact absurd sent (send_notMem_clockReadings request)
  | inFlight minted =>
      rcases sends with ⟨next, pending⟩ | sent
      · cases pending
        exact .request (List.prefix_refl _) minted
      · exact absurd sent (send_notMem_readings request)
  | answered minted reply =>
      rcases sends with ⟨next, pending⟩ | sent
      · cases pending
      · rw [commands_append, List.mem_append] at sent
        rcases sent with sent | sent
        · exact absurd sent (send_notMem_readings request)
        · have same := List.mem_singleton.mp sent
          cases same
          exact .request (List.prefix_append _ _) minted

end

/-! ## Identifiers -/

section

variable {ι : Type}

/-- The calls have taken the identifiers one after the other, from `first` on. -/
structure Numbered (first : UInt64) (world : Journaled io ι (Counter ι)) : Prop where
  next : world.state.requestId = first + UInt64.ofNat world.state.takenBy.length
  taken : ∀ i id, (⟨.takeId, id⟩ : Exchange io) ∈ world.journal i →
    ∃ turn, world.state.takenBy[turn]? = some i ∧ id = first + UInt64.ofNat turn

/-- Up to as many calls as there are identifiers never share one. -/
theorem Numbered.id_ne {first : UInt64} {world : Journaled io ι (Counter ι)}
    (numbered : Numbered first world) (few : world.state.takenBy.length ≤ 2 ^ 64) {i j : ι}
    (differ : i ≠ j) {id other : UInt64} (taken : (⟨.takeId, id⟩ : Exchange io) ∈ world.journal i)
    (otherTaken : (⟨.takeId, other⟩ : Exchange io) ∈ world.journal j) : id ≠ other := by
  rcases numbered.taken i id taken with ⟨turn, atTurn, rfl⟩
  rcases numbered.taken j other otherTaken with ⟨otherTurn, atOtherTurn, rfl⟩
  intro same
  have turn_lt := (List.getElem?_eq_some_iff.mp atTurn).1
  have otherTurn_lt := (List.getElem?_eq_some_iff.mp atOtherTurn).1
  have sameTurn : turn = otherTurn := by
    have reduced := congrArg UInt64.toNat ((UInt64.add_right_inj first).mp same)
    rwa [UInt64.toNat_ofNat_of_lt' (lt_of_lt_of_le turn_lt few),
      UInt64.toNat_ofNat_of_lt' (lt_of_lt_of_le otherTurn_lt few)] at reduced
  subst sameTurn
  rw [atTurn] at atOtherTurn
  exact differ (Option.some.inj atOtherTurn)

variable [DecidableEq ι]

theorem Numbered.serve_of_ne {first : UInt64} {world : Journaled io ι (Counter ι)}
    (numbered : Numbered first world) (moment : Moment) (i : ι) {cmd : Cmd}
    (quiet : cmd ≠ .takeId) :
    Numbered first (journaling serveShared moment i cmd world).2 := by
  have same : (journaling serveShared moment i cmd world).2.state = world.state := by
    cases cmd with
    | takeId => exact absurd rfl quiet
    | readHtu => rfl
    | now => rfl
    | draw => rfl
    | send request => rfl
  constructor
  · rw [same]
    exact numbered.next
  · intro j id mem
    rw [same]
    rcases mem_journal mem with old | ⟨-, new⟩
    · exact numbered.taken j id old
    · exact absurd (congrArg Sigma.fst new).symm quiet

theorem Numbered.serve {first : UInt64} {world : Journaled io ι (Counter ι)}
    (numbered : Numbered first world) (moment : Moment) (i : ι) (cmd : Cmd) :
    Numbered first (journaling serveShared moment i cmd world).2 := by
  by_cases quiet : cmd = .takeId
  case neg => exact numbered.serve_of_ne moment i quiet
  subst quiet
  have state : (journaling serveShared moment i .takeId world).2.state =
      ⟨world.state.requestId + 1, world.state.takenBy ++ [i]⟩ := rfl
  constructor
  · rw [state, List.length_append, List.length_singleton, numbered.next, UInt64.ofNat_add,
      UInt64.add_assoc]
    rfl
  · intro j id mem
    rw [state]
    rcases mem_journal mem with old | ⟨rfl, new⟩
    · rcases numbered.taken j id old with ⟨turn, taken, rfl⟩
      refine ⟨turn, ?_, rfl⟩
      rw [List.getElem?_append_left (List.getElem?_eq_some_iff.mp taken).1]
      exact taken
    · refine ⟨world.state.takenBy.length, by simp, ?_⟩
      have latest : id = world.state.requestId := by
        cases new
        rfl
      rw [latest, numbered.next]

end

/-! ## Interleaved calls -/

section

variable {ed25519 : Ed25519} {sha256 : Bytes → Octets 32} {α ι : Type}

/-- The calls on the clones of one client, none of which has begun. -/
def calls (rpc : DpopRpc ed25519 sha256) (decoding : ι → Decoding α) (method : ι → String)
    (params : ι → Json) (first : UInt64) :
    Pool io ι (Journaled io ι (Counter ι)) (Except TenzroEdgeError α) where
  progs i := (rpc.call (decoding i) (method i) (params i)).run
  state := { state := { requestId := first, takenBy := [] }, journal := fun _ => [] }

variable [DecidableEq ι] {rpc : DpopRpc ed25519 sha256} {decoding : ι → Decoding α}
  {method : ι → String} {params : ι → Json} {first : UInt64}
  {pool : Pool io ι (Journaled io ι (Counter ι)) (Except TenzroEdgeError α)}

theorem progress_of_reachable
    (reached : Pool.Reachable (journaling serveShared) (calls rpc decoding method params first)
      pool)
    (i : ι) :
    Progress (decoding i) rpc (method i) (params i) (pool.state.journal i) (pool.progs i) :=
  progress_of_leaves (reached.leaves (fun _ => rfl) i)

theorem numbered_of_reachable
    (reached : Pool.Reachable (journaling serveShared) (calls rpc decoding method params first)
      pool) : Numbered first pool.state := by
  have initially : Numbered first (calls rpc decoding method params first).state := by
    constructor
    · exact (UInt64.add_zero first).symm
    · intro i id mem
      cases mem
  apply reached.world_invariant initially
  intro moment i cmd world numbered
  exact numbered.serve moment i cmd

/-- No two calls have drawn the same nonce. -/
def FreshNonces (world : Journaled io ι (Counter ι)) : Prop :=
  ∀ i j nonce, i ≠ j → (⟨.draw, nonce⟩ : Exchange io) ∈ world.journal i →
    (⟨.draw, nonce⟩ : Exchange io) ∉ world.journal j

/-- The exchanges of a finished call: it has found its clock before the epoch, or it has made its
readings and sent one request. -/
inductive Finished (rpc : DpopRpc ed25519 sha256) (method : String) (params : Json) :
    List (Exchange io) → Prop where
  | refused {id : UInt64} {htu : Option String} {clock : SystemTime}
      (beforeEpoch : clock.seconds < 0) :
      Finished rpc method params (clockReadings id htu clock)
  | answered {id : UInt64} {htu : Option String} {clock : SystemTime} {nonce : Octets 16}
      {proof : String} (minted : rpc.signer.mintProof "POST" (htu.getD rpc.endpoint) clock nonce =
        .ok proof) (reply : Except String Response) :
      Finished rpc method params (readings id htu clock nonce ++
        [⟨.send (rpc.requestOf method params id proof), reply⟩])

theorem Progress.finished {decoding : Decoding α} {method : String} {params : Json}
    {transcript : List (Exchange io)} {result : Except TenzroEdgeError α}
    (progress : Progress decoding rpc method params transcript (.ret result)) :
    Finished rpc method params transcript := by
  generalize left : (Prog.ret result : Prog io (Except TenzroEdgeError α)) = rest at progress
  cases progress with
  | reading id htu clock nonce soFar quiet => cases left
  | refused unissued => exact .refused (neg_of_issuedAt unissued)
  | inFlight minted => cases left
  | answered minted reply => exact .answered minted reply

/-- The calls of a pool do not get into each other's way. -/
structure Isolated (rpc : DpopRpc ed25519 sha256) (method : ι → String) (params : ι → Json)
    (pool : Pool io ι (Journaled io ι (Counter ι)) (Except TenzroEdgeError α)) : Prop where
  own : ∀ i request, Sends (pool.state.journal i) (pool.progs i) request →
    Own rpc (method i) (params i) (pool.state.journal i) request
  finished : ∀ i result, pool.progs i = .ret result →
    Finished rpc (method i) (params i) (pool.state.journal i)
  distinct : ∀ i j request other, i ≠ j → Sends (pool.state.journal i) (pool.progs i) request →
    Sends (pool.state.journal j) (pool.progs j) other →
      request.body.get? "id" ≠ other.body.get? "id" ∧ request.dpop ≠ other.dpop
  /-- No step of another call changes what a call has been answered and what is left of it. -/
  kept : ∀ i j after, i ≠ j → Pool.Step (journaling serveShared) j pool after →
    after.progs i = pool.progs i ∧ after.state.journal i = pool.state.journal i

theorem Own.id {transcript : List (Exchange io)} {request : Request} {method : String}
    {params : Json} (own : Own rpc method params transcript request) :
    ∃ id, (⟨.takeId, id⟩ : Exchange io) ∈ transcript ∧
      request.body.get? "id" = some (.int id.toNat) := by
  cases own with
  | @request id htu clock nonce proof read minted =>
      have taken : (⟨.takeId, id⟩ : Exchange io) ∈ readings id htu clock nonce := by
        simp [readings]
      exact ⟨id, read.subset taken, by simp [body_requestOf]⟩

theorem Own.proof {transcript : List (Exchange io)} {request : Request} {method : String}
    {params : Json} (own : Own rpc method params transcript request) :
    ∃ htu clock nonce, (⟨.draw, nonce⟩ : Exchange io) ∈ transcript ∧
      rpc.signer.mintProof "POST" htu clock nonce = .ok request.dpop := by
  cases own with
  | @request id htu clock nonce proof read minted =>
      have drawn : (⟨.draw, nonce⟩ : Exchange io) ∈ readings id htu clock nonce := by
        simp [readings]
      exact ⟨_, clock, nonce, read.subset drawn, minted⟩

/-- Whatever the interleaving, calls on the clones of one client do not get into each other's way,
as long as there are identifiers left and the nonces are fresh. -/
theorem calls_isolated
    (reached : Pool.Reachable (journaling serveShared) (calls rpc decoding method params first)
      pool)
    (few : pool.state.state.takenBy.length ≤ 2 ^ 64) (fresh : FreshNonces pool.state) :
    Isolated rpc method params pool := by
  have own : ∀ i request, Sends (pool.state.journal i) (pool.progs i) request →
      Own rpc (method i) (params i) (pool.state.journal i) request := by
    intro i request sends
    exact (progress_of_reachable reached i).own sends
  constructor
  case own => exact own
  case finished =>
    intro i result returned
    have progress := progress_of_reachable reached i
    rw [returned] at progress
    exact progress.finished
  case distinct =>
    intro i j request other differ sends otherSends
    rcases (own i request sends).id with ⟨id, taken, requestId⟩
    rcases (own j other otherSends).id with ⟨otherId, otherTaken, otherRequestId⟩
    rcases (own i request sends).proof with ⟨htu, clock, nonce, drawn, minted⟩
    rcases (own j other otherSends).proof with ⟨otherHtu, otherClock, otherNonce, otherDrawn,
      otherMinted⟩
    constructor
    · rw [requestId, otherRequestId]
      intro same
      apply (numbered_of_reachable reached).id_ne few differ taken otherTaken
      apply UInt64.toNat_inj.mp
      simpa using same
    · intro same
      rw [← same] at otherMinted
      have reused : otherNonce = nonce := nonce_eq_of_mintProof minted otherMinted
      subst reused
      exact fresh i j _ differ drawn otherDrawn
  case kept =>
    intro i j after differ step
    exact step.others differ

/-! ## What a call believes -/

theorem Progress.returned_iff {decoding : Decoding α} {method : String} {params : Json}
    {transcript : List (Exchange io)} {left : Prog io (Except TenzroEdgeError α)} {value : α}
    (progress : Progress decoding rpc method params transcript left) :
    left = .ret (.ok value) ↔ ∃ before request response,
      transcript = before ++ [⟨.send request, .ok response⟩] ∧
        Own rpc method params transcript request ∧ Carries decoding response value := by
  constructor
  · intro returned
    cases progress with
    | reading id htu clock nonce soFar quiet => cases returned
    | refused unissued => cases returned
    | inFlight minted => cases returned
    | answered minted reply =>
        have finished : finish decoding reply = .ok value := Prog.ret.inj returned
        rcases finish_eq_ok_iff.mp finished with ⟨response, rfl, carries⟩
        exact ⟨_, _, response, rfl, .request (List.prefix_append _ _) minted, carries⟩
  · rintro ⟨before, request, response, split, -, carries⟩
    have sent : Cmd.send request ∈ commands transcript := by
      rw [split, commands_append]
      exact List.mem_append_right _ (List.mem_singleton_self _)
    cases progress with
    | reading id htu clock nonce soFar quiet =>
        exact absurd ((soFar.map Sigma.fst).subset sent) (send_notMem_readings request)
    | refused unissued => exact absurd sent (send_notMem_clockReadings request)
    | inFlight minted => exact absurd sent (send_notMem_readings request)
    | answered minted reply =>
        have last := List.append_inj_right' split rfl
        cases last
        exact congrArg Prog.ret (decodeResponse_eq_ok_iff.mpr carries)

/-- Whatever the interleaving and the replies, a call returns a value exactly if the response to
its own request carries that value. The identifier in the response plays no part. -/
theorem call_returns_iff
    (reached : Pool.Reachable (journaling serveShared) (calls rpc decoding method params first)
      pool)
    (i : ι) (value : α) :
    pool.progs i = .ret (.ok value) ↔ ∃ before request response,
      pool.state.journal i = before ++ [⟨.send request, .ok response⟩] ∧
        Own rpc (method i) (params i) (pool.state.journal i) request ∧
        Carries (decoding i) response value :=
  (progress_of_reachable reached i).returned_iff

end

/-! ## Two calls whose replies are swapped -/

def bodyFor (id : UInt64) : Json :=
  .object [("id", .int id.toNat), ("jsonrpc", .string "2.0"), ("result", .string "signed")]

def replyTo (id : UInt64) : Response where
  status := 200
  body := .ok (bodyFor id).print

theorem parse_bodyFor (id : UInt64) : Json.parse (bodyFor id).print = some (bodyFor id) := by
  have bound := id.toNat_lt
  have depth : (bodyFor id).depth = 1 := rfl
  apply Json.parse_print
  · simp only [bodyFor, Json.Canonical, Json.CanonicalMembers, List.map_cons, List.map_nil]
    exact ⟨⟨⟨by omega, by omega⟩, trivial, trivial, trivial⟩, by decide⟩
  · omega

theorem carries_replyTo (id : UInt64) : Carries rawDecoding (replyTo id) (.string "signed") := by
  refine ⟨by simp [replyTo], _, bodyFor id, _, rfl, parse_bodyFor id, ?_, ?_, rfl⟩
  · simp [bodyFor]
  · simp [bodyFor]

/-- The nonce that one of two calls draws. -/
def nonceOf (second : Bool) : Octets 16 := .replicate 16 (if second then 1 else 0)

/-- What the world answers at a step of one of two calls: each gets the reply to the other. -/
def momentOf42 (second : Bool) : Moment where
  htu := none
  clock := clockOf42
  nonce := nonceOf second
  answer := .ok (replyTo (if second then 1 else 2))

def callsOf42 : Pool io Bool (Journaled io Bool (Counter Bool)) (Except TenzroEdgeError Json) :=
  calls (clientOf42 "one") (fun _ => rawDecoding) (fun _ => "tenzro_signMessage") (fun _ => .null) 1

/-- The two calls after they have taken turns for the given number of times. -/
def callsAfter (turns : ℕ) :
    Pool io Bool (Journaled io Bool (Counter Bool)) (Except TenzroEdgeError Json) :=
  callsOf42.schedule (journaling serveShared)
    (List.replicate turns [(momentOf42 false, false), (momentOf42 true, true)]).flatten

theorem journal_callsAfter_four (second : Bool) : (callsAfter 4).state.journal second =
    readings (if second then 2 else 1) none clockOf42 (nonceOf second) := by
  cases second with
  | false => rfl
  | true => rfl

theorem nonce_of_mem_readings {id : UInt64} {htu : Option String} {clock : SystemTime}
    {nonce other : Octets 16}
    (mem : (⟨.draw, other⟩ : Exchange io) ∈ readings id htu clock nonce) : other = nonce := by
  rcases mem with _ | ⟨_, _ | ⟨_, _ | ⟨_, _ | ⟨_, none⟩⟩⟩⟩
  · rfl
  · cases none

/-- Two calls that each draw a nonce of their own do not share one. -/
theorem freshNonces_of_nonceOf {world : Journaled io Bool (Counter Bool)}
    (drawn : ∀ second (nonce : Octets 16),
      (⟨.draw, nonce⟩ : Exchange io) ∈ world.journal second → nonce = nonceOf second) :
    FreshNonces world := by
  have injective : Function.Injective nonceOf := by
    intro i j same
    revert i j
    decide
  intro i j nonce differ mem again
  apply differ
  apply injective
  exact (drawn i nonce mem).symm.trans (drawn j nonce again)

theorem freshNonces_callsAfter_four : FreshNonces (callsAfter 4).state := by
  apply freshNonces_of_nonceOf
  intro second nonce drawn
  rw [journal_callsAfter_four] at drawn
  exact nonce_of_mem_readings drawn

/-- Both requests are in flight. -/
theorem calls_isolated_callsAfter_four :
    Isolated (clientOf42 "one") (fun _ => "tenzro_signMessage") (fun _ => .null) (callsAfter 4) :=
  calls_isolated (Pool.reachable_schedule _ callsOf42) (by decide) freshNonces_callsAfter_four

theorem returned_callsAfter_five (second : Bool) :
    (callsAfter 5).progs second = .ret (.ok (.string "signed")) := by
  have answered : (callsAfter 5).progs second =
      .ret (finish rawDecoding (.ok (replyTo (if second then 1 else 2)))) := by
    cases second with
    | false => rfl
    | true => rfl
  rw [answered]
  exact congrArg Prog.ret (decodeResponse_eq_ok_iff.mpr (carries_replyTo _))

/-- Each call has returned what the reply to the other carries. -/
theorem call_returns_iff_callsAfter_five :
    ∃ before request response, (callsAfter 5).state.journal false =
        before ++ [⟨.send request, .ok response⟩] ∧
      Own (clientOf42 "one") "tenzro_signMessage" .null ((callsAfter 5).state.journal false)
        request ∧
      Carries rawDecoding response (.string "signed") :=
  (call_returns_iff (Pool.reachable_schedule _ callsOf42) false _).mp
    (returned_callsAfter_five false)

/-- A call returns the result of a response with the identifier of another. -/
theorem call_accepts_swapped_reply : ¬ ∀ (pool : Pool io Bool (Journaled io Bool (Counter Bool))
      (Except TenzroEdgeError Json)) (i : Bool) (value : Json),
    Pool.Reachable (journaling serveShared) callsOf42 pool → pool.progs i = .ret (.ok value) →
      ∃ before request response octets body, pool.state.journal i =
          before ++ [⟨.send request, .ok response⟩] ∧
        response.body = .ok octets ∧ Json.parse octets = some body ∧
        body.get? "id" = request.body.get? "id" := by
  intro correlated
  rcases correlated (callsAfter 5) false _ (Pool.reachable_schedule _ callsOf42)
    (returned_callsAfter_five false) with ⟨before, request, response, octets, body, last, read,
      parsed, same⟩
  have exchanged : (callsAfter 5).state.journal false = readings 1 none clockOf42
      (.replicate 16 0) ++ [⟨.send ((clientOf42 "one").requestOf "tenzro_signMessage" .null 1 _),
        .ok (replyTo 2)⟩] := rfl
  have exchange := List.append_inj_right' (exchanged.symm.trans last) rfl
  cases exchange
  cases read
  rw [parse_bodyFor] at parsed
  cases parsed
  simp [bodyFor, body_requestOf] at same

end TenzroEdge.DpopRpc
