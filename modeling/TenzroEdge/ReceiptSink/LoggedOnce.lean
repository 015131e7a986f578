import TenzroEdge.DpopRpc.Repeats
import TenzroEdge.Interaction.Replay
import TenzroEdge.ReceiptSink.Anchored

/-!
# Receipts are logged once

Any number of writes run at the same time on one sink, and the network delivers their requests in
any order, each as often as it likes, or never. The server logs the digest of each request that it
executes, and acknowledges no other. Its log then has one entry for each write whose request has
arrived, and the writes that report success are among these.
-/

namespace TenzroEdge.ReceiptSink

open Codec Interaction Interaction.Prog

section

variable {ed25519 : Auth.Ed25519} {sha256 : Bytes → Octets 32} {Receipt ι : Type}

/-- What a write submits, for a receipt with a canonical form. -/
def parameters (serialise : Receipt → Except String Bytes) (blake3 : Bytes → Octets 32)
    (receipt : Receipt) : Json :=
  match serialise receipt with
  | .ok canon => messageParams (hexEncode (blake3 canon).bytes)
  | .error _ => .null

/-- The log of a server that logs what it executes. -/
def logOf (accepts : DpopRpc.Request → Bool) (served : String) (arrivals : List DpopRpc.Request) :
    List (Octets 32) :=
  (DpopRpc.executed accepts served arrivals).filterMap submittedDigest

/-- The server acknowledges only what it has executed. -/
def AcknowledgesExecuted (journal : ι → List (Exchange DpopRpc.io))
    (executed : List DpopRpc.Request) : Prop :=
  ∀ i request response, (⟨.send request, .ok response⟩ : Exchange DpopRpc.io) ∈ journal i →
    Acknowledges response → request ∈ executed

/-- Writes on one sink, none of which has begun. -/
def writes (texts : ErrorTexts) (serialise : Receipt → Except String Bytes)
    (blake3 : Bytes → Octets 32) (sink : TenzroReceiptSink ed25519 sha256) (receipt : ι → Receipt)
    (first : UInt64) :
    Pool DpopRpc.io ι (Journaled DpopRpc.io ι (DpopRpc.Counter ι)) (Except SinkError Unit) where
  progs i := (write texts serialise blake3 sink (receipt i)).run
  state := { state := { requestId := first, takenBy := [] }, journal := fun _ => [] }

/-- The request of a write is in flight, or has been answered. -/
def Submits (transcript : List (Exchange DpopRpc.io))
    (left : Prog DpopRpc.io (Except SinkError Unit)) (request : DpopRpc.Request) : Prop :=
  (∃ next, left = .call (.send request) next) ∨ .send request ∈ DpopRpc.commands transcript

/-- The log has one entry for each of the members, which are the writes whose request has arrived;
the writes that report success are among them. -/
structure LoggedOnce (serialise : Receipt → Except String Bytes) (blake3 : Bytes → Octets 32)
    (sink : TenzroReceiptSink ed25519 sha256) (receipt : ι → Receipt)
    (pool : Pool DpopRpc.io ι (Journaled DpopRpc.io ι (DpopRpc.Counter ι))
      (Except SinkError Unit))
    (accepts : DpopRpc.Request → Bool) (served : String) (arrivals : List DpopRpc.Request)
    (members : List ι) : Prop where
  once : members.Nodup
  entries : List.Forall₂ (fun i digest => ∃ canon, serialise (receipt i) = .ok canon ∧
    digest = blake3 canon) members (logOf accepts served arrivals)
  arrived : ∀ i, i ∈ members ↔ ∃ request ∈ arrivals,
    DpopRpc.Addressed sink.rpc "tenzro_signMessage" (parameters serialise blake3 (receipt i))
      (pool.state.journal i) served request
  acknowledged : ∀ i, pool.progs i = .ret (.ok ()) → i ∈ members

/-! ## What a write has done -/

/-- What a write makes of the result of its call. -/
def written : Except TenzroEdgeError SignMessageResult → Except SinkError Unit
  | .ok _ => .ok ()
  | .error error => .error (.transient ("tenzro_signMessage: " ++ error.display))

variable {texts : ErrorTexts} {serialise : Receipt → Except String Bytes}
  {blake3 : Bytes → Octets 32} {sink : TenzroReceiptSink ed25519 sha256} {receipt : Receipt}
  {transcript : List (Exchange DpopRpc.io)} {left : Prog DpopRpc.io (Except SinkError Unit)}
  {request : DpopRpc.Request}

theorem parameters_of_serialised {canon : Bytes} (serialised : serialise receipt = .ok canon) :
    parameters serialise blake3 receipt = messageParams (hexEncode (blake3 canon).bytes) := by
  rw [parameters, serialised]

theorem write_eq_call {canon : Bytes} (serialised : serialise receipt = .ok canon) :
    (write texts serialise blake3 sink receipt).run =
      (sink.rpc.call (signMessageDecoding texts) "tenzro_signMessage"
        (parameters serialise blake3 receipt)).run >>= fun result => .ret (written result) := by
  rw [write_of_serialised serialised, parameters_of_serialised serialised]
  congr 1
  funext result
  cases result with
  | ok signed => rfl
  | error error => rfl

/-- A write has done nothing for want of a canonical form, or has come as far as its call. -/
inductive Writing (texts : ErrorTexts) (serialise : Receipt → Except String Bytes)
    (blake3 : Bytes → Octets 32) (sink : TenzroReceiptSink ed25519 sha256) (receipt : Receipt) :
    List (Exchange DpopRpc.io) → Prog DpopRpc.io (Except SinkError Unit) → Prop where
  | rejected (message : String) :
      Writing texts serialise blake3 sink receipt [] (.ret (.error (.rejected message)))
  | calling {canon : Bytes} {transcript : List (Exchange DpopRpc.io)}
      {rest : Prog DpopRpc.io (Except TenzroEdgeError SignMessageResult)}
      (serialised : serialise receipt = .ok canon)
      (progress : DpopRpc.Progress (signMessageDecoding texts) sink.rpc "tenzro_signMessage"
        (parameters serialise blake3 receipt) transcript rest) :
      Writing texts serialise blake3 sink receipt transcript
        (rest >>= fun result => .ret (written result))

theorem writing_of_leaves
    (leaves : (write texts serialise blake3 sink receipt).run.Leaves transcript left) :
    Writing texts serialise blake3 sink receipt transcript left := by
  cases serialised : serialise receipt with
  | error error =>
      rw [write_of_unserialisable serialised] at leaves
      rcases Leaves.ret_iff.mp leaves with ⟨rfl, rfl⟩
      exact .rejected _
  | ok canon =>
      rw [write_eq_call serialised] at leaves
      rcases leaves.of_bind_ret with ⟨rest, called, rfl⟩
      exact .calling serialised (DpopRpc.progress_of_leaves called)

theorem Writing.own (writing : Writing texts serialise blake3 sink receipt transcript left)
    (submits : Submits transcript left request) :
    DpopRpc.Own sink.rpc "tenzro_signMessage" (parameters serialise blake3 receipt) transcript
      request := by
  cases writing with
  | rejected message =>
      rcases submits with ⟨next, pending⟩ | sent
      · cases pending
      · cases sent
  | @calling canon transcript rest serialised progress =>
      apply progress.own
      rcases submits with ⟨next, pending⟩ | sent
      · cases rest with
        | ret result => cases pending
        | call cmd more =>
            cases pending
            exact .inl ⟨more, rfl⟩
      · exact .inr sent

/-- A write that has read what it needs for its request has a canonical form. -/
theorem Writing.serialised (writing : Writing texts serialise blake3 sink receipt transcript left)
    {htu : Option String} {nonce : Octets 16}
    (read : DpopRpc.Read sink.rpc "tenzro_signMessage" (parameters serialise blake3 receipt)
      transcript request htu nonce) :
    ∃ canon, serialise receipt = .ok canon ∧
      submittedDigest request = some (blake3 canon) := by
  cases writing with
  | rejected message => cases read.drawn
  | @calling canon transcript rest serialised progress =>
      refine ⟨canon, serialised, ?_⟩
      rcases read.minted with ⟨id, clock, proof, -, -, rfl⟩
      rw [parameters_of_serialised serialised]
      exact submittedDigest_requestOf sink.rpc (blake3 canon) id proof

theorem Writing.acknowledged
    (writing : Writing texts serialise blake3 sink receipt transcript (.ret (.ok ()))) :
    ∃ request response, (⟨.send request, .ok response⟩ : Exchange DpopRpc.io) ∈ transcript ∧
      Acknowledges response ∧
      DpopRpc.Own sink.rpc "tenzro_signMessage" (parameters serialise blake3 receipt) transcript
        request := by
  generalize finished : (Prog.ret (.ok ()) : Prog DpopRpc.io (Except SinkError Unit)) = left
    at writing
  cases writing with
  | rejected message => cases finished
  | @calling canon transcript rest serialised progress =>
      cases rest with
      | call cmd next => cases finished
      | ret result =>
          cases result with
          | error error => cases finished
          | ok signed =>
              rcases progress.returned_iff.mp rfl with
                ⟨before, request, response, split, own, carries⟩
              refine ⟨request, response, ?_, acknowledges_of_carries carries, own⟩
              rw [split]
              exact List.mem_append_right _ (List.mem_singleton_self _)

end

/-! ## Interleaved writes -/

section

variable {ed25519 : Auth.Ed25519} {sha256 : Bytes → Octets 32} {Receipt ι : Type} [DecidableEq ι]
  {texts : ErrorTexts} {serialise : Receipt → Except String Bytes} {blake3 : Bytes → Octets 32}
  {sink : TenzroReceiptSink ed25519 sha256} {receipt : ι → Receipt} {first : UInt64}
  {pool : Pool DpopRpc.io ι (Journaled DpopRpc.io ι (DpopRpc.Counter ι)) (Except SinkError Unit)}
  {accepts : DpopRpc.Request → Bool} {jktOf : String → Option String} {served : String}

theorem writing_of_reachable (reached : Pool.Reachable (journaling DpopRpc.serveShared)
      (writes texts serialise blake3 sink receipt first) pool) (i : ι) :
    Writing texts serialise blake3 sink (receipt i) (pool.state.journal i) (pool.progs i) :=
  writing_of_leaves (reached.leaves (fun _ => rfl) i)

/-- However the writes interleave and the network orders and repeats their requests, the log has one
entry for each write whose request has arrived, and a write that reports success is in it. -/
theorem receipts_logged_once (guarded : DpopRpc.Guarded jktOf accepts sink.rpc)
    (reached : Pool.Reachable (journaling DpopRpc.serveShared)
      (writes texts serialise blake3 sink receipt first) pool)
    (fresh : DpopRpc.FreshNonces pool.state) (served : String) (arrivals : List DpopRpc.Request)
    (sent : ∀ request ∈ arrivals, ∃ i,
      Submits (pool.state.journal i) (pool.progs i) request)
    (honest : AcknowledgesExecuted pool.state.journal
      (DpopRpc.executed accepts served arrivals)) :
    ∃ members, LoggedOnce serialise blake3 sink receipt pool accepts served arrivals members := by
  have executedOnce : DpopRpc.ExecutedOnce accepts served sink.rpc
      (fun _ => "tenzro_signMessage") (fun i => parameters serialise blake3 (receipt i))
      pool.state.journal arrivals := by
    apply DpopRpc.executedOnce_of_own guarded fresh
    intro request arrived
    rcases sent request arrived with ⟨i, submits⟩
    exact ⟨i, (writing_of_reachable reached i).own submits⟩
  let Owns (i : ι) (request : DpopRpc.Request) : Prop :=
    DpopRpc.Addressed sink.rpc "tenzro_signMessage" (parameters serialise blake3 (receipt i))
      (pool.state.journal i) served request
  have owners : ∃ members : List ι, members.Nodup ∧
      List.Forall₂ Owns members (DpopRpc.executed accepts served arrivals) ∧
      ∀ i, i ∈ members ↔
        ∃ request ∈ DpopRpc.executed accepts served arrivals, Owns i request := by
    apply exists_owners executedOnce.once
    · intro request mem
      rcases (executedOnce.addressed request).mp mem with ⟨arrived, i, owns⟩
      refine ⟨i, owns, ?_⟩
      intro j again
      exact (executedOnce.own request arrived).unique again.own owns.own
    · rintro i request other ⟨htu, nonce, read, -⟩ ⟨otherHtu, otherNonce, again, -⟩
      exact (read.unique again).1
  rcases owners with ⟨members, once, listed, exactly⟩
  have arrived : ∀ i, i ∈ members ↔ ∃ request ∈ arrivals, Owns i request := by
    intro i
    rw [exactly i]
    constructor
    · rintro ⟨request, mem, owns⟩
      exact ⟨request, ((executedOnce.addressed request).mp mem).1, owns⟩
    · rintro ⟨request, mem, owns⟩
      exact ⟨request, (executedOnce.addressed request).mpr ⟨mem, i, owns⟩, owns⟩
  refine ⟨members, once, ?_, arrived, ?_⟩
  · have entries : ∀ {i request}, Owns i request → Option.Rel (fun i digest =>
        ∃ canon, serialise (receipt i) = .ok canon ∧ digest = blake3 canon) (some i)
          (submittedDigest request) := by
      rintro i request ⟨htu, nonce, read, -⟩
      rcases (writing_of_reachable reached i).serialised read with ⟨canon, serialised, submitted⟩
      rw [submitted]
      exact .some ⟨canon, serialised, rfl⟩
    have translated := List.rel_filterMap @entries listed
    rwa [List.filterMap_some] at translated
  · intro i succeeded
    have writing := writing_of_reachable reached i
    rw [succeeded] at writing
    rcases writing.acknowledged with ⟨request, response, answered, acknowledges, own⟩
    have executed := honest i request response answered acknowledges
    rcases (executedOnce.addressed request).mp executed with ⟨mem, j, owns⟩
    rw [(executedOnce.own request mem).unique own owns.own]
    exact (exactly j).mpr ⟨request, executed, owns⟩

end

/-- The second of two writes is acknowledged, and the reply to the first is lost. -/
def momentOf42 (second : Bool) : DpopRpc.Moment where
  htu := none
  clock := Auth.clockOf42
  nonce := DpopRpc.nonceOf second
  answer := if second then .ok signedReply else .error "connection reset"

def writesAfterFive :
    Pool DpopRpc.io Bool (Journaled DpopRpc.io Bool (DpopRpc.Counter Bool))
      (Except SinkError Unit) :=
  (writes noTexts serialiseObject (fun _ => digestOfEmptyObject) sinkOf42
    (fun _ => Json.object []) 1).schedule (journaling DpopRpc.serveShared)
      (List.replicate 5 [(momentOf42 false, false), (momentOf42 true, true)]).flatten

/-- What one of the two writes has submitted. -/
def submitted (second : Bool) : List DpopRpc.Request :=
  (DpopRpc.commands (writesAfterFive.state.journal second)).filterMap fun
    | .send request => some request
    | _ => none

theorem mem_submitted_iff {second : Bool} {request : DpopRpc.Request} :
    request ∈ submitted second ↔
      .send request ∈ DpopRpc.commands (writesAfterFive.state.journal second) := by
  rw [submitted, List.mem_filterMap]
  constructor
  · rintro ⟨cmd, sent, found⟩
    cases cmd with
    | send own =>
        cases found
        exact sent
    | _ => cases found
  · exact fun sent => ⟨.send request, sent, rfl⟩

theorem journal_writesAfterFive (second : Bool) :
    ∃ request, writesAfterFive.state.journal second =
      DpopRpc.readings (if second then 2 else 1) none Auth.clockOf42 (DpopRpc.nonceOf second) ++
        [⟨.send request, (momentOf42 second).answer⟩] := by
  cases second with
  | false => exact ⟨_, rfl⟩
  | true => exact ⟨_, rfl⟩

theorem freshNonces_writesAfterFive : DpopRpc.FreshNonces writesAfterFive.state := by
  apply DpopRpc.freshNonces_of_nonceOf
  intro second nonce drawn
  rcases journal_writesAfterFive second with ⟨request, exchanged⟩
  rw [exchanged] at drawn
  rcases List.mem_append.mp drawn with read | sent
  · exact DpopRpc.nonce_of_mem_readings read
  · cases List.mem_singleton.mp sent

theorem reachable_writesAfterFive : Pool.Reachable (journaling DpopRpc.serveShared)
    (writes noTexts serialiseObject (fun _ => digestOfEmptyObject) sinkOf42
      (fun _ => Json.object []) 1) writesAfterFive :=
  Pool.reachable_schedule _ _

theorem addressed_of_mem_submitted {second : Bool} {request : DpopRpc.Request}
    (mem : request ∈ submitted second) :
    DpopRpc.Addressed sinkOf42.rpc "tenzro_signMessage"
      (parameters serialiseObject (fun _ => digestOfEmptyObject) (Json.object []))
      (writesAfterFive.state.journal second) "https://rpc.tenzro.network" request := by
  have own := (writing_of_reachable reachable_writesAfterFive second).own
    (.inr (mem_submitted_iff.mp mem))
  rcases own.read with ⟨htu, nonce, read⟩
  have unset : htu = none := by
    rcases read.minted with ⟨id, clock, proof, readBefore, -, -⟩
    rcases journal_writesAfterFive second with ⟨sent, exchanged⟩
    rw [exchanged] at readBefore
    have same := (List.prefix_of_prefix_length_le readBefore (List.prefix_append _ _)
      (Nat.le_refl _)).eq_of_length rfl
    cases same
    rfl
  subst unset
  exact ⟨none, nonce, read, by decide⟩

/-- The second request overtakes the first, and is repeated behind it. -/
def submissions : List DpopRpc.Request := submitted true ++ submitted false ++ submitted true

theorem mem_submissions_iff {request : DpopRpc.Request} :
    request ∈ submissions ↔ ∃ second, request ∈ submitted second := by
  rw [submissions, List.mem_append, List.mem_append]
  constructor
  · rintro ((later | first) | again)
    · exact ⟨true, later⟩
    · exact ⟨false, first⟩
    · exact ⟨true, again⟩
  · rintro ⟨second, mem⟩
    cases second with
    | false => exact .inl (.inr mem)
    | true => exact .inr mem

theorem executedOnce_submissions : DpopRpc.ExecutedOnce DpopRpc.acceptsOf42
    "https://rpc.tenzro.network" sinkOf42.rpc (fun _ => "tenzro_signMessage")
    (fun _ => parameters serialiseObject (fun _ => digestOfEmptyObject) (Json.object []))
    writesAfterFive.state.journal submissions := by
  apply DpopRpc.executedOnce_of_own DpopRpc.guarded_clientOf42 freshNonces_writesAfterFive
  intro request arrived
  rcases mem_submissions_iff.mp arrived with ⟨second, mem⟩
  exact ⟨second, (addressed_of_mem_submitted mem).own⟩

theorem acknowledgesExecuted_writesAfterFive :
    AcknowledgesExecuted writesAfterFive.state.journal
      (DpopRpc.executed DpopRpc.acceptsOf42 "https://rpc.tenzro.network" submissions) := by
  intro second request response answered acknowledges
  have mem : request ∈ submitted second := mem_submitted_iff.mpr (List.mem_map_of_mem answered)
  exact (executedOnce_submissions.addressed request).mpr
    ⟨mem_submissions_iff.mpr ⟨second, mem⟩, second, addressed_of_mem_submitted mem⟩

/-- Both receipts are in the log, though the server has acknowledged only one of them. -/
theorem receipts_logged_once_lostReply :
    writesAfterFive.progs true = .ret (.ok ()) ∧
      (∃ message, writesAfterFive.progs false = .ret (.error (.transient message))) ∧
      ∃ members, LoggedOnce serialiseObject (fun _ => digestOfEmptyObject) sinkOf42
        (fun _ => Json.object []) writesAfterFive DpopRpc.acceptsOf42 "https://rpc.tenzro.network"
        submissions members := by
  refine ⟨rfl, ⟨_, rfl⟩, ?_⟩
  apply receipts_logged_once DpopRpc.guarded_clientOf42 reachable_writesAfterFive
    freshNonces_writesAfterFive _ _ ?_ acknowledgesExecuted_writesAfterFive
  intro request arrived
  rcases mem_submissions_iff.mp arrived with ⟨second, mem⟩
  exact ⟨second, .inr (mem_submitted_iff.mp mem)⟩

end TenzroEdge.ReceiptSink
