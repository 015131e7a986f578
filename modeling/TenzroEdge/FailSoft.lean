import TenzroEdge.Agents.Invoker
import TenzroEdge.Agents.Registry
import TenzroEdge.Attester.Attest
import TenzroEdge.Broker.Offer
import TenzroEdge.Discovery.Poll
import TenzroEdge.Inference.Remote
import TenzroEdge.Interaction.Stops
import TenzroEdge.ModelSource.Fetch
import TenzroEdge.Outage
import TenzroEdge.ReceiptSink.Sink
import TenzroEdge.Storage.Lifetime
import TenzroEdge.WorkSettlement.Gateway

/-!
# The fail-soft posture

Each trait has soft errors, which stand for an unreachable Tenzro. At whatever command of an
operation an outage strikes, it ends the operation there, with a soft error that carries the text
of the outage, and no operation ends with a soft error unless there was an outage.

Most traits have one constructor for soft errors. The broker has two, one of which is for timeouts
alone. A sink reports whatever goes wrong with its call as transient, so that its soft errors are
those whose text is that of the transport.
-/

namespace TenzroEdge

open Codec Interaction Interaction.Prog

section

variable {I : Interface} {α ε : Type} {fault : (cmd : I.Cmd) → I.Reply cmd → Option Outage}

theorem stopsAt_sdk {cmd : I.Cmd} (read : I.Reply cmd → Except SdkError α)
    (faults : ∀ reply, fault cmd reply = Outage.ofReply (read reply)) :
    (Prog.call cmd fun reply => .ret (read reply)).StopsAt fault
      (fun outage => .ret (.error outage.error)) fun result => Outage.ofReply result = none := by
  intro reply
  rw [faults reply]
  constructor
  · intro outage isOutage
    cases answered : read reply with
    | error error =>
        rw [answered] at isOutage
        change Prog.ret (read reply) = .ret (.error outage.error)
        rw [answered, Outage.error_of_eq_some isOutage]
    | ok value =>
        rw [answered] at isOutage
        cases isOutage
  · exact fun noOutage => noOutage

/-- A translation of the errors of the SDK that makes soft errors of the outages, and of no
others. -/
structure Softens (translate : SdkError → ε) (softly : Outage → ε) (Soft : ε → Prop) : Prop where
  outage : ∀ outage : Outage, translate outage.error = softly outage
  hard : ∀ error, Outage.of error = none → ¬ Soft (translate error)

/-- The soft error that a constructor makes of an outage. -/
def softlyBy (soft : String → ε) (outage : Outage) : ε := soft outage.message

def SoftBy (soft : String → ε) (error : ε) : Prop := ∃ message, error = soft message

theorem not_softBy {soft : String → ε} {error : ε} (other : ∀ message, error ≠ soft message) :
    ¬ SoftBy soft error := by
  rintro ⟨message, same⟩
  exact other message same

/-- A translation that uses a constructor for the outages, and for no other error. -/
theorem Softens.of_constructor {translate : SdkError → ε} {soft : String → ε}
    (outage : ∀ outage : Outage, translate outage.error = soft outage.message)
    (other : ∀ error, Outage.of error = none → ∀ message, translate error ≠ soft message) :
    Softens translate (softlyBy soft) (SoftBy soft) where
  outage := outage
  hard error noOutage := not_softBy (other error noOutage)

/-- A request to the SDK, behind the translation of its errors. -/
theorem Softens.request {translate : SdkError → ε} {softly : Outage → ε} {Soft : ε → Prop}
    (softens : Softens translate softly Soft) (cmd : I.Cmd)
    (read : I.Reply cmd → Except SdkError α)
    (faults : ∀ reply, fault cmd reply = Outage.ofReply (read reply)) :
    FailsSoft fault softly Soft
      (orFail translate (Prog.call cmd fun reply => .ret (read reply))) :=
  .orFail (stopsAt_sdk read faults) softens.outage softens.hard

end

namespace Attester

def outage? : (cmd : crypto.Cmd) → crypto.Reply cmd → Option Outage
  | .signMessage _ _, reply => Outage.ofReply reply
  | .verifySignature _ _ _, reply => Outage.ofReply reply

def softly : Outage → AttesterError := softlyBy .transient

def Soft : AttesterError → Prop := SoftBy .transient

variable {debug : SdkError → String}

theorem softens_mapSdk : Softens (mapSdk debug) softly Soft := by
  apply Softens.of_constructor
  · exact fun outage => by cases outage <;> rfl
  · exact fun error noOutage message => by cases error <;> simp_all [mapSdk, Outage.of]

theorem failsSoft_signDigest (attester : TenzroAttester) (digest : Octets 32) :
    FailsSoft outage? softly Soft (attester.signDigest debug digest) := by
  apply FailsSoft.bind
  · exact softens_mapSdk.request (I := crypto) (.signMessage attester.privateKeyHex digest)
      (fun reply => reply) fun _ => rfl
  · exact fun _ => .pure _

theorem failsSoft_signReceipt {Receipt : Type} (attester : TenzroAttester)
    (serialise : Receipt → Except String Bytes) (blake3 : Bytes → Octets 32) (receipt : Receipt) :
    FailsSoft outage? softly Soft (attester.signReceipt debug serialise blake3 receipt) := by
  apply FailsSoft.bind
  · apply FailsSoft.result
    intro error failed
    cases serialised : serialise receipt with
    | error message =>
        rw [serialised] at failed
        cases failed
        exact not_softBy nofun
    | ok canon =>
        rw [serialised] at failed
        cases failed
  · exact fun canon => failsSoft_signDigest attester (blake3 canon)

theorem failsSoft_verify (decodeError : Bytes → String) (attester : TenzroAttester)
    (att : Attestation) :
    FailsSoft outage? softly Soft (attester.verify debug decodeError att) := by
  have hard : ∀ message, ¬ Soft (.failed message) := by
    exact fun _ => not_softBy nofun
  by_cases kind : att.kind = "tenzro"
  · rw [TenzroAttester.verify, if_neg (not_not.mpr kind)]
    cases decodes : TenzroProof.fromSlice att.proof with
    | none => exact .throw (hard _)
    | some proof =>
        apply FailsSoft.bind
        · exact softens_mapSdk.request (I := crypto)
            (.verifySignature proof.publicKey att.digest proof.signature)
            (fun reply => reply) fun _ => rfl
        · intro result
          split
          · exact .pure ()
          · apply FailsSoft.throw
            exact not_softBy nofun
  · rw [TenzroAttester.verify, if_pos kind]
    intro error failed
    cases failed
    exact hard _

end Attester

namespace ReceiptSink

def outage? : (cmd : DpopRpc.io.Cmd) → DpopRpc.io.Reply cmd → Option Outage
  | .takeId, _ => none
  | .readHtu, _ => none
  | .now, _ => none
  | .draw, _ => none
  | .send _, reply =>
      match (reply : Except String DpopRpc.Response) with
      | .error message => some (.connection message)
      | .ok _ => none

def softly (outage : Outage) : SinkError :=
  .transient ("tenzro_signMessage: tenzro sdk: rpc transport: " ++ outage.message)

/-- The errors of the transport; what else goes wrong with a call is transient as well. -/
def Soft (error : SinkError) : Prop :=
  ∃ message, error = .transient ("tenzro_signMessage: tenzro sdk: rpc transport: " ++ message)

def rpcSoftly (outage : Outage) : TenzroEdgeError := .sdk ("rpc transport: " ++ outage.message)

def RpcSoft (error : TenzroEdgeError) : Prop :=
  ∃ message, error = .sdk ("rpc transport: " ++ message)

theorem not_rpcSoft {text : String} (differs : text.toList[4]? ≠ some 't') :
    ¬ RpcSoft (.sdk text) := by
  rintro ⟨message, soft⟩
  have same : text = "rpc transport: " ++ message := TenzroEdgeError.sdk.inj soft
  rw [same, String.toList_append] at differs
  exact differs rfl

theorem not_rpcSoft_decodeResponse {α : Type} {decoding : DpopRpc.Decoding α}
    {response : DpopRpc.Response} {error : TenzroEdgeError}
    (failed : DpopRpc.decodeResponse decoding response = .error error) : ¬ RpcSoft error := by
  cases read : response.body with
  | error unread =>
      simp only [DpopRpc.decodeResponse, read] at failed
      cases failed
      exact not_rpcSoft (by simp [String.toList_append])
  | ok octets =>
      simp only [DpopRpc.decodeResponse, read, Except.mapError, Bind.bind, Except.bind] at failed
      split at failed
      · cases failed
        exact not_rpcSoft (by simp [String.toList_append])
      split at failed
      · cases failed
        exact not_rpcSoft (by simp [String.toList_append])
      split at failed
      · cases failed
        exact not_rpcSoft (by simp [String.toList_append])
      split at failed
      · cases failed
        exact not_rpcSoft (by simp)
      split at failed
      · cases failed
        exact not_rpcSoft (by simp [String.toList_append])
      · cases failed

variable {ed25519 : Auth.Ed25519} {sha256 : Bytes → Octets 32}

theorem stopsAt_send (request : DpopRpc.Request) :
    (DpopRpc.send request).StopsAt outage?
      (fun outage => .ret (.error outage.message)) fun reply => ∀ error, reply ≠ .error error := by
  intro reply
  cases (reply : Except String DpopRpc.Response) with
  | error message =>
      constructor
      · intro outage isOutage
        cases isOutage
        rfl
      · exact fun noOutage => nomatch noOutage
  | ok response =>
      constructor
      · exact fun _ isOutage => nomatch isOutage
      · exact fun _ error failed => nomatch failed

theorem failsSoft_mint (rpc : DpopRpc ed25519 sha256) (htm htu : String) :
    FailsSoft outage? rpcSoftly RpcSoft (rpc.mint htm htu) := by
  apply FailsSoft.bind
  · exact .lift (Issues.request (I := DpopRpc.io) fun _ => rfl)
  intro clock
  apply FailsSoft.bind
  · apply FailsSoft.result
    intro error unissued
    unfold Auth.issuedAt at unissued
    cases read : clock.sinceEpoch with
    | error message =>
        rw [read] at unissued
        cases unissued
        rintro ⟨_, soft⟩
        cases soft
    | ok iat =>
        rw [read] at unissued
        cases unissued
  intro iat
  apply FailsSoft.bind
  · exact .lift (Issues.request (I := DpopRpc.io) fun _ => rfl)
  · exact fun _ => .pure _

theorem failsSoft_call {α : Type} (decoding : DpopRpc.Decoding α) (rpc : DpopRpc ed25519 sha256)
    (method : String) (params : Json) :
    FailsSoft outage? rpcSoftly RpcSoft (rpc.call decoding method params) := by
  apply FailsSoft.bind
  · exact .lift (Issues.request (I := DpopRpc.io) fun _ => rfl)
  intro id
  apply FailsSoft.bind
  · exact .lift (Issues.request (I := DpopRpc.io) fun _ => rfl)
  intro htu
  apply FailsSoft.bind
  · exact failsSoft_mint rpc _ _
  intro proof
  apply FailsSoft.bind
  · apply FailsSoft.orFail (stopsAt_send _)
    · exact fun _ => rfl
    · exact fun error sent => absurd rfl (sent error)
  · intro response
    apply FailsSoft.result
    exact fun error => not_rpcSoft_decodeResponse

theorem transport_text (message : String) :
    "tenzro_signMessage: tenzro sdk: rpc transport: " ++ message =
      "tenzro_signMessage: " ++ ("tenzro sdk: " ++ ("rpc transport: " ++ message)) := by
  rw [← String.append_assoc, ← String.append_assoc]
  rfl

theorem rpcSoft_of_soft {error : TenzroEdgeError}
    (soft : Soft (.transient ("tenzro_signMessage: " ++ error.display))) : RpcSoft error := by
  rcases soft with ⟨message, same⟩
  rw [transport_text] at same
  have shown : error.display = "tenzro sdk: " ++ ("rpc transport: " ++ message) :=
    (String.append_right_inj _).mp (SinkError.transient.inj same)
  have first : error.display.toList[0]? = some 't' := by
    rw [shown, String.toList_append]
    rfl
  cases error with
  | sdk text =>
      have shown : "tenzro sdk: " ++ text = "tenzro sdk: " ++ ("rpc transport: " ++ message) :=
        shown
      exact ⟨message, congrArg TenzroEdgeError.sdk ((String.append_right_inj _).mp shown)⟩
  | store text =>
      change ("local store: " ++ text).toList[0]? = some 't' at first
      simp [String.toList_append] at first
  | config text =>
      change ("config: " ++ text).toList[0]? = some 't' at first
      simp [String.toList_append] at first
  | notYetSupported surface =>
      change ("not yet supported by tenzro-sdk: " ++ surface).toList[0]? = some 't' at first
      simp [String.toList_append] at first

theorem failsSoft_write {Receipt : Type} (texts : ErrorTexts)
    (serialise : Receipt → Except String Bytes) (blake3 : Bytes → Octets 32)
    (sink : TenzroReceiptSink ed25519 sha256) (receipt : Receipt) :
    FailsSoft outage? softly Soft (write texts serialise blake3 sink receipt) := by
  apply FailsSoft.bind
  · apply FailsSoft.result
    intro error failed
    cases serialised : serialise receipt with
    | error message =>
        rw [serialised] at failed
        cases failed
        rintro ⟨_, soft⟩
        cases soft
    | ok canon =>
        rw [serialised] at failed
        cases failed
  intro canon
  apply FailsSoft.bind
  · apply FailsSoft.orFail (failsSoft_call _ sink.rpc _ _)
    · intro outage
      change SinkError.transient ("tenzro_signMessage: " ++ ("tenzro sdk: " ++
        ("rpc transport: " ++ outage.message))) = _
      rw [← transport_text, softly]
    · exact fun error hard soft => hard error rfl (rpcSoft_of_soft soft)
  · exact fun _ => .pure ()

end ReceiptSink

namespace Inference

variable {Limit Tensor : Type} {debug : SdkError → String}

def outage? (_ : (inference Limit).Cmd) (reply : Except SdkError InferenceResult) : Option Outage :=
  Outage.ofReply reply

def softly : Outage → RemoteInferenceError := softlyBy .transient

def Soft : RemoteInferenceError → Prop := SoftBy .transient

theorem softens_mapSdk : Softens (mapSdk debug) softly Soft := by
  apply Softens.of_constructor
  · exact fun outage => by cases outage <;> rfl
  · exact fun error noOutage message => by cases error <;> simp_all [mapSdk, Outage.of]

theorem failsSoft_infer (provider : TenzroRemoteInference) (request : InferRequest Limit Tensor) :
    FailsSoft outage? softly Soft (infer debug provider request) := by
  cases request with
  | textCompletion prompt maxTokens =>
      apply FailsSoft.bind
      · exact softens_mapSdk.request (I := inference Limit)
          ⟨provider.defaultModelId, prompt, maxTokens⟩ (fun reply => reply) fun _ => rfl
      · exact fun _ => .pure _
  | tensor input =>
      apply FailsSoft.throw
      exact not_softBy nofun

end Inference

namespace ModelSource

variable {debug : SdkError → String}

def outage? : (cmd : io.Cmd) → io.Reply cmd → Option Outage
  | .resolve _, reply => Outage.ofReply reply
  | .createDirAll _, _ => none
  | .create _, _ => none
  | .writeByte _ _ _, _ => none

def softly : Outage → ModelSourceError := softlyBy .transient

def Soft : ModelSourceError → Prop := SoftBy .transient

theorem softens_mapSdk : Softens (mapSdk debug) softly Soft := by
  apply Softens.of_constructor
  · exact fun outage => by cases outage <;> rfl
  · exact fun error noOutage message => by cases error <;> simp_all [mapSdk, Outage.of]

theorem issues_writeAll (path : String) (offset : ℕ) (bytes : Bytes) :
    (writeAll path offset bytes).Issues fun cmd => ∀ reply, outage? cmd reply = none := by
  induction bytes generalizing offset with
  | nil => exact trivial
  | cons byte rest ih =>
      apply (Issues.request (I := io) fun _ => rfl).bind
      intro result
      cases result with
      | error error => exact trivial
      | ok _ => exact ih (offset + 1)

theorem issues_write (path : String) (bytes : Bytes) :
    (write path bytes).Issues fun cmd => ∀ reply, outage? cmd reply = none := by
  apply (Issues.request (I := io) fun _ => rfl).bind
  intro result
  cases result with
  | error error => exact trivial
  | ok _ => exact issues_writeAll path 0 bytes

theorem failsSoft_fetch (blake3 : Bytes → Octets 32) (source : TenzroModelSource) (uri : String) :
    FailsSoft outage? softly Soft (fetch debug blake3 source uri) := by
  have hard : ∀ message, ¬ Soft (.other message) := by
    exact fun _ => not_softBy nofun
  unfold fetch
  split
  · apply FailsSoft.throw
    exact not_softBy nofun
  · apply FailsSoft.bind
    · exact softens_mapSdk.request (I := io) (.resolve uri) (fun reply => reply) fun _ => rfl
    intro bytes
    apply FailsSoft.bind
    · exact .orFail_of_issues (Issues.request (I := io) fun _ => rfl) fun _ => hard _
    intro _
    apply FailsSoft.bind
    · exact .orFail_of_issues (issues_write _ bytes) fun _ => hard _
    · exact fun _ => .pure _

end ModelSource

namespace Storage

variable {debug : SdkError → String}

def outage? : (cmd : iroh.Cmd) → iroh.Reply cmd → Option Outage
  | .publishBlob _, reply => Outage.ofReply reply
  | .fetchBlob _, reply => Outage.ofReply reply

def softly : Outage → StorageError := softlyBy .transient

def Soft : StorageError → Prop := SoftBy .transient

theorem softens_mapSdk : Softens (mapSdk debug) softly Soft := by
  apply Softens.of_constructor
  · exact fun outage => by cases outage <;> rfl
  · exact fun error noOutage message => by cases error <;> simp_all [mapSdk, Outage.of]

theorem not_soft_failed (message : String) : ¬ Soft (.failed message) := by
  exact not_softBy nofun

theorem failsSoft_put (stream : ByteStream) : FailsSoft outage? softly Soft (put debug stream) := by
  apply FailsSoft.bind
  · apply FailsSoft.result
    intro error failed
    rcases exists_chunks_or_error stream with ⟨chunks, rfl⟩ | ⟨_, broken⟩
    · rw [collect_chunks] at failed
      cases failed
    · rcases collect_of_error [] broken with ⟨first, collected⟩
      rw [collected] at failed
      cases failed
      exact not_soft_failed _
  intro buf
  apply FailsSoft.bind
  · exact softens_mapSdk.request (I := iroh) (.publishBlob buf) (fun reply => reply) fun _ => rfl
  intro result
  split
  · exact .throw (not_soft_failed _)
  · exact .pure _

theorem failsSoft_get (key : BlobKey) : FailsSoft outage? softly Soft (get debug key) := by
  apply FailsSoft.bind
  · exact softens_mapSdk.request (I := iroh) (.fetchBlob key.uri) (fun reply => reply) fun _ => rfl
  · exact fun _ => .pure _

theorem failsSoft_head (blake3 : Bytes → Octets 32) (key : BlobKey) :
    FailsSoft outage? softly Soft (head debug blake3 key) := by
  apply FailsSoft.bind
  · exact softens_mapSdk.request (I := iroh) (.fetchBlob key.uri) (fun reply => reply) fun _ => rfl
  · exact fun _ => .pure _

end Storage

namespace Agents

variable {debug : SdkError → String}

namespace Registry

def outage? : (cmd : registry.Cmd) → registry.Reply cmd → Option Outage
  | .listAgents, reply => Outage.ofReply reply
  | .search _, reply => Outage.ofReply reply
  | .resolve _, reply => Outage.ofReply reply

def softly : Outage → AgentRegistryError := softlyBy .transient

def Soft : AgentRegistryError → Prop := SoftBy .transient

theorem softens_mapSdk : Softens (mapSdk debug) softly Soft := by
  apply Softens.of_constructor
  · exact fun outage => by cases outage <;> rfl
  · exact fun error noOutage message => by cases error <;> simp_all [mapSdk, Outage.of]

theorem failsSoft_list : FailsSoft outage? softly Soft (list debug) := by
  apply FailsSoft.bind
  · exact softens_mapSdk.request (I := registry) .listAgents (fun reply => reply) fun _ => rfl
  · exact fun _ => .pure _

theorem failsSoft_search (query : String) :
    FailsSoft outage? softly Soft (search debug query) := by
  apply FailsSoft.bind
  · exact softens_mapSdk.request (I := registry) (.search query) (fun reply => reply) fun _ => rfl
  · exact fun _ => .pure _

theorem failsSoft_resolve (did : AgentDid) :
    FailsSoft outage? softly Soft (resolve debug did) := by
  apply FailsSoft.bind
  · exact softens_mapSdk.request (I := registry) (.resolve did.did) (fun reply => reply)
      fun _ => rfl
  · exact fun _ => .pure _

end Registry

namespace Invoker

def outage? (_ : messaging.Cmd) (reply : Except SdkError AgentMessageResponse) : Option Outage :=
  Outage.ofReply reply

def softly : Outage → AgentInvokerError := softlyBy .transient

def Soft : AgentInvokerError → Prop := SoftBy .transient

theorem softens_mapSdk : Softens (mapSdk debug) softly Soft := by
  apply Softens.of_constructor
  · exact fun outage => by cases outage <;> rfl
  · exact fun error noOutage message => by cases error <;> simp_all [mapSdk, Outage.of]

theorem failsSoft_invoke (call : AgentCall) :
    FailsSoft outage? softly Soft (invoke debug call) := by
  apply FailsSoft.bind
  · exact softens_mapSdk.request (I := messaging) (messageOf call) (fun reply => reply) fun _ => rfl
  · exact fun _ => .pure _

end Invoker

end Agents

namespace WorkSettlement

variable {debug : SdkError → String}

def outage? (cmd : nanopayment.Cmd) (reply : Except SdkError (Answer cmd)) : Option Outage :=
  Outage.ofReply reply

def softly : Outage → WorkSettlementError := softlyBy .transient

def Soft : WorkSettlementError → Prop := SoftBy .transient

theorem softens_mapSdk : Softens (mapSdk debug) softly Soft := by
  apply Softens.of_constructor
  · exact fun outage => by cases outage <;> rfl
  · exact fun error noOutage message => by cases error <;> simp_all [mapSdk, Outage.of]

theorem not_soft_amountToU64 {amount : Amount} {error : WorkSettlementError}
    (failed : amountToU64 amount = .error error) : ¬ Soft error := by
  rcases refused_of_amountToU64 failed with ⟨message, rfl⟩
  exact not_softBy nofun

theorem not_soft_depositOf {deposit : Option Amount} {error : WorkSettlementError}
    (failed : depositOf deposit = .error error) : ¬ Soft error := by
  cases deposit with
  | none => cases failed
  | some amount =>
      cases parsed : amountToU64 amount with
      | error refusal =>
          rw [depositOf, parsed] at failed
          cases failed
          exact not_soft_amountToU64 parsed
      | ok units =>
          rw [depositOf, parsed] at failed
          cases failed

theorem failsSoft_openChannel (gateway : TenzroWorkSettlement) (counterparty : String)
    (deposit : Option Amount) :
    FailsSoft outage? softly Soft (openChannel debug gateway counterparty deposit) := by
  apply FailsSoft.bind
  · exact .result fun _ => not_soft_depositOf
  intro funds
  apply FailsSoft.bind
  · exact softens_mapSdk.request (I := nanopayment)
      (.openChannel gateway.payer counterparty funds.1 funds.2) (fun reply => reply) fun _ => rfl
  · exact fun _ => .pure _

theorem failsSoft_sendMicropayment (channel : Option ChannelId) (counterparty : String)
    (amount : Amount) (forWork : ReceiptDigest) :
    FailsSoft outage? softly Soft
      (sendMicropayment debug channel counterparty amount forWork) := by
  cases channel with
  | none =>
      apply FailsSoft.throw
      exact not_softBy nofun
  | some channel =>
      apply FailsSoft.bind
      · exact .result fun _ => not_soft_amountToU64
      intro units
      apply FailsSoft.bind
      · exact softens_mapSdk.request (I := nanopayment)
          (.sendNanopayment channel.id units (hexEncode forWork.bytes)) (fun reply => reply)
          fun _ => rfl
      · exact fun _ => .pure _

theorem failsSoft_closeChannel (channel : ChannelId) :
    FailsSoft outage? softly Soft (closeChannel debug channel) := by
  apply FailsSoft.bind
  · exact softens_mapSdk.request (I := nanopayment) (.closeChannel channel.id) (fun reply => reply)
      fun _ => rfl
  · exact fun _ => .pure _

end WorkSettlement

namespace Discovery

variable {debug : SdkError → String} {blake3 : Bytes → Octets 32}

def outage? : (cmd : io.Cmd) → io.Reply cmd → Option Outage
  | .listProviders, reply => Outage.ofReply reply
  | .yield _, _ => none
  | .sleep _, _ => none

def softly : Outage → DiscoveryError := softlyBy .terminated

def Soft : DiscoveryError → Prop := SoftBy .terminated

theorem softens_mapSdk : Softens (mapSdk debug) softly Soft := by
  apply Softens.of_constructor
  · exact fun outage => by cases outage <;> rfl
  · exact fun error noOutage message => by cases error <;> simp_all [mapSdk, Outage.of]

theorem issues_yieldAll (providers : List NetworkProvider) :
    (yieldAll blake3 providers).Issues fun cmd => ∀ reply, outage? cmd reply = none := by
  induction providers with
  | nil => exact trivial
  | cons provider rest ih => exact (Issues.request (I := io) fun _ => rfl).bind fun _ => ih

theorem failsSoft_poll (interval : ℕ) :
    FailsSoft outage? softly Soft (poll debug blake3 interval) := by
  apply FailsSoft.bind
  · exact softens_mapSdk.request (I := io) .listProviders (fun reply => reply) fun _ => rfl
  intro providers
  apply FailsSoft.bind
  · exact .lift (issues_yieldAll providers)
  intro _
  apply FailsSoft.bind
  · exact .lift (Issues.request (I := io) fun _ => rfl)
  · exact fun _ => .pure _

/-- The last item of a stream that an outage ends. -/
def lastItem (outage : Outage) : Prog io StreamState :=
  .call (.yield (.error (softly outage))) fun _ => .ret .ended

theorem stopsAt_start (rounds : ℕ) (discovery : TenzroDiscovery) :
    (start debug blake3 rounds discovery).StopsAt outage? lastItem fun _ => True := by
  apply StopsAt.bind ((failsSoft_poll discovery.pollInterval).loop rounds)
  · exact fun _ => rfl
  · intro result _
    cases result with
    | ok _ => exact trivial
    | error error =>
        intro reply
        refine ⟨?_, fun _ => trivial⟩
        intro outage isOutage
        cases isOutage

end Discovery

namespace Broker

variable {debug : SdkError → String} {blake3 : Bytes → Octets 32} {decodeError : String → String}

def outage? : (cmd : io.Cmd) → io.Reply cmd → Option Outage
  | .postTask _ _ _ _ _ _, reply => Outage.ofReply reply
  | .getTask _, reply => Outage.ofReply reply
  | .now, _ => none
  | .sleep _, _ => none

/-- A timeout alone is transient. -/
def softly : Outage → WorkBrokerError
  | .connection message => .unreachable message
  | .rpc message => .unreachable message
  | .timeout => .transient "timeout"

def Soft (error : WorkBrokerError) : Prop :=
  (∃ message, error = .unreachable message) ∨ ∃ message, error = .transient message

theorem not_soft_failed (message : String) : ¬ Soft (.failed message) := by
  rintro (⟨_, soft⟩ | ⟨_, soft⟩) <;> cases soft

theorem softens_mapSdk : Softens (mapSdk debug) softly Soft where
  outage outage := by cases outage <;> rfl
  hard error noOutage := by
    cases error <;> first | exact not_soft_failed _ | cases noOutage

theorem not_soft_settle {taskId : String} {info : TaskInfo} {error : WorkBrokerError}
    (failed : settle blake3 decodeError taskId info = .error error) : ¬ Soft error := by
  simp only [settle] at failed
  split at failed
  · split at failed
    · cases failed
    · cases failed
      exact not_soft_failed _
  · split at failed
    · cases failed
    · split at failed <;> cases failed

theorem failsSoft_poll (interval deadline : Duration) (taskId : String) (started : ℕ) :
    FailsSoft outage? softly Soft
      (poll debug blake3 decodeError interval deadline taskId started) := by
  apply FailsSoft.bind
  · exact .lift (Issues.request (I := io) fun _ => rfl)
  intro current
  split
  · exact .pure _
  apply FailsSoft.bind
  · exact softens_mapSdk.request (I := io) (.getTask taskId) (fun reply => reply) fun _ => rfl
  intro info
  split
  next error failed => exact .throw (not_soft_settle failed)
  · exact .pure _
  · apply FailsSoft.bind
    · exact .lift (Issues.request (I := io) fun _ => rfl)
    · exact fun _ => .pure _

theorem failsSoft_offer (rounds : ℕ) (broker : TenzroBroker) (work : WorkOffer) :
    FailsSoft outage? softly Soft (offer debug blake3 decodeError rounds broker work) := by
  apply FailsSoft.bind
  · exact softens_mapSdk.request (I := io)
      (.postTask ("furcate:" ++ work.workType) "Posted by furcate WorkBroker (tenzro-edge)"
        work.workType (work.maxPrice.getD (BitVec.allOnes 128))
        (Base64.standard.encode work.request) broker.poster) (fun reply => reply) fun _ => rfl
  intro posted
  apply FailsSoft.bind
  · exact .lift (Issues.request (I := io) fun _ => rfl)
  · exact fun started => (failsSoft_poll _ _ _ started).loop rounds

end Broker

/-! ## All operations -/

structure Operation where
  io : Interface
  Result : Type
  program : Prog io Result
  outage? : (cmd : io.Cmd) → io.Reply cmd → Option Outage
  /-- What the operation turns to at an outage. -/
  afterOutage : Outage → Prog io Result
  Soft : Result → Prop

namespace Operation

/-- An operation that reports an outage by an error. -/
def fallible {I : Interface} {α ε : Type} (outage? : (cmd : I.Cmd) → I.Reply cmd → Option Outage)
    (softly : Outage → ε) (Soft : ε → Prop) (program : ExceptT ε (Prog I) α) : Operation where
  io := I
  Result := Except ε α
  program := program.run
  outage? := outage?
  afterOutage outage := .ret (.error (softly outage))
  Soft result := ∃ error, result = .error error ∧ Soft error

/-- Wherever the operation has got to, either no reply was an outage, and it has not returned a soft
error, or it has left its course for good at the first outage. -/
def SoftOnOutage (operation : Operation) : Prop :=
  ∀ transcript left, operation.program.Leaves transcript left →
    ((∀ entry ∈ transcript, operation.outage? entry.1 entry.2 = none) ∧
      ∀ result, left = .ret result → ¬ operation.Soft result) ∨
    ∃ earlier entry rest outage, transcript = earlier ++ entry :: rest ∧
      (∀ before ∈ earlier, operation.outage? before.1 before.2 = none) ∧
      operation.outage? entry.1 entry.2 = some outage ∧
      (operation.afterOutage outage).Leaves rest left

theorem SoftOnOutage.of_stopsAt {operation : Operation} (stops :
    operation.program.StopsAt operation.outage? operation.afterOutage
      fun result => ¬ operation.Soft result) : operation.SoftOnOutage := by
  intro transcript left leaves
  rcases stops.of_leaves leaves with ⟨none, fine⟩ | ended
  · left
    refine ⟨none, ?_⟩
    rintro result rfl
    exact fine
  · exact .inr ended

theorem SoftOnOutage.of_failsSoft {I : Interface} {α ε : Type}
    {outage? : (cmd : I.Cmd) → I.Reply cmd → Option Outage} {softly : Outage → ε}
    {Soft : ε → Prop} {program : ExceptT ε (Prog I) α}
    (fails : FailsSoft outage? softly Soft program) :
    (fallible outage? softly Soft program).SoftOnOutage := by
  apply of_stopsAt
  apply StopsAt.mono fails
  rintro result hard ⟨error, failed, soft⟩
  exact hard error failed soft

end Operation

/-- The crates outside the repository, as far as the operations depend on them. -/
structure Crates (Receipt : Type) where
  debug : SdkError → String
  blake3 : Bytes → Octets 32
  serialise : Receipt → Except String Bytes
  proofError : Bytes → String
  base64Error : String → String
  texts : ReceiptSink.ErrorTexts

/-- The calls that the traits offer to an agent, without the getters of names. -/
inductive TraitCall (Receipt Limit Tensor : Type) (ed25519 : Auth.Ed25519)
    (sha256 : Bytes → Octets 32) : Type where
  | signReceipt (attester : Attester.TenzroAttester) (receipt : Receipt)
  | signDigest (attester : Attester.TenzroAttester) (digest : Octets 32)
  | verify (attester : Attester.TenzroAttester) (attestation : Attester.Attestation)
  | write (sink : ReceiptSink.TenzroReceiptSink ed25519 sha256) (receipt : Receipt)
  | flush (sink : ReceiptSink.TenzroReceiptSink ed25519 sha256)
  | canServe (request : Inference.InferRequest Limit Tensor)
  | infer (provider : Inference.TenzroRemoteInference)
      (request : Inference.InferRequest Limit Tensor)
  | fetch (source : ModelSource.TenzroModelSource) (uri : String)
  | put (stream : Storage.ByteStream)
  | get (key : Storage.BlobKey)
  | head (key : Storage.BlobKey)
  | delete (key : Storage.BlobKey)
  | list
  | search (query : String)
  | resolve (did : Agents.AgentDid)
  | invoke (request : Agents.AgentCall)
  | openChannel (gateway : WorkSettlement.TenzroWorkSettlement) (counterparty : String)
      (deposit : Option WorkSettlement.Amount)
  | sendMicropayment (channel : Option WorkSettlement.ChannelId) (counterparty : String)
      (amount : WorkSettlement.Amount) (forWork : WorkSettlement.ReceiptDigest)
  | closeChannel (channel : WorkSettlement.ChannelId)
  | start (discovery : Discovery.TenzroDiscovery) (rounds : ℕ)
  | offer (broker : Broker.TenzroBroker) (work : Broker.WorkOffer) (rounds : ℕ)

section

variable {Receipt Limit Tensor : Type} {ed25519 : Auth.Ed25519} {sha256 : Bytes → Octets 32}

def TraitCall.operation (crates : Crates Receipt) :
    TraitCall Receipt Limit Tensor ed25519 sha256 → Operation
  | .signReceipt attester receipt => .fallible Attester.outage? Attester.softly Attester.Soft
      (attester.signReceipt crates.debug crates.serialise crates.blake3 receipt)
  | .signDigest attester digest => .fallible Attester.outage? Attester.softly Attester.Soft
      (attester.signDigest crates.debug digest)
  | .verify attester attestation => .fallible Attester.outage? Attester.softly Attester.Soft
      (attester.verify crates.debug crates.proofError attestation)
  | .write sink receipt => .fallible ReceiptSink.outage? ReceiptSink.softly ReceiptSink.Soft
      (ReceiptSink.write crates.texts crates.serialise crates.blake3 sink receipt)
  | .flush sink => .fallible ReceiptSink.outage? ReceiptSink.softly ReceiptSink.Soft
      (ReceiptSink.flush sink)
  | .canServe request => {
      io := Inference.inference Limit
      Result := Bool
      program := .ret (Inference.canServe request)
      outage? := Inference.outage?
      afterOutage _ := .ret false
      Soft _ := False }
  | .infer provider request => .fallible Inference.outage? Inference.softly Inference.Soft
      (Inference.infer crates.debug provider request)
  | .fetch source uri => .fallible ModelSource.outage? ModelSource.softly ModelSource.Soft
      (ModelSource.fetch crates.debug crates.blake3 source uri)
  | .put stream => .fallible Storage.outage? Storage.softly Storage.Soft
      (Storage.put crates.debug stream)
  | .get key => .fallible Storage.outage? Storage.softly Storage.Soft (Storage.get crates.debug key)
  | .head key => .fallible Storage.outage? Storage.softly Storage.Soft
      (Storage.head crates.debug crates.blake3 key)
  | .delete key => .fallible Storage.outage? Storage.softly Storage.Soft (Storage.delete key)
  | .list => .fallible Agents.Registry.outage? Agents.Registry.softly Agents.Registry.Soft
      (Agents.Registry.list crates.debug)
  | .search query => .fallible Agents.Registry.outage? Agents.Registry.softly
      Agents.Registry.Soft (Agents.Registry.search crates.debug query)
  | .resolve did => .fallible Agents.Registry.outage? Agents.Registry.softly Agents.Registry.Soft
      (Agents.Registry.resolve crates.debug did)
  | .invoke request => .fallible Agents.Invoker.outage? Agents.Invoker.softly Agents.Invoker.Soft
      (Agents.Invoker.invoke crates.debug request)
  | .openChannel gateway counterparty deposit =>
      .fallible WorkSettlement.outage? WorkSettlement.softly WorkSettlement.Soft
        (WorkSettlement.openChannel crates.debug gateway counterparty deposit)
  | .sendMicropayment channel counterparty amount forWork =>
      .fallible WorkSettlement.outage? WorkSettlement.softly WorkSettlement.Soft
        (WorkSettlement.sendMicropayment crates.debug channel counterparty amount forWork)
  | .closeChannel channel =>
      .fallible WorkSettlement.outage? WorkSettlement.softly WorkSettlement.Soft
        (WorkSettlement.closeChannel crates.debug channel)
  | .start discovery rounds => {
      io := Discovery.io
      Result := Discovery.StreamState
      program := Discovery.start crates.debug crates.blake3 rounds discovery
      outage? := Discovery.outage?
      afterOutage := Discovery.lastItem
      Soft _ := False }
  | .offer broker work rounds => .fallible Broker.outage? Broker.softly Broker.Soft
      (Broker.offer crates.debug crates.blake3 crates.base64Error rounds broker work)

theorem calls_fail_soft (crates : Crates Receipt)
    (call : TraitCall Receipt Limit Tensor ed25519 sha256) :
    (call.operation crates).SoftOnOutage := by
  cases call with
  | signReceipt attester receipt =>
      exact .of_failsSoft (Attester.failsSoft_signReceipt attester _ _ receipt)
  | signDigest attester digest =>
      exact .of_failsSoft (Attester.failsSoft_signDigest attester digest)
  | verify attester attestation =>
      exact .of_failsSoft (Attester.failsSoft_verify _ attester attestation)
  | write sink receipt => exact .of_failsSoft (ReceiptSink.failsSoft_write _ _ _ sink receipt)
  | flush sink => exact .of_failsSoft (.pure ())
  | canServe request => exact .of_stopsAt not_false
  | infer provider request => exact .of_failsSoft (Inference.failsSoft_infer provider request)
  | fetch source uri => exact .of_failsSoft (ModelSource.failsSoft_fetch _ source uri)
  | put stream => exact .of_failsSoft (Storage.failsSoft_put stream)
  | get key => exact .of_failsSoft (Storage.failsSoft_get key)
  | head key => exact .of_failsSoft (Storage.failsSoft_head _ key)
  | delete key => exact .of_failsSoft (.pure ())
  | list => exact .of_failsSoft Agents.Registry.failsSoft_list
  | search query => exact .of_failsSoft (Agents.Registry.failsSoft_search query)
  | resolve did => exact .of_failsSoft (Agents.Registry.failsSoft_resolve did)
  | invoke request => exact .of_failsSoft (Agents.Invoker.failsSoft_invoke request)
  | openChannel gateway counterparty deposit =>
      exact .of_failsSoft (WorkSettlement.failsSoft_openChannel gateway counterparty deposit)
  | sendMicropayment channel counterparty amount forWork =>
      exact .of_failsSoft
        (WorkSettlement.failsSoft_sendMicropayment channel counterparty amount forWork)
  | closeChannel channel => exact .of_failsSoft (WorkSettlement.failsSoft_closeChannel channel)
  | start discovery rounds =>
      apply Operation.SoftOnOutage.of_stopsAt
      apply StopsAt.mono (Discovery.stopsAt_start rounds discovery)
      exact fun _ _ soft => soft
  | offer broker work rounds => exact .of_failsSoft (Broker.failsSoft_offer rounds broker work)

end

end TenzroEdge
