import TenzroEdge.Client
import TenzroEdge.Interaction.History

/-!
# Remote inference

A provider sends the text completions that it is asked for to the model of its configuration,
and declines every other request without a call, as `canServe` announces. The SDK counts the
tokens of prompt and completion together, in 64 bits; the response has 32 bits for each, and
reports the whole count as that of the completion.
-/

namespace TenzroEdge.Inference

open Codec Interaction Interaction.Prog

inductive RemoteInferenceError where
  | transient (message : String)
  | declined (message : String)
  | failed (message : String)
deriving DecidableEq

/-- A request: the text completions, and the requests of any other kind. -/
inductive InferRequest (Limit Tensor : Type) where
  | textCompletion (prompt : String) (maxTokens : Limit)
  | tensor (input : Tensor)

structure InferResponse where
  text : String
  completionTokens : UInt32
  promptTokens : UInt32
  finishReason : String
deriving DecidableEq

/-! ## The SDK -/

structure InferenceResult where
  output : String
  tokensUsed : UInt64

structure Cmd (Limit : Type) where
  modelId : String
  prompt : String
  maxTokens : Limit

def inference (Limit : Type) : Interface where
  Cmd := Cmd Limit
  Reply _ := Except SdkError InferenceResult

def mapSdk (debug : SdkError → String) : SdkError → RemoteInferenceError
  | .connectionError message => .transient message
  | .rpcError message => .transient message
  | .timeout => .transient "timeout"
  | .notFound message => .declined ("not found: " ++ message)
  | .invalidParameter message => .declined ("invalid: " ++ message)
  | .inferenceError message => .failed message
  | .insufficientFunds required available =>
      .declined ("insufficient funds: required " ++ required ++ ", available " ++ available)
  | error => .failed (debug error)

/-! ## The provider -/

structure TenzroRemoteInference where
  id : String
  defaultModelId : String

section

variable {Limit Tensor : Type}

def sdkRequest (modelId prompt : String) (maxTokens : Limit) :
    Prog (inference Limit) (Except SdkError InferenceResult) :=
  request (I := inference Limit) ⟨modelId, prompt, maxTokens⟩

def canServe : InferRequest Limit Tensor → Bool
  | .textCompletion _ _ => true
  | .tensor _ => false

/-- `u32::try_from` of a count, or the largest value. -/
def saturate (count : UInt64) : UInt32 :=
  if count.toNat < 2 ^ 32 then UInt32.ofNat count.toNat else UInt32.ofNat (2 ^ 32 - 1)

def responseOf (result : InferenceResult) : InferResponse where
  text := result.output
  completionTokens := saturate result.tokensUsed
  promptTokens := 0
  finishReason := "tenzro"

def infer (debug : SdkError → String) (provider : TenzroRemoteInference) :
    InferRequest Limit Tensor → ExceptT RemoteInferenceError (Prog (inference Limit)) InferResponse
  | .textCompletion prompt maxTokens => do
      let result ← orFail (mapSdk debug) (sdkRequest provider.defaultModelId prompt maxTokens)
      return responseOf result
  | .tensor _ => throw (.declined "tenzro inference only supports text completion")

/-! ## Sessions -/

/-- The request to the SDK that a provider makes, if it serves the request at all. -/
def commandOf (provider : TenzroRemoteInference) :
    InferRequest Limit Tensor → Option (inference Limit).Cmd
  | .textCompletion prompt maxTokens => some (Cmd.mk provider.defaultModelId prompt maxTokens)
  | .tensor _ => none

variable {debug : SdkError → String} {provider : TenzroRemoteInference} {σ : Type}
  {serve : Handler (inference Limit) σ}

/-- The tokens that an answered request used, as the SDK counts them. -/
def tokensUsed (serve : Handler (inference Limit) σ) (provider : TenzroRemoteInference)
    (inferred : Episode (inference Limit) (InferRequest Limit Tensor) σ
      (Except RemoteInferenceError InferResponse)) : ℕ :=
  match commandOf provider inferred.key with
  | none => 0
  | some cmd =>
      match ((serve cmd inferred.before).1 : Except SdkError InferenceResult) with
      | .ok result => result.tokensUsed.toNat
      | .error _ => 0

def tokensReported (inferred : Episode (inference Limit) (InferRequest Limit Tensor) σ
    (Except RemoteInferenceError InferResponse)) : ℕ :=
  match inferred.result with
  | .ok response => response.promptTokens.toNat + response.completionTokens.toNat
  | .error _ => 0

theorem toNat_saturate (count : UInt64) :
    (saturate count).toNat = min count.toNat (2 ^ 32 - 1) := by
  unfold saturate
  split
  next small =>
    rw [UInt32.toNat_ofNat_of_lt' small]
    omega
  next large =>
    rw [UInt32.toNat_ofNat_of_lt' (by decide)]
    omega

theorem infer_textCompletion (prompt : String) (maxTokens : Limit) :
    (infer debug provider (.textCompletion prompt maxTokens : InferRequest Limit Tensor)).run =
      .call (I := inference Limit) (Cmd.mk provider.defaultModelId prompt maxTokens)
        fun (reply : Except SdkError InferenceResult) =>
          .ret ((reply.mapError (mapSdk debug)).map responseOf) := by
  let cmd : (inference Limit).Cmd := Cmd.mk provider.defaultModelId prompt maxTokens
  apply congrArg (Prog.call (I := inference Limit) cmd)
  funext reply
  cases reply with
  | error error => rfl
  | ok result => rfl

/-- An inference in a session. -/
structure Inferred (debug : SdkError → String) (provider : TenzroRemoteInference)
    (serve : Handler (inference Limit) σ)
    (inferred : Episode (inference Limit) (InferRequest Limit Tensor) σ
      (Except RemoteInferenceError InferResponse)) : Prop where
  /-- The SDK is asked once for a request that can be served, and not for any other. -/
  asked : inferred.issued = (commandOf provider inferred.key).toList
  declined : canServe inferred.key = false →
    inferred.result = .error (.declined "tenzro inference only supports text completion") ∧
      inferred.after = inferred.before
  metered : tokensReported inferred = min (tokensUsed serve provider inferred) (2 ^ 32 - 1)
  /-- A response carries what the model has put out. -/
  output : ∀ response, inferred.result = .ok response →
    ∃ cmd result, commandOf provider inferred.key = some cmd ∧
      (serve cmd inferred.before).1 = .ok result ∧ response = responseOf result

theorem inferred_episode (req : InferRequest Limit Tensor) (state : σ) :
    Inferred debug provider serve
      (episode serve (fun req => (infer debug provider req).run) req state) := by
  cases req with
  | tensor input =>
      constructor
      case asked => rfl
      case declined => exact fun _ => ⟨rfl, rfl⟩
      case metered => rfl
      case output =>
        intro response returned
        cases returned
  | textCompletion prompt maxTokens =>
      let cmd : (inference Limit).Cmd := Cmd.mk provider.defaultModelId prompt maxTokens
      have result : (episode serve (fun req => (infer debug provider req).run)
          (.textCompletion prompt maxTokens : InferRequest Limit Tensor) state).result =
            (((serve cmd state).1 : Except SdkError InferenceResult).mapError
              (mapSdk debug)).map responseOf := by
        simp only [episode, infer_textCompletion]
        rfl
      constructor
      case asked =>
        simp only [episode, infer_textCompletion]
        rfl
      case declined =>
        intro other
        cases other
      case metered =>
        rw [tokensReported, result]
        change _ = min (match ((serve cmd state).1 : Except SdkError InferenceResult) with
          | .ok result => result.tokensUsed.toNat
          | .error _ => 0) _
        cases ((serve cmd state).1 : Except SdkError InferenceResult) with
        | error error => rfl
        | ok answer =>
            change (0 : UInt32).toNat + (saturate answer.tokensUsed).toNat = _
            rw [toNat_saturate]
            exact Nat.zero_add _
      case output =>
        intro response returned
        rw [result] at returned
        refine ⟨cmd, ?_⟩
        change ∃ answer, some cmd = some cmd ∧
          ((serve cmd state).1 : Except SdkError InferenceResult) = .ok answer ∧ _
        cases answered : ((serve cmd state).1 : Except SdkError InferenceResult) with
        | error error =>
            rw [answered] at returned
            cases returned
        | ok answer =>
            rw [answered] at returned
            cases returned
            exact ⟨answer, rfl, rfl, rfl⟩

theorem inferred_of_mem {requests : List (InferRequest Limit Tensor)} {state : σ}
    {inferred : Episode (inference Limit) (InferRequest Limit Tensor) σ
      (Except RemoteInferenceError InferResponse)}
    (mem : inferred ∈ history serve (fun req => (infer debug provider req).run) requests state) :
    Inferred debug provider serve inferred := by
  rw [eq_episode_of_mem mem]
  exact inferred_episode inferred.key inferred.before

/-- Counts that are capped one by one add up to no more, and to as much if none is capped. -/
theorem sum_map_min {ι : Type} (count : ι → ℕ) (cap : ℕ) (items : List ι) :
    (items.map fun item => min (count item) cap).sum ≤ (items.map count).sum ∧
      ((items.map fun item => min (count item) cap).sum = (items.map count).sum ↔
        ∀ item ∈ items, count item ≤ cap) := by
  induction items with
  | nil => simp
  | cons item rest ih =>
      rcases ih with ⟨below, uncapped⟩
      have capped : min (count item) cap ≤ count item := min_le_left _ _
      simp only [List.map_cons, List.sum_cons, List.mem_cons, forall_eq_or_imp]
      refine ⟨by omega, ?_⟩
      rw [← uncapped]
      omega

theorem issued_history {requests : List (InferRequest Limit Tensor)} {state : σ} :
    (history serve (fun req => (infer debug provider req).run) requests state).flatMap
      Episode.issued = requests.filterMap (commandOf provider) := by
  induction requests generalizing state with
  | nil => rfl
  | cons req rest ih =>
      have first : Inferred debug provider serve
          (episode serve (fun req => (infer debug provider req).run) req state) :=
        inferred_episode req state
      rw [history, List.flatMap_cons, first.asked, ih]
      cases sent : commandOf provider req with
      | none => simp [episode, sent]
      | some cmd => simp [episode, sent]

/-- Over any session, the SDK is asked for the text completions and for nothing else, in order; a
response carries what the model has put out, and the tokens that are reported are those used, up
to the largest count that a response has room for. -/
theorem inference_session (debug : SdkError → String) (provider : TenzroRemoteInference)
    (serve : Handler (inference Limit) σ) (requests : List (InferRequest Limit Tensor))
    (state : σ) :
    let session := history serve (fun req => (infer debug provider req).run) requests state
    session.flatMap Episode.issued = requests.filterMap (commandOf provider) ∧
    (∀ inferred ∈ session, Inferred debug provider serve inferred) ∧
    (session.map tokensReported).sum ≤ (session.map (tokensUsed serve provider)).sum ∧
    ((session.map tokensReported).sum = (session.map (tokensUsed serve provider)).sum ↔
      ∀ inferred ∈ session, tokensUsed serve provider inferred ≤ 2 ^ 32 - 1) := by
  intro session
  have inferred : ∀ inferred ∈ session, Inferred debug provider serve inferred := by
    intro inferred mem
    exact inferred_of_mem mem
  have metered : session.map tokensReported =
      session.map fun inferred => min (tokensUsed serve provider inferred) (2 ^ 32 - 1) := by
    apply List.map_congr_left
    intro episode mem
    exact (inferred episode mem).metered
  rw [metered]
  exact ⟨issued_history, inferred, sum_map_min _ _ _⟩

end

end TenzroEdge.Inference
