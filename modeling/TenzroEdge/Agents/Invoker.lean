import TenzroEdge.Agents.Registry
import TenzroEdge.Interaction.Copies

/-!
# Calling agents

A call is put into one JSON text, with its payment token and its timeout, and handed to the
SDK as the body of a message; the reply to a call is the receipt of that message. The types of
the fields are those of crates outside the repository, so that a call and a receipt are taken
with the JSON values that their fields are serialised as.
-/

namespace TenzroEdge.Agents

open Codec Interaction Interaction.Prog

inductive AgentInvokerError where
  | transient (message : String)
  | unreachable (message : String)
  | paymentRefused (message : String)
  | remote (message : String)
deriving DecidableEq

structure AgentCall where
  caller : AgentDid
  callee : AgentDid
  request : JsonValue
  paymentToken : JsonValue
  timeoutSecs : JsonValue

structure AgentReply where
  sender : AgentDid
  response : Json

/-! ## The SDK -/

structure AgentMessageResponse where
  sender : String
  messageId : Json
  status : Json
  timestamp : Json
  signed : Json

inductive MessageCmd where
  | sendMessage (sender recipient body : String)
deriving DecidableEq

def messaging : Interface where
  Cmd := MessageCmd
  Reply _ := Except SdkError AgentMessageResponse

def sendMessage (sender recipient body : String) :
    Prog messaging (Except SdkError AgentMessageResponse) :=
  request (I := messaging) (.sendMessage sender recipient body)

namespace Invoker

def mapSdk (debug : SdkError → String) : SdkError → AgentInvokerError
  | .connectionError message => .transient message
  | .rpcError message => .transient message
  | .timeout => .transient "timeout"
  | .notFound message => .unreachable message
  | .authenticationError message => .paymentRefused ("auth: " ++ message)
  | .insufficientFunds required available =>
      .paymentRefused ("insufficient funds: required " ++ required ++ ", available " ++ available)
  | error => .remote (debug error)

def bodyOf (call : AgentCall) : Json :=
  .ofMembers [("request", call.request.json), ("payment_token", call.paymentToken.json),
    ("timeout_secs", call.timeoutSecs.json)]

/-- The receipt of a message, in the place of the reply of the callee. -/
def deliveryOf (resp : AgentMessageResponse) : Json :=
  .ofMembers [("delivery", .ofMembers [("message_id", resp.messageId), ("status", resp.status),
    ("timestamp", resp.timestamp), ("signed", resp.signed)])]

def replyOf (resp : AgentMessageResponse) : AgentReply where
  sender := ⟨resp.sender⟩
  response := deliveryOf resp

/-- Serialising a value that is a tree of JSON already cannot fail. -/
def invoke (debug : SdkError → String) (call : AgentCall) :
    ExceptT AgentInvokerError (Prog messaging) AgentReply := do
  let bodyStr := DpopRpc.jsonText (bodyOf call)
  let resp ← orFail (mapSdk debug) (sendMessage call.caller.did call.callee.did bodyStr)
  return replyOf resp

/-! ## What the recipient reads -/

/-- A call as it is read off its message. -/
structure ReadCall where
  caller : String
  callee : String
  request : Json
  paymentToken : Json
  timeoutSecs : Json

def readCall : messaging.Cmd → Option ReadCall
  | .sendMessage sender recipient body => do
      let value ← Json.parse (utf8 body)
      return {
        caller := sender
        callee := recipient
        request := ← value.get? "request"
        paymentToken := ← value.get? "payment_token"
        timeoutSecs := ← value.get? "timeout_secs" }

def messageOf (call : AgentCall) : messaging.Cmd :=
  MessageCmd.sendMessage call.caller.did call.callee.did (DpopRpc.jsonText (bodyOf call))

def depthOf (call : AgentCall) : ℕ :=
  max call.paymentToken.json.depth (max call.request.json.depth call.timeoutSecs.json.depth)

/-- The reader of the recipient gives up on a body beyond 127 levels, one of which is its own. -/
def arrivalOf (call : AgentCall) : Option ReadCall :=
  if depthOf call ≤ 126 then
    some {
      caller := call.caller.did
      callee := call.callee.did
      request := call.request.json
      paymentToken := call.paymentToken.json
      timeoutSecs := call.timeoutSecs.json }
  else none

section

variable (call : AgentCall)

theorem bodyOf_eq : bodyOf call = .object [("payment_token", call.paymentToken.json),
    ("request", call.request.json), ("timeout_secs", call.timeoutSecs.json)] := by
  simp (disch := decide) only [bodyOf, Json.ofMembers, List.foldl_cons, List.foldl_nil,
    Json.insertMember_nil, Json.insertMember_of_lt, Json.insertMember_of_gt]

theorem canonical_bodyOf : (bodyOf call).Canonical := by
  have keys : ["payment_token", "request", "timeout_secs"].Pairwise (· < ·) := by decide
  rw [bodyOf_eq, Json.Canonical]
  refine ⟨?_, keys⟩
  simp only [Json.CanonicalMembers]
  exact ⟨call.paymentToken.canonical, call.request.canonical, call.timeoutSecs.canonical, trivial⟩

theorem depth_bodyOf : (bodyOf call).depth = depthOf call + 1 := by
  rw [bodyOf_eq, Json.depth, depthOf]
  simp [Json.depthMembers]

theorem utf8_body : utf8 (DpopRpc.jsonText (bodyOf call)) = (bodyOf call).print := by
  rcases Json.isText_print (bodyOf call) with ⟨text, printed⟩
  rw [DpopRpc.jsonText, printed, fromUtf8?_utf8, Option.getD_some]

theorem readCall_messageOf : readCall (messageOf call) = arrivalOf call := by
  rw [messageOf, readCall, utf8_body, arrivalOf]
  by_cases shallow : depthOf call ≤ 126
  · have within : (bodyOf call).depth ≤ 127 := by
      rw [depth_bodyOf]
      omega
    rw [Json.parse_print _ (canonical_bodyOf call) within, bodyOf_eq, if_pos shallow]
    simp
  · have deep : 127 < (bodyOf call).depth := by
      rw [depth_bodyOf]
      omega
    rw [Json.parse_print_deep _ deep, if_neg shallow]
    rfl

end

/-! ## Calls that are made one after the other -/

/-- What an invocation makes of the reply to its message. -/
def finish (debug : SdkError → String) (reply : Except SdkError AgentMessageResponse) :
    Except AgentInvokerError AgentReply :=
  (reply.mapError (mapSdk debug)).map replyOf

theorem finish_eq_ok_iff {debug : SdkError → String}
    {returned : Except SdkError AgentMessageResponse} {reply : AgentReply} :
    finish debug returned = .ok reply ↔ ∃ resp, returned = .ok resp ∧ reply = replyOf resp := by
  cases returned with
  | error error => simp [finish, Except.mapError, Except.map]
  | ok resp => simp [finish, Except.mapError, Except.map, eq_comm]

theorem invoke_eq (debug : SdkError → String) (call : AgentCall) :
    (invoke debug call).run = .call (I := messaging) (messageOf call) fun reply =>
      .ret (finish debug reply) := by
  apply congrArg (Prog.call (I := messaging) (messageOf call))
  funext reply
  cases reply with
  | error error => rfl
  | ok resp => rfl

def isTransient : Except AgentInvokerError AgentReply → Bool
  | .error (.transient _) => true
  | _ => false

/-- Make a call until its error is not transient, for the given number of attempts at most. -/
def submit (debug : SdkError → String) (submission : AgentCall × ℕ) :
    Prog messaging (Option (Except AgentInvokerError AgentReply)) :=
  retry isTransient (invoke debug submission.1).run submission.2

def messageOfSubmission (submission : AgentCall × ℕ) : messaging.Cmd := messageOf submission.1

theorem submit_eq (debug : SdkError → String) :
    submit debug = persist isTransient messageOfSubmission (fun _ => finish debug) Prod.snd := by
  funext submission
  exact congrArg (fun attempt => retry isTransient attempt submission.2)
    (invoke_eq debug submission.1)

def reportFault (cmd : messaging.Cmd) (fault : SdkError) : messaging.Reply cmd :=
  Except.error fault

/-- The message service behind a network that reports what it does to a message as an error. -/
def flaky {σ : Type} (serve : Handler messaging σ) :
    Handler messaging (Recorded messaging σ × Stream' (Delivery SdkError)) :=
  scripted (overNetwork reportFault serve)

/-- What is known of a call whose message was taken the given number of times. -/
structure Arrived {σ : Type} (serve : Handler messaging σ) (submission : AgentCall × ℕ)
    (result : Option (Except AgentInvokerError AgentReply)) (copies : ℕ) : Prop where
  atMost : copies ≤ submission.2
  /-- A call that succeeds has arrived, and its reply is the receipt of its message. -/
  receipt : ∀ reply, result = some (.ok reply) → 0 < copies ∧
    ∃ state resp, (serve (messageOf submission.1) state).1 = .ok resp ∧ reply = replyOf resp

theorem arrived_of_handed {σ : Type} {debug : SdkError → String} {serve : Handler messaging σ}
    {submission : AgentCall × ℕ} {result : Option (Except AgentInvokerError AgentReply)}
    {copies : ℕ} (handed : Handed reportFault serve messageOfSubmission
      (fun _ => finish debug) Prod.snd submission result copies) :
    Arrived serve submission result copies := by
  constructor
  case atMost => exact handed.atMost
  case receipt =>
    intro reply returned
    rcases handed.answered _ returned with ⟨fault, failed⟩ | ⟨arrived, state, answered⟩
    · cases failed
    · exact ⟨arrived, state, finish_eq_ok_iff.mp answered⟩

/-- However the network treats the messages, what the recipients read are copies of the calls, in
the order in which they were made, and a call that succeeds has been read. -/
theorem calls_arrive (debug : SdkError → String) {σ : Type} (serve : Handler messaging σ)
    (submissions : List (AgentCall × ℕ)) (before : Recorded messaging σ)
    (script : Stream' (Delivery SdkError)) :
    ∃ copies : List ℕ,
      List.Forall₂ (fun episode => Arrived serve episode.key episode.result)
        (history (flaky serve) (submit debug) submissions (before, script)) copies ∧
      (afterHistory (flaky serve) (submit debug) submissions (before, script)).1.executed.map
          readCall = before.executed.map readCall ++
        (List.zipWith (fun submission count => List.replicate count (arrivalOf submission.1))
          submissions copies).flatten := by
  have sent : ∃ copies : List ℕ,
      List.Forall₂ (fun episode => Handed reportFault serve messageOfSubmission
          (fun _ => finish debug) Prod.snd episode.key episode.result)
        (history (flaky serve) (submit debug) submissions (before, script)) copies ∧
      (afterHistory (flaky serve) (submit debug) submissions (before, script)).1.executed =
        before.executed ++ (List.zipWith (fun submission count =>
          List.replicate count (messageOfSubmission submission)) submissions copies).flatten := by
    rw [submit_eq]
    exact history_copies submissions before script
  rcases sent with ⟨copies, handed, executed⟩
  refine ⟨copies, handed.imp fun _ _ => arrived_of_handed, ?_⟩
  have read : ∀ submission count, (List.replicate count (messageOfSubmission submission)).map
      readCall = List.replicate count (arrivalOf submission.1) := by
    intro submission count
    rw [List.map_replicate]
    exact congrArg (List.replicate count) (readCall_messageOf submission.1)
  rw [executed, List.map_append, List.map_flatten, List.map_zipWith]
  simp only [read]

end Invoker

end TenzroEdge.Agents
