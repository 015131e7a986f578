import TenzroEdge.Client
import TenzroEdge.Codec.Base64
import TenzroEdge.Codec.Json
import TenzroEdge.Interaction.Loop

/-!
# Offering work on the task marketplace

`offer` posts a task and then polls it on a fixed cadence until its status is
terminal or the deadline has passed. Times and durations are numbers of
nanoseconds. The polling loop of the source has no bound of its own: the argument
`rounds` bounds it here, and `none` is the outcome of an offer that is still
polling after that many rounds.
-/

namespace TenzroEdge.Broker

open Codec Interaction Interaction.Prog

abbrev Duration := ℕ

namespace Duration

def fromSecs (seconds : ℕ) : Duration := seconds * 1000000000

/-- A number with `width` digits behind the point, less the trailing zeros. -/
def decimal (whole fraction width : ℕ) : String :=
  let digits := Nat.toDigits 10 fraction
  let padded := List.replicate (width - digits.length) '0' ++ digits
  let trimmed := (padded.reverse.dropWhile (· = '0')).reverse
  toString whole ++ (if trimmed = [] then "" else String.ofList ('.' :: trimmed))

/-- The text of a duration, as its `Debug` implementation gives it. -/
def debug (duration : Duration) : String :=
  if 1000000000 ≤ duration then
    decimal (duration / 1000000000) (duration % 1000000000) 9 ++ "s"
  else if 1000000 ≤ duration then
    decimal (duration / 1000000) (duration % 1000000) 6 ++ "ms"
  else if 1000 ≤ duration then
    decimal (duration / 1000) (duration % 1000) 3 ++ "µs"
  else toString duration ++ "ns"

end Duration

inductive WorkBrokerError where
  | unreachable (message : String)
  | transient (message : String)
  | failed (message : String)
deriving DecidableEq

structure WorkOffer where
  workType : String
  request : Bytes
  maxPrice : Option (BitVec 128)
  deadlineSecs : Option UInt32

abbrev PeerId := Octets 32

inductive WorkOutcome where
  | completed (response : Bytes) (executor : PeerId)
  | failed (reason : String)
  | refused (reason : String)
deriving DecidableEq

structure TenzroBroker where
  poster : Octets 32
  pollInterval : Duration
  defaultDeadline : Duration

namespace TenzroBroker

def withPollInterval (broker : TenzroBroker) (interval : Duration) : TenzroBroker :=
  { broker with pollInterval := interval }

def withDefaultDeadline (broker : TenzroBroker) (deadline : Duration) : TenzroBroker :=
  { broker with defaultDeadline := deadline }

end TenzroBroker

structure TaskInfo where
  status : Json
  output : Option String
  assignedAgent : Option String

structure PostedTask where
  taskId : String

inductive Cmd where
  | postTask (title description taskType : String) (maxPrice : BitVec 128) (input : String)
      (poster : Octets 32)
  | getTask (taskId : String)
  | now
  | sleep (duration : Duration)

def io : Interface where
  Cmd := Cmd
  Reply
    | .postTask _ _ _ _ _ _ => Except SdkError PostedTask
    | .getTask _ => Except SdkError TaskInfo
    | .now => ℕ
    | .sleep _ => Unit

def postTask (title description taskType : String) (maxPrice : BitVec 128) (input : String)
    (poster : Octets 32) : Prog io (Except SdkError PostedTask) :=
  request (I := io) (.postTask title description taskType maxPrice input poster)

def getTask (taskId : String) : Prog io (Except SdkError TaskInfo) :=
  request (I := io) (.getTask taskId)

def now : Prog io ℕ := request (I := io) .now

def sleep (duration : Duration) : Prog io Unit := request (I := io) (.sleep duration)

def mapSdk (debug : SdkError → String) : SdkError → WorkBrokerError
  | .connectionError message => .unreachable message
  | .rpcError message => .unreachable message
  | .timeout => .transient "timeout"
  | .insufficientFunds required available =>
      .failed ("insufficient funds: required " ++ required ++ ", available " ++ available)
  | error => .failed (debug error)

/-- `char::to_lowercase` of the characters it sends to one ASCII letter: those of ASCII and the
Kelvin sign. The lower-case form of any other is not all ASCII, so a text that contains one is none
of the words a status is compared with; here it is left as it is. -/
def lowercase (char : Char) : Char :=
  if char = Char.ofNat 0x212A then 'k' else char.toLower

/-- The text of a status, in lower case; the empty text when the status is no text. -/
def statusStr (status : Json) : String :=
  match status.asStr with
  | some text => String.ofList (text.toList.map lowercase)
  | none => ""

section

variable (debug : SdkError → String) (blake3 : Bytes → Octets 32) (decodeError : String → String)

/-- The peer identity of the agent that a task was assigned to. -/
def executorOf (assignedAgent : Option String) : PeerId :=
  match assignedAgent with
  | some agent => blake3 (utf8 agent)
  | none => Octets.replicate 32 0

/-- What the status of a task means for its offer; `none` when the task is still under way. -/
def settle (taskId : String) (info : TaskInfo) : Except WorkBrokerError (Option WorkOutcome) :=
  let status := statusStr info.status
  if status = "completed" then
    let output := info.output.getD ""
    match Base64.standard.decode output with
    | some response => .ok (some (.completed response (executorOf blake3 info.assignedAgent)))
    | none => .error (.failed ("task " ++ taskId ++ " output is not valid base64: " ++
        decodeError output))
  else if status = "failed" then .ok (some (.failed ("task " ++ taskId ++ " failed")))
  else if status = "cancelled" then .ok (some (.refused ("task " ++ taskId ++ " cancelled")))
  else .ok none

def deadlineExceeded (taskId : String) (deadline : Duration) : WorkOutcome :=
  .failed ("deadline " ++ deadline.debug ++ " exceeded for task " ++ taskId)

def poll (interval deadline : Duration) (taskId : String) (started : ℕ) :
    ExceptT WorkBrokerError (Prog io) (Option WorkOutcome) := do
  let current ← ExceptT.lift now
  if deadline < current - started then
    return some (deadlineExceeded taskId deadline)
  else
    let info ← orFail (mapSdk debug) (getTask taskId)
    match settle blake3 decodeError taskId info with
    | .error error => throw error
    | .ok (some outcome) => return some outcome
    | .ok none =>
        -- still pending or running
        ExceptT.lift (sleep interval)
        return none

def deadlineOf (broker : TenzroBroker) (offer : WorkOffer) : Duration :=
  match offer.deadlineSecs with
  | some seconds => .fromSecs seconds.toNat
  | none => broker.defaultDeadline

def offer (rounds : ℕ) (broker : TenzroBroker) (offer : WorkOffer) :
    ExceptT WorkBrokerError (Prog io) (Option WorkOutcome) := do
  let input := Base64.standard.encode offer.request
  let maxPrice := offer.maxPrice.getD (BitVec.allOnes 128)
  let title := "furcate:" ++ offer.workType
  let description := "Posted by furcate WorkBroker (tenzro-edge)"
  let posted ← orFail (mapSdk debug)
    (postTask title description offer.workType maxPrice input broker.poster)
  let started ← ExceptT.lift now
  loop (poll debug blake3 decodeError broker.pollInterval (deadlineOf broker offer) posted.taskId
    started) rounds

end

end TenzroEdge.Broker
