import TenzroEdge.Codec.Text

/-!
# The SDK as the crate sees it

Every trait implementation goes through the Tenzro SDK, whose source is not part
of this repository. `SdkError` has the variants the crate tells apart; a function
`debug` stands for the text that the SDK's `Debug` implementation gives an error.
-/

namespace TenzroEdge

/-- The errors of an SDK call: those the crate tells apart, and any other by its name. -/
inductive SdkError where
  | connectionError (message : String)
  | rpcError (message : String)
  | timeout
  | notFound (message : String)
  | invalidParameter (message : String)
  | insufficientFunds (required available : String)
  | settlementError (message : String)
  | authenticationError (message : String)
  | inferenceError (message : String)
  | other (name : String)
deriving DecidableEq

inductive TenzroEdgeError where
  | sdk (message : String)
  | store (message : String)
  | config (message : String)
  | notYetSupported (surface : String)
deriving DecidableEq

/-- The text of an error, as its `Display` implementation gives it. -/
def TenzroEdgeError.display : TenzroEdgeError → String
  | .sdk message => "tenzro sdk: " ++ message
  | .store message => "local store: " ++ message
  | .config message => "config: " ++ message
  | .notYetSupported surface => "not yet supported by tenzro-sdk: " ++ surface

def startsWith (text start : String) : Bool := start.toList.isPrefixOf text.toList

def afterStart (start text : String) : Option String :=
  if startsWith text start then some (String.ofList (text.toList.drop start.toList.length))
  else none

theorem startsWith_append (start text : String) : startsWith (start ++ text) start = true := by
  simp [startsWith]

theorem afterStart_append (start text : String) : afterStart start (start ++ text) = some text := by
  simp [afterStart, startsWith_append]

/-- The segment of a text behind its last `separator`; the whole text when there is none. -/
def lastSegment (separator : Char) (text : String) : String :=
  String.ofList (text.toList.reverse.takeWhile (· ≠ separator)).reverse

end TenzroEdge
