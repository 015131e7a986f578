import TenzroEdge.Client
import TenzroEdge.Codec.Unsigned

/-!
# The configuration from the environment

`fromEnv` reads five variables. A value is any sequence of octets, and `var` tells a variable
that is unset from one whose value is not a text; for the optional variables the source drops
that difference, so that an undecodable number counts as the default.
-/

namespace TenzroEdge

open Codec

structure TenzroEdgeConfig where
  endpoint : String
  apiKey : Option String
  chainId : UInt64
  timeoutMs : UInt64
  maxRetries : UInt32
deriving DecidableEq

namespace Config

/-! ## The environment -/

/-- The values of the variables that are set. -/
abbrev Environment := String → Option Bytes

inductive VarError where
  | notPresent
  | notUnicode (value : Bytes)

/-- The value of a variable, the way `std::env::var` gives it. -/
def var (env : Environment) (name : String) : Except VarError String :=
  match env name with
  | none => .error .notPresent
  | some value =>
      match fromUtf8? value with
      | none => .error (.notUnicode value)
      | some text => .ok text

theorem var_eq_ok_iff {env : Environment} {name text : String} :
    var env name = .ok text ↔ env name = some (utf8 text) := by
  cases present : env name with
  | none => simp [var, present]
  | some value =>
      rw [Option.some_inj, ← fromUtf8?_eq_some_iff]
      cases decoded : fromUtf8? value with
      | none => simp [var, present, decoded]
      | some read => simp [var, present, decoded]

/-! ## Numeric variables -/

structure Numeric where
  name : String
  bits : ℕ
  default : ℕ

def chainId : Numeric := ⟨"TENZRO_CHAIN_ID", 64, 1⟩

def timeoutMs : Numeric := ⟨"TENZRO_TIMEOUT_MS", 64, 30000⟩

def maxRetries : Numeric := ⟨"TENZRO_MAX_RETRIES", 32, 3⟩

def numerics : List Numeric := [chainId, timeoutMs, maxRetries]

theorem chainId_mem : chainId ∈ numerics := by simp [numerics]

theorem timeoutMs_mem : timeoutMs ∈ numerics := by simp [numerics]

theorem maxRetries_mem : maxRetries ∈ numerics := by simp [numerics]

namespace Numeric

/-- The default unless the variable is a text, and then the number that the text denotes. -/
def read (numeric : Numeric) (env : Environment) : Except TenzroEdgeError ℕ :=
  match (var env numeric.name).toOption with
  | none => .ok numeric.default
  | some text =>
      match parseUnsigned numeric.bits text with
      | .ok number => .ok number
      | .error kind => .error (.config (numeric.name ++ ": " ++ kind.display))

end Numeric

def fromEnv (env : Environment) : Except TenzroEdgeError TenzroEdgeConfig := do
  let endpoint ← (var env "TENZRO_RPC_URL").mapError fun _ => .config "TENZRO_RPC_URL is required"
  let apiKey := (var env "TENZRO_API_KEY").toOption
  let chainId ← chainId.read env
  let timeoutMs ← timeoutMs.read env
  let maxRetries ← maxRetries.read env
  return {
    endpoint
    apiKey
    chainId := UInt64.ofNat chainId
    timeoutMs := UInt64.ofNat timeoutMs
    maxRetries := UInt32.ofNat maxRetries }

namespace Numeric

variable {numeric : Numeric} {env : Environment} {number : ℕ}

/-- A text in the environment that denotes no number of the width. -/
def Unparsable (numeric : Numeric) (env : Environment) : Prop :=
  ∃ text, env numeric.name = some (utf8 text) ∧
    ¬ ∃ number < 2 ^ numeric.bits, Denotes text number

def Decodable (numeric : Numeric) (env : Environment) : Prop :=
  ∀ value, env numeric.name = some value → ∃ text, value = utf8 text

/-- What the variable gives: the number that it denotes, or the default if it is unset. -/
inductive Gives (numeric : Numeric) (env : Environment) : ℕ → Prop where
  | unset (absent : env numeric.name = none) : Gives numeric env numeric.default
  | set {text : String} {number : ℕ} (present : env numeric.name = some (utf8 text))
      (denotes : Denotes text number) (fits : number < 2 ^ numeric.bits) : Gives numeric env number

theorem read_of_text {text : String} (present : env numeric.name = some (utf8 text)) :
    numeric.read env = (parseUnsigned numeric.bits text).mapError fun kind =>
      .config (numeric.name ++ ": " ++ kind.display) := by
  rw [read, var_eq_ok_iff.mpr present]
  simp only [Except.toOption]
  cases parseUnsigned numeric.bits text with
  | error kind => rfl
  | ok number => rfl

theorem read_of_no_text (absent : ∀ text, env numeric.name ≠ some (utf8 text)) :
    numeric.read env = .ok numeric.default := by
  cases value : var env numeric.name with
  | error error => simp only [read, value, Except.toOption]
  | ok text => exact absurd (var_eq_ok_iff.mp value) (absent text)

theorem error_of_read {error : TenzroEdgeError} (failed : numeric.read env = .error error) :
    ∃ kind : IntErrorKind, error = .config (numeric.name ++ ": " ++ kind.display) := by
  by_cases present : ∃ text, env numeric.name = some (utf8 text)
  · rcases present with ⟨text, present⟩
    rw [read_of_text present] at failed
    cases parsed : parseUnsigned numeric.bits text with
    | ok number =>
        rw [parsed] at failed
        cases failed
    | error kind =>
        rw [parsed] at failed
        cases failed
        exact ⟨kind, rfl⟩
  · rw [read_of_no_text (not_exists.mp present)] at failed
    cases failed

theorem read_eq_ok_iff : numeric.read env = .ok number ↔
    ((∀ text, env numeric.name ≠ some (utf8 text)) ∧ number = numeric.default) ∨
      ∃ text, env numeric.name = some (utf8 text) ∧ Denotes text number ∧
        number < 2 ^ numeric.bits := by
  by_cases present : ∃ text, env numeric.name = some (utf8 text)
  · rcases present with ⟨text, present⟩
    have parses : numeric.read env = .ok number ↔ parseUnsigned numeric.bits text = .ok number := by
      rw [read_of_text present]
      cases parseUnsigned numeric.bits text with
      | error kind => simp [Except.mapError]
      | ok number => simp [Except.mapError]
    rw [parses, parseUnsigned_eq_ok_iff, present]
    simp [utf8_injective.eq_iff]
  · have absent : ∀ text, env numeric.name ≠ some (utf8 text) := not_exists.mp present
    rw [read_of_no_text absent]
    simp [absent, eq_comm]

/-- A decodable variable is read as what it gives; one that is not decodable gives nothing. -/
theorem gives_iff : numeric.Gives env number ↔
    numeric.Decodable env ∧ numeric.read env = .ok number := by
  rw [read_eq_ok_iff]
  constructor
  · intro gives
    cases gives with
    | unset absent =>
        refine ⟨?_, .inl ⟨?_, rfl⟩⟩
        · intro value present
          rw [absent] at present
          cases present
        · intro text present
          rw [absent] at present
          cases present
    | set present denotes fits =>
        refine ⟨?_, .inr ⟨_, present, denotes, fits⟩⟩
        intro value other
        exact ⟨_, Option.some.inj (other.symm.trans present)⟩
  · rintro ⟨decodable, ⟨noText, rfl⟩ | ⟨text, present, denotes, fits⟩⟩
    · apply Gives.unset
      cases value : env numeric.name with
      | none => rfl
      | some octets =>
          rcases decodable octets value with ⟨text, rfl⟩
          exact absurd value (noText text)
    · exact .set present denotes fits

theorem exists_read_iff : (∃ number, numeric.read env = .ok number) ↔
    ¬ numeric.Unparsable env := by
  constructor
  · rintro ⟨number, read⟩ ⟨text, present, noNumber⟩
    rcases read_eq_ok_iff.mp read with ⟨noText, _⟩ | ⟨other, same, denotes, fits⟩
    · exact noText text present
    · rw [present, Option.some_inj, utf8_injective.eq_iff] at same
      subst same
      exact noNumber ⟨number, fits, denotes⟩
  · intro parsable
    by_cases present : ∃ text, env numeric.name = some (utf8 text)
    · rcases present with ⟨text, present⟩
      have parses : ∃ number < 2 ^ numeric.bits, Denotes text number := by
        by_contra noNumber
        exact parsable ⟨text, present, noNumber⟩
      rcases parses with ⟨number, fits, denotes⟩
      exact ⟨number, read_eq_ok_iff.mpr (.inr ⟨text, present, denotes, fits⟩)⟩
    · exact ⟨_, read_of_no_text (not_exists.mp present)⟩

theorem default_lt : ∀ numeric ∈ numerics, numeric.default < 2 ^ numeric.bits := by decide

theorem lt_of_read (mem : numeric ∈ numerics) (read : numeric.read env = .ok number) :
    number < 2 ^ numeric.bits := by
  rcases read_eq_ok_iff.mp read with ⟨_, rfl⟩ | ⟨_, _, _, fits⟩
  · exact default_lt numeric mem
  · exact fits

end Numeric

/-! ## The configuration -/

theorem bind_eq_ok_iff {ε α β : Type} {result : Except ε α} {next : α → Except ε β} {value : β} :
    (result >>= next) = .ok value ↔ ∃ first, result = .ok first ∧ next first = .ok value := by
  cases result with
  | error error => simp [bind, Except.bind]
  | ok first => simp [bind, Except.bind]

theorem bind_eq_error_iff {ε α β : Type} {result : Except ε α} {next : α → Except ε β}
    {error : ε} : (result >>= next) = .error error ↔
      result = .error error ∨ ∃ first, result = .ok first ∧ next first = .error error := by
  cases result with
  | error other => simp [bind, Except.bind]
  | ok first => simp [bind, Except.bind]

variable {env : Environment} {config : TenzroEdgeConfig}

theorem fromEnv_eq_ok_iff : fromEnv env = .ok config ↔
    env "TENZRO_RPC_URL" = some (utf8 config.endpoint) ∧
      config.apiKey = (var env "TENZRO_API_KEY").toOption ∧
      ∃ chain timeout retries, chainId.read env = .ok chain ∧ timeoutMs.read env = .ok timeout ∧
        maxRetries.read env = .ok retries ∧ config.chainId = UInt64.ofNat chain ∧
        config.timeoutMs = UInt64.ofNat timeout ∧ config.maxRetries = UInt32.ofNat retries := by
  have endpoint_iff : ∀ endpoint, ((var env "TENZRO_RPC_URL").mapError fun _ =>
      TenzroEdgeError.config "TENZRO_RPC_URL is required") = .ok endpoint ↔
        env "TENZRO_RPC_URL" = some (utf8 endpoint) := by
    intro endpoint
    rw [← var_eq_ok_iff]
    cases var env "TENZRO_RPC_URL" with
    | error error => simp [Except.mapError]
    | ok text => simp [Except.mapError]
  simp only [fromEnv, bind_eq_ok_iff, endpoint_iff]
  constructor
  · rintro ⟨endpoint, present, chain, chainRead, timeout, timeoutRead, retries, retriesRead,
      returned⟩
    cases returned
    exact ⟨present, rfl, chain, timeout, retries, chainRead, timeoutRead, retriesRead, rfl, rfl,
      rfl⟩
  · rintro ⟨present, key, chain, timeout, retries, chainRead, timeoutRead, retriesRead, sameChain,
      sameTimeout, sameRetries⟩
    refine ⟨_, present, chain, chainRead, timeout, timeoutRead, retries, retriesRead, ?_⟩
    rw [← key, ← sameChain, ← sameTimeout, ← sameRetries]
    rfl

/-- Every error names the variable that it is about. -/
theorem error_of_fromEnv {error : TenzroEdgeError} (failed : fromEnv env = .error error) :
    error = .config "TENZRO_RPC_URL is required" ∨
      ∃ numeric ∈ numerics, ∃ kind : IntErrorKind,
        error = .config (numeric.name ++ ": " ++ kind.display) := by
  rcases bind_eq_error_iff.mp failed with missing | ⟨endpoint, _, failed⟩
  · left
    cases present : var env "TENZRO_RPC_URL" with
    | ok text =>
        rw [present] at missing
        cases missing
    | error error =>
        rw [present] at missing
        cases missing
        rfl
  right
  rcases bind_eq_error_iff.mp failed with unread | ⟨chain, _, failed⟩
  · exact ⟨chainId, chainId_mem, Numeric.error_of_read unread⟩
  rcases bind_eq_error_iff.mp failed with unread | ⟨timeout, _, failed⟩
  · exact ⟨timeoutMs, timeoutMs_mem, Numeric.error_of_read unread⟩
  rcases bind_eq_error_iff.mp failed with unread | ⟨retries, _, failed⟩
  · exact ⟨maxRetries, maxRetries_mem, Numeric.error_of_read unread⟩
  cases failed

theorem exists_fromEnv_iff : (∃ config, fromEnv env = .ok config) ↔
    (∃ endpoint, env "TENZRO_RPC_URL" = some (utf8 endpoint)) ∧
      ∀ numeric ∈ numerics, ¬ numeric.Unparsable env := by
  simp only [fromEnv_eq_ok_iff, numerics, List.forall_mem_cons, ← Numeric.exists_read_iff]
  constructor
  · rintro ⟨config, present, _, chain, timeout, retries, chainRead, timeoutRead, retriesRead, _⟩
    exact ⟨⟨_, present⟩, ⟨chain, chainRead⟩, ⟨timeout, timeoutRead⟩, ⟨retries, retriesRead⟩,
      by simp⟩
  · rintro ⟨⟨endpoint, present⟩, ⟨chain, chainRead⟩, ⟨timeout, timeoutRead⟩,
      ⟨retries, retriesRead⟩, _⟩
    exact ⟨⟨endpoint, _, _, _, _⟩, present, rfl, chain, timeout, retries, chainRead, timeoutRead,
      retriesRead, rfl, rfl, rfl⟩

theorem values_of_fromEnv (decodable : ∀ numeric ∈ numerics, numeric.Decodable env)
    (returned : fromEnv env = .ok config) :
    chainId.Gives env config.chainId.toNat ∧ timeoutMs.Gives env config.timeoutMs.toNat ∧
      maxRetries.Gives env config.maxRetries.toNat := by
  rcases fromEnv_eq_ok_iff.mp returned with ⟨_, _, chain, timeout, retries, chainRead, timeoutRead,
    retriesRead, sameChain, sameTimeout, sameRetries⟩
  refine ⟨?_, ?_, ?_⟩
  · rw [sameChain, UInt64.toNat_ofNat_of_lt' (Numeric.lt_of_read chainId_mem chainRead)]
    exact Numeric.gives_iff.mpr ⟨decodable _ chainId_mem, chainRead⟩
  · rw [sameTimeout, UInt64.toNat_ofNat_of_lt' (Numeric.lt_of_read timeoutMs_mem timeoutRead)]
    exact Numeric.gives_iff.mpr ⟨decodable _ timeoutMs_mem, timeoutRead⟩
  · rw [sameRetries, UInt32.toNat_ofNat_of_lt' (Numeric.lt_of_read maxRetries_mem retriesRead)]
    exact Numeric.gives_iff.mpr ⟨decodable _ maxRetries_mem, retriesRead⟩

/-- The configuration is read if the endpoint is a text and every numeric variable gives a number,
which then is the value of its field; otherwise the environment is at fault. -/
structure Exact (env : Environment) : Prop where
  accepted : (∃ config, fromEnv env = .ok config) ↔
    (∃ endpoint, env "TENZRO_RPC_URL" = some (utf8 endpoint)) ∧
      ∀ numeric ∈ numerics, ∃ number, numeric.Gives env number
  values : ∀ config, fromEnv env = .ok config →
    chainId.Gives env config.chainId.toNat ∧ timeoutMs.Gives env config.timeoutMs.toNat ∧
      maxRetries.Gives env config.maxRetries.toNat
  rejected : ∀ error, fromEnv env = .error error → ∃ message, error = .config message

/-- Reading is exact unless an undecodable number goes unnoticed, behind an endpoint that is a text
and no other number that fails. -/
theorem fromEnv_exact_iff (env : Environment) : Exact env ↔
    ((∃ endpoint, env "TENZRO_RPC_URL" = some (utf8 endpoint)) ∧
      (∀ numeric ∈ numerics, ¬ numeric.Unparsable env) →
        ∀ numeric ∈ numerics, numeric.Decodable env) := by
  constructor
  · rintro ⟨accepted, -, -⟩ readable numeric mem
    rcases (accepted.mp (exists_fromEnv_iff.mpr readable)).2 numeric mem with ⟨number, gives⟩
    exact (Numeric.gives_iff.mp gives).1
  · intro noticed
    constructor
    case accepted =>
      constructor
      · intro returned
        have readable := exists_fromEnv_iff.mp returned
        refine ⟨readable.1, ?_⟩
        intro numeric mem
        rcases Numeric.exists_read_iff.mpr (readable.2 numeric mem) with ⟨number, read⟩
        exact ⟨number, Numeric.gives_iff.mpr ⟨noticed readable numeric mem, read⟩⟩
      · rintro ⟨endpoint, given⟩
        refine exists_fromEnv_iff.mpr ⟨endpoint, ?_⟩
        intro numeric mem
        rcases given numeric mem with ⟨number, gives⟩
        exact Numeric.exists_read_iff.mp ⟨number, (Numeric.gives_iff.mp gives).2⟩
    case values =>
      intro config returned
      exact values_of_fromEnv (noticed (exists_fromEnv_iff.mp ⟨config, returned⟩)) returned
    case rejected =>
      intro error failed
      rcases error_of_fromEnv failed with same | ⟨numeric, _, kind, same⟩
      · exact ⟨_, same⟩
      · exact ⟨_, same⟩

/-- The chain identity is set to an octet that is no text. -/
def undecodableChain (name : String) : Option Bytes :=
  if name = "TENZRO_RPC_URL" then some (utf8 "https://rpc.tenzro.network")
  else if name = chainId.name then some [0xff]
  else none

theorem fromEnv_defaults_undecodable :
    fromEnv undecodableChain =
      .ok ⟨"https://rpc.tenzro.network", none, 1, 30000, 3⟩ ∧ ¬ Exact undecodableChain := by
  have returned : fromEnv undecodableChain =
      .ok ⟨"https://rpc.tenzro.network", none, 1, 30000, 3⟩ := by decide
  refine ⟨returned, ?_⟩
  intro reading
  have gives : chainId.Gives undecodableChain 1 := (reading.values _ returned).1
  rcases (Numeric.gives_iff.mp gives).1 [0xff] rfl with ⟨text, same⟩
  have undecodable : fromUtf8? [0xff] = none := by decide
  rw [fromUtf8?_eq_some_iff.mpr same] at undecodable
  cases undecodable

end Config

end TenzroEdge
