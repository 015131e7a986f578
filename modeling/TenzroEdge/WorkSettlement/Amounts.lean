import TenzroEdge.WorkSettlement.Gateway

/-!
# Amounts that reach the SDK

The texts that denote an amount are those of an optional plus sign and decimal digits whose
number fits 64 bits. An operation passes that very number on, or refuses the text without a
call: there is no saturating cast, which the documentation of the source speaks of.
-/

namespace TenzroEdge.WorkSettlement

open Codec Interaction Interaction.Prog

section

variable {amount : Amount} {units : UInt64}

theorem not_denotes_of_point {text : String} (point : '.' ∈ text.toList) (number : ℕ) :
    ¬ Denotes text number := by
  rintro ⟨digits, unsigned | signed, -, ascii, -⟩
  · rw [unsigned] at point
    exact absurd (ascii '.' point) (by decide)
  · rw [signed] at point
    rcases List.mem_cons.mp point with sign | mem
    · exact absurd sign (by decide)
    · exact absurd (ascii '.' mem) (by decide)

theorem amountToU64_of_parsed {number : ℕ} (parsed : parseUnsigned 64 amount.value = .ok number) :
    amountToU64 amount = .ok (UInt64.ofNat number) := by
  have noPoint : ¬ amount.value.toList.contains '.' := by
    intro point
    exact not_denotes_of_point (by simpa using point) number (parseUnsigned_eq_ok_iff.mp parsed).1
  rw [amountToU64, if_neg noPoint, parsed]

theorem amountToU64_eq_ok_iff : amountToU64 amount = .ok units ↔
    Denotes amount.value units.toNat := by
  constructor
  · intro valid
    exact (parseUnsigned_eq_ok_iff.mp (parseUnsigned_of_amountToU64 valid)).1
  · intro denotes
    rw [amountToU64_of_parsed (parseUnsigned_eq_ok_iff.mpr ⟨denotes, units.toNat_lt⟩),
      UInt64.ofNat_toNat]

/-- An operation passes the number that a text denotes, and refuses every other text. -/
structure PassesExactly {α : Type} (operation : ExceptT WorkSettlementError (Prog nanopayment) α)
    (cmdOf : UInt64 → Cmd) (text : String) : Prop where
  passed : ∀ {σ : Type} (serve : Handler nanopayment σ) (world : σ) (number : ℕ),
    (∃ units : UInt64, units.toNat = number ∧ issued serve operation.run world = [cmdOf units]) ↔
      Denotes text number ∧ number < 2 ^ 64
  refused : (¬ ∃ number < 2 ^ 64, Denotes text number) →
    ∀ {σ : Type} (serve : Handler nanopayment σ) (world : σ),
      (∃ message, run serve operation.run world = (.error (.refused message), world)) ∧
        issued serve operation.run world = []

/-- It is enough that an operation passes what `amountToU64` returns, and fails with it. -/
theorem passesExactly_of_amountToU64 {α : Type}
    {operation : ExceptT WorkSettlementError (Prog nanopayment) α} {cmdOf : UInt64 → Cmd}
    (injective : Function.Injective cmdOf)
    (passes : ∀ units, amountToU64 amount = .ok units → ∀ {σ : Type}
      (serve : Handler nanopayment σ) (world : σ),
        issued serve operation.run world = [cmdOf units])
    (fails : ∀ error, amountToU64 amount = .error error → operation.run = .ret (.error error)) :
    PassesExactly operation cmdOf amount.value := by
  constructor
  case passed =>
    intro σ serve world number
    constructor
    · rintro ⟨units, rfl, sent⟩
      cases valid : amountToU64 amount with
      | error error =>
          rw [fails error valid] at sent
          cases sent
      | ok other =>
          rw [passes other valid] at sent
          have same : other = units := injective (List.singleton_inj.mp sent)
          rw [← same]
          exact ⟨amountToU64_eq_ok_iff.mp valid, other.toNat_lt⟩
    · rintro ⟨denotes, fits⟩
      have exact : (UInt64.ofNat number).toNat = number := UInt64.toNat_ofNat_of_lt' fits
      refine ⟨UInt64.ofNat number, exact, ?_⟩
      apply passes
      apply amountToU64_eq_ok_iff.mpr
      rw [exact]
      exact denotes
  case refused =>
    intro unreadable σ serve world
    cases valid : amountToU64 amount with
    | ok units =>
        exact absurd ⟨units.toNat, units.toNat_lt, amountToU64_eq_ok_iff.mp valid⟩ unreadable
    | error error =>
        rcases refused_of_amountToU64 valid with ⟨message, rfl⟩
        rw [fails _ valid]
        exact ⟨⟨message, rfl⟩, rfl⟩

end

/-- The amount of a deposit and of a payment reaches the SDK as it is, or the operation is refused
without a call. -/
theorem amounts_passed_exactly (debug : SdkError → String) (gateway : TenzroWorkSettlement)
    (counterparty : String) (amount : Amount) (channel : ChannelId) (forWork : ReceiptDigest) :
    PassesExactly (openChannel debug gateway counterparty (some amount))
      (fun units => .openChannel gateway.payer counterparty units amount.asset) amount.value ∧
    PassesExactly (sendMicropayment debug (some channel) counterparty amount forWork)
      (fun units => .sendNanopayment channel.id units (hexEncode forWork.bytes))
      amount.value := by
  constructor
  · apply passesExactly_of_amountToU64
    · intro units other same
      injection same
    · intro units valid σ serve world
      have deposit : depositOf (some amount) = .ok (units, amount.asset) := by
        rw [depositOf, valid]
        rfl
      rw [openChannel_of_ok deposit]
      rfl
    · intro error invalid
      apply openChannel_of_error
      rw [depositOf, invalid]
      rfl
  · apply passesExactly_of_amountToU64
    · intro units other same
      injection same
    · intro units valid σ serve world
      rw [sendMicropayment_of_ok valid]
      rfl
    · intro error invalid
      exact sendMicropayment_of_error invalid

end TenzroEdge.WorkSettlement
