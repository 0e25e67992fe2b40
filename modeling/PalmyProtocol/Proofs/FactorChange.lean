import PalmyProtocol.Proofs.DebtsCounted
import PalmyProtocol.System.Administration

set_option autoImplicit false

namespace PalmyProtocol

open Checked Rounding

namespace Reserve

def accruedInterest (reserve : Reserve) (now : Nat) : Result Nat :=
  let scaledVariableDebt := reserve.variableDebtToken.scaledTotalSupply
  reserve.accruedDebt now scaledVariableDebt reserve.variableBorrowIndex
    (reserve.accruedVariableBorrowIndex now scaledVariableDebt) reserve.lastUpdateTimestamp

def treasuryMint (reserve : Reserve) (now factor : Nat) : Result Nat :=
  if factor = 0 then .ok 0 else do
    let interest ← reserve.accruedInterest now
    let amount ← percentMul interest factor
    pure (divHalfUp (amount * RAY) (reserve.accruedLiquidityIndex now))

structure TreasuryMinted (lToken after : LToken) (minted : Nat) : Prop where
  balances : ∀ account, after.base.balances account =
    lToken.base.balances account + if account = lToken.treasury then minted else 0
  totalSupply : after.base.totalSupply = lToken.base.totalSupply + minted
  allowances : after.base.allowances = lToken.base.allowances
  treasury : after.treasury = lToken.treasury

variable {reserve after : Reserve} {now : Nat}

theorem TreasuryMinted.unique {lToken first second : LToken} {minted : Nat}
    (one : TreasuryMinted lToken first minted) (other : TreasuryMinted lToken second minted) :
    first = second := by
  obtain ⟨⟨balances, allowances, supply⟩, treasury⟩ := first
  obtain ⟨⟨balances', allowances', supply'⟩, treasury'⟩ := second
  have held : balances = balances' :=
    funext fun account => (one.balances account).trans (other.balances account).symm
  have supplied := one.totalSupply.trans other.totalSupply.symm
  have allowed := one.allowances.trans other.allowances.symm
  have kept := one.treasury.trans other.treasury.symm
  simp only at held supplied allowed kept
  rw [held, supplied, allowed, kept]

theorem Accrued.treasuryMint {lToken : LToken} {liquidityIndex variableBorrowIndex : Nat}
    (run : Accrued reserve now after lToken liquidityIndex variableBorrowIndex) :
    ∃ minted, reserve.treasuryMint now reserve.configuration.getReserveFactor = .ok minted ∧
      TreasuryMinted reserve.lToken lToken minted := by
  have minting := run.treasury
  rw [run.liquidity, run.floating] at minting
  simp only [mintToTreasury, ite_eq_ok, bind_eq_ok, pure_eq_ok, Except.ok.injEq] at minting
  have untouched : TreasuryMinted reserve.lToken reserve.lToken 0 :=
    ⟨fun _ => by simp, rfl, rfl, rfl⟩
  rcases minting with ⟨none, rfl⟩ | ⟨some, interest, accrued, amount, share, minting⟩
  · exact ⟨0, by rw [Reserve.treasuryMint, if_pos none], untouched⟩
  · have mint : reserve.treasuryMint now reserve.configuration.getReserveFactor =
        .ok (divHalfUp (amount * RAY) (reserve.accruedLiquidityIndex now)) := by
      rw [Reserve.treasuryMint, if_neg some]
      simp only [bind_eq_ok, pure_eq_ok]
      exact ⟨interest, accrued, amount, share, rfl⟩
    refine ⟨_, mint, ?_⟩
    rcases minting with ⟨_, minted⟩ | ⟨zero, rfl⟩
    · rcases LToken.mintToTreasury_ok minted with ⟨zero, rfl⟩ | ⟨_, scaled, rfl, effect⟩
      · rwa [zero, Nat.zero_mul, divHalfUp_zero]
      · exact ⟨effect.1, effect.2.1, effect.2.2.1, effect.2.2.2⟩
    · rwa [not_not.1 zero, Nat.zero_mul, divHalfUp_zero]

-- The configuration decides what the treasury gets and nothing else.
theorem Accrued.configured {configuration : ReserveConfigurationMap} {after' : Reserve}
    {lToken lToken' : LToken}
    {liquidityIndex variableBorrowIndex liquidityIndex' variableBorrowIndex' : Nat}
    (run : Accrued reserve now after lToken liquidityIndex variableBorrowIndex)
    (run' : Accrued { reserve with configuration } now after' lToken' liquidityIndex'
      variableBorrowIndex') :
    after' = { after with configuration, lToken := lToken' } := by
  have liquidity : liquidityIndex' = liquidityIndex := run'.liquidity.trans run.liquidity.symm
  have floating : variableBorrowIndex' = variableBorrowIndex :=
    run'.floating.trans run.floating.symm
  rw [run'.result, run.result, liquidity, floating]

end Reserve

namespace LendingPool

open LendingPoolConfigurator

variable (pool : LendingPool) (now : Nat) (msgSender asset : Address) (reserveFactor : Nat)

def accrueThenSetFactor : Result LendingPool := do
  let accrued ← (pool.reserves asset).updateState now
  setReserveFactor (pool.setReserve asset accrued) msgSender asset reserveFactor

def setFactorThenAccrue : Result LendingPool := do
  let pool ← setReserveFactor pool msgSender asset reserveFactor
  let accrued ← (pool.reserves asset).updateState now
  pure (pool.setReserve asset accrued)

variable {pool now msgSender asset reserveFactor} {first second : LendingPool}

theorem setReserve_again (reserve reserve' : Reserve) :
    (pool.setReserve asset reserve).setReserve asset reserve' = pool.setReserve asset reserve' := by
  simp [setReserve]

structure Orders (pool : LendingPool) (now : Nat) (asset : Address) (reserveFactor : Nat)
    (first second : LendingPool) (accrued : Reserve) (lToken : LToken) (minted minted' : Nat) : Prop where
  first : first = pool.setReserve asset accrued
  second : second = pool.setReserve asset { accrued with lToken }
  before : (pool.reserves asset).treasuryMint now
    (pool.reserves asset).configuration.getReserveFactor = .ok minted
  after : (pool.reserves asset).treasuryMint now reserveFactor = .ok minted'
  mintedBefore : Reserve.TreasuryMinted (pool.reserves asset).lToken accrued.lToken minted
  mintedAfter : Reserve.TreasuryMinted (pool.reserves asset).lToken lToken minted'

theorem orders (one : pool.accrueThenSetFactor now msgSender asset reserveFactor = .ok first)
    (other : pool.setFactorThenAccrue now msgSender asset reserveFactor = .ok second) :
    ∃ accrued lToken minted minted',
      Orders pool now asset reserveFactor first second accrued lToken minted minted' := by
  simp only [accrueThenSetFactor, bind_eq_ok] at one
  obtain ⟨accrued, accrual, changed⟩ := one
  obtain ⟨configuration, written, rfl⟩ := updateConfiguration_ok changed
  simp only [setFactorThenAccrue, bind_eq_ok, pure_eq_ok] at other
  obtain ⟨_, changed', accrued', accrual', rfl⟩ := other
  obtain ⟨configuration', written', rfl⟩ := updateConfiguration_ok changed'
  rw [setReserve_same] at accrual' written
  obtain ⟨lToken, _, _, run⟩ := Reserve.updateState_ok accrual
  obtain ⟨lToken', _, _, run'⟩ := Reserve.updateState_ok accrual'
  have kept : accrued.configuration = (pool.reserves asset).configuration := by
    rw [run.result]
  rw [kept, written'] at written
  obtain rfl := Except.ok.inj written
  obtain ⟨bound, changedTo⟩ := ReserveConfiguration.setBounded_ok _ written'
  obtain ⟨minted, before, mintedBefore⟩ := run.treasuryMint
  obtain ⟨minted', after, mintedAfter⟩ := run'.treasuryMint
  have factor : configuration'.getReserveFactor = reserveFactor := by
    rw [changedTo]
    exact ReserveConfiguration.getField_setField _ (Nat.lt_of_le_of_lt bound (by decide))
  rw [factor] at after
  refine ⟨{ accrued with configuration := configuration' }, lToken', minted, minted', ?_, ?_, before,
    after, ?_, mintedAfter⟩
  · rw [setReserve_again, setReserve_same]
  · rw [setReserve_again, run.configured run']
  · rw [run.result]
    exact mintedBefore

/-- The suppliers' part of the interest was settled when the liquidity rate was stored; the
treasury's is that of whichever factor is in force when the reserve accrues. -/
theorem factor_moves_only_treasury (pool : LendingPool) (now : Nat) (msgSender asset : Address)
    (reserveFactor : Nat) (first second : LendingPool)
    (accruedFirst : pool.accrueThenSetFactor now msgSender asset reserveFactor = .ok first)
    (changedFirst : pool.setFactorThenAccrue now msgSender asset reserveFactor = .ok second) :
    let reserve := pool.reserves asset
    let inForce := reserve.configuration.getReserveFactor
    second = first.setReserve asset
      { first.reserves asset with lToken := (second.reserves asset).lToken } ∧
    (∃ minted minted', reserve.treasuryMint now inForce = .ok minted ∧
      reserve.treasuryMint now reserveFactor = .ok minted' ∧
      Reserve.TreasuryMinted reserve.lToken (first.reserves asset).lToken minted ∧
      Reserve.TreasuryMinted reserve.lToken (second.reserves asset).lToken minted') ∧
    (reserve.treasuryMint now inForce = reserve.treasuryMint now reserveFactor → first = second) ∧
    ∀ factor minted, factor ≠ 0 → factor ≤ PERCENTAGE_FACTOR →
      reserve.treasuryMint now factor = .ok minted →
      ∃ interest, reserve.accruedInterest now = .ok interest ∧
        minted ≤ divHalfUp (interest * RAY) (reserve.accruedLiquidityIndex now) := by
  obtain ⟨accrued, lToken, minted, minted', both⟩ := orders accruedFirst changedFirst
  obtain ⟨rfl, rfl, before, after, mintedBefore, mintedAfter⟩ := both
  refine ⟨?_, ?_, fun same => ?_, fun factor minted some part mint => ?_⟩
  · rw [setReserve_again, setReserve_same, setReserve_same]
  · rw [setReserve_same, setReserve_same]
    exact ⟨minted, minted', before, after, mintedBefore, mintedAfter⟩
  · rw [before, after] at same
    obtain rfl := Except.ok.inj same
    rw [mintedAfter.unique mintedBefore]
  · rw [Reserve.treasuryMint, if_neg some] at mint
    simp only [bind_eq_ok, pure_eq_ok, percentMul_eq_ok] at mint
    obtain ⟨interest, accrued, _, ⟨_, rfl⟩, rfl⟩ := mint
    refine ⟨interest, accrued, ?_⟩
    exact divHalfUp_mono (Nat.mul_le_mul_right RAY (divHalfUp_le_self part)) _

-- A year of interest on a tenth of what one account supplied, at a factor of zero until then.
theorem factor_change_retroactive :
    ∃ world first second interest, Runs.run World.step Market.start World.borrowedOnce = .ok world ∧
      world.pool.accrueThenSetFactor 31536001 3 10 10000 = .ok first ∧
      world.pool.setFactorThenAccrue 31536001 3 10 10000 = .ok second ∧
      (world.pool.reserves 10).accruedInterest 31536001 = .ok interest ∧
      (first.reserves 10).lToken.scaledBalanceOf 99 < (second.reserves 10).lToken.scaledBalanceOf 99 ∧
      (first.reserves 10).lToken.scaledTotalSupply < (second.reserves 10).lToken.scaledTotalSupply ∧
      ∃ supplied supplied' treasury, (world.pool.reserves 10).lTokenBalanceOf 1 100 = .ok supplied ∧
        (second.reserves 10).lTokenBalanceOf 31536001 100 = .ok supplied' ∧
        (second.reserves 10).lTokenBalanceOf 31536001 99 = .ok treasury ∧
        interest < (supplied' - supplied) + treasury := by
  have outcome : yields (Runs.run World.step Market.start World.borrowedOnce) (fun world =>
      yields (world.pool.accrueThenSetFactor 31536001 3 10 10000) fun first =>
      yields (world.pool.setFactorThenAccrue 31536001 3 10 10000) fun second =>
      yields ((world.pool.reserves 10).accruedInterest 31536001) fun interest =>
      yields ((world.pool.reserves 10).lTokenBalanceOf 1 100) fun supplied =>
      yields ((second.reserves 10).lTokenBalanceOf 31536001 100) fun supplied' =>
      yields ((second.reserves 10).lTokenBalanceOf 31536001 99) fun treasury =>
        (first.reserves 10).lToken.scaledBalanceOf 99 < (second.reserves 10).lToken.scaledBalanceOf 99 ∧
        (first.reserves 10).lToken.scaledTotalSupply <
          (second.reserves 10).lToken.scaledTotalSupply ∧
        interest < (supplied' - supplied) + treasury) := by
    decide +kernel
  obtain ⟨world, ran, rest⟩ := yields_iff.1 outcome
  obtain ⟨first, accruedFirst, rest⟩ := yields_iff.1 rest
  obtain ⟨second, changedFirst, rest⟩ := yields_iff.1 rest
  obtain ⟨interest, accrued, rest⟩ := yields_iff.1 rest
  obtain ⟨supplied, before, rest⟩ := yields_iff.1 rest
  obtain ⟨supplied', after, rest⟩ := yields_iff.1 rest
  obtain ⟨treasury, minted, facts⟩ := yields_iff.1 rest
  obtain ⟨balance, supply, excess⟩ := of_decide_eq_true facts
  exact ⟨world, first, second, interest, ran, accruedFirst, changedFirst, accrued, balance, supply,
    supplied, supplied', treasury, before, after, minted, excess⟩

-- The same year: its interest leaves the supplier with the same index in either order.
theorem factor_change_at_market :
    ∃ world first second, Runs.run World.step Market.start World.borrowedOnce = .ok world ∧
      world.pool.accrueThenSetFactor 31536001 3 10 2000 = .ok first ∧
      world.pool.setFactorThenAccrue 31536001 3 10 2000 = .ok second ∧
      second = first.setReserve 10
        { first.reserves 10 with lToken := (second.reserves 10).lToken } := by
  have outcome : yields (Runs.run World.step Market.start World.borrowedOnce) (fun world =>
      yields (world.pool.accrueThenSetFactor 31536001 3 10 2000) fun _ =>
      yields (world.pool.setFactorThenAccrue 31536001 3 10 2000) fun _ => true) := by
    decide +kernel
  obtain ⟨world, ran, rest⟩ := yields_iff.1 outcome
  obtain ⟨first, accruedFirst, rest⟩ := yields_iff.1 rest
  obtain ⟨second, changedFirst, _⟩ := yields_iff.1 rest
  exact ⟨world, first, second, ran, accruedFirst, changedFirst,
    (factor_moves_only_treasury _ _ _ _ _ _ _ accruedFirst changedFirst).1⟩

end LendingPool

end PalmyProtocol
