import PalmyProtocol.System.ReserveFrame

set_option autoImplicit false

namespace PalmyProtocol

open Checked LendingPool

namespace Reserve

variable {reserve middle after : Reserve}

structure Rests (reserve after : Reserve) : Prop where
  data : after.toReserveData = reserve.toReserveData
  underlying : after.underlying = reserve.underlying
  supply : after.lToken.base.totalSupply = reserve.lToken.base.totalSupply
  stable : ∃ borrowAllowances,
    after.stableDebtToken = { reserve.stableDebtToken with borrowAllowances }
  floating : after.variableDebtToken.base = reserve.variableDebtToken.base

theorem Rests.refl (reserve : Reserve) : Rests reserve reserve :=
  ⟨rfl, rfl, rfl, ⟨_, rfl⟩, rfl⟩

theorem Rests.trans (first : Rests reserve middle) (second : Rests middle after) :
    Rests reserve after := by
  obtain ⟨_, stable⟩ := first.stable
  obtain ⟨_, stable'⟩ := second.stable
  rw [stable] at stable'
  exact ⟨second.data.trans first.data, second.underlying.trans first.underlying,
    second.supply.trans first.supply, ⟨_, stable'⟩, second.floating.trans first.floating⟩

theorem Rests.cash (rests : Rests reserve after) :
    after.availableLiquidity = reserve.availableLiquidity := by
  rw [availableLiquidity, availableLiquidity, rests.underlying, rests.data]

end Reserve

namespace Call

variable {env : Env} {pool after : LendingPool} {msgSender asset : Address}

def Leaves (asset : Address) : Call → Prop
  | deposit a _ _ | withdraw a _ _ | borrow a _ _ _ | repay a _ _ _ | swapBorrowRateMode a _ =>
    a ≠ asset
  | liquidationCall collateralAsset debtAsset _ _ receiveLToken =>
    debtAsset ≠ asset ∧ (collateralAsset = asset → receiveLToken = true)
  | _ => True

theorem rests_setReserve {other : Address} {reserve : Reserve}
    (rests : Reserve.Rests (pool.reserves other) reserve) :
    Reserve.Rests (pool.reserves asset) ((pool.setReserve other reserve).reserves asset) := by
  by_cases same : asset = other
  · subst same
    rwa [setReserve_same]
  · rw [setReserve_other same]
    exact .refl _

theorem moveLTokens_rests {other sender recipient : Address} {amount : Nat}
    (computed : pool.moveLTokens env other sender recipient amount = .ok after) :
    Reserve.Rests (pool.reserves asset) (after.reserves asset) := by
  obtain ⟨lToken, supply, same⟩ := moveLTokens_reserves computed
  rw [same]
  exact rests_setReserve ⟨rfl, rfl, supply, ⟨_, rfl⟩, rfl⟩

theorem updateAllowance_rests {other : Address} {change : ERC20 → Result ERC20}
    (kept : ∀ base base', change base = .ok base' → ERC20.SameHoldings base base')
    (computed : pool.updateAllowance other change = .ok after) :
    Reserve.Rests (pool.reserves asset) (after.reserves asset) := by
  obtain ⟨_, _, changed, rfl⟩ := updateAllowance_ok computed
  exact rests_setReserve ⟨rfl, rfl, (kept _ _ changed).totalSupply, ⟨_, rfl⟩, rfl⟩

theorem execute_rests {call : Call} (leaves : call.Leaves asset)
    (idle : ∀ user, call ≠ .rebalanceStableBorrowRate asset user)
    (computed : call.execute env pool msgSender = .ok after) :
    Reserve.Rests (pool.reserves asset) (after.reserves asset) := by
  have elsewhere : asset ∉ call.assets →
      Reserve.Rests (pool.reserves asset) (after.reserves asset) := by
    intro untouched
    rw [execute_other untouched computed]
    exact .refl _
  cases call with
  | deposit | withdraw | borrow | repay | swapBorrowRateMode =>
      apply elsewhere
      simpa [assets] using Ne.symm leaves
  | rebalanceStableBorrowRate a user =>
      apply elsewhere
      have different : asset ≠ a := fun same => idle user (by rw [same])
      simpa [assets] using different
  | setUserUseReserveAsCollateral => exact elsewhere (by simp [assets])
  | liquidationCall collateralAsset debtAsset user debtToCover receiveLToken =>
      obtain ⟨different, inKind⟩ := leaves
      obtain ⟨lToken, shape, supply, _⟩ := liquidationCall_collateral (Ne.symm different)
        (fun same => inKind same.symm) computed
      rw [shape]
      exact ⟨rfl, rfl, supply, ⟨_, rfl⟩, rfl⟩
  | transfer => exact moveLTokens_rests computed
  | transferFrom =>
      simp only [execute, LendingPool.transferFrom, bind_eq_ok] at computed
      obtain ⟨_, moved, allowed⟩ := computed
      exact (moveLTokens_rests moved).trans
        (updateAllowance_rests (fun _ _ => ERC20.spendAllowance_holdings) allowed)
  | approve => exact updateAllowance_rests (fun _ _ => ERC20.approve_holdings) computed
  | increaseAllowance =>
      exact updateAllowance_rests (fun _ _ => ERC20.increaseAllowance_holdings) computed
  | decreaseAllowance =>
      exact updateAllowance_rests (fun _ _ => ERC20.decreaseAllowance_holdings) computed
  | approveStableDelegation | approveVariableDelegation =>
      simp only [execute, LendingPool.approveStableDelegation,
        LendingPool.approveVariableDelegation, bind_eq_ok, pure_eq_ok] at computed
      obtain ⟨_, _, rfl⟩ := computed
      exact rests_setReserve ⟨rfl, rfl, rfl, ⟨_, rfl⟩, rfl⟩

end Call

def Event.Leaves (asset : Address) : Event → Prop
  | .call _ made => made.Leaves asset
  | .flashLoan _ _ assets amounts modes _ =>
    ∀ request ∈ flashLoanRequests assets amounts modes, request.1 = asset → request.2.2 = some 0
  | _ => True

namespace World

variable {world : World} {asset : Address}

theorem outstanding_cons {frame : Frame} {rest : List Frame} (stack : world.frames = frame :: rest) :
    world.outstanding asset = LendingPool.outstanding asset frame.pending +
      (rest.map fun frame => LendingPool.outstanding asset frame.pending).sum := by
  rw [outstanding, stack, List.map_cons, List.sum_cons]

end World

end PalmyProtocol
