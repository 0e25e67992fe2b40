import PalmyProtocol.System.Upgrades

set_option autoImplicit false

namespace PalmyProtocol

open Checked Rounding LendingPool

structure Replaced (pool : LendingPool) (input : InitReserveInput) (after : LendingPool) : Prop where
  others : ∀ a, a ≠ input.underlyingAsset → after.reserves a = pool.reserves a
  lToken : (after.reserves input.underlyingAsset).lTokenAddress = input.proxies.lToken
  liquidityIndex : (after.reserves input.underlyingAsset).liquidityIndex =
    (pool.reserves input.underlyingAsset).liquidityIndex
  variableBorrowIndex : (after.reserves input.underlyingAsset).variableBorrowIndex =
    (pool.reserves input.underlyingAsset).variableBorrowIndex
  place : Appended pool input.underlyingAsset after ∨
    ((pool.reserves input.underlyingAsset).lTokenAddress ≠ 0 ∧
      (after.reserves input.underlyingAsset).id = (pool.reserves input.underlyingAsset).id ∧
      after.reservesList = pool.reservesList ∧ after.reservesCount = pool.reservesCount ∧
      after.maxNumberOfReserves = pool.maxNumberOfReserves)

namespace LendingPool

variable {env : Env} {pool after : LendingPool} {asset : Address}

theorem addReserveToList_again (present : (pool.reserves asset).id ≠ 0 ∨ pool.reservesList 0 = asset)
    (computed : pool.addReserveToList asset = .ok after) : after = pool := by
  simp only [addReserveToList, present, if_true, bind_eq_ok, require_eq_ok, exists_const,
    pure_eq_ok] at computed
  exact computed.2.2.symm

theorem Numbered.listed_present (numbered : Numbered pool)
    (listed : (pool.reserves asset).lTokenAddress ≠ 0) :
    (pool.reserves asset).id ≠ 0 ∨ pool.reservesList 0 = asset := by
  by_cases first : (pool.reserves asset).id = 0
  · have place := (numbered.listed asset listed).2
    rw [first] at place
    exact .inr place
  · exact .inl first

theorem replaceReserve_ok (numbered : Numbered pool) {input : InitReserveInput}
    (computed : LendingPoolConfigurator.initReserveWith .lendingPoolTmp env pool input = .ok after) :
    Replaced pool input after := by
  simp only [LendingPoolConfigurator.initReserveWith, Implementation.initReserve,
    LendingPoolTmp.initReserve, onlyLendingPoolConfigurator, bind_eq_ok, require_eq_ok,
    exists_const] at computed
  obtain ⟨_, asset_ne, _, listed, ⟨_, _, added⟩, config, _, written⟩ := computed
  have result := LendingPoolConfigurator.setConfiguration_ok written
  by_cases vacant : (pool.reserves input.underlyingAsset).lTokenAddress = 0
  · have absent := numbered.unlisted_absent vacant asset_ne
    obtain ⟨room, rfl⟩ := addReserveToList_ok (by simpa using absent) added
    have bound : pool.reservesCount < 128 := Nat.lt_of_lt_of_eq room numbered.maximum
    have small : pool.reservesCount % 256 = pool.reservesCount := Nat.mod_eq_of_lt (by omega)
    rw [result]
    refine ⟨fun a other => by simp [setReserve, other], by simp [setReserve],
      by simp [setReserve], by simp [setReserve], .inl ⟨vacant, asset_ne, bound, rfl,
        fun a other => by simp [setReserve, other], ?_, ?_, rfl, rfl⟩⟩
    · simpa [setReserve] using input.proxies.lToken_ne
    · simp [setReserve, small]
  · have present := numbered.listed_present vacant
    have same := addReserveToList_again (by simpa using present) added
    rw [result, same]
    exact ⟨fun a other => by simp [setReserve, other], by simp [setReserve],
      by simp [setReserve], by simp [setReserve],
      .inr ⟨vacant, by simp [setReserve], rfl, rfl, rfl⟩⟩

theorem Numbered.replaced (numbered : Numbered pool) {input : InitReserveInput}
    (replaced : Replaced pool input after) : Numbered after := by
  rcases replaced.place with appended | ⟨listed, id, list, count, maximum⟩
  · exact numbered.appended appended
  · have present : (after.reserves input.underlyingAsset).lTokenAddress ≠ 0 := by
      rw [replaced.lToken]
      exact input.proxies.lToken_ne
    have kept : ∀ a, ((after.reserves a).lTokenAddress ≠ 0 ↔
        (pool.reserves a).lTokenAddress ≠ 0) ∧ (after.reserves a).id = (pool.reserves a).id := by
      intro a
      by_cases same : a = input.underlyingAsset
      · rw [same]
        exact ⟨iff_of_true present listed, id⟩
      · rw [replaced.others a same]
        exact ⟨Iff.rfl, rfl⟩
    refine ⟨?_, ?_, ?_, ?_, ?_, ?_, ?_⟩
    · rw [maximum]
      exact numbered.maximum
    · rw [count]
      exact numbered.count
    · intro a there
      rw [(kept a).2, count, list]
      exact numbered.listed a ((kept a).1.1 there)
    · intro i below
      rw [count] at below
      rw [list, (kept _).1, (kept _).2]
      exact numbered.members i below
    · intro a unlisted
      rw [(kept a).2]
      apply numbered.vacant a
      by_contra there
      exact (kept a).1.2 there unlisted
    · intro i beyond
      rw [count] at beyond
      rw [list]
      exact numbered.tail i beyond
    · intro a there
      exact numbered.contracts a ((kept a).1.1 there)

end LendingPool

-- An index of zero stays zero: every change multiplies it.
theorem Reserve.Operation.zero_index {env : Env} {reserve after : Reserve}
    (zero : reserve.liquidityIndex = 0) (operation : Reserve.Operation env reserve after) :
    after.liquidityIndex = 0 := by
  have nothing : divHalfUp 0 RAY = 0 := by decide
  cases operation.moved with
  | accrue computed =>
      obtain ⟨_, _, _, run⟩ := updateState_ok computed
      rw [run.result]
      refine run.liquidity.trans ?_
      rw [ReserveData.accruedLiquidityIndex, zero, Nat.mul_zero, nothing, ite_self]
  | rate data => rw [data, zero]
  | income computed =>
      obtain ⟨_, liquidityIndex, cumulated, data⟩ :=
        ReserveData.cumulateToLiquidityIndex_ok computed
      rw [zero, Nat.mul_zero, nothing] at cumulated
      rw [data]
      exact cumulated
  | keep data => rw [data, zero]

theorem Reserve.Steps.zero_index {env : Env} {reserve after : Reserve}
    (zero : reserve.liquidityIndex = 0) (steps : Reserve.Steps env reserve after) :
    after.liquidityIndex = 0 := by
  induction steps with
  | refl => exact zero
  | tail _ last ih =>
      cases last with
      | operation operation => exact operation.zero_index ih
      | ledger | configure | choose => exact ih

namespace Deployment

def Refuses (deployment : Deployment) (event : DeploymentEvent) : Prop :=
  ∀ msgSender input, event = .world (.admin msgSender (.batchInitReserve input)) →
    deployment.implementation ≠ .lendingPoolTmp

inductive Changed (deployment : Deployment) : DeploymentEvent → LendingPool → Prop where
  | evolved {event : DeploymentEvent} {after : LendingPool} (refuses : deployment.Refuses event)
      (evolves : Evolves deployment.world.env deployment.world.pool after) :
      Changed deployment event after
  | listed {event : DeploymentEvent} {input : List InitReserveInput} {after : LendingPool}
      (refuses : deployment.Refuses event)
      (computed : input.foldlM (LendingPoolConfigurator.initReserve deployment.world.env)
        deployment.world.pool = .ok after) : Changed deployment event after
  | replaced {msgSender : Address} {input : List InitReserveInput} {after : LendingPool}
      (unguarded : deployment.implementation = .lendingPoolTmp)
      (admin : deployment.world.pool.addressesProvider.poolAdmin = msgSender)
      (computed : input.foldlM (LendingPoolConfigurator.initReserveWith .lendingPoolTmp
        deployment.world.env) deployment.world.pool = .ok after) :
      Changed deployment (.world (.admin msgSender (.batchInitReserve input))) after
  | upgraded {implementation : Implementation} (provider : AddressesProvider) :
      Changed deployment (.upgrade implementation) (deployment.world.pool.initializeRevision provider)

variable {deployment next : Deployment} {event : DeploymentEvent}

theorem payBackRetired_operates {env : Env} {pool after : LendingPool} {receiverAddress : Address}
    {lent : LToken} {entry : FlashLoanEntry}
    (computed : payBackRetired env pool receiverAddress lent entry = .ok after) :
    Operates env pool after := by
  simp only [payBackRetired, bind_eq_ok, pure_eq_ok] at computed
  obtain ⟨_, _, accrued, accrue, _, _, data, income, rated, rate, funded, fund, rfl⟩ := computed
  have accruedOnce := Reserve.Operations.single (.accrue accrue)
  exact operates_setReserve (((accruedOnce.tail (.income income)).tail (.rate rate)).tail
    (.fund fund))

theorem settleFlashLoan_operates {env : Env} {pool after : LendingPool} {frame : Frame}
    {entry : FlashLoanEntry}
    (computed : deployment.settleFlashLoan env pool frame entry = .ok after) :
    Operates env pool after := by
  simp only [settleFlashLoan] at computed
  split_ifs at computed with gone
  · exact payBackRetired_operates computed
  · exact LendingPool.settleFlashLoan_operates computed

theorem batchInitReserve_changed {msgSender : Address} {input : List InitReserveInput}
    (taken : deployment.batchInitReserve msgSender input = .ok next) :
    Changed deployment (.world (.admin msgSender (.batchInitReserve input))) next.world.pool := by
  simp only [batchInitReserve, LendingPoolConfigurator.onlyPoolAdmin, bind_eq_ok, require_eq_ok,
    exists_const, pure_eq_ok] at taken
  obtain ⟨_, admin, pool, computed, rfl⟩ := taken
  by_cases unguarded : deployment.implementation = .lendingPoolTmp
  · rw [unguarded] at computed
    exact .replaced unguarded admin computed
  · rw [LendingPoolConfigurator.initReserveWith_guarded unguarded] at computed
    exact .listed (fun _ _ _ => unguarded) computed

theorem world_changed {event : Event} {world : World}
    (other : ∀ msgSender input, event ≠ .admin msgSender (.batchInitReserve input))
    (taken : deployment.world.step event = .ok world) :
    Changed deployment (.world event) world.pool := by
  have refuses : deployment.Refuses (.world event) := by
    intro msgSender input same
    exact absurd (DeploymentEvent.world.inj same) (other msgSender input)
  rcases World.step_evolves taken with ⟨input, _, _, computed⟩ | evolves
  · exact .listed refuses computed
  · exact .evolved refuses evolves

theorem step_changed (taken : deployment.step event = .ok next) :
    Changed deployment event next.world.pool := by
  cases event with
  | upgrade implementation =>
      simp only [step, bind_eq_ok, require_eq_ok, exists_const, pure_eq_ok] at taken
      obtain ⟨_, _, rfl⟩ := taken
      exact .upgraded _
  | world event =>
      cases event with
      | settle =>
          cases stack : deployment.world.frames with
          | nil => simp [step, stack] at taken
          | cons frame rest =>
              cases queue : frame.pending with
              | nil => simp [step, stack, queue] at taken
              | cons entry pending =>
                  simp only [step, stack, queue, bind_eq_ok, require_eq_ok, exists_const,
                    pure_eq_ok] at taken
                  obtain ⟨_, pool, settled, rfl⟩ := taken
                  exact .evolved (by rintro _ _ ⟨⟩) (settleFlashLoan_operates settled).evolves
      | admin msgSender call =>
          cases call with
          | batchInitReserve input => exact batchInitReserve_changed taken
          | _ =>
              simp only [step, bind_eq_ok, pure_eq_ok] at taken
              obtain ⟨world, inner, rfl⟩ := taken
              exact world_changed (by rintro _ _ ⟨⟩) inner
      | _ =>
          simp only [step, bind_eq_ok, pure_eq_ok] at taken
          obtain ⟨world, inner, rfl⟩ := taken
          exact world_changed (by rintro _ _ ⟨⟩) inner

theorem numbered_step (numbered : deployment.world.pool.Numbered)
    (taken : deployment.step event = .ok next) : next.world.pool.Numbered := by
  have changed := step_changed taken
  generalize next.world.pool = after at changed ⊢
  cases changed with
  | evolved _ evolves => exact numbered.evolves evolves
  | listed _ computed =>
      refine foldlM_invariant Numbered ?_ numbered computed
      intro pool listing after _ before here
      obtain ⟨_, listed⟩ := initReserve_ok before here
      exact before.appended listed.appended
  | replaced _ _ computed =>
      refine foldlM_invariant Numbered ?_ numbered computed
      intro pool listing after _ before here
      exact before.replaced (replaceReserve_ok before here)
  | upgraded =>
      exact ⟨rfl, numbered.count, numbered.listed, numbered.members, numbered.vacant,
        numbered.tail, numbered.contracts⟩

theorem Initial.numbered (initial : deployment.Initial) : deployment.world.pool.Numbered := by
  obtain ⟨⟨_, self, provider, ledgers, start⟩, _⟩ := initial
  rw [start]
  exact numbered_initialized self provider ledgers

theorem Reachable.numbered (reached : deployment.Reachable) : deployment.world.pool.Numbered :=
  Runs.Reachable.invariant (fun d => d.world.pool.Numbered) reached
    (fun _ initial => initial.numbered)
    (fun _ _ _ numbered taken => numbered_step numbered taken)

end Deployment

namespace LendingPool

structure Bijective (pool : LendingPool) : Prop where
  count : pool.reservesCount ≤ 128
  nonzero : ∀ i < pool.reservesCount, pool.reservesList i ≠ 0
  distinct : ∀ i < pool.reservesCount, ∀ j < pool.reservesCount,
    pool.reservesList i = pool.reservesList j → i = j
  ids : ∀ i < pool.reservesCount, (pool.reserves (pool.reservesList i)).id = i
  once : ∀ asset, (pool.reserves asset).lTokenAddress ≠ 0 →
    ∃! i, i < pool.reservesCount ∧ pool.reservesList i = asset
  -- writing the flags of one listed asset leaves those of another
  separate : ∀ asset other, (pool.reserves asset).lTokenAddress ≠ 0 →
    (pool.reserves other).lTokenAddress ≠ 0 → asset ≠ other →
    ∀ (config written : UserConfigurationMap) (flag : Bool),
      config.setBorrowing (pool.reserves asset).id flag = .ok written ∨
        config.setUsingAsCollateral (pool.reserves asset).id flag = .ok written →
      written.isBorrowing (pool.reserves other).id = config.isBorrowing (pool.reserves other).id ∧
        written.isUsingAsCollateral (pool.reserves other).id =
          config.isUsingAsCollateral (pool.reserves other).id
  visited : ∀ i < pool.reservesCount, ∀ config : UserConfigurationMap,
    ∃ used, config.isUsingAsCollateralOrBorrowing i = .ok used

variable {pool : LendingPool}

theorem Numbered.separate (numbered : Numbered pool) {asset other : Address}
    (listed : (pool.reserves asset).lTokenAddress ≠ 0)
    (listed' : (pool.reserves other).lTokenAddress ≠ 0) (different : asset ≠ other)
    {config written : UserConfigurationMap} {flag : Bool}
    (wrote : config.setBorrowing (pool.reserves asset).id flag = .ok written ∨
      config.setUsingAsCollateral (pool.reserves asset).id flag = .ok written) :
    written.isBorrowing (pool.reserves other).id = config.isBorrowing (pool.reserves other).id ∧
      written.isUsingAsCollateral (pool.reserves other).id =
        config.isUsingAsCollateral (pool.reserves other).id := by
  have apart : (pool.reserves other).id ≠ (pool.reserves asset).id :=
    fun same => different (numbered.id_injective listed listed' same.symm)
  have index : (pool.reserves other).id < 128 := numbered.id_lt listed'
  have flags : written.borrows (pool.reserves other).id = config.borrows (pool.reserves other).id ∧
      written.collateralises (pool.reserves other).id =
        config.collateralises (pool.reserves other).id := by
    rcases wrote with borrowed | collateralised
    · obtain ⟨_, borrows, collateralises⟩ := UserConfigurationMap.setBorrowing_ok borrowed
      exact ⟨by rw [borrows, if_neg apart], collateralises _⟩
    · obtain ⟨_, borrows, collateralises⟩ :=
        UserConfigurationMap.setUsingAsCollateral_ok collateralised
      exact ⟨borrows _, by rw [collateralises, if_neg apart]⟩
  constructor
  · rw [UserConfigurationMap.isBorrowing_eq_ok.2 ⟨index, rfl⟩,
      UserConfigurationMap.isBorrowing_eq_ok.2 ⟨index, rfl⟩, flags.1]
  · rw [UserConfigurationMap.isUsingAsCollateral_eq_ok.2 ⟨index, rfl⟩,
      UserConfigurationMap.isUsingAsCollateral_eq_ok.2 ⟨index, rfl⟩, flags.2]

theorem Numbered.bijective (numbered : Numbered pool) : Bijective pool where
  count := numbered.count
  nonzero i below := numbered.contracts _ (numbered.members i below).1
  distinct i below j below' same := by
    rw [← (numbered.members i below).2, same, (numbered.members j below').2]
  ids i below := (numbered.members i below).2
  once asset listed := by
    obtain ⟨below, place⟩ := numbered.listed asset listed
    refine ⟨(pool.reserves asset).id, ⟨below, place⟩, ?_⟩
    rintro j ⟨inside, there⟩
    rw [← there, (numbered.members j inside).2]
  separate _ _ listed listed' different _ _ _ wrote :=
    numbered.separate listed listed' different wrote
  visited i below config :=
    ⟨_, UserConfigurationMap.isUsingAsCollateralOrBorrowing_eq_ok.2
      ⟨Nat.lt_of_lt_of_le below numbered.count, rfl⟩⟩

end LendingPool

namespace Deployment

variable {deployment next : Deployment} {event : DeploymentEvent}

/-- However listings, re-listings and upgrades follow each other, ids stay a bijection. -/
theorem Reachable.ids_bijective (reached : deployment.Reachable) :
    deployment.world.pool.Bijective := reached.numbered.bijective

-- Listed, upgraded, listed again beside a second asset, upgraded again, and a third asset.
def threeRevisions : List DeploymentEvent :=
  [.world (.admin 3 (.batchInitReserve [Market.listing 10 Market.strategy])),
    .upgrade .lendingPoolTmp,
    .world (.admin 3 (.batchInitReserve
      [Market.relisting 10 Market.strategy, Market.listing 20 Market.strategy])),
    .upgrade .lendingPoolV4,
    .world (.admin 3 (.batchInitReserve [Market.listing 30 Market.strategy]))]

theorem ids_bijective_threeRevisions :
    ∃ deployment, Runs.run step Market.deployed threeRevisions = .ok deployment ∧
      deployment.world.pool.reservesCount = 3 ∧ deployment.world.pool.Bijective := by
  have outcome : yields (Runs.run step Market.deployed threeRevisions)
      (fun deployment => deployment.world.pool.reservesCount = 3) := by
    decide +kernel
  obtain ⟨deployment, ran, count⟩ := yields_iff.1 outcome
  have reached : deployment.Reachable := ⟨Market.deployed, _, Market.deployed_initial, ran⟩
  exact ⟨deployment, ran, of_decide_eq_true count, reached.ids_bijective⟩

def Replaces (deployment : Deployment) (asset : Address) : DeploymentEvent → Prop
  | .world (.admin msgSender (.batchInitReserve input)) =>
    deployment.implementation = .lendingPoolTmp ∧
      deployment.world.pool.addressesProvider.poolAdmin = msgSender ∧
      ∃ listing ∈ input, listing.underlyingAsset = asset
  | _ => False

structure SameTokens (reserve after : Reserve) : Prop where
  lToken : after.lTokenAddress = reserve.lTokenAddress
  stableDebtToken : after.stableDebtTokenAddress = reserve.stableDebtTokenAddress
  variableDebtToken : after.variableDebtTokenAddress = reserve.variableDebtTokenAddress

theorem SameTokens.trans {reserve middle after : Reserve} (first : SameTokens reserve middle)
    (second : SameTokens middle after) : SameTokens reserve after :=
  ⟨second.lToken.trans first.lToken, second.stableDebtToken.trans first.stableDebtToken,
    second.variableDebtToken.trans first.variableDebtToken⟩

theorem tokens_step {asset : Address} (numbered : deployment.world.pool.Numbered)
    (listed : (deployment.world.pool.reserves asset).lTokenAddress ≠ 0)
    (kept : ¬deployment.Replaces asset event) (taken : deployment.step event = .ok next) :
    SameTokens (deployment.world.pool.reserves asset) (next.world.pool.reserves asset) := by
  have changed := step_changed taken
  generalize next.world.pool = after at changed ⊢
  cases changed with
  | evolved _ evolves =>
      have keeps := evolves.keeps asset
      exact ⟨keeps.lTokenAddress, keeps.stableDebtTokenAddress, keeps.variableDebtTokenAddress⟩
  | listed _ computed =>
      -- the guard of `init` makes every asset of the batch another one
      have both := foldlM_invariant (fun p => p.Numbered ∧
        p.reserves asset = deployment.world.pool.reserves asset) ?_ ⟨numbered, rfl⟩ computed
      · rw [both.2]
        exact ⟨rfl, rfl, rfl⟩
      · rintro pool listing after' _ ⟨before, same⟩ here
        obtain ⟨_, entered⟩ := initReserve_ok before here
        have other : asset ≠ listing.underlyingAsset := by
          intro itself
          apply listed
          rw [← same, itself]
          exact entered.vacant
        exact ⟨before.appended entered.appended, (entered.appended.others asset other).trans same⟩
  | replaced unguarded admin computed =>
      have both := foldlM_invariant (fun p => p.Numbered ∧
        p.reserves asset = deployment.world.pool.reserves asset) ?_ ⟨numbered, rfl⟩ computed
      · rw [both.2]
        exact ⟨rfl, rfl, rfl⟩
      · rintro pool listing after' member ⟨before, same⟩ here
        have entered := replaceReserve_ok before here
        have other : asset ≠ listing.underlyingAsset :=
          fun itself => kept ⟨unguarded, admin, listing, member, itself.symm⟩
        exact ⟨before.replaced entered, (entered.others asset other).trans same⟩
  | upgraded => exact ⟨rfl, rfl, rfl⟩

theorem Reachable.tokens_kept (reached : deployment.Reachable) {asset : Address}
    {events : List DeploymentEvent} {final : Deployment}
    (listed : (deployment.world.pool.reserves asset).lTokenAddress ≠ 0)
    (ran : Runs.run step deployment events = .ok final)
    (replaced : ¬SameTokens (deployment.world.pool.reserves asset)
      (final.world.pool.reserves asset)) :
    ∃ before event rest earlier, events = before ++ event :: rest ∧
      Runs.run step deployment before = .ok earlier ∧ earlier.Replaces asset event := by
  by_contra none
  apply replaced
  have invariant := Runs.run_invariant_of
    (fun d : Deployment => d.world.pool.Numbered ∧
      SameTokens (deployment.world.pool.reserves asset) (d.world.pool.reserves asset))
    (fun d event => ¬d.Replaces asset event) ?_ ⟨reached.numbered, rfl, rfl, rfl⟩ ?_ ran
  · exact invariant.2
  · rintro d event d' ⟨numbered, same⟩ kept taken
    have present : (d.world.pool.reserves asset).lTokenAddress ≠ 0 := by
      rw [same.lToken]
      exact listed
    exact ⟨numbered_step numbered taken, same.trans (tokens_step numbered present kept taken)⟩
  · intro before event rest earlier split there replaces
    exact none ⟨before, event, rest, earlier, split, there, replaces⟩

def depositedThenUpgraded : List DeploymentEvent :=
  [.world (.admin 3 (.batchInitReserve [Market.listing 10 Market.strategy])),
    .world (.call 100 (.deposit 10 (100 * WAD) 100)), .upgrade .lendingPoolTmp]

def relistedEvent : DeploymentEvent :=
  .world (.admin 3 (.batchInitReserve [Market.relisting 10 Market.strategy]))

theorem depositedThenUpgraded_replaced :
    ∃ deployment next, Runs.run step Market.deployed depositedThenUpgraded = .ok deployment ∧
      deployment.step relistedEvent = .ok next ∧
      (next.world.pool.reserves 10).lTokenAddress ≠
        (deployment.world.pool.reserves 10).lTokenAddress ∧
      (deployment.world.pool.reserves 10).lToken.scaledTotalSupply = 100 * WAD ∧
      ¬∃ after, next.step (.world (.call 100 (.withdraw 10 1 100))) = .ok after := by
  have outcome : yields (Runs.run step Market.deployed depositedThenUpgraded)
      (fun deployment => yields (deployment.step relistedEvent) (fun next =>
        ((next.world.pool.reserves 10).lTokenAddress ≠
            (deployment.world.pool.reserves 10).lTokenAddress ∧
          (deployment.world.pool.reserves 10).lToken.scaledTotalSupply = 100 * WAD) &&
        !yields (next.step (.world (.call 100 (.withdraw 10 1 100)))) (fun _ => true))) := by
    decide +kernel
  obtain ⟨deployment, ran, later⟩ := yields_iff.1 outcome
  obtain ⟨next, taken, facts⟩ := yields_iff.1 later
  obtain ⟨changed, stuck⟩ := (Bool.and_eq_true _ _).mp facts
  obtain ⟨replaced, supply⟩ := of_decide_eq_true changed
  refine ⟨deployment, next, ran, taken, replaced, supply, ?_⟩
  rintro ⟨after, withdrawn⟩
  simp [yields, withdrawn] at stuck

theorem tokens_kept_relisted :
    ∃ listed final, Runs.run step Market.deployed [.world (.admin 3 (.batchInitReserve
          [Market.listing 10 Market.strategy]))] = .ok listed ∧
      Runs.run step listed [.upgrade .lendingPoolTmp, relistedEvent] = .ok final ∧
      ∃ before event rest earlier,
        [.upgrade .lendingPoolTmp, relistedEvent] = before ++ event :: rest ∧
        Runs.run step listed before = .ok earlier ∧ earlier.Replaces 10 event := by
  have outcome : yields (Runs.run step Market.deployed [.world (.admin 3 (.batchInitReserve
        [Market.listing 10 Market.strategy]))])
      (fun listed => yields (Runs.run step listed [.upgrade .lendingPoolTmp, relistedEvent])
        (fun final => (listed.world.pool.reserves 10).lTokenAddress ≠ 0 ∧
          (final.world.pool.reserves 10).lTokenAddress ≠
            (listed.world.pool.reserves 10).lTokenAddress)) := by
    decide +kernel
  obtain ⟨listed, opened, later⟩ := yields_iff.1 outcome
  obtain ⟨final, ran, facts⟩ := yields_iff.1 later
  obtain ⟨present, changed⟩ := of_decide_eq_true facts
  have reached : listed.Reachable := ⟨Market.deployed, _, Market.deployed_initial, opened⟩
  exact ⟨listed, final, opened, ran,
    reached.tokens_kept present ran fun same => changed same.lToken⟩

def Untouched (pool : LendingPool) : Prop :=
  ∀ a, (pool.reserves a).lTokenAddress = 0 → (pool.reserves a).liquidityIndex = 0

theorem untouched_step (numbered : deployment.world.pool.Numbered)
    (untouched : Untouched deployment.world.pool) (taken : deployment.step event = .ok next) :
    Untouched next.world.pool := by
  have changed := step_changed taken
  generalize next.world.pool = after at changed ⊢
  cases changed with
  | evolved _ evolves =>
      intro a vacant
      rw [(evolves.keeps a).lTokenAddress] at vacant
      exact (evolves.steps a).zero_index (untouched a vacant)
  | listed _ computed =>
      have both := foldlM_invariant (fun p => p.Numbered ∧ Untouched p) ?_
        ⟨numbered, untouched⟩ computed
      · exact both.2
      · rintro pool listing after' _ ⟨before, untouched⟩ here
        obtain ⟨_, listed⟩ := initReserve_ok before here
        refine ⟨before.appended listed.appended, fun a vacant => ?_⟩
        have other : a ≠ listing.underlyingAsset :=
          fun itself => listed.appended.present (itself ▸ vacant)
        rw [listed.appended.others a other] at vacant ⊢
        exact untouched a vacant
  | replaced _ _ computed =>
      have both := foldlM_invariant (fun p => p.Numbered ∧ Untouched p) ?_
        ⟨numbered, untouched⟩ computed
      · exact both.2
      · rintro pool listing after' _ ⟨before, untouched⟩ here
        have entered := replaceReserve_ok before here
        refine ⟨before.replaced entered, fun a vacant => ?_⟩
        have other : a ≠ listing.underlyingAsset := by
          intro itself
          rw [itself, entered.lToken] at vacant
          exact listing.proxies.lToken_ne vacant
        rw [entered.others a other] at vacant ⊢
        exact untouched a vacant
  | upgraded => exact untouched

def Usable (deployment : Deployment) : Prop :=
  ∀ asset, (deployment.world.pool.reserves asset).Sound

def OnlyRelists (deployment : Deployment) : DeploymentEvent → Prop
  | .world (.admin _ (.batchInitReserve input)) => deployment.implementation = .lendingPoolTmp →
    ∀ listing ∈ input, (deployment.world.pool.reserves listing.underlyingAsset).lTokenAddress ≠ 0
  | _ => True

theorem Refuses.onlyRelists (refuses : deployment.Refuses event) :
    deployment.OnlyRelists event := by
  unfold OnlyRelists
  split
  · next msgSender input => exact fun under => absurd under (refuses msgSender input rfl)
  · trivial

theorem usable_replaced {env : Env} {pool after : LendingPool} {input : List InitReserveInput}
    (numbered : pool.Numbered) (usable : ∀ a, (pool.reserves a).Sound)
    (relisted : ∀ listing ∈ input, (pool.reserves listing.underlyingAsset).lTokenAddress ≠ 0)
    (computed : input.foldlM (LendingPoolConfigurator.initReserveWith .lendingPoolTmp env) pool =
      .ok after) : ∀ a, (after.reserves a).Sound := by
  have all := foldlM_invariant (fun p => p.Numbered ∧ (∀ a, (p.reserves a).Sound) ∧
    ∀ listing ∈ input, (p.reserves listing.underlyingAsset).lTokenAddress ≠ 0) ?_
    ⟨numbered, usable, relisted⟩ computed
  · exact all.2.1
  · rintro p listing p' member ⟨before, sound, present⟩ here
    have entered := replaceReserve_ok before here
    refine ⟨before.replaced entered, fun a => ?_, fun listing' member' => ?_⟩
    · by_cases itself : a = listing.underlyingAsset
      · rw [itself]
        have listed := present listing member
        refine ⟨fun _ => ?_, fun _ => ?_⟩
        · rw [entered.liquidityIndex]
          exact (sound listing.underlyingAsset).liquidityIndex listed
        · rw [entered.variableBorrowIndex]
          exact (sound listing.underlyingAsset).variableBorrowIndex listed
      · rw [entered.others a itself]
        exact sound a
    · by_cases itself : listing'.underlyingAsset = listing.underlyingAsset
      · rw [itself, entered.lToken]
        exact listing.proxies.lToken_ne
      · rw [entered.others _ itself]
        exact present listing' member'

theorem unusable_replaced {env : Env} {pool after : LendingPool} {input : List InitReserveInput}
    {listing : InitReserveInput} (numbered : pool.Numbered) (member : listing ∈ input)
    (zero : (pool.reserves listing.underlyingAsset).liquidityIndex = 0)
    (computed : input.foldlM (LendingPoolConfigurator.initReserveWith .lendingPoolTmp env) pool =
      .ok after) : ¬(after.reserves listing.underlyingAsset).Sound := by
  obtain ⟨earlier, later, rfl⟩ := List.append_of_mem member
  rw [List.foldlM_append, bind_eq_ok] at computed
  obtain ⟨middle, first, rest⟩ := computed
  simp only [List.foldlM_cons, bind_eq_ok] at rest
  obtain ⟨entered, here, last⟩ := rest
  have stays : ∀ {p p' : LendingPool} {other : InitReserveInput}, Replaced p other p' →
      (p.reserves listing.underlyingAsset).liquidityIndex = 0 →
      (p'.reserves listing.underlyingAsset).liquidityIndex = 0 := by
    intro p p' other replaced before
    by_cases itself : listing.underlyingAsset = other.underlyingAsset
    · rw [itself] at before ⊢
      rw [replaced.liquidityIndex, before]
    · rw [replaced.others _ itself, before]
  have before := foldlM_invariant (fun p => p.Numbered ∧
    (p.reserves listing.underlyingAsset).liquidityIndex = 0)
    (fun p other p' _ both taken => ⟨both.1.replaced (replaceReserve_ok both.1 taken),
      stays (replaceReserve_ok both.1 taken) both.2⟩) ⟨numbered, zero⟩ first
  have replaced := replaceReserve_ok before.1 here
  have present : (entered.reserves listing.underlyingAsset).lTokenAddress ≠ 0 := by
    rw [replaced.lToken]
    exact listing.proxies.lToken_ne
  have after' := foldlM_invariant (fun p => p.Numbered ∧
    (p.reserves listing.underlyingAsset).liquidityIndex = 0 ∧
    (p.reserves listing.underlyingAsset).lTokenAddress ≠ 0) ?_
    ⟨before.1.replaced replaced, stays replaced before.2, present⟩ last
  · intro sound
    have one := sound.liquidityIndex after'.2.2
    rw [after'.2.1] at one
    exact absurd one (by decide)
  · rintro p other p' _ ⟨valid, none, listed⟩ taken
    have again := replaceReserve_ok valid taken
    refine ⟨valid.replaced again, stays again none, ?_⟩
    by_cases itself : listing.underlyingAsset = other.underlyingAsset
    · rw [itself, again.lToken]
      exact other.proxies.lToken_ne
    · rw [again.others _ itself]
      exact listed

theorem usable_step (numbered : deployment.world.pool.Numbered)
    (untouched : Untouched deployment.world.pool) (usable : deployment.Usable)
    (taken : deployment.step event = .ok next) : next.Usable ↔ deployment.OnlyRelists event := by
  have changed := step_changed taken
  unfold Usable at usable ⊢
  generalize next.world.pool = after at changed ⊢
  cases changed with
  | evolved refuses evolves =>
      exact iff_of_true (fun a => (usable a).keeps (evolves.keeps a)) refuses.onlyRelists
  | listed refuses computed =>
      refine iff_of_true ?_ refuses.onlyRelists
      have both := foldlM_invariant (fun p => p.Numbered ∧ ∀ a, (p.reserves a).Sound) ?_
        ⟨numbered, usable⟩ computed
      · exact both.2
      · rintro pool listing after' _ ⟨before, sound⟩ here
        obtain ⟨configuration, listed⟩ := initReserve_ok before here
        refine ⟨before.appended listed.appended, fun a => ?_⟩
        by_cases itself : a = listing.underlyingAsset
        · rw [itself, listed.result]
          simp only [setReserve, Function.update_self]
          exact ⟨fun _ => le_refl RAY, fun _ => le_refl RAY⟩
        · rw [listed.appended.others a itself]
          exact sound a
  | @replaced msgSender input after unguarded admin computed =>
      constructor
      · intro good _ listing member vacant
        have zero := untouched listing.underlyingAsset vacant
        exact unusable_replaced numbered member zero computed (good listing.underlyingAsset)
      · exact fun relists => usable_replaced numbered usable (relists unguarded) computed
  | upgraded => exact iff_of_true usable trivial

/-- Over upgrades, listings and everything else, every listed reserve has its indexes in every
state of a run exactly when `LendingPoolTmp` listed no new asset in it. -/
theorem usable_exactly {start final : Deployment} {events : List DeploymentEvent}
    (initial : start.Initial) (ran : Runs.run step start events = .ok final) :
    (∀ before rest state, events = before ++ rest →
        Runs.run step start before = .ok state → state.Usable) ↔
      ∀ before event rest state, events = before ++ event :: rest →
        Runs.run step start before = .ok state → state.OnlyRelists event := by
  refine Runs.run_exact (fun d => d.world.pool.Numbered ∧ Untouched d.world.pool) Usable
    OnlyRelists ?_ ?_ ?_ ?_ ran
  · exact fun d event d' both taken =>
      ⟨numbered_step both.1 taken, untouched_step both.1 both.2 taken⟩
  · exact fun d event d' both usable taken => usable_step both.1 both.2 usable taken
  · refine ⟨initial.numbered, ?_⟩
    obtain ⟨⟨_, self, provider, ledgers, begin⟩, _⟩ := initial
    rw [begin]
    exact fun _ _ => rfl
  · obtain ⟨⟨_, self, provider, ledgers, begin⟩, _⟩ := initial
    unfold Usable
    rw [begin]
    exact (registered_initialized self provider ledgers).sound

def listedBetween : List DeploymentEvent :=
  [.upgrade .lendingPoolTmp,
    .world (.admin 3 (.batchInitReserve [Market.listing 10 Market.strategy])),
    .upgrade .lendingPoolV4]

theorem listedBetween_unusable :
    ∃ deployment, Runs.run step Market.deployed listedBetween = .ok deployment ∧
      (deployment.world.pool.reserves 10).lTokenAddress ≠ 0 ∧
      ¬RAY ≤ (deployment.world.pool.reserves 10).liquidityIndex ∧
      ¬RAY ≤ (deployment.world.pool.reserves 10).variableBorrowIndex ∧
      ¬∃ after, deployment.step (.world (.call 100 (.deposit 10 WAD 100))) = .ok after := by
  have outcome : yields (Runs.run step Market.deployed listedBetween) (fun deployment =>
      ((deployment.world.pool.reserves 10).lTokenAddress ≠ 0 ∧
        ¬RAY ≤ (deployment.world.pool.reserves 10).liquidityIndex ∧
        ¬RAY ≤ (deployment.world.pool.reserves 10).variableBorrowIndex) &&
      !yields (deployment.step (.world (.call 100 (.deposit 10 WAD 100)))) (fun _ => true)) := by
    decide +kernel
  obtain ⟨deployment, ran, facts⟩ := yields_iff.1 outcome
  obtain ⟨indexes, stuck⟩ := (Bool.and_eq_true _ _).mp facts
  obtain ⟨listed, liquidity, floating⟩ := of_decide_eq_true indexes
  refine ⟨deployment, ran, listed, liquidity, floating, ?_⟩
  rintro ⟨after, deposited⟩
  simp [yields, deposited] at stuck

theorem usable_exactly_threeRevisions :
    ∃ final, Runs.run step Market.deployed threeRevisions = .ok final ∧
      ((∀ before rest state, threeRevisions = before ++ rest →
          Runs.run step Market.deployed before = .ok state → state.Usable) ↔
        ∀ before event rest state, threeRevisions = before ++ event :: rest →
          Runs.run step Market.deployed before = .ok state → state.OnlyRelists event) := by
  have outcome : yields (Runs.run step Market.deployed threeRevisions) (fun _ => true) := by
    decide +kernel
  obtain ⟨final, ran, _⟩ := yields_iff.1 outcome
  exact ⟨final, ran, usable_exactly Market.deployed_initial ran⟩

end Deployment

end PalmyProtocol
