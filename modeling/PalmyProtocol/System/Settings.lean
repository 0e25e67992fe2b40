import PalmyProtocol.Library.Projection
import PalmyProtocol.Proofs.ReserveBitmap
import PalmyProtocol.System.Registry

set_option autoImplicit false

namespace PalmyProtocol

open Checked ReserveConfiguration

structure ReserveSettings where
  parameters : (field : ConfigField) → field.Value
  interestRateStrategyAddress : Option DefaultReserveInterestRateStrategy
  lTokenAddress : Address
  stableDebtTokenAddress : Address
  variableDebtTokenAddress : Address
  treasury : Address
  id : Nat

structure Settings where
  paused : Bool
  reservesList : List Address
  reserves : Address → ReserveSettings

namespace ReserveSettings

variable (settings : ReserveSettings)

def write (field : ConfigField) (value : field.Value) : ReserveSettings :=
  { settings with parameters := Function.update settings.parameters field value }

-- A reserve enters active and not frozen; what else its configuration says was said before.
def enter (input : InitReserveInput) (id : Nat) : ReserveSettings where
  parameters := (((settings.write .decimals input.underlyingAssetDecimals).write .active true).write
    .frozen false).parameters
  interestRateStrategyAddress := input.interestRateStrategyAddress
  lTokenAddress := input.proxies.lToken
  stableDebtTokenAddress := input.proxies.stableDebtToken
  variableDebtTokenAddress := input.proxies.variableDebtToken
  treasury := input.treasury
  id

end ReserveSettings

namespace Settings

variable (settings : Settings)

def change (asset : Address) (change : ReserveSettings → ReserveSettings) : Settings :=
  { settings with
    reserves := Function.update settings.reserves asset (change (settings.reserves asset)) }

theorem change_change (asset : Address) (first second : ReserveSettings → ReserveSettings) :
    (settings.change asset first).change asset second =
      settings.change asset fun reserve => second (first reserve) := by
  simp only [Settings.change, Function.update_self, Function.update_idem]

theorem change_same {asset : Address} {change : ReserveSettings → ReserveSettings}
    (same : change (settings.reserves asset) = settings.reserves asset) :
    settings.change asset change = settings := by
  rw [Settings.change, same, Function.update_eq_self]

def write (asset : Address) (field : ConfigField) (value : field.Value) : Settings :=
  settings.change asset fun reserve => reserve.write field value

def list (input : InitReserveInput) : Settings :=
  { settings.change input.underlyingAsset fun reserve =>
      reserve.enter input settings.reservesList.length with
    reservesList := settings.reservesList ++ [input.underlyingAsset] }

def apply : AdminCall → Settings
  | .batchInitReserve input => input.foldl list settings
  | .enableBorrowingOnReserve asset stableBorrowRateEnabled =>
    (settings.write asset .borrowing true).write asset .stableBorrowing stableBorrowRateEnabled
  | .disableBorrowingOnReserve asset => settings.write asset .borrowing false
  | .configureReserveAsCollateral asset ltv liquidationThreshold liquidationBonus =>
    ((settings.write asset .ltv ltv).write asset .liquidationThreshold liquidationThreshold).write
      asset .liquidationBonus liquidationBonus
  | .enableReserveStableRate asset => settings.write asset .stableBorrowing true
  | .disableReserveStableRate asset => settings.write asset .stableBorrowing false
  | .activateReserve asset => settings.write asset .active true
  | .deactivateReserve asset => settings.write asset .active false
  | .freezeReserve asset => settings.write asset .frozen true
  | .unfreezeReserve asset => settings.write asset .frozen false
  | .setReserveFactor asset reserveFactor => settings.write asset .reserveFactor reserveFactor
  | .setReserveInterestRateStrategyAddress asset rateStrategyAddress =>
    settings.change asset fun reserve =>
      { reserve with interestRateStrategyAddress := rateStrategyAddress }
  | .setPoolPause val => { settings with paused := val }

end Settings

def AdminCall.administrator (provider : AddressesProvider) : AdminCall → Address
  | setPoolPause _ => provider.emergencyAdmin
  | _ => provider.poolAdmin

namespace ReserveConfigurationMap

def parameters (config : ReserveConfigurationMap) (field : ConfigField) : field.Value :=
  field.get config

theorem parameters_set {config after : ReserveConfigurationMap} {field : ConfigField}
    {value : field.Value} (computed : field.set config value = .ok after) :
    after.parameters = Function.update config.parameters field value := by
  obtain ⟨message, bounded⟩ := ConfigField.set_bounded field config value
  rw [bounded] at computed
  obtain ⟨inRange, rfl⟩ := setBounded_ok config computed
  funext other
  by_cases same : other = field
  · subst same
    rw [Function.update_self, parameters, ConfigField.get_set_same inRange]
  · rw [Function.update_of_ne same, parameters, ConfigField.get_set_other inRange same]
    rfl

end ReserveConfigurationMap

def Reserve.settings (reserve : Reserve) : ReserveSettings where
  parameters := reserve.configuration.parameters
  interestRateStrategyAddress := reserve.interestRateStrategyAddress
  lTokenAddress := reserve.lTokenAddress
  stableDebtTokenAddress := reserve.stableDebtTokenAddress
  variableDebtTokenAddress := reserve.variableDebtTokenAddress
  treasury := reserve.lToken.treasury
  id := reserve.id

namespace LendingPool

def settings (pool : LendingPool) : Settings where
  paused := pool.paused
  reservesList := (List.range pool.reservesCount).map pool.reservesList
  reserves a := (pool.reserves a).settings

variable {env : Env} {pool after : LendingPool} {asset : Address}

@[simp]
theorem settings_reserves (pool : LendingPool) (a : Address) :
    pool.settings.reserves a = (pool.reserves a).settings := rfl

theorem settings_setReserve (reserve : Reserve) :
    (pool.setReserve asset reserve).settings =
      pool.settings.change asset fun _ => reserve.settings := by
  have reserves : (pool.setReserve asset reserve).settings.reserves =
      Function.update pool.settings.reserves asset reserve.settings := by
    funext a
    rw [settings_reserves]
    by_cases same : a = asset
    · subst same
      rw [Function.update_self, setReserve_same]
    · rw [Function.update_of_ne same, setReserve_other same, settings_reserves]
  rw [Settings.change, ← reserves]
  rfl

theorem Operates.settings (operates : Operates env pool after)
    (paused : after.paused = pool.paused) : after.settings = pool.settings := by
  have reserves : after.settings.reserves = pool.settings.reserves := by
    funext a
    have keeps := operates.evolves.keeps a
    have same := (operates.operations a).settings
    simp only [LendingPool.settings, Reserve.settings, same.configuration, same.strategy,
      keeps.lTokenAddress, keeps.stableDebtTokenAddress, keeps.variableDebtTokenAddress,
      keeps.treasury, keeps.id]
  have list : after.settings.reservesList = pool.settings.reservesList := by
    simp only [LendingPool.settings, operates.registry.reservesList,
      operates.registry.reservesCount]
  have whole : after.settings = ⟨after.paused, after.settings.reservesList,
    after.settings.reserves⟩ := rfl
  rw [whole, reserves, list, paused]
  rfl

open LendingPoolCollateralManager in
theorem liquidationCall_paused {msgSender collateralAsset debtAsset user : Address}
    {debtToCover : Nat} {receiveLToken : Bool}
    (computed : pool.liquidationCall env msgSender collateralAsset debtAsset user debtToCover
      receiveLToken = .ok after) : after.paused = pool.paused := by
  obtain ⟨_, _, _, _, _, _, _, run⟩ := liquidationCall_ok computed
  obtain ⟨repaid, seized, config, funded, exec⟩ := executeLiquidation_ok run.execute
  obtain ⟨_, _, _, leg⟩ := repayDebt_ok exec.repay
  have paid : repaid.paused = pool.paused := by
    rw [leg.result]
    rfl
  have taken : seized.paused = repaid.paused := by
    have seize := exec.seize
    split_ifs at seize
    · obtain ⟨_, _, _, _, _, part⟩ := seizeLTokens_ok seize
      rw [part.result]
      rfl
    · obtain ⟨_, _, _, part⟩ := seizeUnderlying_ok seize
      rw [part.result]
      rfl
  have last : after.paused = seized.paused := by
    rw [exec.result]
    rfl
  rw [last, taken, paid]

theorem executeBorrow_paused {vars : ExecuteBorrowParams}
    (computed : pool.executeBorrow env vars = .ok after) : after.paused = pool.paused := by
  obtain ⟨_, _, _, _, _, _, _, _, run⟩ := executeBorrow_ok computed
  rw [run.result]
  rfl

theorem moveLTokens_paused {sender recipient : Address} {amount : Nat}
    (computed : pool.moveLTokens env asset sender recipient amount = .ok after) :
    after.paused = pool.paused := by
  obtain ⟨_, _, _, run⟩ := moveLTokens_ok computed
  rcases run.finalize.result with ⟨_, rfl⟩ | ⟨_, _, _, _, _, _, rfl⟩ <;> rfl

theorem updateAllowance_paused {change : ERC20 → Result ERC20}
    (computed : pool.updateAllowance asset change = .ok after) : after.paused = pool.paused := by
  obtain ⟨_, _, _, rfl⟩ := updateAllowance_ok computed
  rfl

theorem openFlashLoan_paused {receiverAddress : Address}
    {requests : List (Address × Nat × Option Nat)} {entries : List FlashLoanEntry}
    (computed : openFlashLoan receiverAddress pool requests = .ok (after, entries)) :
    after.paused = pool.paused := by
  induction requests generalizing pool entries with
  | nil =>
      cases computed
      rfl
  | cons request rest ih =>
      obtain ⟨_, _, _⟩ := request
      obtain ⟨_, _, _, opened, _⟩ := openFlashLoan_cons computed
      have later := ih opened
      exact later

theorem settleFlashLoan_paused {receiverAddress msgSender onBehalfOf : Address}
    {entry : FlashLoanEntry}
    (computed : pool.settleFlashLoan env receiverAddress msgSender onBehalfOf entry = .ok after) :
    after.paused = pool.paused := by
  obtain ⟨_, _, _, _, ⟨_, _, _, _, _, _, run⟩ | ⟨_, borrowed⟩⟩ := settleFlashLoan_ok computed
  · rw [run.result]
    rfl
  · exact executeBorrow_paused borrowed

end LendingPool

open LendingPool in
theorem Call.execute_paused_same {env : Env} {pool after : LendingPool} {msgSender : Address}
    {call : Call} (computed : call.execute env pool msgSender = .ok after) :
    after.paused = pool.paused := by
  cases call with
  | deposit =>
      obtain ⟨_, _, _, _, _, _, run⟩ := deposit_ok computed
      rw [run.result]
      rfl
  | withdraw =>
      simp only [execute, bind_eq_ok, Prod.exists, pure_eq_ok] at computed
      obtain ⟨_, _, computed, rfl⟩ := computed
      obtain ⟨_, _, _, _, _, _, run⟩ := withdraw_ok computed
      rw [run.result]
      rfl
  | borrow =>
      simp only [execute, LendingPool.borrow, bind_eq_ok] at computed
      obtain ⟨_, _, computed⟩ := computed
      exact executeBorrow_paused computed
  | repay =>
      simp only [execute, bind_eq_ok, Prod.exists, pure_eq_ok] at computed
      obtain ⟨_, _, computed, rfl⟩ := computed
      obtain ⟨_, _, _, _, _, _, _, _, _, run⟩ := repay_ok computed
      rw [run.result]
      rfl
  | swapBorrowRateMode =>
      obtain ⟨_, _, _, _, _, _, _, _, _, run⟩ := swapBorrowRateMode_ok computed
      rw [run.result]
      rfl
  | rebalanceStableBorrowRate =>
      obtain ⟨_, _, _, _, _, _, run⟩ := rebalanceStableBorrowRate_ok computed
      rw [run.result]
      rfl
  | setUserUseReserveAsCollateral =>
      obtain ⟨_, _, _, rfl⟩ := setUserUseReserveAsCollateral_ok computed
      rfl
  | liquidationCall => exact liquidationCall_paused computed
  | transfer => exact moveLTokens_paused computed
  | transferFrom =>
      simp only [execute, LendingPool.transferFrom, bind_eq_ok] at computed
      obtain ⟨_, moved, allowed⟩ := computed
      exact (updateAllowance_paused allowed).trans (moveLTokens_paused moved)
  | approve | increaseAllowance | decreaseAllowance =>
      simp only [execute, LendingPool.approve, LendingPool.increaseAllowance,
        LendingPool.decreaseAllowance] at computed
      exact updateAllowance_paused computed
  | approveStableDelegation | approveVariableDelegation =>
      simp only [execute, LendingPool.approveStableDelegation,
        LendingPool.approveVariableDelegation, bind_eq_ok, pure_eq_ok] at computed
      obtain ⟨_, _, rfl⟩ := computed
      rfl

namespace LendingPoolConfigurator

open LendingPool ReserveConfigurationMap

variable {env : Env} {pool after : LendingPool} {msgSender asset : Address}

theorem updateConfiguration_settings
    {change : ReserveConfigurationMap → Result ReserveConfigurationMap}
    {write : ReserveSettings → ReserveSettings}
    (writes : ∀ configuration (reserve : Reserve),
      change reserve.configuration = .ok configuration →
        Reserve.settings { reserve with configuration } = write reserve.settings)
    (computed : updateConfiguration pool msgSender asset change = .ok after) :
    after.settings = pool.settings.change asset write := by
  obtain ⟨configuration, changed, rfl⟩ := updateConfiguration_ok computed
  rw [settings_setReserve, Settings.change, Settings.change, settings_reserves,
    writes configuration _ changed]

theorem settings_set (field : ConfigField) (value : field.Value) {reserve : Reserve}
    {settings : ReserveSettings} {first configuration : ReserveConfigurationMap}
    (before : Reserve.settings { reserve with configuration := first } = settings)
    (computed : field.set first value = .ok configuration) :
    Reserve.settings { reserve with configuration } = settings.write field value := by
  rw [← before, Reserve.settings, parameters_set computed]
  rfl

theorem setField_settings (field : ConfigField) (value : field.Value)
    {change : ReserveConfigurationMap → Result ReserveConfigurationMap}
    (changes : change = fun config => field.set config value)
    (computed : updateConfiguration pool msgSender asset change = .ok after) :
    after.settings = pool.settings.write asset field value := by
  subst changes
  exact updateConfiguration_settings (fun _ _ changed => settings_set field value rfl changed)
    computed

-- A listing takes the word as it finds it and sets three fields of it.
theorem initReserve_parameters (numbered : Numbered pool) {input : InitReserveInput}
    (computed : initReserve env pool input = .ok after) (id : Nat) :
    (after.reserves input.underlyingAsset).configuration.parameters =
      ((pool.reserves input.underlyingAsset).settings.enter input id).parameters := by
  simp only [initReserve, LendingPool.initReserve, onlyLendingPoolConfigurator, bind_eq_ok,
    require_eq_ok, exists_const] at computed
  obtain ⟨_, asset_ne, _, listed, ⟨_, _, data, initialised, added⟩, config, decimals, written⟩ :=
    computed
  obtain ⟨vacant, rfl⟩ := ReserveData.init_ok initialised
  have absent := numbered.unlisted_absent vacant asset_ne
  obtain ⟨_, rfl⟩ := addReserveToList_ok (by simpa using absent) added
  have decimals : ConfigField.decimals.set (pool.reserves input.underlyingAsset).configuration
      input.underlyingAssetDecimals = .ok config := by
    change (pool.reserves input.underlyingAsset).configuration.setDecimals _ = _
    simpa [setReserve] using decimals
  have active : ConfigField.active.set config true = .ok (config.setActive true) := rfl
  have frozen : ConfigField.frozen.set (config.setActive true) false =
      .ok ((config.setActive true).setFrozen false) := rfl
  rw [setConfiguration_ok written, setReserve_same, parameters_set frozen, parameters_set active,
    parameters_set decimals]
  rfl

theorem initReserve_settings (numbered : Numbered pool) {input : InitReserveInput}
    (computed : initReserve env pool input = .ok after) :
    after.settings = pool.settings.list input := by
  have parameters := initReserve_parameters numbered computed pool.settings.reservesList.length
  obtain ⟨configuration, listed⟩ := LendingPool.initReserve_ok numbered computed
  have list : after.settings.reservesList =
      pool.settings.reservesList ++ [input.underlyingAsset] := by
    simp only [settings, listed.appended.list, listed.appended.next, List.range_succ,
      List.map_append, List.map_singleton, Function.update_self]
    congr 1
    refine List.map_congr_left fun i inside => ?_
    rw [Function.update_of_ne (Nat.ne_of_lt (List.mem_range.1 inside))]
  have reserves : after.settings.reserves = Function.update pool.settings.reserves
      input.underlyingAsset ((pool.reserves input.underlyingAsset).settings.enter input
        pool.settings.reservesList.length) := by
    funext a
    rw [settings_reserves]
    by_cases same : a = input.underlyingAsset
    · subst same
      have fresh : after.reserves input.underlyingAsset =
          listedReserve pool input configuration := by
        rw [listed.result]
        simp [setReserve]
      have place : pool.settings.reservesList.length = pool.reservesCount := by
        simp [settings]
      rw [Function.update_self, Reserve.settings, parameters, fresh, place]
      rfl
    · rw [Function.update_of_ne same, listed.appended.others a same]
      rfl
  have whole : after.settings = ⟨after.paused, after.settings.reservesList,
    after.settings.reserves⟩ := rfl
  rw [whole, list, reserves, listed.result]
  rfl

theorem batchInitReserve_settings (registered : Registered pool) {input : List InitReserveInput}
    (computed : input.foldlM (initReserve env) pool = .ok after) :
    after.settings = input.foldl Settings.list pool.settings := by
  induction input generalizing pool with
  | nil =>
      cases computed
      rfl
  | cons first rest ih =>
      simp only [List.foldlM_cons, bind_eq_ok] at computed
      obtain ⟨middle, listed, later⟩ := computed
      obtain ⟨_, entered⟩ := LendingPool.initReserve_ok registered.toNumbered listed
      rw [List.foldl_cons, ih (registered.listing entered) later,
        initReserve_settings registered.toNumbered listed]

theorem updateConfiguration_admin
    {change : ReserveConfigurationMap → Result ReserveConfigurationMap}
    (computed : updateConfiguration pool msgSender asset change = .ok after) :
    pool.addressesProvider.poolAdmin = msgSender := by
  simp only [updateConfiguration, onlyPoolAdmin, bind_eq_ok, require_eq_ok, exists_const]
    at computed
  exact computed.1

end LendingPoolConfigurator

open LendingPoolConfigurator ReserveConfigurationMap in
theorem AdminCall.execute_settings {env : Env} {pool after : LendingPool} {msgSender : Address}
    {call : AdminCall} (registered : pool.Registered)
    (computed : call.execute env pool msgSender = .ok after) :
    after.settings = pool.settings.apply call := by
  cases call with
  | batchInitReserve input =>
      simp only [execute, LendingPoolConfigurator.batchInitReserve, bind_eq_ok] at computed
      obtain ⟨_, _, listed⟩ := computed
      exact batchInitReserve_settings registered listed
  | enableBorrowingOnReserve asset stableBorrowRateEnabled =>
      simp only [execute, LendingPoolConfigurator.enableBorrowingOnReserve] at computed
      rw [Settings.apply, Settings.write, Settings.write, Settings.change_change]
      refine updateConfiguration_settings (fun _ _ changed => ?_) computed
      cases changed
      exact settings_set .stableBorrowing stableBorrowRateEnabled
        (settings_set .borrowing true rfl rfl) rfl
  | disableBorrowingOnReserve => exact setField_settings .borrowing false rfl computed
  | configureReserveAsCollateral asset ltv liquidationThreshold liquidationBonus =>
      simp only [execute, LendingPoolConfigurator.configureReserveAsCollateral] at computed
      rw [Settings.apply, Settings.write, Settings.write, Settings.write, Settings.change_change,
        Settings.change_change]
      refine updateConfiguration_settings (fun _ reserve changed => ?_) computed
      simp only [bind_eq_ok] at changed
      obtain ⟨_, _, first, ltvSet, second, thresholdSet, bonusSet⟩ := changed
      have ltvWritten : Reserve.settings { reserve with configuration := first } = _ :=
        settings_set .ltv ltv rfl ltvSet
      exact settings_set .liquidationBonus liquidationBonus
        (settings_set .liquidationThreshold liquidationThreshold ltvWritten thresholdSet) bonusSet
  | enableReserveStableRate => exact setField_settings .stableBorrowing true rfl computed
  | disableReserveStableRate => exact setField_settings .stableBorrowing false rfl computed
  | activateReserve => exact setField_settings .active true rfl computed
  | deactivateReserve =>
      simp only [execute, LendingPoolConfigurator.deactivateReserve] at computed
      rw [Settings.apply, Settings.write]
      refine updateConfiguration_settings (fun _ _ changed => ?_) computed
      simp only [bind_eq_ok, pure_eq_ok] at changed
      obtain ⟨_, _, rfl⟩ := changed
      exact settings_set .active false rfl rfl
  | freezeReserve => exact setField_settings .frozen true rfl computed
  | unfreezeReserve => exact setField_settings .frozen false rfl computed
  | setReserveFactor asset reserveFactor =>
      exact setField_settings .reserveFactor reserveFactor rfl computed
  | setReserveInterestRateStrategyAddress asset strategy =>
      simp only [AdminCall.execute, LendingPoolConfigurator.setReserveInterestRateStrategyAddress,
        LendingPool.setReserveInterestRateStrategyAddress,
        LendingPool.onlyLendingPoolConfigurator, bind_eq_ok, require_eq_ok, exists_const,
        pure_eq_ok] at computed
      obtain ⟨_, _, _, rfl⟩ := computed
      exact LendingPool.settings_setReserve _
  | setPoolPause val =>
      simp only [AdminCall.execute, LendingPoolConfigurator.setPoolPause, LendingPool.setPause,
        LendingPool.onlyLendingPoolConfigurator, bind_eq_ok, require_eq_ok, exists_const,
        pure_eq_ok] at computed
      obtain ⟨_, _, _, rfl⟩ := computed
      rfl

end PalmyProtocol
