import PalmyProtocol.System.WorldSteps

set_option autoImplicit false

namespace PalmyProtocol

open Checked Rounding

structure Reserve.Sound (reserve : Reserve) : Prop where
  liquidityIndex : reserve.lTokenAddress ≠ 0 → RAY ≤ reserve.liquidityIndex
  variableBorrowIndex : reserve.lTokenAddress ≠ 0 → RAY ≤ reserve.variableBorrowIndex

theorem Reserve.Sound.keeps {reserve after : Reserve} (sound : Reserve.Sound reserve)
    (keeps : Reserve.Keeps reserve after) : Reserve.Sound after := by
  refine ⟨fun listed => ?_, fun listed => ?_⟩
  · rw [keeps.lTokenAddress] at listed
    exact le_trans (sound.liquidityIndex listed) keeps.liquidityIndex
  · rw [keeps.lTokenAddress] at listed
    exact le_trans (sound.variableBorrowIndex listed) keeps.variableBorrowIndex

namespace LendingPool

structure Numbered (pool : LendingPool) : Prop where
  maximum : pool.maxNumberOfReserves = 128
  count : pool.reservesCount ≤ 128
  listed : ∀ a, (pool.reserves a).lTokenAddress ≠ 0 →
    (pool.reserves a).id < pool.reservesCount ∧ pool.reservesList (pool.reserves a).id = a
  members : ∀ i < pool.reservesCount, (pool.reserves (pool.reservesList i)).lTokenAddress ≠ 0 ∧
    (pool.reserves (pool.reservesList i)).id = i
  vacant : ∀ a, (pool.reserves a).lTokenAddress = 0 → (pool.reserves a).id = 0
  tail : ∀ i, pool.reservesCount ≤ i → pool.reservesList i = 0
  contracts : ∀ a, (pool.reserves a).lTokenAddress ≠ 0 → a ≠ 0

structure Registered (pool : LendingPool) : Prop extends Numbered pool where
  sound : ∀ a, (pool.reserves a).Sound
  together : ∀ a, ((pool.reserves a).variableDebtTokenAddress ≠ 0 ↔
    (pool.reserves a).lTokenAddress ≠ 0) ∧ ((pool.reserves a).stableDebtTokenAddress ≠ 0 ↔
    (pool.reserves a).lTokenAddress ≠ 0)

variable {env : Env} {pool after : LendingPool} {asset other : Address}

theorem Numbered.id_lt (numbered : Numbered pool)
    (listed : (pool.reserves asset).lTokenAddress ≠ 0) : (pool.reserves asset).id < 128 :=
  Nat.lt_of_lt_of_le (numbered.listed asset listed).1 numbered.count

theorem Numbered.id_injective (numbered : Numbered pool)
    (listed : (pool.reserves asset).lTokenAddress ≠ 0)
    (listed' : (pool.reserves other).lTokenAddress ≠ 0)
    (same : (pool.reserves asset).id = (pool.reserves other).id) : asset = other := by
  rw [← (numbered.listed asset listed).2, ← (numbered.listed other listed').2, same]

theorem Registered.updateState_listed {accrued : Reserve} (registered : Registered pool)
    (computed : (pool.reserves asset).updateState env.timestamp = .ok accrued) :
    (pool.reserves asset).lTokenAddress ≠ 0 := by
  obtain ⟨_, _, _, run⟩ := Reserve.updateState_ok computed
  exact (registered.together asset).1.1 run.listed

theorem numbered_initialized (self : Address) (provider : AddressesProvider)
    (ledgers : Address → ERC20) : Numbered (initialized self provider ledgers) where
  maximum := rfl
  count := Nat.zero_le _
  listed _ listed := absurd rfl listed
  members i below := absurd below (Nat.not_lt_zero i)
  vacant _ _ := rfl
  tail _ _ := rfl
  contracts _ listed := absurd rfl listed

theorem registered_initialized (self : Address) (provider : AddressesProvider)
    (ledgers : Address → ERC20) : Registered (initialized self provider ledgers) where
  toNumbered := numbered_initialized self provider ledgers
  sound _ := ⟨fun listed => absurd rfl listed, fun listed => absurd rfl listed⟩
  together _ := ⟨Iff.rfl, Iff.rfl⟩

theorem Numbered.evolves (numbered : Numbered pool) (evolves : Evolves env pool after) :
    Numbered after where
  maximum := by rw [evolves.registry.maxNumberOfReserves, numbered.maximum]
  count := by
    rw [evolves.registry.reservesCount]
    exact numbered.count
  listed a listed := by
    have keeps := evolves.keeps a
    rw [keeps.lTokenAddress] at listed
    rw [keeps.id, evolves.registry.reservesCount, evolves.registry.reservesList]
    exact numbered.listed a listed
  members i below := by
    rw [evolves.registry.reservesCount] at below
    rw [evolves.registry.reservesList]
    have keeps := evolves.keeps (pool.reservesList i)
    rw [keeps.id, keeps.lTokenAddress]
    exact numbered.members i below
  vacant a unlisted := by
    have keeps := evolves.keeps a
    rw [keeps.lTokenAddress] at unlisted
    rw [keeps.id]
    exact numbered.vacant a unlisted
  tail i beyond := by
    rw [evolves.registry.reservesCount] at beyond
    rw [evolves.registry.reservesList]
    exact numbered.tail i beyond
  contracts a listed := by
    rw [(evolves.keeps a).lTokenAddress] at listed
    exact numbered.contracts a listed

theorem Registered.evolves (registered : Registered pool) (evolves : Evolves env pool after) :
    Registered after where
  toNumbered := registered.toNumbered.evolves evolves
  sound a := (registered.sound a).keeps (evolves.keeps a)
  together a := by
    have keeps := evolves.keeps a
    rw [keeps.lTokenAddress, keeps.stableDebtTokenAddress, keeps.variableDebtTokenAddress]
    exact registered.together a

structure Appended (pool : LendingPool) (asset : Address) (after : LendingPool) : Prop where
  vacant : (pool.reserves asset).lTokenAddress = 0
  contract : asset ≠ 0
  room : pool.reservesCount < 128
  maximum : after.maxNumberOfReserves = pool.maxNumberOfReserves
  others : ∀ a, a ≠ asset → after.reserves a = pool.reserves a
  present : (after.reserves asset).lTokenAddress ≠ 0
  id : (after.reserves asset).id = pool.reservesCount
  list : after.reservesList = Function.update pool.reservesList pool.reservesCount asset
  next : after.reservesCount = pool.reservesCount + 1

theorem Numbered.unlisted_absent (numbered : Numbered pool)
    (vacant : (pool.reserves asset).lTokenAddress = 0) (contract : asset ≠ 0) :
    ¬((pool.reserves asset).id ≠ 0 ∨ pool.reservesList 0 = asset) := by
  rintro (nonzero | head)
  · exact nonzero (numbered.vacant asset vacant)
  · by_cases empty : pool.reservesCount = 0
    · exact contract (by rw [← head, numbered.tail 0 (by omega)])
    · exact (numbered.members 0 (by omega)).1 (by rw [head, vacant])

theorem Numbered.appended (numbered : Numbered pool) (appended : Appended pool asset after) :
    Numbered after := by
  have count := appended.next
  have room := appended.room
  have other_ne : ∀ i < pool.reservesCount, pool.reservesList i ≠ asset :=
    fun i below same => (numbered.members i below).1 (by rw [same, appended.vacant])
  have place : after.reservesList pool.reservesCount = asset := by simp [appended.list]
  have earlier : ∀ i, i ≠ pool.reservesCount → after.reservesList i = pool.reservesList i := by
    intro i different
    simp [appended.list, different]
  refine ⟨?_, by omega, ?_, ?_, ?_, ?_, ?_⟩
  · rw [appended.maximum]
    exact numbered.maximum
  · intro a present
    by_cases same : a = asset
    · subst same
      rw [appended.id]
      exact ⟨by omega, place⟩
    · rw [appended.others a same] at present ⊢
      obtain ⟨below, there⟩ := numbered.listed a present
      exact ⟨by omega, by rw [earlier _ (by omega), there]⟩
  · intro i below
    by_cases last : i = pool.reservesCount
    · subst last
      rw [place]
      exact ⟨appended.present, appended.id⟩
    · have inside : i < pool.reservesCount := by omega
      rw [earlier i last, appended.others _ (other_ne i inside)]
      exact numbered.members i inside
  · intro a unlisted
    by_cases same : a = asset
    · subst same
      exact absurd unlisted appended.present
    · rw [appended.others a same] at unlisted ⊢
      exact numbered.vacant a unlisted
  · intro i beyond
    rw [earlier i (by omega)]
    exact numbered.tail i (by omega)
  · intro a present
    by_cases same : a = asset
    · rw [same]
      exact appended.contract
    · rw [appended.others a same] at present
      exact numbered.contracts a present

def listedReserve (pool : LendingPool) (input : InitReserveInput)
    (configuration : ReserveConfigurationMap) : Reserve :=
  { pool.reserves input.underlyingAsset with
    configuration
    liquidityIndex := RAY
    variableBorrowIndex := RAY
    lTokenAddress := input.proxies.lToken
    stableDebtTokenAddress := input.proxies.stableDebtToken
    variableDebtTokenAddress := input.proxies.variableDebtToken
    interestRateStrategyAddress := input.interestRateStrategyAddress
    id := pool.reservesCount
    lToken := ⟨.empty, input.treasury⟩
    stableDebtToken := .empty
    variableDebtToken := .empty }

structure Listed (env : Env) (pool : LendingPool) (input : InitReserveInput)
    (configuration : ReserveConfigurationMap) (after : LendingPool) : Prop where
  vacant : (pool.reserves input.underlyingAsset).lTokenAddress = 0
  contract : env.isContract input.underlyingAsset = true
  room : pool.reservesCount < 128
  treasury : input.treasury ≠ 0
  admitted : (pool.reserves input.underlyingAsset).configuration.Admitted → configuration.Admitted
  result : after =
    { pool.setReserve input.underlyingAsset (listedReserve pool input configuration) with
      reservesList := Function.update pool.reservesList pool.reservesCount input.underlyingAsset
      reservesCount := pool.reservesCount + 1 }

theorem addReserveToList_ok (absent : ¬((pool.reserves asset).id ≠ 0 ∨ pool.reservesList 0 = asset))
    (computed : pool.addReserveToList asset = .ok after) :
    pool.reservesCount < pool.maxNumberOfReserves ∧
      after = { pool.setReserve asset
          { pool.reserves asset with id := pool.reservesCount % 2 ^ 8 } with
        reservesList := Function.update pool.reservesList pool.reservesCount asset
        reservesCount := pool.reservesCount + 1 } := by
  simp only [addReserveToList, absent, if_false, bind_eq_ok, require_eq_ok, exists_const,
    pure_eq_ok] at computed
  exact ⟨computed.1, computed.2.symm⟩

theorem initReserve_ok (numbered : Numbered pool) {input : InitReserveInput}
    (computed : LendingPoolConfigurator.initReserve env pool input = .ok after) :
    ∃ configuration, Listed env pool input configuration after := by
  simp only [LendingPoolConfigurator.initReserve, initReserve, onlyLendingPoolConfigurator,
    bind_eq_ok, require_eq_ok, exists_const] at computed
  obtain ⟨treasury, asset_ne, _, listed, ⟨_, contract, data, initialised, added⟩, config, decimals,
    written⟩ := computed
  obtain ⟨vacant, rfl⟩ := ReserveData.init_ok initialised
  have absent := numbered.unlisted_absent vacant asset_ne
  obtain ⟨room, rfl⟩ := addReserveToList_ok (by simpa using absent) added
  have bound : pool.reservesCount < 128 := Nat.lt_of_lt_of_eq room numbered.maximum
  have small : pool.reservesCount % 256 = pool.reservesCount := Nat.mod_eq_of_lt (by omega)
  have result := LendingPoolConfigurator.setConfiguration_ok written
  refine ⟨(config.setActive true).setFrozen false, vacant, contract, bound, treasury, ?_, ?_⟩
  · intro admitted
    refine ReserveConfigurationMap.admitted_setFrozen
      (ReserveConfigurationMap.admitted_setActive
        (ReserveConfigurationMap.admitted_setDecimals ?_ decimals) _) _
    simpa [setReserve] using admitted
  · rw [result]
    simp [setReserve, listedReserve, small]

theorem Listed.appended {input : InitReserveInput} {configuration : ReserveConfigurationMap}
    (listed : Listed env pool input configuration after) :
    Appended pool input.underlyingAsset after := by
  have contract : input.underlyingAsset ≠ 0 := by
    intro zero
    have code := listed.contract
    rw [zero, env.zero_not_contract] at code
    cases code
  have fresh : after.reserves input.underlyingAsset = listedReserve pool input configuration := by
    rw [listed.result]
    simp [setReserve]
  refine ⟨listed.vacant, contract, listed.room, ?_, ?_, ?_, ?_, ?_, ?_⟩
  · rw [listed.result]
    rfl
  · intro a different
    rw [listed.result]
    simp [setReserve, different]
  · rw [fresh]
    exact input.proxies.lToken_ne
  · rw [fresh]
    rfl
  · rw [listed.result]
  · rw [listed.result]

theorem Registered.listing (registered : Registered pool) {input : InitReserveInput}
    {configuration : ReserveConfigurationMap}
    (listed : Listed env pool input configuration after) : Registered after := by
  have reserves := listed.appended.others
  have fresh : after.reserves input.underlyingAsset = listedReserve pool input configuration := by
    rw [listed.result]
    simp [setReserve]
  refine ⟨registered.toNumbered.appended listed.appended, ?_, ?_⟩
  · intro a
    by_cases same : a = input.underlyingAsset
    · subst same
      rw [fresh]
      exact ⟨fun _ => le_refl RAY, fun _ => le_refl RAY⟩
    · rw [reserves a same]
      exact registered.sound a
  · intro a
    by_cases same : a = input.underlyingAsset
    · subst same
      rw [fresh]
      exact ⟨iff_of_true input.proxies.variableDebtToken_ne input.proxies.lToken_ne,
        iff_of_true input.proxies.stableDebtToken_ne input.proxies.lToken_ne⟩
    · rw [reserves a same]
      exact registered.together a

theorem listings_induction (Invariant : LendingPool → Prop) {input : List InitReserveInput}
    (preserved : ∀ pool after input configuration, Registered pool → Invariant pool →
      Listed env pool input configuration after → Invariant after)
    (registered : Registered pool) (initial : Invariant pool)
    (computed : input.foldlM (LendingPoolConfigurator.initReserve env) pool = .ok after) :
    Registered after ∧ Invariant after := by
  refine foldlM_invariant (fun p => Registered p ∧ Invariant p) ?_ ⟨registered, initial⟩ computed
  intro p first p' _ before here
  obtain ⟨configuration, listed⟩ := initReserve_ok before.1.toNumbered here
  exact ⟨before.1.listing listed, preserved p p' first configuration before.1 before.2 listed⟩

end LendingPool

namespace World

variable {world next : World}

theorem registered_step {event : Event} (registered : world.pool.Registered)
    (taken : world.step event = .ok next) : next.pool.Registered := by
  rcases step_evolves taken with ⟨input, _, _, listed⟩ | evolves
  · exact (LendingPool.listings_induction (fun _ => True)
      (fun _ _ _ _ _ _ _ => trivial) registered trivial listed).1
  · exact registered.evolves evolves

theorem Reachable.registered (reached : world.Reachable) : world.pool.Registered := by
  refine Runs.Reachable.invariant (fun w => w.pool.Registered) reached ?_
    (fun _ _ _ registered taken => registered_step registered taken)
  rintro s ⟨_, self, provider, ledgers, start⟩
  rw [start]
  exact LendingPool.registered_initialized self provider ledgers

end World

end PalmyProtocol
