import PalmyProtocol.Pool.ReserveLogic

set_option autoImplicit false

namespace PalmyProtocol

open Checked Rounding

variable {token : LToken} {reserve data : ReserveData} {premium before after : Nat}

theorem LToken.totalSupply_at {index : Nat} (computed : token.totalSupply (.ok index) = .ok after) :
    after = divHalfUp (token.scaledTotalSupply * index) RAY := by
  rcases LToken.totalSupply_ok computed with ⟨none, rfl⟩ | ⟨_, _, ⟨⟩, rfl⟩
  · rw [LToken.scaledTotalSupply, none, Nat.zero_mul, divHalfUp_zero]
  · rfl

/-- What the depositors hold together grows by the premium that raised the index: half a unit and
the premium's share of one for the total before, half a unit for the total after, and what half a
ray of the ratio and of the index come to. -/
theorem premium_distributed
    (supplied : token.totalSupply (.ok reserve.liquidityIndex) = .ok before)
    (cumulated : reserve.cumulateToLiquidityIndex before premium = .ok data)
    (supplied' : token.totalSupply (.ok data.liquidityIndex) = .ok after) :
    2 * (before : Int) * RAY * |(after : Int) - (before + premium)| ≤
      2 * before * RAY + premium * RAY + before * (before + token.scaledTotalSupply + 1) := by
  obtain ⟨some, index, grown, rfl⟩ := ReserveData.cumulateToLiquidityIndex_ok cumulated
  -- the two sides of the ratio are scaled to ray alike
  have scaled : divHalfUp (premium * WAD_RAY_RATIO * RAY) (before * WAD_RAY_RATIO) =
      divHalfUp (premium * RAY) before := by
    rw [Nat.mul_right_comm, divHalfUp_scale (Nat.pos_of_ne_zero some) (by decide)]
  rw [scaled] at grown
  have total := LToken.totalSupply_at supplied'
  rw [grown] at total
  rw [total]
  exact divHalfUp_distributed RAY_pos (Nat.pos_of_ne_zero some) (LToken.totalSupply_at supplied)

-- A premium of 1000 on seven shares at an index of one and a half.
theorem premium_distributed_inflated :
    ∃ data, (⟨⟨0⟩, RAY / 2 * 3, RAY, 0, 0, 0, 0, 1, 2, 3, none, 0⟩ :
        ReserveData).cumulateToLiquidityIndex 11 1000 = .ok data ∧
      ∃ after, (⟨⟨fun _ => 7, fun _ _ => 0, 7⟩, 0⟩ : LToken).totalSupply
        (.ok data.liquidityIndex) = .ok after ∧
      2 * (11 : Int) * RAY * |(after : Int) - (11 + 1000)| ≤
        2 * 11 * RAY + 1000 * RAY + 11 * (11 + 7 + 1) := by
  have outcome : yields ((⟨⟨0⟩, RAY / 2 * 3, RAY, 0, 0, 0, 0, 1, 2, 3, none, 0⟩ :
      ReserveData).cumulateToLiquidityIndex 11 1000) (fun data =>
      yields ((⟨⟨fun _ => 7, fun _ _ => 0, 7⟩, 0⟩ : LToken).totalSupply
        (.ok data.liquidityIndex)) fun _ => true) := by
    decide +kernel
  obtain ⟨data, cumulated, later⟩ := yields_iff.1 outcome
  obtain ⟨after, supplied, _⟩ := yields_iff.1 later
  exact ⟨data, cumulated, after, supplied, premium_distributed rfl cumulated supplied⟩

end PalmyProtocol
