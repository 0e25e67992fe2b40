import PalmyProtocol.Pool.ReserveCash
import PalmyProtocol.System.Registry

set_option autoImplicit false

namespace PalmyProtocol

open Checked LendingPool

namespace LendingPool

variable {env : Env} {pool after : LendingPool} {msgSender receiverAddress onBehalfOf : Address}

theorem Registered.apart {account : Address} (registered : Registered pool)
    (outside : ¬pool.IsProtocol account) : Apart pool account := by
  intro asset listed same
  obtain ⟨inside, place⟩ := registered.listed asset listed
  exact outside (.inr ⟨_, inside, .inl (by rw [place, same])⟩)

def settleFlashLoans (env : Env) (receiverAddress msgSender onBehalfOf : Address)
    (pool : LendingPool) (entries : List FlashLoanEntry) : Result LendingPool :=
  entries.foldlM (fun pool entry =>
    pool.settleFlashLoan env receiverAddress msgSender onBehalfOf entry) pool

theorem settleFlashLoans_cons {entry : FlashLoanEntry} {entries : List FlashLoanEntry} :
    settleFlashLoans env receiverAddress msgSender onBehalfOf pool (entry :: entries) = .ok after ↔
      ∃ middle, pool.settleFlashLoan env receiverAddress msgSender onBehalfOf entry = .ok middle ∧
        settleFlashLoans env receiverAddress msgSender onBehalfOf middle entries = .ok after := by
  simp [settleFlashLoans]

theorem openFlashLoan_entries {requests : List (Address × Nat × Option Nat)}
    {entries : List FlashLoanEntry}
    (computed : openFlashLoan receiverAddress pool requests = .ok (after, entries)) :
    entries.map (fun entry => (entry.asset, entry.amount, entry.mode)) = requests ∧
      ∀ entry ∈ entries, entry.lTokenAddress = (pool.reserves entry.asset).lTokenAddress := by
  induction requests generalizing pool entries with
  | nil =>
      cases computed
      simp
  | cons request rest ih =>
      obtain ⟨asset, amount, mode⟩ := request
      obtain ⟨lent, later, sent, opened, rfl⟩ := openFlashLoan_cons computed
      obtain ⟨_, _, _, shape⟩ := Reserve.transferUnderlyingTo_ok sent
      obtain ⟨requested, addresses⟩ := ih opened
      refine ⟨by simp [requested], ?_⟩
      intro entry member
      rcases List.mem_cons.1 member with rfl | member
      · rfl
      · rw [addresses entry member]
        by_cases same : entry.asset = asset
        · rw [same, setReserve_same, shape]
        · rw [setReserve_other same]

theorem flashLoanRequests_assets {assets : List Address} {amounts modes : List Nat}
    (lengths : assets.length = amounts.length) :
    (flashLoanRequests assets amounts modes).map (fun request => request.1) = assets := by
  have zipped : (assets.zip amounts).map Prod.fst = assets :=
    List.map_fst_zip (Nat.le_of_eq lengths)
  have indexed : (assets.zip amounts).zipIdx.map Prod.fst = assets.zip amounts := by simp
  rw [flashLoanRequests, List.map_map]
  calc _ = ((assets.zip amounts).zipIdx.map Prod.fst).map Prod.fst := by
        rw [List.map_map]
        rfl
    _ = assets := by rw [indexed, zipped]

end LendingPool

def settlement (n : Nat) : List Event := .executed :: List.replicate n .settle ++ [.finish]

namespace World

variable {world next : World}

-- The tail of a flash loan's run is the second loop over the entries that were pending.
theorem run_settles {n : Nat} {frame : Frame} {rest : List Frame}
    (stack : world.frames = frame :: rest)
    (ran : Runs.run step world (List.replicate n .settle ++ [.finish]) = .ok next) :
    settleFlashLoans world.env frame.receiverAddress frame.msgSender frame.onBehalfOf world.pool
        frame.pending = .ok next.pool ∧ next.env = world.env ∧ next.frames = rest := by
  induction n generalizing world frame with
  | zero =>
      obtain ⟨last, taken, done⟩ := Runs.run_cons_ok.1 ran
      cases done
      obtain ⟨_, _, frames, empty, rfl⟩ := step_finish taken
      rw [stack] at frames
      cases frames
      rw [empty]
      exact ⟨rfl, rfl, rfl⟩
  | succ n ih =>
      rw [List.replicate_succ, List.cons_append] at ran
      obtain ⟨middle, taken, later⟩ := Runs.run_cons_ok.1 ran
      obtain ⟨_, _, entry, pending, pool, run⟩ := step_settle taken
      have frames := run.stack
      rw [stack] at frames
      cases frames
      have shape := run.result
      subst shape
      obtain ⟨settled, env, frames⟩ := ih rfl later
      refine ⟨?_, env, frames⟩
      rw [run.queue]
      exact settleFlashLoans_cons.2 ⟨pool, run.settle, settled⟩

theorem run_settlement {n : Nat} {frame : Frame} {rest : List Frame}
    (stack : world.frames = frame :: rest)
    (ran : Runs.run step world (settlement n) = .ok next) :
    settleFlashLoans world.env frame.receiverAddress frame.msgSender frame.onBehalfOf world.pool
        frame.pending = .ok next.pool ∧ next.env = world.env ∧ next.frames = rest := by
  obtain ⟨middle, taken, later⟩ := Runs.run_cons_ok.1 ran
  obtain ⟨_, _, frames, _, rfl⟩ := step_executed taken
  rw [stack] at frames
  cases frames
  have settled := run_settles rfl later
  exact settled

end World

end PalmyProtocol
