/-
# TokenFlow.Proofs.RenewalOrigin -- where a presented refresh token comes from

Providers with one cache key take turns, each in a world of its own.  All that passes from
one turn to the next is what is kept in the cell of the key; and of that the refresh token
is told by the answers so far (`Login.Ledger`).  So it can be said of a run of any length,
without looking into any call, which refresh token is the `Latest`: the one that came with
the last grant that brought one, unless a renewal was refused since.  Every renewal of the
run presents it.
-/
import TokenFlow.Proofs.CellOwnership
import TokenFlow.Proofs.RenewalLedger

namespace TokenFlow

set_option autoImplicit false

/-! ## The latest refresh token -/

/-- An answer that brings no refresh token and costs none. -/
def Enquiry.LeavesRenewal (entry : Enquiry) : Prop :=
  entry.issued? = none ∧ entry.refusesRenewal = false

/-- The refresh token that was issued last, or the one of the beginning if none was; and no
renewal was refused since. -/
def Latest (kept : Option String) (entries : List Enquiry) (token : String) : Prop :=
  (∃ earlier source since, entries = earlier ++ source :: since ∧ source.issued? = some token ∧
      ∀ entry ∈ since, entry.LeavesRenewal) ∨
    (kept = some token ∧ ∀ entry ∈ entries, entry.LeavesRenewal)

namespace Enquiry

variable {entry : Enquiry} {kept : Option String} {token : String}

theorem keeps_of_issued (issued : entry.issued? = some token) :
    entry.keeps kept = some token := by
  simp [keeps, issued]

/-- A refused renewal brings nothing. -/
theorem keeps_of_refusesRenewal (refused : entry.refusesRenewal = true) :
    entry.keeps kept = none := by
  have none : entry.issued? = none := by
    simp only [refusesRenewal, Bool.and_eq_true, Option.isNone_iff_eq_none] at refused
    simp [issued?, refused.2]
  simp [keeps, none, refused]

/-- What an answer leaves was issued with it, or was there and left alone. -/
theorem keeps_eq_some_iff :
    entry.keeps kept = some token ↔
      entry.issued? = some token ∨ (kept = some token ∧ entry.LeavesRenewal) := by
  unfold keeps LeavesRenewal
  cases entry.issued? with
  | some issued => simp
  | none =>
      cases entry.refusesRenewal with
      | true => simp
      | false => simp

end Enquiry

theorem foldl_keeps_eq_some_iff {kept : Option String} {entries : List Enquiry}
    {token : String} :
    entries.foldl Enquiry.keeps kept = some token ↔ Latest kept entries token := by
  induction entries generalizing kept with
  | nil => simp [Latest]
  | cons entry entries ih =>
      rw [List.foldl_cons, ih]
      constructor
      · rintro (⟨earlier, source, since, rfl, issued, leaves⟩ | ⟨left, leaves⟩)
        · exact .inl ⟨entry :: earlier, source, since, rfl, issued, leaves⟩
        · rcases Enquiry.keeps_eq_some_iff.mp left with issued | ⟨same, leaves'⟩
          · exact .inl ⟨[], entry, entries, rfl, issued, leaves⟩
          · exact .inr ⟨same, List.forall_mem_cons.mpr ⟨leaves', leaves⟩⟩
      · rintro (⟨earlier, source, since, split, issued, leaves⟩ | ⟨same, leaves⟩)
        · cases earlier with
          | nil =>
              obtain ⟨rfl, rfl⟩ := List.cons.inj split
              exact .inr ⟨Enquiry.keeps_of_issued issued, leaves⟩
          | cons first earlier =>
              obtain ⟨-, rfl⟩ := List.cons.inj split
              exact .inl ⟨earlier, source, since, rfl, issued, leaves⟩
        · rw [List.forall_mem_cons] at leaves
          exact .inr ⟨Enquiry.keeps_eq_some_iff.mpr (.inr ⟨same, leaves.1⟩), leaves.2⟩

/-- After a refusal the latest refresh token was issued later. -/
theorem Latest.issued_since {kept : Option String} {earlier between : List Enquiry}
    {refusal : Enquiry} {token : String}
    (latest : Latest kept (earlier ++ refusal :: between) token)
    (refused : refusal.refusesRenewal = true) :
    ∃ source ∈ between, source.issued? = some token := by
  rw [← foldl_keeps_eq_some_iff, List.foldl_append, List.foldl_cons,
    Enquiry.keeps_of_refusesRenewal refused, foldl_keeps_eq_some_iff] at latest
  rcases latest with ⟨before, source, since, rfl, issued, -⟩ | ⟨none, -⟩
  · exact ⟨source, List.mem_append_right _ List.mem_cons_self, issued⟩
  · cases none

theorem Presents.latest {kept : Option String} {earlier later : List Enquiry} {entry : Enquiry}
    (presents : Presents kept (earlier ++ entry :: later)) (renewal : entry.isRenewal = true) :
    ∃ token, token ≠ "" ∧ entry.presented? = some token ∧ Latest kept earlier token := by
  obtain ⟨token, here, presented⟩ := presents.of_append.1 renewal
  obtain ⟨here, full⟩ := nonempty?_eq_some_iff.mp here
  exact ⟨token, full, presented, foldl_keeps_eq_some_iff.mp here⟩

/-! ## Turns -/

/-- A call by a provider, in a world of its own. -/
structure Turn where
  provider : CodeProvider
  world : World

namespace Turn

/-- Takes a turn, for the key that has this cell. -/
def take (cell : Nat) (agent : Agent) (turn : Turn) : Agent :=
  (Account.getToken ⟨.code turn.provider, cell⟩ { agent with world := turn.world }).2

def takeAll (cell : Nat) (agent : Agent) (turns : List Turn) : Agent :=
  turns.foldl (take cell) agent

/-- What the network was asked in all turns, one after another. -/
def correspondence (cell : Nat) : Agent → List Turn → List Enquiry
  | _, [] => []
  | agent, turn :: turns =>
      turn.world.asked (turn.take cell agent).world
        ++ correspondence cell (turn.take cell agent) turns

/-- The refresh token that is kept in a cell. -/
def refreshToken (cell : Nat) (agent : Agent) : Option String :=
  (agent.vault.read cell).refreshToken

variable {cell : Nat} {agent : Agent}

/-- A turn is a call with what is kept in the cell. -/
theorem take_eq (turn : Turn) (inside : cell < agent.vault.cells.length) :
    let called := (turn.provider.getToken ⟨agent.vault.read cell, turn.world⟩).2
    (turn.take cell agent).world = called.world ∧
      (turn.take cell agent).vault.read cell = called.credentials ∧
      cell < (turn.take cell agent).vault.cells.length := by
  refine ⟨rfl, Vault.read_write inside _, ?_⟩
  simpa [take, Account.getToken, Account.run, Vault.write] using inside

/-- One turn: its enquiries account for the refresh token. -/
theorem take_ledger (turn : Turn) (inside : cell < agent.vault.cells.length) :
    let entries := turn.world.asked (turn.take cell agent).world
    Presents (refreshToken cell agent) entries ∧
      refreshToken cell (turn.take cell agent) =
        entries.foldl Enquiry.keeps (refreshToken cell agent) := by
  obtain ⟨entries, ledger, -⟩ :=
    turn.provider.getToken_ledger ⟨agent.vault.read cell, turn.world⟩
  obtain ⟨world, kept, -⟩ := turn.take_eq inside
  have asked : turn.world.asked (turn.take cell agent).world = entries := by
    rw [world]
    exact ledger.asks.asked_eq
  rw [asked]
  refine ⟨ledger.presents, ?_⟩
  rw [refreshToken, kept]
  exact ledger.kept

/-- A run: so do the enquiries of all its turns. -/
theorem takeAll_ledger (turns : List Turn) (inside : cell < agent.vault.cells.length) :
    Presents (refreshToken cell agent) (correspondence cell agent turns) ∧
      refreshToken cell (takeAll cell agent turns) =
        (correspondence cell agent turns).foldl Enquiry.keeps (refreshToken cell agent) := by
  induction turns generalizing agent with
  | nil => exact ⟨trivial, rfl⟩
  | cons turn turns ih =>
      obtain ⟨presents, kept⟩ := turn.take_ledger inside
      obtain ⟨-, -, inside'⟩ := turn.take_eq inside
      obtain ⟨presents', kept'⟩ := ih inside'
      rw [kept] at presents' kept'
      refine ⟨presents.append presents', ?_⟩
      rw [correspondence, List.foldl_append]
      exact kept'

/-- Every renewal in a run of turns presents the latest refresh token, which is not empty; so
it makes none when there is no such token, and after a refusal it presents only what was
issued since.  What is kept in the end is the latest refresh token. -/
theorem renewal_presents_latest (cell : Nat) (agent : Agent) (turns : List Turn)
    (inside : cell < agent.vault.cells.length) :
    (∀ earlier entry later, correspondence cell agent turns = earlier ++ entry :: later →
        entry.isRenewal = true →
          ∃ token, token ≠ "" ∧ entry.presented? = some token ∧
            Latest (refreshToken cell agent) earlier token) ∧
      (∀ earlier refusal between entry later,
        correspondence cell agent turns =
            earlier ++ refusal :: (between ++ entry :: later) →
          refusal.refusesRenewal = true → entry.isRenewal = true →
            ∃ source ∈ between, source.issued? = entry.presented?) ∧
      ∀ token, refreshToken cell (takeAll cell agent turns) = some token ↔
        Latest (refreshToken cell agent) (correspondence cell agent turns) token := by
  obtain ⟨presents, kept⟩ := takeAll_ledger turns inside
  refine ⟨?_, ?_, ?_⟩
  · intro earlier entry later split renewal
    rw [split] at presents
    exact presents.latest renewal
  · intro earlier refusal between entry later split refused renewal
    have regrouped : earlier ++ refusal :: (between ++ entry :: later) =
        (earlier ++ refusal :: between) ++ entry :: later := by simp
    rw [split, regrouped] at presents
    obtain ⟨token, -, presented, latest⟩ := presents.latest renewal
    rw [presented]
    exact latest.issued_since refused
  · intro token
    rw [kept]
    exact foldl_keeps_eq_some_iff

/-- Two turns of one client: the first renewal brings another refresh token. -/
def rotation : List Turn :=
  let client : CodeProvider :=
    ⟨"https://idp.example/authorize", "https://idp.example/token", "client", none, none,
      Callback.defaultTimeout, ProofKey.defaultLength⟩
  let turn (clock : Int) (body : String) : Turn :=
    ⟨client, { World.quiet (.exactly clock) (.ofOctets []) with
      replies := [.response ⟨200, [], Text.Utf8.encode body.toList, none⟩] }⟩
  [turn 0 "\x7b\"access_token\": \"t\", \"refresh_token\": \"s\"\x7d",
    turn 4000 "\x7b\"access_token\": \"u\"\x7d"]

/-- Whoever has a refresh token at first. -/
def rotating : Agent :=
  ⟨⟨[⟨none, some "r", false⟩], []⟩, World.quiet (.exactly 0) (.ofOctets [])⟩

/-- The second renewal presents what the first one brought. -/
theorem renewal_presents_rotated :
    ∃ first second, correspondence 0 rotating rotation = [first, second] ∧
      second.presented? = some "s" ∧ Latest (some "r") [first] "s" := by
  have shape : (correspondence 0 rotating rotation).map (fun entry =>
      (entry.isRenewal, entry.presented?)) = [(true, some "r"), (true, some "s")] := by
    decide +kernel
  obtain ⟨first, rest, asked, -, shape⟩ := List.map_eq_cons_iff.mp shape
  obtain ⟨second, rest, rfl, told, shape⟩ := List.map_eq_cons_iff.mp shape
  obtain rfl := List.map_eq_nil_iff.mp shape
  obtain ⟨renewal, presented⟩ := Prod.mk.inj told
  obtain ⟨latest, -⟩ := renewal_presents_latest 0 rotating rotation (by decide)
  obtain ⟨token, -, presented', latest⟩ := latest [first] second [] asked renewal
  obtain rfl : "s" = token := Option.some.inj (presented.symm.trans presented')
  exact ⟨first, second, asked, presented, latest⟩

end Turn

end TokenFlow
