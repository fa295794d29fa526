/-
# TokenFlow.Proofs.FailedCall -- what a call that fails leaves behind

A token is stored at the very end of a call, so a call that fails leaves the one that was
kept.  The refresh token is stored earlier, as soon as there is a grant; but after a grant
only its lifetime can still make the call fail (`Fails.endless`).  So a call that fails
leaves the refresh token that was kept, or none when the issuer refused it.

The exception is real: a lifetime beyond all doubles ends a call in an overflow, and the
refresh token that came with it stays (`endlessRenewal`).
-/
import TokenFlow.Proofs.LoginBinding
import TokenFlow.Proofs.RenewalLedger

namespace TokenFlow

set_option autoImplicit false

open TokenFlow.Number TokenFlow.Document

namespace Enquiry

/-- An answer leaves the refresh token, or refuses it, or brings another one. -/
theorem keeps_cases (kept : Option String) (entry : Enquiry) :
    entry.keeps kept = kept ∨
      (entry.keeps kept = none ∧ entry.refusesRenewal = true) ∨
      ∃ token, entry.issued? = some token ∧ entry.keeps kept = some token := by
  unfold keeps
  cases entry.issued? with
  | some token => exact .inr (.inr ⟨token, rfl, rfl⟩)
  | none =>
      by_cases refused : entry.refusesRenewal = true
      · exact .inr (.inl ⟨if_pos refused, refused⟩)
      · exact .inl (if_neg refused)

/-- So do answers that follow one another: the last of them that did not leave it decides. -/
theorem foldl_keeps_cases (kept : Option String) (entries : List Enquiry) :
    entries.foldl keeps kept = kept ∨
      (entries.foldl keeps kept = none ∧ ∃ entry ∈ entries, entry.refusesRenewal = true) ∨
      ∃ entry ∈ entries, ∃ token, entry.issued? = some token ∧
        entries.foldl keeps kept = some token := by
  induction entries generalizing kept with
  | nil => exact .inl rfl
  | cons entry entries ih =>
      have here : entry ∈ entry :: entries := List.mem_cons_self
      rw [List.foldl_cons]
      rcases ih (entry.keeps kept) with same | ⟨none, refusal, found, refused⟩ |
        ⟨source, found, issued⟩
      · rw [same]
        rcases keeps_cases kept entry with left | ⟨none, refused⟩ | issued
        · exact .inl left
        · exact .inr (.inl ⟨none, entry, here, refused⟩)
        · exact .inr (.inr ⟨entry, here, issued⟩)
      · exact .inr (.inl ⟨none, refusal, List.mem_cons_of_mem entry found, refused⟩)
      · exact .inr (.inr ⟨source, List.mem_cons_of_mem entry found, issued⟩)

end Enquiry

namespace CodeProvider

variable {provider : CodeProvider} {prospects : Prospects} {entries : List Enquiry}
  {fault : Fault}

/-! ## After a grant -/

/-- A grant in spite of which there is no credential. -/
def Endless (fault : Fault) (entry : Enquiry) : Prop :=
  ∀ grant, entry.grant? = some grant → fault = .overflow ∧ Binary64.ofInt? grant.lifetime = none

theorem endless_of_credential {step : GrantStep} {endpoint : String} {clock : Binary64}
    {entry : Enquiry} (h : entry.credential step endpoint clock = .error fault) :
    Endless fault entry := by
  intro grant granted
  rcases entry.credential_cases step endpoint clock with
    ⟨grant', granted', given⟩ | ⟨_, -, refused, -⟩ | ⟨_, -, refused, -⟩
  · rw [granted] at granted'
    obtain rfl : grant = grant' := Option.some.inj granted'
    exact Credential.ofGrant_eq_error (given.symm.trans h)
  · rw [granted] at refused
    cases refused
  · rw [granted] at refused
    cases refused

/-- When a call fails after a grant, it is for its lifetime. -/
theorem Fails.endless (fails : provider.Fails prospects fault entries) :
    ∀ entry ∈ entries, Endless fault entry := by
  have never {entry : Enquiry} (ungranted : entry.grant? = none) : Endless fault entry := by
    intro grant granted
    rw [ungranted] at granted
    cases granted
  cases fails with
  | codeless codeless ungranted => exact fun entry found => never (ungranted entry found)
  | @answered earlier last step clock ungranted stopped =>
      intro entry found
      rcases List.mem_append.mp found with early | found
      · exact never (ungranted entry early)
      · obtain rfl := List.mem_singleton.mp found
        exact endless_of_credential stopped

/-! ## What is kept -/

/-- A call that fails leaves the token that was kept.  It leaves the refresh token that was
kept, or none when its renewal was refused in this call; or the call received a grant whose
lifetime is beyond all doubles, and the refresh token is the one that came with it. -/
theorem kept_of_error (provider : CodeProvider) (login : Login) (fault : Fault)
    (h : (provider.getToken login).1 = .error fault) :
    (provider.getToken login).2.credentials.token = login.credentials.token ∧
      ((provider.getToken login).2.credentials.refreshToken = login.credentials.refreshToken ∨
        ((provider.getToken login).2.credentials.refreshToken = none ∧
          ∃ entry ∈ login.world.asked (provider.getToken login).2.world,
            entry.refusesRenewal = true) ∨
        (fault = .overflow ∧
          ∃ entry ∈ login.world.asked (provider.getToken login).2.world, ∃ grant token,
            entry.grant? = some grant ∧ Binary64.ofInt? grant.lifetime = none ∧
              grant.renewal? = some token ∧
              (provider.getToken login).2.credentials.refreshToken = some token)) := by
  have failed : ((Provider.code provider).getToken login).1 = .error fault := h
  refine ⟨Provider.token_of_error failed, ?_⟩
  obtain ⟨entries, ledger, ends⟩ := provider.getToken_ledger login
  rw [ledger.asks.asked_eq, ledger.kept]
  rcases Enquiry.foldl_keeps_cases login.credentials.refreshToken entries with
    same | ⟨none, refusal, found, refused⟩ | ⟨source, found, token, issued, kept⟩
  · exact .inl same
  · exact .inr (.inl ⟨none, refusal, found, refused⟩)
  · obtain ⟨grant, granted, renewal⟩ := Option.bind_eq_some_iff.mp issued
    obtain ⟨overflow, endless⟩ := (ends.fails h).endless source found grant granted
    exact .inr (.inr ⟨overflow, source, found, grant, token, granted, endless, renewal, kept⟩)

/-- A login whose token has ended, whose renewal is refused, and for which no page opens. -/
def refusedRenewal : Login where
  credentials := ⟨some ⟨"t", some (.real (.exactly 10))⟩, some "r", false⟩
  world := { World.quiet (.exactly 0) (.ofOctets []) with
    replies := [.response
      ⟨400, [], Text.Utf8.encode "\x7b\"error\": \"invalid_grant\"\x7d".toList, none⟩]
    visits := [⟨.declined, fun _ => [], fun _ => []⟩] }

/-- It fails, and keeps the token that has ended; the refresh token was refused. -/
theorem kept_of_refusedRenewal :
    ∃ fault, (client.getToken refusedRenewal).1 = .error fault ∧
      (client.getToken refusedRenewal).2.credentials.token = refusedRenewal.credentials.token ∧
      (client.getToken refusedRenewal).2.credentials.refreshToken = none ∧
      ∃ entry ∈ refusedRenewal.world.asked (client.getToken refusedRenewal).2.world,
        entry.refusesRenewal = true := by
  have ended : (client.getToken refusedRenewal).1.toOption = none ∧
      (client.getToken refusedRenewal).1 ≠ .error .overflow ∧
      (client.getToken refusedRenewal).2.credentials.refreshToken ≠ some "r" := by
    decide +kernel
  obtain ⟨failed, fine, lost⟩ := ended
  rcases result : (client.getToken refusedRenewal).1 with fault | value
  · obtain ⟨token, same | refused | ⟨overflow, -⟩⟩ :=
      kept_of_error client refusedRenewal fault result
    · exact absurd same lost
    · exact ⟨fault, rfl, token, refused⟩
    · rw [result, overflow] at fine
      exact absurd rfl fine
  · rw [result] at failed
    cases failed

/-- A grant with another refresh token, and a lifetime of `10 ^ 309` seconds. -/
def endlessGrant : Http.Response where
  status := 200
  headers := []
  body := Text.Utf8.encode
    ("\x7b\"access_token\": \"t\", \"refresh_token\": \"s\", \"expires_in\": 1".toList
      ++ List.replicate 309 '0' ++ "\x7d".toList)

/-- A renewal that gets this grant. -/
def endlessRenewal : Login where
  credentials := ⟨none, some "r", false⟩
  world := { World.quiet (.exactly 0) (.ofOctets []) with replies := [.response endlessGrant] }

/-- What a failed call received may stay. -/
theorem overflow_keeps_renewal :
    ¬ ∀ (provider : CodeProvider) (login : Login) (fault : Fault),
      (provider.getToken login).1 = .error fault →
        (provider.getToken login).2.credentials.token = login.credentials.token ∧
          ((provider.getToken login).2.credentials.refreshToken =
              login.credentials.refreshToken ∨
            (provider.getToken login).2.credentials.refreshToken = none ∧
              ∃ entry ∈ login.world.asked (provider.getToken login).2.world,
                entry.isRenewal = true) := by
  intro claimed
  have ended : (client.getToken endlessRenewal).1 = .error .overflow ∧
      (client.getToken endlessRenewal).2.credentials.refreshToken = some "s" := by
    decide +kernel
  obtain ⟨-, same | ⟨none, -⟩⟩ := claimed client endlessRenewal .overflow ended.1
  · rw [ended.2] at same
    exact absurd same (by decide)
  · rw [ended.2] at none
    cases none

end CodeProvider

end TokenFlow
