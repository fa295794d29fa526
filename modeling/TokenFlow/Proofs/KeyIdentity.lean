/-
# TokenFlow.Proofs.KeyIdentity -- which providers have one cache key

A provider stands for an identity: a token endpoint with a client, or the base
address of a companion service, trailing slashes aside.  The keys of delegated
logins name exactly that, and no key of one kind is a key of the other.  The key of
a login with a code writes `|` between endpoint and client, and either may contain
one, so two identities have one key when the `|` of one stands inside a part of
the other: `Straddles` is that case.  Nothing else goes wrong, after any history of a
cache that was never cleared.
-/
import Mathlib.Data.List.DropRight
import TokenFlow.Proofs.CellOwnership

namespace TokenFlow

set_option autoImplicit false

open TokenFlow.Number

/-! ## Keys as texts -/

/-- A mark between two parts can be found in two places only if one part holds it. -/
theorem append_mark_eq_iff {α : Type} {mark : α} {first second other last : List α} :
    first ++ mark :: second = other ++ mark :: last ↔
      (first = other ∧ second = last) ∨
        ∃ middle, (first = other ++ mark :: middle ∧ last = middle ++ mark :: second) ∨
          (other = first ++ mark :: middle ∧ second = middle ++ mark :: last) := by
  rw [List.append_eq_append_iff]
  constructor
  · rintro (⟨middle, rfl, tail⟩ | ⟨middle, rfl, tail⟩)
    · cases middle with
      | nil =>
          rw [List.nil_append, List.cons.injEq] at tail
          exact .inl ⟨(List.append_nil _).symm, tail.2⟩
      | cons c middle =>
          rw [List.cons_append, List.cons.injEq] at tail
          exact .inr ⟨middle, .inr ⟨by rw [tail.1], tail.2⟩⟩
    · cases middle with
      | nil =>
          rw [List.nil_append, List.cons.injEq] at tail
          exact .inl ⟨List.append_nil _, tail.2.symm⟩
      | cons c middle =>
          rw [List.cons_append, List.cons.injEq] at tail
          exact .inr ⟨middle, .inl ⟨by rw [tail.1], tail.2⟩⟩
  · rintro (⟨rfl, rfl⟩ | ⟨middle, ⟨rfl, rfl⟩ | ⟨rfl, rfl⟩⟩)
    · exact .inl ⟨[], by simp, by simp⟩
    · exact .inr ⟨mark :: middle, rfl, rfl⟩
    · exact .inl ⟨mark :: middle, rfl, rfl⟩

theorem toList_mark : "|".toList = ['|'] := rfl

theorem eq_append_mark_iff {text before after : String} :
    text = before ++ "|" ++ after ↔ text.toList = before.toList ++ '|' :: after.toList := by
  rw [← String.toList_inj, String.toList_append, String.toList_append, toList_mark,
    List.append_assoc, List.singleton_append]

/-- Two endpoints with clients have one key when they are the same, or when one
endpoint goes on with a `|` where the other client starts. -/
theorem codeKey_eq_iff {endpoint client otherEndpoint otherClient : String} :
    codeKey endpoint client = codeKey otherEndpoint otherClient ↔
      (endpoint = otherEndpoint ∧ client = otherClient) ∨
        ∃ middle, (endpoint = otherEndpoint ++ "|" ++ middle ∧
            otherClient = middle ++ "|" ++ client) ∨
          (otherEndpoint = endpoint ++ "|" ++ middle ∧ client = middle ++ "|" ++ otherClient) := by
  have texts : codeKey endpoint client = codeKey otherEndpoint otherClient ↔
      endpoint.toList ++ '|' :: client.toList =
        otherEndpoint.toList ++ '|' :: otherClient.toList := by
    unfold codeKey
    simp only [String.append_assoc]
    rw [String.append_right_inj, ← String.toList_inj]
    simp only [String.toList_append, toList_mark, List.singleton_append]
  rw [texts, append_mark_eq_iff]
  simp only [eq_append_mark_iff, String.toList_inj]
  refine or_congr_right ⟨?_, ?_⟩
  · rintro ⟨middle, h⟩
    exact ⟨String.ofList middle, by simpa using h⟩
  · rintro ⟨middle, h⟩
    exact ⟨middle.toList, h⟩

theorem delegatedKey_eq_iff {baseUrl other : String} :
    delegatedKey baseUrl = delegatedKey other ↔
      Url.withoutTrailingSlashes baseUrl = Url.withoutTrailingSlashes other := by
  unfold delegatedKey
  rw [String.append_right_inj]

/-- The first letters tell the kinds apart. -/
theorem codeKey_ne_delegatedKey (endpoint client baseUrl : String) :
    codeKey endpoint client ≠ delegatedKey baseUrl := by
  have left : "authorization_code|".toList.head? = some 'a' := rfl
  have right : "server_side|".toList.head? = some 's' := rfl
  intro same
  have heads := congrArg (·.toList.head?) same
  unfold codeKey delegatedKey at heads
  simp only [String.append_assoc] at heads
  simp only [String.toList_append, List.head?_append, left, right, Option.some_or] at heads
  cases heads

/-- Slashes are removed once and for all. -/
theorem withoutTrailingSlashes_idem (baseUrl : String) :
    Url.withoutTrailingSlashes (Url.withoutTrailingSlashes baseUrl) =
      Url.withoutTrailingSlashes baseUrl := by
  simp only [Url.withoutTrailingSlashes, Text.trimRight, String.toList_ofList, List.reverse_reverse,
    List.dropWhile_idempotent]

/-! ## Identities -/

namespace Design

/-- What a provider stands for is the same. -/
def SameIdentity : Design → Design → Prop
  | .code provider, .code other =>
      provider.tokenEndpoint = other.tokenEndpoint ∧ provider.clientId = other.clientId
  | .delegated baseUrl _ _ _, .delegated other _ _ _ =>
      Url.withoutTrailingSlashes baseUrl = Url.withoutTrailingSlashes other
  | _, _ => False

/-- One endpoint goes on with a `|` where the client of the other starts. -/
def Straddles : Design → Design → Prop
  | .code provider, .code other =>
      ∃ middle, (provider.tokenEndpoint = other.tokenEndpoint ++ "|" ++ middle ∧
          other.clientId = middle ++ "|" ++ provider.clientId) ∨
        (other.tokenEndpoint = provider.tokenEndpoint ++ "|" ++ middle ∧
          provider.clientId = middle ++ "|" ++ other.clientId)
  | _, _ => False

theorem provider?_code {design : CodeProvider} {provider : Provider}
    (made : (Design.code design).provider? = .ok provider) : provider = .code design := by
  simp only [provider?, CodeProvider.check] at made
  split at made
  · cases made
  split at made
  · cases made
  split at made
  · cases made
  · exact (Except.ok.inj made).symm

theorem cacheKey_delegated {baseUrl : String} {disableVerification : Bool}
    {pollInterval pollTimeout : Amount} {provider : Provider}
    (made : (Design.delegated baseUrl disableVerification pollInterval pollTimeout).provider? =
      .ok provider) : provider.cacheKey = delegatedKey baseUrl := by
  simp only [provider?, DelegatedProvider.create] at made
  split at made
  · cases made
  · obtain rfl := Except.ok.inj made
    rw [Provider.cacheKey, DelegatedProvider.cacheKey, delegatedKey, withoutTrailingSlashes_idem,
      delegatedKey]

/-- Keys are equal for one identity, and for identities that straddle each other. -/
theorem cacheKey_eq_iff {first second : Design} {provider other : Provider}
    (made : first.provider? = .ok provider) (also : second.provider? = .ok other) :
    provider.cacheKey = other.cacheKey ↔ first.SameIdentity second ∨ first.Straddles second := by
  cases first with
  | code design =>
      obtain rfl := provider?_code made
      cases second with
      | code design' =>
          obtain rfl := provider?_code also
          exact codeKey_eq_iff
      | delegated baseUrl _ _ _ =>
          rw [cacheKey_delegated also]
          simp only [SameIdentity, Straddles, or_self, iff_false]
          exact codeKey_ne_delegatedKey _ _ _
  | delegated baseUrl _ _ _ =>
      rw [cacheKey_delegated made]
      cases second with
      | code design' =>
          obtain rfl := provider?_code also
          simp only [SameIdentity, Straddles, or_self, iff_false]
          exact (codeKey_ne_delegatedKey _ _ _).symm
      | delegated baseUrl' _ _ _ =>
          rw [cacheKey_delegated also]
          simp only [SameIdentity, Straddles, or_false]
          exact delegatedKey_eq_iff

/-- Identities that straddle each other are two: their endpoints differ in length. -/
theorem Straddles.not_sameIdentity {first second : Design} (straddles : first.Straddles second) :
    ¬ first.SameIdentity second := by
  have longer (endpoint middle : String) : endpoint ≠ endpoint ++ "|" ++ middle := by
    intro same
    have lengths := congrArg (·.toList.length) same
    simp only [String.toList_append, List.length_append] at lengths
    rw [toList_mark, List.length_singleton] at lengths
    omega
  intro same
  cases first with
  | delegated => exact straddles
  | code provider =>
      cases second with
      | delegated => exact straddles
      | code other =>
          obtain ⟨middle, ⟨endpoint, -⟩ | ⟨endpoint, -⟩⟩ := straddles
          · exact longer _ _ (same.1.symm.trans endpoint)
          · exact longer _ _ (same.1.trans endpoint)

end Design

/-! ## Sharing -/

namespace History

/-- After any history of a cache that was never cleared, two of its accounts share
what is kept when they have one identity or their identities straddle each other,
and in no other case; so sharing tells identities apart except where they straddle. -/
theorem shares_iff_sameIdentity_or_straddles (world : World) (deeds : List Deed) (cache : String)
    (kept : .clear cache ∉ deeds) {first second : Member}
    (one : first ∈ (run world deeds).members) (two : second ∈ (run world deeds).members)
    (onCache : first.cache = cache) (onSame : second.cache = cache) :
    (first.account.shares second.account = true ↔
        first.design.SameIdentity second.design ∨ first.design.Straddles second.design) ∧
      ((first.account.shares second.account = true ↔ first.design.SameIdentity second.design) ↔
        ¬ first.design.Straddles second.design) := by
  have sound := run_sound world kept
  obtain ⟨made, -⟩ := sound.built first one onCache
  obtain ⟨also, -⟩ := sound.built second two onSame
  have shared : first.account.shares second.account = true ↔
      first.design.SameIdentity second.design ∨ first.design.Straddles second.design :=
    (shares_iff_cacheKey_eq sound one two onCache onSame).trans (Design.cacheKey_eq_iff made also)
  refine ⟨shared, fun exact straddles => ?_, fun apart => ?_⟩
  · exact straddles.not_sameIdentity (exact.mp (shared.mpr (.inr straddles)))
  · rw [shared, or_iff_left apart]

/-- A world in which nothing happens by itself. -/
def stillWorld : World := .quiet (Binary64.exactly 1000) (.ofSeed 1)

/-- Client `c` at an endpoint that ends in `|b`. -/
def markedEndpoint : CodeProvider :=
  ⟨"https://idp.example/login", "https://idp.example/token|b", "c", none, none, 120, 64⟩

/-- Client `b|c` at the endpoint without that end. -/
def markedClient : CodeProvider :=
  ⟨"https://idp.example/login", "https://idp.example/token", "b|c", none, none, 120, 64⟩

/-- Both are built on one cache. -/
def straddlingDeeds : List Deed :=
  [.build "main" (.code markedEndpoint), .build "main" (.code markedClient)]

theorem members_straddlingDeeds : (run stillWorld straddlingDeeds).members =
    [⟨"main", .code markedEndpoint, ⟨.code markedEndpoint, 0⟩⟩,
      ⟨"main", .code markedClient, ⟨.code markedClient, 0⟩⟩] := by
  decide +kernel

theorem kept_straddlingDeeds : .clear "main" ∉ straddlingDeeds := by
  simp [straddlingDeeds]

theorem straddles_marked : (Design.code markedEndpoint).Straddles (.code markedClient) :=
  ⟨"b", .inl ⟨by decide +kernel, by decide +kernel⟩⟩

/-- The two marked identities share what is kept, as the general statement says. -/
theorem shares_of_straddlingDeeds :
    .clear "main" ∉ straddlingDeeds ∧
      ∃ first ∈ (run stillWorld straddlingDeeds).members,
        ∃ second ∈ (run stillWorld straddlingDeeds).members,
          first.cache = "main" ∧ second.cache = "main" ∧
            first.account.shares second.account = true ∧
            ¬ (first.account.shares second.account = true ↔
              first.design.SameIdentity second.design) := by
  have one : ⟨"main", .code markedEndpoint, ⟨.code markedEndpoint, 0⟩⟩ ∈
      (run stillWorld straddlingDeeds).members := by
    rw [members_straddlingDeeds]
    exact List.mem_cons_self
  have two : ⟨"main", .code markedClient, ⟨.code markedClient, 0⟩⟩ ∈
      (run stillWorld straddlingDeeds).members := by
    rw [members_straddlingDeeds]
    exact List.mem_cons_of_mem _ List.mem_cons_self
  obtain ⟨shared, exact⟩ := shares_iff_sameIdentity_or_straddles stillWorld straddlingDeeds "main"
    kept_straddlingDeeds one two rfl rfl
  exact ⟨kept_straddlingDeeds, _, one, _, two, rfl, rfl, shared.mpr (.inr straddles_marked),
    fun same => exact.mp same straddles_marked⟩

/-- Sharing alone does not tell identities apart. -/
theorem sharing_across_identities :
    ¬ ∀ (world : World) (deeds : List Deed) (cache : String), .clear cache ∉ deeds →
      ∀ first ∈ (run world deeds).members, ∀ second ∈ (run world deeds).members,
        first.cache = cache → second.cache = cache →
          (first.account.shares second.account = true ↔
            first.design.SameIdentity second.design) := by
  intro told
  have exact := told stillWorld straddlingDeeds "main" kept_straddlingDeeds
  rw [members_straddlingDeeds] at exact
  have same := (exact _ List.mem_cons_self _ (List.mem_cons_of_mem _ List.mem_cons_self)
    rfl rfl).mp rfl
  exact straddles_marked.not_sameIdentity same

end History

end TokenFlow
