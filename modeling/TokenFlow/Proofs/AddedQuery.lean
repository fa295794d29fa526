/-
# TokenFlow.Proofs.AddedQuery -- an address keeps its parts when a query is added to it

An address ends in the middle of its query or before it has one, and what is added begins
with `&` or `?` accordingly (`joint`).  What a query is written with cannot be taken for the
end of a scheme, of a network location or of a query, so every part but the query is read as
before (`split_addPairs`), and the query has its own pairs first.

The login page is such an address: `authorizationUrl_readsBack` says that the issuer finds
the parameters of the request there as they are, behind those of its endpoint.
-/
import TokenFlow.Proofs.QueryRoundTrip
import TokenFlow.Provider.Code
import TokenFlow.Url.Parts

namespace TokenFlow

set_option autoImplicit false

namespace Text

/-! ## Cutting -/

theorem eq_of_cut {mark : Char} {text before rest : List Char}
    (h : cut mark text = (before, some rest)) : text = before ++ mark :: rest := by
  by_cases found : mark ∈ text
  · obtain ⟨first, more, rfl, clear⟩ := List.eq_append_cons_of_mem found
    rw [cut_append clear] at h
    cases h
    rfl
  · rw [cut_of_notMem found] at h
    cases h

variable {p : Char → Bool}

theorem mem_dropWhile_iff {c : Char} (h : p c = false) (text : List Char) :
    c ∈ text.dropWhile p ↔ c ∈ text := by
  refine ⟨fun found => (List.dropWhile_sublist p).subset found, fun found => ?_⟩
  induction text with
  | nil => cases found
  | cons d text ih =>
      by_cases dropped : p d = true
      · rw [List.dropWhile_cons_of_pos dropped]
        refine ih ((List.mem_cons.mp found).resolve_left ?_)
        rintro rfl
        rw [h] at dropped
        cases dropped
      · rwa [List.dropWhile_cons_of_neg dropped]

/-- A stretch that ends before or at a sign does not change with what follows the sign. -/
theorem takeWhile_dropWhile_append {text : List Char} {sign : Char}
    (stops : p sign = false ∨ ∃ c ∈ text, p c = false) (more : List Char) :
    (text ++ sign :: more).takeWhile p = text.takeWhile p ∧
      (text ++ sign :: more).dropWhile p = text.dropWhile p ++ sign :: more := by
  induction text with
  | nil =>
      have ends : ¬ p sign = true := by
        rcases stops with here | ⟨c, none, -⟩
        · rw [here]
          exact nofun
        · cases none
      exact ⟨List.takeWhile_cons_of_neg ends, List.dropWhile_cons_of_neg ends⟩
  | cons d text ih =>
      by_cases passed : p d = true
      · have later : p sign = false ∨ ∃ c ∈ text, p c = false := by
          refine stops.imp_right fun ⟨c, found, stop⟩ => ?_
          rcases List.mem_cons.mp found with rfl | found
          · rw [passed] at stop
            cases stop
          · exact ⟨c, found, stop⟩
        obtain ⟨taken, dropped⟩ := ih later
        rw [List.cons_append, List.takeWhile_cons_of_pos passed, taken,
          List.takeWhile_cons_of_pos passed, List.dropWhile_cons_of_pos passed, dropped,
          List.dropWhile_cons_of_pos passed]
        exact ⟨rfl, rfl⟩
      · rw [List.cons_append, List.takeWhile_cons_of_neg passed,
          List.takeWhile_cons_of_neg passed, List.dropWhile_cons_of_neg passed,
          List.dropWhile_cons_of_neg passed, List.cons_append]
        exact ⟨rfl, rfl⟩

end Text

namespace Url

open TokenFlow.Text

/-- What stands between an address and the pairs that are added to it. -/
def joint (text : List Char) : Char :=
  if '?' ∈ text then '&' else '?'

theorem joint_congr {text other : List Char} (h : '?' ∈ text ↔ '?' ∈ other) :
    joint text = joint other := by
  simp only [joint, h]

theorem joint_cases (text : List Char) : joint text = '&' ∨ joint text = '?' := by
  unfold joint
  split
  · exact .inl rfl
  · exact .inr rfl

/-! ## Clean text -/

/-- Only controls are dropped wherever they stand. -/
theorem isDropped_of_lt {c : Char} (h : 0x20 < c.toNat) : isDropped c = false := by
  have apart : c ≠ '\t' ∧ c ≠ '\n' ∧ c ≠ '\r' := by
    refine ⟨?_, ?_, ?_⟩ <;> rintro rfl <;> exact absurd h (by decide)
  simp [isDropped, apart]

section

variable {sign : Char} (shown : isLeadingNoise sign = false) (kept : isDropped sign = false)

include shown kept

theorem mem_clean (text : List Char) : sign ∈ clean text ↔ sign ∈ text := by
  rw [clean, List.mem_filter, kept, Bool.not_false, and_iff_left rfl]
  exact mem_dropWhile_iff shown text

/-- Noise is dropped before a text that is added, and nothing of that text. -/
theorem clean_append (text : List Char) {more : List Char}
    (clear : ∀ c ∈ more, isDropped c = false) :
    clean (text ++ sign :: more) = clean text ++ sign :: more := by
  have unchanged : (sign :: more).filter (!isDropped ·) = sign :: more := by
    refine List.filter_eq_self.mpr fun c found => ?_
    rcases List.mem_cons.mp found with rfl | later
    · rw [kept, Bool.not_false]
    · rw [clear c later, Bool.not_false]
  rw [clean, List.dropWhile_append, clean]
  split
  · rename_i noise
    rw [List.isEmpty_iff.mp noise, List.dropWhile_cons_of_neg (by rw [shown]; exact nofun),
      unchanged, List.filter_nil, List.nil_append]
  · rw [List.filter_append, unchanged]

end

/-! ## Scheme -/

/-- A text without a colon does not end a scheme. -/
theorem splitScheme?_append {more : List Char} (colonless : ':' ∉ more) (text : List Char) :
    splitScheme? (text ++ more) =
      (splitScheme? text).map fun (scheme, rest) => (scheme, rest ++ more) := by
  unfold splitScheme?
  by_cases colon : ':' ∈ text
  · obtain ⟨before, rest, rfl, first⟩ := List.eq_append_cons_of_mem colon
    rw [List.append_assoc, List.cons_append, cut_append first, cut_append first]
    cases before with
    | nil => rfl
    | cons c before =>
        dsimp only
        split <;> rfl
  · have whole : ':' ∉ text ++ more := by
      rw [List.mem_append, not_or]
      exact ⟨colon, colonless⟩
    rw [cut_of_notMem colon, cut_of_notMem whole]
    cases text <;> cases more <;> rfl

/-- A scheme is made of the signs of a scheme, and a colon ends it. -/
theorem splitScheme?_eq_some {text scheme rest : List Char}
    (h : splitScheme? text = some (scheme, rest)) :
    text = scheme ++ ':' :: rest ∧ ∀ sign ∈ scheme, isSchemeChar sign = true := by
  unfold splitScheme? at h
  split at h
  · rename_i first more after divided
    split at h
    · rename_i spelled
      cases h
      rw [Bool.and_eq_true, List.all_eq_true] at spelled
      refine ⟨eq_of_cut divided, List.forall_mem_cons.mpr ⟨?_, spelled.2⟩⟩
      simp [isSchemeChar, Char.isAlphanum, spelled.1]
    · cases h
  · cases h

/-- What ends a network location, or begins a query, is behind the scheme. -/
theorem mem_of_splitScheme? {text scheme rest : List Char} {sign : Char}
    (ends : sign = '?' ∨ sign = '#') (h : splitScheme? text = some (scheme, rest)) :
    sign ∈ rest ↔ sign ∈ text := by
  have apart : isSchemeChar sign = false ∧ sign ≠ ':' := by
    rcases ends with rfl | rfl <;> decide
  obtain ⟨rfl, spelled⟩ := splitScheme?_eq_some h
  have outside : sign ∉ scheme := by
    intro found
    rw [spelled sign found] at apart
    cases apart.1
  simp [outside, apart.2]

/-! ## Network location -/

theorem splitLocation_of_ne {text : List Char} (h : ∀ rest, text ≠ '/' :: '/' :: rest) :
    splitLocation text = ([], text) := by
  unfold splitLocation
  split
  · rename_i rest
    exact absurd rfl (h rest)
  · rfl

theorem mem_splitLocation {sign : Char} (ends : sign = '?' ∨ sign = '#') (text : List Char) :
    sign ∈ (splitLocation text).2 ↔ sign ∈ text := by
  have apart : (!endsLocation sign) = false ∧ sign ≠ '/' := by
    rcases ends with rfl | rfl <;> decide
  unfold splitLocation
  split
  · rename_i rest
    simp only [mem_dropWhile_iff (p := (!endsLocation ·)) apart.1, List.mem_cons, apart.2, false_or]
  · rfl

/-- A network location ends where it ended before: at a sign of its own, or else at the `?`
that is added. -/
theorem splitLocation_append (text more : List Char) :
    splitLocation (text ++ joint text :: more) =
      ((splitLocation text).1, (splitLocation text).2 ++ joint text :: more) := by
  by_cases double : ∃ rest, text = '/' :: '/' :: rest
  · obtain ⟨rest, rfl⟩ := double
    have stops : (!endsLocation (joint ('/' :: '/' :: rest))) = false ∨
        ∃ c ∈ rest, (!endsLocation c) = false := by
      by_cases asked : '?' ∈ rest
      · exact .inr ⟨'?', asked, rfl⟩
      · left
        rw [joint, if_neg (by simp [asked])]
        rfl
    obtain ⟨taken, dropped⟩ := takeWhile_dropWhile_append (p := (!endsLocation ·)) stops more
    exact Prod.ext taken dropped
  · rw [not_exists] at double
    have apart : joint text ≠ '/' := by
      rcases joint_cases text with sign | sign <;> rw [sign] <;> decide
    have single : ∀ rest, text ++ joint text :: more ≠ '/' :: '/' :: rest := by
      intro rest same
      match text, double, apart with
      | [], _, apart => exact apart (List.cons.inj same).1
      | [c], _, apart => exact apart (List.cons.inj (List.cons.inj same).2).1
      | c :: d :: text, double, _ =>
          obtain ⟨first, same⟩ := List.cons.inj same
          exact double text (by rw [first, (List.cons.inj same).1])
    rw [splitLocation_of_ne double, splitLocation_of_ne single]

/-! ## Path and query -/

/-- The parts of an address, when its scheme and its network location are known. -/
def partsBehind (scheme location text : List Char) : Parts :=
  let (beforeFragment, fragment) := cut '#' text
  let (path, query) := cut '?' beforeFragment
  let (path, parameters) :=
    if parameterSchemes.contains (String.ofList scheme) then splitParameters path
    else (path, [])
  { scheme, location, path, parameters, query := query.getD [], fragment := fragment.getD [] }

/-- The address behind its scheme. -/
def splitBehind (scheme text : List Char) : Except UrlError Parts :=
  match locationError? (splitLocation text).1 with
  | some error => .error error
  | none => .ok (partsBehind scheme (splitLocation text).1 (splitLocation text).2)

theorem splitClean_eq (usual text : List Char) :
    splitClean usual text =
      match splitScheme? text with
      | some (spelling, rest) => splitBehind (lowerAscii spelling) rest
      | none => splitBehind usual text := by
  unfold splitClean splitBehind
  cases splitScheme? text <;> rfl

theorem query_partsBehind {text : List Char} (noQuery : '?' ∉ text) (noFragment : '#' ∉ text)
    (scheme location : List Char) : (partsBehind scheme location text).query = [] := by
  simp only [partsBehind, cut_of_notMem noFragment, cut_of_notMem noQuery, Option.getD_none]

/-- Pairs that are added go behind the pairs of the query that is there. -/
theorem partsBehind_append {text : List Char} (noFragment : '#' ∉ text)
    (scheme location : List Char) (pairs : List (String × String)) :
    ∃ query, partsBehind scheme location (text ++ joint text :: Query.encodePairs pairs) =
        { partsBehind scheme location text with query } ∧
      Query.decodePairs query =
        Query.decodePairs (partsBehind scheme location text).query ++ pairs := by
  have noFragment' : '#' ∉ text ++ joint text :: Query.encodePairs pairs := by
    have apart : '#' ≠ joint text := by
      rcases joint_cases text with sign | sign <;> rw [sign] <;> decide
    rw [List.mem_append, List.mem_cons, not_or, not_or]
    exact ⟨noFragment, apart, Query.notMem_encodePairs (by decide) pairs⟩
  by_cases asked : '?' ∈ text
  · have continued : joint text = '&' := if_pos asked
    obtain ⟨path, query, rfl, first⟩ := List.eq_append_cons_of_mem asked
    refine ⟨query ++ '&' :: Query.encodePairs pairs, ?_, ?_⟩
    · rw [partsBehind, cut_of_notMem noFragment', partsBehind, cut_of_notMem noFragment, continued,
        List.append_assoc, List.cons_append]
      simp only [cut_append first, Option.getD_some]
    · rw [Query.decodePairs_append, Query.decodePairs_encodePairs, partsBehind,
        cut_of_notMem noFragment]
      simp only [cut_append first, Option.getD_some]
  · have started : joint text = '?' := if_neg asked
    refine ⟨Query.encodePairs pairs, ?_, ?_⟩
    · rw [partsBehind, cut_of_notMem noFragment', partsBehind, cut_of_notMem noFragment, started]
      simp only [cut_append asked, cut_of_notMem asked, Option.getD_some]
    · rw [query_partsBehind asked noFragment, Query.decodePairs_encodePairs]
      rfl

/-! ## All parts -/

theorem splitBehind_append {scheme text : List Char} {parts : Parts} (noFragment : '#' ∉ text)
    (read : splitBehind scheme text = .ok parts) (pairs : List (String × String)) :
    ∃ query, splitBehind scheme (text ++ joint text :: Query.encodePairs pairs) =
        .ok { parts with query } ∧
      Query.decodePairs query = Query.decodePairs parts.query ++ pairs := by
  have behind : joint text = joint (splitLocation text).2 :=
    joint_congr (mem_splitLocation (.inl rfl) text).symm
  unfold splitBehind at read ⊢
  rw [splitLocation_append]
  dsimp only
  split at read
  · cases read
  · cases read
    obtain ⟨query, written, decoded⟩ := partsBehind_append
      (mt (mem_splitLocation (.inr rfl) text).mp noFragment) scheme (splitLocation text).1 pairs
    refine ⟨query, ?_, decoded⟩
    rw [behind, written]

/-- Pairs that are added to an address without a fragment go behind the pairs of its query,
and every other part stays as it is. -/
theorem split_addPairs {text : String} {parts : Parts} (noFragment : '#' ∉ text.toList)
    (read : split text = .ok parts) (pairs : List (String × String)) :
    ∃ query, split (text ++ String.ofList (joint text.toList :: Query.encodePairs pairs)) =
        .ok { parts with query } ∧
      Query.decodePairs query = Query.decodePairs parts.query ++ pairs := by
  have cleaned : joint text.toList = joint (clean text.toList) :=
    joint_congr (mem_clean rfl rfl text.toList).symm
  have noFragment' : '#' ∉ clean text.toList := mt (mem_clean rfl rfl text.toList).mp noFragment
  have clear : ∀ c ∈ Query.encodePairs pairs, isDropped c = false := by
    intro c found
    obtain ⟨shown, -⟩ := Query.visible_of_isQuerySign (Query.isQuerySign_of_mem found)
    exact isDropped_of_lt shown
  have colonless : ':' ∉ joint text.toList :: Query.encodePairs pairs := by
    have apart : ':' ≠ joint text.toList := by
      rcases joint_cases text.toList with sign | sign <;> rw [sign] <;> decide
    rw [List.mem_cons, not_or]
    exact ⟨apart, Query.notMem_encodePairs (by decide) pairs⟩
  have joined : clean (text.toList ++ joint text.toList :: Query.encodePairs pairs) =
      clean text.toList ++ joint text.toList :: Query.encodePairs pairs := by
    rcases joint_cases text.toList with sign | sign <;> rw [sign] <;>
      exact clean_append rfl rfl _ clear
  unfold split at read ⊢
  rw [String.toList_append, String.toList_ofList, joined]
  rw [splitClean_eq, splitScheme?_append colonless]
  rw [splitClean_eq] at read
  cases scheme : splitScheme? (clean text.toList) with
  | none =>
      rw [scheme] at read
      rw [cleaned]
      exact splitBehind_append noFragment' read pairs
  | some found =>
      obtain ⟨spelling, rest⟩ := found
      rw [scheme] at read
      have behind : joint (clean text.toList) = joint rest :=
        joint_congr (mem_of_splitScheme? (.inl rfl) scheme).symm
      rw [cleaned, behind]
      have outside := mt (mem_of_splitScheme? (.inr rfl) scheme).mp noFragment'
      exact splitBehind_append outside read pairs

end Url

/-! ## Login page -/

namespace CodeProvider

theorem authorizationUrl_eq (provider : CodeProvider) (redirectUri state challenge : String) :
    provider.authorizationUrl redirectUri state challenge =
      provider.authorizationEndpoint ++
        String.ofList (Url.joint provider.authorizationEndpoint.toList ::
          Url.Query.encodePairs
            (provider.authorizationParameters redirectUri state challenge)) := by
  have written (query : List Char) :
      (if provider.authorizationEndpoint.toList.contains '?' then "&" else "?")
          ++ String.ofList query =
        String.ofList (Url.joint provider.authorizationEndpoint.toList :: query) := by
    rw [← String.toList_inj, String.toList_append, String.toList_ofList, String.toList_ofList,
      Url.joint]
    by_cases asked : '?' ∈ provider.authorizationEndpoint.toList
    · simp [asked]
    · simp [asked]
  rw [authorizationUrl, String.append_assoc, Url.Query.encode, written]

/-- **A login page has the parameters as they are.**  The address begins with the endpoint and
is read like it; its query has the pairs of the endpoint and behind them those of the
request, each with its own value, and a scope when there is one that is not empty. -/
theorem authorizationUrl_readsBack (provider : CodeProvider) (redirectUri state challenge : String)
    {parts : Url.Parts} (noFragment : '#' ∉ provider.authorizationEndpoint.toList)
    (read : Url.split provider.authorizationEndpoint = .ok parts) :
    ∃ added query,
      provider.authorizationUrl redirectUri state challenge =
        provider.authorizationEndpoint ++ added ∧
      Url.split (provider.authorizationUrl redirectUri state challenge) =
        .ok { parts with query } ∧
      Url.Query.decodePairs query =
        Url.Query.decodePairs parts.query ++
          [("response_type", "code"), ("client_id", provider.clientId),
            ("redirect_uri", redirectUri), ("state", state), ("code_challenge", challenge),
            ("code_challenge_method", "S256")] ++
          match provider.scope with
          | none => []
          | some scope => if scope = "" then [] else [("scope", scope)] := by
  have written := provider.authorizationUrl_eq redirectUri state challenge
  obtain ⟨query, split, decoded⟩ := Url.split_addPairs noFragment read
    (provider.authorizationParameters redirectUri state challenge)
  refine ⟨_, query, written, written ▸ split, ?_⟩
  rw [decoded, authorizationParameters, List.append_assoc]
  congr 2
  cases scope : provider.scope with
  | none => rfl
  | some text =>
      by_cases empty : text = ""
      · rw [empty]
        rfl
      · rw [nonempty?_eq_some_iff.mpr ⟨rfl, empty⟩]
        simp [empty]

/-- A provider whose endpoint has parameters of its own, and whose scope needs escapes. -/
def tenantProvider : CodeProvider where
  authorizationEndpoint := " HTTPS://idp.example/a;v=1/b;w?tenant=a%20b+c&&x\n&"
  tokenEndpoint := "https://idp.example/token"
  clientId := "b&c=d"
  clientSecret := none
  scope := some "openid é"
  callbackTimeout := Callback.defaultTimeout
  verifierLength := ProofKey.defaultLength

theorem split_tenantEndpoint :
    Url.split tenantProvider.authorizationEndpoint =
      .ok ⟨"https".toList, "idp.example".toList, "/a;v=1/b".toList, "w".toList,
        "tenant=a%20b+c&&x&".toList, []⟩ := by
  rfl

theorem decodePairs_tenantQuery :
    Url.Query.decodePairs "tenant=a%20b+c&&x&".toList = [("tenant", "a b c"), ("x", "")] := by
  decide +kernel

/-- Neither the empty stretches of the endpoint nor the signs in the values of the request get
between its parameters. -/
theorem authorizationUrl_readsBack_tenant :
    '#' ∉ tenantProvider.authorizationEndpoint.toList ∧
    ∃ query,
      Url.split (tenantProvider.authorizationUrl "http://h/callback" "s&t" "+%41#") =
        .ok ⟨"https".toList, "idp.example".toList, "/a;v=1/b".toList, "w".toList, query, []⟩ ∧
      Url.Query.decodePairs query =
        [("tenant", "a b c"), ("x", ""), ("response_type", "code"), ("client_id", "b&c=d"),
          ("redirect_uri", "http://h/callback"), ("state", "s&t"), ("code_challenge", "+%41#"),
          ("code_challenge_method", "S256"), ("scope", "openid é")] := by
  have noFragment : '#' ∉ tenantProvider.authorizationEndpoint.toList := by decide +kernel
  obtain ⟨-, query, -, split, decoded⟩ := authorizationUrl_readsBack tenantProvider
    "http://h/callback" "s&t" "+%41#" noFragment split_tenantEndpoint
  refine ⟨noFragment, query, split, ?_⟩
  rw [decoded, decodePairs_tenantQuery]
  rfl

end CodeProvider

end TokenFlow
