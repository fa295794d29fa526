/-
# TokenFlow.Proofs.CallbackRoundTrip -- a redirect arrives as it was sent

Pairs that are sent to the callback path are written into a query, the query into a request
line, and the line into octets.  The listener takes each step back: the line is read as its
three words (`Request.read_line`), its target as the callback path with a query
(`Request.redirect?_line`), and the query as the pairs.  So the outcome is a matter of the
pairs alone, of the first value of each name in fact (`Outcome.judge_eq_ofValues`), and
whoever waits for the code is told that outcome (`World.Yields`).
-/
import TokenFlow.Proofs.AddedQuery
import TokenFlow.Proofs.Browsing

namespace TokenFlow

set_option autoImplicit false

open TokenFlow.Number TokenFlow.Callback

namespace Text

/-! ## Plain text -/

/-- A fact about each sign of a fixed text, by looking at all of them. -/
theorem forall_mem_of_all {p : Char → Prop} [DecidablePred p] {text : List Char}
    (all : text.all (fun c => decide (p c)) = true) : ∀ c ∈ text, p c :=
  fun c found => of_decide_eq_true (List.all_eq_true.mp all c found)

namespace Utf8

theorem encode_of_isAscii {text : List Char} (ascii : ∀ c ∈ text, c.toNat < 0x80) :
    encode text = text.map fun c => UInt8.ofNat c.toNat := by
  induction text with
  | nil => rfl
  | cons c text ih =>
      rw [List.forall_mem_cons] at ascii
      rw [encode_cons, ih ascii.2, encodeChar, if_pos ascii.1, List.map_cons,
        List.singleton_append]

end Utf8

/-- Plain text is the same octets in both encodings. -/
theorem Latin1.decode_encode {text : List Char} (ascii : ∀ c ∈ text, c.toNat < 0x80) :
    decode (Utf8.encode text) = text := by
  rw [Utf8.encode_of_isAscii ascii, decode, List.map_map]
  refine (List.map_congr_left fun c found => ?_).trans (List.map_id _)
  have octet : (UInt8.ofNat c.toNat).toNat = c.toNat :=
    Utf8.toNat_ofNat (Nat.lt_trans (ascii c found) (by decide))
  rw [Function.comp_apply, octet, Char.ofNat_toNat, id]

theorem isSeparator_of_visible {c : Char} (above : 0x20 < c.toNat) (below : c.toNat < 0x7F) :
    isSeparator c = false := by
  simp [isSeparator, isBlank]
  omega

variable {p : Char → Bool}

/-- What is trimmed at the end goes as far as the last sign that is kept. -/
theorem trimRight_append {last : Char} (kept : p last = false) (before : List Char)
    {more : List Char} (trimmed : ∀ c ∈ more, p c = true) :
    trimRight p (before ++ last :: more) = before ++ [last] := by
  have stops : ¬ p last = true := by
    rw [kept]
    exact nofun
  rw [trimRight, List.reverse_append, List.reverse_cons, List.append_assoc,
    List.dropWhile_append_of_pos fun c found => trimmed c (List.mem_reverse.mp found),
    List.singleton_append, List.dropWhile_cons_of_neg stops, List.reverse_cons,
    List.reverse_reverse]

theorem words_append {word : List Char} (full : word ≠ []) (solid : ∀ c ∈ word, p c = false)
    {blank : Char} (divides : p blank = true) (rest : List Char) :
    words p (word ++ blank :: rest) = word :: words p rest := by
  induction word with
  | nil => exact absurd rfl full
  | cons c word ih =>
      rw [List.forall_mem_cons] at solid
      cases word with
      | nil => simp [words, solid.1, divides]
      | cons d word =>
          have next := ih (List.cons_ne_nil d word) solid.2
          rw [List.cons_append, List.cons_append, words]
          simp only [solid.1, solid.2 d List.mem_cons_self, Bool.false_eq_true, if_false]
          rw [← List.cons_append, next]

theorem words_singleton {word : List Char} (full : word ≠ []) (solid : ∀ c ∈ word, p c = false) :
    words p word = [word] := by
  induction word with
  | nil => exact absurd rfl full
  | cons c word ih =>
      rw [List.forall_mem_cons] at solid
      cases word with
      | nil => simp [words, solid.1]
      | cons d word =>
          have next := ih (List.cons_ne_nil d word) solid.2
          rw [words]
          simp [solid.1, solid.2 d List.mem_cons_self, next]

end Text

namespace Callback

open TokenFlow.Text

namespace Request

/-! ## Request line -/

/-- The octets of the line of a `GET` request for a target. -/
def line (target : String) : List UInt8 :=
  Utf8.encode ("GET ".toList ++ target.toList ++ " HTTP/1.1\r\n".toList)

theorem get_eq (target : String) :
    get target = line target ++ Utf8.encode "Host: 127.0.0.1\r\n\r\n".toList := by
  rw [line, ← Utf8.encode_append, get, List.append_assoc _ " HTTP/1.1\r\n".toList]
  rfl

/-- The line as text, without its end. -/
def lineText (target : String) : List Char :=
  "GET ".toList ++ target.toList ++ " HTTP/1.1".toList

theorem line_eq (target : String) :
    line target = Utf8.encode (lineText target ++ ['\r', '\n']) := by
  rw [line, lineText, List.append_assoc _ " HTTP/1.1".toList]
  rfl

/-- The octets of a line are told apart from what follows them. -/
theorem splitLine_append {before : List UInt8} (whole : 10 ∉ before) (rest : List UInt8) :
    splitLine (before ++ 10 :: rest) = (before ++ [10], rest) := by
  have passed : ∀ octet ∈ before, decide (octet ≠ 10) = true := by
    intro octet found
    rw [decide_eq_true_iff]
    rintro rfl
    exact whole found
  unfold splitLine
  rw [List.takeWhile_append_of_pos passed, List.dropWhile_append_of_pos passed]
  simp

section

variable {target : String} (visible : ∀ c ∈ target.toList, 0x20 < c.toNat ∧ c.toNat < 0x7F)

include visible

theorem mem_lineText {c : Char} (found : c ∈ lineText target) :
    0x20 ≤ c.toNat ∧ c.toNat < 0x7F := by
  have fixed : ∀ c ∈ "GET ".toList ++ " HTTP/1.1".toList, 0x20 ≤ c.toNat ∧ c.toNat < 0x7F :=
    forall_mem_of_all (by decide)
  simp only [lineText, List.mem_append, or_assoc] at found
  rcases found with method | inside | version
  · exact fixed c (List.mem_append_left _ method)
  · obtain ⟨above, below⟩ := visible c inside
    exact ⟨Nat.le_of_lt above, below⟩
  · exact fixed c (List.mem_append_right _ version)

theorem splitLine_line (headers : List UInt8) :
    splitLine (line target ++ headers) = (line target, headers) := by
  have plain : ∀ c ∈ lineText target ++ ['\r'], c.toNat < 0x80 ∧ c.toNat ≠ 10 := by
    refine List.forall_mem_append.mpr ⟨fun c inside => ?_, forall_mem_of_all (by decide)⟩
    have bounds := mem_lineText visible inside
    omega
  have whole : 10 ∉ Utf8.encode (lineText target ++ ['\r']) := by
    rw [Utf8.encode_of_isAscii fun c found => (plain c found).1]
    intro found
    obtain ⟨c, inside, octet⟩ := List.mem_map.mp found
    obtain ⟨ascii, apart⟩ := plain c inside
    have number : (UInt8.ofNat c.toNat).toNat = c.toNat :=
      Utf8.toNat_ofNat (Nat.lt_trans ascii (by decide))
    rw [octet] at number
    exact apart number.symm
  have ends : line target = Utf8.encode (lineText target ++ ['\r']) ++ [10] := by
    rw [line_eq, ← List.singleton_append, ← List.append_assoc, Utf8.encode_append _ ['\n']]
    rfl
  rw [ends, List.append_assoc, List.singleton_append, splitLine_append whole]

/-- The end of the line is no part of its text. -/
theorem trimRight_line :
    trimRight (fun c => c = '\r' ∨ c = '\n') (Latin1.decode (line target)) = lineText target := by
  have plain : ∀ c ∈ lineText target ++ ['\r', '\n'], c.toNat < 0x80 := by
    refine List.forall_mem_append.mpr ⟨fun c inside => ?_, forall_mem_of_all (by decide)⟩
    have bounds := mem_lineText visible inside
    omega
  have last : lineText target = "GET ".toList ++ target.toList ++ " HTTP/1.".toList ++ ['1'] := by
    rw [List.append_assoc _ " HTTP/1.".toList]
    rfl
  rw [line_eq, Latin1.decode_encode plain, last, List.append_assoc _ ['1'], List.singleton_append]
  exact trimRight_append (by decide) _ (forall_mem_of_all (by decide))

theorem words_lineText (full : target ≠ "") :
    words isSeparator (lineText target) = ["GET".toList, target.toList, "HTTP/1.1".toList] := by
  have solid : ∀ c ∈ target.toList, isSeparator c = false := fun c found =>
    isSeparator_of_visible (visible c found).1 (visible c found).2
  have shape : lineText target =
      "GET".toList ++ ' ' :: (target.toList ++ ' ' :: "HTTP/1.1".toList) := by
    rw [lineText, List.append_assoc]
    rfl
  have full' : target.toList ≠ [] := fun empty => full (String.toList_eq_nil_iff.mp empty)
  rw [shape, words_append (by decide) (forall_mem_of_all (by decide)) (by decide),
    words_append full' solid (by decide),
    words_singleton (by decide) (forall_mem_of_all (by decide))]

/-- A line with a visible target is read as its three words, whatever headers follow it. -/
theorem read_line (full : target ≠ "") (short : (line target).length ≤ maxLine)
    {headers : List UInt8} (accepted : headersRejection? headers maxHeaders = none) :
    read (line target ++ headers) =
      .target (String.ofList (lineText target)) .headed
        (String.ofList (collapseSlashes target.toList)) := by
  have version : versionRejection? (["HTTP/1.1".toList].getLast?.getD []) = none := by decide
  have framing : framingOf (["HTTP/1.1".toList].getLast?.getD []) = .headed := by decide
  have fits : ¬ maxLine < (line target).length := Nat.not_lt.mpr short
  simp only [read, splitLine_line visible, fits, if_false, trimRight_line visible,
    words_lineText visible full, readWords, version, framing, accepted, List.length_singleton,
    if_true]

end

/-! ## Target -/

theorem toList_target (pairs : List (String × String)) :
    ("/callback?" ++ Url.Query.encode pairs).toList =
      "/callback?".toList ++ Url.Query.encodePairs pairs :=
  String.toList_append.trans (congrArg ("/callback?".toList ++ ·) String.toList_ofList)

theorem visible_target (pairs : List (String × String)) :
    ∀ c ∈ ("/callback?" ++ Url.Query.encode pairs).toList, 0x20 < c.toNat ∧ c.toNat < 0x7F := by
  have fixed : ∀ c ∈ "/callback?".toList, 0x20 < c.toNat ∧ c.toNat < 0x7F :=
    forall_mem_of_all (by decide)
  intro c found
  rw [toList_target] at found
  rcases List.mem_append.mp found with path | query
  · exact fixed c path
  · exact Url.Query.visible_of_isQuerySign (Url.Query.isQuerySign_of_mem query)

theorem split_target (pairs : List (String × String)) :
    ∃ parts, Url.split ("/callback?" ++ Url.Query.encode pairs) = .ok parts ∧
      parts.path = callbackPath.toList ∧ Url.Query.decodePairs parts.query = pairs := by
  have read : Url.split "/callback" = .ok ⟨[], [], "/callback".toList, [], [], []⟩ := by rfl
  obtain ⟨query, split, decoded⟩ := Url.split_addPairs (by decide) read pairs
  have written : "/callback?" ++ Url.Query.encode pairs =
      "/callback" ++
        String.ofList (Url.joint "/callback".toList :: Url.Query.encodePairs pairs) := by
    refine String.toList_inj.mp ((toList_target pairs).trans ?_)
    exact (String.toList_append.trans
      (congrArg ("/callback".toList ++ ·) String.toList_ofList)).symm
  exact ⟨_, written ▸ split, rfl, decoded⟩

/-- A request for the callback path is a redirect with the pairs that it was sent with. -/
theorem redirect?_line (pairs : List (String × String))
    (short : (line ("/callback?" ++ Url.Query.encode pairs)).length ≤ maxLine)
    {headers : List UInt8} (accepted : headersRejection? headers maxHeaders = none) :
    redirect? (line ("/callback?" ++ Url.Query.encode pairs) ++ headers) = some pairs := by
  have full : "/callback?" ++ Url.Query.encode pairs ≠ "" := by
    intro empty
    have letters := toList_target pairs
    rw [empty] at letters
    cases letters
  have single : collapseSlashes ("/callback?" ++ Url.Query.encode pairs).toList =
      ("/callback?" ++ Url.Query.encode pairs).toList := by
    rw [toList_target]
    rfl
  obtain ⟨parts, split, path, decoded⟩ := split_target pairs
  have read := read_line (visible_target pairs) full short accepted
  have back : String.ofList ("/callback?" ++ Url.Query.encode pairs).toList =
      "/callback?" ++ Url.Query.encode pairs := String.ofList_toList
  rw [single, back] at read
  exact redirect?_eq_some_iff.mpr ⟨_, _, _, parts, read, split, path, decoded⟩

end Request

/-! ## Outcome -/

namespace Outcome

/-- The outcome of a redirect whose values are known by name: an error is told first, then
the state is compared, and then the code has to be there. -/
def ofValues (values : String → List String) (expectedState : String) : Outcome :=
  match values "error" with
  | error :: _ => ofError .providerError error (values "error_description").head?
  | [] =>
      if (values "state").head? = some expectedState then
        match nonempty? (values "code").head? with
        | some code => ofCode code
        | none => ofError .missingCode "No authorization code received." none
      else ofError .stateMismatch "Invalid state parameter." none

theorem first?_eq (pairs : List (String × String)) (name : String) :
    Url.Query.first? pairs name = (Url.Query.values pairs name).head? := by
  unfold Url.Query.first? Url.Query.values
  induction pairs with
  | nil => rfl
  | cons pair more ih =>
      obtain ⟨key, value⟩ := pair
      by_cases here : key = name
      · simp [here]
      · have apart : (name == key) = false := beq_false_of_ne (Ne.symm here)
        simpa [List.lookup_cons, here, apart] using ih

/-- Pairs are judged by the first value of each name. -/
theorem judge_eq_ofValues (pairs : List (String × String)) (state : String) :
    judge pairs state = ofValues (Url.Query.values pairs) state := by
  unfold judge ofValues
  rw [first?_eq, first?_eq, first?_eq, first?_eq]
  cases Url.Query.values pairs "error" <;> rfl

/-- A redirect decides, and time does not run out by it. -/
theorem errorKind_judge (pairs : List (String × String)) (state : String) :
    (judge pairs state).errorKind ≠ some .timeout := by
  unfold judge
  split
  · exact nofun
  · split
    · split <;> exact nofun
    · exact nofun

theorem result_ofCode {code : String} (full : code ≠ "") : (ofCode code).result = .ok code := by
  rw [result, code?_ofCode full]

/-- The state is asked for, and then the code is what it is. -/
theorem result_ofValues_of_code {values : String → List String} {state code : String}
    (full : code ≠ "") (fine : values "error" = []) (expected : (values "state").head? = some state)
    (given : (values "code").head? = some code) : (ofValues values state).result = .ok code := by
  rw [ofValues, fine]
  simp only [expected, if_true, given, nonempty?_eq_some_iff.mpr ⟨rfl, full⟩]
  exact result_ofCode full

theorem result_ofValues_of_error {values : String → List String} {error : String}
    {others : List String} (failed : values "error" = error :: others) (state : String) :
    (ofValues values state).result =
      .error (.failure (.interaction
        (.denied (some error) (values "error_description").head?))) := by
  rw [ofValues, failed]
  rfl

end Outcome

end Callback

namespace World

/-- Whoever waits for a code gets this, whether the request was delivered before the wait or
comes first while it goes on.  The length of the wait is a number that a double can hold, and
where there is something to wait for it is none that the system refuses. -/
def Yields (world : World) (request : List UInt8) (result : Except Fault String) : Prop :=
  ∀ timeout : Amount, timeout.toBinary64? ≠ none →
    (∀ rival happenings,
      (awaitCode rival timeout happenings (deliver none request world).2).1 = result) ∧
    (isDone world = false → timeout.exceeds world.longestWait = false → ∀ happenings,
      (awaitCode none timeout (.request request :: happenings) world).1 = result)

section

variable {timeout : Amount} {world : World} {outcome : Outcome}

/-- A wait that finds an outcome, or gets one while it goes on, tells it. -/
theorem awaitCode_of_recorded {rival : Option Outcome} {happenings : List Happening}
    (finite : timeout.toBinary64? ≠ none)
    (had : isDone world = false → timeout.exceeds world.longestWait = false)
    (recorded : (afterHappenings rival timeout happenings world).recorded = some outcome) :
    (awaitCode rival timeout happenings world).1 = outcome.result := by
  obtain ⟨listener, has, written⟩ := Option.bind_eq_some_iff.mp recorded
  rcases awaitOutcome_cases rival timeout happenings has with
    ⟨reason, clock, -, ended⟩ | ⟨endless | ⟨waits, refused⟩, -⟩
  · obtain ⟨-, kept⟩ := conclude_keeps listener rival reason
    have same : (listener.conclude rival reason).1 = outcome :=
      Option.some.inj ((conclude_recorded listener rival reason).symm.trans (kept outcome written))
    rw [awaitCode, Act.bind_of_ok ended, same, Outcome.result]
    cases outcome.code? <;> rfl
  · exact absurd endless finite
  · rw [had waits] at refused
    cases refused

/-- A request at once comes before any time has passed. -/
theorem happened_request (waits : isDone world = false)
    (had : timeout.exceeds world.longestWait = false) (request : List UInt8)
    (happenings : List Happening) :
    ∃ rest, happened timeout (.request request :: happenings) world = .request request :: rest := by
  rw [happened, waits, had, Bool.or_false, if_neg Bool.false_ne_true, during]
  cases world.deadline? timeout with
  | some deadline => exact ⟨_, rfl⟩
  | none => exact ⟨_, rfl⟩

theorem yields_of_recorded {request : List UInt8}
    (recorded : (deliver none request world).2.recorded = some outcome)
    (done : isDone (deliver none request world).2 = true) :
    world.Yields request outcome.result := by
  intro timeout finite
  constructor
  · intro rival happenings
    refine awaitCode_of_recorded finite (fun waits => absurd (done.symm.trans waits) nofun) ?_
    rwa [afterHappenings, happened, done, Bool.true_or, if_pos rfl]
  · intro waits had happenings
    refine awaitCode_of_recorded finite (fun _ => had) ?_
    obtain ⟨rest, first⟩ := happened_request waits had request happenings
    rw [afterHappenings, first, List.foldl_cons]
    exact (foldl_happen_follows none rest _).recorded recorded

end

/-- **A redirect arrives as it was sent.**  Any pairs that fit into a request line resolve a
running listener without an outcome to what the values of their names come to, in order.  So
a code with the expected state is what a wait for the code returns, and with an `error` the
wait fails with the first error and the first description that were sent. -/
theorem redirect_arrives (pairs : List (String × String)) {headers : List UInt8}
    {world : World} {listener : Listener} (here : world.listener = some listener)
    (running : listener.running = true) (fresh : listener.outcome = none)
    (short : (Request.line ("/callback?" ++ Url.Query.encode pairs)).length ≤ Request.maxLine)
    (accepted : Request.headersRejection? headers Request.maxHeaders = none) :
    let request := Request.line ("/callback?" ++ Url.Query.encode pairs) ++ headers
    let values := Url.Query.values pairs
    let outcome := Outcome.ofValues values listener.expectedState
    (deliver none request world).2.listener =
        some { listener with outcome := some outcome, status := .completed, done := true } ∧
      world.Yields request outcome.result ∧
      (∀ code, code ≠ "" → pairs = [("code", code), ("state", listener.expectedState)] →
        world.Yields request (.ok code)) ∧
      ∀ error others, values "error" = error :: others →
        world.Yields request
          (.error (.failure (.interaction
            (.denied (some error) (values "error_description").head?)))) := by
  intro request values outcome
  have redirect : Request.redirect? request = some pairs :=
    Request.redirect?_line pairs short accepted
  obtain ⟨log, delivered⟩ := deliver_eq here none request
  have resolved : (listener.receive none request).2 =
      { listener with outcome := some outcome, status := .completed, done := true } := by
    rcases listener.receive_cases none request with
      ⟨parameters, framing, redirect', -, -, -, -, -, after⟩ | ⟨silent, -⟩
    · obtain rfl := Option.some.inj (redirect.symm.trans redirect')
      rw [after, listener.resolve_of_none fresh, if_neg (Outcome.errorKind_judge pairs _),
        Outcome.judge_eq_ofValues]
    · rw [silent running fresh rfl] at redirect
      cases redirect
  rw [resolved] at delivered
  have told : world.Yields request outcome.result :=
    yields_of_recorded (by rw [delivered]; rfl) (by rw [delivered]; rfl)
  refine ⟨by rw [delivered], told, ?_, ?_⟩
  · rintro code full rfl
    have came : outcome.result = .ok code :=
      Outcome.result_ofValues_of_code full rfl rfl rfl
    rwa [came] at told
  · intro error others failed
    rwa [Outcome.result_ofValues_of_error failed] at told

/-- A world with a listener that runs for a state. -/
def listeningFor (state : String) : World :=
  { quiet (Binary64.exactly 1000) (.ofSeed 1) with
    listener := some ((Listener.create state).start usualPort) }

/-- A redirect that reports an error twice, and a code besides. -/
def deniedPairs : List (String × String) :=
  [("state", "s"), ("error", "a b"), ("code", "x"), ("error", "later"),
    ("error_description", "100% é &+=")]

/-- The first error and the description are told, to the letter. -/
theorem redirect_arrives_denied :
    (Request.line ("/callback?" ++ Url.Query.encode deniedPairs)).length ≤ Request.maxLine ∧
    Request.headersRejection? (Text.Utf8.encode "Host: 127.0.0.1\r\n\r\n".toList)
      Request.maxHeaders = none ∧
    (listeningFor "s").Yields (Request.get ("/callback?" ++ Url.Query.encode deniedPairs))
      (.error (.failure (.interaction (.denied (some "a b") (some "100% é &+="))))) := by
  have short : (Request.line ("/callback?" ++ Url.Query.encode deniedPairs)).length ≤
      Request.maxLine := by decide +kernel
  have accepted : Request.headersRejection?
      (Text.Utf8.encode "Host: 127.0.0.1\r\n\r\n".toList) Request.maxHeaders = none := by
    decide +kernel
  have here : (listeningFor "s").listener = some ((Listener.create "s").start usualPort) := rfl
  obtain ⟨-, -, -, denied⟩ := redirect_arrives deniedPairs here rfl rfl short accepted
  rw [Request.get_eq]
  exact ⟨short, accepted, denied "a b" ["later"] rfl⟩

end World

end TokenFlow
