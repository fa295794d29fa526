/-
# TokenFlow.Proofs.FailurePage -- a failed login is told as text

What a failure page shows comes from whoever sent the redirect.  Each character of it is
written as an entity or stands for itself (`escapeChar_cases`), so the page keeps its shape
whatever is shown: no mark of markup is left in the text but the ampersand that begins an
entity (`entity_of_ampersand`), and reading the entities gives back what was to be shown
(`unescape_escape`).  The length that is announced with a page is the number of octets that
the string is made of (`contentLength_eq`), and it is announced, like the status, to whoever
speaks a version of HTTP that has headers.
-/
import TokenFlow.Proofs.Delivery
import TokenFlow.Proofs.PathSegment

namespace TokenFlow

set_option autoImplicit false

/-! ## Escaped text -/

namespace Text.Markup

variable {c : Char} {text : List Char}

/-- The characters that markup gives a meaning, but for the ampersand. -/
def marks : List Char :=
  ['<', '>', '"', '\'']

def entities : List (List Char) :=
  ["&amp;".toList, "&lt;".toList, "&gt;".toList, "&quot;".toList, "&#x27;".toList]

/-- Reads the five entities back, in one pass. -/
def unescape : List Char → List Char
  | '&' :: 'a' :: 'm' :: 'p' :: ';' :: rest => '&' :: unescape rest
  | '&' :: 'l' :: 't' :: ';' :: rest => '<' :: unescape rest
  | '&' :: 'g' :: 't' :: ';' :: rest => '>' :: unescape rest
  | '&' :: 'q' :: 'u' :: 'o' :: 't' :: ';' :: rest => '"' :: unescape rest
  | '&' :: '#' :: 'x' :: '2' :: '7' :: ';' :: rest => '\'' :: unescape rest
  | c :: rest => c :: unescape rest
  | [] => []

theorem escape_cons (c : Char) (text : List Char) :
    escape (c :: text) = escapeChar c ++ escape text :=
  List.flatMap_cons

/-- A character is written as one of the entities, or as itself when markup gives it no
meaning. -/
theorem escapeChar_cases (c : Char) :
    (escapeChar c ∈ entities ∧ ∀ rest, unescape (escapeChar c ++ rest) = c :: unescape rest) ∨
      escapeChar c = [c] ∧ c ≠ '&' ∧ c ∉ marks := by
  unfold escapeChar
  split
  · exact .inl ⟨by decide, fun _ => rfl⟩
  · exact .inl ⟨by decide, fun _ => rfl⟩
  · exact .inl ⟨by decide, fun _ => rfl⟩
  · exact .inl ⟨by decide, fun _ => rfl⟩
  · exact .inl ⟨by decide, fun _ => rfl⟩
  · rename_i ampersand less greater quote apostrophe
    refine .inr ⟨rfl, ampersand, ?_⟩
    simp only [marks, List.mem_cons, List.not_mem_nil, or_false, not_or]
    exact ⟨less, greater, quote, apostrophe⟩

theorem unescape_cons (plain : c ≠ '&') (rest : List Char) :
    unescape (c :: rest) = c :: unescape rest := by
  rw [unescape]
  all_goals
    intro _ ampersand
    exact absurd ampersand plain

/-- Reading takes back what writing put down. -/
theorem unescape_escape (text : List Char) : unescape (escape text) = text := by
  induction text with
  | nil => rfl
  | cons c text ih =>
      rw [escape_cons]
      rcases escapeChar_cases c with ⟨-, read⟩ | ⟨itself, plain, -⟩
      · rw [read, ih]
      · rw [itself, List.singleton_append, unescape_cons plain, ih]

theorem notMem_escape (mark : c ∈ marks) (text : List Char) : c ∉ escape text := by
  have apart : ∀ entity ∈ entities, entity.filter (· ∈ marks) = [] := by decide
  intro found
  obtain ⟨shown, -, written⟩ := List.mem_flatMap.mp found
  rcases escapeChar_cases shown with ⟨entity, -⟩ | ⟨itself, -, plain⟩
  · exact List.filter_eq_nil_iff.mp (apart _ entity) c written (decide_eq_true mark)
  · rw [itself, List.mem_singleton] at written
    rw [written] at mark
    exact plain mark

/-- A tail that begins with a character begins behind a stretch without this character. -/
theorem suffix_of_notMem {before after rest : List Char} (absent : c ∉ before)
    (found : c :: after <:+ before ++ rest) : c :: after <:+ rest := by
  induction before with
  | nil => exact found
  | cons first before ih =>
      rw [List.mem_cons, not_or] at absent
      rw [List.cons_append, List.suffix_cons_iff] at found
      rcases found with here | later
      · exact absurd (List.cons.inj here).1 absent.1
      · exact ih absent.2 later

/-- An ampersand in a written text begins an entity. -/
theorem entity_of_ampersand {after : List Char} (found : '&' :: after <:+ escape text) :
    ∃ entity ∈ entities, entity <+: '&' :: after := by
  have begins : ∀ entity ∈ entities, ∃ name, entity = '&' :: name ∧ '&' ∉ name := by
    simp only [entities, List.forall_mem_cons]
    refine ⟨⟨_, rfl, ?_⟩, ⟨_, rfl, ?_⟩, ⟨_, rfl, ?_⟩, ⟨_, rfl, ?_⟩, ⟨_, rfl, ?_⟩,
      List.forall_mem_nil _⟩ <;> decide
  induction text with
  | nil => exact absurd (List.suffix_nil.mp found) nofun
  | cons c text ih =>
      rw [escape_cons] at found
      rcases escapeChar_cases c with ⟨entity, -⟩ | ⟨itself, plain, -⟩
      · obtain ⟨name, written, single⟩ := begins _ entity
        rw [written, List.cons_append, List.suffix_cons_iff] at found
        rcases found with here | later
        · refine ⟨_, entity, ?_⟩
          rw [here, written]
          exact List.prefix_append _ _
        · exact ih (suffix_of_notMem single later)
      · rw [itself] at found
        refine ih (suffix_of_notMem ?_ found)
        rw [List.mem_singleton]
        exact plain.symm

end Text.Markup

/-! ## Pages -/

namespace Callback

open TokenFlow.Text

variable {parameters : List (String × String)} {state : String}

namespace Page

/-- The announced length is the size of the string. -/
theorem contentLength_eq (page : Page) : page.contentLength = page.body.utf8ByteSize := by
  rw [contentLength, Utf8.encode_toList, Array.length_toList]
  rfl

/-- What a redirect that fails is told. -/
def refusalText (parameters : List (String × String)) (state : String) : String :=
  match Url.Query.first? parameters "error" with
  | some error =>
      error ++ ": "
        ++ (nonempty? (Url.Query.first? parameters "error_description")).getD "Unknown error"
  | none =>
      if Url.Query.first? parameters "state" = some state then "No authorization code received."
      else "Invalid state parameter."

theorem failureText_judge (failed : (Outcome.judge parameters state).success = false) :
    failureText (Outcome.judge parameters state) = refusalText parameters state := by
  unfold refusalText
  cases reported : Url.Query.first? parameters "error" with
  | some error => simp only [Outcome.judge, reported]; rfl
  | none =>
      by_cases expected : Url.Query.first? parameters "state" = some state
      · cases given : nonempty? (Url.Query.first? parameters "code") with
        | none => simp only [Outcome.judge, reported, expected, given, if_true]; rfl
        | some code =>
            -- this one does not fail
            simp only [Outcome.judge, reported, expected, given, if_true] at failed
            have full := (nonempty?_eq_some_iff.mp given).2
            simp [Outcome.success, Outcome.ofCode, nonempty?, full] at failed
      · simp only [Outcome.judge, reported, expected, if_false]; rfl

end Page

namespace Listener

/-- A redirect decides the login of a listener that runs and has no outcome. -/
theorem outcome_receive_of_redirect {listener : Listener} {request : List UInt8}
    (running : listener.running = true) (fresh : listener.outcome = none)
    (redirect : Request.redirect? request = some parameters) :
    (listener.receive none request).2.outcome =
      some (Outcome.judge parameters listener.expectedState) := by
  rcases listener.receive_cases none request with
    ⟨parameters', framing, redirect', -, -, -, -, -, after⟩ | ⟨silent, -⟩
  · rw [redirect, Option.some.injEq] at redirect'
    rw [after, outcome_resolve, fresh, Option.getD_none, redirect']
  · rw [silent running fresh rfl] at redirect
    cases redirect

/-- A redirect that decides the login, and fails it, is answered with a page of status 400.
The page is fixed but for one text, which no mark can be found in and no ampersand that is not
the beginning of an entity, and which reads as the message: the error and its description, or
what is wrong with the state or the code.  Every page that is sent is sent with its status, 200
or 400, and with the number of its octets as its length; to a request that speaks HTTP/0.9 it
is sent with neither, since that version has no place for them. -/
theorem failure_told_as_text (listener : Listener) (rival : Option Outcome)
    (request : List UInt8) :
    (∀ outcome, listener.outcome = none → rival = none →
      (listener.receive rival request).2.outcome = some outcome → outcome.success = false →
      ∃ parameters framing inserted, Request.redirect? request = some parameters ∧
        (listener.receive rival request).1.1 =
          .page framing
            ⟨400, Page.failureHead ++ String.ofList inserted ++ Page.failureTail⟩ ∧
        (∀ c ∈ Markup.marks, c ∉ inserted) ∧
        (∀ after, '&' :: after <:+ inserted →
          ∃ entity ∈ Markup.entities, entity <+: '&' :: after) ∧
        Markup.unescape inserted =
          (Page.refusalText parameters listener.expectedState).toList) ∧
    ∀ framing page, (listener.receive rival request).1.1 = .page framing page →
      (page.status = 200 ∨ page.status = 400) ∧
        (Request.versionWord request ≠ "HTTP/0.9".toList →
          (listener.receive rival request).1.1.status? = some page.status ∧
            (listener.receive rival request).1.1.contentLength? =
              some page.body.utf8ByteSize) ∧
        (Request.versionWord request = "HTTP/0.9".toList →
          (listener.receive rival request).1.1.status? = none ∧
            (listener.receive rival request).1.1.contentLength? = none) := by
  constructor
  · intro outcome fresh alone recorded failed
    rcases listener.receive_cases rival request with
      ⟨parameters, framing, redirect, -, -, -, -, answered, after⟩ | ⟨-, -, same | overtaken⟩
    · rw [after, outcome_resolve, fresh, Option.getD_none, Option.some.injEq] at recorded
      subst recorded
      let shown := Page.failureText (Outcome.judge parameters listener.expectedState)
      refine ⟨parameters, framing, Markup.escape shown.toList, redirect, ?_, ?_, ?_, ?_⟩
      · rw [answered, Page.ofOutcome, failed]
        rfl
      · intro c mark
        exact Markup.notMem_escape mark _
      · intro after found
        exact Markup.entity_of_ampersand found
      · rw [Markup.unescape_escape, ← Page.failureText_judge failed]
    · rw [same, fresh] at recorded
      cases recorded
    · rw [overtaken, alone, overtake, fresh] at recorded
      cases recorded
  · intro framing page sent
    rcases listener.receive_cases rival request with
      ⟨parameters, framing', redirect, framed, -, -, -, answered, -⟩ | ⟨-, unanswered, -⟩
    · obtain rfl := Option.some.inj (framed.symm.trans (Request.framing?_of_redirect redirect))
      obtain ⟨rfl, rfl⟩ := Answer.page.inj (answered.symm.trans sent)
      refine ⟨Page.status_ofOutcome_cases _, ?_⟩
      rw [sent, Answer.status?_page, Answer.contentLength?_page, ← Page.contentLength_eq]
      exact ⟨fun later => ⟨if_neg later, if_neg later⟩, fun first => ⟨if_pos first, if_pos first⟩⟩
    · rw [sent] at unanswered
      cases unanswered

/-- An error that looks like an entity and like a field of the template, and a description
with marks in it. -/
def markedRequest : List UInt8 :=
  Request.get
    "/callback?error=%26lt%3B%7Bmessage%7D%25s&error_description=%3Cb%3E+%C3%A9+%22%27&state=s"

theorem failure_told_as_text_marked :
    ∃ inserted, (((create "s").start 50000).receive none markedRequest).1.1 =
        .page .headed ⟨400, Page.failureHead ++ String.ofList inserted ++ Page.failureTail⟩ ∧
      Markup.unescape inserted = "&lt;\x7bmessage\x7d%s: <b> é \"\x27".toList := by
  have redirect : Request.redirect? markedRequest = some
      [("error", "&lt;\x7bmessage\x7d%s"), ("error_description", "<b> é \"\x27"),
        ("state", "s")] := by
    decide +kernel
  have recorded : (((create "s").start 50000).receive none markedRequest).2.outcome = some
      (.ofError .providerError "&lt;\x7bmessage\x7d%s" (some "<b> é \"\x27")) :=
    outcome_receive_of_redirect rfl rfl redirect
  obtain ⟨told, framed⟩ := ((create "s").start 50000).failure_told_as_text none markedRequest
  obtain ⟨parameters, framing, inserted, redirect', answered, -, -, read⟩ :=
    told _ rfl rfl recorded rfl
  obtain rfl := Option.some.inj (redirect.symm.trans redirect')
  -- a page whose status is told has headers
  have version : Request.versionWord markedRequest ≠ "HTTP/0.9".toList := by decide +kernel
  obtain ⟨-, told, -⟩ := framed _ _ answered
  have status := (told version).1
  rw [answered] at status
  cases framing with
  | headed => exact ⟨inserted, answered, read⟩
  | bodyOnly => cases status

end Listener

end Callback

end TokenFlow
