import Mathlib.Data.List.Infix
import LabWeaver.Base.UrlPath
import LabWeaver.Contracts.Foundation

/-
  This file models the path checks of the gateway proxies, and says for which paths the upstream
  URL has the segments that were checked.

  Main declaration: `proxy_confined_iff`.
-/

namespace LabWeaver

namespace Proxy

open Outcome UrlPath List

-- Request Paths

/- The path of a request as the HTTP library hands it over: it contains no tab and no line break. -/
structure RequestPath where
  text : List Char
  clean : ∀ c ∈ text, isTabOrNewline c = false

def contains (text : List Char) (part : String) : Bool := decide (part.toList <:+: text)

def pathSegments (path : List Char) : List String := (path.splitOn '/').map String.ofList

def dotFree (path : List Char) : Bool :=
  (path.splitOn '/').all (fun segment => segment ≠ ".".toList ∧ segment ≠ "..".toList)

def startsWith (text : List Char) (lead : String) : Bool := decide (lead.toList <+: text)

-- The Checks

def safePath (path : List Char) : Bool :=
  let lowercase := path.map Char.toLower
  !contains path "//" &&
  !contains path "\\" &&
  !contains lowercase "%2f" &&
  !contains lowercase "%5c" &&
  !contains lowercase "%2e" &&
  !contains lowercase "%25" &&
  dotFree path

/- Unlike `safePath`, this lets `%2e` and `%25` pass. -/
def validControlPath (path : List Char) : Bool :=
  let lowercase := path.map Char.toLower
  startsWith path "/api/v1/courses/" &&
  !contains path "//" &&
  !contains path "\\" &&
  !contains lowercase "%2f" &&
  !contains lowercase "%5c" &&
  dotFree path

def validEnvironmentPath (path : List Char) : Bool :=
  path = "/api/v1/environments".toList || (startsWith path "/api/v1/environments/" && safePath path)

def validEvaluationPath (path : List Char) : Bool :=
  safePath path &&
    match pathSegments path with
    | ["", "api", "v1", "environments", _, "freeze"] => true
    | ["", "api", "v1", "frozen-submissions", _] => true
    | ["", "api", "v1", "courses", _, "me", "evaluation-results"] => true
    | ["", "api", "v1", "courses", _, "me", "evaluation-results", _] => true
    | _ => false

def validResourcePath (path : List Char) : Bool :=
  safePath path &&
    match pathSegments path with
    | ["", "api", "v1", kind] => kind ∈ ["resource-requests", "resource-leases"]
    | ["", "api", "v1", kind, _] => kind ∈ ["resource-requests", "resource-leases"]
    | ["", "api", "v1", "resource-requests", _, action] =>
      action ∈ ["approve", "resize-and-approve", "cancel", "reject", "retry"]
    | ["", "api", "v1", "resource-leases", _, action] => action ∈ ["renew", "revoke"]
    | _ => false

inductive ProxyError where
| badRequest (diagnostic : String)

/- `strip_prefix`. -/
def stripLead (lead : String) (text : List Char) : Option (List Char) :=
  if startsWith text lead then some (text.drop lead.toList.length) else none

def splitOnce (separator : Char) : List Char → Option (List Char × List Char)
| [] => none
| c :: rest =>
  if c = separator then some ([], rest)
  else (splitOnce separator rest).map (fun parts => (c :: parts.1, parts.2))

def runtimePathRejected : ProxyError := .badRequest "LW_ACCESS_RUNTIME_PATH_REJECTED"

variable (parseGrant : List Char → Option EndpointGrantId)

def parseRuntimePath (path : List Char) :
    Except ProxyError (EndpointGrantId × List Char) := do
  ensure (safePath path = true) runtimePathRejected
  let value ← require (stripLead "/connect/" path) runtimePathRejected
  let (grant, remainder) ← require (splitOnce '/' value) runtimePathRejected
  let grant ← require (parseGrant grant) runtimePathRejected
  .ok (grant, '/' :: remainder)

-- Routes

inductive ProxyRoute where
| control
| environment
| evaluation
| resource
| runtime

namespace ProxyRoute

variable (route : ProxyRoute) (path : List Char)

/- The path that an accepted request sets upstream. -/
def forwarded : Option (List Char) :=
  match route with
  | .control => if validControlPath path then some path else none
  | .environment => if validEnvironmentPath path then some path else none
  | .evaluation => if validEvaluationPath path then some path else none
  | .resource => if validResourcePath path then some path else none
  | .runtime => ((parseRuntimePath parseGrant path).toOption).map Prod.snd

/- The segments that were checked: all after the first slash, or those after the grant. -/
def checkedSegments : List Segment :=
  match route with
  | .runtime => (path.splitOn '/').drop 3
  | _ => (path.splitOn '/').drop 1

/- An accepted request reaches the path that was checked, segment by segment. -/
def Confined (path : RequestPath) : Prop :=
  ∀ upstream, route.forwarded parseGrant path.text = some upstream → setPath upstream =
    (route.checkedSegments path.text).map encode

end ProxyRoute

-- Characters And Segments

theorem eq_dot_of_toLower {c : Char} (hDot : c.toLower = '.') : c = '.' := by
  unfold Char.toLower at hDot
  split at hDot
  · rename_i hUpper
    have hCode := congrArg (fun c : Char => c.val.toNat) hDot
    simp only [ge_iff_le, UInt32.le_iff_toNat_le] at hUpper
    simp [UInt32.toNat_add] at hCode hUpper
    omega
  · exact hDot

variable {text : List Char}

theorem infix_of_mem_split {segment : List Char} (hSegment : segment ∈ text.splitOn '/') :
    segment <:+: text := by
  have hText : ['/'].intercalate (text.splitOn '/') = text := intercalate_splitOn '/'
  rw [← hText, List.intercalate]
  refine infix_of_mem_flatten ?_
  generalize text.splitOn '/' = segments at hSegment
  induction segments with
  | nil => cases hSegment
  | cons first rest ih =>
    cases rest with
    | nil => exact hSegment
    | cons second rest =>
      rcases mem_cons.mp hSegment with rfl | hRest
      · exact mem_cons_self
      · exact mem_cons_of_mem _ (mem_cons_of_mem _ (ih hRest))

/- The text before the first slash is the first segment. -/
theorem splitOn_append_slash {first : List Char} (hFirst : '/' ∉ first) (rest : List Char) :
    (first ++ '/' :: rest).splitOn '/' = first :: rest.splitOn '/' := by
  refine splitOnP_append_cons_of_forall_mem ?_ '/' rfl rest
  intro c hMember
  rw [beq_eq_false_iff_ne]
  rintro rfl
  exact hFirst hMember

theorem splitOn_slash_cons (rest : List Char) :
    ('/' :: rest).splitOn '/' = [] :: rest.splitOn '/' :=
  splitOn_append_slash not_mem_nil rest

theorem splitOnce_eq_some {separator : Char} {before after : List Char}
    (hSplit : splitOnce separator text = some (before, after)) :
    text = before ++ separator :: after ∧ separator ∉ before := by
  induction text generalizing before with
  | nil => cases hSplit
  | cons c rest ih =>
    rw [splitOnce] at hSplit
    split at hSplit
    · rename_i hSame
      cases hSplit
      rw [hSame]
      exact ⟨rfl, not_mem_nil⟩
    · rename_i hOther
      rcases Option.map_eq_some_iff.mp hSplit with ⟨parts, hParts, hResult⟩
      rcases parts with ⟨tail, remainder⟩
      cases hResult
      rcases ih hParts with ⟨rfl, hTail⟩
      refine ⟨rfl, ?_⟩
      intro hMember
      rcases mem_cons.mp hMember with hHead | hMember
      · exact hOther hHead.symm
      · exact hTail hMember

-- What The Checks Exclude

theorem not_mem_of_not_contains (hNot : contains text "\\" = false) : '\\' ∉ text := by
  intro hMember
  have hInfix : ['\\'] <:+: text := (singleton_infix_iff _ _).mpr hMember
  exact of_decide_eq_false hNot hInfix

/- A dot segment is written with a dot or with its code. -/
theorem isDot_cases {segment : Segment} (hDot : isDot segment = true) :
    segment = ".".toList ∨ segment = "..".toList ∨ "%2e".toList <:+: segment.map Char.toLower := by
  simp only [isDot, isSingleDot,
    isDoubleDot, Bool.or_eq_true, decide_eq_true_eq,
    mem_cons, not_mem_nil, or_false] at hDot
  rcases hDot with (hDot | hDot) | (hDot | hDot | hDot | hDot)
  · left
    rcases map_eq_singleton_iff.mp hDot with ⟨c, rfl, hLower⟩
    rw [eq_dot_of_toLower hLower]
    rfl
  · exact .inr (.inr (by rw [hDot]))
  · right
    left
    rcases map_eq_cons_iff.mp hDot with ⟨c, rest, rfl, hLower, hRest⟩
    rcases map_eq_singleton_iff.mp hRest with ⟨c', rfl, hLower'⟩
    rw [eq_dot_of_toLower hLower, eq_dot_of_toLower hLower']
    rfl
  · exact .inr (.inr (by rw [hDot]; decide))
  · exact .inr (.inr (by rw [hDot]; decide))
  · exact .inr (.inr (by rw [hDot]; decide))

variable {path : List Char}

theorem not_dot_of_safePath (hSafe : safePath path = true) :
    ∀ segment ∈ path.splitOn '/', isDot segment = false := by
  intro segment hSegment
  simp only [safePath, Bool.and_eq_true, Bool.not_eq_true'] at hSafe
  rcases hSafe with ⟨⟨⟨_, hCode⟩, _⟩, hFree⟩
  have hPlain := of_decide_eq_true (all_eq_true.mp hFree segment hSegment)
  by_contra hDot
  rcases isDot_cases (eq_true_of_ne_false hDot) with hSingle | hDouble | hEncoded
  · exact hPlain.1 hSingle
  · exact hPlain.2 hDouble
  · refine of_decide_eq_false hCode ?_
    exact hEncoded.trans ((infix_of_mem_split hSegment).map Char.toLower)

theorem forward_of_safePath (hSafe : safePath path = true) : '\\' ∉ path := by
  simp only [safePath, Bool.and_eq_true, Bool.not_eq_true'] at hSafe
  rcases hSafe with ⟨⟨⟨⟨⟨⟨_, hForward⟩, _⟩, _⟩, _⟩, _⟩, _⟩
  exact not_mem_of_not_contains hForward

-- Accepted Paths

/- An accepted path is absolute, without backslashes and line breaks, and its segments are those
  that were checked. -/
structure Accepted (upstream : List Char) (segments : List Segment) : Prop where
  absolute : ∃ rest, upstream = '/' :: rest ∧ segments = rest.splitOn '/'
  forward : '\\' ∉ upstream
  clean : ∀ c ∈ upstream, isTabOrNewline c = false

variable {upstream : List Char}

/- The upstream has the checked segments exactly if none of them is a dot. -/
theorem Accepted.setPath_iff {segments : List Segment}
    (hAccepted : Accepted upstream segments) :
    setPath upstream = segments.map encode ↔ ∀ segment ∈ segments, isDot segment = false := by
  rcases hAccepted with ⟨⟨rest, rfl, rfl⟩, hForward, hClean⟩
  refine setPath_eq_map_iff ?_ ?_
  · intro c hMember
    exact hClean c (mem_cons_of_mem _ hMember)
  · intro hMember
    exact hForward (mem_cons_of_mem _ hMember)

theorem absolute_of_startsWith {lead : String} {after : List Char}
    (hLead : lead.toList = '/' :: after) (hStarts : startsWith path lead = true) :
    ∃ rest, path = '/' :: rest := by
  rcases of_decide_eq_true hStarts with ⟨tail, rfl⟩
  exact ⟨after ++ tail, by rw [hLead]; rfl⟩

theorem absolute_of_segments {second : String} {rest : List String}
    (hSegments : pathSegments path = "" :: second :: rest) : ∃ rest, path = '/' :: rest := by
  unfold pathSegments at hSegments
  rcases map_eq_cons_iff.mp hSegments with ⟨first, others, hSplit, hFirst, hOthers⟩
  rcases map_eq_cons_iff.mp hOthers with ⟨next, others, rfl, _, _⟩
  have hEmpty : first = [] := by
    have hList := congrArg String.toList hFirst
    simpa using hList
  have hText : ['/'].intercalate (path.splitOn '/') = path := intercalate_splitOn '/'
  rw [hSplit, hEmpty, intercalate_cons_cons] at hText
  exact ⟨_, hText.symm⟩

theorem accepted_of_absolute {path : RequestPath} (hAbsolute : ∃ rest, path.text = '/' :: rest)
    (hForward : '\\' ∉ path.text) : Accepted path.text ((path.text.splitOn '/').drop 1) := by
  refine ⟨?_, hForward, path.clean⟩
  rcases hAbsolute with ⟨rest, hRest⟩
  refine ⟨rest, hRest, ?_⟩
  rw [hRest, splitOn_slash_cons]
  rfl

theorem stripLead_eq_some {lead : String} {rest : List Char}
    (hStrip : stripLead lead text = some rest) : text = lead.toList ++ rest := by
  unfold stripLead at hStrip
  split at hStrip
  · rename_i hStarts
    rcases of_decide_eq_true hStarts with ⟨tail, rfl⟩
    rw [drop_left] at hStrip
    cases hStrip
    rfl
  · cases hStrip

variable {parseGrant : List Char → Option EndpointGrantId}

theorem accepted_of_parseRuntimePath {path : RequestPath} {grant : EndpointGrantId}
    (hParse : parseRuntimePath parseGrant path.text = .ok (grant, upstream)) :
    safePath path.text = true ∧ Accepted upstream ((path.text.splitOn '/').drop 3) := by
  simp only [parseRuntimePath, steps_eq_ok, Prod.exists, Prod.mk.injEq] at hParse
  rcases hParse with ⟨hSafe, value, hValue, text, remainder, hSplit, _, _, _, rfl⟩
  refine ⟨hSafe, ?_⟩
  rcases splitOnce_eq_some hSplit with ⟨rfl, hGrant⟩
  have hPath : path.text = '/' :: ("connect".toList ++ '/' :: (text ++ '/' :: remainder)) :=
    stripLead_eq_some hValue
  have hPart : '/' :: remainder <:+: path.text := by
    rw [hPath]
    exact ⟨'/' :: ("connect".toList ++ '/' :: text), [], by simp⟩
  refine ⟨⟨remainder, rfl, ?_⟩, ?_, ?_⟩
  · rw [hPath, splitOn_slash_cons, splitOn_append_slash (by decide), splitOn_append_slash hGrant]
    rfl
  · intro hMember
    exact forward_of_safePath hSafe (hPart.subset hMember)
  · intro c hMember
    exact path.clean c (hPart.subset hMember)

structure SafelyAbsolute (path : List Char) : Prop where
  safe : safePath path = true
  absolute : ∃ rest, path = '/' :: rest

theorem safelyAbsolute_of_environment (hValid : validEnvironmentPath path = true) :
    SafelyAbsolute path := by
  simp only [validEnvironmentPath, Bool.or_eq_true, Bool.and_eq_true, decide_eq_true_eq] at hValid
  rcases hValid with rfl | ⟨hStarts, hSafe⟩
  · exact ⟨by decide, _, rfl⟩
  · exact ⟨hSafe, absolute_of_startsWith rfl hStarts⟩

theorem safelyAbsolute_of_evaluation (hValid : validEvaluationPath path = true) :
    SafelyAbsolute path := by
  rcases Bool.and_eq_true_iff.mp hValid with ⟨hSafe, hSegments⟩
  refine ⟨hSafe, ?_⟩
  split at hSegments
  case h_5 => cases hSegments
  all_goals
    rename_i hSplit
    exact absolute_of_segments hSplit

theorem safelyAbsolute_of_resource (hValid : validResourcePath path = true) :
    SafelyAbsolute path := by
  rcases Bool.and_eq_true_iff.mp hValid with ⟨hSafe, hSegments⟩
  refine ⟨hSafe, ?_⟩
  split at hSegments
  case h_5 => cases hSegments
  all_goals
    rename_i hSplit
    exact absolute_of_segments hSplit

theorem SafelyAbsolute.accepted {path : RequestPath} (hPath : SafelyAbsolute path.text) :
    Accepted path.text ((path.text.splitOn '/').drop 1) ∧
    ∀ segment ∈ (path.text.splitOn '/').drop 1, isDot segment = false := by
  refine ⟨accepted_of_absolute hPath.absolute (forward_of_safePath hPath.safe), ?_⟩
  intro segment hSegment
  exact not_dot_of_safePath hPath.safe segment (mem_of_mem_drop hSegment)

/- Every accepted path is as the proxy needs it, and all routes but the control route exclude dot
  segments. -/
theorem forwarded_eq_some {route : ProxyRoute}
    {path : RequestPath} (hForwarded : route.forwarded parseGrant path.text = some upstream) :
    Accepted upstream (route.checkedSegments path.text) ∧
    (route = .control ∧ validControlPath path.text = true ∨
      ∀ segment ∈ route.checkedSegments path.text, isDot segment = false) := by
  cases route with
  | control =>
    rcases Option.ite_none_right_eq_some.mp hForwarded with ⟨hValid, ⟨⟩⟩
    have hChecks := hValid
    simp only [validControlPath, Bool.and_eq_true, Bool.not_eq_true'] at hChecks
    rcases hChecks with ⟨⟨⟨⟨⟨hAbsolute, _⟩, hForward⟩, _⟩, _⟩, _⟩
    refine ⟨accepted_of_absolute ?_ ?_, .inl ⟨rfl, hValid⟩⟩
    · exact absolute_of_startsWith rfl hAbsolute
    · exact not_mem_of_not_contains hForward
  | environment =>
    rcases Option.ite_none_right_eq_some.mp hForwarded with ⟨hValid, ⟨⟩⟩
    have hPath := safelyAbsolute_of_environment hValid
    exact ⟨hPath.accepted.1, .inr hPath.accepted.2⟩
  | evaluation =>
    rcases Option.ite_none_right_eq_some.mp hForwarded with ⟨hValid, ⟨⟩⟩
    have hPath := safelyAbsolute_of_evaluation hValid
    exact ⟨hPath.accepted.1, .inr hPath.accepted.2⟩
  | resource =>
    rcases Option.ite_none_right_eq_some.mp hForwarded with ⟨hValid, ⟨⟩⟩
    have hPath := safelyAbsolute_of_resource hValid
    exact ⟨hPath.accepted.1, .inr hPath.accepted.2⟩
  | runtime =>
    simp only [ProxyRoute.forwarded] at hForwarded
    cases hParse : parseRuntimePath parseGrant path.text with
    | error _ =>
      rw [hParse] at hForwarded
      cases hForwarded
    | ok result =>
      rw [hParse] at hForwarded
      cases hForwarded
      rcases accepted_of_parseRuntimePath hParse with ⟨hSafe, hAccepted⟩
      refine ⟨hAccepted, .inr ?_⟩
      intro segment hSegment
      exact not_dot_of_safePath hSafe segment (mem_of_mem_drop hSegment)

/- Every accepted request is kept to the checked path, except that the control proxy lets encoded
  dot segments pass. -/
theorem proxy_confined_iff (parseGrant : List Char → Option EndpointGrantId) (route : ProxyRoute)
    (path : RequestPath) :
    route.Confined parseGrant path ↔ (route = .control → validControlPath path.text = true →
      ∀ segment ∈ (path.text.splitOn '/').drop 1, isDot segment = false) := by
  constructor
  · rintro hConfined rfl hValid
    have hForwarded : ProxyRoute.control.forwarded parseGrant path.text = some path.text :=
      if_pos hValid
    have hSame := hConfined path.text hForwarded
    have hAccepted := (forwarded_eq_some hForwarded).1
    exact hAccepted.setPath_iff.mp hSame
  · intro hDotFree upstream hForwarded
    rcases forwarded_eq_some hForwarded with ⟨hAccepted, ⟨rfl, hValid⟩ | hFree⟩
    · exact hAccepted.setPath_iff.mpr (hDotFree rfl hValid)
    · exact hAccepted.setPath_iff.mpr hFree

def climbingPath : RequestPath where
  text := "/api/v1/courses/%2E%2e/agent-runs".toList
  clean := by simp [isTabOrNewline]

/- The path is accepted and leaves the courses upstream. -/
theorem proxy_not_confined : validControlPath climbingPath.text = true ∧
    setPath climbingPath.text = ["api".toList, "v1".toList, "agent-runs".toList] ∧
    ¬ProxyRoute.control.Confined (fun _ => none) climbingPath := by
  have hValid : validControlPath climbingPath.text = true := by
    decide
  have hReached : setPath climbingPath.text = ["api".toList, "v1".toList, "agent-runs".toList] := by
    decide
  refine ⟨hValid, hReached, ?_⟩
  intro hConfined
  have hSame := hConfined climbingPath.text rfl
  rw [hReached] at hSame
  have hLength := congrArg List.length hSame
  revert hLength
  decide

end Proxy

end LabWeaver
