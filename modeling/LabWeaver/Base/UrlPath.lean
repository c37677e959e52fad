import Mathlib.Data.List.Basic

/-
  This file defines how the path of a URL with a special scheme is set from a text: tabs and line
  breaks are dropped, slashes and backslashes separate the segments, dot segments are resolved,
  and the rest is percent-encoded where needed.
-/

namespace UrlPath

open List

abbrev Segment := List Char

-- Segments

/- A dot may be written with its code, in any case. -/
def isSingleDot (segment : Segment) : Bool := segment.map Char.toLower ∈ [".".toList, "%2e".toList]

def isDoubleDot (segment : Segment) : Bool :=
  segment.map Char.toLower ∈ ["..".toList, ".%2e".toList, "%2e.".toList, "%2e%2e".toList]

def isDot (segment : Segment) : Bool := isSingleDot segment || isDoubleDot segment

/- The characters that are percent-encoded in a path. -/
def inEncodeSet (c : Char) : Bool :=
  c.toNat ≤ 0x20 || 0x7e < c.toNat || c ∈ ['"', '#', '<', '>', '?', '^', '\x60', '\x7b', '\x7d']

def hexDigit (n : Nat) : Char := if n < 10 then Char.ofNat (0x30 + n) else Char.ofNat (0x37 + n)

def percentEncode (c : Char) : List Char :=
  if inEncodeSet c then
    (String.utf8EncodeChar c).flatMap (fun byte => ['%', hexDigit (byte.toNat / 16),
      hexDigit (byte.toNat % 16)])
  else [c]

def encode (segment : Segment) : Segment := segment.flatMap percentEncode

theorem percentEncode_ne_nil (c : Char) : percentEncode c ≠ [] := by
  unfold percentEncode
  split
  · intro hEmpty
    rw [flatMap_eq_nil_iff] at hEmpty
    have hLength := String.length_utf8EncodeChar c
    have hSize := Char.utf8Size_pos c
    cases hBytes : String.utf8EncodeChar c with
    | nil =>
      rw [hBytes, length_nil] at hLength
      omega
    | cons byte rest =>
      have hHead := hEmpty byte (by rw [hBytes]; exact mem_cons_self)
      cases hHead
  · exact cons_ne_nil c []

variable {segment : Segment}

theorem encode_ne_nil (hSegment : segment ≠ []) : encode segment ≠ [] := by
  cases segment with
  | nil => exact absurd rfl hSegment
  | cons c rest =>
    rw [encode, flatMap_cons]
    exact append_ne_nil_of_left_ne_nil (percentEncode_ne_nil c) _

theorem ne_nil_of_isDot (hDot : isDot segment = true) : segment ≠ [] := by
  rintro rfl
  cases hDot

-- Dot Segments

variable (path : List Segment)

/- Enter a segment into a path, which is kept reversed. -/
def enter (segment : Segment) : List Segment :=
  if isDoubleDot segment then path.tail
  else if isSingleDot segment then path
  else encode segment :: path

/- A dot segment at the end leaves an empty segment. -/
def resolve : List Segment → List Segment → List Segment
| path, [] => path.reverse
| path, [segment] =>
  if isDot segment then ([] :: enter path segment).reverse else (enter path segment).reverse
| path, segment :: next :: rest => resolve (enter path segment) (next :: rest)

theorem enter_of_not_dot (hDot : isDot segment = false) :
    enter path segment = encode segment :: path := by
  rcases Bool.or_eq_false_iff.mp hDot with ⟨hSingle, hDouble⟩
  simp [enter, hSingle, hDouble]

theorem length_enter_of_dot (hDot : isDot segment = true) :
    (enter path segment).length ≤ path.length := by
  unfold enter
  split
  · simp
  · split
    · exact Nat.le_refl _
    · simp_all [isDot]

theorem length_enter (segment : Segment) : (enter path segment).length ≤ path.length + 1 := by
  cases hDot : isDot segment with
  | true =>
    have hLength := length_enter_of_dot path hDot
    omega
  | false => simp [enter_of_not_dot path hDot]

variable (segments : List Segment)

theorem length_resolve : (resolve path segments).length ≤
    path.length + segments.length := by
  fun_induction resolve path segments with
  | case1 path => simp
  | case2 path segment hDot =>
    have hLength := length_enter_of_dot path hDot
    simpa using hLength
  | case3 path segment _ =>
    have hLength := length_enter path segment
    simpa using hLength
  | case4 path segment next rest ih =>
    have hLength := length_enter path segment
    simp only [length_cons] at ih ⊢
    omega

theorem resolve_eq_append_iff : resolve path segments =
      path.reverse ++ segments.map encode ↔ ∀ segment ∈ segments, isDot segment = false := by
  fun_induction resolve path segments with
  | case1 path => simp
  | case2 path segment hDot =>
    have hLast : ([] : Segment) ≠ encode segment := Ne.symm (encode_ne_nil (ne_nil_of_isDot hDot))
    constructor
    · intro hSame
      rw [reverse_cons, map_singleton] at hSame
      have hEnd := append_inj_right' hSame rfl
      exact absurd (singleton_inj.mp hEnd) hLast
    · intro hNone
      cases hDot.symm.trans (hNone segment mem_cons_self)
  | case3 path segment hDot =>
    have hNot : isDot segment = false := eq_false_of_ne_true hDot
    simp [enter_of_not_dot path hNot, hNot]
  | case4 path segment next rest ih =>
    cases hDot : isDot segment with
    | true =>
      constructor
      · intro hSame
        have hLength := congrArg List.length hSame
        have hBound := length_resolve (enter path segment) (next :: rest)
        have hEnter := length_enter_of_dot path hDot
        simp only [length_append, length_reverse, length_map, length_cons]
          at hLength hBound
        omega
      · intro hNone
        cases hDot.symm.trans (hNone segment mem_cons_self)
    | false =>
      rw [enter_of_not_dot path hDot] at ih ⊢
      rw [forall_mem_cons, ← ih]
      simp [hDot]

-- Setting A Path

def isTabOrNewline (c : Char) : Bool := c = '\t' || c = '\n' || c = '\r'

def isSeparator (c : Char) : Bool := c = '/' || c = '\\'

/- One separator at the beginning is no segment. -/
def body : List Char → List Char
| [] => []
| c :: rest => if isSeparator c then rest else c :: rest

/- The segments of the path that is set from a text. -/
def setPath (text : List Char) : List Segment :=
  resolve [] ((body (text.filter (fun c => !isTabOrNewline c))).splitOnP isSeparator)

theorem splitOnP_congr {α : Type} {p q : α → Bool} {xs : List α} (hSame : ∀ x ∈ xs, p x = q x) :
    xs.splitOnP p = xs.splitOnP q := by
  induction xs with
  | nil => rw [splitOnP_nil, splitOnP_nil]
  | cons x xs ih =>
    rcases forall_mem_cons.mp hSame with ⟨hHead, hTail⟩
    rw [splitOnP_cons_eq_if_modifyHead, splitOnP_cons_eq_if_modifyHead, hHead, ih hTail]

theorem setPath_of_clean {rest : List Char} (hClean : ∀ c ∈ rest, isTabOrNewline c = false)
    (hForward : '\\' ∉ rest) : setPath ('/' :: rest) = resolve [] (rest.splitOn '/') := by
  have hKept : ('/' :: rest).filter (fun c => !isTabOrNewline c) = '/' :: rest := by
    rw [filter_eq_self]
    intro c hMember
    rcases mem_cons.mp hMember with rfl | hRest
    · rfl
    · rw [hClean c hRest]
      rfl
  rw [setPath, hKept, List.splitOn]
  congr 1
  refine splitOnP_congr ?_
  intro c hMember
  have hNe : c ≠ '\\' := by
    rintro rfl
    exact hForward hMember
  simp [isSeparator, hNe, Bool.beq_eq_decide_eq]

/- The path that is set from a clean text has the segments of the text exactly if none of them is a
  dot. -/
theorem setPath_eq_map_iff {rest : List Char} (hClean : ∀ c ∈ rest, isTabOrNewline c = false)
    (hForward : '\\' ∉ rest) :
    setPath ('/' :: rest) = (rest.splitOn '/').map encode ↔ ∀ segment ∈ rest.splitOn '/',
      isDot segment = false := by
  rw [setPath_of_clean hClean hForward]
  exact resolve_eq_append_iff [] _

end UrlPath
