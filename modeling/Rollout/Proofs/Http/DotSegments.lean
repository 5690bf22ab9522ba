import Mathlib.Data.List.DropRight
import Rollout.Proofs.Request.UrlText
import Rollout.Proofs.Text.Split

/-!
# Dot segments

The segments `.` and `..` of a path stand for its own place and for the one above, and are removed
from a URL before it is asked for. A value is written into its place without regard to that: it
stays in the path of the template unless it makes a whole segment one of the two.
-/

namespace Rollout

namespace DotSegments

variable {output rest segment : List Char} {segments : List (List Char)}

def isDots (segment : List Char) : Bool := segment = ['.'] || segment = ['.', '.']

theorem isDots_iff : isDots segment = true ↔ segment = ['.'] ∨ segment = ['.', '.'] := by
  simp [isDots]

/-- A path without its last segment and the slash before it. -/
def withoutLast (path : List Char) : List Char := (path.rdropWhile (· ≠ '/')).dropLast

/-- The removal of dot segments of the generic syntax of URIs: moves the segments of a path to the
output, and goes by what the rest of the path starts with. -/
def removed (output : List Char) : List Char → List Char
  | [] => output
  | '.' :: '.' :: '/' :: rest => removed output rest
  | '.' :: '/' :: rest => removed output rest
  | '/' :: '.' :: '/' :: rest => removed output ('/' :: rest)
  | ['/', '.'] => removed output ['/']
  | '/' :: '.' :: '.' :: '/' :: rest => removed (withoutLast output) ('/' :: rest)
  | ['/', '.', '.'] => removed (withoutLast output) ['/']
  | ['.'] => output
  | ['.', '.'] => output
  | c :: rest => removed (output ++ c :: rest.takeWhile (· ≠ '/')) (rest.dropWhile (· ≠ '/'))
termination_by path => path.length
decreasing_by
  all_goals simp only [List.length_cons, List.length_nil]
  any_goals omega
  have hrest := (List.dropWhile_sublist (· ≠ '/') (l := rest)).length_le
  omega

theorem length_withoutLast_le (path : List Char) : (withoutLast path).length ≤ path.length := by
  rw [withoutLast, List.length_dropLast]
  have hprefix := (List.rdropWhile_prefix (· ≠ '/') path).length_le
  omega

/-! ## Removal step by step -/

theorem length_removed_le (output path : List Char) :
    (removed output path).length ≤ output.length + path.length := by
  fun_induction removed output path with
  | case1 output => simp
  | case2 output rest ih => simp only [List.length_cons]; omega
  | case3 output rest ih => simp only [List.length_cons]; omega
  | case4 output rest ih => simp only [List.length_cons] at ih ⊢; omega
  | case5 output ih => simp only [List.length_cons] at ih ⊢; omega
  | case6 output rest ih =>
    have hlast := length_withoutLast_le output
    simp only [List.length_cons] at ih ⊢
    omega
  | case7 output ih =>
    have hlast := length_withoutLast_le output
    simp only [List.length_cons] at ih ⊢
    omega
  | case8 output => simp
  | case9 output => simp
  | case10 output c rest _ _ _ _ _ _ _ _ ih =>
    have hsplit := List.takeWhile_append_dropWhile (p := (· ≠ '/')) (l := rest)
    have hrest := congrArg List.length hsplit
    simp only [List.length_append, List.length_cons] at ih hrest ⊢
    omega

/-- What follows a segment: nothing, or a slash and more. -/
def Follows (rest : List Char) : Prop := rest = [] ∨ rest.head? = some '/'

theorem takeWhile_segment (hsegment : '/' ∉ segment) (hrest : Follows rest) :
    (segment ++ rest).takeWhile (· ≠ '/') = segment := by
  have hinside : ∀ c ∈ segment, decide (c ≠ '/') = true := fun c hc =>
    decide_eq_true fun hslash => hsegment (hslash ▸ hc)
  rw [List.takeWhile_append_of_pos hinside]
  cases rest with
  | nil => exact List.append_nil _
  | cons c more =>
    obtain rfl : c = '/' := by simpa [Follows] using hrest
    simp

theorem dropWhile_segment (hsegment : '/' ∉ segment) (hrest : Follows rest) :
    (segment ++ rest).dropWhile (· ≠ '/') = rest := by
  have hwhole := List.takeWhile_append_dropWhile (p := (· ≠ '/')) (l := segment ++ rest)
  rw [takeWhile_segment hsegment hrest] at hwhole
  exact List.append_cancel_left hwhole

theorem append_ne_of_not_dots (hsegment : '/' ∉ segment) (h : isDots segment = false)
    (hrest : Follows rest) (dots : List Char) (hdots : isDots dots = true) {after : List Char}
    (hafter : Follows after) : segment ++ rest ≠ dots ++ after := by
  intro heq
  have hslash : '/' ∉ dots := by
    rcases isDots_iff.mp hdots with rfl | rfl <;> decide
  have hsame := congrArg (List.takeWhile (· ≠ '/')) heq
  rw [takeWhile_segment hsegment hrest, takeWhile_segment hslash hafter] at hsame
  rw [hsame, hdots] at h
  cases h

/-- A segment that is no dot segment is moved to the output. -/
theorem removed_cons (hsegment : '/' ∉ segment) (hdots : isDots segment = false)
    (hrest : Follows rest) :
    removed output ('/' :: (segment ++ rest)) = removed (output ++ '/' :: segment) rest := by
  have hne := append_ne_of_not_dots hsegment hdots hrest
  rw [removed, takeWhile_segment hsegment hrest, dropWhile_segment hsegment hrest]
  · exact fun _ hc => absurd hc (by decide)
  · exact fun _ hc => absurd hc (by decide)
  · exact fun more _ => hne ['.'] rfl (.inr rfl)
  · exact fun _ => hne ['.'] rfl (.inl rfl)
  · exact fun more _ => hne ['.', '.'] rfl (.inr rfl)
  · exact fun _ => hne ['.', '.'] rfl (.inl rfl)
  · exact fun hc => absurd hc (by decide)
  · exact fun hc => absurd hc (by decide)

/-- A dot segment is dropped, and of the output at most something is taken back. -/
theorem exists_removed_dots (output : List Char) (hdots : isDots segment = true)
    (hrest : Follows rest) : ∃ left : List Char, left.length ≤ output.length ∧
      removed output ('/' :: (segment ++ rest)) = removed left ('/' :: rest.tail) := by
  rcases isDots_iff.mp hdots with rfl | rfl
  · refine ⟨output, le_refl _, ?_⟩
    cases rest with
    | nil => rw [List.append_nil, removed, List.tail_nil]
    | cons c more =>
      obtain rfl : c = '/' := by simpa [Follows] using hrest
      rw [List.singleton_append, removed, List.tail_cons]
  · refine ⟨withoutLast output, length_withoutLast_le output, ?_⟩
    cases rest with
    | nil => rw [List.append_nil, removed, List.tail_nil]
    | cons c more =>
      obtain rfl : c = '/' := by simpa [Follows] using hrest
      rw [List.cons_append, List.singleton_append, removed, List.tail_cons]

theorem length_removed_lt (output : List Char) (hdots : isDots segment = true)
    (hrest : Follows rest) : (removed output ('/' :: (segment ++ rest))).length <
      output.length + ('/' :: (segment ++ rest)).length := by
  obtain ⟨left, hleft, hremoved⟩ := exists_removed_dots output hdots hrest
  have hle := length_removed_le left ('/' :: rest.tail)
  have hsegment : 0 < segment.length := by
    rcases isDots_iff.mp hdots with rfl | rfl <;> decide
  rw [hremoved]
  simp only [List.length_cons, List.length_append, List.length_tail] at hle ⊢
  omega

/-! ## Whole paths -/

/-- A path with a slash before each segment. -/
def laid (segments : List (List Char)) : List Char := segments.flatMap ('/' :: ·)

theorem laid_cons : laid (segment :: segments) = '/' :: (segment ++ laid segments) := rfl

theorem follows_laid (segments : List (List Char)) : Follows (laid segments) := by
  cases segments with
  | nil => exact .inl rfl
  | cons segment segments => exact .inr rfl

/-- The removal keeps a path if and only if no segment of it is a dot segment. -/
theorem removed_laid_iff (hsegments : ∀ segment ∈ segments, '/' ∉ segment) :
    removed output (laid segments) = output ++ laid segments ↔
      ∀ segment ∈ segments, isDots segment = false := by
  induction segments generalizing output with
  | nil => simp [laid, removed]
  | cons segment segments ih =>
    rw [List.forall_mem_cons] at hsegments ⊢
    rw [laid_cons]
    cases hdots : isDots segment with
    | true =>
      have hlt := length_removed_lt output hdots (follows_laid segments)
      have hne : removed output ('/' :: (segment ++ laid segments)) ≠
          output ++ '/' :: (segment ++ laid segments) := by
        intro heq
        rw [heq, List.length_append] at hlt
        exact lt_irrefl _ hlt
      simp [hne]
    | false =>
      rw [removed_cons hsegments.1 hdots (follows_laid segments)]
      have hsplit : output ++ '/' :: (segment ++ laid segments) =
          (output ++ '/' :: segment) ++ laid segments := by simp
      rw [hsplit, ih hsegments.2]
      simp

/-! ## URLs -/

/-- A URL with the dot segments removed from its path, which ends at a query or a fragment. -/
def withoutDotSegments (url : String) : String :=
  let inPath (c : Char) : Bool := c ≠ '?' && c ≠ '#'
  String.ofList (removed [] (url.toList.takeWhile inPath) ++ url.toList.dropWhile inPath)

-- A segment that leads up takes back one that was moved to the output.
example : withoutDotSegments "/a/b/c/./../../g?x=/../y" = "/a/g?x=/../y" ∧
    withoutDotSegments "mid/content=5/../6" = "mid/6" := by
  decide +kernel

theorem withoutDotSegments_eq_self_iff {url : String} (hquery : '?' ∉ url.toList)
    (hfragment : '#' ∉ url.toList) (hurl : url.toList = laid segments)
    (hsegments : ∀ segment ∈ segments, '/' ∉ segment) :
    withoutDotSegments url = url ↔ ∀ segment ∈ segments, isDots segment = false := by
  have hpath : ∀ c ∈ url.toList, (c ≠ '?' && c ≠ '#') = true := by
    intro c hc
    have hne : c ≠ '?' ∧ c ≠ '#' := ⟨fun h => hquery (h ▸ hc), fun h => hfragment (h ▸ hc)⟩
    simpa using hne
  rw [withoutDotSegments, List.takeWhile_eq_self_iff.mpr hpath,
    List.dropWhile_eq_nil_iff.mpr hpath, List.append_nil, ← String.toList_inj,
    String.toList_ofList, hurl]
  exact removed_laid_iff hsegments

end DotSegments

namespace TemplateSymbol

variable {symbols segment : List TemplateSymbol} {texts : String → String}

open DotSegments (isDots laid)

theorem spelled_eq_laid (texts : String → String) (symbols : List TemplateSymbol) :
    '/' :: spelled texts symbols = laid ((symbols.splitOn (.char '/')).map (spelled texts)) := by
  induction symbols with
  | nil => rfl
  | cons symbol symbols ih =>
    rw [List.splitOn_cons_eq_if_modifyHead]
    by_cases hslash : symbol = .char '/'
    · rw [if_pos (by simpa using hslash), List.map_cons, DotSegments.laid_cons, ← ih, hslash]
      rfl
    · rw [if_neg (by simpa using hslash)]
      obtain ⟨first, more, hsplit⟩ :=
        List.exists_cons_of_ne_nil (List.splitOn_ne_nil (TemplateSymbol.char '/') symbols)
      rw [hsplit, List.map_cons, DotSegments.laid_cons, List.cons.injEq] at ih
      rw [hsplit, List.modifyHead_cons, List.map_cons, DotSegments.laid_cons, spelled_cons,
        spelled_cons, List.append_assoc, ← ih.2]

/-- A text of dots stands for itself, and no other text is encoded as one. -/
theorem isDots_spelled_encoded (texts : String → String) (segment : List TemplateSymbol) :
    isDots (spelled (Text.percentEncode ∘ texts) segment) = isDots (spelled texts segment) := by
  have hdotted {cs : List Char} (h : isDots cs = true) : ∀ c ∈ cs, c = '.' := by
    rcases DotSegments.isDots_iff.mp h with rfl | rfl <;> simp
  have hmem {other : String → String} {name : String} {c : Char} (hname : .param name ∈ segment)
      (hc : c ∈ (other name).toList) : c ∈ spelled other segment :=
    List.mem_flatMap.mpr ⟨.param name, hname, hc⟩
  apply Bool.eq_iff_iff.mpr
  constructor
  · intro h
    have hsame : spelled (Text.percentEncode ∘ texts) segment = spelled texts segment := by
      refine spelled_congr fun name hname => ?_
      apply Text.percentEncode_eq_self_of_not_mem
      intro hpercent
      exact absurd (hdotted h _ (hmem hname hpercent)) (by decide)
    rwa [← hsame]
  · intro h
    have hsame : spelled (Text.percentEncode ∘ texts) segment = spelled texts segment := by
      refine spelled_congr fun name hname => ?_
      apply Text.percentEncode_eq_self
      intro c hc
      rw [hdotted h c (hmem hname hc)]
      decide
    rwa [hsame]

theorem eq_map_of_no_param (texts : String → String) (h : ∀ name, .param name ∉ segment) :
    segment = (spelled texts segment).map .char := by
  induction segment with
  | nil => rfl
  | cons symbol segment ih =>
    cases symbol with
    | char c =>
      have hrest := ih fun name hname => h name (List.mem_cons_of_mem _ hname)
      rw [spelled_cons, written, List.singleton_append, List.map_cons, ← hrest]
    | param name => exact absurd List.mem_cons_self (h name)

end TemplateSymbol

namespace UrlTemplate

open DotSegments (isDots laid withoutDotSegments)

variable {template : UrlTemplate} {params : Table FieldPath} {entity : Entity}

/-- What a template lays out between its slashes. -/
def segments (template : UrlTemplate) : List (List TemplateSymbol) :=
  template.symbols.splitOn (.char '/')

theorem text_eq_withTexts :
    template.text = template.withTexts fun name => "\x7b" ++ name ++ "\x7d" := rfl

theorem symbols_of_slash (h : template.text.toList.head? = some '/') :
    ∃ symbols, template.symbols = .char '/' :: symbols := by
  rw [text_eq_withTexts, toList_withTexts] at h
  cases hsymbols : template.symbols with
  | nil =>
    rw [hsymbols] at h
    cases h
  | cons symbol symbols =>
    rw [hsymbols] at h
    cases symbol with
    | char c =>
      obtain rfl := Option.some.inj h
      exact ⟨symbols, rfl⟩
    | param name => simp [TemplateSymbol.written] at h

theorem slash_not_mem_spelled {segment : List TemplateSymbol} (h : .char '/' ∉ segment)
    (texts : String → String) :
    '/' ∉ TemplateSymbol.spelled (Text.percentEncode ∘ texts) segment := by
  intro hslash
  obtain ⟨symbol, hsymbol, hslash⟩ := List.mem_flatMap.mp hslash
  cases symbol with
  | char c =>
    obtain rfl : '/' = c := List.mem_singleton.mp hslash
    exact h hsymbol
  | param name => exact absurd (Text.isEncodedChar_of_mem_percentEncode hslash) (by decide)

/-- Where literal text alone makes no dot segment, a dot segment has a placeholder. -/
theorem exists_param_of_isDots {segment : List TemplateSymbol} {texts : String → String}
    (hwritten : segment ≠ [.char '.'] ∧ segment ≠ [.char '.', .char '.'])
    (h : isDots (TemplateSymbol.spelled texts segment) = true) :
    ∃ name, .param name ∈ segment := by
  by_contra hnone
  have hsegment := TemplateSymbol.eq_map_of_no_param texts (not_exists.mp hnone)
  rcases DotSegments.isDots_iff.mp h with hdots | hdots
  · exact hwritten.1 (by rw [hsegment, hdots]; rfl)
  · exact hwritten.2 (by rw [hsegment, hdots]; rfl)

/-- The removal of dot segments keeps a URL that is filled in if and only if no segment of the
template reads as a dot segment once the texts of the values stand in it. -/
theorem withoutDotSegments_fill_iff {built : BuiltUrl}
    (hstart : template.text.toList.head? = some '/')
    (hquery : '?' ∉ template.literalChars) (hfragment : '#' ∉ template.literalChars)
    (hwritten : ∀ segment ∈ template.segments, segment ≠ [.char '.'] ∧
      segment ≠ [.char '.', .char '.'])
    (hbuilt : (template.fill params entity).outcome = .ok built) :
    withoutDotSegments built.url = built.url ↔
      ∀ segment ∈ template.segments, (∃ name, .param name ∈ segment) →
        isDots (TemplateSymbol.spelled (textOf params entity) segment) = false := by
  obtain ⟨symbols, hsymbols⟩ := symbols_of_slash hstart
  have hsegments : template.segments = [] :: symbols.splitOn (.char '/') := by
    rw [segments, hsymbols, List.splitOn_cons_eq_if_modifyHead, if_pos (beq_self_eq_true _)]
  have hurl : built.url.toList = laid ((symbols.splitOn (.char '/')).map
      (TemplateSymbol.spelled (Text.percentEncode ∘ textOf params entity))) := by
    rw [← TemplateSymbol.spelled_eq_laid, url_of_fill hbuilt, toList_withTexts, hsymbols]
    rfl
  have hslashes : ∀ segment ∈ (symbols.splitOn (.char '/')).map
      (TemplateSymbol.spelled (Text.percentEncode ∘ textOf params entity)), '/' ∉ segment := by
    rw [List.forall_mem_map]
    intro segment hsegment
    exact slash_not_mem_spelled (Text.not_mem_of_mem_splitOn hsegment) _
  rw [DotSegments.withoutDotSegments_eq_self_iff (not_mem_url hbuilt (by decide) hquery)
    (not_mem_url hbuilt (by decide) hfragment) hurl hslashes, List.forall_mem_map]
  simp only [TemplateSymbol.isDots_spelled_encoded]
  rw [hsegments, List.forall_mem_cons] at hwritten ⊢
  constructor
  · exact fun h => ⟨fun _ => rfl, fun segment hsegment _ => h segment hsegment⟩
  · rintro ⟨_, h⟩ segment hsegment
    by_contra hdots
    rw [Bool.not_eq_false] at hdots
    rw [h segment hsegment (exists_param_of_isDots (hwritten.2 segment hsegment) hdots)] at hdots
    cases hdots

def fieldById : UrlTemplate := ⟨[.literal "/field/", .param "key", .literal "/.", .param "id"]⟩

def keyed (key id : String) : Entity :=
  ⟨⟨"adapter", "T", "x"⟩, ObjectType.plain, [("key", .string key), ("id", .string id)], []⟩

/-- A slash in a value parts no segments, and three dots are no dot segment. The point of the
template makes one together with a value that is a point. -/
theorem withoutDotSegments_fill_iff_fieldById :
    fieldById.text.toList.head? = some '/' ∧
    '?' ∉ fieldById.literalChars ∧ '#' ∉ fieldById.literalChars ∧
    (∀ segment ∈ fieldById.segments, segment ≠ [.char '.'] ∧
      segment ≠ [.char '.', .char '.']) ∧
    withoutDotSegments "/field/..%2Fx/..." = "/field/..%2Fx/..." ∧
    withoutDotSegments "/field/..%2Fx/.." ≠ "/field/..%2Fx/.." := by
  have hstart : fieldById.text.toList.head? = some '/' := by decide
  have hquery : '?' ∉ fieldById.literalChars := by decide
  have hfragment : '#' ∉ fieldById.literalChars := by decide
  have hwritten : ∀ segment ∈ fieldById.segments, segment ≠ [.char '.'] ∧
    segment ≠ [.char '.', .char '.'] := by decide
  have hthree : (fieldById.fill Table.empty (keyed "../x" "..")).outcome =
    .ok ⟨"/field/..%2Fx/...", ["id", "key"]⟩ := by decide
  have htwo : (fieldById.fill Table.empty (keyed "../x" ".")).outcome =
    .ok ⟨"/field/..%2Fx/..", ["id", "key"]⟩ := by decide
  have hkept := withoutDotSegments_fill_iff hstart hquery hfragment hwritten hthree
  have hremoved := withoutDotSegments_fill_iff hstart hquery hfragment hwritten htwo
  have hnone : ∀ segment ∈ fieldById.segments,
    isDots (TemplateSymbol.spelled (textOf Table.empty (keyed "../x" "..")) segment) = false := by
    decide
  refine ⟨hstart, hquery, hfragment, hwritten, ?_, ?_⟩
  · exact hkept.mpr fun segment hsegment _ => hnone segment hsegment
  · refine hremoved.not.mpr fun h => ?_
    exact absurd (h [.char '.', .param "id"] (by decide) ⟨"id", by decide⟩) (by decide)

/-- A value of two points takes the segment before it away. -/
theorem not_withoutDotSegments_fill : ¬ ∀ (template : UrlTemplate) (params : Table FieldPath)
    (entity : Entity) (built : BuiltUrl), template.text.toList.head? = some '/' →
    '?' ∉ template.literalChars → '#' ∉ template.literalChars →
    (∀ segment ∈ template.segments, segment ≠ [.char '.'] ∧
      segment ≠ [.char '.', .char '.']) →
    (template.fill params entity).outcome = .ok built →
    withoutDotSegments built.url = built.url := by
  intro hall
  have hkept := hall ⟨[.literal "/rest/field/", .param "id"]⟩ Table.empty (keyed "k" "..")
    ⟨"/rest/field/..", ["id"]⟩ (by decide) (by decide) (by decide) (by decide) (by decide)
  have hremoved : withoutDotSegments "/rest/field/.." = "/rest/" := by decide +kernel
  rw [hremoved] at hkept
  exact absurd hkept (by decide)

end UrlTemplate

end Rollout
