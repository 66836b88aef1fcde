import Mathlib.Data.List.Basic
import Mathlib.Data.List.Induction
import RecordQuery.Proofs.Url.Decoding
import RecordQuery.Url.Basic

/-!
# Segments of a path, decoded

A text that is added to a path becomes one segment that decodes to the text, unless it is a dot
segment or holds a character that URLs ignore. Then there is no such segment: the path stays as it
is, or what is at its end now decodes to another text.

## Main statements

* `Path.decoded_push`: how a segment that is read back is added.
* `Path.push_cases`: what becomes of any text.
* `Path.decoded_foldl_push_iff`: when a path ends in the texts that were added to it.
-/

namespace RecordQuery.Url

def decodeSegment (segment : String) : List UInt8 := percentDecode (textBytes segment)

/-- A text that can be a segment: neither a dot segment nor one with an ignored character. -/
structure NamesSegment (s : String) : Prop where
  kept : ∀ c ∈ s.toList, c ∉ ['\t', '\n', '\r']
  notSingleDot : s ≠ "."
  notDoubleDot : s ≠ ".."

theorem stripped_eq_self_iff_notMem {cs : List Char} :
    stripped cs = cs ↔ ∀ c ∈ cs, c ∉ ['\t', '\n', '\r'] := by
  simp [stripped_eq_self_iff, isIgnored, and_assoc]

theorem NamesSegment.stripped_eq {s : String} (h : NamesSegment s) :
    stripped s.toList = s.toList :=
  stripped_eq_self_iff_notMem.mpr h.kept

instance : DecidablePred NamesSegment := fun s =>
  decidable_of_iff (stripped s.toList = s.toList ∧ s ≠ "." ∧ s ≠ "..")
    ⟨fun ⟨kept, single, double⟩ => ⟨stripped_eq_self_iff_notMem.mp kept, single, double⟩,
      fun h => ⟨stripped_eq_self_iff_notMem.mpr h.kept, h.notSingleDot, h.notDoubleDot⟩⟩

namespace Path

/-- The segments of a path as a server reads them. -/
def decoded (p : Path) : List (List UInt8) := p.segments.map decodeSegment

/-- The segments behind which the next one is added; the empty one of the path `/` is replaced. -/
def front (p : Path) : List String := if p = root then [] else p.segments

theorem front_of_ne {p : Path} (h : p ≠ root) : p.front = p.segments := if_neg h

theorem push_eq {p : Path} {s : String} (hsingle : s ≠ ".") (hdouble : s ≠ "..") :
    p.push s = resolve p.front (encodeSegment s) := by
  rw [push, if_neg (by simp [hsingle, hdouble]), front]

/-! ## One segment -/

theorem encodeSegment_spells (b : UInt8) :
    (utf8Bytes (encodeByte ByteSet.segment b) = [b] ∧ b ≠ 0x25)
      ∨ utf8Bytes (encodeByte ByteSet.segment b) = utf8Bytes (percentByte b) := by
  have hcovers : ByteSet.segment.CoversNonAscii := by
    intro b hb
    have hcontrol : b > 0x7E := UInt8.lt_iff_toNat_lt.mpr (Nat.lt_of_lt_of_le (by decide) hb)
    simp [ByteSet.segment, ByteSet.path, ByteSet.fragment, ByteSet.controls, ByteSet.union,
      hcontrol]
  cases hset : ByteSet.segment b with
  | true => exact .inr (utf8Bytes_encodeByte_of_mem hset)
  | false =>
    refine .inl ⟨utf8Bytes_encodeByte_of_notMem hcovers hset, ?_⟩
    rintro rfl
    exact absurd hset (by decide)

/-- A segment decodes to its text, but for the characters that are ignored. -/
theorem decodeSegment_encodeSegment (s : String) :
    decodeSegment (encodeSegment s) = utf8Bytes (stripped s.toList) := by
  rw [decodeSegment, textBytes, encodeSegment, String.toList_ofList, utf8Bytes_percentEncode,
    percentDecode_flatMap_eq_map encodeSegment_spells, List.map_id']

/-- Dot segments are known when they are encoded, too. -/
theorem isSingleDot_encodeSegment {s : String} (h : NamesSegment s) :
    isSingleDot (encodeSegment s) = false := by
  rw [← Bool.not_eq_true]
  intro hdot
  have hall : ∀ x ∈ [".", "%2e", "%2E"], decodeSegment x = textBytes "." := by decide +kernel
  have hdecoded := hall _ (List.contains_iff_mem.mp hdot)
  rw [decodeSegment_encodeSegment, h.stripped_eq] at hdecoded
  exact h.notSingleDot (textBytes_injective hdecoded)

theorem isDoubleDot_encodeSegment {s : String} (h : NamesSegment s) :
    isDoubleDot (encodeSegment s) = false := by
  rw [← Bool.not_eq_true]
  intro hdots
  have hall : ∀ x ∈ ["..", "%2e%2e", "%2e%2E", "%2E%2e", "%2E%2E", "%2e.", "%2E.", ".%2e", ".%2E"],
      decodeSegment x = textBytes ".." := by decide +kernel
  have hdecoded := hall _ (List.contains_iff_mem.mp hdots)
  rw [decodeSegment_encodeSegment, h.stripped_eq] at hdecoded
  exact h.notDoubleDot (textBytes_injective hdecoded)

theorem decoded_push {s : String} (h : NamesSegment s) (p : Path) :
    (p.push s).decoded = p.front.map decodeSegment ++ [textBytes s] := by
  rw [decoded, push_eq h.notSingleDot h.notDoubleDot,
    segments_resolve (isSingleDot_encodeSegment h) (isDoubleDot_encodeSegment h), List.map_append,
    List.map_singleton, decodeSegment_encodeSegment, h.stripped_eq]
  rfl

/-- A dot segment, be it encoded, leaves an empty segment at the end. -/
theorem segments_resolve_cases (directories : List String) (segment : String) :
    ∃ reached last, (resolve directories segment).segments = reached ++ [last]
      ∧ reached.length ≤ directories.length ∧ (last = "" ∨ last = segment) := by
  rw [resolve]
  split
  · refine ⟨parent directories, "", rfl, ?_, .inl rfl⟩
    rw [parent]
    split
    · exact Nat.le_refl _
    · rw [List.length_dropLast]
      exact Nat.sub_le _ _
  · split
    · exact ⟨directories, "", rfl, Nat.le_refl _, .inl rfl⟩
    · exact ⟨directories, segment, rfl, Nat.le_refl _, .inr rfl⟩

theorem length_front_le (p : Path) : p.front.length ≤ p.segments.length := by
  rw [front]
  split
  · exact Nat.zero_le _
  · exact Nat.le_refl _

theorem length_push_le (p : Path) (s : String) :
    (p.push s).segments.length ≤ p.segments.length + 1 := by
  by_cases hdots : s = "." ∨ s = ".."
  · rw [push, if_pos hdots]
    exact Nat.le_succ _
  · rw [not_or] at hdots
    obtain ⟨reached, last, hsegments, hle, -⟩ := segments_resolve_cases p.front (encodeSegment s)
    rw [push_eq hdots.1 hdots.2, hsegments, List.length_append]
    exact Nat.succ_le_succ (Nat.le_trans hle p.length_front_le)

/-- What becomes of a text that is added to a path. -/
theorem push_cases (p : Path) (s : String) :
    NamesSegment s ∨ p.push s = p
      ∨ ∃ front last, (p.push s).decoded = front ++ [last] ∧ last ≠ textBytes s := by
  by_cases hnames : NamesSegment s
  · exact .inl hnames
  by_cases hdots : s = "." ∨ s = ".."
  · exact .inr (.inl (if_pos hdots))
  rw [not_or] at hdots
  obtain ⟨reached, last, hsegments, -, hlast⟩ := segments_resolve_cases p.front (encodeSegment s)
  refine .inr (.inr ⟨reached.map decodeSegment, decodeSegment last, ?_, fun hself => ?_⟩)
  · rw [decoded, push_eq hdots.1 hdots.2, hsegments, List.map_append, List.map_singleton]
  · -- Read back as the text, the segment would hold all its characters.
    have hkept : stripped s.toList = s.toList := by
      rcases hlast with rfl | rfl
      · have hempty : "" = s := textBytes_injective hself
        exact hempty ▸ rfl
      · rw [decodeSegment_encodeSegment] at hself
        exact utf8Bytes_injective hself
    exact hnames ⟨stripped_eq_self_iff_notMem.mp hkept, hdots.1, hdots.2⟩

/-! ## Many segments -/

theorem length_decoded (p : Path) : p.decoded.length = p.segments.length := List.length_map _

theorem decoded_ne_nil (p : Path) : p.decoded ≠ [] := mt List.map_eq_nil_iff.mp p.nonempty

theorem length_foldl_push_le (p : Path) (texts : List String) :
    (texts.foldl push p).segments.length ≤ p.segments.length + texts.length := by
  induction texts generalizing p with
  | nil => exact Nat.le_refl _
  | cons s texts ih =>
    have hrest := ih (p.push s)
    have hfirst := p.length_push_le s
    rw [List.foldl_cons, List.length_cons]
    omega

/-- Only the path `/` has a segment replaced, and no path gets back to it. -/
theorem front_foldl_push {p : Path} (hp : p ≠ root) {texts : List String}
    (h : (texts.foldl push p).decoded = p.decoded ++ texts.map textBytes) :
    (texts.foldl push p).front = (texts.foldl push p).segments := by
  refine front_of_ne fun hroot => ?_
  cases texts with
  | nil => exact hp hroot
  | cons s texts =>
    -- The path would have two segments at least.
    have hlength := congrArg List.length h
    have hpos := List.length_pos_iff.mpr p.nonempty
    rw [length_decoded, hroot, List.length_append, length_decoded, List.length_map,
      List.length_cons] at hlength
    have hone : root.segments.length = 1 := rfl
    omega

/-- A path of which nothing is replaced ends in the texts that were added iff each can be a
segment. -/
theorem decoded_foldl_push_iff {p : Path} (hp : p ≠ root) (texts : List String) :
    (texts.foldl push p).decoded = p.decoded ++ texts.map textBytes
      ↔ ∀ s ∈ texts, NamesSegment s := by
  -- By induction from the end: only what the last text leaves there can be compared with it.
  induction texts using List.reverseRecOn with
  | nil => simp
  | append_singleton texts s ih =>
    rw [List.foldl_append, List.foldl_cons, List.foldl_nil, List.map_append, List.map_singleton,
      ← List.append_assoc, List.forall_mem_append, List.forall_mem_singleton, ← ih]
    constructor
    · intro h
      rcases push_cases (texts.foldl push p) s with hnames | hskip | ⟨front, last, hdecoded, hne⟩
      · rw [decoded_push hnames] at h
        have hfront := List.append_cancel_right h
        have hroot : texts.foldl push p ≠ root := fun hroot => by
          rw [front, if_pos hroot] at hfront
          exact p.decoded_ne_nil (List.append_eq_nil_iff.mp hfront.symm).1
        rw [front_of_ne hroot] at hfront
        exact ⟨hfront, hnames⟩
      · -- Without the last text there are not enough segments.
        have hlength := congrArg List.length h
        have hle := length_foldl_push_le p texts
        rw [hskip, length_decoded, List.length_append, List.length_append, length_decoded,
          List.length_map, List.length_singleton] at hlength
        omega
      · rw [hdecoded] at h
        exact absurd (List.singleton_inj.mp (List.append_inj' h rfl).2) hne
    · rintro ⟨h, hnames⟩
      rw [decoded_push hnames, front_foldl_push hp h, ← decoded, h]

/-- Texts that can be segments are told apart by the paths that end in them. -/
theorem eq_of_decoded_foldl_push_eq {p : Path} (hp : p ≠ root) {texts texts' : List String}
    (h : ∀ s ∈ texts, NamesSegment s) (h' : ∀ s ∈ texts', NamesSegment s)
    (heq : (texts.foldl push p).decoded = (texts'.foldl push p).decoded) : texts = texts' := by
  have hdecoded := (decoded_foldl_push_iff hp texts).mpr h
  rw [heq, (decoded_foldl_push_iff hp texts').mpr h'] at hdecoded
  exact textBytes_injective.list_map (List.append_cancel_left hdecoded).symm

/-! ## Segments behind those of a URL -/

/-- The segments of a path without an empty one at its end. -/
def stem (p : Path) : List String :=
  if p.segments.getLast? = some "" then p.segments.dropLast else p.segments

/-- Segments are added behind the stem, but for a path of two empty segments: once the second one is
gone, the first one is replaced. -/
theorem front_popIfEmpty {p : Path} (h : p.segments ≠ ["", ""]) : p.popIfEmpty.front = p.stem := by
  rw [popIfEmpty, stem]
  split
  · rename_i hempty
    obtain ⟨hlast, hdrop⟩ := hempty
    rw [if_pos hlast]
    refine front_of_ne fun hroot => h ?_
    have hfirst : p.segments.dropLast = [""] := congrArg segments hroot
    rw [← List.dropLast_append_getLast? "" hlast, hfirst]
    rfl
  · rename_i hkept
    by_cases hlast : p.segments.getLast? = some ""
    · have hdrop : p.segments.dropLast = [] := by simpa [hlast] using hkept
      have hroot : p = root := by
        ext1
        rw [← List.dropLast_append_getLast? "" hlast, hdrop]
        rfl
      rw [if_pos hlast, hdrop, front, if_pos hroot]
    · rw [if_neg hlast]
      exact front_of_ne fun hroot => hlast (hroot ▸ rfl)

theorem front_popIfEmpty_of_eq {p : Path} (h : p.segments = ["", ""]) :
    p.popIfEmpty.front = [] := by
  obtain rfl : p = ⟨["", ""], by simp⟩ := by
    ext1
    exact h
  rfl

theorem decoded_root : root.decoded = [[]] := by decide +kernel

theorem push_ne_root {p : Path} {s : String} (h : NamesSegment s) (hne : s ≠ "") :
    p.push s ≠ root := by
  intro hroot
  have hdecoded : [] ++ [textBytes ""] = p.front.map decodeSegment ++ [textBytes s] := by
    rw [← decoded_push h p, hroot]
    exact decoded_root.symm
  exact hne (textBytes_injective (List.singleton_inj.mp (List.append_inj' hdecoded rfl).2).symm)

/-- When the segments behind those of a URL are the texts that were added to it. -/
theorem decoded_extend_iff (p : Path) {first : String} (hfirst : NamesSegment first)
    (hne : first ≠ "") (texts : List String) :
    ((first :: texts).foldl push p.popIfEmpty).decoded
        = p.stem.map decodeSegment ++ (first :: texts).map textBytes
      ↔ p.segments ≠ ["", ""] ∧ ∀ s ∈ texts, NamesSegment s := by
  have hpush := decoded_push hfirst p.popIfEmpty
  rw [List.foldl_cons, List.map_cons, ← List.singleton_append, ← List.append_assoc]
  by_cases hsegments : p.segments = ["", ""]
  · -- One segment is missing.
    have hle := length_foldl_push_le (p.popIfEmpty.push first) texts
    have hlength := congrArg List.length hpush
    rw [front_popIfEmpty_of_eq hsegments, length_decoded] at hlength
    refine iff_of_false (fun h => ?_) fun h => h.1 hsegments
    have htotal := congrArg List.length h
    simp only [stem, hsegments, length_decoded, List.length_append, List.length_map,
      List.length_singleton, List.map_nil, List.length_nil] at htotal hlength
    simp at htotal
    omega
  · rw [← front_popIfEmpty hsegments, ← hpush, decoded_foldl_push_iff (push_ne_root hfirst hne)]
    exact (and_iff_right hsegments).symm

end Path

end RecordQuery.Url
