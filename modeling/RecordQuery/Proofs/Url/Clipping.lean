import RecordQuery.Proofs.Outcome
import RecordQuery.Proofs.Text.Trimming
import RecordQuery.Proofs.Url.Decoding
import RecordQuery.Url.Parser

/-!
# URLs without the slashes at their end

A web URL is still one when the slashes at the end of its text are cut off, and it leads to the same
server. The slashes end the part in front of the path or come behind it, and so do controls and
spaces in front of the slashes, which become margins of the text: no host and no port ends in such a
character.

## Main statements

* `not_isMargin_of_cutHost`: no host and no port ends in a control or a space.
* `parseWeb_append`: a web URL reads without what comes behind it.
* `parse_clipped`: the text of a web URL reads without the slashes at its end, on the same server.
-/

namespace RecordQuery.Url

/-- Two URLs of one server, reached in the same way by the same user. -/
structure SameServer (a b : Url) : Prop where
  scheme : a.scheme = b.scheme
  userinfo : a.userinfo = b.userinfo
  host : a.host = b.host
  port : a.port = b.port

theorem SameServer.trans {a b c : Url} (hab : a.SameServer b) (hbc : b.SameServer c) :
    a.SameServer c where
  scheme := hab.scheme.trans hbc.scheme
  userinfo := hab.userinfo.trans hbc.userinfo
  host := hab.host.trans hbc.host
  port := hab.port.trans hbc.port

variable {names : NameMapping}

/-! ## What a host and a port do not end in -/

/-- Controls and spaces, which are no part of a URL around its text. -/
def isMargin (c : Char) : Bool := c.toNat ≤ 0x20

/-- A character that is no mark in front of a path. -/
structure IsInert (c : Char) : Prop where
  colon : c ≠ ':'
  at_ : c ≠ '@'
  digit : c.isDigit = false
  ending : endsAuthority true c = false
  slash : isSlash c = false

theorem inert_of_isMargin {c : Char} (h : isMargin c = true) : IsInert c := by
  have hall : ∀ n ∈ List.range 0x21, Char.ofNat n ≠ ':' ∧ Char.ofNat n ≠ '@'
      ∧ (Char.ofNat n).isDigit = false ∧ endsAuthority true (Char.ofNat n) = false
      ∧ isSlash (Char.ofNat n) = false := by decide
  have hle : c.toNat ≤ 0x20 := of_decide_eq_true h
  have hc := hall c.toNat (List.mem_range.mpr (by omega))
  rw [Char.ofNat_toNat] at hc
  obtain ⟨colon, at_, digit, ending, slash⟩ := hc
  exact { colon, at_, digit, ending, slash }

/-- A byte that is no part of an escape is left by decoding. -/
theorem Decodes.mem_of_mem {bytes decoded : List UInt8} (h : Decodes bytes decoded) {b : UInt8}
    (hpercent : b ≠ 0x25) (hdigit : hexValue? b = none) (hb : b ∈ bytes) : b ∈ decoded := by
  induction h with
  | nil => exact hb
  | other _ _ ih =>
    rcases List.mem_cons.mp hb with rfl | hb
    · exact List.mem_cons_self
    · exact List.mem_cons_of_mem _ (ih hb)
  | percent _ _ ih =>
    rcases List.mem_cons.mp hb with rfl | hb
    · exact List.mem_cons_self
    · exact List.mem_cons_of_mem _ (ih hb)
  | escape hpair _ ih =>
    obtain ⟨x, y, high, low, rfl, hhigh, hlow, -⟩ := digitPair?_eq_some_iff.mp hpair
    have hx : b ≠ x := fun heq => by simp [← heq, hdigit] at hhigh
    have hy : b ≠ y := fun heq => by simp [← heq, hdigit] at hlow
    simp only [List.mem_cons, hpercent, hx, hy, false_or] at hb
    exact List.mem_cons_of_mem _ (ih hb)

theorem Host.not_isMargin_of_name? {text name : List Char} (h : Host.name? names text = some name)
    {c : Char} (hc : c ∈ text) : isMargin c = false := by
  rw [← Bool.not_eq_true]
  intro hmargin
  have hle : c.toNat ≤ 0x20 := of_decide_eq_true hmargin
  have hall : ∀ n ∈ List.range 0x21, UInt8.ofNat n ≠ 0x25 ∧ hexValue? (UInt8.ofNat n) = none
      ∧ UInt8.ofNat n ≤ 0x20 := by decide
  obtain ⟨hpercent, hdigit, hbyte⟩ := hall c.toNat (List.mem_range.mpr (by omega))
  -- The byte of the character is still there when the name is decoded, and no mapping takes it.
  have hmem : UInt8.ofNat c.toNat ∈ percentDecode (utf8Bytes text) :=
    (decodes_percentDecode _).mem_of_mem hpercent hdigit ((mem_utf8Bytes_iff c (by omega)).mpr hc)
  rw [Host.name?, names.refuses_margin _ _ hmem hbyte] at h
  cases h

theorem Host.eq_bracket_of_inBrackets? {text inside : List Char} {c : Char}
    (h : Host.inBrackets? (text ++ [c]) = some inside) : c = ']' := by
  unfold Host.inBrackets? at h
  split at h
  · rename_i rest htext
    split at h
    · rename_i hlast
      cases text with
      | nil =>
        obtain ⟨-, rfl⟩ := List.cons.inj htext
        simp at hlast
      | cons first text =>
        obtain ⟨-, rfl⟩ := List.cons.inj htext
        simpa using hlast
    · cases h
  · cases h

theorem Host.not_isMargin_of_parse {text : List Char} {c : Char} {host : Host}
    (h : Host.parse names (text ++ [c]) = .ok host) : isMargin c = false := by
  rw [Host.parse] at h
  split at h
  · -- An address in brackets ends in a bracket.
    cases hinside : Host.inBrackets? (text ++ [c]) with
    | none => simp [hinside] at h
    | some inside => exact eq_bracket_of_inBrackets? hinside ▸ by decide
  · cases hname : Host.name? names (text ++ [c]) with
    | none => simp [hname] at h
    | some name => exact not_isMargin_of_name? hname (by simp)

/-- A port is a colon and digits. -/
theorem not_isMargin_of_parsePort {text : List Char} {c : Char} {port : Option UInt16}
    (h : parsePort true (':' :: text ++ [c]) = .ok port) : isMargin c = false := by
  rw [← Bool.not_eq_true]
  intro hmargin
  have hmore : ((text ++ [c]).dropWhile Char.isDigit).isEmpty = false := by
    rw [List.dropWhile_append]
    split <;> simp [(inert_of_isMargin hmargin).digit]
  simp [parsePort, hmore] at h

/-! ## The part in front of the path -/

theorem cutHost_append (inside : Bool) (text : List Char) :
    (cutHost inside text).1 ++ (cutHost inside text).2 = text := by
  induction text generalizing inside with
  | nil => rfl
  | cons c text ih =>
    rw [cutHost]
    split
    · rfl
    · exact congrArg (List.cons c) (ih _)

theorem head_snd_cutHost (inside : Bool) (text : List Char) :
    ∀ c ∈ (cutHost inside text).2.head?, c = ':' := by
  induction text generalizing inside with
  | nil => simp [cutHost]
  | cons c text ih =>
    rw [cutHost]
    split
    · rename_i hcolon
      simp only [Bool.and_eq_true, beq_iff_eq] at hcolon
      simpa using hcolon.1
    · exact ih _

/-- No host and no port ends in a margin. -/
theorem not_isMargin_of_cutHost {text : List Char} {c : Char} {host : Host} {port : Option UInt16}
    (hhost : Host.parse names (cutHost false (text ++ [c])).1 = .ok host)
    (hport : parsePort true (cutHost false (text ++ [c])).2 = .ok port) : isMargin c = false := by
  have happend := cutHost_append false (text ++ [c])
  have hhead := head_snd_cutHost false (text ++ [c])
  generalize (cutHost false (text ++ [c])).1 = front at *
  generalize (cutHost false (text ++ [c])).2 = back at *
  rcases List.eq_nil_or_concat back with rfl | ⟨back, last, rfl⟩
  · rw [List.append_nil] at happend
    exact Host.not_isMargin_of_parse (happend ▸ hhost)
  · rw [List.concat_eq_append, ← List.append_assoc] at happend
    obtain rfl : last = c := by simpa using (List.append_inj' happend rfl).2
    cases back with
    | nil =>
      rw [List.concat_eq_append] at hhead
      have hcolon : last = ':' := hhead last rfl
      exact hcolon ▸ by decide
    | cons first back =>
      have hcolon : first = ':' := hhead first rfl
      rw [List.concat_eq_append, hcolon] at hport
      exact not_isMargin_of_parsePort hport

/-- The part of a web URL in front of its path. -/
def authority (cs : List Char) : List Char := cs.takeWhile fun c => !endsAuthority true c

/-- What comes behind that part. -/
def behindAuthority (cs : List Char) : List Char := cs.dropWhile fun c => !endsAuthority true c

/-- User name and password in the part in front of the path, and host and port. -/
def cutUserinfo (text : List Char) : List Char × List Char :=
  (Text.cutAtLast? '@' text).getD ([], text)

/-- The URL of a server, its path, query and fragment read from what comes behind. -/
def ofServer (scheme : String) (userinfo : List Char) (host : Host) (port : Option UInt16)
    (rest : List Char) : Url where
  scheme
  userinfo := encodeUserinfo userinfo
  host
  port := port.filter fun n => some n != defaultPort? scheme
  path := Path.ofSegments (splitPath rest)
  query := parseQuery rest
  fragment := parseFragment rest

theorem parseWeb_eq (scheme : String) (cs : List Char) :
    parseWeb names scheme cs =
      if isBareAt (Text.cutAtLast? '@' (authority cs)) (behindAuthority cs) then .error .emptyHost
      else if (cutHost false (cutUserinfo (authority cs)).2).1.isEmpty then .error .emptyHost
      else (Host.parse names (cutHost false (cutUserinfo (authority cs)).2).1).bind fun host =>
        (parsePort true (cutHost false (cutUserinfo (authority cs)).2).2).bind fun port =>
          .ok (ofServer scheme (cutUserinfo (authority cs)).1 host port (behindAuthority cs)) :=
  rfl

/-- How a web URL reads: its server is told by the part in front of the path alone. -/
theorem parseWeb_eq_ok_iff {scheme : String} {cs : List Char} {url : Url} :
    parseWeb names scheme cs = .ok url ↔
      isBareAt (Text.cutAtLast? '@' (authority cs)) (behindAuthority cs) = false
      ∧ (cutHost false (cutUserinfo (authority cs)).2).1.isEmpty = false
      ∧ ∃ host port, Host.parse names (cutHost false (cutUserinfo (authority cs)).2).1 = .ok host
        ∧ parsePort true (cutHost false (cutUserinfo (authority cs)).2).2 = .ok port
        ∧ url = ofServer scheme (cutUserinfo (authority cs)).1 host port (behindAuthority cs) := by
  rw [parseWeb_eq]
  constructor
  · intro h
    split at h
    · cases h
    · rename_i hbare
      split at h
      · cases h
      · rename_i hempty
        obtain ⟨host, hhost, h⟩ := bind_eq_ok_iff.mp h
        obtain ⟨port, hport, h⟩ := bind_eq_ok_iff.mp h
        exact ⟨by simpa using hbare, by simpa using hempty, host, port, hhost, hport,
          (Except.ok.inj h).symm⟩
  · rintro ⟨hbare, hempty, host, port, hhost, hport, rfl⟩
    rw [if_neg (by simp [hbare]), if_neg (by simp [hempty]), hhost, hport]
    rfl

/-! ## What is cut off

Behind the text that is left there were controls and spaces, perhaps, and then slashes. -/

structure Clipping where
  margin : List Char
  slashes : List Char
  isMargin_of_mem : ∀ c ∈ margin, isMargin c = true
  eq_slash_of_mem : ∀ c ∈ slashes, c = '/'
  slashes_ne_nil : slashes ≠ []

namespace Clipping

def text (t : Clipping) : List Char := t.margin ++ t.slashes

theorem colon_notMem (t : Clipping) : ':' ∉ t.text := by
  rw [text, List.mem_append]
  rintro (hmargin | hslash)
  · exact (inert_of_isMargin (t.isMargin_of_mem _ hmargin)).colon rfl
  · exact absurd (t.eq_slash_of_mem _ hslash) (by decide)

/-- The slashes, and what is in front of them, stop any run of characters that they are not in. -/
theorem takeWhile_text (t : Clipping) {p : Char → Bool}
    (hmargin : ∀ c, isMargin c = true → p c = true) (hslash : p '/' = false) :
    t.text.takeWhile p = t.margin ∧ t.text.dropWhile p = t.slashes := by
  have hstop : t.slashes.takeWhile p = [] ∧ t.slashes.dropWhile p = t.slashes := by
    cases hslashes : t.slashes with
    | nil => exact absurd hslashes t.slashes_ne_nil
    | cons c rest =>
      have hc : c = '/' := t.eq_slash_of_mem c (hslashes ▸ List.mem_cons_self)
      simp [hc, hslash]
  have hall : ∀ c ∈ t.margin, p c = true := fun c hc => hmargin c (t.isMargin_of_mem c hc)
  rw [text, List.takeWhile_append_of_pos hall, List.dropWhile_append_of_pos hall, hstop.1, hstop.2,
    List.append_nil]
  exact ⟨rfl, rfl⟩

end Clipping

theorem afterLast_append_of_notMem {separator : Char} (front : List Char) {back : List Char}
    (h : separator ∉ back) :
    Text.afterLast separator (front ++ back) = Text.afterLast separator front ++ back := by
  have hback : ∀ c ∈ back.reverse, (c != separator) = true := fun c hc =>
    bne_iff_ne.mpr fun heq => h (heq ▸ List.mem_reverse.mp hc)
  rw [Text.afterLast, List.reverse_append, List.takeWhile_append_of_pos hback, List.reverse_append,
    List.reverse_reverse]
  rfl

theorem snd_cutUserinfo (text : List Char) : (cutUserinfo text).2 = Text.afterLast '@' text := by
  rw [cutUserinfo, Text.cutAtLast?]
  split
  · rfl
  · rename_i h
    exact (Text.afterLast_eq_self (by simpa using h)).symm

theorem isBareAt_nil (userinfo? : Option (List Char × List Char)) :
    isBareAt userinfo? [] = false := by
  unfold isBareAt
  split <;> rfl

theorem isBareAt_append {userinfo? : Option (List Char × List Char)} {rest : List Char}
    (h : rest ≠ []) (more : List Char) :
    isBareAt userinfo? (rest ++ more) = isBareAt userinfo? rest := by
  cases rest with
  | nil => exact absurd rfl h
  | cons c rest => rfl

theorem sameServer_ofServer (scheme : String) (userinfo : List Char) (host : Host)
    (port : Option UInt16) (rest rest' : List Char) :
    (ofServer scheme userinfo host port rest).SameServer
      (ofServer scheme userinfo host port rest') :=
  ⟨rfl, rfl, rfl, rfl⟩

/-- A part in front of a path that was read does not end in a margin. -/
theorem margin_eq_nil {text margin : List Char} {host : Host} {port : Option UInt16}
    (hmargin : ∀ c ∈ margin, isMargin c = true)
    (hhost : Host.parse names (cutHost false (cutUserinfo (text ++ margin)).2).1 = .ok host)
    (hport : parsePort true (cutHost false (cutUserinfo (text ++ margin)).2).2 = .ok port) :
    margin = [] := by
  rcases List.eq_nil_or_concat margin with rfl | ⟨front, c, rfl⟩
  · rfl
  · have hc := hmargin c (by simp)
    have hat : '@' ∉ [c] := by simpa using (inert_of_isMargin hc).at_.symm
    rw [List.concat_eq_append, ← List.append_assoc, snd_cutUserinfo,
      afterLast_append_of_notMem _ hat] at hhost hport
    rw [not_isMargin_of_cutHost hhost hport] at hc
    cases hc

/-- What comes behind a web URL does not become a part of its server. -/
theorem authority_append (t : Clipping) {scheme : String} {cs : List Char} {url : Url}
    (h : parseWeb names scheme (cs ++ t.text) = .ok url) :
    authority (cs ++ t.text) = authority cs
      ∧ (behindAuthority cs = [] ∨ behindAuthority cs ≠ []
        ∧ behindAuthority (cs ++ t.text) = behindAuthority cs ++ t.text) := by
  by_cases hall : ∀ c ∈ cs, (!endsAuthority true c) = true
  · -- The part in front of the path goes on to the margin, which is empty then.
    obtain ⟨-, -, host, port, hhost, hport, -⟩ := parseWeb_eq_ok_iff.mp h
    obtain ⟨htake, -⟩ := t.takeWhile_text (p := fun c => !endsAuthority true c)
      (fun c hc => by simp [(inert_of_isMargin hc).ending]) (by decide)
    have hauthority : authority (cs ++ t.text) = cs ++ t.margin := by
      rw [authority, List.takeWhile_append_of_pos hall, htake]
    rw [hauthority] at hhost hport
    have hmargin := margin_eq_nil t.isMargin_of_mem hhost hport
    have hself : authority cs = cs := List.takeWhile_eq_self_iff.mpr hall
    exact ⟨by rw [hauthority, hmargin, List.append_nil, hself],
      .inl (List.dropWhile_eq_nil_iff.mpr hall)⟩
  · have hrest : behindAuthority cs ≠ [] := mt List.dropWhile_eq_nil_iff.mp hall
    have hlength : (cs.takeWhile fun c => !endsAuthority true c).length ≠ cs.length := fun heq =>
      hall (List.takeWhile_eq_self_iff.mp ((List.takeWhile_prefix _).eq_of_length heq))
    refine ⟨?_, .inr ⟨hrest, ?_⟩⟩
    · rw [authority, List.takeWhile_append, if_neg hlength]
      rfl
    · rw [behindAuthority, List.dropWhile_append, if_neg (by simpa [behindAuthority] using hrest)]
      rfl

/-- A web URL reads without what comes behind it, and is on the same server. -/
theorem parseWeb_append (t : Clipping) {scheme : String} {cs : List Char} {url : Url}
    (h : parseWeb names scheme (cs ++ t.text) = .ok url) :
    ∃ url', parseWeb names scheme cs = .ok url' ∧ url'.SameServer url := by
  obtain ⟨hauthority, hrest⟩ := authority_append t h
  obtain ⟨hbare, hempty, host, port, hhost, hport, rfl⟩ := parseWeb_eq_ok_iff.mp h
  rw [hauthority] at hbare hempty hhost hport
  have hbare' : isBareAt (Text.cutAtLast? '@' (authority cs)) (behindAuthority cs) = false := by
    rcases hrest with hnil | ⟨hne, happend⟩
    · rw [hnil, isBareAt_nil]
    · rwa [happend, isBareAt_append hne] at hbare
  refine ⟨_, parseWeb_eq_ok_iff.mpr ⟨hbare', hempty, host, port, hhost, hport, rfl⟩, ?_⟩
  rw [hauthority]
  exact sameServer_ofServer _ _ _ _ _ _

/-! ## Whole texts -/

/-- What a text is as a URL is told by its scheme. -/
inductive ParsesAs (names : NameMapping) (text : String) : Parsed → Prop
  | web {scheme : String} {rest : List Char} {url : Url}
      (hcut : cutScheme? (cleaned text) = some (scheme, rest))
      (hscheme : (defaultPort? scheme).isSome)
      (hparse : parseWeb names scheme (rest.dropWhile isSlash) = .ok url) : ParsesAs names text (.web url)
  | other {scheme : String} (hscheme : defaultPort? scheme = none) : ParsesAs names text (.other scheme)

theorem parsesAs_of_parse {text : String} {parsed : Parsed} (h : parse names text = .ok parsed) :
    ParsesAs names text parsed := by
  have hother {scheme : String} (check : Except ParseError Unit)
      (hscheme : ¬ (defaultPort? scheme).isSome)
      (h : (check.bind fun _ => .ok (.other scheme)) = .ok parsed) : ParsesAs names text parsed := by
    obtain ⟨-, -, hparsed⟩ := bind_eq_ok_iff.mp h
    exact Except.ok.inj hparsed ▸ .other (by simpa using hscheme)
  rw [parse] at h
  split at h
  · cases h
  · rename_i scheme rest hcut
    split at h
    · rename_i hscheme
      cases hparse : parseWeb names scheme (rest.dropWhile isSlash) with
      | error e => simp [hparse] at h
      | ok url =>
        rw [hparse] at h
        exact Except.ok.inj h ▸ .web hcut hscheme hparse
    · rename_i hscheme
      split at h
      · exact hother _ hscheme h
      · split at h
        · exact hother _ hscheme h
        · exact hother (.ok ()) hscheme h

theorem parse_web {text : String} {scheme : String} {rest : List Char} {url : Url}
    (hcut : cutScheme? (cleaned text) = some (scheme, rest))
    (hscheme : (defaultPort? scheme).isSome)
    (hparse : parseWeb names scheme (rest.dropWhile isSlash) = .ok url) :
    parse names text = .ok (.web url) := by
  simp [parse, hcut, hscheme, hparse]

theorem cutScheme?_eq_some_iff {cs rest : List Char} {scheme : String} :
    cutScheme? cs = some (scheme, rest) ↔ ∃ first word, cs = first :: word ++ ':' :: rest
      ∧ (∀ c ∈ first :: word, isSchemeChar c = true) ∧ first.isAlpha = true
      ∧ scheme = String.ofList ((first :: word).map Char.toLower) := by
  constructor
  · intro h
    rw [cutScheme?] at h
    split at h
    · rename_i first rest' hfirst hrest
      split at h
      · rename_i halpha
        obtain ⟨rfl, rfl⟩ := Prod.mk.inj (Option.some.inj h)
        obtain ⟨word, hword⟩ := List.head?_eq_some_iff.mp hfirst
        have hall : ∀ c ∈ cs.takeWhile isSchemeChar, isSchemeChar c = true :=
          fun c hc => List.mem_takeWhile_imp hc
        have hcs := List.takeWhile_append_dropWhile (p := isSchemeChar) (l := cs)
        rw [hword] at hall hcs ⊢
        exact ⟨first, word, by rw [← hcs, hrest], hall, halpha, rfl⟩
      · cases h
    · cases h
  · rintro ⟨first, word, rfl, hall, halpha, rfl⟩
    have hcolon : isSchemeChar ':' = false := by decide
    rw [cutScheme?, List.takeWhile_append_of_pos hall, List.dropWhile_append_of_pos hall]
    simp [hcolon, halpha]

theorem cutScheme?_append (t : Clipping) {cs rest : List Char} {scheme : String}
    (h : cutScheme? (cs ++ t.text) = some (scheme, rest)) :
    ∃ front, cutScheme? cs = some (scheme, front) ∧ rest = front ++ t.text := by
  obtain ⟨first, word, htext, hall, halpha, rfl⟩ := cutScheme?_eq_some_iff.mp h
  rcases List.append_eq_append_iff.mp htext with ⟨more, -, hclipped⟩ | ⟨front, hcs, hrest⟩
  · exact absurd (hclipped ▸ by simp) t.colon_notMem
  · cases front with
    | nil => exact absurd (List.nil_append t.text ▸ hrest ▸ List.mem_cons_self) t.colon_notMem
    | cons colon front =>
      obtain ⟨rfl, rfl⟩ := List.cons.inj hrest
      exact ⟨front, cutScheme?_eq_some_iff.mpr ⟨first, word, hcs, hall, halpha, rfl⟩, rfl⟩

/-- The text of an address without the slashes at its end. -/
def clipped (text : String) : String :=
  String.ofList (Text.dropEndWhile (· == '/') text.toList)

theorem cleaned_eq (text : String) :
    cleaned text = stripped (Text.dropEndWhile isMargin (text.toList.dropWhile isMargin)) := rfl

theorem not_isMargin_of_slash {c : Char} (h : c = '/') : isMargin c = false := h ▸ by decide

theorem dropWhile_append_slashes {slashes : List Char} (hne : slashes ≠ [])
    (hslash : ∀ c ∈ slashes, c = '/') (front : List Char) :
    (front ++ slashes).dropWhile isMargin = front.dropWhile isMargin ++ slashes := by
  have hself : slashes.dropWhile isMargin = slashes := by
    cases slashes with
    | nil => rfl
    | cons c rest => simp [not_isMargin_of_slash (hslash c List.mem_cons_self)]
  rw [List.dropWhile_append, hself]
  split
  · rename_i hempty
    rw [List.isEmpty_iff.mp hempty, List.nil_append]
  · rfl

theorem dropEndWhile_append_slashes {slashes : List Char} (hne : slashes ≠ [])
    (hslash : ∀ c ∈ slashes, c = '/') (front : List Char) :
    Text.dropEndWhile isMargin (front ++ slashes) = front ++ slashes := by
  rcases List.eq_nil_or_concat slashes with rfl | ⟨init, c, rfl⟩
  · exact absurd rfl hne
  · have hc : isMargin c = false := not_isMargin_of_slash (hslash c (by simp))
    simp [Text.dropEndWhile, hc]

/-- Once it is cleaned, a text is the one without the slashes at its end, and what was cut off. -/
theorem cleaned_clipped (text : String) :
    cleaned text = cleaned (clipped text)
      ∨ ∃ t : Clipping, cleaned text = cleaned (clipped text) ++ t.text := by
  obtain ⟨slashes, htext, hslashes⟩ := Text.exists_dropEndWhile_append (· == '/') text.toList
  have hslash : ∀ c ∈ slashes, c = '/' := fun c hc => beq_iff_eq.mp (hslashes c hc)
  have hclipped : (clipped text).toList = Text.dropEndWhile (· == '/') text.toList :=
    String.toList_ofList
  rw [← hclipped] at htext
  by_cases hne : slashes = []
  · left
    rw [hne, List.append_nil] at htext
    rw [cleaned_eq, cleaned_eq, htext]
  · right
    obtain ⟨margin, hfront, hmargin⟩ :=
      Text.exists_dropEndWhile_append isMargin ((clipped text).toList.dropWhile isMargin)
    have hkept : stripped slashes = slashes :=
      List.filter_eq_self.mpr fun c hc => hslash c hc ▸ by decide
    have hmargin' : ∀ c ∈ stripped margin, isMargin c = true :=
      fun c hc => hmargin c (List.mem_filter.mp hc).1
    refine ⟨⟨stripped margin, slashes, hmargin', hslash, hne⟩, ?_⟩
    rw [cleaned_eq, cleaned_eq, htext, dropWhile_append_slashes hne hslash,
      dropEndWhile_append_slashes hne hslash, Clipping.text, stripped_append, hkept,
      ← List.append_assoc, ← stripped_append, ← hfront]

/-- The slashes in front of a server are not those that are cut off: a server has a name. -/
theorem dropWhile_isSlash_append (cs : List Char) (t : Clipping) {scheme : String} {url : Url}
    (h : parseWeb names scheme ((cs ++ t.text).dropWhile isSlash) = .ok url) :
    (cs ++ t.text).dropWhile isSlash = cs.dropWhile isSlash ++ t.text := by
  have hparts : (cs ++ t.text).dropWhile isSlash = _ := List.dropWhile_append
  split at hparts
  · rename_i hempty
    have htext : t.text.dropWhile isSlash = t.text := by
      cases hmargin : t.margin with
      | nil =>
        have hslashes : t.text.dropWhile isSlash = [] := by
          rw [Clipping.text, hmargin, List.nil_append, List.dropWhile_eq_nil_iff]
          exact fun c hc => t.eq_slash_of_mem c hc ▸ by decide
        rw [hparts, hslashes] at h
        cases h
      | cons c rest =>
        have hc := inert_of_isMargin (t.isMargin_of_mem c (hmargin ▸ List.mem_cons_self))
        rw [Clipping.text, hmargin, List.cons_append,
          List.dropWhile_cons_of_neg (by simp [hc.slash])]
    rw [hparts, htext, List.isEmpty_iff.mp hempty, List.nil_append]
  · exact hparts

/-- The address of a web URL without the slashes at its end is one of the same server. -/
theorem parse_clipped {text : String} {url : Url} (h : parse names text = .ok (.web url)) :
    ∃ url', parse names (clipped text) = .ok (.web url') ∧ url'.SameServer url := by
  rcases cleaned_clipped text with heq | ⟨t, happend⟩
  · exact ⟨url, by rw [parse, ← heq, ← parse, h], ⟨rfl, rfl, rfl, rfl⟩⟩
  · cases parsesAs_of_parse h with
    | web hcut hscheme hparse =>
      rw [happend] at hcut
      obtain ⟨front, hcut', rfl⟩ := cutScheme?_append t hcut
      rw [dropWhile_isSlash_append front t hparse] at hparse
      obtain ⟨url', hparse', hsame⟩ := parseWeb_append t hparse
      exact ⟨url', parse_web hcut' hscheme hparse', hsame⟩

end RecordQuery.Url
