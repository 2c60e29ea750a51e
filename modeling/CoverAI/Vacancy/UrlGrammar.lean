import Mathlib.Data.List.Infix
import Mathlib.Data.Nat.Digits.Defs
import CoverAI.Text.Scan
import CoverAI.Vacancy.UrlOutcomes

/-!
# Messages with vacancy links

A message is a sequence of words.  A word is a vacancy link, followed by
punctuation, or it holds no link at all.
-/

namespace CoverAI

open Scan

/-!
# Vacancy links
-/

inductive Scheme where
  | http
  | https

def Scheme.text : Scheme -> List Char
  | http => "http://".toList
  | https => "https://".toList

def isLabelChar (c : Char) : Bool :=
  c.isAlphanum || c = '-'

/-- A dotted name. -/
structure HostName where
  labels : List (List Char)
  label_chars : forall label, label ∈ labels ->
    forall c, c ∈ label -> isLabelChar c = true

def HostName.text (host : HostName) : List Char :=
  ['.'].intercalate host.labels

/-- The host is hh.ru or a subdomain of it, in any letter case. -/
def HostName.isHh (host : HostName) : Bool :=
  decide (["hh".toList, "ru".toList] <:+ host.labels.map (List.map Char.toLower))

structure VacancyLink where
  scheme : Scheme
  host : HostName
  digits : List Char
  slash : Bool
  query : Option (List Char)
  fragment : Option (List Char)
  digits_ne_nil : digits ≠ []
  digits_length : digits.length ≤ 4300
  digits_chars : forall c, c ∈ digits -> c.isDigit = true
  query_chars : forall q, query = some q ->
    forall c, c ∈ q -> isUrlChar c = true ∧ c ≠ '#'
  fragment_chars : forall f, fragment = some f ->
    forall c, c ∈ f -> isUrlChar c = true

namespace VacancyLink

def path (link : VacancyLink) : List Char :=
  "/vacancy/".toList ++ link.digits ++ if link.slash then ['/'] else []

/-- The query and the fragment. -/
def tail (link : VacancyLink) : List Char :=
  (link.query.elim [] fun q => '?' :: q) ++
    link.fragment.elim [] fun f => '#' :: f

def text (link : VacancyLink) : List Char :=
  link.scheme.text ++ link.host.text ++ link.path ++ link.tail

def digitValues (link : VacancyLink) : List Nat :=
  link.digits.map fun c => c.toNat - '0'.toNat

/-- The number the digits denote, the last digit being the units. -/
def number (link : VacancyLink) : Nat :=
  Nat.ofDigits 10 link.digitValues.reverse

end VacancyLink

/-!
# Messages
-/

def isTrailing (c : Char) : Bool :=
  c ∈ ".,;:!?)]\x7d".toList

inductive Word where
  | plain (text : List Char)
      (unspaced : forall c, c ∈ text -> isSpace c = false)
      (free : forall scheme : Scheme, ¬ scheme.text <:+: text)
  | link (url : VacancyLink) (trailing : List Char)
      (punctuation : forall c, c ∈ trailing -> isTrailing c = true)

def Word.text : Word -> List Char
  | plain text _ _ => text
  | link url trailing _ => url.text ++ trailing

/-- The number of the vacancy, if the word links to hh.ru. -/
def Word.number : Word -> Option Nat
  | plain _ _ _ => none
  | link url _ _ => if url.host.isHh then some url.number else none

/-- Each word is followed by a gap, which may be empty after the last one. -/
structure Message where
  lead : List Char
  words : List (Word × List Char)
  lead_spaces : forall c, c ∈ lead -> isSpace c = true
  gap_spaces : forall entry, entry ∈ words ->
    forall c, c ∈ entry.2 -> isSpace c = true
  gap_ne_nil : forall entry, entry ∈ words.dropLast -> entry.2 ≠ []

namespace Message

def textOf (words : List (Word × List Char)) : List Char :=
  words.flatMap fun entry => entry.1.text ++ entry.2

def text (message : Message) : String :=
  String.ofList (message.lead ++ textOf message.words)

/-- The numbers of the vacancies of hh.ru the message links to. -/
def numbers (message : Message) : List Nat :=
  message.words.filterMap fun entry => entry.1.number

end Message

/-!
# The standard library on ASCII texts
-/

def IsAscii (s : List Char) : Prop :=
  forall c, c ∈ s -> c.toNat < 128

structure UrlLibrary.FollowsAscii (lib : UrlLibrary) : Prop where
  digitValue : forall c, c.toNat < 128 ->
    lib.digitValue c =
      if c.isDigit then some (c.toNat - '0'.toNat) else none
  lower : forall s, IsAscii s -> lib.lower s = s.map Char.toLower
  checkNetloc : forall s, IsAscii s -> lib.checkNetloc s = .ok ()

theorem asciiLibrary_followsAscii : asciiLibrary.FollowsAscii where
  digitValue := fun _ _ => rfl
  lower := fun _ _ => rfl
  checkNetloc := fun _ _ => rfl

/-- A property of the characters of ASCII is checked one by one. -/
theorem forall_ascii {P : Char -> Prop}
    (h : forall n, n < 128 -> P (Char.ofNat n)) {c : Char}
    (hc : c.toNat < 128) : P c := by
  have hP := h c.toNat hc
  rw [Char.ofNat_toNat] at hP
  exact hP

/-!
# Host names
-/

section Hosts

variable {lib : UrlLibrary} {host : HostName}

def isHostChar (c : Char) : Bool :=
  isLabelChar c || c = '.'

theorem toNat_lt_of_le {c : Char} {high : UInt32} (h : c.val ≤ high)
    (hhigh : high.toNat < 128) : c.toNat < 128 :=
  Nat.lt_of_le_of_lt (UInt32.le_iff_toNat_le.mp h) hhigh

theorem isLabelChar_lt {c : Char} (h : isLabelChar c = true) :
    c.toNat < 128 := by
  rw [isLabelChar, Bool.or_eq_true, decide_eq_true_eq] at h
  rcases h with h | rfl
  · change ((c.isUpper || c.isLower) || c.isDigit) = true at h
    rw [Bool.or_eq_true, Bool.or_eq_true] at h
    rcases h with (h | h) | h
    · change decide (c.val ≥ 'A'.val ∧ c.val ≤ 'Z'.val) = true at h
      exact toNat_lt_of_le (of_decide_eq_true h).right (by decide)
    · change (decide (c.val ≥ 'a'.val) && decide (c.val ≤ 'z'.val)) = true at h
      rw [Bool.and_eq_true] at h
      exact toNat_lt_of_le (of_decide_eq_true h.right) (by decide)
    · exact Nat.lt_of_le_of_lt (Char.isDigit_iff_toNat.mp h).right (by decide)
  · decide

theorem isHostChar_lt {c : Char} (h : isHostChar c = true) :
    c.toNat < 128 := by
  rw [isHostChar, Bool.or_eq_true, decide_eq_true_eq] at h
  rcases h with h | rfl
  · exact isLabelChar_lt h
  · decide

/-- The characters that end a network location or split it are no host
characters. -/
theorem isHostChar_delimiter {c : Char}
    (hc : c ∈ "/?#[]@:%;".toList) : isHostChar c = false := by
  have hall : "/?#[]@:%;".toList.all (fun c => !isHostChar c) = true := by
    decide
  rw [← Bool.not_eq_true']
  exact List.all_eq_true.mp hall c hc

theorem toLower_lt {c : Char} (hc : c.toNat < 128) : c.toLower.toNat < 128 :=
  forall_ascii (P := fun c => c.toLower.toNat < 128) (by decide) hc

theorem toLower_toLower {c : Char} (hc : c.toNat < 128) :
    c.toLower.toLower = c.toLower :=
  forall_ascii (P := fun c => c.toLower.toLower = c.toLower) (by decide) hc

theorem toLower_ne_dot {c : Char} (h : isLabelChar c = true) :
    c.toLower ≠ '.' :=
  forall_ascii (P := fun c => isLabelChar c = true -> c.toLower ≠ '.')
    (by decide) (isLabelChar_lt h) h

theorem splitOn_dot_suffix (front : List Char) :
    (front ++ ".hh.ru".toList).splitOn '.' =
      front.splitOn '.' ++ ["hh".toList, "ru".toList] := by
  have hsplit : (front ++ '.' :: "hh.ru".toList).splitOn '.' =
      front.splitOn '.' ++ ("hh.ru".toList).splitOn '.' :=
    List.splitOn_append_cons_self front _
  exact hsplit

/-- The test on the text of a host is one on its labels. -/
theorem isHhHost_intercalate {labels : List (List Char)}
    (h : forall label, label ∈ labels -> '.' ∉ label) :
    isHhHost (['.'].intercalate labels) =
      decide (["hh".toList, "ru".toList] <:+ labels) := by
  cases labels with
  | nil => rfl
  | cons label rest =>
      have hsplit : (['.'].intercalate (label :: rest)).splitOn '.' =
          label :: rest :=
        List.splitOn_intercalate '.' h (List.cons_ne_nil _ _)
      rw [Bool.eq_iff_iff, isHhHost, Bool.or_eq_true, decide_eq_true_eq,
        decide_eq_true_eq, List.isSuffixOf_iff_suffix]
      constructor
      · intro hhost
        rcases hhost with heq | ⟨front, hfront⟩
        · rw [← hsplit, heq]
          decide
        · rw [← hsplit, ← hfront, splitOn_dot_suffix]
          exact List.suffix_append _ _
      · intro hsuffix
        rcases hsuffix with ⟨front, hfront⟩
        cases front with
        | nil =>
            rw [← hfront]
            exact Or.inl rfl
        | cons first front =>
            right
            have hfirst : (['.'].intercalate (first :: front)).splitOn '.' =
                first :: front := by
              apply List.splitOn_intercalate '.' _ (List.cons_ne_nil _ _)
              intro l hl
              apply h
              rw [← hfront]
              exact List.mem_append_left _ hl
            have hlast : (['.'].intercalate (first :: front) ++
                ".hh.ru".toList).splitOn '.' = label :: rest := by
              rw [splitOn_dot_suffix, hfirst, hfront]
            rw [← hlast, List.intercalate_splitOn]
            exact List.suffix_append _ _

theorem map_intercalate (f : Char -> Char) (labels : List (List Char)) :
    (['.'].intercalate labels).map f =
      [f '.'].intercalate (labels.map (List.map f)) := by
  induction labels with
  | nil => rfl
  | cons label rest ih =>
      cases rest with
      | nil => simp
      | cons label' rest =>
          rw [List.map_cons] at ih
          simp only [List.intercalate_cons_cons, List.map_append, List.map_cons,
            List.map_nil, ih]

theorem HostName.text_chars (host : HostName) :
    forall c, c ∈ host.text -> isHostChar c = true := by
  have hlabels : forall label, label ∈ host.labels ->
      forall c, c ∈ label -> isHostChar c = true := by
    intro label hlabel c hc
    rw [isHostChar, host.label_chars label hlabel c hc]
    rfl
  unfold HostName.text
  generalize host.labels = labels at hlabels
  induction labels with
  | nil => exact fun c hc => by cases hc
  | cons label rest ih =>
      have hrest := ih fun l hl => hlabels l (List.mem_cons_of_mem _ hl)
      cases rest with
      | nil => simpa using hlabels label List.mem_cons_self
      | cons label' rest =>
          intro c hc
          rw [List.intercalate_cons_cons, List.mem_append, List.mem_append,
            List.mem_singleton] at hc
          rcases hc with (hc | rfl) | hc
          · exact hlabels label List.mem_cons_self c hc
          · decide
          · exact hrest c hc

theorem HostName.text_ascii (host : HostName) : IsAscii host.text :=
  fun c hc => isHostChar_lt (host.text_chars c hc)

theorem HostName.not_mem_text (host : HostName) {c : Char}
    (hc : c ∈ "/?#[]@:%;".toList) : c ∉ host.text := by
  intro hmem
  have hhost := host.text_chars c hmem
  rw [isHostChar_delimiter hc] at hhost
  cases hhost

theorem HostName.isHhHost_text (host : HostName) :
    isHhHost (host.text.map Char.toLower) = host.isHh := by
  rw [HostName.text, map_intercalate]
  apply isHhHost_intercalate
  intro label hlabel
  rcases List.mem_map.mp hlabel with ⟨l, hl, rfl⟩
  intro hdot
  rcases List.mem_map.mp hdot with ⟨c, hc, heq⟩
  exact toLower_ne_dot (host.label_chars l hl c hc) heq

end Hosts

/-!
# Parts of a vacancy link
-/

section Parts

variable {lib : UrlLibrary} {link : VacancyLink} {rest : List Char}

/-- What may be left of the query and the fragment. -/
def TailLeft (rest : List Char) : Prop :=
  forall c, rest.head? = some c -> c = '?' ∨ c = '#'

theorem afterScheme_text (scheme : Scheme) (xs : List Char) :
    afterScheme (scheme.text ++ xs) = xs := by
  cases scheme <;> rfl

theorem VacancyLink.digit_lt {c : Char} (hc : c ∈ link.digits) :
    c.toNat < 128 := by
  apply isLabelChar_lt
  simp [isLabelChar, Char.isAlphanum, link.digits_chars c hc]

theorem VacancyLink.not_mem_path {c : Char} (hc : c ∈ "?#;".toList) :
    c ∉ link.path := by
  have hall : "?#;".toList.all (fun c => decide
      (c ∉ "/vacancy/".toList ∧ c ≠ '/' ∧ c.isDigit = false)) = true := by
    decide
  have hdelimiter := of_decide_eq_true (List.all_eq_true.mp hall c hc)
  unfold VacancyLink.path
  rw [List.mem_append, List.mem_append]
  intro hmem
  rcases hmem with (h | h) | h
  · exact hdelimiter.left h
  · have hdigit := link.digits_chars c h
    rw [hdelimiter.right.right] at hdigit
    cases hdigit
  · split at h
    · exact hdelimiter.right.left (List.mem_singleton.mp h)
    · cases h

theorem netlocOf_link (link : VacancyLink) (rest : List Char) :
    netlocOf (link.scheme.text ++ link.host.text ++ link.path ++ rest) =
      link.host.text := by
  rw [netlocOf, List.append_assoc, List.append_assoc, afterScheme_text]
  apply takeWhile_append_stops
  · intro c hc
    have hall : ['/', '?', '#'].all (fun d => decide
        (d ∈ "/?#[]@:%;".toList)) = true := by
      decide
    rw [decide_eq_true_eq]
    intro hmem
    exact link.host.not_mem_text
      (of_decide_eq_true (List.all_eq_true.mp hall c hmem)) hc
  · exact stops_cons (by decide)

theorem dropParams_of_not_mem {path : List Char} (h : ';' ∉ path) :
    dropParams path = path := by
  have hlast : (path.reverse.takeWhile fun c => decide (c ≠ '/')).reverse <:+
      path := by
    rw [← List.reverse_prefix, List.reverse_reverse]
    exact List.takeWhile_prefix _
  rcases hlast with ⟨front, hfront⟩
  have hparams : ((path.reverse.takeWhile fun c => decide (c ≠ '/')).reverse
      ).takeWhile (fun c => decide (c ≠ ';')) =
      (path.reverse.takeWhile fun c => decide (c ≠ '/')).reverse := by
    rw [List.takeWhile_eq_self_iff]
    intro c hc
    rw [decide_eq_true_eq]
    intro heq
    subst heq
    exact h (hfront ▸ List.mem_append_right _ hc)
  simp only [dropParams]
  rw [hparams]
  generalize (path.reverse.takeWhile fun c => decide (c ≠ '/')).reverse = last
    at hfront
  rw [← hfront, List.length_append, Nat.add_sub_cancel, List.take_left']
  rfl

theorem pathOf_link (hrest : TailLeft rest) :
    pathOf (link.scheme.text ++ link.host.text ++ link.path ++ rest) =
      link.path := by
  have hafter : afterScheme
      (link.scheme.text ++ link.host.text ++ link.path ++ rest) =
      link.host.text ++ (link.path ++ rest) := by
    rw [List.append_assoc, List.append_assoc, afterScheme_text]
  have hpath : forall d, d ∈ "?#;".toList ->
      forall c, c ∈ link.path -> decide (c ≠ d) = true := by
    intro d hd c hc
    rw [decide_eq_true_eq]
    intro heq
    subst heq
    exact VacancyLink.not_mem_path hd hc
  have hquery : Stops (fun c => decide (c ≠ '?'))
      (rest.takeWhile fun c => decide (c ≠ '#')) := by
    cases rest with
    | nil => exact stops_nil
    | cons c rest =>
        rcases hrest c rfl with rfl | rfl
        · exact stops_cons (by decide)
        · exact stops_nil
  rw [pathOf, netlocOf_link, hafter, List.drop_left,
    List.takeWhile_append_of_pos (hpath '#' (by decide)),
    takeWhile_append_stops (hpath '?' (by decide)) hquery]
  exact dropParams_of_not_mem (VacancyLink.not_mem_path (by decide))

theorem takeWhile_ne_of_not_mem {xs : List Char} {d : Char} (h : d ∉ xs) :
    xs.takeWhile (fun c => decide (c ≠ d)) = xs := by
  rw [List.takeWhile_eq_self_iff]
  intro c hc
  rw [decide_eq_true_eq]
  intro heq
  subst heq
  exact h hc

theorem hostname_text (hlib : lib.FollowsAscii) (host : HostName) :
    hostname lib host.text =
      if host.text = [] then none else some (host.text.map Char.toLower) := by
  have hinfo : (host.text.reverse.takeWhile fun c => decide (c ≠ '@')).reverse =
      host.text := by
    rw [takeWhile_ne_of_not_mem, List.reverse_reverse]
    rw [List.mem_reverse]
    exact host.not_mem_text (by decide)
  have hport := takeWhile_ne_of_not_mem (host.not_mem_text
    (by decide : ':' ∈ "/?#[]@:%;".toList))
  have hname := takeWhile_ne_of_not_mem (host.not_mem_text
    (by decide : '%' ∈ "/?#[]@:%;".toList))
  have hzone : host.text.dropWhile (fun c => decide (c ≠ '%')) = [] := by
    rw [List.dropWhile_eq_nil_iff, ← List.takeWhile_eq_self_iff]
    exact hname
  simp only [hostname]
  rw [hinfo, if_neg (host.not_mem_text (by decide)), hport, hname, hzone,
    List.append_nil, hlib.lower _ host.text_ascii]

theorem hostOf_link (hlib : lib.FollowsAscii) (link : VacancyLink)
    (rest : List Char) :
    hostOf lib (link.scheme.text ++ link.host.text ++ link.path ++ rest) =
      link.host.text.map Char.toLower := by
  have hlower : lib.lower (link.host.text.map Char.toLower) =
      link.host.text.map Char.toLower := by
    rw [hlib.lower]
    · rw [List.map_map]
      apply List.map_congr_left
      intro c hc
      exact toLower_toLower (link.host.text_ascii c hc)
    · intro c hc
      rcases List.mem_map.mp hc with ⟨b, hb, rfl⟩
      exact toLower_lt (link.host.text_ascii b hb)
  rw [hostOf, netlocOf_link, hostname_text hlib]
  split
  · rename_i hempty
    rw [hempty]
    rfl
  · rw [Option.map_some, hlower]
    rfl

theorem digitValue_digit (hlib : lib.FollowsAscii) {c : Char}
    (hc : c ∈ link.digits) :
    lib.digitValue c = some (c.toNat - '0'.toNat) := by
  rw [hlib.digitValue c (VacancyLink.digit_lt hc), if_pos]
  exact link.digits_chars c hc

theorem matchVacancyPath_path (hlib : lib.FollowsAscii) :
    matchVacancyPath lib link.path = some link.digitValues := by
  have hpath : link.path = "/vacancy/".toList ++
      (link.digits ++ if link.slash then ['/'] else []) :=
    List.append_assoc _ _ _
  have hprefix : "/vacancy/".toList.isPrefixOf link.path = true := by
    rw [List.isPrefixOf_iff_prefix, hpath]
    exact List.prefix_append "/vacancy/".toList _
  have hdrop : link.path.drop "/vacancy/".length =
      link.digits ++ if link.slash then ['/'] else [] := by
    rw [hpath]
    exact List.drop_left' String.length_toList
  have hstops : Stops (fun c => (lib.digitValue c).isSome)
      (if link.slash then ['/'] else []) := by
    split
    · apply stops_cons
      rw [hlib.digitValue '/' (by decide)]
      rfl
    · exact stops_nil
  have hdigits : (link.digits ++ if link.slash then ['/'] else []).takeWhile
      (fun c => (lib.digitValue c).isSome) = link.digits := by
    apply takeWhile_append_stops _ hstops
    intro c hc
    rw [digitValue_digit hlib hc]
    rfl
  have htail : (if link.slash then ['/'] else []) = [] ∨
      (if link.slash then ['/'] else []) = ['/'] := by
    split
    · exact Or.inr rfl
    · exact Or.inl rfl
  have hvalues : link.digits.filterMap lib.digitValue = link.digitValues := by
    rw [VacancyLink.digitValues, ← List.filterMap_eq_map]
    apply List.filterMap_congr
    intro c hc
    exact digitValue_digit hlib hc
  simp only [matchVacancyPath]
  rw [if_pos hprefix, hdrop, hdigits, List.drop_left, hvalues,
    if_pos ⟨link.digits_ne_nil, htail⟩]

theorem numberOf_digitValues : numberOf link.digitValues = link.number := by
  rw [numberOf, VacancyLink.number, Nat.ofDigits_eq_foldr, List.foldr_reverse]
  congr
  funext n d
  exact Nat.add_comm _ _

theorem vacancyDigits_link (hlib : lib.FollowsAscii) (hrest : TailLeft rest) :
    vacancyDigits lib
        (link.scheme.text ++ link.host.text ++ link.path ++ rest) =
      if link.host.isHh then some link.digitValues else none := by
  rw [vacancyDigits, hostOf_link hlib, pathOf_link hrest,
    link.host.isHhHost_text, matchVacancyPath_path hlib]

theorem linkParses_link (hlib : lib.FollowsAscii) (hrest : TailLeft rest) :
    LinkParses lib
      (link.scheme.text ++ link.host.text ++ link.path ++ rest) := by
  have hopen : '[' ∉ link.host.text := link.host.not_mem_text (by decide)
  have hclose : ']' ∉ link.host.text := link.host.not_mem_text (by decide)
  constructor
  · rw [netlocOf_link]
    exact ⟨iff_of_false hopen hclose, fun h => (hopen h).elim,
      hlib.checkNetloc _ link.host.text_ascii⟩
  · intro ds hds
    rw [vacancyDigits_link hlib hrest] at hds
    split at hds
    · cases hds
      rw [VacancyLink.digitValues, List.length_map]
      exact link.digits_length
    · cases hds

end Parts

/-!
# The scan for links
-/

section Search

variable {text xs ys : List Char}

theorem findUrls_drop (skip : Nat) (text : List Char) :
    findUrls skip text = findUrls 0 (text.drop skip) := by
  induction text generalizing skip with
  | nil => cases skip <;> rfl
  | cons c text ih =>
      cases skip with
      | zero => rfl
      | succ skip => exact ih skip

theorem findUrls_of_match {c : Char} {url : List Char}
    (h : matchUrl (c :: text) = some url) (hurl : url ≠ []) :
    findUrls 0 (c :: text) =
      url :: findUrls 0 ((c :: text).drop url.length) := by
  rw [findUrls, h]
  cases url with
  | nil => exact (hurl rfl).elim
  | cons d url =>
      simp only [List.length_cons, Nat.add_sub_cancel, List.drop_succ_cons]
      rw [findUrls_drop]

/-- The scan goes over a part of the text in which no link starts. -/
theorem findUrls_append
    (h : forall front back, xs = front ++ back -> back ≠ [] ->
      schemeLength (back ++ ys) = none) :
    findUrls 0 (xs ++ ys) = findUrls 0 ys := by
  induction xs with
  | nil => rfl
  | cons c xs ih =>
      have hnone : matchUrl (c :: (xs ++ ys)) = none := by
        have hscheme := h [] (c :: xs) rfl (List.cons_ne_nil _ _)
        rw [List.cons_append] at hscheme
        rw [matchUrl, hscheme]
      rw [List.cons_append, findUrls, hnone]
      apply ih
      intro front back heq hback
      exact h (c :: front) back (by rw [heq, List.cons_append]) hback

theorem schemeLength_eq_none (h : forall scheme : Scheme,
    ¬ scheme.text <+: text) : schemeLength text = none := by
  have hhttps : ¬ "https://".toList.isPrefixOf text = true := by
    rw [List.isPrefixOf_iff_prefix]
    exact h .https
  have hhttp : ¬ "http://".toList.isPrefixOf text = true := by
    rw [List.isPrefixOf_iff_prefix]
    exact h .http
  rw [schemeLength, if_neg hhttps, if_neg hhttp]

theorem schemeLength_text (scheme : Scheme) (xs : List Char) :
    schemeLength (scheme.text ++ xs) = some scheme.text.length := by
  cases scheme with
  | http => rfl
  | https => rfl

theorem schemeLength_cons_of_ne {c : Char} (h : c ≠ 'h') :
    schemeLength (c :: text) = none := by
  apply schemeLength_eq_none
  intro scheme
  cases scheme <;>
    exact fun hprefix => h ((List.cons_prefix_cons.mp hprefix).left).symm

theorem findUrls_append_of_ne (h : forall c, c ∈ xs -> c ≠ 'h') :
    findUrls 0 (xs ++ ys) = findUrls 0 ys := by
  apply findUrls_append
  intro front back heq hback
  cases back with
  | nil => exact (hback rfl).elim
  | cons c back =>
      apply schemeLength_cons_of_ne
      apply h
      rw [heq]
      exact List.mem_append_right _ List.mem_cons_self

/-- What follows a word: a space, or the end of the text. -/
def EndsWord (ys : List Char) : Prop :=
  Stops (fun c => !isSpace c) ys

theorem findUrls_plain (hfree : forall scheme : Scheme,
      ¬ scheme.text <:+: xs) (hys : EndsWord ys) :
    findUrls 0 (xs ++ ys) = findUrls 0 ys := by
  apply findUrls_append
  intro front back heq hback
  apply schemeLength_eq_none
  intro scheme hprefix
  rcases List.prefix_or_prefix_of_prefix hprefix (List.prefix_append back ys)
    with hshort | ⟨more, hmore⟩
  · apply hfree scheme
    rw [heq]
    exact hshort.isInfix.trans (List.suffix_append front back).isInfix
  · rw [← hmore, List.prefix_append_right_inj] at hprefix
    cases more with
    | nil =>
        apply hfree scheme
        rw [heq, ← hmore, List.append_nil]
        exact (List.suffix_append front back).isInfix
    | cons c more =>
        have hunspaced : scheme.text.all (fun d => !isSpace d) = true := by
          cases scheme <;> decide
        have hmem : c ∈ scheme.text := by
          rw [← hmore]
          exact List.mem_append_right _ List.mem_cons_self
        have hc : isSpace c = false := by
          rw [← Bool.not_eq_true']
          exact List.all_eq_true.mp hunspaced c hmem
        cases ys with
        | nil => cases List.prefix_nil.mp hprefix
        | cons d ys =>
            have hspace := hys d rfl
            rw [← (List.cons_prefix_cons.mp hprefix).left] at hspace
            change (!isSpace c) = false at hspace
            rw [hc] at hspace
            cases hspace

theorem isUrlChar_of_isHostChar {c : Char} (h : isHostChar c = true) :
    isUrlChar c = true :=
  forall_ascii (P := fun c => isHostChar c = true -> isUrlChar c = true)
    (by decide) (isHostChar_lt h) h

theorem isTrailing_ne {c : Char} (h : isTrailing c = true) : c ≠ 'h' := by
  intro heq
  subst heq
  revert h
  decide

theorem not_isTrailing_of_isDigit {c : Char} (h : c.isDigit = true) :
    isTrailing c = false := by
  have hall : ".,;:!?)]\x7d".toList.all (fun d => !d.isDigit) = true := by
    decide
  rw [isTrailing, decide_eq_false_iff_not]
  intro hmem
  have hnot := List.all_eq_true.mp hall c hmem
  rw [h] at hnot
  cases hnot

namespace VacancyLink

variable {link : VacancyLink} {trailing : List Char}

theorem path_chars (link : VacancyLink) :
    forall c, c ∈ link.path -> isUrlChar c = true := by
  intro c hc
  unfold path at hc
  rw [List.mem_append, List.mem_append] at hc
  rcases hc with (hc | hc) | hc
  · have hall : "/vacancy/".toList.all isUrlChar = true := by decide
    exact List.all_eq_true.mp hall c hc
  · apply isUrlChar_of_isHostChar
    simp [isHostChar, isLabelChar, Char.isAlphanum, link.digits_chars c hc]
  · split at hc
    · cases List.mem_singleton.mp hc
      decide
    · cases hc

theorem tail_chars (link : VacancyLink) :
    forall c, c ∈ link.tail -> isUrlChar c = true := by
  intro c hc
  rw [tail, List.mem_append] at hc
  rcases hc with hc | hc
  · cases hquery : link.query with
    | none =>
        rw [hquery] at hc
        cases hc
    | some q =>
        rw [hquery] at hc
        rcases List.mem_cons.mp hc with rfl | hc
        · decide
        · exact (link.query_chars q hquery c hc).left
  · cases hfragment : link.fragment with
    | none =>
        rw [hfragment] at hc
        cases hc
    | some f =>
        rw [hfragment] at hc
        rcases List.mem_cons.mp hc with rfl | hc
        · decide
        · exact link.fragment_chars f hfragment c hc

theorem tailLeft_tail (link : VacancyLink) : TailLeft link.tail := by
  intro c hc
  rw [tail] at hc
  cases hquery : link.query with
  | some q =>
      rw [hquery] at hc
      cases hc
      exact Or.inl rfl
  | none =>
      rw [hquery] at hc
      cases hfragment : link.fragment with
      | none =>
          rw [hfragment] at hc
          cases hc
      | some f =>
          rw [hfragment] at hc
          cases hc
          exact Or.inr rfl

theorem path_of_slash (h : link.slash = true) :
    link.path = "/vacancy/".toList ++ link.digits ++ ['/'] := by
  unfold path
  rw [if_pos h]

theorem path_of_not_slash (h : link.slash = false) :
    link.path = "/vacancy/".toList ++ link.digits := by
  unfold path
  rw [h, if_neg Bool.false_ne_true, List.append_nil]

/-- The link ends, before its query, in a digit or a slash. -/
theorem exists_path_eq (link : VacancyLink) :
    exists front c, link.path = front ++ [c] ∧ isTrailing c = false := by
  cases hslash : link.slash with
  | true => exact ⟨_, '/', path_of_slash hslash, by decide⟩
  | false =>
      rcases List.eq_nil_or_concat' link.digits with hnil | ⟨front, c, hdigits⟩
      · exact (link.digits_ne_nil hnil).elim
      · have hmem : c ∈ link.digits := by
          rw [hdigits]
          exact List.mem_append_right _ List.mem_cons_self
        have hpath := path_of_not_slash hslash
        rw [hdigits, ← List.append_assoc] at hpath
        exact ⟨_, c, hpath, not_isTrailing_of_isDigit (link.digits_chars c hmem)⟩

/-- What the parser makes of the link: the punctuation is gone, and maybe the
end of the query or of the fragment. -/
def stripped (link : VacancyLink) : List Char :=
  link.scheme.text ++ link.host.text ++ link.path ++
    link.tail.rdropWhile isTrailing

theorem tailLeft_stripped (link : VacancyLink) :
    TailLeft (link.tail.rdropWhile isTrailing) := by
  intro c hc
  apply link.tailLeft_tail c
  rcases List.rdropWhile_prefix isTrailing link.tail with ⟨more, hmore⟩
  rw [← hmore, List.head?_append, hc]
  rfl

theorem rstripPunctuation_text
    (h : forall c, c ∈ trailing -> isTrailing c = true) :
    rstripPunctuation (link.text ++ trailing) = link.stripped := by
  rcases link.exists_path_eq with ⟨front, c, hpath, hc⟩
  have htext : link.text =
      (link.scheme.text ++ link.host.text ++ front) ++ c :: link.tail := by
    rw [text, hpath]
    simp only [List.append_assoc, List.singleton_append]
  change (link.text ++ trailing).rdropWhile isTrailing = _
  rw [rdropWhile_append_of_all h, htext, rdropWhile_append_cons hc, stripped,
    hpath]
  simp only [List.append_assoc, List.singleton_append]

/-- The link without its scheme. -/
def body (link : VacancyLink) : List Char :=
  link.host.text ++ link.path ++ link.tail

theorem text_eq (link : VacancyLink) :
    link.text = link.scheme.text ++ link.body := by
  simp only [text, body, List.append_assoc]

theorem body_chars (link : VacancyLink) :
    forall c, c ∈ link.body -> isUrlChar c = true := by
  intro c hc
  rw [body, List.mem_append, List.mem_append] at hc
  rcases hc with (hc | hc) | hc
  · exact isUrlChar_of_isHostChar (link.host.text_chars c hc)
  · exact link.path_chars c hc
  · exact link.tail_chars c hc

theorem body_ne_nil (link : VacancyLink) : link.body ≠ [] := by
  rcases link.exists_path_eq with ⟨front, c, hpath, _⟩
  simp [body, hpath]

theorem matchUrl_text (hys : EndsWord ys) :
    matchUrl (link.text ++ (trailing ++ ys)) =
      some (link.text ++ trailing.takeWhile isUrlChar) := by
  have hstops : Stops isUrlChar ys := by
    apply hys.mono
    intro c hc
    rw [Bool.not_eq_false'] at hc
    rw [isUrlChar, hc]
    rfl
  have hrest : (link.body ++ (trailing ++ ys)).takeWhile isUrlChar =
      link.body ++ trailing.takeWhile isUrlChar := by
    rw [List.takeWhile_append_of_pos link.body_chars,
      takeWhile_append_of_stops hstops]
  have hne : link.body ++ trailing.takeWhile isUrlChar ≠ [] := by
    simp [link.body_ne_nil]
  rw [text_eq, List.append_assoc, matchUrl, schemeLength_text]
  simp only [List.drop_left, List.take_left]
  rw [hrest, if_neg hne, List.append_assoc]

theorem findUrls_text (h : forall c, c ∈ trailing -> isTrailing c = true)
    (hys : EndsWord ys) :
    findUrls 0 (link.text ++ (trailing ++ ys)) =
      (link.text ++ trailing.takeWhile isUrlChar) :: findUrls 0 ys := by
  have hmatch := @matchUrl_text ys link trailing hys
  have hne : link.text ++ trailing.takeWhile isUrlChar ≠ [] := by
    rw [text_eq]
    simp [link.body_ne_nil]
  have hsplit : link.text ++ (trailing ++ ys) =
      (link.text ++ trailing.takeWhile isUrlChar) ++
        (trailing.dropWhile isUrlChar ++ ys) := by
    rw [List.append_assoc, ← List.append_assoc (trailing.takeWhile isUrlChar),
      List.takeWhile_append_dropWhile]
  have hrest : findUrls 0 (trailing.dropWhile isUrlChar ++ ys) =
      findUrls 0 ys := by
    apply findUrls_append_of_ne
    intro c hc
    exact isTrailing_ne (h c ((List.dropWhile_suffix _).subset hc))
  have hdrop : (link.text ++ (trailing ++ ys)).drop
      (link.text ++ trailing.takeWhile isUrlChar).length =
        trailing.dropWhile isUrlChar ++ ys := by
    rw [hsplit, List.drop_left]
  cases htext : link.text ++ (trailing ++ ys) with
  | nil =>
      rw [htext] at hmatch
      cases hmatch
  | cons c rest =>
      rw [htext] at hmatch hdrop
      rw [findUrls_of_match hmatch hne, hdrop, hrest]

end VacancyLink

/-- What the pattern matches of a word. -/
def Word.found : Word -> Option (List Char)
  | plain _ _ _ => none
  | link url trailing _ => some (url.text ++ trailing.takeWhile isUrlChar)

theorem isSpace_ne {c : Char} (h : isSpace c = true) : c ≠ 'h' := by
  intro heq
  subst heq
  revert h
  decide

theorem findUrls_word (word : Word) (hys : EndsWord ys) :
    findUrls 0 (word.text ++ ys) = word.found.toList ++ findUrls 0 ys := by
  cases word with
  | plain text unspaced free => exact findUrls_plain free hys
  | link url trailing punctuation =>
      rw [Word.text, List.append_assoc]
      exact VacancyLink.findUrls_text punctuation hys

theorem endsWord_spaces (h : forall c, c ∈ xs -> isSpace c = true)
    (hne : xs ≠ [] ∨ ys = []) : EndsWord (xs ++ ys) := by
  cases xs with
  | cons c xs =>
      apply stops_cons
      rw [h c List.mem_cons_self]
      rfl
  | nil =>
      rcases hne with hne | rfl
      · exact (hne rfl).elim
      · exact stops_nil

theorem findUrls_words {words : List (Word × List Char)}
    (hspaces : forall entry, entry ∈ words ->
      forall c, c ∈ entry.2 -> isSpace c = true)
    (hne : forall entry, entry ∈ words.dropLast -> entry.2 ≠ []) :
    findUrls 0 (Message.textOf words) =
      words.filterMap fun entry => entry.1.found := by
  induction words with
  | nil => rfl
  | cons entry rest ih =>
      have hgap := hspaces entry List.mem_cons_self
      have hends : EndsWord (entry.2 ++ Message.textOf rest) := by
        apply endsWord_spaces hgap
        cases rest with
        | nil => exact Or.inr rfl
        | cons next rest => exact Or.inl (hne entry List.mem_cons_self)
      have hrest : findUrls 0 (Message.textOf rest) =
          rest.filterMap fun entry => entry.1.found := by
        apply ih fun e he => hspaces e (List.mem_cons_of_mem _ he)
        intro e he
        apply hne
        cases rest with
        | nil => cases he
        | cons next rest => exact List.mem_cons_of_mem _ he
      have htext : Message.textOf (entry :: rest) =
          entry.1.text ++ (entry.2 ++ Message.textOf rest) := by
        rw [Message.textOf, List.flatMap_cons, List.append_assoc]
        rfl
      rw [htext, findUrls_word entry.1 hends,
        findUrls_append_of_ne fun c hc => isSpace_ne (hgap c hc), hrest,
        List.filterMap_cons]
      cases entry.1.found <;> rfl

theorem findUrls_message (message : Message) :
    findUrls 0 message.text.toList =
      message.words.filterMap fun entry => entry.1.found := by
  rw [Message.text, String.toList_ofList, findUrls_append_of_ne
    fun c hc => isSpace_ne (message.lead_spaces c hc)]
  exact findUrls_words message.gap_spaces message.gap_ne_nil

end Search

/-!
# Outcomes of messages
-/

section Outcomes

variable {lib : UrlLibrary}

theorem rstripPunctuation_found (url : VacancyLink) {trailing : List Char}
    (h : forall c, c ∈ trailing -> isTrailing c = true) :
    rstripPunctuation (url.text ++ trailing.takeWhile isUrlChar) =
      url.stripped := by
  apply VacancyLink.rstripPunctuation_text
  intro c hc
  exact h c ((List.takeWhile_prefix _).subset hc)

theorem linkParses_found (hlib : lib.FollowsAscii) {word : Word}
    {found : List Char} (h : word.found = some found) :
    LinkParses lib (rstripPunctuation found) := by
  cases word with
  | plain text unspaced free => cases h
  | link url trailing punctuation =>
      cases h
      rw [rstripPunctuation_found url punctuation]
      exact linkParses_link hlib url.tailLeft_stripped

theorem number_found (hlib : lib.FollowsAscii) (word : Word) :
    (word.found.bind fun found =>
      (vacancyDigits lib (rstripPunctuation found)).map numberOf) =
        word.number := by
  cases word with
  | plain text unspaced free => rfl
  | link url trailing punctuation =>
      rw [Word.found, Option.bind_some, rstripPunctuation_found url punctuation,
        VacancyLink.stripped, vacancyDigits_link hlib url.tailLeft_stripped,
        Word.number]
      split
      · rw [Option.map_some, numberOf_digitValues]
      · rfl

theorem vacancyIds_message (hlib : lib.FollowsAscii) (message : Message) :
    vacancyIds lib (findUrls 0 message.text.toList) =
      .ok (message.numbers.map fun n : Nat => (n : Int)) := by
  have hparses : forall rawUrl, rawUrl ∈ findUrls 0 message.text.toList ->
      LinkParses lib (rstripPunctuation rawUrl) := by
    intro rawUrl hmem
    rw [findUrls_message, List.mem_filterMap] at hmem
    rcases hmem with ⟨entry, _, hfound⟩
    exact linkParses_found hlib hfound
  have hnumbers : (vacancyNumbers lib ((findUrls 0 message.text.toList).map
      rstripPunctuation)).map numberOf = message.numbers := by
    rw [findUrls_message, vacancyNumbers, List.filterMap_map,
      List.map_filterMap, List.filterMap_filterMap, Message.numbers]
    apply List.filterMap_congr
    intro entry _
    exact number_found hlib entry.1
  rw [vacancyIds_of_parses hparses, ← hnumbers, List.map_map]
  rfl

/-- The number of links to hh.ru decides the outcome, whatever the order of the
words and the words that hold no link. -/
theorem parser_follows_message_grammar (hlib : lib.FollowsAscii)
    (message : Message) :
    (forall n, message.numbers = [n] ->
        parseHhVacancyId lib message.text = .ok n) ∧
      (2 ≤ message.numbers.length ->
        parseHhVacancyId lib message.text = .error .multipleVacancyUrls) ∧
      (message.numbers = [] ->
        parseHhVacancyId lib message.text = .error .invalidVacancyUrl) := by
  rw [parseHhVacancyId_eq, vacancyIds_message hlib]
  cases message.numbers with
  | nil =>
      refine ⟨fun n h => ?_, fun h => ?_, fun _ => rfl⟩
      · cases h
      · cases h
  | cons n rest =>
      cases rest with
      | nil =>
          refine ⟨fun m h => ?_, fun h => ?_, fun h => ?_⟩
          · cases h
            rfl
          · exact (Nat.not_succ_le_self 1 h).elim
          · cases h
      | cons m rest =>
          refine ⟨fun k h => ?_, fun _ => rfl, fun h => ?_⟩
          · cases h
          · cases h

end Outcomes

/-!
# A message
-/

def resumeLink : VacancyLink where
  scheme := .https
  host := {
    labels := ["SPB".toList, "hh".toList, "Ru".toList]
    label_chars := by
      have hall : ["SPB".toList, "hh".toList, "Ru".toList].all
          (fun label => label.all isLabelChar) = true := by
        decide
      intro label hlabel
      exact List.all_eq_true.mp (List.all_eq_true.mp hall label hlabel) }
  digits := "123456".toList
  slash := true
  query := some "next=http://hh.ru/vacancy/7".toList
  fragment := none
  digits_ne_nil := by decide
  digits_length := by decide
  digits_chars := List.all_eq_true.mp (by decide)
  query_chars := by
    have hall : "next=http://hh.ru/vacancy/7".toList.all (fun c =>
        decide (isUrlChar c = true ∧ c ≠ '#')) = true := by
      decide
    rintro q ⟨⟩ c hc
    exact of_decide_eq_true (List.all_eq_true.mp hall c hc)
  fragment_chars := fun _ h => by cases h

def seeWord : Word :=
  .plain "See:".toList
    (by
      have hall : "See:".toList.all (fun c => !isSpace c) = true := by decide
      intro c hc
      rw [← Bool.not_eq_true']
      exact List.all_eq_true.mp hall c hc)
    (by
      intro scheme
      cases scheme <;> decide)

def resumeMessage : Message where
  lead := []
  words := [
    (seeWord, [' ']),
    (.link resumeLink ").".toList (List.all_eq_true.mp (by decide)), [])]
  lead_spaces := fun _ h => by cases h
  gap_spaces := by
    intro entry hentry
    rcases List.mem_cons.mp hentry with rfl | hentry
    · exact List.all_eq_true.mp (by decide)
    · cases List.mem_singleton.mp hentry
      exact fun _ h => by cases h
  gap_ne_nil := by
    intro entry hentry
    cases List.mem_singleton.mp hentry
    exact List.cons_ne_nil _ _

theorem parser_follows_message_grammar_resume :
    resumeMessage.text =
        "See: https://SPB.hh.Ru/vacancy/123456/?next=http://hh.ru/vacancy/7)." ∧
      parseHhVacancyId asciiLibrary resumeMessage.text = .ok 123456 := by
  have hnumbers : resumeMessage.numbers = [123456] := by decide
  exact ⟨by decide, (parser_follows_message_grammar asciiLibrary_followsAscii
    resumeMessage).left 123456 hnumbers⟩

end CoverAI
