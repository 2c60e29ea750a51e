import CoverAI.Domain.Ports

/-!
# Parser of vacancy links

A text is searched for links, and each link is taken apart as `urlparse`
does.  Links start with one of two schemes, so only what follows the scheme is
split.
-/

namespace CoverAI

/-- What the parser needs of the standard library beyond the splitting of
strings: the value of a decimal digit, lower case, and the two checks
`urlsplit` makes of a network location. -/
structure UrlLibrary where
  digitValue : Char -> Option Nat
  lower : List Char -> List Char
  checkBracketedNetloc : List Char -> Except Exc Unit
  checkNetloc : List Char -> Except Exc Unit

/-!
# Links of a text
-/

/-- The class `[^\s<>()]`. -/
def isUrlChar (c : Char) : Bool :=
  !(isSpace c || c ∈ ['<', '>', '(', ')'])

def schemeLength (text : List Char) : Option Nat :=
  if "https://".toList.isPrefixOf text then some 8
  else if "http://".toList.isPrefixOf text then some 7
  else none

/-- A match of `https?://[^\s<>()]+` at the head of the text. -/
def matchUrl (text : List Char) : Option (List Char) :=
  match schemeLength text with
  | none => none
  | some n =>
      let rest := (text.drop n).takeWhile isUrlChar
      if rest = [] then none else some (text.take n ++ rest)

/-- `URL_PATTERN.findall`.  The number counts the characters that the last
match has taken. -/
def findUrls : Nat -> List Char -> List (List Char)
  | _, [] => []
  | skip + 1, _ :: text => findUrls skip text
  | 0, c :: text =>
      match matchUrl (c :: text) with
      | none => findUrls 0 text
      | some url => url :: findUrls (url.length - 1) text

def rstripPunctuation (url : List Char) : List Char :=
  (url.reverse.dropWhile fun c => c ∈ ".,;:!?)]\x7d".toList).reverse

/-!
# Parts of a link
-/

structure ParsedUrl where
  netloc : List Char
  path : List Char

/-- The parameters start at the first semicolon of the last segment. -/
def dropParams (path : List Char) : List Char :=
  let last := (path.reverse.takeWhile fun c => c ≠ '/').reverse
  path.take (path.length - last.length) ++ last.takeWhile fun c => c ≠ ';'

def urlparse (lib : UrlLibrary) (url : List Char) : Except Exc ParsedUrl := do
  let rest := (url.dropWhile fun c => c ≠ ':').drop 3
  let netloc := rest.takeWhile fun c => c ∉ ['/', '?', '#']
  if decide ('[' ∈ netloc) != decide (']' ∈ netloc) then
    .error (.valueError "Invalid IPv6 URL")
  else do
    let () ←
      if '[' ∈ netloc then lib.checkBracketedNetloc netloc else .ok ()
    let () ← lib.checkNetloc netloc
    let noFragment := (rest.drop netloc.length).takeWhile fun c => c ≠ '#'
    let noQuery := noFragment.takeWhile fun c => c ≠ '?'
    return { netloc := netloc, path := dropParams noQuery }

/-- The zone after a percent sign keeps its case. -/
def hostname (lib : UrlLibrary) (netloc : List Char) : Option (List Char) :=
  let hostinfo := (netloc.reverse.takeWhile fun c => c ≠ '@').reverse
  let host :=
    if '[' ∈ hostinfo then
      ((hostinfo.dropWhile fun c => c ≠ '[').drop 1).takeWhile fun c => c ≠ ']'
    else hostinfo.takeWhile fun c => c ≠ ':'
  if host = [] then none
  else
    some (lib.lower (host.takeWhile fun c => c ≠ '%') ++
      host.dropWhile fun c => c ≠ '%')

def isHhHost (host : List Char) : Bool :=
  host = "hh.ru".toList || ".hh.ru".toList.isSuffixOf host

/-- The digits of a full match of `/vacancy/(\d+)/?`. -/
def matchVacancyPath (lib : UrlLibrary) (path : List Char) :
    Option (List Nat) :=
  if "/vacancy/".toList.isPrefixOf path then
    let rest := path.drop "/vacancy/".length
    let digits := rest.takeWhile fun c => (lib.digitValue c).isSome
    let tail := rest.drop digits.length
    if digits ≠ [] ∧ (tail = [] ∨ tail = ['/']) then
      some (digits.filterMap lib.digitValue)
    else none
  else none

/-- `int` refuses a text of more than 4300 digits. -/
def intOfDigits (digits : List Nat) : Except Exc Int :=
  if 4300 < digits.length then
    .error (.valueError ("Exceeds the limit (4300 digits) for integer string " ++
      "conversion: value has " ++ toString digits.length ++
      " digits; use sys.set_int_max_str_digits() to increase the limit"))
  else .ok (Int.ofNat (digits.foldl (fun n d => 10 * n + d) 0))

/-!
# Vacancy ids
-/

/-- The id of one link, if it leads to a vacancy of hh.ru. -/
def vacancyIdOf (lib : UrlLibrary) (rawUrl : List Char) :
    Except Exc (Option Int) := do
  let parsed ← urlparse lib (rstripPunctuation rawUrl)
  let host := ((hostname lib parsed.netloc).map lib.lower).getD []
  if isHhHost host = false then return none
  else
    match matchVacancyPath lib parsed.path with
    | none => return none
    | some digits => do
        let id ← intOfDigits digits
        return some id

def vacancyIds (lib : UrlLibrary) : List (List Char) -> Except Exc (List Int)
  | [] => return []
  | rawUrl :: urls => do
      let id ← vacancyIdOf lib rawUrl
      let ids ← vacancyIds lib urls
      return id.toList ++ ids

def parseHhVacancyId (lib : UrlLibrary) (messageText : String) :
    Except Exc Int := do
  let ids ← vacancyIds lib (findUrls 0 messageText.toList)
  match ids with
  | [] => .error .invalidVacancyUrl
  | [id] => return id
  | _ :: _ :: _ => .error .multipleVacancyUrls

/-!
# Ids are not negative
-/

section Ids

variable {lib : UrlLibrary}

theorem intOfDigits_nonneg {digits : List Nat} {id : Int}
    (h : intOfDigits digits = .ok id) : 0 ≤ id := by
  unfold intOfDigits at h
  split at h
  · cases h
  · cases h
    exact Int.natCast_nonneg _

theorem vacancyIdOf_nonneg {rawUrl : List Char} {id : Int}
    (h : vacancyIdOf lib rawUrl = .ok (some id)) : 0 ≤ id := by
  unfold vacancyIdOf at h
  cases hparsed : urlparse lib (rstripPunctuation rawUrl) with
  | error e =>
      rw [hparsed] at h
      cases h
  | ok parsed =>
      rw [hparsed] at h
      simp only [Bind.bind, Except.bind, Pure.pure, Except.pure] at h
      split at h
      · cases h
      · cases hpath : matchVacancyPath lib parsed.path with
        | none =>
            rw [hpath] at h
            cases h
        | some digits =>
            cases hint : intOfDigits digits with
            | error e =>
                simp only [hpath, hint] at h
                cases h
            | ok n =>
                simp only [hpath, hint] at h
                cases h
                exact intOfDigits_nonneg hint

theorem vacancyIds_nonneg {urls : List (List Char)} {ids : List Int}
    (h : vacancyIds lib urls = .ok ids) : forall id, id ∈ ids -> 0 ≤ id := by
  induction urls generalizing ids with
  | nil =>
      cases h
      exact fun _ hid => nomatch hid
  | cons rawUrl urls ih =>
      rw [vacancyIds] at h
      cases hfirst : vacancyIdOf lib rawUrl with
      | error e =>
          rw [hfirst] at h
          cases h
      | ok found =>
          rw [hfirst] at h
          cases hrest : vacancyIds lib urls with
          | error e =>
              rw [hrest] at h
              cases h
          | ok more =>
              rw [hrest] at h
              cases h
              intro id hid
              rcases List.mem_append.mp hid with hnew | hold
              · rw [Option.mem_toList] at hnew
                cases hnew
                exact vacancyIdOf_nonneg hfirst
              · exact ih hrest id hold

theorem parseHhVacancyId_nonneg {messageText : String} {hhId : Int}
    (h : parseHhVacancyId lib messageText = .ok hhId) : 0 ≤ hhId := by
  unfold parseHhVacancyId at h
  cases hids : vacancyIds lib (findUrls 0 messageText.toList) with
  | error e =>
      rw [hids] at h
      cases h
  | ok ids =>
      rw [hids] at h
      simp only [Bind.bind, Except.bind] at h
      split at h
      · cases h
      · cases h
        exact vacancyIds_nonneg hids hhId (List.mem_singleton.mpr rfl)
      · cases h

end Ids
end CoverAI
