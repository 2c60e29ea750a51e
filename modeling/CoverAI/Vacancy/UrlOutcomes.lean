import Mathlib.Algebra.Ring.Nat
import Mathlib.Algebra.Ring.Int.Defs
import CoverAI.Services.HhUrlParser

/-!
# Outcomes of the link parser

The handlers that call the parser catch its two errors.  The parts of a link
are named here, and with them the texts on which the parser keeps to these
errors and to ids that fit the column.
-/

namespace CoverAI

/-!
# Parts of a link
-/

def afterScheme (url : List Char) : List Char :=
  (url.dropWhile fun c => c ≠ ':').drop 3

def netlocOf (url : List Char) : List Char :=
  (afterScheme url).takeWhile fun c => c ∉ ['/', '?', '#']

def pathOf (url : List Char) : List Char :=
  dropParams
    ((((afterScheme url).drop (netlocOf url).length).takeWhile
      fun c => c ≠ '#').takeWhile fun c => c ≠ '?')

def hostOf (lib : UrlLibrary) (url : List Char) : List Char :=
  ((hostname lib (netlocOf url)).map lib.lower).getD []

/-- The digits of the id, if the link leads to a vacancy of hh.ru. -/
def vacancyDigits (lib : UrlLibrary) (url : List Char) : Option (List Nat) :=
  if isHhHost (hostOf lib url) then matchVacancyPath lib (pathOf url) else none

def numberOf (digits : List Nat) : Nat :=
  digits.foldl (fun n d => 10 * n + d) 0

/-- The links of a text, without the punctuation that follows them. -/
def linksOf (messageText : String) : List (List Char) :=
  (findUrls 0 messageText.toList).map rstripPunctuation

/-- The standard library accepts the network location. -/
structure SplitsNetloc (lib : UrlLibrary) (netloc : List Char) : Prop where
  brackets : '[' ∈ netloc <-> ']' ∈ netloc
  bracketed : '[' ∈ netloc -> lib.checkBracketedNetloc netloc = .ok ()
  checked : lib.checkNetloc netloc = .ok ()

/-- The checks of the standard library raise nothing but `ValueError`. -/
structure UrlLibrary.RaisesValueErrors (lib : UrlLibrary) : Prop where
  bracketed : forall netloc e, lib.checkBracketedNetloc netloc = .error e ->
    exists message, e = .valueError message
  checked : forall netloc e, lib.checkNetloc netloc = .error e ->
    exists message, e = .valueError message

def asciiLibrary : UrlLibrary where
  digitValue := fun c => if c.isDigit then some (c.toNat - '0'.toNat) else none
  lower := List.map Char.toLower
  checkBracketedNetloc := fun _ => .ok ()
  checkNetloc := fun _ => .ok ()

section Links

variable {lib : UrlLibrary} {url : List Char}

theorem urlparse_eq : urlparse lib url =
    if decide ('[' ∈ netlocOf url) != decide (']' ∈ netlocOf url) then
      .error (.valueError "Invalid IPv6 URL")
    else if '[' ∈ netlocOf url then
      (lib.checkBracketedNetloc (netlocOf url)).bind fun _ =>
        (lib.checkNetloc (netlocOf url)).bind fun _ =>
          .ok { netloc := netlocOf url, path := pathOf url }
    else
      (lib.checkNetloc (netlocOf url)).bind fun _ =>
        .ok { netloc := netlocOf url, path := pathOf url } :=
  rfl

theorem urlparse_of_splits (h : SplitsNetloc lib (netlocOf url)) :
    urlparse lib url = .ok { netloc := netlocOf url, path := pathOf url } := by
  have hbrackets : (decide ('[' ∈ netlocOf url) !=
      decide (']' ∈ netlocOf url)) = false := by
    rw [bne_eq_false_iff_eq, decide_eq_decide]
    exact h.brackets
  rw [urlparse_eq, hbrackets, h.checked, if_neg (by decide)]
  split
  · rename_i hopen
    rw [h.bracketed hopen]
    rfl
  · rfl

theorem urlparse_of_not_splits (hlib : lib.RaisesValueErrors)
    (h : ¬ SplitsNetloc lib (netlocOf url)) :
    exists message, urlparse lib url = .error (.valueError message) := by
  rw [urlparse_eq]
  split
  · exact ⟨_, rfl⟩
  · rename_i hbrackets
    rw [Bool.not_eq_true, bne_eq_false_iff_eq, decide_eq_decide] at hbrackets
    cases hchecked : lib.checkNetloc (netlocOf url) with
    | ok u =>
        split
        · rename_i hopen
          cases hbracketed : lib.checkBracketedNetloc (netlocOf url) with
          | ok u' => exact (h ⟨hbrackets, fun _ => hbracketed, hchecked⟩).elim
          | error e =>
              rcases hlib.bracketed _ e hbracketed with ⟨message, rfl⟩
              exact ⟨message, rfl⟩
        · rename_i hopen
          exact (h ⟨hbrackets, fun h' => (hopen h').elim, hchecked⟩).elim
    | error e =>
        rcases hlib.checked _ e hchecked with ⟨message, rfl⟩
        split
        · cases hbracketed : lib.checkBracketedNetloc (netlocOf url) with
          | ok u' => exact ⟨message, rfl⟩
          | error e' =>
              rcases hlib.bracketed _ e' hbracketed with ⟨message', rfl⟩
              exact ⟨message', rfl⟩
        · exact ⟨message, rfl⟩

/-- The parser gets through a link. -/
structure LinkParses (lib : UrlLibrary) (url : List Char) : Prop where
  splits : SplitsNetloc lib (netlocOf url)
  digits : forall ds, vacancyDigits lib url = some ds -> ds.length ≤ 4300

theorem vacancyIdOf_of_splits {rawUrl : List Char}
    (h : SplitsNetloc lib (netlocOf (rstripPunctuation rawUrl))) :
    vacancyIdOf lib rawUrl =
      (vacancyDigits lib (rstripPunctuation rawUrl)).elim (.ok none)
        fun ds => (intOfDigits ds).map some := by
  unfold vacancyIdOf vacancyDigits
  rw [urlparse_of_splits h]
  simp only [Bind.bind, Except.bind]
  change (if isHhHost (hostOf lib (rstripPunctuation rawUrl)) = false then _
    else _) = _
  cases hhost : isHhHost (hostOf lib (rstripPunctuation rawUrl)) with
  | false => rfl
  | true =>
      cases matchVacancyPath lib (pathOf (rstripPunctuation rawUrl)) with
      | none => rfl
      | some ds =>
          simp only [Bool.true_eq_false, if_false, if_true, Option.elim_some]
          cases intOfDigits ds <;> rfl

theorem vacancyIdOf_of_parses {rawUrl : List Char}
    (h : LinkParses lib (rstripPunctuation rawUrl)) :
    vacancyIdOf lib rawUrl =
      .ok ((vacancyDigits lib (rstripPunctuation rawUrl)).map
        fun ds => (numberOf ds : Int)) := by
  rw [vacancyIdOf_of_splits h.splits]
  cases hdigits : vacancyDigits lib (rstripPunctuation rawUrl) with
  | none => rfl
  | some ds =>
      rw [Option.elim_some, intOfDigits,
        if_neg (Nat.not_lt.mpr (h.digits ds hdigits))]
      rfl

theorem vacancyIdOf_of_not_parses (hlib : lib.RaisesValueErrors)
    {rawUrl : List Char} (h : ¬ LinkParses lib (rstripPunctuation rawUrl)) :
    exists message, vacancyIdOf lib rawUrl = .error (.valueError message) := by
  by_cases hsplits : SplitsNetloc lib (netlocOf (rstripPunctuation rawUrl))
  · rw [vacancyIdOf_of_splits hsplits]
    cases hdigits : vacancyDigits lib (rstripPunctuation rawUrl) with
    | none =>
        refine (h ⟨hsplits, ?_⟩).elim
        intro ds hds
        rw [hdigits] at hds
        cases hds
    | some ds =>
        have hlong : 4300 < ds.length := by
          rw [← Nat.not_le]
          intro hshort
          refine h ⟨hsplits, ?_⟩
          intro ds' hds'
          rw [hdigits] at hds'
          cases hds'
          exact hshort
        rw [Option.elim_some, intOfDigits, if_pos hlong]
        exact ⟨_, rfl⟩
  · rcases urlparse_of_not_splits hlib hsplits with ⟨message, herror⟩
    refine ⟨message, ?_⟩
    rw [vacancyIdOf, herror]
    rfl

end Links

/-!
# Links of a text
-/

section Texts

variable {lib : UrlLibrary}

/-- The digits of the ids that the links of a text carry. -/
def vacancyNumbers (lib : UrlLibrary) (urls : List (List Char)) :
    List (List Nat) :=
  urls.filterMap (vacancyDigits lib)

theorem vacancyIds_of_parses {rawUrls : List (List Char)}
    (h : forall rawUrl, rawUrl ∈ rawUrls ->
      LinkParses lib (rstripPunctuation rawUrl)) :
    vacancyIds lib rawUrls =
      .ok ((vacancyNumbers lib (rawUrls.map rstripPunctuation)).map
        fun ds => (numberOf ds : Int)) := by
  induction rawUrls with
  | nil => rfl
  | cons rawUrl rest ih =>
      have hfirst := vacancyIdOf_of_parses (h rawUrl List.mem_cons_self)
      have hrest := ih fun r hr => h r (List.mem_cons_of_mem _ hr)
      rw [vacancyIds, hfirst, hrest]
      simp only [vacancyNumbers, List.map_cons, List.filterMap_cons]
      cases vacancyDigits lib (rstripPunctuation rawUrl) <;> rfl

theorem vacancyIds_of_not_parses (hlib : lib.RaisesValueErrors)
    {rawUrls : List (List Char)}
    (h : ¬ forall rawUrl, rawUrl ∈ rawUrls ->
      LinkParses lib (rstripPunctuation rawUrl)) :
    exists message, vacancyIds lib rawUrls = .error (.valueError message) := by
  induction rawUrls with
  | nil => exact (h fun _ hr => by cases hr).elim
  | cons rawUrl rest ih =>
      by_cases hfirst : LinkParses lib (rstripPunctuation rawUrl)
      · have hrest : ¬ forall r, r ∈ rest ->
            LinkParses lib (rstripPunctuation r) := by
          intro hall
          apply h
          intro r hr
          rcases List.mem_cons.mp hr with rfl | hr
          · exact hfirst
          · exact hall r hr
        rcases ih hrest with ⟨message, herror⟩
        refine ⟨message, ?_⟩
        rw [vacancyIds, vacancyIdOf_of_parses hfirst, herror]
        rfl
      · rcases vacancyIdOf_of_not_parses hlib hfirst with ⟨message, herror⟩
        refine ⟨message, ?_⟩
        rw [vacancyIds, herror]
        rfl

/-- A text has to lead to one vacancy. -/
def soleId : List Int -> Except Exc Int
  | [] => .error .invalidVacancyUrl
  | [id] => .ok id
  | _ :: _ :: _ => .error .multipleVacancyUrls

theorem parseHhVacancyId_eq {messageText : String} :
    parseHhVacancyId lib messageText =
      (vacancyIds lib (findUrls 0 messageText.toList)).bind soleId := by
  unfold parseHhVacancyId
  rcases vacancyIds lib (findUrls 0 messageText.toList) with e | ids
  · rfl
  · rcases ids with _ | ⟨id, _ | ⟨id', rest⟩⟩ <;> rfl

/-!
# The declared outcomes
-/

/-- The ids that the columns of hh ids can store. -/
def FitsBigint (id : Int) : Prop :=
  0 ≤ id ∧ id < 2 ^ 63

/-- The outcomes the callers of the parser expect. -/
def DeclaredOutcome : Except Exc Int -> Prop
  | .ok id => FitsBigint id
  | .error e => e = .invalidVacancyUrl ∨ e = .multipleVacancyUrls

/-- The links of a text parse, and a single id is small enough. -/
structure DeclaredText (lib : UrlLibrary) (messageText : String) : Prop where
  links : forall url, url ∈ linksOf messageText -> LinkParses lib url
  single : forall ds, vacancyNumbers lib (linksOf messageText) = [ds] ->
    numberOf ds < 2 ^ 63

theorem mem_linksOf {messageText : String} {P : List Char -> Prop} :
    (forall url, url ∈ linksOf messageText -> P url) <->
      forall rawUrl, rawUrl ∈ findUrls 0 messageText.toList ->
        P (rstripPunctuation rawUrl) := by
  simp [linksOf]

theorem declaredOutcome_soleId {digits : List (List Nat)} :
    DeclaredOutcome (soleId (digits.map fun ds => (numberOf ds : Int))) <->
      forall ds, digits = [ds] -> numberOf ds < 2 ^ 63 := by
  rcases digits with _ | ⟨ds, _ | ⟨ds', rest⟩⟩
  · constructor
    · exact fun _ ds hds => by cases hds
    · exact fun _ => Or.inl rfl
  · change FitsBigint (numberOf ds) <-> _
    unfold FitsBigint
    constructor
    · intro hfits ds' heq
      rcases hfits with ⟨_, hlt⟩
      cases heq
      exact_mod_cast hlt
    · intro h
      refine ⟨Int.natCast_nonneg _, ?_⟩
      exact_mod_cast h ds rfl
  · constructor
    · exact fun _ ds hds => by cases hds
    · exact fun _ => Or.inr rfl

/-- The parser keeps to its outcomes exactly on the texts whose links parse and
lead to a number the column can store. -/
theorem parser_outcome_declared_iff (hlib : lib.RaisesValueErrors)
    (messageText : String) :
    DeclaredOutcome (parseHhVacancyId lib messageText) <->
      DeclaredText lib messageText := by
  rw [parseHhVacancyId_eq]
  by_cases hparses : forall rawUrl, rawUrl ∈ findUrls 0 messageText.toList ->
      LinkParses lib (rstripPunctuation rawUrl)
  · rw [vacancyIds_of_parses hparses]
    change DeclaredOutcome (soleId _) <-> _
    rw [declaredOutcome_soleId]
    constructor
    · intro hsingle
      exact ⟨mem_linksOf.mpr hparses, hsingle⟩
    · exact fun h => h.single
  · rcases vacancyIds_of_not_parses hlib hparses with ⟨message, herror⟩
    rw [herror]
    constructor
    · rintro (h | h) <;> cases h
    · intro h
      exact (hparses (mem_linksOf.mp h.links)).elim

end Texts

theorem asciiLibrary_raisesValueErrors : asciiLibrary.RaisesValueErrors where
  bracketed := fun _ _ h => by cases h
  checked := fun _ _ h => by cases h

def linkMessage : String :=
  "See https://hh.ru/vacancy/123456?from=vacancy_search."

theorem parser_outcome_declared_iff_link :
    DeclaredOutcome (parseHhVacancyId asciiLibrary linkMessage) ∧
      DeclaredText asciiLibrary linkMessage := by
  have houtcome : parseHhVacancyId asciiLibrary linkMessage = .ok 123456 := rfl
  have hiff :=
    parser_outcome_declared_iff asciiLibrary_raisesValueErrors linkMessage
  rw [houtcome] at hiff ⊢
  have hfits : DeclaredOutcome (.ok 123456) := by
    constructor <;> decide
  exact ⟨hfits, hiff.mp hfits⟩

/-- An unmatched bracket, and a number of twenty digits. -/
theorem parser_outcome_undeclared :
    parseHhVacancyId asciiLibrary "http://[hh.ru" =
        .error (.valueError "Invalid IPv6 URL") ∧
      ¬ DeclaredOutcome (parseHhVacancyId asciiLibrary "http://[hh.ru") ∧
      ¬ DeclaredOutcome (parseHhVacancyId asciiLibrary
        "https://hh.ru/vacancy/99999999999999999999") := by
  have hbracket : parseHhVacancyId asciiLibrary "http://[hh.ru" =
      .error (.valueError "Invalid IPv6 URL") := rfl
  have hlong : parseHhVacancyId asciiLibrary
      "https://hh.ru/vacancy/99999999999999999999" =
        .ok 99999999999999999999 := rfl
  refine ⟨hbracket, ?_, ?_⟩
  · rw [hbracket]
    rintro (h | h) <;> cases h
  · rw [hlong]
    intro hfits
    rcases hfits with ⟨_, h⟩
    exact absurd h (by decide)

end CoverAI
