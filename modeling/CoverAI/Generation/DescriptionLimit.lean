import CoverAI.Generation.PromptLines
import CoverAI.Text.Trim

/-!
# The length of the description

A text that is too long is cut one character before the limit and gets three
dots.  The limit is kept only if two more characters are stripped at the cut,
and in a normalized text no two spaces are neighbours.
-/

namespace CoverAI
namespace Prompts

open Lines Scan

/-!
# Truncated texts
-/

/-- The last two characters before the cut are whitespace. -/
def BlankBeforeCut (value : String) (maxLength : Int) : Prop :=
  forall c, c ∈ (value.toList.take (maxLength - 1).toNat).drop
    (maxLength - 3).toNat -> isSpace c = true

section Truncation

variable {value : String} {maxLength : Int}

theorem length_rstrip (value : String) :
    (rstrip value).length = (value.toList.rdropWhile isSpace).length := by
  rw [rstrip, ← String.length_toList, String.toList_ofList]

theorem sliceTo_eq (h : 0 ≤ maxLength) :
    sliceTo value maxLength =
      String.ofList (value.toList.take maxLength.toNat) := by
  rw [sliceTo, if_neg (Int.not_lt.mpr h)]

theorem truncateText_of_long (h : maxLength < value.length) :
    truncateText value maxLength =
      rstrip (sliceTo value (maxLength - 1)) ++ "..." := by
  rw [truncateText, if_neg (Int.not_le.mpr h)]

theorem truncateText_of_short (h : value.length ≤ maxLength) :
    truncateText value maxLength = value := by
  rw [truncateText, if_pos h]

/-- A text that is cut is a stripped prefix with the dots behind it. -/
theorem exists_cut (hmax : 1 ≤ maxLength) (h : maxLength < value.length) :
    exists front, front <+: value.toList ∧ Stops isSpace front.reverse ∧
      truncateText value maxLength = String.ofList front ++ "..." := by
  let front := (value.toList.take (maxLength - 1).toNat).rdropWhile isSpace
  exists front
  constructor
  · exact (List.rdropWhile_prefix isSpace _).trans (List.take_prefix _ _)
  · constructor
    · exact stops_reverse_rdropWhile _
    · rw [truncateText_of_long h, sliceTo_eq (by omega), rstrip,
        String.toList_ofList]

theorem length_truncateText_le_iff (hmax : 3 ≤ maxLength) :
    (truncateText value maxLength).length ≤ maxLength <->
      value.length ≤ maxLength ∨ BlankBeforeCut value maxLength := by
  by_cases hshort : value.length ≤ maxLength
  · rw [truncateText_of_short hshort]
    exact ⟨Or.inl, fun _ => hshort⟩
  · have hdots : "...".length = 3 := rfl
    rw [truncateText_of_long (Int.not_le.mp hshort), String.length_append,
      length_rstrip, sliceTo_eq (by omega), String.toList_ofList, hdots,
      or_iff_right hshort, BlankBeforeCut, ← length_rdropWhile_le_iff]
    omega

/-- In a text without neighbouring spaces one character at most is
stripped. -/
theorem length_truncateText_le_iff_of_separated (hmax : 3 ≤ maxLength)
    (hvalue : Separated isSpace value.toList) :
    (truncateText value maxLength).length ≤ maxLength <->
      value.length ≤ maxLength := by
  rw [length_truncateText_le_iff hmax, or_iff_left_iff_imp]
  intro hblank
  by_contra hlong
  have hslice : Separated isSpace
      (value.toList.take (maxLength - 1).toNat) :=
    List.IsChain.take hvalue _
  apply hslice.not_all_drop _ hblank
  rw [List.length_take, String.length_toList]
  omega

end Truncation

/-!
# Normalized texts
-/

theorem toList_normalizeText (value : String) :
    (normalizeText value).toList =
      [' '].intercalate ((splitWords value).map String.toList) := by
  rw [normalizeText, String.toList_intercalate]
  rfl

theorem isWord_of_mem_splitWords {value : String} {word : List Char}
    (h : word ∈ (splitWords value).map String.toList) :
    IsWord isSpace word := by
  rw [splitWords, List.map_map] at h
  rcases List.mem_map.mp h with ⟨piece, hpiece, rfl⟩
  rcases List.mem_filter.mp hpiece with ⟨hsplit, hne⟩
  rw [Function.comp_apply, String.toList_ofList]
  constructor
  · exact of_decide_eq_true hne
  · exact fun c hc => not_of_mem_splitOnP hsplit hc

theorem separated_normalizeText (value : String) :
    Separated isSpace (normalizeText value).toList := by
  rw [toList_normalizeText]
  exact separated_intercalate fun _ h => isWord_of_mem_splitWords h

/-- The characters of the words, and a space between each two of them. -/
def spacedLength (value : String) : Nat :=
  ((splitWords value).flatMap String.toList).length +
    ((splitWords value).length - 1)

theorem length_normalizeText (value : String) :
    (normalizeText value).length = spacedLength value := by
  rw [← String.length_toList, toList_normalizeText, length_intercalate,
    List.length_map, spacedLength, List.flatMap_def]

theorem normalizeText_of_isWord {value : String}
    (h : IsWord isSpace value.toList) : normalizeText value = value := by
  have hsplit : value.toList.splitOnP isSpace = [value.toList] :=
    List.splitOnP_eq_singleton h.right
  rw [normalizeText, splitWords, hsplit, List.filter_cons_of_pos, List.filter_nil,
    List.map_singleton, String.ofList_toList, String.intercalate_singleton]
  exact decide_eq_true h.left

/-!
# The line of the description
-/

/-- What the line may show of a normalized text. -/
structure Limited (normalized text : String) : Prop where
  length : text.length ≤ maxDescriptionLength
  line : IsLine text
  whole : normalized.length ≤ maxDescriptionLength -> text = normalized
  cut : maxDescriptionLength < normalized.length ->
    exists front, front <+: normalized.toList ∧
      Stops isSpace front.reverse ∧ text = String.ofList front ++ "..."

/-- The description has a line unless it is empty, and what the line shows is
limited. -/
def DescriptionLimited (lib : PromptLibrary) (vacancy : Vacancy)
    (description : String) : Prop :=
  (description ≠ "" ->
    exists text, "Description: " ++ text ∈ vacancyDetailLines lib vacancy) ∧
  forall text, "Description: " ++ text ∈ vacancyDetailLines lib vacancy ->
    Limited (normalizeText (htmlToText lib description)) text

/-- Only the length can fail. -/
theorem limited_truncateText_iff (value : String) :
    Limited (normalizeText value)
        (truncateText (normalizeText value) maxDescriptionLength) <->
      spacedLength value ≤ maxDescriptionLength := by
  have hlength := length_truncateText_le_iff_of_separated
    (show 3 ≤ maxDescriptionLength by decide) (separated_normalizeText value)
  rw [← length_normalizeText, ← hlength]
  constructor
  · intro h
    exact h.length
  · intro h
    constructor
    · exact h
    · exact isLine_truncateText (isLine_normalizeText value) _
    · exact truncateText_of_short
    · exact exists_cut (by decide)

theorem not_mem_skillsOf (vacancy : Vacancy) (text : String) :
    "Description: " ++ text ∉ (skillsOf vacancy).toList := by
  rw [skillsOf_eq]
  split
  · exact List.not_mem_nil
  · rw [Option.toList_some, List.mem_singleton]
    intro h
    have hhead := congrArg (fun line => line.toList.head?) h
    rw [String.toList_append, String.toList_append, List.head?_append,
      List.head?_append] at hhead
    exact absurd hhead (by simp)

section Description

variable (lib : PromptLibrary) {vacancy : Vacancy} {payload : Payload}
variable {description : String}

theorem mem_vacancyDetailLines_iff (hpayload : vacancy.rawPayload = some payload)
    (hdescription :
      lookupLast "description" payload = some (.str description))
    (text : String) :
    "Description: " ++ text ∈ vacancyDetailLines lib vacancy <->
      description ≠ "" ∧
        text = truncateText (normalizeText (htmlToText lib description))
          maxDescriptionLength := by
  rw [vacancyDetailLines_eq, List.mem_append,
    or_iff_left (not_mem_skillsOf vacancy text), descriptionOf, hpayload,
    Option.bind_some, descriptionLine, optionalText, hdescription]
  by_cases hempty : description = ""
  · rw [hempty]
    simp [truthy]
  · simp [truthy, hempty]

theorem descriptionLimited_iff (hpayload : vacancy.rawPayload = some payload)
    (hdescription :
      lookupLast "description" payload = some (.str description)) :
    DescriptionLimited lib vacancy description <->
      description = "" ∨
        spacedLength (htmlToText lib description) ≤ maxDescriptionLength := by
  have hline := mem_vacancyDetailLines_iff lib hpayload hdescription
  constructor
  · intro h
    by_cases hempty : description = ""
    · exact Or.inl hempty
    · have hlimited := h.right _ ((hline _).mpr ⟨hempty, rfl⟩)
      exact Or.inr ((limited_truncateText_iff _).mp hlimited)
  · intro h
    constructor
    · intro hne
      exact ⟨_, (hline _).mpr ⟨hne, rfl⟩⟩
    · intro text htext
      rcases (hline text).mp htext with ⟨hne, rfl⟩
      exact (limited_truncateText_iff _).mpr (h.resolve_left hne)

/-- The limit is kept for the line exactly if the words fit with single spaces
between them, and by a truncated text exactly if it fits or two characters are
stripped at the cut. -/
theorem description_limit_iff (hpayload : vacancy.rawPayload = some payload)
    (hdescription :
      lookupLast "description" payload = some (.str description)) :
    (DescriptionLimited lib vacancy description <->
      description = "" ∨
        spacedLength (htmlToText lib description) ≤ maxDescriptionLength) ∧
    forall (value : String) (maxLength : Int), 3 ≤ maxLength ->
      ((truncateText value maxLength).length ≤ maxLength <->
        value.length ≤ maxLength ∨ BlankBeforeCut value maxLength) := by
  constructor
  · exact descriptionLimited_iff lib hpayload hdescription
  · intro value maxLength hmax
    exact length_truncateText_le_iff hmax

end Description

def describedVacancy (description : String) : Vacancy where
  hhId := 1
  employerId := 1
  title := "Backend"
  url := none
  rawPayload := some [("description", .str description)]
  cachedAt := none

theorem lookupLast_description (description : String) :
    lookupLast "description" [("description", PyObject.str description)] =
      some (.str description) := by
  simp [lookupLast]

theorem short_description_limited :
    DescriptionLimited plainPromptLibrary (describedVacancy "Python") "Python" ∧
      (truncateText "a   b" 4).length ≤ (4 : Int) := by
  have h := @description_limit_iff plainPromptLibrary
    (describedVacancy "Python") _ _ rfl (lookupLast_description "Python")
  constructor
  · exact h.left.mpr (Or.inr (by decide))
  · have hblank : BlankBeforeCut "a   b" 4 := by
      intro c hc
      have hcut : c ∈ List.replicate 2 ' ' := hc
      rw [List.eq_of_mem_replicate hcut]
      decide
    exact (h.right "a   b" 4 (by decide)).mpr (Or.inr hblank)

theorem not_descriptionLimited_of_isWord {description : String}
    (hword : IsWord isSpace description.toList)
    (hlong : maxDescriptionLength < description.length) :
    ¬ DescriptionLimited plainPromptLibrary (describedVacancy description)
      description := by
  have hplain : htmlToText plainPromptLibrary description = description :=
    String.intercalate_singleton (s := " ")
  have hne : description ≠ "" := by
    intro hempty
    rw [hempty] at hword
    exact hword.left rfl
  rw [@descriptionLimited_iff plainPromptLibrary (describedVacancy description)
    _ _ rfl (lookupLast_description description), or_iff_right hne, hplain,
    ← length_normalizeText, normalizeText_of_isWord hword]
  exact Int.not_le.mpr hlong

theorem isWord_replicate {n : Nat} (h : n ≠ 0) :
    IsWord isSpace (String.ofList (List.replicate n 'a')).toList := by
  rw [String.toList_ofList]
  constructor
  · exact mt (List.replicate_eq_nil_iff _).mp h
  · intro c hc
    rw [List.eq_of_mem_replicate hc]
    decide

theorem length_ofList_replicate (n : Nat) :
    (String.ofList (List.replicate n 'a')).length = n := by
  rw [String.length_ofList, List.length_replicate]

def longDescription : String :=
  String.ofList (List.replicate 251 'a')

/-- The limit is passed by one word that does not fit, and by four characters
where three are allowed. -/
theorem long_description_passes_limit :
    ¬ DescriptionLimited plainPromptLibrary (describedVacancy longDescription)
        longDescription ∧
      ¬ (truncateText "aaaa" 3).length ≤ (3 : Int) := by
  constructor
  · apply not_descriptionLimited_of_isWord
    · exact isWord_replicate (by decide)
    · have hlength : longDescription.length = 251 := length_ofList_replicate 251
      rw [hlength]
      decide
  · decide

end Prompts
end CoverAI
