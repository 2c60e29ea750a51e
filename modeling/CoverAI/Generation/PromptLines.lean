import CoverAI.Services.Prompts

/-!
# The lines of the prompt

Resume and description are normalized, so they stay on their lines.  The title,
the names and the link go in as they are, and a newline in one of them makes a
further line.
-/

namespace CoverAI
namespace Prompts

open Lines

/-!
# Normalized texts
-/

theorem isLine_of_mem_splitWords {value word : String}
    (h : word ∈ splitWords value) : IsLine word := by
  rcases List.mem_map.mp h with ⟨piece, hpiece, rfl⟩
  rw [isLine_ofList]
  intro hnewline
  have hspace := not_of_mem_splitOnP (List.mem_filter.mp hpiece).left
    hnewline
  exact absurd hspace (by decide)

theorem isLine_normalizeText (value : String) : IsLine (normalizeText value) :=
  (isLine_intercalate (by decide) _).mpr fun _ h => isLine_of_mem_splitWords h

theorem IsLine.of_sublist {value : String} (h : IsLine value)
    {cs : List Char} (hcs : cs.Sublist value.toList) :
    IsLine (String.ofList cs) := by
  rw [isLine_ofList]
  intro hnewline
  exact h (hcs.subset hnewline)

theorem isLine_truncateText {value : String} (h : IsLine value)
    (maxLength : Int) : IsLine (truncateText value maxLength) := by
  unfold truncateText
  split
  · exact h
  · rw [isLine_append]
    constructor
    · apply IsLine.of_sublist h
      rw [sliceTo, String.toList_ofList]
      exact (List.rdropWhile_prefix isSpace _).sublist.trans
        (List.take_sublist _ _)
    · decide

/-!
# The lines of the values
-/

def descriptionOf (lib : PromptLibrary) (vacancy : Vacancy) : Option String :=
  vacancy.rawPayload.bind (descriptionLine lib)

def skillsOf (vacancy : Vacancy) : Option String :=
  vacancy.rawPayload.bind skillsLine

def skillNames (vacancy : Vacancy) : List String :=
  namedItems (vacancy.rawPayload.bind (lookupLast "key_skills"))

theorem vacancyDetailLines_eq (lib : PromptLibrary) (vacancy : Vacancy) :
    vacancyDetailLines lib vacancy =
      (descriptionOf lib vacancy).toList ++ (skillsOf vacancy).toList := by
  unfold vacancyDetailLines descriptionOf skillsOf
  cases vacancy.rawPayload with
  | none => rfl
  | some payload => rfl

theorem isLine_descriptionOf {lib : PromptLibrary} {vacancy : Vacancy}
    {line : String} (h : line ∈ descriptionOf lib vacancy) : IsLine line := by
  unfold descriptionOf descriptionLine at h
  rcases Option.bind_eq_some_iff.mp h with ⟨payload, _, hline⟩
  rcases Option.map_eq_some_iff.mp hline with ⟨description, _, rfl⟩
  rw [isLine_append]
  constructor
  · decide
  · exact isLine_truncateText (isLine_normalizeText _) _

theorem skillsOf_eq (vacancy : Vacancy) :
    skillsOf vacancy =
      if skillNames vacancy = [] then none
      else some ("Key skills: " ++ ", ".intercalate (skillNames vacancy)) := by
  unfold skillsOf skillNames
  cases vacancy.rawPayload with
  | none => rfl
  | some payload =>
      simp only [Option.bind_some, skillsLine]
      cases namedItems (lookupLast "key_skills" payload) with
      | nil => rfl
      | cons skill skills => rfl

theorem isLine_skillsOf_iff (vacancy : Vacancy) :
    (forall line, line ∈ (skillsOf vacancy).toList -> IsLine line) <->
      forall name, name ∈ skillNames vacancy -> IsLine name := by
  have hjoined := isLine_intercalate (show IsLine ", " by decide)
    (skillNames vacancy)
  rw [skillsOf_eq, <- hjoined]
  split
  · rename_i hnone
    rw [hnone]
    constructor
    · intro _
      decide
    · intro _ line hline
      cases hline
  · rw [Option.toList_some]
    constructor
    · intro h
      exact (isLine_append.mp (h _ (List.mem_singleton.mpr rfl))).right
    · intro h line hline
      rw [List.mem_singleton.mp hline, isLine_append]
      exact ⟨by decide, h⟩

theorem isLine_vacancyUrl_iff (vacancy : Vacancy) :
    IsLine (vacancyUrl vacancy) <->
      forall url, vacancy.url = some url -> IsLine url := by
  unfold vacancyUrl
  cases vacancy.url with
  | none =>
      constructor
      · intro _ url hurl
        cases hurl
      · intro _
        decide
  | some url =>
      have htruthy : IsLine ((truthy (some url)).getD "not provided") <->
          IsLine url := by
        by_cases hempty : url = ""
        · rw [hempty]
          decide
        · unfold truthy
          split
          · rename_i heq
            cases heq
            exact absurd rfl hempty
          · exact Iff.rfl
      rw [htruthy]
      constructor
      · intro h other hother
        cases hother
        exact h
      · intro h
        exact h url rfl

/-!
# The prompt
-/

/-- The prompt consists of the fixed lines and of one line for each value. -/
def HasPromptLines (lib : PromptLibrary) (profile : ResumeProfile)
    (vacancy : Vacancy) (employer : Employer) (tone : Tone) : Prop :=
  splitLines (buildCoverLetterPrompt lib profile vacancy employer tone) =
    (fixedLines tone).flatMap splitLines ++
      ([normalizeText profile.resumeText,
        "",
        "Вакансия:",
        "Название: " ++ vacancy.title,
        "Работодатель: " ++ employer.name,
        "URL: " ++ vacancyUrl vacancy] ++
        ((descriptionOf lib vacancy).toList ++ (skillsOf vacancy).toList))

theorem hasPromptLines_iff_isLine (lib : PromptLibrary)
    (profile : ResumeProfile) (vacancy : Vacancy) (employer : Employer)
    (tone : Tone) :
    HasPromptLines lib profile vacancy employer tone <->
      forall line, line ∈ valueLines lib profile vacancy employer ->
        IsLine line := by
  have hne : valueLines lib profile vacancy employer ≠ [] :=
    List.cons_ne_nil _ _
  rw [HasPromptLines, <- vacancyDetailLines_eq]
  exact splitLines_joinLines_append_iff hne

/-- The values that are not normalized are lines. -/
structure ValuesAreLines (vacancy : Vacancy) (employer : Employer) :
    Prop where
  title : IsLine vacancy.title
  employerName : IsLine employer.name
  url : forall url, vacancy.url = some url -> IsLine url
  skills : forall name, name ∈ skillNames vacancy -> IsLine name

theorem isLine_append_of_line {label : String} (h : IsLine label)
    (value : String) : IsLine (label ++ value) <-> IsLine value := by
  rw [isLine_append, and_iff_right h]

theorem prompt_lines_iff (lib : PromptLibrary) (profile : ResumeProfile)
    (vacancy : Vacancy) (employer : Employer) (tone : Tone) :
    HasPromptLines lib profile vacancy employer tone <->
      ValuesAreLines vacancy employer := by
  rw [hasPromptLines_iff_isLine, valueLines, vacancyDetailLines_eq,
    List.forall_mem_append, List.forall_mem_append, isLine_skillsOf_iff]
  have htitle := isLine_append_of_line (show IsLine "Название: " by decide)
    vacancy.title
  have hname := isLine_append_of_line (show IsLine "Работодатель: " by decide)
    employer.name
  have hurl := (isLine_append_of_line (show IsLine "URL: " by decide)
    (vacancyUrl vacancy)).trans (isLine_vacancyUrl_iff vacancy)
  constructor
  · intro h
    constructor
    · exact htitle.mp (h.left _ (by simp))
    · exact hname.mp (h.left _ (by simp))
    · exact hurl.mp (h.left _ (by simp))
    · exact h.right.right
  · intro h
    refine ⟨?_, fun line hline => ?_, h.skills⟩
    · intro line hline
      simp only [List.mem_cons, List.not_mem_nil, or_false] at hline
      rcases hline with rfl | rfl | rfl | rfl | rfl | rfl
      · exact isLine_normalizeText profile.resumeText
      · decide
      · decide
      · exact htitle.mpr h.title
      · exact hname.mpr h.employerName
      · exact hurl.mpr h.url
    · exact isLine_descriptionOf (Option.mem_toList.mp hline)

def plainPromptLibrary : PromptLibrary where
  dataParts := fun value => [value]
  unescape := fun value => value

def promptProfile : ResumeProfile where
  userId := 1
  title := "Backend"
  resumeText := "Python"

def twoLineVacancy : Vacancy where
  hhId := 1
  employerId := 1
  title := "Python\nBackend"
  url := none
  rawPayload := none
  cachedAt := none

def promptEmployer : Employer where
  hhId := 2
  name := "Acme"
  url := none
  rawPayload := none
  cachedAt := none

theorem two_line_title_breaks_prompt :
    ¬ HasPromptLines plainPromptLibrary promptProfile twoLineVacancy
      promptEmployer .formal := by
  rw [hasPromptLines_iff_isLine]
  intro h
  have htitle := h ("Название: " ++ twoLineVacancy.title)
    (by simp [valueLines])
  exact absurd htitle (by decide)

end Prompts
end CoverAI
