import CoverAI.Domain.Entities

/-!
# The outside world of the services

Settings, and the functions whose text does not matter to the services: the
Unicode upper-casing of the standard library, the parser of vacancy links, which
has a module of its own, and the prompt builder.  A client is a function because
an execution calls each of its methods at most once; an execution may be given
any client.
-/

namespace CoverAI

structure Env where
  creditPriceRub : Int
  predictionCostCredits : Int
  upper : String -> String
  parseHhVacancyId : String -> Except Exc Int
  buildCoverLetterPrompt :
    ResumeProfile -> Vacancy -> Employer -> Tone -> Except Exc String

structure Clients where
  getVacancy : Int -> Except Exc HHVacancyPayload
  getEmployer : Int -> Except Exc HHEmployerPayload
  generateCoverLetter : String -> Except Exc LLMCompletion

/-- The characters `str.strip` removes. -/
def isSpace (c : Char) : Bool :=
  let n := c.toNat
  (9 ≤ n && n ≤ 13) || (28 ≤ n && n ≤ 32) || n = 0x85 || n = 0xa0 ||
    n = 0x1680 || (0x2000 ≤ n && n ≤ 0x200a) || n = 0x2028 || n = 0x2029 ||
    n = 0x202f || n = 0x205f || n = 0x3000

def strip (s : String) : String :=
  String.ofList
    ((s.toList.dropWhile isSpace).reverse.dropWhile isSpace).reverse

end CoverAI
