import CoverAI.Clients.Hh
import CoverAI.Text.Lines
import Mathlib.Data.List.DropRight

/-!
# The prompt of a cover letter

The fixed lines are the source's; the values come from the resume and from the
rows of the vacancy and the employer.
-/

namespace CoverAI
namespace Prompts

/-- What the prompt needs of the standard library: the texts the HTML parser
hands over for a fed and closed input, and the character references. -/
structure PromptLibrary where
  dataParts : String -> List String
  unescape : String -> String

/-!
# Texts
-/

def htmlToText (lib : PromptLibrary) (value : String) : String :=
  lib.unescape (" ".intercalate (lib.dataParts value))

/-- `value.split()` -/
def splitWords (value : String) : List String :=
  ((value.toList.splitOnP isSpace).filter fun word => word ≠ []).map
    String.ofList

def normalizeText (value : String) : String :=
  " ".intercalate (splitWords value)

def rstrip (value : String) : String :=
  String.ofList (value.toList.rdropWhile isSpace)

/-- `value[:stop]`; a negative bound counts from the end. -/
def sliceTo (value : String) (stop : Int) : String :=
  let length : Int := value.length
  String.ofList
    (value.toList.take (if stop < 0 then length + stop else stop).toNat)

def truncateText (value : String) (maxLength : Int) : String :=
  if value.length ≤ maxLength then value
  else rstrip (sliceTo value (maxLength - 1)) ++ "..."

/-!
# Details of a vacancy
-/

abbrev Payload : Type :=
  List (String × PyObject)

def maxDescriptionLength : Int :=
  250

def optionalText (payload : Payload) (field : String) : Option String :=
  match lookupLast field payload with
  | some (.str value) => truthy (some value)
  | _ => none

/-- Items that are not objects and names that are not texts are left out. -/
def itemName : PyObject -> Option String
  | .dict item => optionalText item "name"
  | _ => none

def namedItems : Option PyObject -> List String
  | some (.list items) => items.filterMap itemName
  | _ => []

def descriptionLine (lib : PromptLibrary) (payload : Payload) :
    Option String :=
  (optionalText payload "description").map fun description =>
    "Description: " ++
      truncateText (normalizeText (htmlToText lib description))
        maxDescriptionLength

def skillsLine (payload : Payload) : Option String :=
  match namedItems (lookupLast "key_skills" payload) with
  | [] => none
  | skill :: skills => some ("Key skills: " ++ ", ".intercalate (skill :: skills))

def vacancyDetailLines (lib : PromptLibrary) (vacancy : Vacancy) :
    List String :=
  match vacancy.rawPayload with
  | none => []
  | some payload =>
      (descriptionLine lib payload).toList ++ (skillsLine payload).toList

/-!
# Fixed lines
-/

def instructionLines : List String :=
  ["Напиши готовое сопроводительное письмо на русском.",
    "Цель: показать работодателю, где кандидат будет полезен в работе.",
    "Формат: 2-3 коротких абзаца, до 130 слов, plain text.",
    "Без Markdown, списков, заголовков, подписи, контактов и плейсхолдеров.",
    "Начни письмо с приветствия: 'Добрый день.' или 'Здравствуйте.'. Если " ++
      "текст вакансии неформальный и содержит 'привет', можно начать с " ++
      "'Привет.'",
    "Пиши естественно и грамотно, без канцелярита и сплошного списка стека.",
    "Творчески работай только с подачей, не с фактами.",
    "Пиши от первого лица, но не упоминай резюме как документ.",
    "В первом абзаце упомяни название вакансии и работодателя.",
    "Не пиши 'вашей компании', если известно название работодателя.",
    "Не пересказывай резюме. Пиши как рабочий отклик на конкретную вакансию.",
    "Не пиши мета-фразы: 'в описании вакансии', 'в вакансии указано', 'из " ++
      "резюме видно', 'мой профиль'.",
    "Не копируй пункты из резюме или вакансии механически.",
    "Не перечисляй стек или задачи через запятую как 'готов делать A, B, C'.",
    "Не перечисляй задачи или стек; перефразируй их как рабочую ситуацию.",
    "Связывай опыт и задачи в 1-2 осмысленных рабочих сценария.",
    "Если по вакансии понятен продукт или компания, можно коротко объяснить, " ++
      "почему кандидату интересны именно они.",
    "Мотивация к компании должна быть конкретной и спокойной, без лести.",
    "Для мотивации называй конкретику из вакансии: продукт, домен, " ++
      "аудиторию, тип клиентов, технологическую задачу или название " ++
      "работодателя.",
    "Не пиши общие фразы вроде 'ваш продукт', 'направление компании' или " ++
      "'мне интересна ваша компания' без конкретного продолжения.",
    "Если конкретики про продукт или компанию нет, лучше пропусти мотивацию " ++
      "к компании.",
    "Если из профиля или контекста явно понятно, что кандидат знаком с " ++
      "продуктом или сам им пользуется, можно упомянуть это как мотивацию.",
    "Не выдумывай знакомство с продуктом, личное использование или давний " ++
      "интерес.",
    "Пиши так, будто кандидат уже понял контекст компании и отвечает " ++
      "человеку, а не пересказывает источники.",
    "Не делай шаблонное письмо. Меняй начало, ритм и финальную фразу.",
    "Не повторяй структуру примеров: они показывают диапазон подачи, а не " ++
      "шаблон абзацев.",
    "Слово 'готов' допустимо, если звучит естественно, но не повторяй его.",
    "Не строй каждый абзац по шаблону 'готов + действие'.",
    "Не используй клише: 'буду рад', 'меня заинтересовала', 'интересен мне " ++
      "именно как продукт', 'не абстрактно'.",
    "Избегай парных шаблонных оборотов, где одна мысль усиливается через " ++
      "отрицание и добавление второй части.",
    "Собери письмо вокруг 1-2 сильных задач из вакансии.",
    "Для каждой задачи покажи: что нужно работодателю, как кандидат поможет, " ++
      "какой опыт это подтверждает.",
    "Используй живые глаголы: разрабатывать, дорабатывать, интегрировать, " ++
      "тестировать, поддерживать, улучшать, разбираться, запускать.",
    "Финал должен быть уверенным call to action: предложи обсудить контекст, " ++
      "первые задачи, ожидания от роли, следующий шаг или формат интервью.",
    "Не предлагай готовые решения до знакомства со спецификой проекта; лучше " ++
      "покажи готовность разобраться, задать правильные вопросы и быстро " ++
      "включиться в работу.",
    "Формулируй финал живо и разнообразно: можно написать, что кандидат " ++
      "готов пообщаться на интервью и показать, чем будет полезен.",
    "Не заканчивай каждое письмо фразой 'Готов обсудить...'.",
    "Не добавляй факты о кандидате, которых нет в резюме.",
    "Не заявляй достижений, метрик или оптимизаций, если их нет в резюме.",
    "Не приписывай кандидату требования, обязанности или годы опыта из " ++
      "вакансии."]

def fewShotHeader : List String :=
  ["",
    "Примеры хорошего стиля:",
    "Не копируй из примеров факты, компании или технологии; используй только " ++
      "подачу.",
    "Названия компаний и продуктов в примерах условные; не копируй их."]

def fewShotCoverLetters : List String :=
  ["Здравствуйте.\n\nХочу присоединиться к PlatformPay на backend-позицию. " ++
      "В платежных сервисах хорошо видно качество инженерной работы: ошибка в " ++
      "API, логировании или очереди быстро превращается в проблему для " ++
      "поддержки и пользователей.\n\nЯ уже делал Python-сервисы с внешними " ++
      "интеграциями и понятной документацией, поэтому смогу включиться в " ++
      "задачи вокруг API и надежной обработки запросов. На разговоре " ++
      "предлагаю сверить ожидания по роли и показать, как я разбираюсь в " ++
      "задаче до первых изменений в коде.",
    "Добрый день.\n\nВ RetailOps мне близка сама задача: убрать ручные " ++
      "действия из складских процессов и дать операторам инструмент, который " ++
      "не требует постоянных обходных решений. В такой роли важно быстро " ++
      "разбираться, где процесс ломается, и превращать это в понятную " ++
      "доработку.\n\nУ меня был опыт с API, пайплайнами данных и интеграциями " ++
      "между внутренними системами. Могу начать с небольшого участка " ++
      "автоматизации, довести его до рабочего состояния и уже по нему " ++
      "показать темп и качество работы.",
    "Здравствуйте.\n\nMetricFlow ищет разработчика для продукта вокруг " ++
      "аналитики продаж, и это похоже на задачи, где я могу быть полезен. " ++
      "Данные здесь должны не просто лежать в PostgreSQL, а доходить до API и " ++
      "отчетов в виде, с которым удобно работать менеджерам.\n\nЯ занимался " ++
      "backend-частью, пайплайнами и описанием интерфейсов. Если на встрече " ++
      "разберем один реальный поток данных, я смогу показать, какие вопросы " ++
      "задал бы команде и как обычно вхожу в такой контекст.",
    "Привет.\n\nChatDesk AI звучит для меня интересно как проект, " ++
      "интегрировать модель и пользовательский опыт - звучит круто.Я работал " ++
      "с LLM и backend-инфраструктурой вокруг них, поэтому мне интересен и " ++
      "знаком этот домен. Готов пообщаться в формате интервью и показать на " ++
      "что способен.",
    "Добрый день.\n\nRouteMate я знаю по продукту: несколько раз строил " ++
      "маршруты для доставок через ваш сервис и видел, мне было удобно и " ++
      "понравился интерфейс. Поэтому backend-вакансия у вас для меня связана " ++
      "с продуктовым результатом, а не с одним стеком.\n\nВ моей работе были " ++
      "Python-сервисы, внешние API и продакшн-запуски. Хочу обсудить, какой " ++
      "участок RouteMate сейчас сильнее всего влияет на пользовательский " ++
      "опыт, и понять, где мой опыт будет полезен быстрее всего."]

def fewShotLines : List String :=
  (fewShotCoverLetters.zipIdx 1).flatMap fun entry =>
    ["Пример " ++ toString entry.2 ++ ":", entry.1, ""]

/-!
# The prompt
-/

def vacancyUrl (vacancy : Vacancy) : String :=
  (truthy vacancy.url).getD "not provided"

def fixedLines (tone : Tone) : List String :=
  instructionLines ++ ["Tone: " ++ tone.value ++ "."] ++ fewShotHeader ++
    fewShotLines ++ ["", "Резюме:"]

def valueLines (lib : PromptLibrary) (profile : ResumeProfile)
    (vacancy : Vacancy) (employer : Employer) : List String :=
  [normalizeText profile.resumeText,
    "",
    "Вакансия:",
    "Название: " ++ vacancy.title,
    "Работодатель: " ++ employer.name,
    "URL: " ++ vacancyUrl vacancy] ++ vacancyDetailLines lib vacancy

def buildCoverLetterPrompt (lib : PromptLibrary) (profile : ResumeProfile)
    (vacancy : Vacancy) (employer : Employer) (tone : Tone) : String :=
  Lines.joinLines (fixedLines tone ++ valueLines lib profile vacancy employer)

end Prompts
end CoverAI
