import CoverAI.Bot.Handlers
import CoverAI.Services.History

/-!
# What the bot says
-/

namespace CoverAI

/-!
# Menu
-/

def mainMenuProfile : String := "📄 Профиль"

def mainMenuPlan : String := "💰 Баланс"

def mainMenuHistory : String := "🕘 История писем"

def mainMenuSubscribe : String := "💳 Пополнить"

def mainMenuHelp : String := "❓ Помощь"

/-!
# Texts
-/

def startText : String :=
  "👋 Привет. Я помогу написать сопроводительное письмо под конкретную " ++
    "вакансию на hh.ru.\n\n" ++
    "🧭 Как это работает:\n" ++
    "1. 📄 Отправьте резюме текстом или файлом.\n" ++
    "2. 🔗 Пришлите ссылку на вакансию hh.ru.\n" ++
    "3. ✉️ Я подготовлю письмо и пришлю его сюда.\n\n" ++
    "Кнопки ниже открывают основные разделы:\n" ++
    "📄 Профиль - сохраненное резюме\n" ++
    "💰 Баланс - текущие кредиты\n" ++
    "🕘 История писем - прошлые генерации\n" ++
    "💳 Пополнить - mock-платежи и промокоды\n" ++
    "❓ Помощь - краткая инструкция"

def subscribeText : String :=
  "💳 Пополнение\n\n" ++
    "Сейчас подключен mock-платеж, как в API.\n" ++
    "Пополнить баланс: /topup 100\n" ++
    "Активировать промокод: /redeem WELCOME100"

def helpText : String :=
  "🧭 Основной сценарий: отправьте резюме, затем ссылку вида " ++
    "https://hh.ru/vacancy/123456.\n\n" ++
    "📄 Профиль - посмотреть сохраненное резюме\n" ++
    "💰 Баланс - проверить кредиты\n" ++
    "🕘 История писем - открыть прошлые письма\n" ++
    "💳 Пополнить - mock-пополнение и промокоды\n" ++
    "❓ Помощь - показать эту подсказку\n\n" ++
    "Слеш-команды тоже работают: /start, /profile, /plan, /history, " ++
    "/subscribe, /balance, /topup, /redeem, /help."

def profileMissingText : String :=
  "📄 Профиль пока не заполнен\n\nОтправьте резюме текстом или файлом."

def resumeFileUnreadableText : String :=
  "⚠️ Не удалось прочитать файл\n\n" ++
    "Поддерживаются .txt, .md, .docx и PDF с текстовым слоем. " ++
    "Отправьте другой файл или текст резюме."

def resumeTextTooShortText : String :=
  "⚠️ Текст резюме слишком короткий\n\nНужно минимум 100 символов."

def multipleVacancyUrlsText : String :=
  "🔗 Пришлите одну ссылку\n\n" ++
    "В одном сообщении должна быть только одна вакансия hh.ru."

def historyPaywallText : String :=
  "🔒 История доступна на тарифах Standard и Pro\n\n" ++
    "Текущий тариф Free хранит только свежую генерацию."

def historyLetterNotFoundText : String :=
  "⚠️ Письмо не найдено\n\nПроверьте номер в истории и попробуйте еще раз."

def telegramUserMissingText : String :=
  "⚠️ Не удалось определить пользователя Telegram\n\n" ++
    "Попробуйте отправить команду /start еще раз."

def redeemUsageText : String :=
  "Введите промокод: /redeem WELCOME100"

def topUpUsageText : String :=
  "Введите количество кредитов: /topup 100"

/-!
# Formatters
-/

def formatCreditBalance (credits : Int) : String :=
  "💰 Баланс\n\n" ++
    "Доступно кредитов: " ++ toString credits ++ "\n" ++
    "1 успешная генерация списывает 1 кредит.\n\n" ++
    "Пополнить mock-платежом: /topup 100\n" ++
    "Активировать промокод: /redeem WELCOME100"

def formatHistoryRow (entry : Int × CoverLetter) : String :=
  toString entry.1 ++ ". " ++ entry.2.vacancyTitle ++ " — " ++
    entry.2.employerName

def formatHistoryList (history : HistoryResult) : String :=
  if history.letters = [] then
    "🕘 История писем\n\n" ++
      "Пока пусто. Отправьте ссылку на вакансию, и первое письмо появится здесь."
  else
    "🕘 История писем\n\n" ++
      "\n".intercalate (history.letters.map formatHistoryRow) ++
      "\n\nОткройте письмо командой /history <номер>."

def formatHistoryDetail (letter : CoverLetter) : String :=
  "✉️ " ++ letter.vacancyTitle ++ " — " ++ letter.employerName ++ "\n\n" ++
    letter.text

def formatProfile (profile : ResumeProfile) : String :=
  let preview := String.ofList (profile.resumeText.toList.take 1200)
  let suffix :=
    if 1200 < profile.resumeText.length then
      "\n\nℹ️ Показал первые 1200 символов. Полный текст сохранен."
    else ""
  "📄 Профиль\n\n" ++ preview ++ suffix

def formatProfileSaved (result : ProfileResult) : String :=
  if result.wasTruncated then
    "✅ Профиль сохранен\n\n" ++
      "Текст был обрезан до 6000 символов.\n" ++
      "Теперь пришлите ссылку на вакансию hh.ru."
  else "✅ Профиль сохранен\n\nТеперь пришлите ссылку на вакансию hh.ru."

/-!
# Promises
-/

/-- The user is told that a letter will come. -/
def Answer.Accepts (a : Answer) : Prop :=
  a = .message generationAcceptedText none ∨
    a = .callback "✅ Генерация в очереди." false

instance (a : Answer) : Decidable a.Accepts :=
  inferInstanceAs (Decidable (_ ∨ _))

theorem append_ne_of_prefix {front text : String}
    (h : front.toList.isPrefixOf text.toList = false) (rest : String) :
    front ++ rest ≠ text := by
  intro heq
  have hprefix : front.toList <+: text.toList := by
    rw [<- heq, String.toList_append]
    exact List.prefix_append _ _
  rw [<- List.isPrefixOf_iff_prefix, h] at hprefix
  cases hprefix

/-- No other text begins as this one does. -/
theorem other_text_of_prefix {front : String}
    (h : front.toList.isPrefixOf generationAcceptedText.toList = false)
    (rest : String) : front ++ rest ≠ generationAcceptedText :=
  append_ne_of_prefix h rest

theorem other_text {text : String}
    (h : text.toList.isPrefixOf generationAcceptedText.toList = false) :
    text ≠ generationAcceptedText := by
  have hne := other_text_of_prefix h ""
  rwa [String.append_empty] at hne

theorem formatCreditBalance_other (credits : Int) :
    formatCreditBalance credits ≠ generationAcceptedText := by
  unfold formatCreditBalance
  simp only [String.append_assoc]
  exact other_text_of_prefix (by decide +kernel) _

theorem formatHistoryList_other (history : HistoryResult) :
    formatHistoryList history ≠ generationAcceptedText := by
  unfold formatHistoryList
  split
  · exact other_text (by decide +kernel)
  · simp only [String.append_assoc]
    exact other_text_of_prefix (by decide +kernel) _

theorem formatHistoryDetail_other (letter : CoverLetter) :
    formatHistoryDetail letter ≠ generationAcceptedText := by
  unfold formatHistoryDetail
  simp only [String.append_assoc]
  exact other_text_of_prefix (by decide +kernel) _

theorem formatProfile_other (profile : ResumeProfile) :
    formatProfile profile ≠ generationAcceptedText := by
  unfold formatProfile
  simp only [String.append_assoc]
  exact other_text_of_prefix (by decide +kernel) _

theorem formatProfileSaved_other (result : ProfileResult) :
    formatProfileSaved result ≠ generationAcceptedText := by
  unfold formatProfileSaved
  split
  · exact other_text (by decide +kernel)
  · exact other_text (by decide +kernel)

end CoverAI
