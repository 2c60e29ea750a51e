import CoverAI.Services.HhUrlParser

/-!
# What the bot reads

The words of a command, the number of a letter, and the name and the text of a
resume file.
-/

namespace CoverAI

/-- `str.split(maxsplit=1)`: the rest keeps the blanks at its end. -/
def splitOnce (text : String) : List String :=
  let front := text.toList.dropWhile isSpace
  let word := front.takeWhile fun c => !isSpace c
  let rest := (front.drop word.length).dropWhile isSpace
  if front = [] then []
  else if rest = [] then [String.ofList word]
  else [String.ofList word, String.ofList rest]

/-- What follows the command, if anything does. -/
def argument (text : String) : Option String :=
  match splitOnce text with
  | [_, rest] => some rest
  | _ => none

/-- The digits of a text that `str.isdecimal` accepts. -/
def decimalDigits (lib : UrlLibrary) (text : String) : Option (List Nat) :=
  let chars := text.toList
  if chars ≠ [] ∧ chars.all (fun c => (lib.digitValue c).isSome) = true then
    some (chars.filterMap lib.digitValue)
  else none

/-- `int` of a decimal argument; `none` where there is none. -/
def decimalArgument (lib : UrlLibrary) (text : String) :
    Except Exc (Option Int) :=
  match (argument text).bind fun rest => decimalDigits lib (strip rest) with
  | none => .ok none
  | some digits => (intOfDigits digits).map some

def historyLetterId (lib : UrlLibrary) (text : Option String) :
    Except Exc (Option Int) :=
  match text with
  | none => .ok none
  | some text => decimalArgument lib text

/-!
# Resume files
-/

/-- The last component of a path; `pathlib` drops the components that are
empty or a single dot. -/
def pathName (fileName : String) : List Char :=
  (((fileName.toList.splitOn '/').filter fun part =>
    part ≠ [] ∧ part ≠ ['.']).getLast?).getD []

/-- The stem and the suffix of a file name.  A dot at either end of the name
does not start a suffix. -/
def splitSuffix (name : List Char) : List Char × List Char :=
  let tail := (name.reverse.takeWhile fun c => c ≠ '.').reverse
  let front := name.take (name.length - tail.length - 1)
  if tail.length < name.length ∧ front ≠ [] ∧ tail ≠ [] then
    (front, '.' :: tail)
  else (name, [])

def resumeTitleFromFilename (fileName : String) : String :=
  let title := strip (String.ofList (splitSuffix (pathName fileName)).1)
  if title = "" then "Resume" else title

/-- What is behind a document: the Telegram server that has the file, and the
libraries that read it. -/
structure ResumeFiles where
  download : String -> Except Exc (List UInt8)
  lower : List Char -> List Char
  decodeText : List UInt8 -> Except Exc String
  docxText : List UInt8 -> Except Exc String
  pdfText : List UInt8 -> Except Exc String

def resumeTextNotExtracted : Exc :=
  .other "ResumeTextNotExtractedError" ""

def unsupportedResumeFile : Exc :=
  .other "UnsupportedResumeFileError" ""

/-- The text of a document without blanks around it, if there is some. -/
def extractDocumentText (text : Except Exc String) : Except Exc String := do
  let text ← text
  if strip text = "" then .error resumeTextNotExtracted
  else .ok (strip text)

def extractText (files : ResumeFiles) (fileName : String)
    (content : List UInt8) : Except Exc String :=
  let suffix :=
    String.ofList (files.lower (splitSuffix (pathName fileName)).2)
  if suffix = ".txt" ∨ suffix = ".md" then
    (files.decodeText content).map strip
  else if suffix = ".docx" then extractDocumentText (files.docxText content)
  else if suffix = ".pdf" then extractDocumentText (files.pdfText content)
  else .error unsupportedResumeFile

end CoverAI
