import CoverAI.Clients.Hh
import CoverAI.Vacancy.UrlOutcomes

/-!
# Captures of the page parser

The parser counts the start and end tags inside an element it captures.  A void
element has a start tag only, so it makes the count of every open capture one
too high.
-/

namespace CoverAI

open HHVacancyHTMLParser

/-!
# Documents
-/

def voidTags : List String :=
  ["br", "hr", "img", "input", "meta", "link", "wbr"]

/-- A sequence of nodes, each followed by the next ones. -/
inductive Markup where
  | empty
  | text (data : String) (next : Markup)
  | void (tag : String) (isVoid : tag ∈ voidTags) (attrs : HtmlAttrs)
      (next : Markup)
  | element (tag : String) (attrs : HtmlAttrs) (children next : Markup)

namespace Markup

def events : Markup -> List HtmlEvent
  | empty => []
  | text data next => .data data :: next.events
  | void tag _ attrs next => .startTag tag attrs :: next.events
  | element tag attrs children next =>
      .startTag tag attrs :: (children.events ++ .endTag tag :: next.events)

/-- The text nodes, in the order of the document. -/
def texts : Markup -> List String
  | empty => []
  | text data next => data :: next.texts
  | void _ _ _ next => next.texts
  | element _ _ children next => children.texts ++ next.texts

def voids : Markup -> Nat
  | empty => 0
  | text _ next => next.voids
  | void _ _ _ next => next.voids + 1
  | element _ _ children next => children.voids + next.voids

/-- The first link of the nodes. -/
def href (lib : HtmlLibrary) : Markup -> Option String
  | empty => none
  | text _ next => next.href lib
  | void _ _ attrs next => (truthy (attr lib attrs "href")).or (next.href lib)
  | element _ attrs children next =>
      (truthy (attr lib attrs "href")).or
        ((children.href lib).or (next.href lib))

end Markup

inductive HtmlElement where
  | ordinary (tag : String) (attrs : HtmlAttrs) (children : Markup)
  | void (tag : String) (attrs : HtmlAttrs)

namespace HtmlElement

def attrs : HtmlElement -> HtmlAttrs
  | ordinary _ attrs _ | void _ attrs => attrs

def events : HtmlElement -> List HtmlEvent
  | ordinary tag attrs children =>
      .startTag tag attrs :: (children.events ++ [.endTag tag])
  | void tag attrs => [.startTag tag attrs]

/-- The void elements among the element and what is inside it. -/
def voids : HtmlElement -> Nat
  | ordinary _ _ children => children.voids
  | void _ _ => 1

end HtmlElement

/-- The element stands in the document after these events. -/
inductive Occurs (e : HtmlElement) : List HtmlEvent -> Markup -> Prop where
  | void {tag : String} {isVoid : tag ∈ voidTags} {attrs : HtmlAttrs}
      {next : Markup} (h : e = .void tag attrs) :
      Occurs e [] (.void tag isVoid attrs next)
  | ordinary {tag : String} {attrs : HtmlAttrs} {children next : Markup}
      (h : e = .ordinary tag attrs children) :
      Occurs e [] (.element tag attrs children next)
  | afterText {data : String} {before : List HtmlEvent} {next : Markup} :
      Occurs e before next ->
        Occurs e (.data data :: before) (.text data next)
  | afterVoid {tag : String} {isVoid : tag ∈ voidTags} {attrs : HtmlAttrs}
      {before : List HtmlEvent} {next : Markup} :
      Occurs e before next ->
        Occurs e (.startTag tag attrs :: before) (.void tag isVoid attrs next)
  | inside {tag : String} {attrs : HtmlAttrs} {before : List HtmlEvent}
      {children next : Markup} :
      Occurs e before children ->
        Occurs e (.startTag tag attrs :: before)
          (.element tag attrs children next)
  | afterElement {tag : String} {attrs : HtmlAttrs}
      {before : List HtmlEvent} {children next : Markup} :
      Occurs e before next ->
        Occurs e
          (.startTag tag attrs :: (children.events ++ .endTag tag :: before))
          (.element tag attrs children next)

/-!
# The open captures
-/

section Captures

variable {lib : HtmlLibrary}

/-- The capture a start tag opens. -/
def openedBy (lib : HtmlLibrary) (attrs : HtmlAttrs) : List HtmlCapture :=
  match attr lib attrs "data-qa" with
  | some key =>
      if key ∈ dataQaFields then
        [{ key := key, depth := 1, textParts := [],
           href := truthy (attr lib attrs "href") }]
      else []
  | none => []

def capturesAfter (lib : HtmlLibrary) (captures : List HtmlCapture) :
    HtmlEvent -> List HtmlCapture
  | .startTag _ attrs =>
      captures.map (enter (truthy (attr lib attrs "href"))) ++
        openedBy lib attrs
  | .endTag _ => (captures.map leave).filter fun c => c.depth ≠ 0
  | .data text => captures.map (addText text)

theorem foldl_erase_cons {α : Type} [DecidableEq α] {x : α} {ys : List α}
    (h : x ∉ ys) (zs : List α) :
    ys.foldl List.erase (x :: zs) = x :: ys.foldl List.erase zs := by
  induction ys generalizing zs with
  | nil => rfl
  | cons y ys ih =>
      rw [List.mem_cons, not_or] at h
      rw [List.foldl_cons, List.foldl_cons,
        List.erase_cons_tail (by simpa using h.left)]
      exact ih h.right _

theorem foldl_erase_filter {α : Type} [DecidableEq α] (p : α -> Bool)
    (xs : List α) :
    (xs.filter p).foldl List.erase xs = xs.filter fun x => !p x := by
  induction xs with
  | nil => rfl
  | cons x xs ih =>
      cases hx : p x with
      | true =>
          rw [List.filter_cons_of_pos hx, List.foldl_cons, List.erase_cons_head,
            ih, List.filter_cons_of_neg (by rw [hx]; decide)]
      | false =>
          have hnot : x ∉ xs.filter p := by
            intro hmem
            rw [(List.mem_filter.mp hmem).right] at hx
            cases hx
          rw [List.filter_cons_of_neg (by rw [hx]; decide),
            List.filter_cons_of_pos (by rw [hx]; rfl), foldl_erase_cons hnot, ih]

theorem record_captures (p : HHVacancyHTMLParser) (c : HtmlCapture) :
    (record lib p c).captures = p.captures.erase c := by
  unfold record
  cases truthy c.href <;> simp only <;> split <;> rfl

theorem foldl_record_captures (completed : List HtmlCapture)
    (p : HHVacancyHTMLParser) :
    (completed.foldl (record lib) p).captures =
      completed.foldl List.erase p.captures := by
  induction completed generalizing p with
  | nil => rfl
  | cons c completed ih =>
      rw [List.foldl_cons, ih, record_captures, List.foldl_cons]

theorem captureMeta_captures (attrs : HtmlAttrs) (p : HHVacancyHTMLParser) :
    (captureMeta lib attrs p).captures = p.captures := by
  unfold captureMeta
  split
  · split <;> rfl
  · rfl

theorem handleStarttag_captures (tag : String) (attrs : HtmlAttrs)
    (p : HHVacancyHTMLParser) :
    (handleStarttag lib tag attrs p).captures =
      p.captures.map (enter (truthy (attr lib attrs "href"))) ++
        openedBy lib attrs := by
  have hmeta : (if lib.lower tag = "meta" then captureMeta lib attrs p
      else p).captures = p.captures := by
    split
    · exact captureMeta_captures attrs p
    · rfl
  simp only [handleStarttag, openedBy]
  generalize (if lib.lower tag = "meta" then captureMeta lib attrs p else p) = q
    at hmeta
  have hscript : (if lib.lower tag = "script" ∧ isJsonLd lib attrs = true then
      { q with scriptParts := some [] } else q).captures = p.captures := by
    split <;> exact hmeta
  rw [hscript]
  cases attr lib attrs "data-qa" with
  | none => exact (List.append_nil _).symm
  | some key =>
      simp only
      split
      · rfl
      · exact (List.append_nil _).symm

theorem handleEndtag_captures (tag : String) (p : HHVacancyHTMLParser) :
    (handleEndtag lib tag p).captures =
      (p.captures.map leave).filter fun c => c.depth ≠ 0 := by
  rw [handleEndtag, foldl_record_captures, foldl_erase_filter]
  simp only [decide_not]

theorem handle_captures (p : HHVacancyHTMLParser) (event : HtmlEvent) :
    (handle lib p event).captures = capturesAfter lib p.captures event := by
  cases event with
  | data text => rfl
  | startTag tag attrs => exact handleStarttag_captures tag attrs p
  | endTag tag => exact handleEndtag_captures tag p

def capturesFed (lib : HtmlLibrary) (events : List HtmlEvent)
    (captures : List HtmlCapture) : List HtmlCapture :=
  events.foldl (capturesAfter lib) captures

theorem feedEvents_captures (events : List HtmlEvent)
    (p : HHVacancyHTMLParser) :
    (p.feedEvents lib events).captures = capturesFed lib events p.captures := by
  induction events generalizing p with
  | nil => rfl
  | cons event events ih =>
      rw [feedEvents, List.foldl_cons]
      change ((handle lib p event).feedEvents lib events).captures = _
      rw [ih, handle_captures]
      rfl

theorem capturesFed_cons (event : HtmlEvent) (events : List HtmlEvent)
    (captures : List HtmlCapture) :
    capturesFed lib (event :: events) captures =
      capturesFed lib events (capturesAfter lib captures event) :=
  rfl

theorem capturesFed_append (events more : List HtmlEvent)
    (captures : List HtmlCapture) :
    capturesFed lib (events ++ more) captures =
      capturesFed lib more (capturesFed lib events captures) :=
  List.foldl_append

/-- An open capture has a positive depth. -/
def Open (captures : List HtmlCapture) : Prop :=
  forall c, c ∈ captures -> 1 ≤ c.depth

theorem depth_openedBy {attrs : HtmlAttrs} {c : HtmlCapture}
    (h : c ∈ openedBy lib attrs) : c.depth = 1 := by
  unfold openedBy at h
  split at h
  · split at h
    · cases List.mem_singleton.mp h
      rfl
    · cases h
  · cases h

theorem Open.after {captures : List HtmlCapture} (h : Open captures)
    (event : HtmlEvent) : Open (capturesAfter lib captures event) := by
  intro c hc
  cases event with
  | startTag tag attrs =>
      rcases List.mem_append.mp hc with hold | hnew
      · rcases List.mem_map.mp hold with ⟨d, hd, rfl⟩
        have hdepth := h d hd
        change 1 ≤ d.depth + 1
        omega
      · exact Int.le_of_eq (depth_openedBy hnew).symm
  | endTag tag =>
      rcases List.mem_filter.mp hc with ⟨hmem, hkept⟩
      rcases List.mem_map.mp hmem with ⟨d, hd, rfl⟩
      have hdepth := h d hd
      have hne : (leave d).depth ≠ 0 := of_decide_eq_true hkept
      change d.depth - 1 ≠ 0 at hne
      change 1 ≤ d.depth - 1
      omega
  | data text =>
      rcases List.mem_map.mp hc with ⟨d, hd, rfl⟩
      exact h d hd

theorem open_capturesFed (events : List HtmlEvent)
    {captures : List HtmlCapture} (h : Open captures) :
    Open (capturesFed lib events captures) := by
  induction events generalizing captures with
  | nil => exact h
  | cons event events ih => exact ih (h.after event)

/-!
# Captures over a document

What is open before some nodes is open after them; its depth has grown by the
void elements of the nodes.
-/

/-- An open capture after the nodes. -/
def pass (lib : HtmlLibrary) (nodes : Markup) (c : HtmlCapture) :
    HtmlCapture :=
  { c with
    depth := c.depth + nodes.voids
    textParts := c.textParts ++ nodes.texts
    href := c.href.or (nodes.href lib) }

/-- Captures that nodes with so many void elements may have left open. -/
def LeftOpen (voids : Nat) (captures : List HtmlCapture) : Prop :=
  forall c, c ∈ captures -> 1 ≤ c.depth ∧ c.depth ≤ voids

theorem leftOpen_zero {captures : List HtmlCapture}
    (h : LeftOpen 0 captures) : captures = [] := by
  rw [List.eq_nil_iff_forall_not_mem]
  intro c hc
  have hdepth := h c hc
  omega

theorem LeftOpen.append {voids : Nat} {xs ys : List HtmlCapture}
    (hxs : LeftOpen voids xs) (hys : LeftOpen voids ys) :
    LeftOpen voids (xs ++ ys) := by
  intro c hc
  rcases List.mem_append.mp hc with hc | hc
  · exact hxs c hc
  · exact hys c hc

theorem LeftOpen.mono {voids voids' : Nat} {captures : List HtmlCapture}
    (h : LeftOpen voids captures) (hle : voids ≤ voids') :
    LeftOpen voids' captures := by
  intro c hc
  have hdepth := h c hc
  omega

theorem LeftOpen.pass {voids : Nat} {captures : List HtmlCapture}
    (h : LeftOpen voids captures) (nodes : Markup) :
    LeftOpen (voids + nodes.voids) (captures.map (pass lib nodes)) := by
  intro c hc
  rcases List.mem_map.mp hc with ⟨d, hd, rfl⟩
  have hdepth := h d hd
  change 1 ≤ d.depth + (nodes.voids : Int) ∧ d.depth + (nodes.voids : Int) ≤ _
  omega

theorem leftOpen_openedBy (attrs : HtmlAttrs) :
    LeftOpen 1 (openedBy lib attrs) := by
  intro c hc
  rw [depth_openedBy hc]
  exact ⟨Int.le_refl 1, Int.le_refl 1⟩

/-- What an end tag leaves of the captures in an element. -/
theorem LeftOpen.leave {voids : Nat} {captures : List HtmlCapture}
    (h : LeftOpen (voids + 1) captures) :
    LeftOpen voids ((captures.map leave).filter fun c => c.depth ≠ 0) := by
  intro c hc
  rcases List.mem_filter.mp hc with ⟨hmem, hkept⟩
  rcases List.mem_map.mp hmem with ⟨d, hd, rfl⟩
  have hdepth := h d hd
  have hne : (HHVacancyHTMLParser.leave d).depth ≠ 0 := of_decide_eq_true hkept
  change d.depth - 1 ≠ 0 at hne
  change 1 ≤ d.depth - 1 ∧ d.depth - 1 ≤ voids
  omega

theorem pass_empty (c : HtmlCapture) : pass lib .empty c = c := by
  simp [pass, Markup.voids, Markup.texts, Markup.href]

theorem pass_text (data : String) (next : Markup) (c : HtmlCapture) :
    pass lib next (addText data c) = pass lib (.text data next) c := by
  simp [pass, addText, Markup.voids, Markup.texts, Markup.href]

theorem pass_void {tag : String} (isVoid : tag ∈ voidTags)
    (attrs : HtmlAttrs) (next : Markup) (c : HtmlCapture) :
    pass lib next (enter (truthy (attr lib attrs "href")) c) =
      pass lib (.void tag isVoid attrs next) c := by
  simp only [pass, enter, Markup.voids, Markup.texts, Markup.href,
    Option.or_assoc]
  congr 1
  push_cast
  omega

/-- An element's tags cancel out. -/
theorem pass_element (tag : String) (attrs : HtmlAttrs)
    (children next : Markup) (c : HtmlCapture) :
    pass lib next (leave (pass lib children
        (enter (truthy (attr lib attrs "href")) c))) =
      pass lib (.element tag attrs children next) c := by
  simp only [pass, enter, leave, Markup.voids, Markup.texts, Markup.href,
    Option.or_assoc, List.append_assoc]
  congr 1
  push_cast
  omega

theorem filter_leave_pass {captures : List HtmlCapture} (h : Open captures)
    (href : Option String) (children : Markup) :
    (((captures.map (enter href)).map (pass lib children)).map leave).filter
        (fun c => c.depth ≠ 0) =
      ((captures.map (enter href)).map (pass lib children)).map leave := by
  rw [List.filter_eq_self]
  intro c hc
  rw [List.mem_map] at hc
  rcases hc with ⟨d, hd, rfl⟩
  rw [List.map_map, List.mem_map] at hd
  rcases hd with ⟨d, hd, rfl⟩
  have hdepth := h d hd
  rw [decide_eq_true_eq]
  change d.depth + 1 + (children.voids : Int) - 1 ≠ 0
  omega

/-- What an end tag leaves open of the captures in the element. -/
def leftBy (lib : HtmlLibrary) (attrs : HtmlAttrs) (children : Markup)
    (inner : List HtmlCapture) : List HtmlCapture :=
  (((openedBy lib attrs).map (pass lib children) ++ inner).map leave).filter
    fun c => c.depth ≠ 0

theorem leftOpen_leftBy (attrs : HtmlAttrs) (children : Markup)
    {inner : List HtmlCapture} (h : LeftOpen children.voids inner) :
    LeftOpen children.voids (leftBy lib attrs children inner) := by
  apply LeftOpen.leave
  apply LeftOpen.append
  · rw [Nat.add_comm]
    exact (leftOpen_openedBy attrs).pass children
  · exact h.mono (Nat.le_succ _)

theorem capturesAfter_endTag (tag : String) (attrs : HtmlAttrs)
    (children : Markup) {captures : List HtmlCapture} (h : Open captures)
    (inner : List HtmlCapture) :
    capturesAfter lib
        ((captures.map (enter (truthy (attr lib attrs "href"))) ++
          openedBy lib attrs).map (pass lib children) ++ inner)
        (.endTag tag) =
      captures.map (fun c => leave (pass lib children
        (enter (truthy (attr lib attrs "href")) c))) ++
          leftBy lib attrs children inner := by
  simp only [capturesAfter, leftBy, List.map_append, List.filter_append,
    List.append_assoc]
  rw [filter_leave_pass h, List.map_map, List.map_map]
  rfl

theorem capturesFed_markup (nodes : Markup) {captures : List HtmlCapture}
    (h : Open captures) :
    exists more, capturesFed lib nodes.events captures =
        captures.map (pass lib nodes) ++ more ∧ LeftOpen nodes.voids more := by
  induction nodes generalizing captures with
  | empty =>
      refine ⟨[], ?_, fun c hc => by cases hc⟩
      rw [List.append_nil, List.map_congr_left fun c _ => pass_empty c,
        List.map_id']
      rfl
  | text data next ih =>
      rcases ih (Open.after h (.data data)) with ⟨more, hmore, hleft⟩
      refine ⟨more, ?_, hleft⟩
      rw [Markup.events, capturesFed_cons, hmore, capturesAfter, List.map_map]
      congr 1
      exact List.map_congr_left fun c _ => pass_text data next c
  | void tag isVoid attrs next ih =>
      rcases ih (@Open.after lib _ h (.startTag tag attrs)) with
        ⟨more, hmore, hleft⟩
      refine ⟨(openedBy lib attrs).map (pass lib next) ++ more, ?_, ?_⟩
      · rw [Markup.events, capturesFed_cons, hmore, capturesAfter,
          List.map_append, List.map_map, List.append_assoc]
        congr 1
        exact List.map_congr_left fun c _ => pass_void isVoid attrs next c
      · rw [Markup.voids]
        apply LeftOpen.append
        · rw [Nat.add_comm]
          exact (leftOpen_openedBy attrs).pass next
        · exact hleft.mono (Nat.le_succ _)
  | element tag attrs children next ihchildren ihnext =>
      have hstart := @Open.after lib _ h (.startTag tag attrs)
      rcases ihchildren hstart with ⟨inner, hinner, hleft⟩
      rcases ihnext (@Open.after lib _ (open_capturesFed children.events hstart)
        (.endTag tag)) with ⟨more, hmore, hleftMore⟩
      refine ⟨(leftBy lib attrs children inner).map (pass lib next) ++ more,
        ?_, ?_⟩
      · rw [Markup.events, capturesFed_cons, capturesFed_append,
          capturesFed_cons, hmore, hinner, capturesAfter,
          capturesAfter_endTag tag attrs children h, List.map_append,
          List.map_map, List.append_assoc]
        congr 1
        exact List.map_congr_left fun c _ =>
          pass_element tag attrs children next c
      · exact ((leftOpen_leftBy attrs children hleft).pass next).append
          (hleftMore.mono (Nat.le_add_left _ _))

end Captures

/-!
# The text of an element
-/

section Elements

variable {lib : HtmlLibrary}

/-- The texts after a capture with these parts was recorded. -/
def recordedText (lib : HtmlLibrary) (key : String) (parts : List String)
    (values : List (String × List String)) : List (String × List String) :=
  if normalizeText lib (joined parts) ≠ "" then
    appendValue key (normalizeText lib (joined parts)) values
  else values

theorem record_dataQaTexts (p : HHVacancyHTMLParser) (c : HtmlCapture) :
    (record lib p c).dataQaTexts =
      recordedText lib c.key c.textParts p.dataQaTexts := by
  unfold record recordedText
  cases truthy c.href <;> simp only <;> split <;> rfl

theorem closeScript_dataQaTexts (tag : String) (p : HHVacancyHTMLParser) :
    (closeScript lib tag p).dataQaTexts = p.dataQaTexts := by
  unfold closeScript
  split
  · split <;> rfl
  · rfl

/-- The parser when the end tag of the element comes. -/
def beforeEnd (lib : HtmlLibrary) (p : HHVacancyHTMLParser) (tag : String)
    (attrs : HtmlAttrs) (children : Markup) : HHVacancyHTMLParser :=
  p.feedEvents lib (.startTag tag attrs :: children.events)

/-- The capture of the element is open until its end tag, which completes it,
and the text that is recorded is that of the nodes inside.  The captures that
were open before the element stay open. -/
structure RecordsText (lib : HtmlLibrary) (p : HHVacancyHTMLParser)
    (key tag : String) (attrs : HtmlAttrs) (children : Markup) : Prop where
  opened : exists capture, capture.key = key ∧
    (beforeEnd lib p tag attrs children).captures =
      (p.captures.map (enter (truthy (attr lib attrs "href")))).map
        (pass lib children) ++ [capture]
  closed : (handleEndtag lib tag (beforeEnd lib p tag attrs children)).captures =
    p.captures.map (pass lib (.element tag attrs children .empty))
  recorded :
    (handleEndtag lib tag (beforeEnd lib p tag attrs children)).dataQaTexts =
      recordedText lib key children.texts
        (beforeEnd lib p tag attrs children).dataQaTexts

/-- A void element has no end tag of its own. -/
def CapturedExactly (lib : HtmlLibrary) (p : HHVacancyHTMLParser)
    (key : String) : HtmlElement -> Prop
  | .ordinary tag attrs children => RecordsText lib p key tag attrs children
  | .void _ _ => False

/-- The element is one the fallback knows. -/
def HtmlElement.HasDataQa (lib : HtmlLibrary) (e : HtmlElement)
    (key : String) : Prop :=
  attr lib e.attrs "data-qa" = some key ∧ key ∈ dataQaFields

def newCapture (lib : HtmlLibrary) (key : String) (attrs : HtmlAttrs) :
    HtmlCapture where
  key := key
  depth := 1
  textParts := []
  href := truthy (attr lib attrs "href")

theorem openedBy_of_dataQa {attrs : HtmlAttrs} {key : String}
    (h : attr lib attrs "data-qa" = some key) (hkey : key ∈ dataQaFields) :
    openedBy lib attrs = [newCapture lib key attrs] := by
  unfold openedBy
  rw [h]
  exact if_pos hkey

variable {p : HHVacancyHTMLParser} {key tag : String} {attrs : HtmlAttrs}
  {children : Markup}

theorem beforeEnd_captures (hopen : Open p.captures) :
    exists inner, LeftOpen children.voids inner ∧
      (beforeEnd lib p tag attrs children).captures =
        (p.captures.map (enter (truthy (attr lib attrs "href"))) ++
          openedBy lib attrs).map (pass lib children) ++ inner := by
  have hstart := @Open.after lib _ hopen (.startTag tag attrs)
  rcases capturesFed_markup children hstart with ⟨inner, hinner, hleft⟩
  refine ⟨inner, hleft, ?_⟩
  rw [beforeEnd, feedEvents_captures, capturesFed_cons, hinner]
  rfl

theorem afterEnd_captures (hopen : Open p.captures) {inner : List HtmlCapture}
    (hinner : (beforeEnd lib p tag attrs children).captures =
      (p.captures.map (enter (truthy (attr lib attrs "href"))) ++
        openedBy lib attrs).map (pass lib children) ++ inner) :
    (handleEndtag lib tag (beforeEnd lib p tag attrs children)).captures =
      p.captures.map (pass lib (.element tag attrs children .empty)) ++
        leftBy lib attrs children inner := by
  have hend := @capturesAfter_endTag lib tag attrs children _ hopen inner
  rw [handleEndtag_captures, hinner]
  rw [capturesAfter] at hend
  rw [hend]
  congr 1
  apply List.map_congr_left
  intro c _
  rw [← pass_element, pass_empty]

theorem handleEndtag_dataQaTexts {c : HtmlCapture}
    {q : HHVacancyHTMLParser}
    (h : (q.captures.map leave).filter (fun c => c.depth = 0) = [c]) :
    (handleEndtag lib tag q).dataQaTexts =
      recordedText lib c.key c.textParts q.dataQaTexts := by
  rw [handleEndtag, h, List.foldl_cons, List.foldl_nil, record_dataQaTexts]
  exact congrArg _ (closeScript_dataQaTexts tag q)

theorem leave_pass_depth (c : HtmlCapture) (href : Option String) :
    (leave (pass lib children (enter href c))).depth =
      c.depth + children.voids := by
  change c.depth + 1 + (children.voids : Int) - 1 = _
  omega

theorem recordsText_of_no_voids (hopen : Open p.captures)
    (hdata : attr lib attrs "data-qa" = some key) (hkey : key ∈ dataQaFields)
    (hvoids : children.voids = 0) :
    RecordsText lib p key tag attrs children := by
  rcases @beforeEnd_captures lib p tag attrs children hopen with
    ⟨inner, hleft, hbefore⟩
  rw [hvoids] at hleft
  cases leftOpen_zero hleft
  have hafter := afterEnd_captures hopen hbefore
  have hzero : (leave (pass lib children (newCapture lib key attrs))).depth =
      0 := by
    change 1 + (children.voids : Int) - 1 = 0
    rw [hvoids]
    rfl
  rw [leftBy, openedBy_of_dataQa hdata hkey] at hafter
  rw [openedBy_of_dataQa hdata hkey, List.append_nil, List.map_append] at hbefore
  refine ⟨⟨_, rfl, hbefore⟩, ?_, ?_⟩
  · rw [hafter, List.append_nil, List.map_singleton, List.map_singleton,
      List.filter_cons_of_neg (by simpa using hzero), List.filter_nil,
      List.append_nil]
  · have hcompleted : ((beforeEnd lib p tag attrs children).captures.map
        leave).filter (fun c => c.depth = 0) =
        [leave (pass lib children (newCapture lib key attrs))] := by
      rw [hbefore, List.map_append, List.filter_append, List.map_singleton,
        List.map_singleton, List.filter_cons_of_pos (by simpa using hzero),
        List.filter_nil, List.append_left_eq_self, List.filter_eq_nil_iff]
      intro c hc
      rw [List.map_map, List.map_map, List.mem_map] at hc
      rcases hc with ⟨d, hd, rfl⟩
      have hdepth := hopen d hd
      simp only [Function.comp_apply, leave_pass_depth, decide_eq_true_eq]
      omega
    have hparts : (leave (pass lib children
        (newCapture lib key attrs))).textParts = children.texts :=
      List.nil_append _
    have hrecorded := @handleEndtag_dataQaTexts lib tag _ _ hcompleted
    rw [hparts] at hrecorded
    exact hrecorded

theorem voids_eq_zero_of_recordsText (hopen : Open p.captures)
    (hdata : attr lib attrs "data-qa" = some key) (hkey : key ∈ dataQaFields)
    (h : RecordsText lib p key tag attrs children) : children.voids = 0 := by
  rcases @beforeEnd_captures lib p tag attrs children hopen with
    ⟨inner, _, hbefore⟩
  have hafter := afterEnd_captures hopen hbefore
  rw [h.closed, List.self_eq_append_right, leftBy,
    openedBy_of_dataQa hdata hkey, List.filter_eq_nil_iff] at hafter
  have hnew := hafter (leave (pass lib children (newCapture lib key attrs)))
    (by simp)
  rw [decide_eq_true_eq, not_not] at hnew
  change 1 + (children.voids : Int) - 1 = 0 at hnew
  omega

/-- The capture of an element is exactly its text if and only if the element
is no void element and holds none. -/
theorem capture_exact_iff (doc : Markup) {e : HtmlElement}
    {before : List HtmlEvent} {key : String} (hoccurs : Occurs e before doc)
    (hdata : e.HasDataQa lib key) :
    CapturedExactly lib (HHVacancyHTMLParser.start.feedEvents lib before) key
        e <-> e.voids = 0 := by
  have hopen : Open (HHVacancyHTMLParser.start.feedEvents lib before).captures := by
    rw [feedEvents_captures]
    exact open_capturesFed before fun c hc => by cases hc
  cases e with
  | void tag attrs =>
      constructor
      · exact fun h => h.elim
      · exact fun h => by cases h
  | ordinary tag attrs children =>
      constructor
      · exact voids_eq_zero_of_recordsText hopen hdata.left hdata.right
      · exact recordsText_of_no_voids hopen hdata.left hdata.right

end Elements

/-!
# Two titles
-/

/-- A library for texts of ASCII characters without character references. -/
def plainLibrary : HtmlLibrary where
  feed := fun text => [.data text]
  unescape := id
  lower := fun s => String.ofList (s.toList.map Char.toLower)
  digitValue := asciiLibrary.digitValue
  jsonLoads := fun _ => .error (.valueError "Expecting value")
  urljoin := fun _ url => .ok url
  recursionLimit := 1000

def titleAttrs : HtmlAttrs :=
  [("data-qa", some "vacancy-title")]

/-- Two nested elements. -/
def plainTitle : HtmlElement :=
  .ordinary "h1" titleAttrs
    (.element "span" [] (.text "Python" .empty) (.text "developer" .empty))

/-- A line break between two words. -/
def brokenTitle : HtmlElement :=
  .ordinary "h1" titleAttrs
    (.text "Python" (.void "br" (by decide) [] (.text "developer" .empty)))

/-- The document that has a heading, after a text, in a block. -/
def pageWith : HtmlElement -> Markup
  | .ordinary tag attrs children =>
      .element "div" [] (.text "News" (.element tag attrs children .empty))
        .empty
  | .void _ _ => .empty

def beforeTitle : List HtmlEvent :=
  [.startTag "div" [], .data "News"]

theorem plainTitle_hasDataQa : plainTitle.HasDataQa plainLibrary dataQaTitle := by
  constructor <;> decide

theorem capture_exact_iff_plain :
    CapturedExactly plainLibrary
      (HHVacancyHTMLParser.start.feedEvents plainLibrary beforeTitle)
      dataQaTitle plainTitle :=
  (capture_exact_iff (pageWith plainTitle)
    (.inside (.afterText (.ordinary rfl))) plainTitle_hasDataQa).mpr rfl

/-- The capture of the broken title is open after its end tag, and no text is
recorded. -/
theorem capture_not_exact :
    Occurs brokenTitle beforeTitle (pageWith brokenTitle) ∧
      brokenTitle.HasDataQa plainLibrary dataQaTitle ∧
      (HHVacancyHTMLParser.start.feedEvents plainLibrary
        (beforeTitle ++ brokenTitle.events)).dataQaTexts = [] ∧
      ¬ CapturedExactly plainLibrary
        (HHVacancyHTMLParser.start.feedEvents plainLibrary beforeTitle)
        dataQaTitle brokenTitle := by
  refine ⟨.inside (.afterText (.ordinary rfl)), ?_, ?_, ?_⟩
  · constructor <;> decide
  · rfl
  · intro h
    have hclosed := congrArg List.length h.closed
    exact absurd hclosed (by decide)

end CoverAI
