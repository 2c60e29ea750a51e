import CoverAI.Vacancy.HtmlCapture

/-!
# The stack of captures

A new capture starts at depth one after every open capture went one deeper, so
the depths fall from the oldest capture to the newest.  An end tag can then
complete the newest capture only, and the removal of an equal record finds no
other record.
-/

namespace CoverAI

open HHVacancyHTMLParser

section CaptureStack

variable {lib : HtmlLibrary}

structure StackDiscipline (captures : List HtmlCapture) : Prop where
  positive : Open captures
  decreasing : captures.Pairwise fun older newer => newer.depth < older.depth

theorem stackDiscipline_nil : StackDiscipline [] := by
  constructor
  · intro c hc
    cases hc
  · exact List.Pairwise.nil

/-- Every open capture is moved by the same number, so the order stays. -/
theorem pairwise_map_shift {captures : List HtmlCapture}
    {f : HtmlCapture -> HtmlCapture} {n : Int}
    (hf : forall c, (f c).depth = c.depth + n)
    (h : captures.Pairwise fun older newer => newer.depth < older.depth) :
    (captures.map f).Pairwise fun older newer => newer.depth < older.depth := by
  apply List.pairwise_map.mpr
  apply h.imp
  intro older newer hlt
  rw [hf older, hf newer]
  omega

theorem pairwise_openedBy (attrs : HtmlAttrs) :
    (openedBy lib attrs).Pairwise fun older newer =>
      newer.depth < older.depth := by
  unfold openedBy
  split
  · split
    · exact List.pairwise_singleton _ _
    · exact List.Pairwise.nil
  · exact List.Pairwise.nil

theorem StackDiscipline.after {captures : List HtmlCapture}
    (h : StackDiscipline captures) (event : HtmlEvent) :
    StackDiscipline (capturesAfter lib captures event) := by
  refine ⟨h.positive.after event, ?_⟩
  cases event with
  | startTag tag attrs =>
      apply List.pairwise_append.mpr
      refine ⟨pairwise_map_shift (fun c => rfl) h.decreasing,
        pairwise_openedBy attrs, ?_⟩
      intro older holder newer hnewer
      rcases List.mem_map.mp holder with ⟨c, hc, rfl⟩
      have hpositive := h.positive c hc
      rw [depth_openedBy hnewer]
      change 1 < c.depth + 1
      omega
  | endTag tag =>
      exact (pairwise_map_shift (n := -1) (fun c => rfl) h.decreasing).filter _
  | data text =>
      exact pairwise_map_shift (fun c => (Int.add_zero c.depth).symm)
        h.decreasing

theorem stackDiscipline_capturesFed (events : List HtmlEvent)
    {captures : List HtmlCapture} (h : StackDiscipline captures) :
    StackDiscipline (capturesFed lib events captures) := by
  induction events generalizing captures with
  | nil => exact h
  | cons event events ih => exact ih (h.after event)

theorem stackDiscipline_feedEvents (events : List HtmlEvent) :
    StackDiscipline (start.feedEvents lib events).captures := by
  rw [feedEvents_captures]
  exact stackDiscipline_capturesFed events stackDiscipline_nil

/-!
# What an end tag completes
-/

/-- The captures whose depth an end tag takes to zero. -/
def completedBy (captures : List HtmlCapture) : List HtmlCapture :=
  (captures.map leave).filter fun capture => capture.depth = 0

/-- Below the newest capture none has a depth of one. -/
theorem completedBy_append_singleton {older : List HtmlCapture}
    {newest : HtmlCapture} (h : StackDiscipline (older ++ [newest])) :
    completedBy older = [] := by
  apply List.filter_eq_nil_iff.mpr
  intro c hc hzero
  rcases List.mem_map.mp hc with ⟨d, hd, rfl⟩
  have hlt := (List.pairwise_append.mp h.decreasing).right.right d hd newest
    (List.mem_singleton.mpr rfl)
  have hpositive := h.positive newest (by simp)
  have hdepth : d.depth - 1 = 0 := of_decide_eq_true hzero
  omega

/-- A capture that completes is the newest one, it completes alone, and no
older capture is equal to it. -/
theorem completedBy_eq_newest {captures : List HtmlCapture}
    (h : StackDiscipline captures) {c : HtmlCapture}
    (hc : c ∈ completedBy captures) :
    completedBy captures = [c] ∧
      exists older, captures.map leave = older ++ [c] ∧ c ∉ older := by
  rcases List.eq_nil_or_concat captures with rfl | ⟨older, newest, rfl⟩
  · cases hc
  · rw [List.concat_eq_append] at h hc ⊢
    have holder := completedBy_append_singleton h
    have hsplit : completedBy (older ++ [newest]) = completedBy [newest] := by
      rw [completedBy, List.map_append, List.filter_append]
      change completedBy older ++ completedBy [newest] = _
      rw [holder, List.nil_append]
    rw [hsplit] at hc ⊢
    rcases List.mem_filter.mp hc with ⟨hmem, hzero⟩
    cases List.mem_singleton.mp hmem
    constructor
    · exact List.filter_cons_of_pos hzero
    · exists older.map leave
      constructor
      · rw [List.map_append]
        rfl
      · intro hmem
        have hcompleted : leave newest ∈ completedBy older :=
          List.mem_filter.mpr ⟨hmem, hzero⟩
        rw [holder] at hcompleted
        cases hcompleted

/-- What an end tag does to a stack of captures. -/
structure EndsNewest (lib : HtmlLibrary) (p : HHVacancyHTMLParser)
    (tag : String) : Prop where
  noneCompleted : completedBy p.captures = [] ->
    (handleEndtag lib tag p).captures = p.captures.map leave
  oneCompleted : forall c, c ∈ completedBy p.captures ->
    completedBy p.captures = [c] ∧
      exists older, p.captures.map leave = older ++ [c] ∧ c ∉ older ∧
        (p.captures.map leave).erase c = older ∧
        (handleEndtag lib tag p).captures = older

theorem StackDiscipline.endsNewest {p : HHVacancyHTMLParser}
    (h : StackDiscipline p.captures) (tag : String) : EndsNewest lib p tag := by
  have hleft : (handleEndtag lib tag p).captures =
      (completedBy p.captures).foldl List.erase (p.captures.map leave) := by
    rw [handleEndtag, foldl_record_captures]
    rfl
  constructor
  · intro hnone
    rw [hleft, hnone]
    rfl
  · intro c hc
    rcases completedBy_eq_newest h hc with ⟨hone, older, hstack, hnot⟩
    have herase : (p.captures.map leave).erase c = older := by
      rw [hstack, List.erase_append_right _ hnot, List.erase_cons_head,
        List.append_nil]
    refine ⟨hone, older, hstack, hnot, herase, ?_⟩
    rw [hleft, hone, List.foldl_cons, herase]
    rfl

theorem captures_form_stack (events : List HtmlEvent) :
    StackDiscipline (start.feedEvents lib events).captures ∧
      forall tag, EndsNewest lib (start.feedEvents lib events) tag := by
  have hstack := @stackDiscipline_feedEvents lib events
  exact ⟨hstack, hstack.endsNewest⟩

end CaptureStack
end CoverAI
