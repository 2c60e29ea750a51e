import CoverAI.Services.Profile
import CoverAI.Text.Trim

/-!
# Stored resume texts

A text that was accepted is stripped, checked and cut, in this order.  What is
stored is accepted again as it is, and saving it again leaves the store alone,
exactly when the cut does not leave whitespace at the end.
-/

namespace CoverAI

open Txn Program Scan

/-!
# Stripped texts
-/

theorem toList_strip (s : String) :
    (strip s).toList = trim isSpace s.toList := by
  rw [strip, String.toList_ofList]
  rfl

theorem unpadded_strip (s : String) : Unpadded isSpace (strip s).toList := by
  rw [toList_strip]
  exact unpadded_trim s.toList

theorem strip_eq_self_iff (s : String) :
    strip s = s <-> Unpadded isSpace s.toList := by
  rw [<- trim_eq_self_iff, <- toList_strip]
  exact String.toList_inj.symm

/-!
# The three outcomes of the normalization
-/

def storedText (resumeText : String) : String :=
  String.ofList ((strip resumeText).toList.take maxResumeTextLength)

theorem toList_storedText (resumeText : String) :
    (storedText resumeText).toList =
      (strip resumeText).toList.take maxResumeTextLength := by
  rw [storedText, String.toList_ofList]

theorem length_storedText (resumeText : String) :
    (storedText resumeText).length =
      min maxResumeTextLength (strip resumeText).length := by
  rw [<- String.length_toList, toList_storedText, List.length_take,
    String.length_toList]

theorem storedText_of_le {resumeText : String}
    (h : (strip resumeText).length ≤ maxResumeTextLength) :
    storedText resumeText = strip resumeText := by
  rw [<- String.length_toList] at h
  rw [storedText, List.take_of_length_le h, String.ofList_toList]

/-- A text is accepted when it is long enough, and the stored text is what the
cut leaves of it. -/
theorem normalizeResumeText_eq_ok_iff {resumeText : String}
    {n : NormalizedResumeText} :
    normalizeResumeText resumeText = .ok n <->
      minResumeTextLength ≤ (strip resumeText).length ∧
        n.text = storedText resumeText ∧
        n.wasTruncated =
          decide (maxResumeTextLength < (strip resumeText).length) := by
  rcases n with ⟨text, wasTruncated⟩
  unfold normalizeResumeText
  simp only
  split
  · rename_i hshort
    constructor
    · intro h
      cases h
    · intro h
      exact absurd h.left (Nat.not_le_of_lt hshort)
  · rename_i hlong
    split
    · rename_i hcut
      simp only [Except.ok.injEq, NormalizedResumeText.mk.injEq]
      rw [decide_eq_true hcut]
      constructor
      · intro h
        exact ⟨Nat.not_lt.mp hlong, h.left.symm, h.right.symm⟩
      · intro h
        exact ⟨h.right.left.symm, h.right.right.symm⟩
    · rename_i hwhole
      simp only [Except.ok.injEq, NormalizedResumeText.mk.injEq]
      rw [decide_eq_false hwhole, storedText_of_le (Nat.not_lt.mp hwhole)]
      constructor
      · intro h
        exact ⟨Nat.not_lt.mp hlong, h.left.symm, h.right.symm⟩
      · intro h
        exact ⟨h.right.left.symm, h.right.right.symm⟩

/-- A text within the bounds that carries no padding is stored as it is. -/
theorem normalizeResumeText_of_unpadded {text : String}
    (hpad : Unpadded isSpace text.toList)
    (hmin : minResumeTextLength ≤ text.length)
    (hmax : text.length ≤ maxResumeTextLength) :
    normalizeResumeText text = .ok { text := text, wasTruncated := false } := by
  have hstrip : strip text = text := (strip_eq_self_iff text).mpr hpad
  apply normalizeResumeText_eq_ok_iff.mpr
  rw [hstrip]
  refine ⟨hmin, ?_, ?_⟩
  · rw [storedText_of_le (by rwa [hstrip]), hstrip]
  · exact (decide_eq_false (Nat.not_lt.mpr hmax)).symm

/-!
# Saving a profile
-/

/-- The profile of the user is the row under the key. -/
def HoldsProfile (db : Db) (profileId : Int) (profile : ResumeProfile) : Prop :=
  db.resumeProfiles.first? (fun p => p.userId = profile.userId) =
    some (profileId, profile)

theorem insertResumeProfile_fresh {id : Int} {p : ResumeProfile} {db : Db}
    (h : (insertResumeProfile id p).violation db = none) :
    db.resumeProfiles.get id = none := by
  unfold insertResumeProfile at h
  simp only at h
  split at h
  · exact (violation_insertInto.mp h).left
  · cases h

theorem createProfile_ensures (userId : Int) (title resumeText : String)
    (s : Store coverAI) :
    (createProfile userId title resumeText).Ensures
      (fun result s' =>
        HoldsProfile s'.db result.profileId result.profile ∧
          result.profile.userId = userId ∧
          normalizeResumeText resumeText =
            .ok ⟨result.profile.resumeText, result.wasTruncated⟩) s := by
  simp only [createProfile, profileByUserId, select, ask, read_bind, ret_bind,
    bind_eq, pure_eq, ensures_read]
  cases hfirst : s.db.resumeProfiles.first? fun p => p.userId = userId with
  | some found => exact ensures_raise _ s
  | none =>
      cases htitle : normalizeProfileTitle title with
      | error e => exact ensures_raise _ s
      | ok normalizedTitle =>
          cases htext : normalizeResumeText resumeText with
          | error e => exact ensures_raise _ s
          | ok normalizedText =>
              simp only [ofExcept, createResumeProfile, draw, nextval_bind,
                ret_bind, bind_eq, pure_eq, bind_assoc, ensures_nextval,
                ensures_flushUnit_bind, ensures_ret, and_true]
              intro db hdb
              rcases Write.attempt_cons_eq_ok.mp hdb with ⟨hfree, hdone⟩
              cases hdone
              have hget := insertResumeProfile_fresh hfree
              exact Table.first?_insert_of_none hfirst hget rfl
                (decide_eq_true rfl)

theorem ResumeProfile.write_text (loaded : ResumeProfile) (text : String) :
    ResumeProfile.write loaded { loaded with resumeText := text } loaded =
      { loaded with resumeText := text } := by
  rw [ResumeProfile.write, changed_loaded]

theorem updateProfile_ensures (userId : Int) (resumeText : String)
    (s : Store coverAI) :
    (updateProfile userId resumeText).Ensures
      (fun result s' =>
        HoldsProfile s'.db result.profileId result.profile ∧
          result.profile.userId = userId ∧
          normalizeResumeText resumeText =
            .ok ⟨result.profile.resumeText, result.wasTruncated⟩) s := by
  simp only [updateProfile, profileByUserId, select, ask, read_bind, ret_bind,
    bind_eq, pure_eq, ensures_read]
  cases hfirst : s.db.resumeProfiles.first? fun p => p.userId = userId with
  | none => exact ensures_raise _ s
  | some found =>
      rcases found with ⟨profileId, profile⟩
      have hget := Table.get_of_first? hfirst
      have howner : profile.userId = userId :=
        by simpa using Table.property_of_first? hfirst
      cases htext : normalizeResumeText resumeText with
      | error e => exact ensures_raise _ s
      | ok normalizedText =>
          simp only [ofExcept, updateProfileText, select, ask, read_bind,
            ret_bind, bind_eq, pure_eq, bind_assoc, ensures_read, hget,
            ensures_flushUnit_bind, ensures_ret, and_true]
          intro db hdb
          rcases Write.attempt_cons_eq_ok.mp hdb with ⟨_, hdone⟩
          cases hdone
          refine ⟨?_, howner⟩
          have hkept := Table.first?_modify s.db.resumeProfiles profileId
            (f := ResumeProfile.write profile
              { profile with resumeText := normalizedText.text })
            (p := fun p => decide (p.userId = userId)) fun r => rfl
          rw [hfirst, Option.map_some, Table.modifyEntry, if_pos rfl,
            Table.checkedUpdate_of_check rfl,
            ResumeProfile.write_text profile] at hkept
          rw [HoldsProfile, updateResumeProfile_apply, howner]
          rw [howner] at hkept
          exact hkept

/-- A stored text that is accepted as it is changes nothing when it is saved
again. -/
theorem updateProfile_resave {profileId : Int} {profile : ResumeProfile}
    {s : Store coverAI} (hprofile : HoldsProfile s.db profileId profile)
    (htext : normalizeResumeText profile.resumeText =
      .ok { text := profile.resumeText, wasTruncated := false }) :
    (updateProfile profile.userId profile.resumeText).transact s =
      (.ok {
        profileId := profileId
        profile := profile
        wasTruncated := false }, s) := by
  have hget := Table.get_of_first? hprofile
  have hsame : ResumeProfile.write profile profile profile = profile :=
    ResumeProfile.write_text profile profile.resumeText
  have hfree : (updateResumeProfile profileId profile profile).violation
      s.db = none :=
    violation_updateIn.mpr fun _ _ => noChecks_eq _
  apply transact_of_ok
  simp only [updateProfile, profileByUserId, updateProfileText, select, ask,
    read_bind, ret_bind, bind_eq, pure_eq, run, htext, ofExcept]
  rw [HoldsProfile] at hprofile
  rw [hprofile]
  simp only [run, hget, flushUnit, flush_bind, ret_bind]
  rw [Write.attempt_cons_of_none hfree, updateResumeProfile_apply,
    Table.modify_eq_self hget hsame]
  rfl

/-!
# Saving a stored text again
-/

/-- The two ways to save a resume text. -/
inductive SavesProfile (userId : Int) (resumeText : String) :
    Session ProfileResult -> Prop where
  | create (title : String) :
      SavesProfile userId resumeText (createProfile userId title resumeText)
  | update : SavesProfile userId resumeText (updateProfile userId resumeText)

theorem SavesProfile.ensures {userId : Int} {resumeText : String}
    {save : Session ProfileResult} (h : SavesProfile userId resumeText save)
    (s : Store coverAI) :
    save.Ensures
      (fun result s' =>
        HoldsProfile s'.db result.profileId result.profile ∧
          result.profile.userId = userId ∧
          normalizeResumeText resumeText =
            .ok ⟨result.profile.resumeText, result.wasTruncated⟩) s := by
  cases h with
  | create title => exact createProfile_ensures userId title resumeText s
  | update => exact updateProfile_ensures userId resumeText s

/-- What is promised of an accepted text and of what is stored for it. -/
structure KeptText (resumeText : String) (n : NormalizedResumeText) :
    Prop where
  unpadded : Unpadded isSpace n.text.toList
  minLength : minResumeTextLength ≤ n.text.length
  maxLength : n.text.length ≤ maxResumeTextLength
  isPrefix : n.text.toList <+: (strip resumeText).toList
  accepted :
    normalizeResumeText n.text = .ok { text := n.text, wasTruncated := false }
  resaved : forall userId save s s' result,
    SavesProfile userId resumeText save -> save.transact s = (.ok result, s') ->
      (updateProfile userId n.text).transact s' =
        (.ok { result with wasTruncated := false }, s')

/-- The text is not cut, or it is cut after a character that stays. -/
def CutAfterText (resumeText : String) : Prop :=
  (strip resumeText).length ≤ maxResumeTextLength ∨
    forall c, (strip resumeText).toList[maxResumeTextLength - 1]? = some c ->
      isSpace c = false

theorem unpadded_storedText_iff (resumeText : String) :
    Unpadded isSpace (storedText resumeText).toList <->
      CutAfterText resumeText := by
  by_cases hwhole : (strip resumeText).length ≤ maxResumeTextLength
  · rw [storedText_of_le hwhole]
    constructor
    · intro _
      exact Or.inl hwhole
    · intro _
      exact unpadded_strip resumeText
  · have hcut :
        maxResumeTextLength - 1 + 1 ≤ (strip resumeText).toList.length := by
      rw [String.length_toList]
      unfold maxResumeTextLength at hwhole ⊢
      omega
    rw [toList_storedText, (unpadded_strip resumeText).take_iff]
    have htail := stops_reverse_take_iff (p := isSpace) hcut
    constructor
    · intro h
      exact Or.inr (htail.mp h)
    · intro h
      rcases h with hle | hlast
      · exact absurd hle hwhole
      · exact htail.mpr hlast

theorem normalizeResumeText_kept_iff {resumeText : String}
    {n : NormalizedResumeText} (h : normalizeResumeText resumeText = .ok n) :
    KeptText resumeText n <-> CutAfterText resumeText := by
  rcases normalizeResumeText_eq_ok_iff.mp h with ⟨hlong, htext, _⟩
  have hlength := length_storedText resumeText
  rw [<- htext] at hlength
  have hmin : minResumeTextLength ≤ n.text.length := by
    unfold minResumeTextLength maxResumeTextLength at *
    omega
  have hmax : n.text.length ≤ maxResumeTextLength := by omega
  rw [<- unpadded_storedText_iff, <- htext]
  constructor
  · intro hkept
    exact hkept.unpadded
  · intro hpad
    have haccepted := normalizeResumeText_of_unpadded hpad hmin hmax
    refine ⟨hpad, hmin, hmax, ?_, haccepted, ?_⟩
    · rw [htext, toList_storedText]
      exact List.take_prefix _ _
    · intro userId save s s' result hsave hrun
      rcases ensures_of_run (hsave.ensures s) (run_of_transact_ok hrun) with
        ⟨hprofile, howner, hnormalized⟩
      rw [hnormalized] at h
      cases h
      rw [<- howner]
      exact updateProfile_resave hprofile haccepted

def letters (n : Nat) : List Char :=
  List.replicate n 'a'

/-- A text that is cut inside a word. -/
def longWord : String :=
  String.ofList (letters 6001)

theorem strip_longWord : strip longWord = longWord := by
  apply (strip_eq_self_iff longWord).mpr
  rw [longWord, String.toList_ofList, letters, Unpadded, List.reverse_replicate,
    and_self]
  exact stops_cons (by decide)

theorem length_longWord : longWord.length = 6001 := by
  rw [<- String.length_toList, longWord, String.toList_ofList, letters,
    List.length_replicate]

theorem longWord_kept :
    (storedText longWord).length = 6000 ∧
      KeptText longWord ⟨storedText longWord, true⟩ := by
  constructor
  · rw [length_storedText, strip_longWord, length_longWord]
    rfl
  · have haccepted : normalizeResumeText longWord =
        .ok ⟨storedText longWord, true⟩ := by
      apply normalizeResumeText_eq_ok_iff.mpr
      rw [strip_longWord, length_longWord]
      exact ⟨by decide, rfl, (decide_eq_true (by decide)).symm⟩
    apply (normalizeResumeText_kept_iff haccepted).mpr
    right
    intro c hc
    rw [strip_longWord, longWord, String.toList_ofList] at hc
    have hletter : c = 'a' := List.eq_of_mem_replicate (List.mem_of_getElem? hc)
    rw [hletter]
    decide

/-- A text of 6001 characters whose 6000th is a space. -/
def spaceAtCut : String :=
  String.ofList (letters 5999 ++ [' ', 'b'])

theorem strip_spaceAtCut : strip spaceAtCut = spaceAtCut := by
  apply (strip_eq_self_iff spaceAtCut).mpr
  rw [spaceAtCut, String.toList_ofList, Unpadded, List.reverse_append]
  exact ⟨stops_cons (by decide), stops_cons (by decide)⟩

theorem length_spaceAtCut : spaceAtCut.length = 6001 := by
  rw [<- String.length_toList, spaceAtCut, String.toList_ofList,
    List.length_append, letters, List.length_replicate]
  rfl

theorem spaceAtCut_not_kept :
    normalizeResumeText spaceAtCut = .ok ⟨storedText spaceAtCut, true⟩ ∧
      ¬ KeptText spaceAtCut ⟨storedText spaceAtCut, true⟩ := by
  constructor
  · apply normalizeResumeText_eq_ok_iff.mpr
    rw [strip_spaceAtCut, length_spaceAtCut]
    exact ⟨by decide, rfl, (decide_eq_true (by decide)).symm⟩
  · intro hkept
    rcases (unpadded_storedText_iff spaceAtCut).mp hkept.unpadded with
      hwhole | hlast
    · rw [strip_spaceAtCut, length_spaceAtCut] at hwhole
      exact absurd hwhole (by decide)
    · have hcut : (letters 5999).length = maxResumeTextLength - 1 :=
        List.length_replicate
      have hspace : (strip spaceAtCut).toList[maxResumeTextLength - 1]? =
          some ' ' := by
        rw [strip_spaceAtCut, spaceAtCut, String.toList_ofList,
          List.getElem?_append_right (Nat.le_of_eq hcut), hcut, Nat.sub_self]
        rfl
      exact absurd (hlast ' ' hspace) (by decide)

end CoverAI
