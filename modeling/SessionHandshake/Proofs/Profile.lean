import SessionHandshake.Proofs.Endpoint
import SessionHandshake.Proofs.Identifier
import SessionHandshake.Proofs.Nesting

namespace SessionHandshake

/-!
# Profiles in answers

`Profile.DescribedBy` says in terms of the members of an object which profile the
object describes.  Reading succeeds exactly on an object that describes one,
and gives that profile.
-/

namespace Profile

/-- The members of an object say all that makes up a profile. -/
structure DescribedBy (entries : List (Value × Value)) (profile : Profile) : Prop where
  uuid :
    ∃ id digits,
      Value.member? entries "id" = some id ∧
      Uuid.normalize id = .ok digits ∧
      profile.uuid = .text digits
  username :
    ∃ name,
      Value.member? entries "name" = some (.text name) ∧
      name ≠ [] ∧
      profile.username = .text name
  properties :
    ∃ items,
      profile.properties = .list items ∧
      (Value.member? entries "properties" = none ∧ items = [] ∨
        Value.member? entries "properties" = some (.list items) ∧
          ∀ item ∈ items, item.isMapping = true)

theorem require_eq_ok_iff
    {entries : List (Value × Value)}
    {name : String}
    {value : Value} :
    require entries name = .ok value ↔ Value.member? entries name = some value := by
  unfold require
  cases Value.member? entries name <;> simp

theorem checkName_eq_ok_iff {value : Value} :
    checkName value = .ok () ↔ ∃ name, value = .text name ∧ name ≠ [] := by
  constructor
  · intro checked
    unfold checkName at checked
    split at checked
    · next first rest =>
        exact ⟨first :: rest, rfl, List.cons_ne_nil first rest⟩
    · cases checked
  · rintro ⟨name, rfl, notEmpty⟩
    cases name with
    | nil =>
        exact (notEmpty rfl).elim
    | cons first rest =>
        rfl

theorem checkProperties_eq_ok_iff {stated : Option Value} {items : List Value} :
    checkProperties stated = .ok items ↔
      stated = none ∧ items = [] ∨
        stated = some (.list items) ∧ ∀ item ∈ items, item.isMapping = true := by
  constructor
  · intro checked
    unfold checkProperties at checked
    split at checked
    · cases checked
      exact .inl ⟨rfl, rfl⟩
    · split at checked
      · next allMappings =>
          cases checked
          exact .inr ⟨rfl, List.all_eq_true.mp allMappings⟩
      · cases checked
    · cases checked
  · rintro (⟨rfl, rfl⟩ | ⟨rfl, allMappings⟩)
    · rfl
    · simp only [checkProperties, List.all_eq_true.mpr allMappings, if_true]

/-- A profile is read exactly from an object that describes it. -/
theorem ofAnswer_eq_ok_iff {answer : Value} {profile : Profile} :
    ofAnswer answer = .ok profile ↔
      ∃ entries, answer = .mapping entries ∧ profile.DescribedBy entries := by
  constructor
  · intro read
    cases answer with
    | mapping entries =>
        refine ⟨entries, rfl, ?_⟩
        simp only [ofAnswer, bind_eq_ok_iff, pure_eq_ok_iff, require_eq_ok_iff] at read
        obtain ⟨id, idFound, name, nameFound, _, nameChecked, items, stated, digits, normalized,
          rfl⟩ := read
        obtain ⟨content, rfl, notEmpty⟩ := checkName_eq_ok_iff.mp nameChecked
        exact {
          uuid := ⟨id, digits, idFound, normalized, rfl⟩
          username := ⟨content, nameFound, notEmpty, rfl⟩
          properties := ⟨items, rfl, checkProperties_eq_ok_iff.mp stated⟩ }
    | _ =>
        cases read
  · rintro ⟨entries, rfl, described⟩
    obtain ⟨id, digits, idFound, normalized, uuid⟩ := described.uuid
    obtain ⟨name, nameFound, notEmpty, username⟩ := described.username
    obtain ⟨items, properties, stated⟩ := described.properties
    simp only [ofAnswer, bind_eq_ok_iff, pure_eq_ok_iff, require_eq_ok_iff]
    refine ⟨id, idFound, .text name, nameFound, (), checkName_eq_ok_iff.mpr ⟨name, rfl, notEmpty⟩,
      items, checkProperties_eq_ok_iff.mpr stated, digits, normalized, ?_⟩
    cases profile
    cases uuid
    cases username
    cases properties
    rfl

/-- An identifier that can be shown is normal or is reported as malformed. -/
theorem normalize_error
    {id : Value}
    {fault : Fault}
    (showable : id.IsShowable)
    (failed : Uuid.normalize id = .error fault) :
    ∃ problem, fault = .malformedResponse problem none := by
  cases Uuid.normalize_eq_iff.mp failed with
  | misspelled _ =>
      exact ⟨_, rfl⟩
  | notText _ _ =>
      exact ⟨_, rfl⟩
  | unshowable _ notShowable =>
      exact absurd showable notShowable

/-- Whatever is wrong with an object that can be shown is reported as malformed. -/
theorem ofAnswer_error
    {entries : List (Value × Value)}
    {fault : Fault}
    (showable : Value.AreShowable entries)
    (failed : ofAnswer (.mapping entries) = .error fault) :
    ∃ problem cause, fault = .malformedResponse problem cause := by
  have require_error :
      ∀ name other, require entries name = .error other →
        ∃ problem cause, other = .malformedResponse problem cause := by
    intro name other missing
    unfold require at missing
    split at missing
    · cases missing
    · cases missing
      exact ⟨_, _, rfl⟩
  simp only [ofAnswer, bind_eq_error_iff, require_eq_ok_iff] at failed
  rcases failed with noId | ⟨id, idFound, noName | ⟨name, _, badName | ⟨_, _,
    badProperties | ⟨items, _, badId | ⟨digits, _, failed⟩⟩⟩⟩⟩
  · exact require_error "id" fault noId
  · exact require_error "name" fault noName
  · unfold checkName at badName
    split at badName <;> cases badName
    exact ⟨_, _, rfl⟩
  · unfold checkProperties at badProperties
    split at badProperties
    · cases badProperties
    · split at badProperties <;> cases badProperties
      exact ⟨_, _, rfl⟩
    · cases badProperties
      exact ⟨_, _, rfl⟩
  · obtain ⟨problem, isMalformed⟩ := normalize_error (showable.of_find? idFound) badId
    exact ⟨problem, none, isMalformed⟩
  · cases failed

end Profile

/-- A body is the document of an object that says all that makes up a profile. -/
def Value.HoldsProfile (body : Value) (profile : Profile) : Prop :=
  ∃ entries, Json.readBody body = .ok (.mapping entries) ∧ profile.DescribedBy entries

/-- A body holds at most one profile. -/
theorem Value.HoldsProfile.unique
    {body : Value}
    {profile other : Profile}
    (holds : body.HoldsProfile profile)
    (holdsOther : body.HoldsProfile other) :
    profile = other := by
  obtain ⟨entries, read, described⟩ := holds
  obtain ⟨otherEntries, readOther, describedOther⟩ := holdsOther
  cases read.symm.trans readOther
  have found := Profile.ofAnswer_eq_ok_iff.mpr ⟨entries, rfl, described⟩
  have foundOther := Profile.ofAnswer_eq_ok_iff.mpr ⟨entries, rfl, describedOther⟩
  exact Except.ok.inj (found.symm.trans foundOther)

/-- A body that holds a profile is not nested too deep. -/
theorem Value.HoldsProfile.not_nestsTooDeep
    {body : Value}
    {profile : Profile}
    (holds : body.HoldsProfile profile) :
    ¬ body.NestsTooDeep := by
  intro tooDeep
  obtain ⟨entries, read, _⟩ := holds
  cases read.symm.trans tooDeep

theorem Answer.members_eq_ok_iff
    {report : AnswerFault}
    {body : Value}
    {entries : List (Value × Value)} :
    Answer.members report body = .ok entries ↔ Json.readBody body = .ok (.mapping entries) := by
  unfold Answer.members
  split
  · next read =>
      rw [read]
      simp
  · next value notMapping read =>
      rw [read]
      simp only [Except.ok.injEq, reduceCtorEq, false_iff]
      intro isMapping
      exact notMapping entries isMapping
  · next read =>
      rw [read]
      split <;> simp

/-- A body that holds no object is reported in the form asked for, unless it nests too deep. -/
theorem Answer.members_error
    {report : AnswerFault}
    {content : Bytes}
    {fault : Fault}
    (followable : ¬ (Value.bytes content).NestsTooDeep)
    (failed : Answer.members report (.bytes content) = .error fault) :
    ∃ problem cause, fault = report problem cause := by
  unfold Answer.members at failed
  split at failed
  · cases failed
  · cases failed
    exact ⟨_, _, rfl⟩
  · next other unread =>
      rw [if_pos (Value.isBadValue_of_followable followable unread)] at failed
      cases failed
      exact ⟨_, _, rfl⟩

/-- What is nested too deep is not reported in the form that was asked for. -/
theorem Answer.members_of_nestsTooDeep
    {body : Value}
    (tooDeep : body.NestsTooDeep)
    (report : AnswerFault) :
    Answer.members report body = .error .tooDeep := by
  have read : Json.readBody body = .error .tooDeep := tooDeep
  rw [Answer.members, read]
  rfl

namespace Endpoint

section SelectedProfile

variable {entries : List (Value × Value)} {profile : Profile}

/-- The profile of an answer to a log-in is the selected one. -/
theorem loginProfile_eq_ok
    (read : loginProfile entries = .ok profile) :
    ∃ selected,
      Value.member? entries "selectedProfile" = some (.mapping selected) ∧
      profile.DescribedBy selected := by
  unfold loginProfile at read
  split at read
  · next answered isProfile =>
      cases read
      obtain ⟨selected, isSelected, described⟩ := Profile.ofAnswer_eq_ok_iff.mp isProfile
      cases found : Value.member? entries "selectedProfile" with
      | none =>
          rw [found] at isSelected
          cases isSelected
      | some answer =>
          rw [found, Option.getD_some] at isSelected
          exact ⟨selected, congrArg some isSelected, described⟩
  · cases read
  · cases read

/-- The profile of an answer to a renewal is the selected one, if one is selected. -/
theorem renewedProfile_eq_some_iff
    {renewed : Option Profile}
    (read : renewedProfile entries = .ok renewed) :
    renewed = some profile ↔
      ∃ selected,
        Value.member? entries "selectedProfile" = some (.mapping selected) ∧
        profile.DescribedBy selected := by
  have unselected :
      ∀ {answer : Option Value},
        (∀ selected, answer ≠ some (.mapping selected)) →
        ((none : Option Profile) = some profile ↔
          ∃ selected, answer = some (.mapping selected) ∧ profile.DescribedBy selected) := by
    intro answer isNone
    constructor
    · intro isSome
      cases isSome
    · rintro ⟨selected, isSelected, _⟩
      exact (isNone selected isSelected).elim
  unfold renewedProfile at read
  cases found : Value.member? entries "selectedProfile" with
  | none =>
      rw [found] at read
      cases read
      exact unselected fun selected isSelected => nomatch isSelected
  | some answer =>
      rw [found, Option.getD_some] at read
      split at read
      · cases read
        exact unselected fun selected isSelected => nomatch isSelected
      · cases isProfile : Profile.ofAnswer answer with
        | error fault =>
            rw [isProfile] at read
            cases read
        | ok answered =>
            rw [isProfile] at read
            cases read
            constructor
            · intro same
              cases same
              obtain ⟨selected, rfl, described⟩ := Profile.ofAnswer_eq_ok_iff.mp isProfile
              exact ⟨selected, rfl, described⟩
            · rintro ⟨selected, isSelected, described⟩
              cases isSelected
              have isNamed := Profile.ofAnswer_eq_ok_iff.mpr ⟨selected, rfl, described⟩
              cases isProfile.symm.trans isNamed
              rfl

end SelectedProfile

variable {server username serverHash address body : Value}

/-- A question about a join is answered by a profile or by a blank body. -/
theorem hasJoined_read_eq_ok
    {answered : Option Profile}
    (read : (hasJoined server username serverHash address).read (.ok body) = .ok answered) :
    body.isBlankBody = .ok true ∧ answered = none ∨
      body.isBlankBody = .ok false ∧
        ∃ profile, body.HoldsProfile profile ∧ answered = some profile := by
  simp only [hasJoined, bind_eq_ok_iff] at read
  obtain ⟨isBlank, blank, read⟩ := read
  cases isBlank with
  | true =>
      cases read
      exact .inl ⟨blank, rfl⟩
  | false =>
      simp only [Bool.false_eq_true, if_false, bind_eq_ok_iff, pure_eq_ok_iff] at read
      obtain ⟨entries, members, profile, found, same⟩ := read
      obtain ⟨_, sameEntries, described⟩ := Profile.ofAnswer_eq_ok_iff.mp found
      cases sameEntries
      exact .inr ⟨blank, profile,
        ⟨entries, Answer.members_eq_ok_iff.mp members, described⟩, same.symm⟩

/-- A body that is not blank and holds a profile is read as this profile. -/
theorem hasJoined_read_of_holdsProfile
    {profile : Profile}
    (notBlank : body.isBlankBody = .ok false)
    (holds : body.HoldsProfile profile) :
    (hasJoined server username serverHash address).read (.ok body) = .ok (some profile) := by
  obtain ⟨entries, read, described⟩ := holds
  simp only [hasJoined, bind_eq_ok_iff]
  refine ⟨false, notBlank, ?_⟩
  simp only [Bool.false_eq_true, if_false, bind_eq_ok_iff, pure_eq_ok_iff]
  exact ⟨entries, Answer.members_eq_ok_iff.mpr read, profile,
    Profile.ofAnswer_eq_ok_iff.mpr ⟨entries, rfl, described⟩, rfl⟩

/-- An answer that can be followed is not usable only if it is malformed and no profile. -/
theorem hasJoined_read_error
    {content : Bytes}
    {fault : Fault}
    (followable : ¬ (Value.bytes content).NestsTooDeep)
    (failed :
      (hasJoined server username serverHash address).read (.ok (.bytes content)) =
        .error fault) :
    (Value.bytes content).isBlankBody = .ok false ∧
      (∀ profile, ¬ (Value.bytes content).HoldsProfile profile) ∧
      ∃ problem cause, fault = .malformedResponse problem cause := by
  have noProfile :
      (Value.bytes content).isBlankBody = .ok false →
      ∀ profile, ¬ (Value.bytes content).HoldsProfile profile := by
    intro notBlank profile holds
    cases failed.symm.trans (hasJoined_read_of_holdsProfile notBlank holds)
  simp only [hasJoined, bind_eq_error_iff] at failed
  rcases failed with notAsked | ⟨isBlank, blank, failed⟩
  · cases notAsked
  · cases isBlank with
    | true =>
        cases failed
    | false =>
        refine ⟨blank, noProfile blank, ?_⟩
        simp only [Bool.false_eq_true, if_false, bind_eq_error_iff] at failed
        rcases failed with noMembers | ⟨entries, members, noProfile | ⟨_, _, failed⟩⟩
        · exact Answer.members_error followable noMembers
        · have showable :=
            Json.readBytes_isShowable (Answer.members_eq_ok_iff.mp members)
          exact Profile.ofAnswer_error (Value.isShowable_mapping.mp showable) noProfile
        · cases failed

/-- An answer that is not blank and nested too deep fails for this reason. -/
theorem hasJoined_read_of_nestsTooDeep
    (notBlank : body.isBlankBody = .ok false)
    (tooDeep : body.NestsTooDeep) :
    (hasJoined server username serverHash address).read (.ok body) = .error .tooDeep := by
  simp only [hasJoined, notBlank, ok_bind, Bool.false_eq_true, if_false,
    Answer.members_of_nestsTooDeep tooDeep]
  rfl

end Endpoint

/-! ## What answers bring -/

/-- Tokens as answers give them: two texts, of which the access token is not empty. -/
structure Tokens.AreIssued (tokens : Tokens) : Prop where
  accessToken : ∃ content, tokens.accessToken = .text content ∧ content ≠ []
  clientToken : ∃ content, tokens.clientToken = .text content

/-- A profile as answers name it. -/
def Profile.IsNamed (profile : Profile) : Prop :=
  ∃ entries, profile.DescribedBy entries

theorem Answer.areIssued_of_tokens
    {report : AnswerFault}
    {entries : List (Value × Value)}
    {requestUser : Value}
    {issued : Tokens}
    (found : tokens report entries requestUser = .ok issued) :
    issued.AreIssued := by
  obtain ⟨access, client, _, notEmpty, _, rfl⟩ := tokens_eq_ok_iff.mp found
  exact ⟨⟨access, rfl, notEmpty⟩, client, rfl⟩

namespace Endpoint

theorem authenticate_read_brings
    {server username password clientToken requestUser : Value}
    {outcome : Except Fault Value}
    {tokens : Tokens}
    {profile : Profile}
    (read :
      (authenticate server username password clientToken requestUser).read outcome =
        .ok (tokens, profile)) :
    tokens.AreIssued ∧ profile.IsNamed := by
  cases outcome with
  | error fault =>
      exact (needsBody_authenticate _ _ _ _ _ fault _ read).elim
  | ok body =>
      simp only [authenticate, bind_eq_ok_iff, pure_eq_ok_iff] at read
      obtain ⟨entries, _, issued, isIssued, selectedProfile, found, same⟩ := read
      cases same
      obtain ⟨selected, _, described⟩ := loginProfile_eq_ok found
      exact ⟨Answer.areIssued_of_tokens isIssued, selected, described⟩

theorem refresh_read_brings
    {server accessToken clientToken requestUser : Value}
    {outcome : Except Fault Value}
    {tokens : Tokens}
    {renewed : Option Profile}
    (read :
      (refresh server accessToken clientToken requestUser).read outcome = .ok (tokens, renewed)) :
    tokens.AreIssued ∧ ∀ profile, renewed = some profile → profile.IsNamed := by
  cases outcome with
  | error fault =>
      exact (needsBody_refresh _ _ _ _ fault _ read).elim
  | ok body =>
      simp only [refresh, bind_eq_ok_iff, pure_eq_ok_iff] at read
      obtain ⟨entries, _, issued, isIssued, selectedProfile, found, same⟩ := read
      cases same
      refine ⟨Answer.areIssued_of_tokens isIssued, fun profile isRenewed => ?_⟩
      obtain ⟨selected, _, described⟩ := (renewedProfile_eq_some_iff found).mp isRenewed
      exact ⟨selected, described⟩

theorem hasJoined_read_brings
    {server username serverHash address : Value}
    {outcome : Except Fault Value}
    {profile : Profile}
    (read : (hasJoined server username serverHash address).read outcome = .ok (some profile)) :
    profile.IsNamed := by
  cases outcome with
  | error fault =>
      exact (needsBody_hasJoined _ _ _ _ fault _ read).elim
  | ok body =>
      rcases hasJoined_read_eq_ok read with ⟨_, none⟩ | ⟨_, named, ⟨entries, _, described⟩, some⟩
      · cases none
      · cases some
        exact ⟨entries, described⟩

end Endpoint

end SessionHandshake
