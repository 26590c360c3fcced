import SessionHandshake.Proofs.Wire

namespace SessionHandshake

/-!
# Questions about a join

Whether the session server can be asked about a join has nothing to do with the
hash that is asked about.  The hash stands in the query of an address, behind
everything that decides whether the address can be reached; at most the words
for an address that cannot be reached repeat it.
-/

namespace Address

/-! ## In front of a query -/

/-- The mark in front of a query. -/
def queryMark : CodePoint := CodePoint.ofChar '?'

/-- A scheme ends before the query begins. -/
theorem splitScheme_append_queryMark (front : Text) :
    ∃ remaining : Text,
      ∀ tail, (splitScheme (front ++ queryMark :: tail)).2 = remaining ++ queryMark :: tail := by
  by_cases hasColon : CodePoint.ofChar ':' ∈ front
  · obtain ⟨before, after, rfl, noColon⟩ := List.eq_append_cons_of_mem hasColon
    have split (tail : Text) :
        Text.splitAtFirst (CodePoint.ofChar ':')
            (before ++ CodePoint.ofChar ':' :: after ++ queryMark :: tail) =
          (before, some (after ++ queryMark :: tail)) := by
      rw [List.append_assoc, List.cons_append]
      exact Text.splitAtFirst_append noColon _
    cases isScheme : before.head?.any CodePoint.isLetter && before.all isSchemePoint with
    | true =>
        refine ⟨after, fun tail => ?_⟩
        rw [splitScheme, split]
        simp only [isScheme, if_true]
    | false =>
        refine ⟨before ++ CodePoint.ofChar ':' :: after, fun tail => ?_⟩
        rw [splitScheme, split]
        simp only [isScheme, Bool.false_eq_true, if_false]
  -- The first colon, if there is one, stands behind the mark, and no scheme has the mark in it.
  · refine ⟨front, fun tail => ?_⟩
    have marked :
        (Text.splitAtFirst (CodePoint.ofChar ':') (front ++ queryMark :: tail)).1 =
          front ++ queryMark ::
            (Text.splitAtFirst (CodePoint.ofChar ':') tail).1 := by
      rw [Text.splitAtFirst_append_left hasColon]
      rfl
    rw [splitScheme]
    rcases split : Text.splitAtFirst (CodePoint.ofChar ':') (front ++ queryMark :: tail) with
      ⟨scheme, _ | rest⟩
    · rfl
    · rw [split] at marked
      have notPoint : isSchemePoint queryMark = false := by decide
      have noScheme : scheme.all isSchemePoint = false := by
        have isFront :
            scheme =
              front ++ queryMark :: (Text.splitAtFirst (CodePoint.ofChar ':') tail).1 :=
          marked
        rw [isFront, List.all_append, List.all_cons, notPoint, Bool.false_and, Bool.and_false]
      simp only [noScheme, Bool.and_false, Bool.false_eq_true, if_false]

/-- The host that is asked stands before the query. -/
theorem authorityIn_append_queryMark (front : Text) :
    ∃ authority, ∀ tail, authorityIn (front ++ queryMark :: tail) = authority := by
  have seen (tail : Text) :
      visible (front ++ queryMark :: tail) =
        ((front.dropWhile fun point => point.value ≤ 0x20).filter fun point =>
            !isInvisible point) ++
          queryMark :: tail.filter fun point => !isInvisible point := by
    rw [visible, Text.dropWhile_append_stop (by decide), List.filter_append,
      List.filter_cons_of_pos (by decide)]
  obtain ⟨remaining, split⟩ :=
    splitScheme_append_queryMark
      ((front.dropWhile fun point => point.value ≤ 0x20).filter fun point => !isInvisible point)
  refine ⟨((remaining.dropPrefix? "//").map fun rest =>
    rest.takeWhile fun point => !point.isOneOf "/?#").getD [], fun tail => ?_⟩
  rw [authorityIn, seen, split, Text.dropPrefix?_append_stop (by decide)]
  cases remaining.dropPrefix? "//" with
  | none =>
      rfl
  | some rest =>
      exact Text.takeWhile_append_stop (by decide) rest _

/-- Whether requests can be sent somewhere is decided in front of the query. -/
theorem isSupported_append_queryMark (front tail : Text) :
    isSupported (front ++ queryMark :: tail) = isSupported front := by
  have lowered :
      Text.asciiLowercase (front ++ queryMark :: tail) =
        front.asciiLowercase ++ queryMark :: tail.asciiLowercase := by
    have kept : Text.lowerPoint queryMark = queryMark := by decide
    rw [Text.asciiLowercase_eq_map, List.map_append, List.map_cons, kept,
      ← Text.asciiLowercase_eq_map, ← Text.asciiLowercase_eq_map]
  have secure : queryMark ∉ Text.ofString "https://" := by decide
  have insecure : queryMark ∉ Text.ofString "http://" := by decide
  simp only [isSupported, lowered, Text.startsWith_append_stop secure,
    Text.startsWith_append_stop insecure]

/-! ## Addresses that differ behind the mark -/

/-- Two addresses that are the same, or differ in nothing in front of a query. -/
inductive AlikeInFront : Text → Text → Prop where
  | same (url : Text) :
      AlikeInFront url url
  | asking (front rest otherRest : Text) :
      AlikeInFront (front ++ queryMark :: rest) (front ++ queryMark :: otherRest)

/-- Two faults that are the same, or both say that a request never got an answer. -/
inductive UnreachedAlike : Fault → Fault → Prop where
  | same (fault : Fault) :
      UnreachedAlike fault fault
  | unreachable (message otherMessage : Text) :
      UnreachedAlike (.unreachable message) (.unreachable otherMessage)

/-- A request can be sent to both addresses, or to neither. -/
theorem checkSent_alike {one other : Text} (alike : AlikeInFront one other) :
    OutcomesAlike UnreachedAlike (fun _ _ => True) (checkSent one) (checkSent other) := by
  cases alike with
  | same url =>
      exact .self .same fun _ _ => trivial
  | asking front rest otherRest =>
      obtain ⟨authority, stands⟩ := authorityIn_append_queryMark front
      rw [checkSent, checkSent, stands, stands, isSupported_append_queryMark,
        isSupported_append_queryMark]
      split
      · exact .error (.same _)
      · split
        · exact .error (.same _)
        · split
          · exact .ok trivial
          · exact .error (.unreachable _ _)

end Address

/-! ## The field of the hash -/

theorem Text.exists_joined (before after : List Text) :
    ∃ front tail : Text,
      ∀ part, Text.joined "&" (before ++ part :: after) = front ++ (part ++ tail) := by
  induction before with
  | nil =>
      cases after with
      | nil =>
          exact ⟨[], [], fun part => (List.append_nil part).symm⟩
      | cons next others =>
          exact ⟨[], Text.ofString "&" ++ Text.joined "&" (next :: others), fun part =>
            List.append_assoc part _ _⟩
  | cons first rest inductionHypothesis =>
      obtain ⟨front, tail, isJoined⟩ := inductionHypothesis
      refine ⟨first ++ Text.ofString "&" ++ front, tail, fun part => ?_⟩
      have restJoined :
          Text.joined "&" (first :: (rest ++ part :: after)) =
            first ++ Text.ofString "&" ++ Text.joined "&" (rest ++ part :: after) := by
        cases rest <;> rfl
      rw [List.cons_append, restJoined, isJoined, List.append_assoc _ front]

namespace Query

/-- The mark between a name and its value. -/
def valueMark : CodePoint := CodePoint.ofChar '='

/-- The query of parameters with a hash among them: the hash stands behind the mark of its field. -/
theorem ofParameters_joinParameters (hasQuery : Bool) (username address : Value) :
    ∃ query : Except Fault (Text × Text),
      ∀ hash : Text, hash.IsScalar →
        ofParameters hasQuery
            (Endpoint.object (Endpoint.joinParameters username (.text hash) address)) =
          query.map fun around =>
            around.1 ++ valueMark :: (encode (hash.flatMap CodePoint.utf8) ++ around.2) := by
  -- Whether the fields around the hash can be written does not depend on the hash.
  let last := if address.isNull then [] else [(Value.ofString "ip", address)]
  have written (hash : Text) (isScalar : hash.IsScalar) :
      ofParameters hasQuery
          (Endpoint.object (Endpoint.joinParameters username (.text hash) address)) = (do
        let first ← parts (Value.ofString "username") username
        let others ← last.mapM fun entry => parts entry.1 entry.2
        return Text.joined "&" (first ++ field "serverId" hash :: others.flatten)) := by
    have entries :
        Endpoint.object (Endpoint.joinParameters username (.text hash) address) =
          .mapping ((Value.ofString "username", username) ::
            (.text "serverId", .text hash) :: last) := by
      simp only [last, Endpoint.joinParameters]
      cases address.isNull <;> rfl
    rw [entries, ofParameters, ofEntries, List.mapM_cons, List.mapM_cons,
      parts_text (Text.isScalar_ofString "serverId") isScalar]
    cases parts (Value.ofString "username") username with
    | error fault =>
        rfl
    | ok first =>
        cases last.mapM fun entry => parts entry.1 entry.2 with
        | error fault =>
            rfl
        | ok others =>
            rfl
  cases isFirst : parts (Value.ofString "username") username with
  | error fault =>
      exact ⟨.error fault, fun hash isScalar => by rw [written hash isScalar, isFirst]; rfl⟩
  | ok first =>
      cases isLast : last.mapM fun entry => parts entry.1 entry.2 with
      | error fault =>
          exact ⟨.error fault, fun hash isScalar => by
            rw [written hash isScalar, isFirst, isLast]; rfl⟩
      | ok others =>
          obtain ⟨front, tail, isJoined⟩ := Text.exists_joined first others.flatten
          let name := encode ((Text.ofString "serverId").flatMap CodePoint.utf8)
          refine ⟨.ok (front ++ name, tail), fun hash isScalar => ?_⟩
          rw [written hash isScalar, isFirst, isLast, ok_bind, ok_bind, isJoined]
          refine congrArg Except.ok ?_
          rw [field, List.append_assoc, List.append_assoc]
          exact (List.append_assoc front name _).symm

end Query

namespace Address

/-! ## Preparing a question -/

/-- An address in its usual form differs in nothing in front of its query if it did so before. -/
theorem normalizeAddress_alike
    {value otherValue : Text}
    (isUsual : Percent.IsUsual value)
    (otherIsUsual : Percent.IsUsual otherValue)
    (before between tail : Text) :
    AlikeInFront
      (Percent.normalizeAddress
        (before ++ queryMark :: (between ++ Query.valueMark :: (value ++ tail))))
      (Percent.normalizeAddress
        (before ++ queryMark :: (between ++ Query.valueMark :: (otherValue ++ tail)))) := by
  have question : Percent.IsMark queryMark := Percent.isMark_of_isOneOf (by decide)
  have equals : Percent.IsMark Query.valueMark := Percent.isMark_of_isOneOf (by decide)
  have sameEscapes {value : Text} (isUsual : Percent.IsUsual value) :
      Percent.hasFalseEscape
          (before ++ queryMark :: (between ++ Query.valueMark :: (value ++ tail))) =
        (Percent.hasFalseEscape before ||
          (Percent.hasFalseEscape between || Percent.hasFalseEscape tail)) := by
    rw [question.hasFalseEscape_append, equals.hasFalseEscape_append, isUsual.hasFalseEscape_append]
  rw [Percent.normalizeAddress_eq_settled, Percent.normalizeAddress_eq_settled,
    sameEscapes isUsual, sameEscapes otherIsUsual, question.settled_append,
    question.settled_append]
  exact .asking _ _ _

/-- Where the parameters of a query stand in a whole address. -/
theorem assembled_query
    (scheme : Text)
    (authority : Authority)
    (path query fragment front : Text) :
    ∃ before between : Text,
      ∀ after,
        assembled scheme authority path (extendedQuery query (front ++ Query.valueMark :: after))
            fragment =
          before ++ queryMark ::
            (between ++ Query.valueMark :: (after ++ marked "#" fragment)) := by
  have extended :
      ∃ between : Text,
        ∀ after,
          extendedQuery query (front ++ Query.valueMark :: after) =
            between ++ Query.valueMark :: after := by
    cases query with
    | nil =>
        exact ⟨front, fun _ => rfl⟩
    | cons point rest =>
        refine ⟨point :: rest ++ (Text.ofString "&" ++ front), fun after => ?_⟩
        have isMarked :
            marked "&" (front ++ Query.valueMark :: after) =
              Text.ofString "&" ++ (front ++ Query.valueMark :: after) := by
          cases front <;> rfl
        rw [extendedQuery, isMarked]
        simp only [List.isEmpty_cons, Bool.false_eq_true, if_false, List.append_assoc]
  obtain ⟨between, isExtended⟩ := extended
  refine ⟨scheme ++ Text.ofString "://" ++ authority.written ++
    (if path.startsWith "/" then path else Text.ofString "/" ++ path), between, fun after => ?_⟩
  have isMarked :
      marked "?" (between ++ Query.valueMark :: after) =
        queryMark :: (between ++ Query.valueMark :: after) := by
    cases between <;> rfl
  rw [assembled, isExtended, isMarked]
  simp only [List.append_assoc, List.cons_append]

/-- Addresses whose queries differ in one encoded value are put together alike. -/
theorem complete_alike
    (address : Address)
    (scheme : Text)
    (authority : Authority)
    (front tail : Text)
    {value otherValue : Text}
    (isUsual : Percent.IsUsual value)
    (otherIsUsual : Percent.IsUsual otherValue) :
    OutcomesAlike Eq AlikeInFront
      (complete address scheme authority (front ++ Query.valueMark :: (value ++ tail)))
      (complete address scheme authority (front ++ Query.valueMark :: (otherValue ++ tail))) := by
  have settles (path query fragment : Text) :
      let whole (value : Text) :=
        assembled scheme authority path
          (extendedQuery query (front ++ Query.valueMark :: (value ++ tail))) fragment
      OutcomesAlike Eq AlikeInFront
        (if (whole value).any CodePoint.isSurrogate then .error .unencodable
          else .ok (Percent.normalizeAddress (whole value)))
        (if (whole otherValue).any CodePoint.isSurrogate then .error .unencodable
          else .ok (Percent.normalizeAddress (whole otherValue))) := by
    obtain ⟨before, between, stands⟩ := assembled_query scheme authority path query fragment front
    have surrogates :
        (value ++ tail ++ marked "#" fragment).any CodePoint.isSurrogate =
          (otherValue ++ tail ++ marked "#" fragment).any CodePoint.isSurrogate := by
      simp only [List.any_append, Server.any_isSurrogate_of_isUsual isUsual,
        Server.any_isSurrogate_of_isUsual otherIsUsual]
    simp only [stands, List.any_append, List.any_cons] at surrogates ⊢
    rw [surrogates]
    split
    · exact .error rfl
    · rw [List.append_assoc, List.append_assoc]
      exact .ok (normalizeAddress_alike isUsual otherIsUsual before between _)
  unfold complete
  cases isWebScheme scheme with
  | true =>
      exact settles _ _ _
  | false =>
      exact settles _ _ _

section TwoHashes

variable
  (url : Text)
  (username address : Value)
  {hash otherHash : Text}
  (isScalar : hash.IsScalar)
  (otherIsScalar : otherHash.IsScalar)
include isScalar otherIsScalar

theorem prepareHost_alike (parts : Address) (scheme : Text) (authority : Authority) :
    OutcomesAlike Eq AlikeInFront
      (prepareHost url parts scheme authority
        (Endpoint.object (Endpoint.joinParameters username (.text hash) address)))
      (prepareHost url parts scheme authority
        (Endpoint.object (Endpoint.joinParameters username (.text otherHash) address))) := by
  obtain ⟨query, written⟩ :=
    Query.ofParameters_joinParameters (!(parts.query.getD []).isEmpty) username address
  simp only [prepareHost, written hash isScalar, written otherHash otherIsScalar]
  refine .bind_self (fun _ => rfl) fun host => ?_
  cases query with
  | error fault =>
      exact .error rfl
  | ok around =>
      exact complete_alike _ _ _ around.1 around.2 (Query.isUsual_encode _)
        (Query.isUsual_encode _)

/-- The same question about two hashes is prepared alike. -/
theorem prepare_alike :
    OutcomesAlike Eq AlikeInFront
      (prepare url (Endpoint.object (Endpoint.joinParameters username (.text hash) address)))
      (prepare url
        (Endpoint.object (Endpoint.joinParameters username (.text otherHash) address))) := by
  simp only [prepare]
  split
  · exact .ok (.same _)
  · unfold prepareWeb
    refine .bind_self (fun _ => rfl) fun authority => ?_
    split
    · exact .error rfl
    · exact .error rfl
    · exact prepareHost_alike _ username address isScalar otherIsScalar _ _ _

/-- The session server can be asked about both hashes, or about neither. -/
theorem reached_alike :
    OutcomesAlike UnreachedAlike (fun _ _ => True)
      (reached url (Endpoint.object (Endpoint.joinParameters username (.text hash) address)))
      (reached url
        (Endpoint.object (Endpoint.joinParameters username (.text otherHash) address))) := by
  have sameFault {first second : Fault} (same : first = second) : UnreachedAlike first second :=
    same ▸ .same first
  have prepared :=
    (prepare_alike url username address isScalar otherIsScalar).mono sameFault id
  exact prepared.bind fun alike => (checkSent_alike alike).bind fun _ => .ok trivial

end TwoHashes

end Address

end SessionHandshake
